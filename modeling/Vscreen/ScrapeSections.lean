import Mathlib.Data.List.Forall2
import Mathlib.Data.List.Nodup
import Vscreen.Bytes
import Vscreen.PageStore
import Vscreen.ScrapeTabs
import Vscreen.TextParts

/-! The sections of `scrape_and_create` (synthesis.rs): their ids, made of the labels, and
the articles pushed to them by id (pages.ts). -/
namespace Vscreen.Synthesis
open Text Pages
open Json (unitsOf)

/-- `char::is_alphanumeric`, with what every version of Unicode says about ASCII. -/
structure Alphabet where
  isAlphanumeric : Char → Bool
  ascii : ∀ c, c.toNat < 128 → isAlphanumeric c = c.isAlphanum

def Alphabet.latin : Alphabet := ⟨Char.isAlphanum,fun _ _ => rfl⟩

structure SynthesisScrapeUrlEntry where
  url : Text
  limit : Option UInt64
  sourceLabel : Option Text

section Ids
variable (u : CaseMapping) (a : Alphabet)

def dashed (c : Char) : Char := if a.isAlphanumeric c then c else '-'

def trimDashes (s : Text) : Text := (s.dropWhile (· = '-')).rdropWhile (· = '-')

def sectionId (i : Nat) (entry : SynthesisScrapeUrlEntry) : Text :=
  let label := entry.sourceLabel.getD "source".toList
  let slug := trimDashes ((u.toLowercase label).map (dashed a))
  if slug.isEmpty then "source-".toList ++ decimal i else slug

def sectionIds (urls : List SynthesisScrapeUrlEntry) : List Text := urls.mapIdx (sectionId u a)

def sectionWith (component : Option Text) (id : Text) (entry : SynthesisScrapeUrlEntry) (data : List Js) : Js :=
  .object (JsObject.literal [(js "id",some (.string (unitsOf id))),
    (js "component",some (.string (unitsOf (component.getD "card-grid".toList)))),
    (js "title",some (.string (unitsOf (entry.sourceLabel.getD "Source".toList)))),(js "data",some (.array data))])

def emptySections (component : Option Text) (urls : List SynthesisScrapeUrlEntry) : List Js :=
  urls.mapIdx fun i entry => sectionWith component (sectionId u a i entry) entry []

structure Push where
  index : Nat
  data : List Js
  now : Json.Units

def pushArticles (urls : List SynthesisScrapeUrlEntry) (pageId : Json.Units) (s : Store) (p : Push) :
    Except JsError Store := match (sectionIds u a urls)[p.index]? with
  | none => .ok s
  | some id => (pushData s pageId (unitsOf id) p.data p.now).map Prod.fst

def pushAll (urls : List SynthesisScrapeUrlEntry) (pageId : Json.Units) : Store → List Push → Except JsError Store
  | s,[] => .ok s
  | s,p::rest => match pushArticles u a urls pageId s p with
    | .error e => .error e
    | .ok s' => pushAll urls pageId s' rest

def pushedFor (i : Nat) (pushes : List Push) : List Js :=
  pushes.flatMap fun p => if p.index = i then p.data else []

def holds (s : Store) (pageId : Json.Units) (sections : List Js) : Prop :=
  ∃ page, s.getPage pageId = some page ∧ JsObject.get page (js "sections") = some (.array sections)

/-- No two sections have one id, and what is pushed for a URL comes to its section and to
no other, whatever the order of the pushes. -/
structure Unmixed (urls : List SynthesisScrapeUrlEntry) : Prop where
  distinct : (sectionIds u a urls).Nodup
  lands : ∀ (component : Option Text) (pageId : Json.Units) (s : Store) (pushes : List Push),
    holds s pageId (emptySections u a component urls) → ∃ s', pushAll u a urls pageId s pushes = .ok s' ∧
      holds s' pageId (urls.mapIdx fun i entry =>
        sectionWith component (sectionId u a i entry) entry (pushedFor i pushes))

/-- The lower case of a name from its first letter or digit to its last. -/
def core (name : Text) : Text :=
  ((u.toLowercase name).dropWhile fun c => !a.isAlphanumeric c).rdropWhile fun c => !a.isAlphanumeric c

def sectionName (i : Nat) (entry : SynthesisScrapeUrlEntry) : Text :=
  let label := entry.sourceLabel.getD "source".toList
  if (u.toLowercase label).any a.isAlphanumeric then label else "source-".toList ++ decimal i

/-- Letters and digits agree, and other characters stand where there are others. -/
def Alike (name name' : Text) : Prop :=
  List.Forall₂ (fun c d => c = d ∨ a.isAlphanumeric c = false ∧ a.isAlphanumeric d = false) (core u a name)
    (core u a name')

def NamesApart (urls : List SynthesisScrapeUrlEntry) : Prop :=
  (urls.mapIdx (sectionName u a)).Pairwise fun name name' => ¬ Alike u a name name'

end Ids

section Slugs
variable {u : CaseMapping} {a : Alphabet}

theorem dashPlain : a.isAlphanumeric '-' = false := a.ascii '-' (by decide)

theorem letterOther {c : Char} (alphanumeric : a.isAlphanumeric c = true) : c ≠ '-' := by
  rintro rfl
  rw [dashPlain] at alphanumeric
  cases alphanumeric

theorem dashedLetter {c : Char} (alphanumeric : a.isAlphanumeric c = true) : dashed a c = c := if_pos alphanumeric

theorem dashedOther {c : Char} (other : a.isAlphanumeric c = false) : dashed a c = '-' := by
  rw [dashed,other]
  rfl

theorem dashedDash (c : Char) : decide (dashed a c = '-') = !a.isAlphanumeric c := by
  cases alphanumeric : a.isAlphanumeric c with
  | false => simp [dashedOther alphanumeric]
  | true => simp [dashedLetter alphanumeric,letterOther alphanumeric]

theorem dashedSame (c d : Char) :
    dashed a c = dashed a d ↔ c = d ∨ a.isAlphanumeric c = false ∧ a.isAlphanumeric d = false := by
  constructor
  · intro same
    cases first : a.isAlphanumeric c <;> cases second : a.isAlphanumeric d
    · exact .inr ⟨rfl,rfl⟩
    · rw [dashedOther first,dashedLetter second] at same
      exact absurd same.symm (letterOther second)
    · rw [dashedLetter first,dashedOther second] at same
      exact absurd same (letterOther first)
    · rw [dashedLetter first,dashedLetter second] at same
      exact .inl same
  · rintro (rfl | ⟨first,second⟩)
    · rfl
    · rw [dashedOther first,dashedOther second]

theorem trimDashed (s : Text) : trimDashes (s.map (dashed a)) =
    ((s.dropWhile fun c => !a.isAlphanumeric c).rdropWhile fun c => !a.isAlphanumeric c).map (dashed a) := by
  have same : (fun c => decide (c = '-')) ∘ dashed a = fun c => !a.isAlphanumeric c := funext dashedDash
  rw [trimDashes,List.dropWhile_map,same,List.rdropWhile,← List.map_reverse,List.dropWhile_map,same,← List.map_reverse,
    List.rdropWhile]

theorem coreEmpty {name : Text} : core u a name = [] ↔ (u.toLowercase name).any a.isAlphanumeric = false := by
  rw [core,List.rdropWhile_eq_nil_iff,List.any_eq_false]
  constructor
  · intro trailing c member
    have empty : ((u.toLowercase name).dropWhile fun c => !a.isAlphanumeric c) = [] := by
      by_contra some
      have first := List.head_dropWhile_not _ some
      rw [trailing _ (List.head_mem some)] at first
      cases first
    simpa using List.dropWhile_eq_nil_iff.mp empty c member
  · intro none c member
    rw [Bool.not_eq_true',← Bool.not_eq_true]
    exact none c ((List.dropWhile_sublist _).subset member)

theorem sectionSlug (label : Text) :
    trimDashes ((u.toLowercase label).map (dashed a)) = (core u a label).map (dashed a) := trimDashed _

def Plain (c : Char) : Prop := c.toNat < 128 ∧ c.toLower = c ∧ (c.isAlphanum = true ∨ c = '-')

theorem digitPlain {c : Char} (digit : c.isDigit = true) : Plain c ∧ c.isAlphanum = true := by
  have small : c.toNat < 128 := by
    simp only [Char.isDigit,Bool.and_eq_true,decide_eq_true_eq] at digit
    exact Nat.lt_of_le_of_lt (UInt32.le_iff_toNat_le.mp digit.2) (by decide)
  obtain ⟨same,letter⟩ := forallAscii (p := fun c => c.isDigit = true → c.toLower = c ∧ c.isAlphanum = true) (by decide)
    c small digit
  exact ⟨⟨small,same,.inl letter⟩,letter⟩

theorem plainKept {s : Text} (plain : ∀ c ∈ s, Plain c) : u.toLowercase s = s ∧ s.map (dashed a) = s := by
  constructor
  · rw [loweredAscii fun c member => (plain c member).1,lowered]
    exact (List.map_congr_left fun c member => (plain c member).2.1).trans (List.map_id s)
  · refine (List.map_congr_left fun c member => ?_).trans (List.map_id s)
    obtain ⟨small,-,letter | rfl⟩ := plain c member
    · exact dashedLetter ((a.ascii c small).trans letter)
    · exact dashedOther dashPlain

theorem sourceCore (i : Nat) : (core u a ("source-".toList ++ decimal i)).map (dashed a) =
    "source-".toList ++ decimal i := by
  have digits : ∀ c ∈ decimal i, c.isDigit = true := fun c member =>
    Nat.isDigit_of_mem_toDigits (by decide) (by decide) member
  have word : ∀ c ∈ "source-".toList, c.toNat < 128 ∧ c.toLower = c ∧ (c.isAlphanum = true ∨ c = '-') :=
    forallListed (by decide)
  obtain ⟨low,kept⟩ := plainKept (u := u) (a := a) (s := "source-".toList ++ decimal i)
    (List.forall_mem_append.mpr ⟨word,fun c member => (digitPlain (digits c member)).1⟩)
  have whole : core u a ("source-".toList ++ decimal i) = "source-".toList ++ decimal i := by
    have first : a.isAlphanumeric 's' = true := a.ascii 's' (by decide)
    obtain ⟨front,last,split⟩ := (List.eq_nil_or_concat' (decimal i)).resolve_left Nat.toDigits_ne_nil
    have letter : a.isAlphanumeric last = true := by
      obtain ⟨⟨small,-⟩,letter⟩ := digitPlain (digits last (by simp [split]))
      exact (a.ascii last small).trans letter
    rw [core,low,show "source-".toList = 's'::"ource-".toList by decide,List.cons_append,
      List.dropWhile_cons_of_neg (by simp [first]),split,← List.append_assoc,← List.cons_append,
      List.rdropWhile_concat_neg _ _ _ (by simp [letter])]
  rw [whole,kept]

theorem sectionIdName (i : Nat) (entry : SynthesisScrapeUrlEntry) :
    sectionId u a i entry = (core u a (sectionName u a i entry)).map (dashed a) := by
  rw [sectionId,sectionName,sectionSlug]
  generalize entry.sourceLabel.getD "source".toList = label
  cases letters : (u.toLowercase label).any a.isAlphanumeric with
  | false =>
    rw [coreEmpty.mpr letters]
    exact (sourceCore i).symm
  | true =>
    refine if_neg fun empty => ?_
    rw [coreEmpty.mp (List.map_eq_nil_iff.mp (List.isEmpty_iff.mp empty))] at letters
    cases letters

theorem sameIds (name name' : Text) :
    (core u a name).map (dashed a) = (core u a name').map (dashed a) ↔ Alike u a name name' := by
  rw [← List.forall₂_eq_eq_eq,List.forall₂_map_left_iff,List.forall₂_map_right_iff,Alike]
  simp only [dashedSame]

theorem idsApart (urls : List SynthesisScrapeUrlEntry) : (sectionIds u a urls).Nodup ↔ NamesApart u a urls := by
  have named : sectionIds u a urls = (urls.mapIdx (sectionName u a)).map fun name => (core u a name).map (dashed a) := by
    refine List.mapIdx_eq_iff.mpr fun i => ?_
    rw [List.getElem?_map,List.getElem?_mapIdx,Option.map_map]
    exact congrArg (Option.map · urls[i]?) (funext fun entry => (sectionIdName i entry).symm)
  rw [named,List.Nodup,List.pairwise_map,NamesApart]
  simp only [ne_eq,sameIds]

end Slugs

theorem textOfUnit (c : Char) (rest : Json.Units) : textOf (Json.utf16 c ++ rest) = c::textOf rest := by
  have valid : c.toNat < 0xD800 ∨ 0xDFFF < c.toNat ∧ c.toNat < 0x110000 := c.valid
  unfold Json.utf16
  by_cases small : c.toNat < 0x10000
  · simp only [small,if_true]
    have low : isHighSurrogate c.toNat = false := by
      simp only [isHighSurrogate,Bool.and_eq_false_iff,decide_eq_false_iff_not]
      omega
    cases rest with
    | nil => simp [textOf]
    | cons v rest => simp [textOf,low]
  · simp only [small,if_false]
    have high : isHighSurrogate (0xD800 + (c.toNat - 0x10000) / 0x400) = true := by
      simp only [isHighSurrogate,Bool.and_eq_true,decide_eq_true_eq]
      omega
    have low : isLowSurrogate (0xDC00 + (c.toNat - 0x10000) % 0x400) = true := by
      simp only [isLowSurrogate,Bool.and_eq_true,decide_eq_true_eq]
      omega
    have whole : 0x10000 + (0xD800 + (c.toNat - 0x10000) / 0x400 - 0xD800) * 0x400 +
        (0xDC00 + (c.toNat - 0x10000) % 0x400 - 0xDC00) = c.toNat := by
      omega
    rw [List.cons_append,List.singleton_append,textOf,high,low,whole,Bool.and_self,if_pos rfl,Char.ofNat_toNat]

theorem textOfUnits (s : Text) : textOf (unitsOf s) = s := by
  induction s with
  | nil => rfl
  | cons c rest ih => rw [unitsOf,List.flatMap_cons,textOfUnit,← unitsOf,ih]

theorem unitsSame {s t : Text} : unitsOf s = unitsOf t ↔ s = t :=
  (Function.LeftInverse.injective textOfUnits).eq_iff

theorem appendAt {id : Json.Units} {data : List Js} (old : List Js) {sections : List Js} {k : Nat} {o : JsObject}
    (found : sections[k]? = some (.object o)) (its : hasId id (.object o) = true)
    (held : JsObject.get o (js "data") = some (.array old))
    (others : ∀ j < k, ∃ o', sections[j]? = some (.object o') ∧ hasId id (.object o') = false) :
    appendData id data sections = .ok (some (sections.set k ((Js.object o).set (js "data") (.array (old ++ data))),
      (Js.object o).set (js "data") (.array (old ++ data)))) := by
  induction sections generalizing k with
  | nil => cases found
  | cons s rest ih =>
    cases k with
    | zero =>
      cases found
      have spread : ((Js.object o).get (js "data")).bind Js.spread = some old := by
        rw [Js.get,held]
        rfl
      simp [appendData,its,spread]
    | succ k =>
      obtain ⟨o',first,other⟩ := others 0 (Nat.succ_pos k)
      cases first
      have later := ih found fun j less => others (j + 1) (Nat.succ_lt_succ less)
      simp [appendData,other,later]

section Sections
variable {u : CaseMapping} {a : Alphabet} {component : Option Text} {urls : List SynthesisScrapeUrlEntry}
  {pageId : Json.Units}

theorem sectionHasId (id id' : Text) (entry : SynthesisScrapeUrlEntry) (data : List Js) :
    hasId (unitsOf id') (sectionWith component id entry data) = decide (id = id') := by
  have held : (sectionWith component id entry data).get (js "id") = some (.string (unitsOf id)) := by
    simp [sectionWith,Js.get]
  rw [hasId,held]
  by_cases same : id = id'
  · simp [same]
  · simpa [same] using fun equal => same (unitsSame.mp equal)

variable (u a component urls) in
def filled (acc : Nat → List Js) : List Js :=
  urls.mapIdx fun i entry => sectionWith component (sectionId u a i entry) entry (acc i)

theorem filledSame {acc acc' : Nat → List Js} (same : ∀ i < urls.length, acc i = acc' i) :
    filled u a component urls acc = filled u a component urls acc' :=
  List.mapIdx_eq_mapIdx_iff.mpr fun i inside => by rw [same i inside]

theorem filledAt (acc : Nat → List Js) {i : Nat} (inside : i < urls.length) :
    (filled u a component urls acc)[i]? =
      some (sectionWith component (sectionId u a i urls[i]) urls[i] (acc i)) := by
  rw [filled,List.getElem?_mapIdx,List.getElem?_eq_getElem inside]
  rfl

theorem appendFilled (distinct : (sectionIds u a urls).Nodup) (acc : Nat → List Js) (data : List Js) {k : Nat}
    {id : Text} (found : (sectionIds u a urls)[k]? = some id) :
    ∃ changed, appendData (unitsOf id) data (filled u a component urls acc) =
      .ok (some (filled u a component urls fun i => acc i ++ if k = i then data else [],changed)) := by
  obtain ⟨inside,its⟩ := List.getElem?_eq_some_iff.mp found
  have short : k < urls.length := by simpa [sectionIds] using inside
  have named (i : Nat) (less : i < urls.length) : (sectionIds u a urls)[i]? = some (sectionId u a i urls[i]) := by
    rw [sectionIds,List.getElem?_mapIdx,List.getElem?_eq_getElem less]
    rfl
  obtain rfl : sectionId u a k urls[k] = id := Option.some.inj ((named k short).symm.trans found)
  have others (j : Nat) (less : j < k) : ∃ o', (filled u a component urls acc)[j]? = some (.object o') ∧
      hasId (unitsOf (sectionId u a k urls[k])) (.object o') = false := by
    refine ⟨_,filledAt acc (less.trans short),?_⟩
    refine (sectionHasId _ _ _ _).trans (decide_eq_false fun same => ?_)
    have twice := (named j (less.trans short)).trans ((congrArg some same).trans (named k short).symm)
    have first : j < (sectionIds u a urls).length := less.trans inside
    exact absurd ((List.getElem?_inj first distinct).mp twice) (Nat.ne_of_lt less)
  refine ⟨sectionWith component (sectionId u a k urls[k]) urls[k] (acc k ++ data),
    (appendAt (acc k) (filledAt acc short) ((sectionHasId _ _ _ _).trans (decide_eq_true rfl))
      rfl others).trans (congrArg (fun sections => Except.ok (some (sections,_))) ?_)⟩
  refine List.ext_getElem? fun i => ?_
  rw [List.getElem?_set]
  split
  · rename_i same
    subst same
    rw [filledAt _ short,if_pos (by simpa [filled] using short),if_pos rfl]
    rfl
  · rename_i other
    simp only [filled,List.getElem?_mapIdx,if_neg other,List.append_nil]

theorem pushFilled (distinct : (sectionIds u a urls).Nodup) {s : Store} {acc : Nat → List Js}
    (held : holds s pageId (filled u a component urls acc)) (p : Push) :
    ∃ s', pushArticles u a urls pageId s p = .ok s' ∧
      holds s' pageId (filled u a component urls fun i => acc i ++ if p.index = i then p.data else []) := by
  obtain ⟨page,found,sections⟩ := held
  rw [pushArticles]
  cases known : (sectionIds u a urls)[p.index]? with
  | none =>
    refine ⟨s,rfl,page,found,sections.trans (congrArg (fun l => some (Js.array l)) (filledSame fun i inside => ?_))⟩
    have beyond : urls.length ≤ p.index := by simpa [sectionIds] using known
    rw [if_neg (by omega),List.append_nil]
  | some id =>
    obtain ⟨changed,appended⟩ : ∃ changed, appendData (unitsOf id) p.data (filled u a component urls acc) =
        .ok (some (filled u a component urls fun i => acc i ++ if p.index = i then p.data else [],changed)) :=
      appendFilled distinct acc p.data known
    simp only [pushData,found,sections,appended]
    refine ⟨_,rfl,withSections page (filled u a component urls fun i => acc i ++ if p.index = i then p.data else []) p.now,
      by simp [Store.getPage,Store.write],?_⟩
    have other : js "updatedAt" ≠ js "sections" := by decide
    simp [withSections,other]

theorem pushedAll (distinct : (sectionIds u a urls).Nodup) (pushes : List Push) {s : Store} {acc : Nat → List Js}
    (held : holds s pageId (filled u a component urls acc)) :
    ∃ s', pushAll u a urls pageId s pushes = .ok s' ∧
      holds s' pageId (filled u a component urls fun i => acc i ++ pushedFor i pushes) := by
  induction pushes generalizing s acc with
  | nil => exact ⟨s,rfl,by simpa [pushedFor] using held⟩
  | cons p rest ih =>
    obtain ⟨s',first,held'⟩ := pushFilled distinct held p
    obtain ⟨s'',later,held''⟩ := ih held'
    refine ⟨s'',by rw [pushAll,first]; exact later,?_⟩
    simpa only [pushedFor,List.flatMap_cons,List.append_assoc] using held''

theorem sectionsApart (u : CaseMapping) (a : Alphabet) (urls : List SynthesisScrapeUrlEntry) :
    Unmixed u a urls ↔ NamesApart u a urls := by
  rw [← idsApart]
  refine ⟨Unmixed.distinct,fun distinct => ⟨distinct,fun component pageId s pushes held => ?_⟩⟩
  have empty : holds s pageId (filled u a component urls fun _ => []) := held
  exact pushedAll distinct pushes empty

end Sections

theorem unlabelledMix :
    (¬ ∀ urls : List SynthesisScrapeUrlEntry, Unmixed .ascii .latin urls) ∧
      sectionIds .ascii .latin [⟨"https://cnn.com".toList,none,none⟩,⟨"https://bbc.com/news".toList,none,none⟩] =
        ["source".toList,"source".toList] ∧
      appendData (js "source") [.bool true] (emptySections .ascii .latin none
        [⟨"https://cnn.com".toList,none,none⟩,⟨"https://bbc.com/news".toList,none,none⟩]) =
        .ok (some ([sectionWith none "source".toList ⟨"https://cnn.com".toList,none,none⟩ [.bool true],
          sectionWith none "source".toList ⟨"https://bbc.com/news".toList,none,none⟩ []],
          sectionWith none "source".toList ⟨"https://cnn.com".toList,none,none⟩ [.bool true])) ∧
      ¬ NamesApart .ascii .latin [⟨"https://cnn.com".toList,none,some "C.N.N".toList⟩,
        ⟨"https://bbc.com/news".toList,none,some "(c-n-n)".toList⟩] := by
  have same : sectionIds .ascii .latin [⟨"https://cnn.com".toList,none,none⟩,⟨"https://bbc.com/news".toList,none,none⟩] =
      ["source".toList,"source".toList] := by decide
  refine ⟨fun all => ?_,same,rfl,fun apart => ?_⟩
  · have distinct := (all [⟨"https://cnn.com".toList,none,none⟩,⟨"https://bbc.com/news".toList,none,none⟩]).distinct
    rw [same] at distinct
    exact absurd distinct (by decide)
  · exact absurd ((idsApart _).mpr apart) (by decide)

end Vscreen.Synthesis
