import Mathlib.Data.List.Flatten
import Vscreen.CssStrings
import Vscreen.ScriptTexts

/-! The other texts in scripts: the text targets of `vscreen_interact`
(workflow_interact.rs) and the URL of a frame in the lookup of its iframe (mcp/mod.rs).
Which texts stay data in which script. -/
namespace Vscreen.ScriptTexts
open Text JavaScript
open FrameSearch (plainUrl)
open Json (Units utf16 unitsOf)

def lf (lines : List String) : Text := lines.flatMap fun line => '\n'::line.toList

def escapeTarget (target : Text) : Text :=
  replaceChar '"' "\\\"".toList (replaceChar '\\' "\\\\".toList target)

def locateHead : Text := "(function()\x7b".toList ++ lf ["  const search = "] ++ ['"']

def locateTail : Text := '"':: ';'::lf ["  const walker = document.createTreeWalker(document.body, NodeFilter.SHOW_TEXT);",
  "  while(walker.nextNode()) \x7b","    if(walker.currentNode.textContent.includes(search)) \x7b",
  "      const el = walker.currentNode.parentElement;","      if (!el) continue;",
  "      const r = el.getBoundingClientRect();","      if (r.width > 0 && r.height > 0) \x7b",
  "        el.scrollIntoView(\x7bbehavior: 'instant', block: 'center', inline: 'nearest'\x7d);",
  "        const r2 = el.getBoundingClientRect();",
  "        return JSON.stringify(\x7bx: r2.left + r2.width/2 + window.scrollX, y: r2.top + r2.height/2 + window.scrollY, found: true\x7d);",
  "      \x7d","    \x7d","  \x7d","  return JSON.stringify(\x7bfound: false\x7d);","\x7d)()"]

def locateJs (target : Text) : Text := locateHead ++ escapeTarget target ++ locateTail

def scrollHead : Text := "(function() \x7b".toList ++ lf ["    const search = "] ++ ['"']

def scrollTail : Text := '"':: ';'::lf ["    const walker = document.createTreeWalker(document.body, NodeFilter.SHOW_TEXT);",
  "    while(walker.nextNode()) \x7b","        if(walker.currentNode.textContent.includes(search)) \x7b",
  "            const el = walker.currentNode.parentElement;",
  "            if (el && el.getBoundingClientRect().width > 0) \x7b",
  "                el.scrollIntoView(\x7bbehavior: 'instant', block: 'center', inline: 'nearest'\x7d);",
  "                return JSON.stringify(\x7bok: true\x7d);","            \x7d","        \x7d","    \x7d",
  "    return JSON.stringify(\x7berror: 'Element not found'\x7d);","\x7d)()"]

def scrollJs (target : Text) : Text := scrollHead ++ escapeTarget target ++ scrollTail

def writeTarget (c : Char) : Text :=
  if c = '\\' then "\\\\".toList else if c = '"' then "\\\"".toList else [c]

theorem targetWritten (s : Text) : escapeTarget s = s.flatMap writeTarget := by
  simp only [escapeTarget,replaceChar,List.flatMap_assoc]
  refine congrArg (List.flatMap · s) (funext fun c => ?_)
  by_cases backslash : c = '\\'
  · subst backslash
    decide
  by_cases double : c = '"'
  · subst double
    decide
  simp only [writeTarget,backslash,double,if_false,List.flatMap_singleton]

theorem targetRead {c : Char} (line : c ≠ '\n' ∧ c ≠ '\r') (value : Units) :
    readText '"' value .none (writeTarget c) = .more (value ++ utf16 c) .none := by
  by_cases backslash : c = '\\'
  · subst backslash
    rfl
  by_cases double : c = '"'
  · subst double
    rfl
  rw [writeTarget,if_neg backslash,if_neg double,readText,readPlainChar ⟨double,backslash,line⟩]
  rfl

section Targets
variable (goal : List Element → Bool)

theorem targetBroken (sh : List Element) (br : List Nat) {s : Text} (lines : ¬ ∀ c ∈ s, c ≠ '\n' ∧ c ≠ '\r') (rest : Text) :
    lexFrom goal ⟨sh,br,.string '"' [] .none⟩ (s.flatMap writeTarget ++ rest) = [.error] := by
  obtain ⟨a,c,b,rfl,broken,apart⟩ := firstOther lines
  have breaks : c = '\n' ∨ c = '\r' := by
    rw [← not_ne_iff (a := c),← not_ne_iff (a := c),← not_and_or]
    exact broken
  have other : c ≠ '"' := by rcases breaks with rfl | rfl <;> decide
  have written : writeTarget c = [c] := by rcases breaks with rfl | rfl <;> rfl
  have each : ∀ d ∈ a, ∀ value, readText '"' value .none (writeTarget d) = .more (value ++ utf16 d) .none :=
    fun d member => targetRead (apart d member)
  rw [List.flatMap_append,List.flatMap_cons,written,List.append_assoc,List.append_assoc,List.singleton_append,
    lexBroken goal sh br each other breaks]

theorem targetCode {before : Text} (plain : ∀ c ∈ before, c ∉ ['/','"','\'','\x60','\x7d']) (rest : Text) :
    ∃ pre post, ∀ s : Text,
      lex goal ((before ++ ['"']) ++ escapeTarget s ++ '"'::rest) = pre ++ .string (unitsOf s)::post ↔ '\n' ∉ s ∧ '\r' ∉ s := by
  obtain ⟨sh,br,opened⟩ := scanOpens goal (k := .start) rfl plain (.inl rfl)
  refine ⟨(scan goal .start (before ++ ['"'])).1,lexFrom goal ⟨.string []::sh,br,.code⟩ rest,fun s => ?_⟩
  have lines : (∀ c ∈ s, c ≠ '\n' ∧ c ≠ '\r') ↔ '\n' ∉ s ∧ '\r' ∉ s := by
    simp only [forall_and,List.forall_mem_ne']
  rw [← lines,List.append_assoc,lex,lexAppend,opened,targetWritten,List.append_cancel_left_eq]
  by_cases line : ∀ c ∈ s, c ≠ '\n' ∧ c ≠ '\r'
  · rw [lexWritten goal sh br fun c member => targetRead (line c member)]
    exact iff_of_true rfl line
  · rw [targetBroken goal sh br line]
    refine iff_of_false (fun same => ?_) line
    cases same

end Targets

def selectorHead : Text := "iframe[src*=\"".toList

def rectHead : Text := "(function()\x7bconst f=document.querySelector(".toList ++ ['\'']

def rectTail : Text :=
  ")||document.querySelectorAll('iframe')[0];if(!f)return null;const r=f.getBoundingClientRect();return JSON.stringify(\x7bx:r.left+window.scrollX,y:r.top+window.scrollY\x7d)\x7d)()".toList

def rectJs (frameUrl : Text) : Text :=
  rectHead ++ selectorHead ++ replaceChar '"' [] frameUrl ++ "\"]'".toList ++ rectTail

def selectorText (selector : Units) : Option Units :=
  let units := Css.preprocess selector
  let head := unitsOf selectorHead
  if head <+: units then match Css.readString 34 [] .none (units.drop head.length) with
    | some (text,rest) => if rest = [] ∨ rest = [93] then some text else none
    | none => none
  else none

theorem selectorSome {selector text : Units} (out : selectorText selector = some text) : ∃ r rest,
    Css.preprocess selector = unitsOf selectorHead ++ r ∧ Css.readString 34 [] .none r = some (text,rest) := by
  simp only [selectorText] at out
  split at out
  · rename_i leads
    obtain ⟨r,whole⟩ := leads
    rw [← whole,List.drop_left] at out
    split at out
    · rename_i read
      split at out
      · cases out
        exact ⟨r,_,whole.symm,read⟩
      · cases out
    · cases out
  · cases out

theorem selectorRead {selector r text : Units} (whole : Css.preprocess selector = unitsOf selectorHead ++ r)
    (read : Css.readString 34 [] .none r = some (text,[93])) : selectorText selector = some text := by
  unfold selectorText
  generalize Css.preprocess selector = units at whole
  subst whole
  simp only [List.prefix_append,if_true,List.drop_left,read]
  rfl

theorem selectorHeadUnits (s : Units) :
    Css.preprocess (unitsOf selectorHead ++ s) = unitsOf selectorHead ++ Css.preprocess s := rfl

theorem unquoted (url : Text) : replaceChar '"' [] url = url.filter (· ≠ '"') := by
  induction url with
  | nil => rfl
  | cons c url ih =>
    rw [replaceChar,List.flatMap_cons,← replaceChar,ih]
    by_cases double : c = '"'
    · rw [if_pos double,List.filter_cons_of_neg (by simpa using double)]
      rfl
    · rw [if_neg double,List.filter_cons_of_pos (by simpa using double)]
      rfl

theorem unquotedFree {url : Text} : '"' ∉ replaceChar '"' [] url := by
  rw [unquoted,List.mem_filter]
  exact fun member => of_decide_eq_true member.2 rfl

theorem unquotedSame {url : Text} : replaceChar '"' [] url = url ↔ '"' ∉ url := by
  rw [unquoted,List.filter_eq_self]
  exact ⟨fun all member => of_decide_eq_true (all _ member) rfl,
    fun free c member => decide_eq_true fun double => free (double ▸ member)⟩

theorem unquotedLength (url : Text) : (unitsOf (replaceChar '"' [] url)).length ≤ (unitsOf url).length ∧
    ('"' ∈ url → (unitsOf (replaceChar '"' [] url)).length < (unitsOf url).length) := by
  have sub : (unitsOf (replaceChar '"' [] url)).Sublist (unitsOf url) := by
    rw [unquoted]
    exact List.filter_sublist.flatMap _
  refine ⟨sub.length_le,fun double => lt_of_le_of_ne sub.length_le fun same => ?_⟩
  exact unquotedSame.mp (Synthesis.unitsSame.mp (sub.eq_of_length same)) double

theorem plainChars {url : Text} : plainUrl url ↔ ∀ c ∈ url, c ∉ ['\'','\\','\n','\r','\x0c','\x00'] := by
  simp only [plainUrl,List.all_eq_true,Bool.not_eq_true',List.contains_eq_mem,decide_eq_false_iff_not]

theorem solidEnd : Solid '\'' ']' ∧ Solid '\'' '"' :=
  ⟨⟨⟨by decide,by decide,by decide,by decide⟩,by decide,by decide,fun _ => rfl⟩,
    ⟨⟨by decide,by decide,by decide,by decide⟩,by decide,by decide,fun _ => rfl⟩⟩

section Selected
variable {url : Text} {v : Units}

theorem selectedPlain (free : '"' ∉ url) (plain : plainUrl url) :
    selectorText (unitsOf (selectorHead ++ url ++ ['"',']'])) = some (unitsOf url) := by
  have chars := plainChars.mp plain
  have absent {c : Char} (low : c.toNat < 0xD800) (listed : c ∈ ['\'','\\','\n','\r','\x0c','\x00']) :
      c.toNat ∉ unitsOf url := fun member => chars c ((unitMember low).mp member) listed
  have double : ('"').toNat ∉ unitsOf url := fun member => free ((unitMember (by decide)).mp member)
  have ending : ∀ u ∈ [34,93], u ≠ 13 ∧ u ≠ 12 ∧ u ≠ 0 := by decide
  have same : Css.preprocess (unitsOf url ++ [34,93]) = unitsOf url ++ [34,93] := by
    refine Css.preprocessPlain fun u member => ?_
    rcases List.mem_append.mp member with within | last
    · refine ⟨?_,?_,?_⟩
      · rintro rfl
        exact absent (c := '\r') (by decide) (by decide) within
      · rintro rfl
        exact absent (c := '\x0c') (by decide) (by decide) within
      · rintro rfl
        exact absent (c := '\x00') (by decide) (by decide) within
    · exact ending u last
  have read : Css.readString 34 [] .none (unitsOf url ++ 34::[93]) = some (unitsOf url,[93]) := by
    refine Css.stringPlain (fun u member => ⟨?_,?_,?_⟩) [93]
    · rintro rfl
      exact double member
    · rintro rfl
      exact absent (c := '\\') (by decide) (by decide) member
    · rintro rfl
      exact absent (c := '\n') (by decide) (by decide) member
  rw [List.append_assoc,unitsAppend,unitsAppend,show unitsOf ['"',']'] = [34,93] from rfl]
  exact selectorRead ((selectorHeadUnits _).trans (congrArg _ same)) read

theorem closedEarly {u a b : Text} {v' : Units} {e : Escape} (parts : u ++ ['"'] = a ++ '\''::b)
    (before : readText '\'' (unitsOf selectorHead) .none a = .more v' e) (closes : read '\'' v' e '\'' = .closed v)
    {text : Units} (selected : selectorText v = some text) : text.length < (unitsOf u).length := by
  obtain ⟨r,rest,whole,read⟩ := selectorSome selected
  have short : (unitsOf a).length < (unitsOf u).length := by
    cases b with
    | nil =>
      obtain ⟨-,same⟩ := List.append_inj' parts rfl
      exact absurd (List.cons.inj same).1 (by decide)
    | cons d b =>
      have total := congrArg (fun s => (unitsOf s).length) parts
      have one := unitsOne d
      have quotes : (utf16 '"').length = 1 ∧ (utf16 '\'').length = 1 ∧ (unitsOf []).length = 0 := ⟨rfl,rfl,rfl⟩
      simp only [unitsAppend,unitsCons,List.length_append] at total
      omega
  have most := Css.stringMost read
  have halves := congrArg List.length whole
  have kept := Css.preprocessLength false v
  have closed := (readClosed closes).2
  have reads := textLength before
  have none : (Escape.none).floor = 0 ∧ (Css.Escape.none).slack = 0 := ⟨rfl,rfl⟩
  rw [Css.preprocess,List.length_append] at halves
  rw [List.length_nil] at most
  omega

theorem closedShort {u : Text} (backslash : '\\' ∈ u)
    (whole : readText '\'' (unitsOf selectorHead) .none ((u ++ ['"']) ++ [']']) = .more v .none) {text : Units}
    (selected : selectorText v = some text) :
    text.length < (unitsOf u).length ∨ (34 ∈ text ∧ text.length ≤ (unitsOf u).length) := by
  obtain ⟨v',e',before,last⟩ := readSplit whole
  obtain ⟨rfl,w,⟨y,rfl⟩,rfl⟩ := textSolid solidEnd.2 before
  have bracket : v = unitsOf selectorHead ++ (y ++ [34,93]) := by
    cases last
    simp [utf16]
  have fewer : (unitsOf selectorHead ++ (y ++ [34,93])).length <
      (unitsOf selectorHead).length + ((unitsOf u).length + 2) := by
    have units : (unitsOf ((u ++ ['"']) ++ [']'])).length = (unitsOf u).length + 2 := by
      rw [unitsAppend,unitsAppend,List.length_append,List.length_append]
      rfl
    have less := backslashLength (List.mem_append_left _ (List.mem_append_left _ backslash)) whole
    rw [bracket,units] at less
    exact less
  obtain ⟨r,rest,parts,read⟩ := selectorSome selected
  have ending : Css.preprocess (y ++ [34,93]) = Css.preprocess y ++ [34,93] :=
    Css.preprocessAppend (by decide) false y [93]
  rw [bracket,selectorHeadUnits,List.append_cancel_left_eq,ending] at parts
  subst parts
  have kept := Css.preprocessLength false y
  have ends := Css.stringEnds (by decide) (by decide) read
  simp only [List.length_append,List.length_cons,List.length_nil] at fewer
  rw [List.length_nil,Css.preprocess,Css.Escape.slack] at ends
  rcases ends with most | ⟨within,most⟩
  · exact .inl (by omega)
  · exact .inr ⟨within,by omega⟩

theorem closedPlain {u : Text} (double : '"' ∉ u) (backslash : '\\' ∉ u)
    (whole : readText '\'' (unitsOf selectorHead) .none ((u ++ ['"']) ++ [']']) = .more v .none) {text : Units}
    (selected : selectorText v = some text) :
    (∀ c ∈ u, Plain '\'' c) ∧ '\x0c' ∉ u ∧ text = Css.preprocess (unitsOf u) := by
  have without : '\\' ∉ (u ++ ['"']) ++ [']'] := by
    simp only [List.mem_append,List.mem_singleton,not_or]
    exact ⟨⟨backslash,by decide⟩,by decide⟩
  obtain ⟨plain,rfl,-⟩ := textUnescaped whole without
  obtain ⟨r,rest,parts,read⟩ := selectorSome selected
  have ending : Css.preprocess (unitsOf u ++ [34,93]) = Css.preprocess (unitsOf u) ++ [34,93] :=
    Css.preprocessAppend (by decide) false _ [93]
  rw [List.append_assoc,unitsAppend,selectorHeadUnits,List.append_cancel_left_eq,
    show unitsOf (['"'] ++ [']']) = [34,93] from rfl,ending] at parts
  subst parts
  have apart : ∀ d ∈ Css.preprocess (unitsOf u), d ≠ 34 ∧ d ≠ 92 := by
    intro d member
    rcases Css.preprocessMember member with rfl | rfl | within
    · decide
    · decide
    · constructor
      · rintro rfl
        exact double ((unitMember (c := '"') (by decide)).mp within)
      · rintro rfl
        exact backslash ((unitMember (c := '\\') (by decide)).mp within)
  have unbroken : 10 ∉ Css.preprocess (unitsOf u) := by
    intro feed
    rw [Css.stringBroken apart feed] at read
    cases read
  refine ⟨fun c member => plain c (List.mem_append_left _ (List.mem_append_left _ member)),fun feed => ?_,?_⟩
  · exact unbroken (Css.preprocessFeed ((unitMember (c := '\x0c') (by decide)).mpr feed) false)
  · rw [Css.stringPlain fun d member => ⟨(apart d member).1,(apart d member).2,fun feed => unbroken (feed ▸ member)⟩]
      at read
    cases read
    rfl

theorem selectedSafe (whole : readText '\'' (unitsOf selectorHead) .none ((replaceChar '"' [] url ++ ['"']) ++ [']']) =
    .more v .none) (selected : selectorText v = some (unitsOf url)) : '"' ∉ url ∧ plainUrl url := by
  obtain ⟨shorter,fewer⟩ := unquotedLength url
  by_cases backslash : '\\' ∈ replaceChar '"' [] url
  · rcases closedShort backslash whole selected with short | ⟨within,short⟩
    · exact absurd short (Nat.not_lt_of_le shorter)
    · exact absurd short (Nat.not_le_of_lt (fewer ((unitMember (c := '"') (by decide)).mp within)))
  · obtain ⟨plain,feed,same⟩ := closedPlain unquotedFree backslash whole selected
    have free : '"' ∉ url := by
      intro double
      have kept := Css.preprocessLength false (unitsOf (replaceChar '"' [] url))
      rw [← Css.preprocess,← same] at kept
      exact Nat.not_lt_of_le kept (fewer double)
    rw [unquotedSame.mpr free] at plain backslash feed same
    have null : '\x00' ∉ url := by
      intro member
      have unit : 0 ∈ unitsOf url := (unitMember (c := '\x00') (by decide)).mpr member
      rw [same] at unit
      exact Css.preprocessNull false _ unit
    refine ⟨free,plainChars.mpr fun c member listed => ?_⟩
    obtain ⟨single,-,line,carriage⟩ := plain c member
    simp only [List.mem_cons,List.not_mem_nil,or_false] at listed
    rcases listed with rfl | rfl | rfl | rfl | rfl | rfl
    · exact single rfl
    · exact backslash member
    · exact line rfl
    · exact carriage rfl
    · exact feed member
    · exact null member

end Selected

section Rect
variable {goal : List Element → Bool}

theorem selectorCode {before : Text} (plain : ∀ c ∈ before, c ∉ ['/','"','\'','\x60','\x7d']) (rest : Text) :
    ∃ pre post, ∀ url : Text,
      (∃ v, lex goal ((before ++ ['\'']) ++ selectorHead ++ replaceChar '"' [] url ++ "\"]'".toList ++ rest) =
        pre ++ .string v::post ∧ selectorText v = some (unitsOf url)) ↔ '"' ∉ url ∧ plainUrl url := by
  have quoted : "\"]'".toList = ['"'] ++ [']'] ++ ['\''] := rfl
  obtain ⟨sh,br,opened⟩ := scanOpens goal (k := .start) rfl plain (.inr rfl)
  refine ⟨(scan goal .start (before ++ ['\''])).1,lexFrom goal ⟨.string []::sh,br,.code⟩ rest,fun url => ?_⟩
  have first : readText '\'' [] .none selectorHead = .more (unitsOf selectorHead) .none := rfl
  have parts : (before ++ ['\'']) ++ selectorHead ++ replaceChar '"' [] url ++ "\"]'".toList ++ rest =
      (before ++ ['\'']) ++ (selectorHead ++ (((replaceChar '"' [] url ++ ['"']) ++ [']']) ++ '\''::rest)) := by
    rw [quoted]
    simp
  rw [parts,lex,lexAppend,opened,lexText goal sh br _ first]
  simp only [List.append_cancel_left_eq]
  constructor
  · rintro ⟨v,out,selected⟩
    rcases lexSolid goal sh br solidEnd.1 out with whole | ⟨a,b,v',e,early,before,closes⟩
    · exact selectedSafe whole selected
    · have short := closedEarly early before closes selected
      exact absurd short (Nat.not_lt_of_le (unquotedLength url).1)
  · rintro ⟨free,plain⟩
    refine ⟨unitsOf (selectorHead ++ url ++ ['"',']']),?_,selectedPlain free plain⟩
    have chars : ∀ c ∈ (url ++ ['"']) ++ [']'], Plain '\'' c := by
      intro c member
      rw [List.append_assoc] at member
      rcases List.mem_append.mp member with within | last
      · have apart := plainChars.mp plain c within
        simp only [List.mem_cons,not_or] at apart
        exact ⟨apart.1,apart.2.1,apart.2.2.1,apart.2.2.2.1⟩
      · rcases List.mem_pair.mp last with rfl | rfl
        · exact solidEnd.2.plain
        · exact solidEnd.1.plain
    rw [unquotedSame.mpr free,lexText goal sh br _ (readPlainText chars),lexQuote]
    simp [unitsAppend]

end Rect

section Data
variable (goal : List Element → Bool) (worth : Units → Option Units) (program : Text → Text)

/-- Between the same elements the program of a text has a string, and that is worth the text. -/
def Literal (before after : List Element) (s : Text) : Prop :=
  ∃ v, lex goal (program s) = before ++ .string v::after ∧ worth v = some (unitsOf s)

/-- The programs of the safe texts differ in one string only, which is worth the text. No
other text has such a program. -/
def StaysData (safe : Text → Prop) : Prop := ∃ before after, ∀ s, Literal goal worth program before after s ↔ safe s

end Data

theorem placeSame {α : Type} {pre post before after : List α} {x x' y y' : α} (first : pre ++ x::post = before ++ x'::after)
    (second : pre ++ y::post = before ++ y'::after) (differ : x ≠ y) (differ' : x' ≠ y') : pre = before ∧ post = after := by
  induction pre generalizing before with
  | nil => cases before with
    | nil => exact ⟨rfl,(List.cons.inj first).2⟩
    | cons b before => exact absurd ((List.cons.inj first).1.trans (List.cons.inj second).1.symm) differ
  | cons p pre ih => cases before with
    | nil => exact absurd ((List.cons.inj first).1.symm.trans (List.cons.inj second).1) differ'
    | cons b before =>
      obtain ⟨rfl,later⟩ := List.cons.inj first
      obtain ⟨rfl,rest⟩ := ih later (List.cons.inj second).2
      exact ⟨rfl,rest⟩

section Data
variable {goal : List Element → Bool} {worth : Units → Option Units} {program : Text → Text} {safe : Text → Prop}

theorem literalApart {a b : Text} {v w : Units} (differ : a ≠ b) (first : worth v = some (unitsOf a))
    (second : worth w = some (unitsOf b)) : Element.string v ≠ .string w := by
  intro same
  cases same
  exact differ (Synthesis.unitsSame.mp (Option.some.inj (first.symm.trans second)))

theorem literalBreaks (stays : StaysData goal worth program safe) {a b s : Text} (differ : a ≠ b) (first : safe a)
    (second : safe b) (broken : ¬ safe s) :
    ¬ ∃ before after, ∀ t ∈ [a,b,s], Literal goal worth program before after t := by
  rintro ⟨before,after,all⟩
  obtain ⟨pre,post,exact'⟩ := stays
  obtain ⟨va,la,wa⟩ := (exact' a).mpr first
  obtain ⟨vb,lb,wb⟩ := (exact' b).mpr second
  obtain ⟨va',la',wa'⟩ := all a (by simp)
  obtain ⟨vb',lb',wb'⟩ := all b (by simp)
  obtain ⟨rfl,rfl⟩ := placeSame (la.symm.trans la') (lb.symm.trans lb') (literalApart differ wa wb)
    (literalApart differ wa' wb')
  exact broken ((exact' s).mp (all s (by simp)))

theorem literalSome {before after : List Element} {s : Text} :
    Literal goal some program before after s ↔ lex goal (program s) = before ++ .string (unitsOf s)::after := by
  constructor
  · rintro ⟨v,out,same⟩
    rwa [Option.some.inj same] at out
  · exact fun out => ⟨_,out,rfl⟩

end Data

def LabelSafe (s : Text) : Prop := ¬ Marker.timeoutBudgetMs.name <:+: s ∧ ∀ c ∈ s, isSeparator c = false

def TargetSafe (s : Text) : Prop := '\n' ∉ s ∧ '\r' ∉ s

def UrlSafe (url : Text) : Prop := '"' ∉ url ∧ plainUrl url

section Programs
variable {goal : List Element → Bool}

theorem labelStays (script : ScraperSource goal) (limit : Option UInt64) :
    StaysData goal some (fun s => scraperJs script limit (some s)) LabelSafe := by
  obtain ⟨before,after,label⟩ := labelCode script limit
  exact ⟨before,after,fun s => literalSome.trans (label s)⟩

theorem locateStays : StaysData goal some locateJs TargetSafe := by
  have plain : ∀ c ∈ "(function()\x7b".toList ++ lf ["  const search = "], c ∉ ['/','"','\'','\x60','\x7d'] :=
    forallListed (by decide)
  obtain ⟨before,after,target⟩ := targetCode goal plain (locateTail.drop 1)
  exact ⟨before,after,fun s => literalSome.trans (target s)⟩

theorem scrollStays : StaysData goal some scrollJs TargetSafe := by
  have plain : ∀ c ∈ "(function() \x7b".toList ++ lf ["    const search = "], c ∉ ['/','"','\'','\x60','\x7d'] :=
    forallListed (by decide)
  obtain ⟨before,after,target⟩ := targetCode goal plain (scrollTail.drop 1)
  exact ⟨before,after,fun s => literalSome.trans (target s)⟩

theorem rectStays : StaysData goal selectorText rectJs UrlSafe := by
  have plain : ∀ c ∈ "(function()\x7bconst f=document.querySelector(".toList, c ∉ ['/','"','\'','\x60','\x7d'] := by
    rw [String.toList_ofList]
    exact forallListed (by decide)
  exact selectorCode plain rectTail

theorem literalsStayData (script : ScraperSource goal) :
    (∀ limit, StaysData goal some (fun s => scraperJs script limit (some s)) LabelSafe) ∧
    StaysData goal some locateJs TargetSafe ∧ StaysData goal some scrollJs TargetSafe ∧
    StaysData goal selectorText rectJs UrlSafe :=
  ⟨labelStays script,locateStays,scrollStays,rectStays⟩

end Programs

def noScraper : ScraperSource fun _ => false where
  body := []
  tail := []
  bodyFree m := by cases m <;> decide
  tailFree m := by cases m <;> decide
  bodyCode limit := by
    rw [List.append_nil]
    exact headMode limit

theorem literalsLeak : Nonempty (ScraperSource fun _ => false) ∧
    (∀ goal (script : ScraperSource goal) limit, ∀ label ∈ [['\u2028'],['\u2029'],"__TIMEOUT_BUDGET_MS__".toList],
      ¬ ∃ before after, ∀ s ∈ [[],['a'],label], Literal goal some (fun s => scraperJs script limit (some s)) before after s) ∧
    (∀ goal, ¬ ∃ before after, ∀ s ∈ [[],['a'],['a','\n','b']], Literal goal some locateJs before after s) ∧
    (∀ goal, ¬ ∃ before after, ∀ s ∈ [[],['a'],['a','\r','b']], Literal goal some scrollJs before after s) ∧
    ∀ goal, ¬ ∃ before after, ∀ url ∈ [[],['a'],"a?q='b'".toList], Literal goal selectorText rectJs before after url := by
  refine ⟨⟨noScraper⟩,fun goal script limit label member => ?_,fun goal => ?_,fun goal => ?_,fun goal => ?_⟩
  · refine literalBreaks (labelStays script limit) (by decide) ⟨by decide,forallListed (by decide)⟩
      ⟨by decide,forallListed (by decide)⟩ fun safe => ?_
    simp only [List.mem_cons,List.not_mem_nil,or_false] at member
    rcases member with rfl | rfl | rfl
    · exact absurd (safe.2 '\u2028' (by decide)) (by decide)
    · exact absurd (safe.2 '\u2029' (by decide)) (by decide)
    · exact safe.1 (List.infix_refl _)
  · exact literalBreaks locateStays (by decide) ⟨by decide,by decide⟩ ⟨by decide,by decide⟩ fun safe => safe.1 (by decide)
  · exact literalBreaks scrollStays (by decide) ⟨by decide,by decide⟩ ⟨by decide,by decide⟩ fun safe => safe.2 (by decide)
  · exact literalBreaks rectStays (by decide) ⟨by decide,by decide⟩ ⟨by decide,by decide⟩
      fun safe => absurd safe.2 (by decide)

end Vscreen.ScriptTexts
