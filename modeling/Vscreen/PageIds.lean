import Mathlib.Data.List.Perm.Subperm
import Vscreen.PageStore

/-! Page ids are fresh. The search for a numeric suffix runs over ids that differ,
so that it finds one that is free within one round more than there are pages. -/
namespace Vscreen.Pages
open Json (Units)

theorem dashRunsKeeps {u : Nat} (slug : slugUnit u = true) : ∀ {title : Units} {inRun : Bool},
    u ∈ dashRuns inRun title ↔ u ∈ title := by
  have notDash : u ≠ 45 := by
    intro dash
    rw [dash] at slug
    cases slug
  intro title
  induction title with
  | nil => intro inRun; exact Iff.rfl
  | cons v rest ih =>
    intro inRun
    simp only [dashRuns,List.mem_cons]
    split
    · rw [List.mem_cons,ih]
    · rename_i other
      have apart : u ≠ v := by
        intro same
        rw [same] at slug
        exact other slug
      split
      · rw [ih,or_iff_right apart]
      · rw [List.mem_cons,ih,or_iff_right apart,or_iff_right notDash]

theorem dashRunsOther {title : Units} (others : ∀ u ∈ title, slugUnit u = false) : dashRuns true title = [] := by
  induction title with
  | nil => rfl
  | cons u rest ih =>
    rw [dashRuns,others u List.mem_cons_self]
    exact ih (fun v mem => others v (List.mem_cons_of_mem _ mem))

theorem stripDashesKeeps {u : Nat} (notDash : u ≠ 45) {s : Units} (mem : u ∈ s) : u ∈ stripDashes s := by
  have body : u ∈ (if s.head? = some 45 then s.tail else s) := by
    split
    · rename_i dash
      cases s with
      | nil => cases dash
      | cons v rest =>
        cases Option.some.inj dash
        exact (List.mem_cons.mp mem).resolve_left notDash
    · exact mem
  simp only [stripDashes]
  generalize (if s.head? = some 45 then s.tail else s) = rest at body ⊢
  split
  · rename_i dash
    have parts := List.dropLast_append_getLast? 45 dash
    rw [← parts,List.mem_append] at body
    exact body.resolve_right (fun last => notDash (List.mem_singleton.mp last))
  · exact body

theorem slugEmptyIff (toLowerCase : Units → Units) (title : Units) :
    slugify toLowerCase title = [] ↔ ∀ u ∈ toLowerCase title, slugUnit u = false := by
  constructor
  · intro empty u mem
    cases slug : slugUnit u with
    | false => rfl
    | true =>
      have notDash : u ≠ 45 := by
        intro dash
        rw [dash] at slug
        cases slug
      have kept := stripDashesKeeps notDash ((@dashRunsKeeps u slug (toLowerCase title) false).mpr mem)
      rw [← slugify,empty] at kept
      cases kept
  · intro others
    rw [slugify]
    cases lowered : toLowerCase title with
    | nil => rfl
    | cons u rest =>
      rw [lowered] at others
      rw [dashRuns,others u List.mem_cons_self]
      simp only [Bool.false_eq_true,if_false,dashRunsOther (fun v mem => others v (List.mem_cons_of_mem _ mem))]
      decide

theorem unitsDigits {s : Text} (digits : ∀ c ∈ s, c.isDigit = true) : Json.unitsOf s = s.map Char.toNat := by
  induction s with
  | nil => rfl
  | cons c rest ih =>
    have digit := digits c List.mem_cons_self
    have small : c.toNat < 0x10000 := by
      simp only [Char.isDigit,Bool.and_eq_true,decide_eq_true_eq] at digit
      have top := UInt32.le_iff_toNat_le.mp digit.2
      exact Nat.lt_of_le_of_lt top (by decide)
    have one : Json.utf16 c = [c.toNat] := by
      unfold Json.utf16
      exact if_pos small
    rw [Json.unitsOf,List.flatMap_cons,one,← Json.unitsOf,ih (fun d mem => digits d (List.mem_cons_of_mem _ mem))]
    rfl

theorem decimalUnits {i j : Nat} (same : Json.unitsOf (Text.decimal i) = Json.unitsOf (Text.decimal j)) : i = j := by
  have digits : ∀ n, ∀ c ∈ Text.decimal n, c.isDigit = true := by
    intro n c mem
    exact Nat.isDigit_of_mem_toDigits (by decide) (by decide) mem
  rw [unitsDigits (digits i),unitsDigits (digits j)] at same
  have texts : Text.decimal i = Text.decimal j :=
    List.map_injective_iff.mpr (fun c d equal => Char.toNat_inj.mp equal) same
  have numbers := congrArg (fun s => Nat.ofDigitChars 10 s 0) texts
  simpa [Text.decimal,Nat.ofDigitChars_toDigits] using numbers

theorem suffixedInjective {base : Units} {i j : Nat} (same : suffixed base i = suffixed base j) : i = j := by
  have tails := List.append_cancel_left same
  exact decimalUnits (List.cons.inj tails).2

inductive Searches (has : Units → Bool) (base : Units) : Nat → Units → Prop where
  | ends {i} (absent : has (suffixed base i) = false) : Searches has base i (suffixed base i)
  | next {i id} (taken : has (suffixed base i) = true) (rest : Searches has base (i + 1) id) :
      Searches has base i id

section
variable {has : Units → Bool} {base : Units}

theorem searchesFree {i : Nat} {id : Units} (search : Searches has base i id) : has id = false := by
  induction search with
  | ends absent => exact absent
  | next taken rest ih => exact ih

theorem searchSound {rounds i : Nat} {id : Units} (found : searchSuffix has base rounds i = some id) :
    Searches has base i id := by
  induction rounds generalizing i with
  | zero => cases found
  | succ rounds ih =>
    simp only [searchSuffix] at found
    split at found
    · rename_i taken
      exact .next taken (ih found)
    · rename_i absent
      cases Option.some.inj found
      exact .ends (by simpa using absent)

theorem searchFails {rounds i : Nat} (failed : searchSuffix has base rounds i = none) :
    ∀ j < rounds, has (suffixed base (i + j)) = true := by
  induction rounds generalizing i with
  | zero => intro j absent; cases absent
  | succ rounds ih =>
    simp only [searchSuffix] at failed
    split at failed
    · rename_i taken
      intro j within
      cases j with
      | zero => exact taken
      | succ j =>
        have later := ih failed j (Nat.lt_of_succ_lt_succ within)
        rwa [Nat.add_assoc,Nat.add_comm 1 j] at later
    · cases failed

theorem takenWithin {keys : List Units} {rounds i : Nat} (known : ∀ id, has id = true → id ∈ keys)
    (taken : ∀ j < rounds, has (suffixed base (i + j)) = true) : rounds ≤ keys.length := by
  have distinct : ((List.range rounds).map (fun j => suffixed base (i + j))).Nodup := by
    refine List.nodup_range.map ?_
    intro j k same
    exact Nat.add_left_cancel (suffixedInjective same)
  have inside : (List.range rounds).map (fun j => suffixed base (i + j)) ⊆ keys := by
    intro id mem
    obtain ⟨j,within,rfl⟩ := List.mem_map.mp mem
    exact known _ (taken j (List.mem_range.mp within))
  have bound := (List.subperm_of_subset distinct inside).length_le
  simpa using bound

end

def Key.text : Key → Option Units
  | .string id => some id
  | _ => none

theorem hasKey {s : Store} {id : Units} (present : s.has id = true) : id ∈ s.pages.keys.filterMap Key.text := by
  refine List.mem_filterMap.mpr ⟨.string id,?_,rfl⟩
  exact Table.memKeys.mpr present

theorem searchEnds (s : Store) (base : Units) :
    ∃ id, searchSuffix s.has base (s.pages.keys.length + 1) 2 = some id := by
  cases found : searchSuffix s.has base (s.pages.keys.length + 1) 2 with
  | some id => exact ⟨id,rfl⟩
  | none =>
    have bound := takenWithin (fun id => @hasKey s id) (searchFails found)
    have fewer := List.length_filterMap_le Key.text s.pages.keys
    omega

/-- The page that a create adds, under an id that was free. -/
structure CreatesFresh (toLowerCase : Units → Units) (s : Store) (req : CreatePageRequest) (now : Units)
    (s' : Store) (id : Units) : Prop where
  created : createPage toLowerCase s req now = some (s',id)
  ends : s.has (slugify toLowerCase req.title) = true → Searches s.has (slugify toLowerCase req.title) 2 id
  fresh : s.getPage id = none
  page : s'.getPage id = some (newPage id req now)
  kept : ∀ key page, Table.get s.pages key = some page → Table.get s'.pages key = some page

theorem uniqueIdFresh (toLowerCase : Units → Units) (s : Store) (title : Units) : ∃ id,
    uniqueId toLowerCase s title = some id ∧ s.has id = false ∧
    (s.has (slugify toLowerCase title) = true → Searches s.has (slugify toLowerCase title) 2 id) := by
  cases taken : s.has (slugify toLowerCase title) with
  | false =>
    refine ⟨slugify toLowerCase title,?_,taken,fun absent => by cases absent⟩
    simp [uniqueId,taken]
  | true =>
    obtain ⟨id,found⟩ := searchEnds s (slugify toLowerCase title)
    have search := searchSound found
    refine ⟨id,?_,searchesFree search,fun _ => search⟩
    simp [uniqueId,taken,found]

theorem searchesSuffixed {has : Units → Bool} {base id : Units} {i : Nat} (search : Searches has base i id) :
    ∃ j, id = suffixed base j := by
  induction search with
  | ends absent => exact ⟨_,rfl⟩
  | next taken rest ih => exact ih

theorem emptyIdIff (toLowerCase : Units → Units) (s : Store) (title : Units) :
    uniqueId toLowerCase s title = some [] ↔ (∀ u ∈ toLowerCase title, slugUnit u = false) ∧ s.has [] = false := by
  rw [← slugEmptyIff]
  obtain ⟨id,found,free,ends⟩ := uniqueIdFresh toLowerCase s title
  constructor
  · intro empty
    rw [found] at empty
    cases Option.some.inj empty
    refine ⟨?_,free⟩
    cases taken : s.has (slugify toLowerCase title) with
    | true =>
      obtain ⟨j,same⟩ := searchesSuffixed (ends taken)
      simp [suffixed] at same
    | false =>
      have base : uniqueId toLowerCase s title = some (slugify toLowerCase title) := by simp [uniqueId,taken]
      exact Option.some.inj (base.symm.trans found)
  · rintro ⟨empty,absent⟩
    simp [uniqueId,empty,absent]

theorem createFresh (toLowerCase : Units → Units) (s : Store) (req : CreatePageRequest) (now : Units) :
    ∃ s' id, CreatesFresh toLowerCase s req now s' id := by
  obtain ⟨id,found,free,ends⟩ := uniqueIdFresh toLowerCase s req.title
  have absent : s.getPage id = none := by simpa [Store.has] using free
  refine ⟨s.write id (newPage id req now),id,?_,ends,absent,?_,?_⟩
  · rw [createPage,found]
  · simp [Store.getPage,Store.write]
  · intro key page present
    rw [Store.write,Table.getPut]
    split
    · rename_i same
      rw [same] at present
      rw [Store.getPage,present] at absent
      cases absent
    · exact present

end Vscreen.Pages
