import Vscreen.Text

/-! Lower case of texts for any version of the Unicode case data. -/
namespace Vscreen
open Text

/-- The case data of the Unicode version that the standard library was built with,
and what every version of it says about ASCII. -/
structure CaseMapping where
  lower : Char → List Char
  cased : Char → Bool
  caseIgnorable : Char → Bool
  lowerAscii : ∀ c, c.toNat < 128 → lower c = [c.toLower]
  lowerOther : ∀ c, 128 ≤ c.toNat → ∀ d ∈ lower c, d.toNat < 128 → d = 'i' ∨ d = 'k'
  lowerNonempty : ∀ c, lower c ≠ []

namespace CaseMapping

def asciiLower (c : Char) : List Char := if c.toNat < 128 then [c.toLower] else [c]

def ascii : CaseMapping where
  lower := asciiLower
  cased c := c.isAlpha
  caseIgnorable _ := false
  lowerAscii c small := if_pos small
  lowerOther c large d member small := by
    rw [asciiLower,if_neg (by omega),List.mem_singleton] at member
    subst member
    omega
  lowerNonempty c := by
    unfold asciiLower
    split <;> simp

variable (u : CaseMapping)

def ignorableThenCased (s : Text) : Bool := (s.dropWhile u.caseIgnorable).head?.any u.cased

def toLowercaseFrom (before : Text) : Text → Text
  | [] => []
  | c::rest =>
    (if c = 'Σ' then [if u.ignorableThenCased before && !u.ignorableThenCased rest then 'ς' else 'σ']
      else u.lower c) ++ toLowercaseFrom (c::before) rest

def toLowercase (s : Text) : Text := u.toLowercaseFrom [] s

def Becomes (c : Char) (ds : Text) : Prop := if c = 'Σ' then ds = ['σ'] ∨ ds = ['ς'] else ds = u.lower c

inductive Lowered : Text → Text → Prop where
  | nil : Lowered [] []
  | cons {c s ds t} (here : u.Becomes c ds) (rest : Lowered s t) : Lowered (c::s) (ds ++ t)

theorem loweredFrom (before s : Text) : u.Lowered s (u.toLowercaseFrom before s) := by
  induction s generalizing before with
  | nil => exact .nil
  | cons c s ih =>
    rw [toLowercaseFrom]
    refine .cons ?_ (ih _)
    unfold Becomes
    split
    · split
      · exact .inr rfl
      · exact .inl rfl
    · rfl

theorem lowered (s : Text) : u.Lowered s (u.toLowercase s) := u.loweredFrom [] s

variable {u}

theorem Becomes.ascii {c : Char} {ds : Text} (here : u.Becomes c ds) (small : c.toNat < 128) : ds = [c.toLower] := by
  unfold Becomes at here
  split at here
  · rename_i sigma
    subst sigma
    contradiction
  · rw [here,u.lowerAscii c small]

theorem Becomes.nonempty {c : Char} {ds : Text} (here : u.Becomes c ds) : ds ≠ [] := by
  unfold Becomes at here
  split at here
  · rcases here with rfl | rfl <;> simp
  · rw [here]; exact u.lowerNonempty c

theorem Becomes.fromAscii {c d : Char} {ds : Text} (here : u.Becomes c ds) (member : d ∈ ds) (small : d.toNat < 128)
    (plain : d ≠ 'i' ∧ d ≠ 'k') : c.toNat < 128 := by
  unfold Becomes at here
  split at here
  · rcases here with rfl | rfl <;> rw [List.mem_singleton] at member <;> subst member <;> contradiction
  · by_contra large
    rcases u.lowerOther c (Nat.le_of_not_lt large) d (here ▸ member) small with same | same
    · exact plain.1 same
    · exact plain.2 same

theorem Lowered.leading {s pat rest : Text} (low : u.Lowered s (pat ++ rest))
    (plain : ∀ d ∈ pat, d.toNat < 128 ∧ d ≠ 'i' ∧ d ≠ 'k') :
    ∃ p tail, s = p ++ tail ∧ p.map Char.toLower = pat ∧ (∀ c ∈ p, c.toNat < 128) ∧ u.Lowered tail rest := by
  induction pat generalizing s with
  | nil => exact ⟨[],s,rfl,rfl,by simp,low⟩
  | cons d pat ih =>
    rw [List.forall_mem_cons] at plain
    generalize whole : d::pat ++ rest = t at low
    cases low with
    | nil => contradiction
    | @cons c s ds t here low =>
      cases ds with
      | nil => exact (here.nonempty rfl).elim
      | cons e ds =>
        obtain ⟨rfl,tail⟩ := List.cons_eq_cons.mp whole
        have small := here.fromAscii List.mem_cons_self plain.1.1 plain.1.2
        obtain ⟨rfl,rfl⟩ := List.cons_eq_cons.mp (here.ascii small)
        obtain ⟨p,tail',rfl,mapped,ascii,last⟩ := ih (by rw [show pat ++ rest = t from tail]; exact low) plain.2
        exact ⟨c::p,tail',rfl,by rw [List.map_cons,mapped],List.forall_mem_cons.mpr ⟨small,ascii⟩,last⟩

theorem Lowered.ascii {s t : Text} (low : u.Lowered s t) (small : ∀ c ∈ s, c.toNat < 128) :
    t = s.map Char.toLower := by
  induction low with
  | nil => rfl
  | cons here rest ih =>
    rw [List.forall_mem_cons] at small
    rw [here.ascii small.1,ih small.2]
    rfl

theorem Lowered.member {s t : Text} {c : Char} (low : u.Lowered s t) (member : c ∈ s) (small : c.toNat < 128) :
    c.toLower ∈ t := by
  induction low with
  | nil => contradiction
  | cons here rest ih =>
    rcases List.mem_cons.mp member with rfl | later
    · rw [here.ascii small]
      exact List.mem_append_left _ (List.mem_singleton_self _)
    · exact List.mem_append_right _ (ih later)

end CaseMapping
end Vscreen
