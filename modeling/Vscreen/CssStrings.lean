import Vscreen.Json

/-! The strings of CSS, in code units: what is done to a style sheet before it is read, and
where a string ends and what it is worth. -/
namespace Vscreen.Css
open Json (Units utf16)

def preprocessFrom (carriage : Bool) : Units → Units
  | [] => []
  | u::rest =>
    if carriage ∧ u = 10 then preprocessFrom false rest
    else (if u = 13 ∨ u = 12 then 10 else if u = 0 then 0xFFFD else u)::preprocessFrom (u = 13) rest

def preprocess (s : Units) : Units := preprocessFrom false s

theorem preprocessAppend {u : Nat} (other : u ≠ 10) (carriage : Bool) (s t : Units) :
    preprocessFrom carriage (s ++ u::t) = preprocessFrom carriage s ++ preprocess (u::t) := by
  induction s generalizing carriage with
  | nil =>
    have apart (carriage : Bool) : ¬ (carriage ∧ u = 10) := fun feed => other feed.2
    change preprocessFrom carriage (u::t) = preprocessFrom false (u::t)
    rw [preprocessFrom,preprocessFrom,if_neg (apart carriage),if_neg (apart false)]
  | cons v s ih =>
    rw [List.cons_append,preprocessFrom,preprocessFrom,ih,ih]
    split <;> rfl

theorem preprocessLength (carriage : Bool) (s : Units) : (preprocessFrom carriage s).length ≤ s.length := by
  induction s generalizing carriage with
  | nil => exact Nat.le_refl 0
  | cons u s ih =>
    rw [preprocessFrom]
    split
    · exact Nat.le_succ_of_le (ih false)
    · exact Nat.succ_le_succ (ih _)

theorem preprocessPlain {s : Units} (plain : ∀ u ∈ s, u ≠ 13 ∧ u ≠ 12 ∧ u ≠ 0) : preprocess s = s := by
  induction s with
  | nil => rfl
  | cons u s ih =>
    obtain ⟨⟨carriage,feed,null⟩,later⟩ := List.forall_mem_cons.mp plain
    rw [preprocess,preprocessFrom,if_neg (by simp),if_neg (not_or.mpr ⟨carriage,feed⟩),if_neg null,
      decide_eq_false carriage,← preprocess,ih later]

theorem preprocessNull (carriage : Bool) (s : Units) : 0 ∉ preprocessFrom carriage s := by
  induction s generalizing carriage with
  | nil => exact List.not_mem_nil
  | cons u s ih =>
    rw [preprocessFrom]
    split
    · exact ih false
    · rw [List.mem_cons,not_or]
      refine ⟨fun same => ?_,ih _⟩
      split_ifs at same
      omega

theorem preprocessFeed {s : Units} (feed : 12 ∈ s) (carriage : Bool) : 10 ∈ preprocessFrom carriage s := by
  induction s generalizing carriage with
  | nil => cases feed
  | cons u s ih =>
    rw [preprocessFrom]
    rcases List.mem_cons.mp feed with rfl | later
    · rw [if_neg (by simp)]
      exact List.mem_cons_self
    · split
      · exact ih later false
      · exact List.mem_cons_of_mem _ (ih later _)

theorem preprocessMember {u : Nat} {s : Units} {carriage : Bool} (member : u ∈ preprocessFrom carriage s) :
    u = 10 ∨ u = 0xFFFD ∨ u ∈ s := by
  induction s generalizing carriage with
  | nil => cases member
  | cons v s ih =>
    rw [preprocessFrom] at member
    split at member
    · exact (ih member).imp_right (Or.imp_right (List.mem_cons_of_mem v))
    · rcases List.mem_cons.mp member with same | later
      · split_ifs at same
        · exact .inl same
        · exact .inr (.inl same)
        · subst same
          exact .inr (.inr List.mem_cons_self)
      · exact (ih later).imp_right (Or.imp_right (List.mem_cons_of_mem v))

inductive Escape where
  | none
  | start
  | hex (left value : Nat)
  deriving DecidableEq, Repr

inductive Reading where
  | more (value : Units) (escape : Escape)
  | closed (value : Units)
  | broken
  deriving DecidableEq, Repr

def hexDigit (u : Nat) : Option Nat :=
  if 48 ≤ u ∧ u ≤ 57 then some (u - 48)
  else if 97 ≤ u ∧ u ≤ 102 then some (u - 87)
  else if 65 ≤ u ∧ u ≤ 70 then some (u - 55)
  else none

def codePoint (n : Nat) : Units := if n ≠ 0 ∧ n.isValidChar then utf16 (Char.ofNat n) else [0xFFFD]

def isWhitespace (u : Nat) : Bool := u = 9 || u = 10 || u = 32

def readPlain (quote : Nat) (value : Units) (u : Nat) : Reading :=
  if u = quote then .closed value
  else if u = 92 then .more value .start
  else if u = 10 then .broken
  else .more (value ++ [u]) .none

def readEnded (quote : Nat) (value : Units) (n u : Nat) : Reading :=
  if isWhitespace u then .more (value ++ codePoint n) .none else readPlain quote (value ++ codePoint n) u

def readHex (quote : Nat) (value : Units) (left n u : Nat) : Reading := match hexDigit u with
  | some d => if 0 < left then .more value (.hex (left - 1) (n * 16 + d)) else readEnded quote value n u
  | none => readEnded quote value n u

def read (quote : Nat) (value : Units) (escape : Escape) (u : Nat) : Reading := match escape with
  | .none => readPlain quote value u
  | .start => match hexDigit u with
    | some d => .more value (.hex 5 d)
    | none => if u = 10 then .more value .none else .more (value ++ [u]) .none
  | .hex left n => readHex quote value left n u

def Escape.finish : Escape → Units
  | .hex _ n => codePoint n
  | _ => []

def readString (quote : Nat) : Units → Escape → Units → Option (Units × Units)
  | value,escape,[] => some (value ++ escape.finish,[])
  | value,escape,u::rest => match read quote value escape u with
    | .more value' escape' => readString quote value' escape' rest
    | .closed value' => some (value',rest)
    | .broken => none

def Escape.slack : Escape → Nat
  | .none => 0
  | .start => 1
  | .hex _ _ => 2

section Strings
variable {quote u : Nat} {value value' : Units} {escape escape' : Escape} {s : Units}

theorem codePointLength (n : Nat) : (codePoint n).length ≤ 2 := by
  unfold codePoint
  split
  · simp only [utf16]
    split <;> simp
  · simp

theorem plainMost (more : readPlain quote value u = .more value' escape') :
    value'.length + escape'.slack ≤ value.length + 1 := by
  unfold readPlain at more
  split_ifs at more <;> cases more <;> simp [Escape.slack]

theorem plainClosed (closed : readPlain quote value u = .closed value') : u = quote ∧ value' = value := by
  unfold readPlain at closed
  split_ifs at closed with same
  cases closed
  exact ⟨same,rfl⟩

theorem endedMost {n : Nat} (more : readEnded quote value n u = .more value' escape') :
    value'.length + escape'.slack ≤ value.length + 3 := by
  have two := codePointLength n
  unfold readEnded at more
  split at more
  · cases more
    simp only [Escape.slack,List.length_append]
    omega
  · have plain := plainMost more
    rw [List.length_append] at plain
    omega

theorem endedClosed {n : Nat} (closed : readEnded quote value n u = .closed value') :
    u = quote ∧ value' = value ++ codePoint n := by
  unfold readEnded at closed
  split at closed
  · cases closed
  · exact plainClosed closed

theorem readMost (more : read quote value escape u = .more value' escape') :
    value'.length + escape'.slack ≤ value.length + escape.slack + 1 := by
  cases escape with
  | none => exact plainMost more
  | start =>
    rw [read] at more
    split at more
    · cases more
      simp [Escape.slack]
    · split_ifs at more <;> cases more <;> simp [Escape.slack]
      omega
  | hex left n =>
    rw [read,readHex] at more
    split at more
    · split at more
      · cases more
        simp [Escape.slack]
      · exact endedMost more
    · exact endedMost more

theorem readClosed (closed : read quote value escape u = .closed value') :
    u = quote ∧ value'.length ≤ value.length + escape.slack := by
  cases escape with
  | none =>
    obtain ⟨same,rfl⟩ := plainClosed closed
    exact ⟨same,Nat.le_add_right _ _⟩
  | start =>
    rw [read] at closed
    split at closed
    · cases closed
    · split_ifs at closed
  | hex left n =>
    have ended : readEnded quote value n u = .closed value' := by
      rw [read,readHex] at closed
      split at closed
      · split at closed
        · cases closed
        · exact closed
      · exact closed
    obtain ⟨same,rfl⟩ := endedClosed ended
    rw [List.length_append]
    exact ⟨same,Nat.add_le_add_left (codePointLength n) _⟩

theorem stringMost {w rest : Units} (out : readString quote value escape s = some (w,rest)) :
    w.length ≤ value.length + escape.slack + s.length := by
  induction s generalizing value escape with
  | nil =>
    cases out
    cases escape with
    | none => simp [Escape.finish]
    | start => simp [Escape.finish]
    | hex left n =>
      have two := codePointLength n
      simp only [Escape.finish,Escape.slack,List.length_append,List.length_nil]
      omega
  | cons u s ih =>
    rw [readString] at out
    rw [List.length_cons]
    cases one : read quote value escape u with
    | more v e =>
      rw [one] at out
      have first := readMost one
      have later := ih out
      omega
    | closed v =>
      rw [one] at out
      cases out
      have first := (readClosed one).2
      omega
    | broken =>
      rw [one] at out
      cases out

theorem readQuote (quotes : hexDigit quote = none ∧ isWhitespace quote = false)
    (more : read quote value escape quote = .more value' escape') :
    escape = .start ∧ value' = value ++ [quote] ∧ escape' = .none := by
  obtain ⟨digit,space⟩ := quotes
  have plain (v : Units) : readPlain quote v quote = .closed v := if_pos rfl
  have feed : quote ≠ 10 := by
    rintro rfl
    cases space
  cases escape with
  | none =>
    rw [read,plain] at more
    cases more
  | start =>
    rw [read,digit] at more
    cases (if_neg feed).symm.trans more
    exact ⟨rfl,rfl,rfl⟩
  | hex left n =>
    rw [read,readHex,digit] at more
    change readEnded quote value n quote = _ at more
    rw [readEnded,space] at more
    cases (plain _).symm.trans more

theorem stringEnds (quotes : hexDigit quote = none ∧ isWhitespace quote = false) (plain : u ≠ quote ∧ u ≠ 92 ∧ u ≠ 10)
    {w rest : Units} (out : readString quote value escape (s ++ [quote,u]) = some (w,rest)) :
    w.length ≤ value.length + escape.slack + s.length ∨
      (quote ∈ w ∧ w.length ≤ value.length + escape.slack + s.length + 1) := by
  induction s generalizing value escape with
  | nil =>
    rw [List.nil_append,readString] at out
    cases one : read quote value escape quote with
    | more v e =>
      obtain ⟨rfl,rfl,rfl⟩ := readQuote quotes one
      have last : read quote (value ++ [quote]) .none u = .more (value ++ [quote] ++ [u]) .none := by
        rw [read,readPlain,if_neg plain.1,if_neg plain.2.1,if_neg plain.2.2]
      rw [one] at out
      simp only [readString,last,Option.some.injEq,Prod.mk.injEq] at out
      obtain ⟨rfl,-⟩ := out
      refine .inr ⟨by simp,?_⟩
      simp [Escape.finish,Escape.slack]
    | closed v =>
      rw [one] at out
      cases out
      exact .inl (readClosed one).2
    | broken =>
      rw [one] at out
      cases out
  | cons c s ih =>
    rw [List.cons_append,readString] at out
    rw [List.length_cons]
    cases one : read quote value escape c with
    | more v e =>
      rw [one] at out
      have first := readMost one
      refine (ih out).imp (fun most => ?_) (fun ⟨within,most⟩ => ⟨within,?_⟩)
      · omega
      · omega
    | closed v =>
      rw [one] at out
      cases out
      have first := (readClosed one).2
      exact .inl (by omega)
    | broken =>
      rw [one] at out
      cases out

theorem stringPlain (plain : ∀ u ∈ s, u ≠ quote ∧ u ≠ 92 ∧ u ≠ 10) (rest : Units) :
    readString quote value .none (s ++ quote::rest) = some (value ++ s,rest) := by
  induction s generalizing value with
  | nil =>
    rw [List.nil_append,readString,read,readPlain,if_pos rfl,List.append_nil]
  | cons u s ih =>
    obtain ⟨⟨other,escapes,feed⟩,later⟩ := List.forall_mem_cons.mp plain
    rw [List.cons_append,readString,read,readPlain,if_neg other,if_neg escapes,if_neg feed]
    exact (ih later).trans (by rw [List.append_assoc]; rfl)

theorem stringBroken (plain : ∀ u ∈ s, u ≠ quote ∧ u ≠ 92) (feed : 10 ∈ s) (t : Units) :
    readString quote value .none (s ++ t) = none := by
  induction s generalizing value with
  | nil => cases feed
  | cons u s ih =>
    obtain ⟨⟨other,escapes⟩,later⟩ := List.forall_mem_cons.mp plain
    rw [List.cons_append,readString,read,readPlain,if_neg other,if_neg escapes]
    by_cases ends : u = 10
    · rw [if_pos ends]
    · rw [if_neg ends]
      exact ih later ((List.mem_cons.mp feed).resolve_left (Ne.symm ends))

end Strings

end Vscreen.Css
