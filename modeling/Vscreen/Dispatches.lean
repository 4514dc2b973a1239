import Vscreen.Text

/-! Events dispatched to Chrome one after another, up to the first that fails. A
dispatch that fails sends nothing; `fails` tells it by its number, with its error. -/
namespace Vscreen.Cdp

inductive ToolError where
  | invalidParams (message : Text)
  | internalError (message : Text)
  deriving DecidableEq

section Dispatch
variable (fails : Nat → Option Text)

def delivered (total : Nat) : Nat := ((List.range total).takeWhile fun i => (fails i).isNone).length

def came (i n : Nat) : Nat := ((List.range' i n).takeWhile fun j => (fails j).isNone).length

theorem cameSucc (i n : Nat) : came fails i (n + 1) = if (fails i).isNone then came fails (i + 1) n + 1 else 0 := by
  rw [came,List.range'_succ,List.takeWhile_cons]
  split <;> rfl

theorem cameBound (i n : Nat) : came fails i n ≤ n :=
  (List.takeWhile_sublist _).length_le.trans_eq List.length_range'

theorem cameAppend (i n m : Nat) :
    came fails i (n + m) = if came fails i n = n then n + came fails (i + n) m else came fails i n := by
  induction n generalizing i with
  | zero => simp [came]
  | succ n ih =>
    rw [show n + 1 + m = n + m + 1 by omega,cameSucc,cameSucc,ih]
    split
    · rw [show i + 1 + n = i + (n + 1) by omega]
      split
      · rename_i all
        rw [if_pos (by omega)]
        omega
      · rename_i some
        rw [if_neg (by omega)]
    · rw [if_neg (by omega)]

theorem cameReaches (i n k : Nat) : k < came fails i n ↔ k < n ∧ ∀ j ≤ k, fails (i + j) = none := by
  induction n generalizing i k with
  | zero => simp [came]
  | succ n ih =>
    rw [cameSucc]
    cases first : fails i with
    | some err => exact iff_of_false (Nat.not_lt_zero k) fun all => by simpa [first] using all.2 0 (Nat.zero_le k)
    | none =>
      cases k with
      | zero =>
        refine iff_of_true (Nat.succ_pos _) ⟨Nat.succ_pos n,fun j small => ?_⟩
        rwa [Nat.le_zero.mp small]
      | succ k =>
        refine (Nat.succ_lt_succ_iff.trans (ih (i + 1) k)).trans (and_congr Nat.succ_lt_succ_iff.symm ⟨?_,?_⟩)
        · intro all j small
          cases j with
          | zero => exact first
          | succ j => simpa only [Nat.add_right_comm,Nat.add_assoc] using all j (Nat.le_of_succ_le_succ small)
        · intro all j small
          simpa only [Nat.add_right_comm,Nat.add_assoc] using all (j + 1) (Nat.succ_le_succ small)

theorem deliveredCame (total : Nat) : delivered fails total = came fails 0 total := by
  rw [delivered,came,← List.range_eq_range']

def sendAll {α : Type} : Nat → List α → List α × Except ToolError Unit
  | _,[] => ([],.ok ())
  | i,e::rest => match fails i with
    | some err => ([],.error (.internalError err))
    | none => (e::(sendAll (i + 1) rest).1,(sendAll (i + 1) rest).2)

theorem sentAll {α : Type} (i : Nat) (events : List α) :
    (sendAll fails i events).1 = events.take (came fails i events.length) := by
  induction events generalizing i with
  | nil => rfl
  | cons e rest ih =>
    rw [sendAll,List.length_cons,cameSucc]
    cases fails i with
    | some err => rfl
    | none =>
      simp only [Option.isNone_none,if_true,List.take_succ_cons]
      rw [ih]

theorem sentOk {α : Type} (i : Nat) (events : List α) :
    (sendAll fails i events).2 = .ok () ↔ came fails i events.length = events.length := by
  induction events generalizing i with
  | nil => simp [sendAll,came]
  | cons e rest ih =>
    rw [sendAll,List.length_cons,cameSucc]
    cases fails i with
    | some err => simp
    | none => exact (ih (i + 1)).trans Nat.succ_inj.symm

end Dispatch

end Vscreen.Cdp
