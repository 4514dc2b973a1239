import Mathlib.Algebra.Group.Int.Defs
import Mathlib.Algebra.Group.Nat.Defs

/-! Arithmetic of machine integers that may go wrong, as a list of operations on the values
they are computed on. -/
namespace Vscreen

def Video.asI32 (n : UInt32) : Int := if n.toNat < 2^31 then n.toNat else n.toNat - 0x100000000

inductive Arith where
  | addU32 (a b : UInt32)
  | mulU32 (a b : UInt32)
  | mulI32 (a b : Int)
  | addUsize (a b : Nat)
  | mulUsize (a b : Nat)
  | div (a b : Nat)
  | toI32 (n : UInt32)
  deriving DecidableEq, Repr

def Arith.Sound : Arith → Prop
  | addU32 a b => a.toNat + b.toNat < 2^32
  | mulU32 a b => a.toNat * b.toNat < 2^32
  | mulI32 a b => -2^31 ≤ a * b ∧ a * b < 2^31
  | addUsize a b => a + b < 2^64
  | mulUsize a b => a * b < 2^64
  | div _ b => b ≠ 0
  | toI32 n => 0 ≤ Video.asI32 n

instance (op : Arith) : Decidable op.Sound := by cases op <;> unfold Arith.Sound <;> infer_instance

def AllSound (ops : List Arith) : Prop := ∀ op ∈ ops, op.Sound

instance (ops : List Arith) : Decidable (AllSound ops) := by unfold AllSound; infer_instance

def runArith {E I : Type} (arith : E → I → List Arith) (next : E → I → Option E) : E → List I → List Arith
  | _,[] => []
  | e,i::inputs => arith e i ++ match next e i with
    | none => []
    | some e' => runArith arith next e' inputs

theorem runSound {E I : Type} {arith : E → I → List Arith} {next : E → I → Option E} (inv : E → List I → Prop)
    (sound : ∀ e i rest, inv e (i::rest) → AllSound (arith e i))
    (keeps : ∀ e i rest e', inv e (i::rest) → next e i = some e' → inv e' rest) {e : E} {inputs : List I}
    (start : inv e inputs) : AllSound (runArith arith next e inputs) := by
  induction inputs generalizing e with
  | nil => exact fun op member => nomatch member
  | cons i inputs ih =>
    refine List.forall_mem_append.mpr ⟨sound e i inputs start,?_⟩
    cases taken : next e i with
    | none => exact fun op member => nomatch member
    | some e' => exact ih (keeps e i inputs e' start taken)

end Vscreen
