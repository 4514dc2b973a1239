import Mathlib.Data.List.Infix

/-! Bytes and byte lists: facts about every byte by evaluation, the slice of a
list between two positions, and tests at a position. -/
namespace Vscreen

abbrev Byte := UInt8

theorem forallByte {p : Byte → Prop} (all : ∀ i : Fin 256, p (UInt8.ofFin i)) (b : Byte) : p b := by
  have same : UInt8.ofFin ⟨b.toNat,b.toNat_lt⟩ = b := by
    apply UInt8.toNat_inj.mp
    simp
  exact same ▸ all ⟨b.toNat,b.toNat_lt⟩

theorem forallListed {α : Type} {p : α → Prop} [DecidablePred p] {l : List α} (all : l.all (fun a => decide (p a)) = true) :
    ∀ a ∈ l, p a := fun a member => of_decide_eq_true (List.all_eq_true.mp all a member)

def slice {α : Type} (data : List α) (start stop : Nat) : List α := (data.drop start).take (stop - start)

theorem sliceAppend {α : Type} (before middle after : List α) :
    slice (before ++ middle ++ after) before.length (before ++ middle).length = middle := by
  simp [slice,List.append_assoc]

end Vscreen
