import Mathlib.Data.List.Basic

/-! Bounded histories: a list that drops its oldest entry when a new one comes in
at its capacity. An index counts from the oldest entry that is left. -/
namespace Vscreen

structure Ring (α : Type) where
  entries : List α
  maxEntries : Nat

namespace Ring
variable {α : Type}

def new (maxEntries : Nat) : Ring α := ⟨[],maxEntries⟩

def isFull (r : Ring α) : Bool := r.maxEntries ≤ r.entries.length

def push (r : Ring α) (x : α) : Ring α :=
  {r with entries := if r.isFull then r.entries.tail ++ [x] else r.entries ++ [x]}

def get (r : Ring α) (i : Nat) : Option α := r.entries[i]?

def len (r : Ring α) : Nat := r.entries.length

def clear (r : Ring α) : Ring α := {r with entries := []}

theorem memPush {r : Ring α} {x y : α} (member : y ∈ (r.push x).entries) : y ∈ r.entries ∨ y = x := by
  simp only [push] at member
  split at member
  · rcases List.mem_append.mp member with old | new
    · exact .inl (List.mem_of_mem_tail old)
    · exact .inr (List.mem_singleton.mp new)
  · rcases List.mem_append.mp member with old | new
    · exact .inl old
    · exact .inr (List.mem_singleton.mp new)

theorem pushLast (r : Ring α) (x : α) : (r.push x).get ((r.push x).len - 1) = some x := by
  simp only [push,get,len]
  split <;> simp

theorem pushRoom {r : Ring α} (x : α) {i : Nat} (room : r.isFull = false) (other : i ≠ r.len) :
    (r.push x).get i = r.get i := by
  simp only [push,get,len,room,Bool.false_eq_true,if_false] at other ⊢
  rcases Nat.lt_or_gt_of_ne other with inside | beyond
  · exact List.getElem?_append_left inside
  · have short : (r.entries ++ [x]).length ≤ i := by
      rw [List.length_append,List.length_singleton]
      omega
    rw [List.getElem?_eq_none short,List.getElem?_eq_none (by omega)]

theorem getBeyond {r : Ring α} {i : Nat} (beyond : r.len ≤ i) : r.get i = none := List.getElem?_eq_none beyond

end Ring
end Vscreen
