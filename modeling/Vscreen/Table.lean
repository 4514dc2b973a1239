import Mathlib.Data.List.AList

/-! Finite tables with one entry per key: the association lists of Mathlib with
the two update laws in one equation each, and predicates on all entries. -/
namespace Vscreen

abbrev Table (κ ν : Type) := AList (fun _ : κ => ν)

namespace Table
variable {κ ν : Type} [DecidableEq κ]

def get (m : Table κ ν) (k : κ) : Option ν := m.lookup k

def put (m : Table κ ν) (k : κ) (v : ν) : Table κ ν := AList.insert k v m

def del (m : Table κ ν) (k : κ) : Table κ ν := AList.erase k m

@[simp] theorem getEmpty (k : κ) : get (∅ : Table κ ν) k = none := AList.lookup_empty k

@[simp] theorem getPut (m : Table κ ν) (k k' : κ) (v : ν) :
    get (put m k v) k' = if k' = k then some v else get m k' := by
  split
  · rename_i same; subst same; exact AList.lookup_insert m
  · rename_i other; exact AList.lookup_insert_ne other

@[simp] theorem getDel (m : Table κ ν) (k k' : κ) :
    get (del m k) k' = if k' = k then none else get m k' := by
  split
  · rename_i same; subst same; exact AList.lookup_erase _ m
  · rename_i other; exact AList.lookup_erase_ne other

theorem memKeys {m : Table κ ν} {k : κ} : k ∈ m.keys ↔ (get m k).isSome :=
  AList.lookup_isSome.symm

def All (p : κ → ν → Prop) (m : Table κ ν) : Prop := ∀ k v, get m k = some v → p k v

theorem allEmpty {p : κ → ν → Prop} : All p (∅ : Table κ ν) := by
  intro k v found; simp at found

theorem allEntries {p : κ → ν → Prop} [∀ k v, Decidable (p k v)] {m : Table κ ν}
    (all : (AList.entries m).all (fun e => decide (p e.1 e.2)) = true) : All p m := by
  intro k v found
  exact of_decide_eq_true (List.all_eq_true.mp all ⟨k,v⟩ (AList.mem_lookup_iff.mp found))

theorem allPut {p : κ → ν → Prop} {m : Table κ ν} {k : κ} {v : ν} (all : All p m) (new : p k v) :
    All p (put m k v) := by
  intro k' v' found
  rw [getPut] at found
  split at found
  · rename_i same; cases Option.some.inj found; subst same; exact new
  · exact all k' v' found

theorem allDel {p : κ → ν → Prop} {m : Table κ ν} {k : κ} (all : All p m) : All p (del m k) := by
  intro k' v' found
  rw [getDel] at found
  split at found
  · contradiction
  · exact all k' v' found

end Table
end Vscreen
