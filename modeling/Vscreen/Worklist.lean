import Mathlib.Data.List.Nodup
import Mathlib.Data.List.Perm.Subperm
import Mathlib.Logic.Relation

/-! Collecting what is below a root: a stack of nodes, each expanded once. Where no node is
the child of two, nothing is found twice, and no set of visited nodes is needed. -/
namespace Vscreen.Worklist

section
variable {α : Type} (children : α → List α) (root : α)

def collect [DecidableEq α] : Nat → List α → List α → Option (List α)
  | _,[],result => some result
  | 0,_::_,_ => none
  | rounds + 1,parent::stack,result =>
    let found := (children parent).filter (· ≠ root)
    collect rounds (found.reverse ++ stack) (result ++ found)

abbrev Below : α → α → Prop := Relation.TransGen fun parent child => child ∈ children parent

/-- No node is listed twice, under one parent or under two. -/
structure Forest (nodes : List α) : Prop where
  distinct : ∀ parent, (children parent).Nodup
  single : ∀ {parent other child}, child ∈ children parent → child ∈ children other → parent = other
  listed : ∀ {parent child}, child ∈ children parent → child ∈ nodes

structure Collecting (done stack result : List α) : Prop where
  parts : (root::result).Perm (done ++ stack)
  once : (root::result).Nodup
  found : ∀ child ∈ result, ∃ parent ∈ done, child ∈ children parent
  expanded : ∀ parent ∈ done, ∀ child ∈ children parent, child ≠ root → child ∈ result
  below : ∀ child ∈ result, Below children root child
  after : ∀ before child later, result = before ++ child::later →
    ∃ parent, child ∈ children parent ∧ (parent = root ∨ parent ∈ before)

variable {children root} {nodes done stack result : List α} {parent : α}

theorem collectingStart : Collecting children root [] [root] [] where
  parts := List.Perm.refl _
  once := List.nodup_singleton root
  found := fun child absurd => by cases absurd
  expanded := fun parent absurd => by cases absurd
  below := fun child absurd => by cases absurd
  after := by
    intro before child later split
    cases before <;> cases split

theorem stackReached (collecting : Collecting children root done stack result) (waits : parent ∈ stack) :
    parent = root ∨ parent ∈ result ∧ Below children root parent := by
  rcases List.mem_cons.mp (collecting.parts.mem_iff.mpr (List.mem_append_right _ waits)) with same | member
  · exact .inl same
  · exact .inr ⟨member,collecting.below parent member⟩

theorem foundNew (forest : Forest children nodes) (collecting : Collecting children root done (parent::stack) result)
    {child : α} (member : child ∈ children parent) : child ∉ result := by
  intro before
  obtain ⟨other,expanded,listed⟩ := collecting.found child before
  rw [forest.single listed member] at expanded
  have once : (done ++ parent::stack).Nodup := collecting.parts.nodup_iff.mp collecting.once
  exact (List.disjoint_of_nodup_append once) expanded List.mem_cons_self

theorem collectingStep [DecidableEq α] (forest : Forest children nodes) (collecting : Collecting children root done (parent::stack) result) :
    Collecting children root (done ++ [parent])
      (((children parent).filter (· ≠ root)).reverse ++ stack) (result ++ (children parent).filter (· ≠ root)) := by
  have fresh : ∀ child ∈ (children parent).filter (· ≠ root), child ∈ children parent ∧ child ≠ root := by
    intro child member
    simpa using List.mem_filter.mp member
  have reached := stackReached collecting List.mem_cons_self
  generalize same : (children parent).filter (· ≠ root) = new at fresh ⊢
  refine ⟨?_,?_,?_,?_,?_,?_⟩
  · have parts := collecting.parts.append_right new
    refine parts.trans ?_
    rw [List.append_assoc,List.append_assoc,List.singleton_append,List.cons_append]
    refine List.Perm.append_left done (List.Perm.cons parent ?_)
    exact (List.perm_append_comm).trans ((List.reverse_perm new).symm.append_right stack)
  · rw [← List.cons_append]
    refine List.Nodup.append collecting.once ?_ ?_
    · rw [← same]
      exact (forest.distinct parent).filter _
    · intro child before member
      obtain ⟨listed,other⟩ := fresh child member
      rcases List.mem_cons.mp before with root | old
      · exact other root
      · exact foundNew forest collecting listed old
  · intro child member
    rcases List.mem_append.mp member with old | now
    · obtain ⟨other,expanded,listed⟩ := collecting.found child old
      exact ⟨other,List.mem_append_left _ expanded,listed⟩
    · exact ⟨parent,by simp,(fresh child now).1⟩
  · intro other expanded child listed apart
    rcases List.mem_append.mp expanded with old | now
    · exact List.mem_append_left _ (collecting.expanded other old child listed apart)
    · cases List.mem_singleton.mp now
      refine List.mem_append_right _ ?_
      rw [← same]
      exact List.mem_filter.mpr ⟨listed,by simpa using apart⟩
  · intro child member
    rcases List.mem_append.mp member with old | now
    · exact collecting.below child old
    · rcases reached with rfl | ⟨-,below⟩
      · exact .single (fresh child now).1
      · exact .tail below (fresh child now).1
  · intro before child later split
    rcases List.append_eq_append_iff.mp split with ⟨rest,whole,now⟩ | ⟨rest,whole,now⟩
    · have member : child ∈ new := by rw [now]; simp
      refine ⟨parent,(fresh child member).1,reached.imp_right fun known => ?_⟩
      rw [whole]
      exact List.mem_append_left _ known.1
    · cases rest with
      | nil =>
        rw [List.append_nil] at whole
        have member : child ∈ new := by rw [List.nil_append] at now; rw [← now]; exact List.mem_cons_self
        exact ⟨parent,(fresh child member).1,reached.imp_right fun known => by rw [← whole]; exact known.1⟩
      | cons first more =>
        cases now
        exact collecting.after before child more whole

theorem roundsLeft (forest : Forest children nodes) (collecting : Collecting children root done (parent::stack) result) :
    done.length < nodes.length + 1 := by
  have inside : (root::result) ⊆ root::nodes := by
    intro child member
    rcases List.mem_cons.mp member with rfl | found
    · exact List.mem_cons_self
    · obtain ⟨other,-,listed⟩ := collecting.found child found
      exact List.mem_cons_of_mem _ (forest.listed listed)
  have few := (List.subperm_of_subset collecting.once inside).length_le
  have lengths := collecting.parts.length_eq
  simp only [List.length_append,List.length_cons] at lengths few
  omega

theorem collectFrom [DecidableEq α] (forest : Forest children nodes) : ∀ {rounds : Nat} {done stack result : List α},
    Collecting children root done stack result → nodes.length + 1 ≤ rounds + done.length →
    ∃ done' result', collect children root rounds stack result = some result' ∧
      Collecting children root done' [] result' := by
  intro rounds
  induction rounds with
  | zero =>
    intro done stack result collecting enough
    cases stack with
    | nil => exact ⟨done,result,rfl,collecting⟩
    | cons parent stack =>
      have few := roundsLeft forest collecting
      omega
  | succ rounds ih =>
    intro done stack result collecting enough
    cases stack with
    | nil => exact ⟨done,result,rfl,collecting⟩
    | cons parent stack =>
      refine ih (collectingStep forest collecting) ?_
      rw [List.length_append,List.length_singleton]
      omega

theorem collectedAll (collecting : Collecting children root done [] result) {child : α} (below : Below children root child)
    (apart : child ≠ root) : child ∈ result := by
  have expanded : ∀ other, other = root ∨ other ∈ result → other ∈ done := by
    intro other known
    have member := collecting.parts.mem_iff.mp (List.mem_cons.mpr known)
    rwa [List.append_nil] at member
  have known : ∀ other, Below children root other → other = root ∨ other ∈ result := by
    intro other below
    induction below with
    | single listed =>
      rw [or_iff_not_imp_left]
      exact collecting.expanded root (expanded root (.inl rfl)) _ listed
    | tail _ listed ih =>
      rw [or_iff_not_imp_left]
      exact collecting.expanded _ (expanded _ ih) _ listed
  exact (known child below).resolve_left apart

variable (root) in
theorem collectExact [DecidableEq α] (forest : Forest children nodes) : ∃ result,
    collect children root (nodes.length + 1) [root] [] = some result ∧ result.Nodup ∧
      (∀ child, child ∈ result ↔ Below children root child ∧ child ≠ root) ∧
      ∀ before child later, result = before ++ child::later →
        ∃ parent, child ∈ children parent ∧ (parent = root ∨ parent ∈ before) := by
  obtain ⟨done,result,collected,collecting⟩ := collectFrom forest collectingStart (Nat.le_refl _)
  obtain ⟨absent,once⟩ := List.nodup_cons.mp collecting.once
  refine ⟨result,collected,once,fun child => ⟨fun member => ⟨collecting.below child member,?_⟩,?_⟩,collecting.after⟩
  · rintro rfl
    exact absent member
  · rintro ⟨below,apart⟩
    exact collectedAll collecting below apart

end

end Vscreen.Worklist
