import Mathlib.Data.List.Basic

/-! Step machines with outputs, their runs, and the invariant rule. A run is
guarded when every step it takes meets a condition on the state before it.
Nothing here names a program; a model instantiates `step` with its own. -/
namespace Vscreen

structure Machine (σ : Type) (α : Type) (ε : Type) where
  init : σ
  step : σ → α → Option (σ × List ε)

namespace Machine
variable {σ α ε : Type} {M : Machine σ α ε} {guard : σ → α → Prop}

inductive Run (M : Machine σ α ε) (guard : σ → α → Prop) : σ → List ε → Prop where
  | start : Run M guard M.init []
  | step {s trace a s' out} (before : Run M guard s trace) (met : guard s a)
      (taken : M.step s a = some (s',out)) : Run M guard s' (trace ++ out)

abbrev Reaches (M : Machine σ α ε) : σ → List ε → Prop := Run M (fun _ _ => True)

theorem runInvariant (inv : σ → List ε → Prop) (start : inv M.init [])
    (keeps : ∀ {s trace a s' out}, inv s trace → guard s a → M.step s a = some (s',out) →
      inv s' (trace ++ out)) {s trace} (run : Run M guard s trace) : inv s trace := by
  induction run with
  | start => exact start
  | step before met taken ih => exact keeps ih met taken

theorem runOutputs (inv : σ → Prop) (good : ε → Prop) (start : inv M.init)
    (keeps : ∀ {s a s' out}, inv s → guard s a → M.step s a = some (s',out) → inv s' ∧ ∀ o ∈ out, good o)
    {s trace} (run : Run M guard s trace) : inv s ∧ ∀ o ∈ trace, good o := by
  refine runInvariant (fun s trace => inv s ∧ ∀ o ∈ trace, good o) ⟨start,fun o absent => by cases absent⟩ ?_ run
  intro s trace a s' out holds met taken
  obtain ⟨kept,now⟩ := keeps holds.1 met taken
  exact ⟨kept,List.forall_mem_append.mpr ⟨holds.2,now⟩⟩

theorem runStep {s trace s' out} (run : Run M guard s trace) (a : α) (met : guard s a)
    (taken : M.step s a = some (s',out)) : Run M guard s' (trace ++ out) := .step run met taken

theorem runReaches {s trace} (run : Run M guard s trace) : Reaches M s trace := by
  induction run with
  | start => exact .start
  | step before met taken ih => exact .step ih trivial taken

theorem runProject {τ β δ : Type} {N : Machine τ β δ} {guard' : τ → β → Prop} (view : σ → τ) (start : view M.init = N.init)
    (steps : ∀ {s a s' out}, guard s a → M.step s a = some (s',out) →
      view s' = view s ∨ ∃ b out', guard' (view s) b ∧ N.step (view s) b = some (view s',out'))
    {s trace} (run : Run M guard s trace) : ∃ trace', Run N guard' (view s) trace' := by
  induction run with
  | start => exact ⟨[],start ▸ .start⟩
  | step before met taken ih =>
    obtain ⟨trace',ih⟩ := ih
    rcases steps met taken with same | ⟨b,out',met',taken'⟩
    · exact ⟨trace',same ▸ ih⟩
    · exact ⟨trace' ++ out',.step ih met' taken'⟩

def exec (M : Machine σ α ε) : σ → List ε → List α → Option (σ × List ε)
  | s,trace,[] => some (s,trace)
  | s,trace,a::rest => match M.step s a with
    | none => none
    | some (s',out) => exec M s' (trace ++ out) rest

theorem execRun {s trace s' trace'} (actions : List α) (met : ∀ a ∈ actions, ∀ s, guard s a) (run : Run M guard s trace)
    (ok : exec M s trace actions = some (s',trace')) : Run M guard s' trace' := by
  induction actions generalizing s trace with
  | nil => simp only [exec,Option.some.injEq,Prod.mk.injEq] at ok
           obtain ⟨rfl,rfl⟩ := ok; exact run
  | cons a rest ih =>
    simp only [exec] at ok
    split at ok
    · contradiction
    · rename_i taken
      exact ih (fun b member => met b (List.mem_cons_of_mem _ member)) (.step run (met a List.mem_cons_self s) taken) ok

theorem guardedWitness (M : Machine σ α ε) (actions : List α) (met : ∀ a ∈ actions, ∀ s, guard s a) (check : σ → List ε → Bool)
    (ok : (exec M M.init [] actions).any (fun r => check r.1 r.2) = true) :
    ∃ s trace, Run M guard s trace ∧ check s trace = true := by
  cases found : exec M M.init [] actions with
  | none => simp [found] at ok
  | some r => exact ⟨r.1,r.2,execRun actions met .start found,by simpa [found] using ok⟩

theorem execReaches {s trace s' trace'} (actions : List α) (run : Reaches M s trace)
    (ok : exec M s trace actions = some (s',trace')) : Reaches M s' trace' :=
  execRun actions (fun _ _ _ => trivial) run ok

theorem execWitness (M : Machine σ α ε) (actions : List α) (check : σ → List ε → Bool)
    (ok : (exec M M.init [] actions).any (fun r => check r.1 r.2) = true) :
    ∃ s trace, Reaches M s trace ∧ check s trace = true :=
  guardedWitness M actions (fun _ _ _ => trivial) check ok

section
variable [∀ s a, Decidable (guard s a)]

def execMeeting (M : Machine σ α ε) (guard : σ → α → Prop) [∀ s a, Decidable (guard s a)] :
    σ → List ε → List α → Option (σ × List ε)
  | s,trace,[] => some (s,trace)
  | s,trace,a::rest => if guard s a then
      match M.step s a with
      | none => none
      | some (s',out) => execMeeting M guard s' (trace ++ out) rest
    else none

theorem meetingRun {s trace s' trace'} (actions : List α) (run : Run M guard s trace)
    (ok : execMeeting M guard s trace actions = some (s',trace')) : Run M guard s' trace' := by
  induction actions generalizing s trace with
  | nil => simp only [execMeeting,Option.some.injEq,Prod.mk.injEq] at ok
           obtain ⟨rfl,rfl⟩ := ok; exact run
  | cons a rest ih =>
    simp only [execMeeting] at ok
    split at ok
    · rename_i met
      split at ok
      · contradiction
      · rename_i taken; exact ih (.step run met taken) ok
    · contradiction

theorem meetingWitness (M : Machine σ α ε) (guard : σ → α → Prop) [∀ s a, Decidable (guard s a)] (actions : List α)
    (check : σ → List ε → Bool) (ok : (execMeeting M guard M.init [] actions).any (fun r => check r.1 r.2) = true) :
    ∃ s trace, Run M guard s trace ∧ check s trace = true := by
  cases found : execMeeting M guard M.init [] actions with
  | none => simp [found] at ok
  | some r => exact ⟨r.1,r.2,meetingRun actions .start found,by simpa [found] using ok⟩

end

end Machine
end Vscreen
