import Vscreen.TextParts
import Vscreen.Worklist

/-! How vscreen ends the synthesis server (vscreen, synthesis.rs): it collects the processes
below `pnpm` from the answers of `pgrep`, and signals each of them. The processes are those
of one moment; what `lsof` finds on the port afterwards is left out. -/
namespace Vscreen.Processes

structure Process where
  pid : Nat
  parent : Nat
  deriving DecidableEq, Repr

def childrenOf (table : List Process) (pid : Nat) : List Nat := (table.filter fun p => p.parent = pid).map Process.pid

def wordsFrom (current : Text) : Text → List Text
  | [] => if current = [] then [] else [current]
  | c::rest =>
    if isWhitespace c then (if current = [] then wordsFrom [] rest else current::wordsFrom [] rest)
    else wordsFrom (current ++ [c]) rest

def childPids : Option Text → List Nat
  | none => []
  | some output => (wordsFrom [] output).filterMap (Text.parseUnsigned (2 ^ 32))

def collectDescendantPids (pgrep : Nat → Option Text) (rootPid rounds : Nat) : Option (List Nat) :=
  Worklist.collect (fun pid => childPids (pgrep pid)) rootPid rounds [rootPid] []

inductive Signal where
  | term
  | kill
  deriving DecidableEq, Repr

def signals (treePids : List Nat) : List (Signal × Nat) := treePids.map (.term,·) ++ treePids.map (.kill,·)

def stop (pgrep : Nat → Option Text) (pid rounds : Nat) : Option (List (Signal × Nat)) :=
  (collectDescendantPids pgrep pid rounds).map fun treePids => signals (treePids ++ [pid])

def listed (pids : List Nat) : Option Text :=
  if pids = [] then none else some (pids.flatMap fun pid => Text.decimal pid ++ ['\n'])

structure Reports (pgrep : Nat → Option Text) (table : List Process) : Prop where
  distinct : (table.map Process.pid).Nodup
  small : ∀ p ∈ table, p.pid < 2 ^ 32
  answers : ∀ pid, pgrep pid = listed (childrenOf table pid)

theorem wordsVisible {word : Text} (visible : ∀ c ∈ word, isWhitespace c = false) : ∀ (current rest : Text),
    wordsFrom current (word ++ rest) = wordsFrom (current ++ word) rest := by
  induction word with
  | nil =>
    intro current rest
    rw [List.append_nil]
    rfl
  | cons c word ih =>
    intro current rest
    obtain ⟨first,later⟩ := List.forall_mem_cons.mp visible
    rw [List.cons_append,wordsFrom,first,if_neg (by decide),ih later,List.append_assoc]
    rfl

theorem decimalVisible (n : Nat) : ∀ c ∈ Text.decimal n, isWhitespace c = false := by
  intro c member
  have digit : c.isDigit = true := Nat.isDigit_of_mem_toDigits (by decide) (by decide) member
  simp only [Char.isDigit,Bool.and_eq_true,decide_eq_true_eq,UInt32.le_iff_toNat_le] at digit
  have low : 48 ≤ c.toNat := digit.1
  have high : c.toNat ≤ 57 := digit.2
  simp only [isWhitespace,Bool.or_eq_false_iff,Bool.and_eq_false_imp,decide_eq_true_eq,decide_eq_false_iff_not,beq_eq_false_iff_ne]
  omega

theorem wordsListed (pids : List Nat) :
    wordsFrom [] (pids.flatMap fun pid => Text.decimal pid ++ ['\n']) = pids.map Text.decimal := by
  induction pids with
  | nil => rfl
  | cons pid pids ih =>
    have space : isWhitespace '\n' = true := by decide
    have word : Text.decimal pid ≠ [] := Nat.toDigits_ne_nil
    rw [List.flatMap_cons,List.append_assoc,wordsVisible (decimalVisible pid),List.nil_append,List.singleton_append,
      wordsFrom,space,if_pos rfl,if_neg word,ih,List.map_cons]

theorem childPidsListed {pids : List Nat} (small : ∀ pid ∈ pids, pid < 2 ^ 32) : childPids (listed pids) = pids := by
  unfold listed
  split
  · rename_i empty
    rw [empty]
    rfl
  · simp only [childPids,wordsListed]
    clear * - small
    induction pids with
    | nil => rfl
    | cons pid pids ih =>
      obtain ⟨first,later⟩ := List.forall_mem_cons.mp small
      have read : Text.parseUnsigned (2 ^ 32) (Text.decimal pid) = some pid := (Text.Numeral.ofNat pid first).parsed
      rw [List.map_cons,List.filterMap_cons,read,ih later]

theorem memSignals {treePids : List Nat} {signal : Signal} {pid : Nat} :
    (signal,pid) ∈ signals treePids ↔ pid ∈ treePids := by
  cases signal <;> simp [signals]

theorem signalsOnce {treePids : List Nat} (once : treePids.Nodup) : (signals treePids).Nodup := by
  rw [signals,List.nodup_append]
  have single : ∀ signal : Signal, (treePids.map (signal,·)).Nodup :=
    fun signal => once.map fun a b same => congrArg Prod.snd same
  refine ⟨single .term,single .kill,?_⟩
  intro first member last member' same
  obtain ⟨pid,-,rfl⟩ := List.mem_map.mp member
  obtain ⟨other,-,rfl⟩ := List.mem_map.mp member'
  cases same

theorem termFirst {treePids : List Nat} {before after : List (Signal × Nat)} {pid other : Nat}
    (split : signals treePids = before ++ (.kill,pid)::after) (member : other ∈ treePids) : (.term,other) ∈ before := by
  have sent : (.term,other) ∈ treePids.map (Signal.term,·) := List.mem_map.mpr ⟨other,member,rfl⟩
  rcases List.append_eq_append_iff.mp split with ⟨rest,same,-⟩ | ⟨rest,same,kills⟩
  · rw [same]
    exact List.mem_append_left _ sent
  · cases rest with
    | nil =>
      rw [List.append_nil] at same
      rwa [← same]
    | cons first more =>
      have kill : (.kill,pid) ∈ treePids.map (Signal.term,·) := by
        rw [same,← (List.cons.inj kills).1]
        exact List.mem_append_right _ List.mem_cons_self
      obtain ⟨_,-,absurd⟩ := List.mem_map.mp kill
      cases absurd

section
variable {pgrep : Nat → Option Text} {table : List Process}

theorem memChildren {parent child : Nat} :
    child ∈ childrenOf table parent ↔ ∃ p ∈ table, p.parent = parent ∧ p.pid = child := by
  simp only [childrenOf,List.mem_map,List.mem_filter,decide_eq_true_eq,and_assoc]

theorem childPidsExact (reports : Reports pgrep table) (pid : Nat) : childPids (pgrep pid) = childrenOf table pid := by
  rw [reports.answers,childPidsListed]
  intro child member
  obtain ⟨p,inside,-,rfl⟩ := memChildren.mp member
  exact reports.small p inside

theorem processForest (reports : Reports pgrep table) :
    Worklist.Forest (childrenOf table) (table.map Process.pid) where
  distinct := fun parent => (List.filter_sublist.map Process.pid).nodup reports.distinct
  single := by
    intro parent other child here there
    obtain ⟨p,inside,rfl,rfl⟩ := memChildren.mp here
    obtain ⟨q,inside',rfl,same⟩ := memChildren.mp there
    rw [List.inj_on_of_nodup_map reports.distinct inside inside' same.symm]
  listed := by
    intro parent child member
    obtain ⟨p,inside,-,rfl⟩ := memChildren.mp member
    exact List.mem_map_of_mem inside

def InTree (table : List Process) (root pid : Nat) : Prop := pid = root ∨ Worklist.Below (childrenOf table) root pid

theorem treeStopped (reports : Reports pgrep table) (root : Nat) : ∃ sent,
    stop pgrep root (table.length + 1) = some sent ∧ sent.Nodup ∧
    (∀ signal pid, (signal,pid) ∈ sent ↔ InTree table root pid) ∧
    ∀ before pid after, sent = before ++ (.kill,pid)::after → ∀ other, InTree table root other → (.term,other) ∈ before := by
  have answers : (fun pid => childPids (pgrep pid)) = childrenOf table := funext (childPidsExact reports)
  obtain ⟨found,collected,once,exact_,-⟩ := Worklist.collectExact root (processForest reports)
  rw [List.length_map] at collected
  have tree : ∀ pid, pid ∈ found ++ [root] ↔ InTree table root pid := by
    intro pid
    rw [List.mem_append,List.mem_singleton,exact_,InTree]
    constructor
    · rintro (⟨below,-⟩ | same)
      · exact .inr below
      · exact .inl same
    · rintro (same | below)
      · exact .inr same
      · by_cases same : pid = root
        · exact .inr same
        · exact .inl ⟨below,same⟩
  have distinct : (found ++ [root]).Nodup := by
    rw [List.nodup_append]
    refine ⟨once,List.nodup_singleton root,?_⟩
    intro pid member other last
    rw [List.mem_singleton.mp last]
    exact ((exact_ pid).mp member).2
  refine ⟨signals (found ++ [root]),?_,?_,?_,?_⟩
  · rw [stop,collectDescendantPids,answers,collected]
    rfl
  · exact signalsOnce distinct
  · intro signal pid
    rw [memSignals,tree]
  · intro before pid after split other inTree
    exact termFirst split ((tree other).mpr inTree)

end

def synthesisTree : List Process := [⟨10,1⟩,⟨11,10⟩,⟨12,11⟩,⟨13,1⟩]

theorem synthesisStopped : ∃ sent, stop (fun pid => listed (childrenOf synthesisTree pid)) 10 5 = some sent ∧ sent.Nodup ∧
    (∀ signal pid, (signal,pid) ∈ sent ↔ InTree synthesisTree 10 pid) ∧
    ∀ before pid after, sent = before ++ (.kill,pid)::after →
      ∀ other, InTree synthesisTree 10 other → (.term,other) ∈ before :=
  treeStopped ⟨by decide,by decide,fun _ => rfl⟩ 10

end Vscreen.Processes
