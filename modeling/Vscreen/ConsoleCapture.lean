import Mathlib.Data.List.Basic
import Mathlib.Data.List.Count
import Vscreen.Json
import Vscreen.Machine
import Vscreen.Ring

/-! The console of a page (supervisor.rs): the script that wraps its methods, the script that
takes what was captured out of the page, and the `ConsoleBuffer` of the instance (memory.rs).
Any tool call may run either script; its answer comes back later. Times are left out. -/
namespace Vscreen.Console
open Json (Units)

inductive Level where
  | log
  | warn
  | error
  | info
  deriving DecidableEq, Repr

structure Message where
  level : Level
  text : Units
  deriving DecidableEq, Repr

def paired : Units → Bool
  | [] => true
  | [u] => u < 0xd800 || 0xe000 ≤ u
  | u::v::rest =>
    if 0xd800 ≤ u ∧ u < 0xdc00 then 0xdc00 ≤ v && v < 0xe000 && paired rest
    else (u < 0xd800 || 0xe000 ≤ u) && paired (v::rest)

structure Page where
  captured : Option (List Message)
  wrapped : Bool

namespace Page

def fresh : Page := ⟨none,false⟩

def pending (p : Page) : List Message := p.captured.getD []

def log (p : Page) (m : Message) : Page :=
  if p.wrapped then
    let pushed := p.pending ++ [m]
    {p with captured := some (if 200 < pushed.length then pushed.tail else pushed)}
  else p

def enable (p : Page) : Page := match p.captured with
  | some _ => p
  | none => ⟨some [],true⟩

def take (p : Page) : Page × List Message := ({p with captured := some []},p.pending)

end Page

structure Instance where
  page : Page
  inFlight : List (List Message)
  buffer : Ring Message

inductive Event where
  | log (m : Message)
  | navigate
  | enable
  | sync
  | receive (k : Nat)
  | lost (k : Nat)
  | clear

inductive Note where
  | logged (m : Message) (captured : Bool)
  | navigated
  | enabled
  | synced
  | cleared
  deriving DecidableEq, Repr

def pushAll (buffer : Ring Message) (batch : List Message) : Ring Message := batch.foldl Ring.push buffer

namespace Instance

-- A batch that cannot be read is dropped whole.
def receive (s : Instance) (batch : List Message) : Instance :=
  if batch.all (fun m => paired m.text) then {s with buffer := pushAll s.buffer batch} else s

def step (s : Instance) : Event → Option (Instance × List Note)
  | .log m => some ({s with page := s.page.log m},[.logged m s.page.wrapped])
  | .navigate => some ({s with page := .fresh},[.navigated])
  | .enable => some ({s with page := s.page.enable},[.enabled])
  | .sync => some ({s with page := s.page.take.1, inFlight := s.inFlight ++ [s.page.take.2]},[.synced])
  | .receive k => (s.inFlight[k]?).map fun batch => ({s with inFlight := s.inFlight.eraseIdx k}.receive batch,[])
  | .lost k => some ({s with inFlight := s.inFlight.eraseIdx k},[])
  | .clear => some ({s with buffer := s.buffer.clear},[.cleared])

def kept (s : Instance) : List Message := s.buffer.entries ++ s.inFlight.flatten ++ s.page.pending

end Instance

def console : Machine Instance Event Note where
  init := ⟨.fresh,[],.new 200⟩
  step := Instance.step

def capturedIn (trace : List Note) : List Message := trace.filterMap fun note => match note with
  | .logged m true => some m
  | _ => none

inductive First where
  | none
  | enable
  | sync
  deriving DecidableEq, Repr

def First.after : First → Note → First
  | _,.navigated => .none
  | .none,.enabled => .enable
  | .none,.synced => .sync
  | first,_ => first

def firstScript (trace : List Note) : First := trace.foldl First.after .none

section
variable {s s' : Instance} {trace : List Note}

structure Described (s : Instance) (trace : List Note) : Prop where
  wrapped : s.page.wrapped = true ↔ firstScript trace = .enable
  absent : s.page.captured = none ↔ firstScript trace = .none
  told : ∀ before m c after, trace = before ++ .logged m c::after → (c = true ↔ firstScript before = .enable)

theorem firstAppend (trace : List Note) (note : Note) : firstScript (trace ++ [note]) = (firstScript trace).after note := by
  rw [firstScript,List.foldl_append]
  rfl

theorem describedKeep (described : Described s trace) (same : s'.page = s.page) : Described s' (trace ++ []) := by
  rw [List.append_nil]
  exact ⟨same ▸ described.wrapped,same ▸ described.absent,described.told⟩

theorem describedNote (described : Described s trace) (note : Note)
    (wrapped : s'.page.wrapped = true ↔ (firstScript trace).after note = .enable)
    (absent : s'.page.captured = none ↔ (firstScript trace).after note = .none)
    (told : ∀ m c, note = .logged m c → (c = true ↔ firstScript trace = .enable)) : Described s' (trace ++ [note]) := by
  refine ⟨by rw [firstAppend]; exact wrapped,by rw [firstAppend]; exact absent,?_⟩
  intro before m c after split
  rcases List.append_eq_append_iff.mp split with ⟨rest,same,last⟩ | ⟨rest,same,last⟩
  · cases rest with
    | nil =>
      cases last
      rw [List.append_nil] at same
      rw [same]
      exact told m c rfl
    | cons first more =>
      cases more <;> cases last
  · cases rest with
    | nil =>
      cases last
      rw [List.append_nil] at same
      rw [← same]
      exact told m c rfl
    | cons first more =>
      cases last
      exact described.told before m c more same

theorem describedStep (described : Described s trace) {event : Event} {out : List Note}
    (taken : s.step event = some (s',out)) : Described s' (trace ++ out) := by
  obtain ⟨wrapped,absent,told⟩ := described
  have old : Described s trace := ⟨wrapped,absent,told⟩
  cases event with
  | log m =>
    cases taken
    refine describedNote old _ ?_ ?_ ?_
    · simp only [Page.log]
      split <;> cases first : firstScript trace <;> simpa [First.after,first] using wrapped
    · simp only [Page.log]
      split
      · rename_i on
        rw [wrapped.mp on]
        simp [First.after]
      · cases first : firstScript trace <;> simpa [First.after,first] using absent
    · intro m' c same
      cases same
      exact wrapped
  | navigate =>
    cases taken
    refine describedNote old _ ?_ ?_ (fun m c absurd => by cases absurd)
    · cases firstScript trace <;> simp [First.after,Page.fresh]
    · cases firstScript trace <;> simp [First.after,Page.fresh]
  | enable =>
    cases taken
    refine describedNote old _ ?_ ?_ (fun m c absurd => by cases absurd)
    all_goals
      simp only [Page.enable]
      cases first : firstScript trace with
      | none =>
        rw [absent.mpr first]
        simp [First.after]
      | _ =>
        cases there : s.page.captured with
        | none => exact absurd (absent.mp there) (by rw [first]; decide)
        | some pending => simp [First.after,wrapped,first,there]
  | sync =>
    cases taken
    refine describedNote old _ ?_ ?_ (fun m c absurd => by cases absurd)
    · cases first : firstScript trace <;> simp [First.after,Page.take,wrapped,first]
    · cases first : firstScript trace <;> simp [First.after,Page.take]
  | receive k =>
    obtain ⟨batch,-,same⟩ := Option.map_eq_some_iff.mp taken
    cases same
    refine describedKeep old ?_
    simp only [Instance.receive]
    split <;> rfl
  | lost k =>
    cases taken
    exact describedKeep old rfl
  | clear =>
    cases taken
    refine describedNote old _ ?_ ?_ (fun m c absurd => by cases absurd)
    · cases first : firstScript trace <;> simpa [First.after,first] using wrapped
    · cases first : firstScript trace <;> simpa [First.after,first] using absent

theorem capturedAppend (trace out : List Note) : capturedIn (trace ++ out) = capturedIn trace ++ capturedIn out :=
  List.filterMap_append ..

theorem pushDrops (buffer : Ring Message) (m : Message) : ∃ gone, buffer.entries ++ [m] = gone ++ (buffer.push m).entries ∧
    (gone = [] ∨ buffer.maxEntries ≤ (buffer.push m).entries.length) ∧
    buffer.entries.length ≤ (buffer.push m).entries.length := by
  simp only [Ring.push]
  cases full : buffer.isFull with
  | false => exact ⟨[],rfl,.inl rfl,by simp⟩
  | true =>
    cases entries : buffer.entries with
    | nil => exact ⟨[],rfl,.inl rfl,by simp⟩
    | cons first rest =>
      have bound : buffer.maxEntries ≤ (first::rest).length := by
        rw [← entries]
        simpa [Ring.isFull] using full
      refine ⟨[first],rfl,.inr ?_,?_⟩
      · simpa using bound
      · simp

theorem pushAllDrops : ∀ (batch : List Message) (buffer : Ring Message),
    ∃ gone, buffer.entries ++ batch = gone ++ (pushAll buffer batch).entries ∧
      (gone = [] ∨ buffer.maxEntries ≤ (pushAll buffer batch).entries.length) ∧
      buffer.entries.length ≤ (pushAll buffer batch).entries.length ∧
      (pushAll buffer batch).maxEntries = buffer.maxEntries := by
  intro batch
  induction batch with
  | nil => intro buffer; exact ⟨[],List.append_nil _,.inl rfl,Nat.le_refl _,rfl⟩
  | cons m rest ih =>
    intro buffer
    obtain ⟨first,split,bound,grows⟩ := pushDrops buffer m
    obtain ⟨later,split',bound',grows',same⟩ := ih (buffer.push m)
    refine ⟨first ++ later,?_,?_,Nat.le_trans grows grows',same⟩
    · rw [← List.singleton_append,← List.append_assoc,split,List.append_assoc,split',List.append_assoc]
      rfl
    · rcases bound' with none | full'
      · rcases bound with none' | full
        · exact .inl (by rw [none,none']; rfl)
        · exact .inr (Nat.le_trans full grows')
      · exact .inr full'

theorem pendingLog (p : Page) (m : Message) (wrapped : p.wrapped = true) :
    ∃ gone, p.pending ++ [m] = gone ++ (p.log m).pending ∧ (p.pending.length < 200 → gone = []) := by
  simp only [Page.log,if_pos wrapped]
  split
  · rename_i full
    cases pending : p.pending with
    | nil => exact ⟨[m],rfl,fun _ => absurd full (by rw [pending]; exact Nat.not_lt.mpr (Nat.le_add_left 1 199))⟩
    | cons first rest =>
      refine ⟨[first],rfl,fun short => absurd full ?_⟩
      rw [List.length_append,pending,List.length_singleton]
      omega
  · exact ⟨[],rfl,fun _ => rfl⟩

theorem pendingEnable (p : Page) : p.enable.pending = p.pending := by
  unfold Page.enable
  split
  · rfl
  · rename_i none
    rw [Page.pending,Page.pending,none]
    rfl

theorem countFlatten {batches : List (List Message)} {k : Nat} {batch : List Message} (there : batches[k]? = some batch)
    (m : Message) : batch.count m + (batches.eraseIdx k).flatten.count m = batches.flatten.count m := by
  induction batches generalizing k with
  | nil => cases there
  | cons first rest ih =>
    cases k with
    | zero =>
      cases there
      rw [List.eraseIdx_zero,List.tail_cons,List.flatten_cons,List.count_append]
    | succ k =>
      rw [List.eraseIdx_cons_succ,List.flatten_cons,List.flatten_cons,List.count_append,List.count_append,← ih there]
      omega

theorem countErase (batches : List (List Message)) (k : Nat) (m : Message) :
    (batches.eraseIdx k).flatten.count m ≤ batches.flatten.count m := by
  cases there : batches[k]? with
  | none => rw [List.eraseIdx_of_length_le (List.getElem?_eq_none_iff.mp there)]
  | some batch =>
    have parts := countFlatten there m
    omega

def Bounded (s : Instance) (trace : List Note) : Prop :=
  ∀ m, s.kept.count m ≤ (capturedIn trace).count m

theorem boundedStep (bounded : Bounded s trace) {event : Event} {out : List Note}
    (taken : s.step event = some (s',out)) : Bounded s' (trace ++ out) := by
  intro m
  have before := bounded m
  rw [capturedAppend,List.count_append]
  simp only [Instance.kept,List.count_append] at before ⊢
  cases event with
  | log m' =>
    cases taken
    cases wrapped : s.page.wrapped with
    | false =>
      have same : s.page.log m' = s.page := by simp [Page.log,wrapped]
      rw [same]
      dsimp only
      omega
    | true =>
      obtain ⟨gone,split,-⟩ := pendingLog s.page m' wrapped
      have parts := congrArg (List.count m) split
      have one : capturedIn [.logged m' true] = [m'] := rfl
      rw [one]
      rw [List.count_append,List.count_append] at parts
      dsimp only
      omega
  | navigate =>
    cases taken
    have empty : Page.fresh.pending.count m = 0 := rfl
    dsimp only
    omega
  | enable =>
    cases taken
    dsimp only
    rw [pendingEnable]
    omega
  | sync =>
    cases taken
    simp only [Page.take,Page.pending,Option.getD_some,List.count_nil,List.flatten_append,List.flatten_singleton,
      List.count_append] at before ⊢
    omega
  | receive k =>
    obtain ⟨batch,there,same⟩ := Option.map_eq_some_iff.mp taken
    cases same
    have parts := countFlatten there m
    simp only [Instance.receive]
    split
    · obtain ⟨gone,split,-⟩ := pushAllDrops batch s.buffer
      have pushed := congrArg (List.count m) split
      rw [List.count_append,List.count_append] at pushed
      dsimp only
      omega
    · dsimp only
      omega
  | lost k =>
    cases taken
    have fewer := countErase s.inFlight k m
    dsimp only
    omega
  | clear =>
    cases taken
    have empty : s.buffer.clear.entries.count m = 0 := rfl
    dsimp only
    omega

theorem capturedOnce (run : console.Reaches s trace) :
    (∀ before m c after, trace = before ++ .logged m c::after → (c = true ↔ firstScript before = .enable)) ∧
    ∀ m, s.kept.count m ≤ (capturedIn trace).count m := by
  have both : Described s trace ∧ Bounded s trace := by
    refine Machine.runInvariant (fun s trace => Described s trace ∧ Bounded s trace) ⟨⟨?_,?_,?_⟩,fun m => Nat.zero_le _⟩ ?_ run
    · exact ⟨fun absurd => (by cases absurd),fun absurd => by cases absurd⟩
    · exact ⟨fun _ => rfl,fun _ => rfl⟩
    · intro before m c after split
      cases before <;> cases split
    · intro s trace event s' out kept _ taken
      exact ⟨describedStep kept.1 taken,boundedStep kept.2 taken⟩
  exact ⟨both.1.told,both.2⟩

theorem neverWrapped : ∃ (s : Instance) (trace : List Note), console.Reaches s trace ∧ firstScript trace = .sync ∧
    (∀ before m c after, trace = before ++ .logged m c::after → (c = true ↔ firstScript before = .enable)) ∧
    ∀ m, s.kept.count m ≤ (capturedIn trace).count m := by
  have synced := Machine.runStep (.start : console.Reaches _ _) .sync trivial rfl
  have enabled := Machine.runStep synced .enable trivial rfl
  have logged := Machine.runStep enabled (.log ⟨.error,[33]⟩) trivial rfl
  exact ⟨_,_,logged,rfl,capturedOnce logged⟩

/-- No captured message is pushed out of the page or left on it, each can be read, and the
answers to syncs arrive, in their order. -/
def Orderly (s : Instance) : Event → Prop
  | .log m => s.page.wrapped = true → s.page.pending.length < 200 ∧ paired m.text = true
  | .navigate => s.page.pending = []
  | .receive k => k = 0
  | .lost _ => False
  | _ => True

structure Complete (s : Instance) (trace : List Note) : Prop where
  readable : ∀ m ∈ s.inFlight.flatten ++ s.page.pending, paired m.text = true
  capacity : s.buffer.maxEntries = 200
  whole : ∃ gone, capturedIn trace = gone ++ s.kept ∧
    (gone = [] ∨ .cleared ∈ trace ∨ 200 ≤ s.buffer.entries.length)

theorem completeKeep (complete : Complete s trace) {out : List Note} (buffer : s'.buffer = s.buffer)
    (kept : s'.inFlight.flatten ++ s'.page.pending = s.inFlight.flatten ++ s.page.pending ++ capturedIn out)
    (readable : ∀ m ∈ capturedIn out, paired m.text = true) : Complete s' (trace ++ out) := by
  obtain ⟨gone,split,why⟩ := complete.whole
  refine ⟨?_,buffer ▸ complete.capacity,gone,?_,?_⟩
  · rw [kept]
    exact List.forall_mem_append.mpr ⟨complete.readable,readable⟩
  · rw [capturedAppend,split,Instance.kept,Instance.kept,buffer]
    simp only [List.append_assoc] at kept ⊢
    rw [kept]
  · rw [buffer]
    exact why.imp_right (Or.imp_left fun before => List.mem_append_left _ before)

theorem completeReceive {batch : List Message} (complete : Complete s trace) (there : s.inFlight[0]? = some batch) :
    Complete ({s with inFlight := s.inFlight.eraseIdx 0}.receive batch) trace := by
  obtain ⟨rest,flight⟩ : ∃ rest, s.inFlight = batch::rest := by
    cases flight : s.inFlight with
    | nil => rw [flight] at there; cases there
    | cons first rest =>
      rw [flight] at there
      cases there
      exact ⟨rest,rfl⟩
  obtain ⟨readable,capacity,gone,split,why⟩ := complete
  rw [Instance.kept,flight] at split
  rw [flight] at readable ⊢
  have all : batch.all (fun m => paired m.text) = true := by
    refine List.all_eq_true.mpr fun m member => readable m ?_
    exact List.mem_append_left _ (List.mem_append_left _ member)
  obtain ⟨dropped,pushed,bound,grows,same⟩ := pushAllDrops batch s.buffer
  simp only [Instance.receive,all,if_true,List.eraseIdx_zero,List.tail_cons]
  refine ⟨?_,same.trans capacity,gone ++ dropped,?_,?_⟩
  · intro m member
    refine readable m ?_
    rcases List.mem_append.mp member with later | pending
    · exact List.mem_append_left _ (List.mem_append_right _ later)
    · exact List.mem_append_right _ pending
  · rw [split,List.flatten_cons,← List.append_assoc s.buffer.entries,pushed]
    simp only [Instance.kept,List.append_assoc]
  · rw [capacity] at bound
    rcases why with none | cleared | full
    · rcases bound with none' | full
      · exact .inl (by rw [none,none']; rfl)
      · exact .inr (.inr full)
    · exact .inr (.inl cleared)
    · exact .inr (.inr (Nat.le_trans full grows))

theorem completeStep (complete : Complete s trace) {event : Event} {out : List Note} (orderly : Orderly s event)
    (taken : s.step event = some (s',out)) : Complete s' (trace ++ out) := by
  cases event with
  | log m =>
    cases taken
    cases wrapped : s.page.wrapped with
    | false =>
      have same : s.page.log m = s.page := by simp [Page.log,wrapped]
      exact completeKeep complete rfl (by rw [same]; exact (List.append_nil _).symm) (fun m absurd => by cases absurd)
    | true =>
      obtain ⟨short,readable⟩ := orderly wrapped
      obtain ⟨gone,split,none⟩ := pendingLog s.page m wrapped
      rw [none short,List.nil_append] at split
      refine completeKeep complete rfl ?_ ?_
      · rw [← split,List.append_assoc]
        rfl
      · intro m' member
        cases List.mem_singleton.mp member
        exact readable
  | navigate =>
    cases taken
    have empty : s.page.pending = [] := orderly
    exact completeKeep complete rfl (by rw [empty]; exact (List.append_nil _).symm) (fun m absurd => by cases absurd)
  | enable =>
    cases taken
    exact completeKeep complete rfl (by rw [pendingEnable]; exact (List.append_nil _).symm) (fun m absurd => by cases absurd)
  | sync =>
    cases taken
    refine completeKeep complete rfl ?_ (fun m absurd => by cases absurd)
    rw [List.flatten_append,List.flatten_singleton]
    rfl
  | receive k =>
    cases orderly
    obtain ⟨batch,there,same⟩ := Option.map_eq_some_iff.mp taken
    cases same
    rw [List.append_nil]
    exact completeReceive complete there
  | lost k => exact orderly.elim
  | clear =>
    cases taken
    obtain ⟨readable,capacity,gone,split,-⟩ := complete
    refine ⟨readable,capacity,gone ++ s.buffer.entries,?_,.inr (.inl (List.mem_append_right _ List.mem_cons_self))⟩
    have none : capturedIn [.cleared] = [] := rfl
    have empty : s.buffer.clear.entries = [] := rfl
    rw [capturedAppend,split,Instance.kept,Instance.kept,none,empty]
    simp only [List.append_assoc,List.append_nil,List.nil_append]

theorem consoleComplete (run : console.Run Orderly s trace) : ∃ gone,
    capturedIn trace = gone ++ s.buffer.entries ++ s.inFlight.flatten ++ s.page.pending ∧
      (gone = [] ∨ .cleared ∈ trace ∨ 200 ≤ s.buffer.entries.length) := by
  have complete : Complete s trace := by
    refine Machine.runInvariant Complete ⟨fun m absurd => (by cases absurd),rfl,[],rfl,.inl rfl⟩ ?_ run
    intro s trace event s' out complete orderly taken
    exact completeStep complete orderly taken
  obtain ⟨gone,split,why⟩ := complete.whole
  refine ⟨gone,?_,why⟩
  rw [split,Instance.kept]
  simp only [List.append_assoc]

end

theorem loggedBetween : ∃ (s : Instance) (trace : List Note), s.buffer.entries = [⟨.log,[97]⟩] ∧
    s.page.pending = [⟨.error,[98]⟩] ∧ ∃ gone,
    capturedIn trace = gone ++ s.buffer.entries ++ s.inFlight.flatten ++ s.page.pending ∧
      (gone = [] ∨ .cleared ∈ trace ∨ 200 ≤ s.buffer.entries.length) := by
  have enabled := Machine.runStep (.start : console.Run Orderly _ _) .enable trivial rfl
  have logged := Machine.runStep enabled (.log ⟨.log,[97]⟩) (fun _ => by decide) rfl
  have synced := Machine.runStep logged .sync trivial rfl
  have more := Machine.runStep synced (.log ⟨.error,[98]⟩) (fun _ => by decide) rfl
  have received := Machine.runStep more (.receive 0) rfl rfl
  exact ⟨_,_,rfl,rfl,consoleComplete received⟩

end Vscreen.Console
