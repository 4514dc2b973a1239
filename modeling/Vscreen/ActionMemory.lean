import Vscreen.Bytes
import Vscreen.Machine
import Vscreen.Ring
import Vscreen.Text

/-! The screenshot history and the action log of an instance (memory.rs), and how
`record_action` (mcp/mod.rs) fills both. The history and the log have a lock each,
so that other calls can run between the two sections of one call. -/
namespace Vscreen.ActionMemory

abbrev CallId := Nat

structure ScreenshotEntry where
  timestampMs : Nat
  url : Text
  actionLabel : Text
  scrollY : Int
  viewportHeight : Nat
  fullPage : Bool
  data : List Byte
  call : CallId
  deriving DecidableEq, Repr

structure ActionEntry where
  id : UInt64
  timestampMs : Nat
  toolName : Text
  paramsSummary : Text
  resultSummary : Text
  urlBefore : Text
  urlAfter : Text
  screenshotIndex : Option Nat
  call : CallId
  deriving DecidableEq, Repr

abbrev ScreenshotHistory := Ring ScreenshotEntry

structure ActionLog where
  ring : Ring ActionEntry
  nextId : UInt64

def ActionLog.new (maxEntries : Nat) : ActionLog := ⟨Ring.new maxEntries,1⟩

def ActionLog.record (log : ActionLog) (toolName paramsSummary resultSummary urlBefore urlAfter : Text)
    (screenshotIndex : Option Nat) (now : Nat) (call : CallId) : ActionLog where
  ring := log.ring.push ⟨log.nextId,now,toolName,paramsSummary,resultSummary,urlBefore,urlAfter,screenshotIndex,call⟩
  nextId := log.nextId + 1

structure Action where
  toolName : Text
  paramsSummary : Text
  resultSummary : Text

structure Recording where
  action : Action
  url : Text
  screenshotIndex : Option Nat
  call : CallId

structure Memory where
  history : ScreenshotHistory
  log : ActionLog
  recordings : List Recording
  calls : Nat

inductive Event where
  | capture (action : Action) (url : Text) (data : Option (List Byte)) (now : Nat)
  | log (call : CallId) (now : Nat)
  | clear

def actionLabel (a : Action) : Text := a.toolName ++ '('::(a.paramsSummary ++ [')'])

namespace Memory

def pushScreenshot (m : Memory) (a : Action) (url : Text) (data : List Byte) (now : Nat) : ScreenshotHistory × Option Nat :=
  let history := m.history.push ⟨now,url,actionLabel a,0,940,false,data,m.calls⟩
  (history,some (history.len - 1))

def capture (m : Memory) (a : Action) (url : Text) (data : Option (List Byte)) (now : Nat) : Memory :=
  let taken := match data with
    | some data => m.pushScreenshot a url data now
    | none => (m.history,none)
  {m with history := taken.1, recordings := ⟨a,url,taken.2,m.calls⟩::m.recordings, calls := m.calls + 1}

def logAction (m : Memory) (r : Recording) (now : Nat) : Memory :=
  {m with
    log := m.log.record r.action.toolName r.action.paramsSummary r.action.resultSummary r.url r.url r.screenshotIndex now
      r.call
    recordings := m.recordings.filter fun other => other.call ≠ r.call}

def step (m : Memory) : Event → Option (Memory × List Empty)
  | .capture a url data now => some (m.capture a url data now,[])
  | .log call now => match m.recordings.find? (·.call = call) with
    | none => none
    | some r => some (m.logAction r now,[])
  | .clear => some ({m with history := m.history.clear},[])

end Memory

def memory (screenshots actions : Nat) : Machine Memory Event Empty where
  init := ⟨Ring.new screenshots,ActionLog.new actions,[],0⟩
  step := Memory.step

def supervisorMemory : Machine Memory Event Empty := memory 20 100

def Handed (m : Memory) (i : Nat) (call : CallId) : Prop :=
  (∃ entry ∈ m.log.ring.entries, entry.screenshotIndex = some i ∧ entry.call = call) ∨
    ∃ r ∈ m.recordings, r.screenshotIndex = some i ∧ r.call = call

def Own (m : Memory) (i : Nat) (call : CallId) : Prop := ∀ shot, m.history.get i = some shot → shot.call = call

/-- No index that was handed out names another screenshot once the next one is pushed. -/
def Settled (m : Memory) : Event → Prop
  | .capture _ _ (some _) _ => ∀ i call, Handed m i call →
      if m.history.isFull then max m.history.len 1 ≤ i else i ≠ m.history.len
  | _ => True

theorem pushOwn {m : Memory} {a : Action} {url : Text} {data : List Byte} {now i : Nat} {call : CallId}
    (own : Own m i call) (settled : if m.history.isFull then max m.history.len 1 ≤ i else i ≠ m.history.len) :
    ∀ shot, (m.pushScreenshot a url data now).1.get i = some shot → shot.call = call := by
  intro shot found
  simp only [Memory.pushScreenshot] at found
  split at settled
  · rename_i full
    rw [Ring.getBeyond] at found
    · cases found
    · simp only [Ring.push,Ring.len,full,if_true,List.length_append,List.length_tail,List.length_singleton] at settled ⊢
      omega
  · rename_i room
    rw [Ring.pushRoom _ (by simpa using room) settled] at found
    exact own shot found

section Steps
variable {m : Memory} {a : Action} {url : Text} {now : Nat}

theorem missedOwned (inv : ∀ i call, Handed m i call → Own m i call) {i : Nat} {call : CallId}
    (handed : Handed (m.capture a url none now) i call) : Own (m.capture a url none now) i call := by
  refine inv i call ?_
  rcases handed with logged | ⟨r,member,index,same⟩
  · exact .inl logged
  · rcases List.mem_cons.mp member with new | old
    · subst new; cases index
    · exact .inr ⟨r,old,index,same⟩

theorem capturedOwned {data : List Byte} (inv : ∀ i call, Handed m i call → Own m i call)
    (settled : Settled m (.capture a url (some data) now)) {i : Nat} {call : CallId}
    (handed : Handed (m.capture a url (some data) now) i call) : Own (m.capture a url (some data) now) i call := by
  rcases handed with logged | ⟨r,member,index,same⟩
  · exact pushOwn (inv i call (.inl logged)) (settled i call (.inl logged))
  · rcases List.mem_cons.mp member with new | old
    · subst new
      cases index
      cases same
      intro shot found
      have last := Ring.pushLast m.history ⟨now,url,actionLabel a,0,940,false,data,m.calls⟩
      cases found.symm.trans last
      rfl
    · exact pushOwn (inv i call (.inr ⟨r,old,index,same⟩)) (settled i call (.inr ⟨r,old,index,same⟩))

theorem loggedHanded {r : Recording} (member : r ∈ m.recordings) {i : Nat} {call : CallId}
    (handed : Handed (m.logAction r now) i call) : Handed m i call := by
  rcases handed with ⟨entry,logged,index,same⟩ | ⟨other,waiting,index,same⟩
  · rcases Ring.memPush logged with old | new
    · exact .inl ⟨entry,old,index,same⟩
    · subst new
      exact .inr ⟨r,member,index,same⟩
  · exact .inr ⟨other,List.mem_of_mem_filter waiting,index,same⟩

end Steps

theorem indexesOwned {screenshots actions : Nat} {m : Memory} {trace : List Empty}
    (run : Machine.Run (memory screenshots actions) Settled m trace) : ∀ i call, Handed m i call → Own m i call := by
  refine Machine.runInvariant (fun m _ => ∀ i call, Handed m i call → Own m i call) ?_ ?_ run
  · intro i call handed
    rcases handed with ⟨entry,member,-⟩ | ⟨r,member,-⟩ <;> cases member
  · intro m trace event m' out inv settled taken
    cases event with
    | capture a url data now =>
      cases taken
      cases data with
      | none => exact fun i call handed => missedOwned inv handed
      | some data => exact fun i call handed => capturedOwned inv settled handed
    | log call now =>
      simp only [memory,Memory.step] at taken
      split at taken
      · cases taken
      · rename_i r found
        cases taken
        exact fun i owner handed => inv i owner (loggedHanded (List.mem_of_find?_eq_some found) handed)
    | clear =>
      cases taken
      intro i call handed shot found
      cases found

def LogOwns (m : Memory) : Prop := ∀ entry ∈ m.log.ring.entries, ∀ i, entry.screenshotIndex = some i →
  m.history.get i = none ∨ ∃ shot, m.history.get i = some shot ∧ shot.call = entry.call

theorem actionsOwnScreenshots {screenshots actions : Nat} {m : Memory} {trace : List Empty}
    (run : Machine.Run (memory screenshots actions) Settled m trace) : LogOwns m := by
  intro entry member i index
  have own := indexesOwned run i entry.call (.inl ⟨entry,member,index,rfl⟩)
  cases found : m.history.get i with
  | none => exact .inl rfl
  | some shot => exact .inr ⟨shot,rfl,own shot found⟩

def click : Action := ⟨"vscreen_click".toList,[],[]⟩

theorem settledRoom {m : Memory} {a : Action} {url : Text} {data : Option (List Byte)} {now : Nat} (room : m.history.isFull = false)
    (logged : ∀ entry ∈ m.log.ring.entries, entry.screenshotIndex ≠ some m.history.len)
    (waiting : ∀ r ∈ m.recordings, r.screenshotIndex ≠ some m.history.len) : Settled m (.capture a url data now) := by
  cases data with
  | none => trivial
  | some data =>
    rintro i call handed
    rw [room]
    rintro rfl
    rcases handed with ⟨entry,member,index,-⟩ | ⟨r,member,index,-⟩
    · exact logged entry member index
    · exact waiting r member index

theorem interleavedActionsOwn : ∃ m trace, Machine.Run (memory 20 100) Settled m trace ∧
    m.log.ring.entries.map (·.screenshotIndex) = [some 1,some 0,none,some 2] ∧ LogOwns m := by
  have first := Machine.runStep (.start : (memory 20 100).Run Settled _ _) (.capture click [] (some [0xFF]) 5)
    (settledRoom rfl (by decide) (by decide)) rfl
  have second := Machine.runStep first (.capture click [] (some [0xFE]) 6) (settledRoom rfl (by decide) (by decide)) rfl
  have logged := Machine.runStep second (.log 1 7) trivial rfl
  have missed := Machine.runStep logged (.capture click [] none 8) trivial rfl
  have logged := Machine.runStep missed (.log 0 9) trivial rfl
  have logged := Machine.runStep logged (.log 2 9) trivial rfl
  have third := Machine.runStep logged (.capture click [] (some [0xFD]) 10) (settledRoom rfl (by decide) (by decide)) rfl
  have logged := Machine.runStep third (.log 3 11) trivial rfl
  exact ⟨_,_,logged,rfl,actionsOwnScreenshots logged⟩

def rounds (n : Nat) : List Event := (List.range n).flatMap fun k => [.capture click [] (some [0xFF]) k,.log k k]

theorem shiftedScreenshot : ∃ m trace, Machine.Reaches supervisorMemory m trace ∧ ¬ LogOwns m := by
  obtain ⟨m,trace,reached,shifted⟩ := Machine.execWitness supervisorMemory (rounds 21)
    (fun m _ => m.log.ring.entries.any fun entry => entry.screenshotIndex = some 0 ∧
      (m.history.get 0).any fun shot => shot.call ≠ entry.call) (by decide +kernel)
  refine ⟨m,trace,reached,fun owns => ?_⟩
  obtain ⟨entry,member,found⟩ := List.any_eq_true.mp shifted
  obtain ⟨index,other⟩ := of_decide_eq_true found
  rcases owns entry member 0 index with gone | ⟨shot,there,same⟩
  · rw [gone] at other; cases other
  · rw [there] at other
    simp [same] at other

end Vscreen.ActionMemory
