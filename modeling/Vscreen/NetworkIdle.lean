import Mathlib.Algebra.GroupWithZero.Nat
import Mathlib.Algebra.Ring.Int.Defs
import Mathlib.Data.Nat.Choose.Basic
import Vscreen.Machine

/-! The wait for an idle network (mcp/navigation.rs): the monitor that its script puts into
a page, the requests of the page, and the tool that polls the monitor. -/
namespace Vscreen.Network

structure Monitor where
  pending : Int
  lastActivity : Int
  deriving DecidableEq, Repr

inductive Flight where
  | idle
  | unseen
  | seen
  deriving DecidableEq, Repr

-- An `XMLHttpRequest`: `listeners` are those of the monitor, none of which is ever removed,
-- and `ended` is how often they have been called.
structure Xhr where
  opened : Bool
  flight : Flight
  listeners : Nat
  ended : Nat
  deriving DecidableEq, Repr

structure Document where
  monitor : Option Monitor
  fetches : Nat
  -- those that were sent before it was there, or by a `fetch` that the page had kept
  missed : Nat
  xhrs : List Xhr
  deriving DecidableEq, Repr

inductive Tool where
  | started
  | polling
  -- it has the monitor as it was in `seen`, at the time `read`, and asks for the time
  | timing (seen : Document) (read : Int)
  | idle (seen : Document) (read now : Int)
  | timedOut
  deriving DecidableEq, Repr

structure Wait where
  now : Int
  document : Document
  tool : Tool
  deriving DecidableEq, Repr

inductive Event where
  | tick (ms : Nat)
  | navigate
  | fetch
  | fetchSettled
  | keptFetch
  | missedSettled
  | create
  | opens (x : Nat)
  | send (x : Nat)
  | loadend (x : Nat)
  | setup
  | readMonitor
  | readNow (pastDeadline : Bool)

inductive Note where
  | setup
  | navigated
  deriving DecidableEq

namespace Document

def blank : Document := ⟨none,0,0,[]⟩

def note (d : Document) (now change : Int) : Document :=
  {d with monitor := d.monitor.map fun m => ⟨m.pending + change,now⟩}

def setXhr (d : Document) (x : Nat) (r : Xhr) : Document := {d with xhrs := d.xhrs.set x r}

def fetch (d : Document) (now : Int) : Document := match d.monitor with
  | none => {d with missed := d.missed + 1}
  | some _ => {d.note now 1 with fetches := d.fetches + 1}

-- An `open` of a request under way ends it without an event.
def opens (d : Document) (x : Nat) (r : Xhr) : Document := d.setXhr x {r with opened := true, flight := .idle}

-- The counter goes up and the listener is there also when the original `send` throws.
def send (d : Document) (now : Int) (x : Nat) (r : Xhr) : Document := match d.monitor with
  | none => if r.opened then d.setXhr x {r with opened := false, flight := .unseen} else d
  | some _ =>
    let r := {r with listeners := r.listeners + 1}
    (d.setXhr x (if r.opened then {r with opened := false, flight := .seen} else r)).note now 1

def loadend (d : Document) (now : Int) (x : Nat) (r : Xhr) : Document :=
  if r.listeners = 0 then d.setXhr x {r with flight := .idle}
  else (d.setXhr x {r with flight := .idle, ended := r.ended + 1}).note now (-r.listeners)

def setup (d : Document) (now : Int) : Document := match d.monitor with
  | none => {d with monitor := some ⟨0,now⟩}
  | some _ => d

def info (d : Document) : Monitor := d.monitor.getD ⟨0,0⟩

end Document

namespace Wait

def onXhr (s : Wait) (x : Nat) (f : Xhr → Option Document) : Option Wait := match s.document.xhrs[x]? with
  | none => none
  | some r => (f r).map fun d => {s with document := d}

def page (s : Wait) : Event → Option Wait
  | .tick ms => some {s with now := s.now + ms}
  | .navigate => some {s with document := .blank}
  | .fetch => some {s with document := s.document.fetch s.now}
  | .fetchSettled => match s.document.fetches with
    | 0 => none
    | n + 1 => some {s with document := {s.document.note s.now (-1) with fetches := n}}
  | .keptFetch => some {s with document := {s.document with missed := s.document.missed + 1}}
  | .missedSettled => match s.document.missed with
    | 0 => none
    | n + 1 => some {s with document := {s.document with missed := n}}
  | .create => some {s with document := {s.document with xhrs := s.document.xhrs ++ [⟨false,.idle,0,0⟩]}}
  | .opens x => s.onXhr x fun r => some (s.document.opens x r)
  | .send x => s.onXhr x fun r => some (s.document.send s.now x r)
  | .loadend x => s.onXhr x fun r => if r.flight = .idle then none else some (s.document.loadend s.now x r)
  | _ => none

def answer (s : Wait) (idleThreshold : Nat) (seen : Document) (read : Int) (pastDeadline : Bool) : Tool :=
  if seen.info.pending = 0 ∧ s.now - seen.info.lastActivity ≥ idleThreshold then .idle seen read s.now
  else if pastDeadline then .timedOut else .polling

def noted : Event → List Note
  | .setup => [.setup]
  | .navigate => [.navigated]
  | _ => []

def step (idleThreshold : Nat) (s : Wait) : Event → Option (Wait × List Note)
  | .setup => match s.tool with
    | .started => some ({s with document := s.document.setup s.now, tool := .polling},noted .setup)
    | _ => none
  | .readMonitor => match s.tool with
    | .polling => some ({s with tool := .timing s.document s.now},[])
    | _ => none
  | .readNow pastDeadline => match s.tool with
    | .timing seen read => some ({s with tool := s.answer idleThreshold seen read pastDeadline},[])
    | _ => none
  | event => (s.page event).map (·,noted event)

end Wait

def Xhr.counts (r : Xhr) : Int := (if r.flight = .seen then 1 else 0) - r.ended.choose 2

def Document.inFlight (d : Document) : Nat := d.fetches + d.missed + d.xhrs.countP (·.flight ≠ .idle)

/-- Objects are sent when they are open, and opened when their request is not under way. -/
def Proper (s : Wait) : Event → Prop
  | .opens x => ∀ r, s.document.xhrs[x]? = some r → r.flight = .idle
  | .send x => ∀ r, s.document.xhrs[x]? = some r → r.opened = true
  | _ => True

section Steps
variable {s s' : Wait} {d : Document} {x : Nat} {r : Xhr} {now : Int}

end Steps

section Runs
variable {start : Int} {s s' : Wait} {idleThreshold : Nat} {trace out : List Note}

end Runs

end Vscreen.Network
