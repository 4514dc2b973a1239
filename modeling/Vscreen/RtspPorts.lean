import Vscreen.RtspAnnounced

/-! The server's UDP ports: SETUP probes and announces a pair (allocate_port_pair), the
sender of a later PLAY binds it (RtpUnicastStream::new, RtpVideoStream::new). Which port the
system assigns is part of the step. -/
namespace Vscreen.Rtsp
open Text

inductive PortKind where
  | rtp
  | rtcp
  deriving DecidableEq, Repr

def TrackInfo.serverPort (t : TrackInfo) : PortKind → UInt16
  | .rtp => t.serverRtpPort
  | .rtcp => t.serverRtcpPort

def Sender.serverPort (x : Sender) : PortKind → UInt16
  | .rtp => x.serverRtpPort
  | .rtcp => x.serverRtcpPort

structure Socket where
  task : TaskId
  kind : PortKind
  port : UInt16
  deriving DecidableEq, Repr

structure Refused where
  task : TaskId
  holder : TaskId
  stopped : Bool
  deriving DecidableEq, Repr

structure Binding where
  manager : RtspSessionManager
  sockets : List Socket
  ended : List TaskId

inductive BindingEvent where
  | server (e : Event)
  | bind (task : TaskId) (assigned : AssignedPort)
  | ended (task : TaskId)
  | closed (task : TaskId)

namespace Binding

def Bound (w : Binding) (port : UInt16) : Prop := ∃ k ∈ w.sockets, k.port = port

def nextBind (w : Binding) (task : TaskId) : Option (Sender × PortKind) := match w.manager.spawned[task]? with
  | none => none
  | some x =>
    if x.interleaved.isSome ∨ task ∈ w.ended ∨ task ∈ w.manager.aborted then none
    else if w.sockets.all fun k => ¬ (k.task = task ∧ k.kind = .rtp) then some (x,.rtp)
    else if w.sockets.all fun k => ¬ (k.task = task ∧ k.kind = .rtcp) then some (x,.rtcp)
    else none

def bind (w : Binding) (task : TaskId) (kind : PortKind) (port : UInt16) : Binding × List Refused :=
  match w.sockets.find? (·.port = port) with
  | some k => ({w with ended := task::w.ended},[⟨task,k.task,k.task ∈ w.manager.aborted⟩])
  | none => ({w with sockets := ⟨task,kind,port⟩::w.sockets},[])

def step (u : CaseMapping) (timeout : Duration) (w : Binding) : BindingEvent → Option (Binding × List Refused)
  | .server e => ((server u timeout).step w.manager e).map fun r => ({w with manager := r.1},[])
  | .bind task assigned => match w.nextBind task with
    | none => none
    | some (x,kind) => some (w.bind task kind (if x.serverPort kind = 0 then assigned else x.serverPort kind))
  | .ended task => if task < w.manager.spawned.length then some ({w with ended := task::w.ended},[]) else none
  | .closed task =>
    if task ∈ w.ended ∨ task ∈ w.manager.aborted then
      some ({w with sockets := w.sockets.filter (·.task ≠ task)},[])
    else none

def machine (u : CaseMapping) (timeout : Duration) : Machine Binding BindingEvent Refused :=
  ⟨⟨.withTimeout timeout,[],[]⟩,step u timeout⟩

end Binding

def HasPort (m : RtspSessionManager) (sessionId : Text) (trackId : UInt8) (kind : PortKind) (port : UInt16) : Prop :=
  ∃ t ∈ announced m sessionId, t.interleavedChannels = none ∧ t.trackId = trackId ∧ t.serverPort kind = port

def Taken (m : RtspSessionManager) (port : UInt16) : Prop := ∃ k i kind, HasPort m k i kind port

def DistinctPorts (m : RtspSessionManager) : Prop :=
  ∀ k i kind k' i' kind' port, HasPort m k i kind port → HasPort m k' i' kind' port → k = k' ∧ i = i' ∧ kind = kind'

def PortProbes.Avoid (probes : PortProbes) (avoid : UInt16 → Prop) : Prop := ∀ rtp, probes.rtp = some rtp →
  ¬ avoid rtp ∧ (probes.nextFree = true → ¬ avoid (rtp + 1)) ∧
    (probes.nextFree = false → ∀ rtcp, probes.rtcp = some rtcp → ¬ avoid rtcp)

def PortProbes.Differ (probes : PortProbes) : Prop :=
  probes.nextFree = false → ∀ rtp rtcp, probes.rtp = some rtp → probes.rtcp = some rtcp → rtp ≠ rtcp

namespace Binding

/-- What the system promises: it assigns, and lets bind, only ports that are not bound. -/
def SystemAnswers (w : Binding) : BindingEvent → Prop
  | .server (.request x) => x.probes.Avoid w.Bound
  | .bind task assigned => ∀ x kind, w.nextBind task = some (x,kind) → x.serverPort kind = 0 → ¬ w.Bound assigned
  | _ => True

def FreshId (w : Binding) : BindingEvent → Prop
  | .server e => Rtsp.FreshId w.manager e
  | _ => True

/-- The ports that the system assigns are not announced for a track, and the two of a pair differ. -/
def Unannounced (u : CaseMapping) (w : Binding) : BindingEvent → Prop
  | .server (.request x) => ∀ p session, Accepted u w.manager (handleRequest u w.manager x).1 x p session →
      p.transport.isTcpInterleaved = false → x.probes.Avoid (Taken w.manager) ∧ x.probes.Differ
  | .bind task assigned => ∀ x kind, w.nextBind task = some (x,kind) → x.serverPort kind = 0 →
      ¬ Taken w.manager assigned
  | _ => True

end Binding
end Vscreen.Rtsp
