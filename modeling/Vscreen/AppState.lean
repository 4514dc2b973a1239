import Vscreen.InstanceRegistry
import Vscreen.LockSystem
import Vscreen.RtspHandler

/-! `AppState` (state.rs): the registry, the supervisors, the lock manager and the
RTSP sessions, each a table of its own that instance ids are keys or values of, and
the instance lookup that the RTSP handlers see. -/
namespace Vscreen.Server
open Registry (InstanceRegistry InstanceEntry VScreenError)
open Rtsp (RtspSession RtspSessionManager RtspResponse Exchange InstanceLookup VideoCodec)

structure InstanceSupervisor where
  number : Nat
  videoResolution : UInt32 × UInt32
  videoFramerate : UInt32
  videoCodec : VideoCodec
  deriving DecidableEq, Repr

-- `signalled` and `stopped` are what `delete_instance` has done to entries and
-- supervisors that others may still hold.
structure AppState where
  maxInstances : Nat
  registry : InstanceRegistry
  supervisors : Table InstanceId InstanceSupervisor
  lockManager : Lock.Sys
  rtspSessionManager : RtspSessionManager
  signalled : List InstanceEntry
  stopped : List InstanceSupervisor

inductive Event where
  | create (config : InstanceConfig)
  | setSupervisor (id : Text) (sup : InstanceSupervisor)
  | lock (action : Lock.Sys.Action)
  | rtsp (event : Rtsp.Event)
  | delete (id : Text)

inductive Output where
  | created (result : Except VScreenError InstanceEntry)
  | lock (event : Lock.Event)
  | rtsp (response : RtspResponse)
  | deleted (id : InstanceId) (result : Except VScreenError Unit)

namespace AppState

def setSupervisor (s : AppState) (id : Text) (sup : InstanceSupervisor) : AppState :=
  {s with supervisors := Table.put s.supervisors ⟨id⟩ sup}

def getSupervisor (s : AppState) (id : InstanceId) : Option InstanceSupervisor := Table.get s.supervisors id

def removeSupervisor (s : AppState) (id : InstanceId) : AppState := match Table.get s.supervisors id with
  | none => s
  | some sup => {s with supervisors := Table.del s.supervisors id, stopped := sup::s.stopped}

def createInstance (s : AppState) (config : InstanceConfig) : AppState × Except VScreenError InstanceEntry :=
  ({s with registry := (s.registry.create config s.maxInstances).1},(s.registry.create config s.maxInstances).2)

def deleteInstance (s : AppState) (id : InstanceId) : AppState × Except VScreenError Unit :=
  match s.registry.remove id with
  | (registry,.ok entry) =>
    let signalled := {entry with state := .stopping}
    (removeSupervisor {s with registry := registry, signalled := signalled::s.signalled} id,.ok ())
  | (_,.error e) => (s,.error e)

def lookup (s : AppState) : InstanceLookup where
  instanceExists id := match s.registry.get ⟨id⟩ with
    | .ok _ => true
    | .error _ => false
  subscribeAudio id := (s.getSupervisor ⟨id⟩).isSome
  subscribeVideo id := (s.getSupervisor ⟨id⟩).isSome
  videoResolution id := (s.getSupervisor ⟨id⟩).map (·.videoResolution)
  videoFramerate id := (s.getSupervisor ⟨id⟩).map (·.videoFramerate)
  videoCodec id := ((s.getSupervisor ⟨id⟩).map (·.videoCodec)).getD .h264

def atRequest (s : AppState) : Rtsp.Event → Rtsp.Event
  | .request x => .request {x with lookup := s.lookup}
  | event => event

def step (u : CaseMapping) (timeout : Duration) (s : AppState) : Event → Option (AppState × List Output)
  | .create config => some ((s.createInstance config).1,[.created (s.createInstance config).2])
  | .setSupervisor id sup => some (s.setSupervisor id sup,[])
  | .lock action => match s.lockManager.step action with
    | none => none
    | some (locks,events) => some ({s with lockManager := locks},events.map .lock)
  | .rtsp event => match (Rtsp.server u timeout).step s.rtspSessionManager (s.atRequest event) with
    | none => none
    | some (sessions,responses) => some ({s with rtspSessionManager := sessions},responses.map .rtsp)
  | .delete id => some ((s.deleteInstance ⟨id⟩).1,[.deleted ⟨id⟩ (s.deleteInstance ⟨id⟩).2])

end AppState

def appState (u : CaseMapping) (timeout : Duration) (singleAgentMode : Bool) (maxInstances : Nat) :
    Machine AppState Event Output where
  init := ⟨maxInstances,∅,∅,.start singleAgentMode,.withTimeout timeout,[],[]⟩
  step := AppState.step u timeout

end Vscreen.Server
