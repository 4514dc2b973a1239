import Vscreen.RtspAnnounced

/-! Activity of the RTSP sessions (server.rs, session.rs): what refreshes `last_activity`,
when a client was last heard, and the passes that remove expired sessions, which list them
first and remove them one by one. -/
namespace Vscreen.Rtsp
open Text

structure Connection where
  currentSessionId : Option Text
  answered : List Text

structure Reaped where
  session : Text
  heard : Option Time
  listed : Time
  timeout : Duration

structure Activity where
  manager : RtspSessionManager
  connections : Table ConnectionId Connection
  heard : Table Text Time
  passes : List (Text × Time)
  closing : List Text

inductive ActivityEvent where
  | request (c : ConnectionId) (x : Exchange)
  | data (c : ConnectionId) (now : Time)
  | report (task : TaskId) (now : Time)
  | pass (now : Time)
  | passRemoves (sessionId : Text) (listed : Time)
  | shutdown
  | shutdownRemoves (sessionId : Text)
  | remove (sessionId : Text)

namespace Activity

def connection (w : Activity) (c : ConnectionId) : Connection := (w.connections.get c).getD ⟨none,[]⟩

def answerOn (w : Activity) (c : ConnectionId) (r : RtspResponse) : Activity := match r.session with
  | none => w
  | some session =>
    {w with connections := w.connections.put c ⟨some session.name,session.name::(w.connection c).answered⟩}

def addressed (x : Exchange) (r : RtspResponse) : Option SessionId := match x.request.session with
  | some session => some session
  | none => r.session

def hear (w : Activity) (sessions : List Text) (now : Time) : Activity :=
  {w with heard := sessions.foldl (fun heard k => heard.put k now) w.heard}

def request (u : CaseMapping) (w : Activity) (c : ConnectionId) (x : Exchange) : Activity :=
  let r := handleRequest u w.manager x
  (answerOn {w with manager := r.1} c r.2).hear ((addressed x r.2).map (·.name)).toList x.now

def touchCurrent (w : Activity) (c : ConnectionId) (now : Time) : Activity :=
  match (w.connection c).currentSessionId with
  | none => w
  | some sessionId => {w with manager := w.manager.touch sessionId now}

def removed (w : Activity) (sessionId : Text) (listed : Time) : List Reaped := match w.manager.get sessionId with
  | none => []
  | some _ => [⟨sessionId,w.heard.get sessionId,listed,w.manager.timeout⟩]

def step (u : CaseMapping) (w : Activity) : ActivityEvent → Option (Activity × List Reaped)
  | .request c x => some (w.request u c x,[])
  | .data c now => some ((w.touchCurrent c now).hear (w.connection c).answered now,[])
  | .report task now => match w.manager.spawned[task]? with
    | none => none
    | some x =>
      if task ∈ w.manager.aborted then none else some ({w with manager := w.manager.touch x.session.name now},[])
  | .pass now => some ({w with
      manager := w.manager.listExpired now
      passes := w.passes ++ (w.manager.sessions.keys.filter (w.manager.isExpired now)).map fun k => (k,now)},[])
  | .passRemoves sessionId listed =>
    if (sessionId,listed) ∈ w.passes then
      some ({w with manager := w.manager.removeExpired sessionId, passes := w.passes.erase (sessionId,listed)},
        w.removed sessionId listed)
    else none
  | .shutdown => some ({w with
      manager := {w.manager with expired := w.manager.expired ++ w.manager.sessions.keys}
      closing := w.closing ++ w.manager.sessions.keys},[])
  | .shutdownRemoves sessionId =>
    if w.closing.contains sessionId then
      some ({w with manager := w.manager.removeExpired sessionId, closing := w.closing.erase sessionId},[])
    else none
  | .remove sessionId => (w.manager.remove sessionId).map fun r => ({w with manager := r.1},[])

def machine (u : CaseMapping) (timeout : Duration) : Machine Activity ActivityEvent Reaped :=
  ⟨⟨.withTimeout timeout,∅,∅,[],[]⟩,step u⟩

def Exact (w : Activity) : Prop := ∀ k s, w.manager.get k = some s → w.heard.get k = some s.lastActivity

def Refreshes (u : CaseMapping) (m : RtspSessionManager) (x : Exchange) (s : RtspSession) : Prop :=
  match x.request.method with
  | .getParameter => True
  | .teardown => True
  | .play => s.state ≠ .playing
  | .pause => s.state = .playing
  | .setup => ∃ p, planSetup u x = .ok p ∧ Acceptable m x p
  | .options => False
  | .describe => False

/-- The steps that keep the activity exact: every message for a live session refreshes it, no
report does, and what a pass removes is still expired. -/
def Refreshing (u : CaseMapping) (w : Activity) : ActivityEvent → Prop
  | .request _ x => ∀ session s, x.request.session = some session → w.manager.get session.name = some s →
      s.lastActivity = x.now ∨ Refreshes u w.manager x s
  | .data c now => ∀ k ∈ (w.connection c).answered, ∀ s, w.manager.get k = some s →
      s.lastActivity = now ∨ (w.connection c).currentSessionId = some k
  | .report task now => ∀ x s, w.manager.spawned[task]? = some x → w.manager.get x.session.name = some s →
      s.lastActivity = now
  | .passRemoves sessionId listed => ∀ s, w.manager.get sessionId = some s →
      s.isExpired listed w.manager.timeout = true
  | _ => True

end Activity
end Vscreen.Rtsp
