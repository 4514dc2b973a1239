import Vscreen.CdpScreencast

/-! When a reconnection restores the screencast that the caller asked for, and that no
frame of an earlier connection is broadcast. -/
namespace Vscreen.Cdp
open Machine

def lastStart : List ScreencastCall → Option StartScreencastParams
  | [] => none
  | .start params::_ => some params
  | .stop::rest => lastStart rest

theorem lastStartNone (calls : List ScreencastCall) : lastStart calls = none ↔ ∀ p, ScreencastCall.start p ∉ calls := by
  induction calls with
  | nil => simp [lastStart]
  | cons c rest ih =>
    cases c with
    | start params => simpa [lastStart] using ⟨params,fun differ => absurd rfl differ⟩
    | stop => simp [lastStart,ih]

namespace ScreencastClient
variable {decode : Text → Except Text (List UInt8)} {maxAttempts : Nat} {s s' : ScreencastClient}

theorem runningSend (s : ScreencastClient) (r : ScreencastManager × Request) :
    (s.sendRequest r).running = applyRequest s.running ⟨s.nextId,r.2.1,r.2.2⟩ := by
  simp only [running,sendRequest,List.foldl_append,List.foldl_cons,List.foldl_nil]

@[simp] theorem runningStart (s : ScreencastClient) (p : StartScreencastParams) :
    (s.sendRequest (s.screencast.startRequest p)).running = some p.toValue := by
  rw [runningSend]
  rfl

@[simp] theorem runningStop (s : ScreencastClient) : (s.sendRequest s.screencast.stopRequest).running = none := by
  have other : ¬ stopScreencast = startScreencast := by decide
  simp [runningSend,applyRequest,ScreencastManager.stopRequest,other]

@[simp] theorem runningAck (s : ScreencastClient) (id : UInt32) :
    (s.sendRequest (s.screencast,ScreencastManager.ackRequest id)).running = s.running := by
  have starts : ¬ screencastFrameAck = startScreencast := by decide
  have stops : ¬ screencastFrameAck = stopScreencast := by decide
  simp [runningSend,applyRequest,ScreencastManager.ackRequest,starts,stops]

theorem callRestores (s : ScreencastClient) (c : ScreencastCall) :
    Restored {s.call c with calls := c::s.calls} := by
  cases c with
  | start p => exact ⟨runningStart {s with screencastParams := some p} p,rfl⟩
  | stop => exact ⟨runningStop s,rfl⟩

structure Stored (s : ScreencastClient) : Prop where
  params : s.screencastParams = lastStart s.calls
  active : s.screencast.active = true → s.screencastParams.isSome
  read : s.read = s.connections
  generation : s.generation = s.screencast.generation

theorem callStored (stored : s.Stored) (c : ScreencastCall) : Stored {s.call c with calls := c::s.calls} := by
  cases c with
  | start p => exact ⟨rfl,fun _ => rfl,stored.read,stored.generation⟩
  | stop => exact ⟨stored.params,fun off => absurd off Bool.false_ne_true,stored.read,stored.generation⟩

theorem reconnectNone (found : s.screencastParams = none) : s.reconnect = s.openConnection := by
  simp [reconnect,found]

theorem reconnectSome {p : StartScreencastParams} (found : s.screencastParams = some p) :
    s.reconnect = s.openConnection.sendRequest (s.openConnection.screencast.startRequest p) := by
  simp [reconnect,found]

theorem reconnectStored (stored : s.Stored) : s.reconnect.Stored := by
  cases found : s.screencastParams with
  | none =>
    rw [reconnectNone found]
    exact ⟨stored.params,stored.active,rfl,rfl⟩
  | some p =>
    rw [reconnectSome found]
    exact ⟨stored.params,fun _ => by simp [sendRequest,openConnection,found],rfl,rfl⟩

theorem reconnectCalls (s : ScreencastClient) : s.reconnect.calls = s.calls := by
  cases found : s.screencastParams with
  | none => rw [reconnectNone found]; rfl
  | some p => rw [reconnectSome found]; rfl

theorem reconnectRunning (s : ScreencastClient) :
    s.reconnect.running = s.screencastParams.map StartScreencastParams.toValue := by
  cases found : s.screencastParams with
  | none => rw [reconnectNone found]; rfl
  | some p => rw [reconnectSome found]; exact runningStart _ p

theorem reconnectActive (stored : s.Stored) : s.reconnect.screencast.active = s.screencastParams.isSome := by
  cases found : s.screencastParams with
  | none =>
    have off : ¬ s.screencast.active = true := mt stored.active (by simp [found])
    rw [reconnectNone found]
    simpa [openConnection,ScreencastManager.bumpGeneration] using off
  | some p => rw [reconnectSome found]; rfl

theorem neverStopped (s : ScreencastClient) : s.NeverStopped ↔ lastStart s.calls = wanted s.calls := by
  rw [NeverStopped]
  cases s.calls with
  | nil => simp [lastStart,wanted]
  | cons c rest =>
    cases c with
    | start p => simp [lastStart,wanted]
    | stop => simp [lastStart,wanted,lastStartNone]

theorem reconnectRestores (stored : s.Stored) : s.reconnect.Restored ↔ s.NeverStopped := by
  rw [neverStopped,← stored.params]
  constructor
  · intro restored
    have active := restored.active
    have chrome := restored.chrome
    rw [reconnectActive stored,reconnectCalls] at active
    rw [reconnectRunning,reconnectCalls] at chrome
    cases wants : wanted s.calls with
    | none => simpa [wants] using active
    | some p =>
      have kept : lastStart s.calls = some p := by
        unfold wanted at wants
        split at wants
        · rename_i rest same
          rw [same]
          exact wants
        · contradiction
      rw [stored.params,kept]
  · intro same
    exact ⟨by rw [reconnectRunning,reconnectCalls,same],by rw [reconnectActive stored,reconnectCalls,same]⟩

theorem handleFrameStored (decode : Text → Except Text (List UInt8)) (stored : s.Stored) (event : ScreencastFrameEvent) :
    (s.handleFrame decode event).1.Stored ∧ ∀ b ∈ (s.handleFrame decode event).2, b.Current := by
  unfold handleFrame
  split
  · exact ⟨stored,by simp⟩
  · refine ⟨⟨stored.params,stored.active,stored.read,stored.generation⟩,fun b member => ?_⟩
    obtain ⟨f,-,rfl⟩ := List.mem_map.mp member
    exact ⟨stored.read,stored.generation⟩

theorem handleFrameRestored (decode : Text → Except Text (List UInt8)) (restored : s.Restored) (event : ScreencastFrameEvent) :
    (s.handleFrame decode event).1.Restored := by
  unfold handleFrame
  split
  · exact restored
  · exact ⟨(runningAck s event.sessionId).trans restored.chrome,restored.active⟩

theorem attemptStored (stored : s.Stored) (n : Nat) : (s.attempt maxAttempts n).Stored :=
  ⟨stored.params,stored.active,stored.read,stored.generation⟩

theorem stepCases {e : ScreencastEvent} {out} (taken : s.step decode maxAttempts e = some (s',out)) :
    (∃ c, e = .call c ∧ s' = {s.call c with calls := c::s.calls} ∧ out = []) ∨
    (∃ n, s' = s.attempt maxAttempts n ∧ out = []) ∨
    (e = .reconnect ∧ s' = s.reconnect ∧ out = []) ∨
    ∃ event, e = .frame event ∧ s.handleFrame decode event = (s',out) := by
  cases e with
  | call c =>
    cases taken
    exact .inl ⟨c,rfl,rfl,rfl⟩
  | disconnect =>
    simp only [step] at taken
    split at taken
    · cases taken
      exact .inr (.inl ⟨0,rfl,rfl⟩)
    · contradiction
  | attemptFailed =>
    simp only [step] at taken
    split at taken
    · cases taken
      exact .inr (.inl ⟨_,rfl,rfl⟩)
    · contradiction
  | reconnect =>
    simp only [step] at taken
    split at taken
    · cases taken
      exact .inr (.inr (.inl ⟨rfl,rfl,rfl⟩))
    · contradiction
  | frame event =>
    simp only [step] at taken
    split at taken
    · exact .inr (.inr (.inr ⟨event,rfl,Option.some.inj taken⟩))
    · contradiction

theorem stepStored {e : ScreencastEvent} {out} (stored : s.Stored) (taken : s.step decode maxAttempts e = some (s',out)) :
    s'.Stored ∧ ∀ b ∈ out, b.Current := by
  obtain ⟨c,-,rfl,rfl⟩ | ⟨n,rfl,rfl⟩ | ⟨-,rfl,rfl⟩ | ⟨event,-,handled⟩ := stepCases taken
  · exact ⟨callStored stored c,by simp⟩
  · exact ⟨attemptStored stored n,by simp⟩
  · exact ⟨reconnectStored stored,by simp⟩
  · have kept := handleFrameStored decode stored event
    rwa [handled] at kept

theorem stepRestored {e : ScreencastEvent} {out} (stored : s.Stored) (restored : s.Restored)
    (met : e = .reconnect → s.NeverStopped) (taken : s.step decode maxAttempts e = some (s',out)) : s'.Restored := by
  obtain ⟨c,-,rfl,-⟩ | ⟨n,rfl,-⟩ | ⟨same,rfl,-⟩ | ⟨event,-,handled⟩ := stepCases taken
  · exact callRestores s c
  · exact ⟨restored.chrome,restored.active⟩
  · exact (reconnectRestores stored).mpr (met same)
  · have kept := handleFrameRestored decode restored event
    rwa [handled] at kept

theorem runStored {trace} (run : (machine decode maxAttempts).Reaches s trace) : s.Stored ∧ ∀ b ∈ trace, b.Current := by
  refine runOutputs Stored Broadcast.Current ?_ (fun stored _ taken => stepStored stored taken) run
  exact ⟨rfl,fun on => absurd on Bool.false_ne_true,rfl,rfl⟩

theorem runRestored {trace}
    (run : (machine decode maxAttempts).Run (fun s e => e = .reconnect → s.NeverStopped) s trace) : s.Restored := by
  refine (runInvariant (fun s _ => s.Stored ∧ s.Restored) ⟨⟨rfl,fun on => absurd on Bool.false_ne_true,rfl,rfl⟩,⟨rfl,rfl⟩⟩
    (fun {s trace e s' out} holds met taken => ?_) run).2
  exact ⟨(stepStored holds.1 taken).1,stepRestored holds.1 holds.2 met taken⟩

theorem restoresUnstopped {trace} (run : (machine decode maxAttempts).Reaches s trace) :
    ((machine decode maxAttempts).Run (fun s e => e = .reconnect → s.NeverStopped) s trace → s.Restored) ∧
      (∀ s' out, s.step decode maxAttempts .reconnect = some (s',out) → (s'.Restored ↔ s.NeverStopped)) ∧
      ∀ b ∈ trace, b.Current := by
  obtain ⟨stored,fresh⟩ := runStored run
  refine ⟨runRestored,fun s' out taken => ?_,fresh⟩
  simp only [step] at taken
  split at taken
  · cases taken
    exact reconnectRestores stored
  · contradiction

section Run

def jpegStart (text : Text) : Except Text (List UInt8) :=
  if text = "/9j/".toList then .ok [0xff,0xd8,0xff] else .error "Invalid padding".toList

def defaultParams : StartScreencastParams := ⟨"jpeg".toList,1920,1080,1,80⟩

def resumed : List ScreencastEvent :=
  [.call (.start defaultParams),.frame ⟨"/9j/".toList,7⟩,.disconnect,.attemptFailed,.reconnect,.frame ⟨"/9j/".toList,8⟩,
    .disconnect]

def resumedTrace : List Broadcast := [⟨⟨[0xff,0xd8,0xff],7⟩,0,0,0,0⟩,⟨⟨[0xff,0xd8,0xff],8⟩,1,1,1,1⟩]

theorem restoresUnstoppedRun : ∃ s s', (machine jpegStart 10).Reaches s resumedTrace ∧
    s.step jpegStart 10 .reconnect = some (s',[]) ∧ s'.Restored ∧ ∀ b ∈ resumedTrace, b.Current := by
  obtain ⟨s,trace,run,ends⟩ := execWitness (machine jpegStart 10) resumed
    (fun s trace => decide (trace = resumedTrace ∧ s.calls = [.start defaultParams] ∧ s.state = .reconnecting 1))
    (by decide +kernel)
  obtain ⟨rfl,calls,state⟩ := of_decide_eq_true ends
  obtain ⟨-,exactly,fresh⟩ := restoresUnstopped run
  have taken : s.step jpegStart 10 .reconnect = some (s.reconnect,[]) := by simp only [step,state]
  exact ⟨s,s.reconnect,run,taken,(exactly _ _ taken).mpr (by simp [NeverStopped,calls]),fresh⟩

theorem stoppedComesBack : ¬ ∀ s trace s' out, (machine jpegStart 10).Reaches s trace →
    s.step jpegStart 10 .reconnect = some (s',out) →
      s'.running = (wanted s'.calls).map StartScreencastParams.toValue ∧ s'.screencast.active = (wanted s'.calls).isSome := by
  intro restores
  obtain ⟨s,trace,run,ends⟩ := execWitness (machine jpegStart 10)
    [.call (.start defaultParams),.call .stop,.disconnect]
    (fun s _ => decide (s.calls = [.stop,.start defaultParams] ∧ s.state = .reconnecting 1 ∧
      s.screencastParams = some defaultParams)) (by decide +kernel)
  obtain ⟨calls,state,params⟩ := of_decide_eq_true ends
  have taken : s.step jpegStart 10 .reconnect = some (s.reconnect,[]) := by simp only [step,state]
  obtain ⟨running,-⟩ := restores s trace s.reconnect [] run taken
  rw [reconnectRunning,reconnectCalls,calls,params] at running
  exact Option.some_ne_none _ running

end Run

end ScreencastClient
end Vscreen.Cdp
