import Vscreen.RtspAnnounced

/-! The interleaved channels of the tracks that deliver on one connection. A track has the
channels that its SETUP asked for; its sender writes to the connection of the PLAY that
spawned it. -/
namespace Vscreen.Rtsp
open Text

inductive Stream where
  | rtp
  | rtcp
  deriving DecidableEq, Repr

def channelOf (channels : UInt8 × UInt8) : Stream → UInt8
  | .rtp => channels.1
  | .rtcp => channels.2

def TransportHeader.channels (t : TransportHeader) : Option (UInt8 × UInt8) := match t.mode with
  | .tcpInterleaved rtpChannel rtcpChannel => some (rtpChannel,rtcpChannel)
  | .udpUnicast .. => none

-- `asked` is what the accepted SETUP of a session's track asked for and the connection it
-- came on; `writers` are the connections of the sender tasks in the order of spawning.
structure Delivery where
  manager : RtspSessionManager
  asked : Table (Text × UInt8) (ConnectionId × UInt8 × UInt8)
  writers : List ConnectionId

namespace Delivery

def asking (u : CaseMapping) (w : Delivery) : Event → Option ((Text × UInt8) × UInt8 × UInt8)
  | .request x => match x.request.method,planSetup u x with
    | .setup,.ok p =>
      if (handleRequest u w.manager x).2.status = 200 then
        p.transport.channels.map fun channels => (((x.request.session.getD x.drawn).name,p.trackId),channels)
      else none
    | _,_ => none
  | _ => none

def step (u : CaseMapping) (timeout : Duration) (w : Delivery) (e : ConnectionId × Event) :
    Option (Delivery × List RtspResponse) :=
  ((server u timeout).step w.manager e.2).map fun r =>
    ({manager := r.1
      asked := match w.asking u e.2 with
        | none => w.asked
        | some (key,channels) => w.asked.put key (e.1,channels)
      writers := w.writers ++ List.replicate (r.1.spawned.length - w.manager.spawned.length) e.1},r.2)

def machine (u : CaseMapping) (timeout : Duration) : Machine Delivery (ConnectionId × Event) RtspResponse :=
  ⟨⟨.withTimeout timeout,∅,[]⟩,step u timeout⟩

def FreshId (w : Delivery) (e : ConnectionId × Event) : Prop := Rtsp.FreshId w.manager e.2

def askedChannels (w : Delivery) (sessionId : Text) (trackId : UInt8) : Option (UInt8 × UInt8) :=
  (w.asked.get (sessionId,trackId)).map (·.2)

/-- An interleaved track whose sender writes to the connection, or which has no sender yet
and was set up on it. -/
def Delivers (w : Delivery) (c : ConnectionId) (sessionId : Text) (t : TrackInfo) : Prop :=
  (∃ s, w.manager.get sessionId = some s ∧ t ∈ s.tracks) ∧ t.interleavedChannels.isSome = true ∧
    match t.rtpTask with
    | some task => w.writers[task]? = some c
    | none => ((w.asked.get (sessionId,t.trackId)).map (·.1)) = some c

def Distinct (w : Delivery) (c : ConnectionId) (channels : Text → TrackInfo → Option (UInt8 × UInt8)) : Prop :=
  ∀ k t k' t' pair pair' stream stream', w.Delivers c k t → w.Delivers c k' t' → channels k t = some pair →
    channels k' t' = some pair' → channelOf pair stream = channelOf pair' stream' →
    k = k' ∧ t.trackId = t'.trackId ∧ stream = stream'

end Delivery

section Setup
variable {u : CaseMapping} {m m' : RtspSessionManager} {x : Exchange} {p : SetupPlan}

theorem acceptedStatus {session : SessionId} (accepted : Accepted u m m' x p session) :
    (handleRequest u m x).2.status = 200 := by
  rw [accepted.answer]
  exact setupResponseStatus ..

theorem acceptedTransport {session : SessionId} (accepted : Accepted u m m' x p session) {rtp rtcp : UInt8}
    (asked : p.transport.channels = some (rtp,rtcp)) : (handleRequest u m x).2.headers.get "Transport".toList =
      some ("RTP/AVP/TCP;unicast;interleaved=".toList ++ decimal rtp.toNat ++ "-".toList ++ decimal rtcp.toNat) := by
  unfold TransportHeader.channels at asked
  split at asked
  · rename_i mode
    cases asked
    rw [accepted.answer,setupResponse,RtspResponse.header,Table.getPut,if_pos rfl,TransportHeader.formatResponse,mode]
  · contradiction

theorem plannedChannels (p : SetupPlan) : (plannedTrack p).interleavedChannels = p.transport.channels := by
  unfold plannedTrack TransportHeader.channels
  split <;> simp [*]

end Setup
namespace Delivery
variable {u : CaseMapping} {timeout : Duration} {w w' : Delivery} {x : Exchange} {p : SetupPlan} {e : Event}
  {m' : RtspSessionManager} {out : List RtspResponse}

theorem askingAccepted {session : SessionId} (accepted : Accepted u w.manager m' x p session) :
    w.asking u (.request x) = p.transport.channels.map fun channels => ((session.name,p.trackId),channels) := by
  simp only [asking,accepted.setup,accepted.planned,acceptedStatus accepted,if_true,accepted.named]

theorem askingSome {key : Text × UInt8} {channels : UInt8 × UInt8} (fresh : Rtsp.FreshId w.manager e)
    (taken : (server u timeout).step w.manager e = some (m',out)) (asks : w.asking u e = some (key,channels)) :
    ∃ x p session, e = .request x ∧ Accepted u w.manager m' x p session := by
  unfold asking at asks
  split at asks
  · rename_i x
    split at asks
    · rename_i p setup planned
      split at asks
      · rename_i answered
        cases taken
        rcases setupCases (u := u) fresh setup with ⟨-,refused⟩ | ⟨p,session,accepted⟩
        · exact absurd answered refused
        · exact ⟨x,p,session,rfl,accepted⟩
      · contradiction
    · contradiction
  · contradiction

theorem askingNone (fresh : Rtsp.FreshId w.manager e) (taken : (server u timeout).step w.manager e = some (m',out))
    (asks : w.asking u e = none) {k : Text} {t : TrackInfo} (member : t ∈ announced m' k)
    (interleaved : t.interleavedChannels.isSome = true) : t ∈ announced w.manager k := by
  cases stepAnnounced fresh taken with
  | kept same => exact same k ▸ member
  | removed key after =>
    rw [after] at member
    split at member
    · contradiction
    · exact member
  | added p session accepted =>
    rw [askingAccepted accepted,Option.map_eq_none_iff] at asks
    rw [accepted.after] at member
    split at member
    · rename_i here
      rcases List.mem_append.mp member with earlier | new
      · exact here ▸ earlier
      · rw [List.mem_singleton.mp new,plannedChannels,asks] at interleaved
        contradiction
    · exact member

def AsAsked (w : Delivery) : Prop := ∀ k, ∀ t ∈ announced w.manager k, t.interleavedChannels.isSome = true →
  w.askedChannels k t.trackId = t.interleavedChannels

theorem stepAsAsked {e : ConnectionId × Event} (asAsked : w.AsAsked) (fresh : FreshId w e)
    (taken : w.step u timeout e = some (w',out)) : w'.AsAsked := by
  obtain ⟨r,moved,same⟩ := Option.map_eq_some_iff.mp taken
  cases same
  intro k t member interleaved
  rw [askedChannels]
  cases asks : w.asking u e.2 with
  | none => exact asAsked k t (askingNone fresh moved asks member interleaved) interleaved
  | some asked =>
    obtain ⟨x,p,session,same,accepted⟩ := askingSome fresh moved asks
    rw [same,askingAccepted accepted] at asks
    obtain ⟨channels,carried,rfl⟩ := Option.map_eq_some_iff.mp asks
    rw [accepted.after] at member
    simp only [Table.getPut,Prod.mk.injEq]
    split at member
    · rename_i here
      subst here
      rcases List.mem_append.mp member with earlier | new
      · have other : t.trackId ≠ p.trackId := fun id => accepted.fresh (id ▸ List.mem_map_of_mem earlier)
        simpa only [other,and_false,if_false,askedChannels] using asAsked _ t earlier interleaved
      · rw [List.mem_singleton.mp new,plannedId,plannedChannels,carried]
        simp
    · rename_i other
      simpa only [other,false_and,if_false,askedChannels] using asAsked k t member interleaved

theorem runServer {trace} (run : (machine u timeout).Run FreshId w trace) :
    ∃ trace', (server u timeout).Run Rtsp.FreshId w.manager trace' := by
  refine Machine.runProject (M := machine u timeout) Delivery.manager rfl (fun {w e w' out} fresh taken => ?_) run
  obtain ⟨r,moved,same⟩ := Option.map_eq_some_iff.mp taken
  cases same
  exact .inr ⟨e.2,r.2,fresh,moved⟩

theorem runAsAsked {trace} (run : (machine u timeout).Run FreshId w trace) : w.AsAsked := by
  refine Machine.runInvariant (fun w _ => w.AsAsked) ?_ (fun holds fresh taken => stepAsAsked holds fresh taken) run
  intro k t member
  rw [announcedNone rfl] at member
  contradiction

theorem deliversAsked (asAsked : w.AsAsked) {c : ConnectionId} {k : Text} {t : TrackInfo} (delivers : w.Delivers c k t) :
    w.askedChannels k t.trackId = t.interleavedChannels := by
  obtain ⟨⟨s,found,member⟩,interleaved,-⟩ := delivers
  have listed : {t with rtpTask := none} ∈ announced w.manager k := by
    rw [announcedSome found]
    exact List.mem_map_of_mem member
  exact asAsked k {t with rtpTask := none} listed interleaved

theorem distinctCongr {c : ConnectionId} {f g : Text → TrackInfo → Option (UInt8 × UInt8)}
    (same : ∀ k t, w.Delivers c k t → f k t = g k t) (distinct : w.Distinct c f) : w.Distinct c g :=
  fun k t k' t' pair pair' stream stream' delivers delivers' has has' =>
    distinct k t k' t' pair pair' stream stream' delivers delivers' ((same k t delivers).trans has)
      ((same k' t' delivers').trans has')

theorem channelsAsAsked {trace} (run : (machine u timeout).Run FreshId w trace) :
    (∀ c k t, w.Delivers c k t → w.askedChannels k t.trackId = t.interleavedChannels) ∧
      (∀ x ∈ w.manager.spawned, x.task ∉ w.manager.aborted → x.interleaved.isSome = true →
        w.askedChannels x.session.name x.trackId = x.interleaved) ∧
      (∀ c, w.Distinct c (fun _ t => t.interleavedChannels) ↔ w.Distinct c (fun k t => w.askedChannels k t.trackId)) ∧
      ∀ x p, w.manager.get x.drawn.name = none → x.request.method = .setup → planSetup u x = .ok p →
        ((handleRequest u w.manager x).2.status = 200 ↔ Acceptable w.manager x p) ∧
        ∀ rtp rtcp, p.transport.channels = some (rtp,rtcp) → (handleRequest u w.manager x).2.status = 200 →
          (handleRequest u w.manager x).2.headers.get "Transport".toList =
            some ("RTP/AVP/TCP;unicast;interleaved=".toList ++ decimal rtp.toNat ++ "-".toList ++ decimal rtcp.toNat) := by
  have asAsked := runAsAsked run
  obtain ⟨trace',server⟩ := runServer run
  refine ⟨fun c k t delivers => deliversAsked asAsked delivers,?_,fun c => ⟨?_,?_⟩,?_⟩
  · intro x member alive interleaved
    obtain ⟨t,there,carries⟩ := (runPosted server).2 x member alive
    rw [carries.trackId,carries.interleaved]
    exact asAsked _ t there (carries.interleaved ▸ interleaved)
  · exact distinctCongr fun _ _ delivers => (deliversAsked asAsked delivers).symm
  · exact distinctCongr fun _ _ delivers => deliversAsked asAsked delivers
  · intro x p fresh setup planned
    refine ⟨setupStatus setup planned,fun rtp rtcp asks answered => ?_⟩
    rcases setupCases (u := u) fresh setup with ⟨-,refused⟩ | ⟨p',session,accepted⟩
    · exact absurd answered refused
    · cases planned.symm.trans accepted.planned
      exact acceptedTransport accepted asks

section Run

def setupChannels (track : String) (transport : String) (session : Option Text) : Exchange :=
  exchangeOf (setupRequest ("rtsp://h/stream/dev/trackID=" ++ track) transport session) ['a']

theorem channelsAsAskedRun : ∃ (w : Delivery) (c : ConnectionId), w.manager.spawned.length = 1 ∧
    w.askedChannels ['a'] 0 = some (2,3) ∧ ∀ k t, w.Delivers c k t → w.askedChannels k t.trackId = t.interleavedChannels := by
  have first := Machine.runStep (.start : (machine .ascii 0).Run FreshId _ _)
    (5,.request (setupChannels "0" "RTP/AVP/TCP;interleaved=2" none)) rfl rfl
  have second := Machine.runStep first (6,.request playBoth) rfl rfl
  exact ⟨_,6,rfl,rfl,(channelsAsAsked second).1 6⟩

theorem channelsGivenTwice : ¬ ∀ (w : Delivery) (trace : List RtspResponse), (machine .ascii 0).Run FreshId w trace →
    ∀ c, w.Distinct c (fun _ t => t.interleavedChannels) := by
  intro distinct
  have first := Machine.runStep (.start : (machine .ascii 0).Run FreshId _ _)
    (0,.request (setupChannels "0" "RTP/AVP/TCP;interleaved=0-1" none)) rfl rfl
  have second := Machine.runStep first
    (0,.request {setupChannels "1" "RTP/AVP/TCP;interleaved=0-1" (some ['a']) with drawn := ⟨['b']⟩}) rfl rfl
  obtain ⟨-,same,-⟩ := distinct _ _ second 0 ['a'] _ ['a'] _ (0,1) (0,1) .rtp .rtp
    ⟨⟨_,rfl,List.mem_cons_self⟩,rfl,rfl⟩ ⟨⟨_,rfl,List.mem_cons_of_mem _ List.mem_cons_self⟩,rfl,rfl⟩ rfl rfl rfl
  exact absurd same (by decide)

end Run

end Delivery
end Vscreen.Rtsp
