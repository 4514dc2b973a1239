import Vscreen.RtspPorts

/-! When the announced ports stay distinct: each accepted SETUP keeps them so exactly when the
system's answers avoid the ports announced already, and then no bind of a later PLAY meets
the socket of another track. -/
namespace Vscreen.Rtsp
open Text

section Pair
variable {probes : PortProbes} {rtp rtcp : UInt16}

theorem allocatedAvoid (avoid : UInt16 → Prop) (allocated : allocatePortPair probes = some (rtp,rtcp)) :
    probes.Avoid avoid ↔ ¬ avoid rtp ∧ ¬ avoid rtcp := by
  obtain ⟨first,found,rfl,⟨free,rfl⟩ | ⟨used,second,again,rfl⟩⟩ := allocatedCases allocated
  · simp [PortProbes.Avoid,found,free]
  · simp [PortProbes.Avoid,found,used,again]

theorem allocatedDiffer (allocated : allocatePortPair probes = some (rtp,rtcp)) : probes.Differ ↔ rtp ≠ rtcp := by
  obtain ⟨first,found,rfl,⟨free,rfl⟩ | ⟨used,second,again,rfl⟩⟩ := allocatedCases allocated
  · simp [PortProbes.Differ,free]
  · rw [PortProbes.Differ,found,again]
    refine ⟨fun differ same => differ used first second rfl rfl (Subtype.ext same),?_⟩
    rintro other - _ _ ⟨⟩ ⟨⟩ same
    exact other (congrArg Subtype.val same)

end Pair

section Announced
variable {u : CaseMapping} {m m' : RtspSessionManager} {x : Exchange} {p : SetupPlan} {session : SessionId}

theorem takenOf {k : Text} {i : UInt8} {kind : PortKind} {port : UInt16} (has : HasPort m k i kind port) :
    Taken m port := ⟨k,i,kind,has⟩

theorem hasPortKept (same : ∀ k, announced m' k = announced m k) {k i kind port} :
    HasPort m' k i kind port ↔ HasPort m k i kind port := by
  rw [HasPort,HasPort,same]

theorem hasPortRemoved {key : Text} (after : ∀ k, announced m' k = if k = key then [] else announced m k) {k i kind port}
    (has : HasPort m' k i kind port) : HasPort m k i kind port := by
  obtain ⟨t,member,facts⟩ := has
  rw [after] at member
  split at member
  · contradiction
  · exact ⟨t,member,facts⟩

theorem plannedUdp (p : SetupPlan) : (plannedTrack p).interleavedChannels = none ↔ p.transport.isTcpInterleaved = false := by
  unfold plannedTrack TransportHeader.isTcpInterleaved
  split <;> simp [*]

theorem plannedPort (udp : p.transport.isTcpInterleaved = false) :
    (plannedTrack p).serverRtpPort = p.serverRtpPort ∧ (plannedTrack p).serverRtcpPort = p.serverRtcpPort := by
  unfold TransportHeader.isTcpInterleaved at udp
  unfold plannedTrack
  split
  · exact ⟨rfl,rfl⟩
  · rename_i mode
    simp [mode] at udp

theorem hasPortAdded (accepted : Accepted u m m' x p session) {k i kind port} : HasPort m' k i kind port ↔
    HasPort m k i kind port ∨ (k = session.name ∧ p.transport.isTcpInterleaved = false ∧ i = p.trackId ∧
      (plannedTrack p).serverPort kind = port) := by
  rw [HasPort,accepted.after]
  split
  · rename_i here
    subst here
    simp only [HasPort,List.mem_append,List.mem_singleton,or_and_right,exists_or,exists_eq_left,plannedUdp,plannedId,
      true_and,eq_comm (a := i)]
  · rename_i other
    simp [HasPort,other]

theorem distinctKept (distinct : DistinctPorts m) (fewer : ∀ {k i kind port}, HasPort m' k i kind port →
    HasPort m k i kind port) : DistinctPorts m' :=
  fun k i kind k' i' kind' port first second => distinct k i kind k' i' kind' port (fewer first) (fewer second)

theorem addedFresh (accepted : Accepted u m m' x p session) {kind port} : ¬ HasPort m session.name p.trackId kind port := by
  rintro ⟨t,member,-,id,-⟩
  exact accepted.fresh (id ▸ List.mem_map_of_mem member)

theorem distinctAdded (distinct : DistinctPorts m) (accepted : Accepted u m m' x p session)
    (udp : p.transport.isTcpInterleaved = false) : DistinctPorts m' ↔
      p.serverRtpPort ≠ p.serverRtcpPort ∧ ¬ Taken m p.serverRtpPort ∧ ¬ Taken m p.serverRtcpPort := by
  obtain ⟨rtp,rtcp⟩ := plannedPort udp
  have added : ∀ kind, HasPort m' session.name p.trackId kind ((plannedTrack p).serverPort kind) :=
    fun kind => (hasPortAdded accepted).mpr (.inr ⟨rfl,udp,rfl,rfl⟩)
  constructor
  · intro after
    -- a port that was announced before would now stand for two tracks
    have new : ∀ kind, ¬ Taken m ((plannedTrack p).serverPort kind) := by
      rintro kind ⟨k,i,kind',has⟩
      obtain ⟨rfl,rfl,-⟩ := after _ _ _ _ _ _ _ ((hasPortAdded accepted).mpr (.inl has)) (added kind)
      exact addedFresh accepted has
    refine ⟨fun same => ?_,rtp ▸ new .rtp,rtcp ▸ new .rtcp⟩
    have second := added .rtcp
    rw [TrackInfo.serverPort,rtcp,← same,← rtp] at second
    obtain ⟨-,-,kinds⟩ := after _ _ _ _ _ _ _ (added .rtp) second
    contradiction
  · rintro ⟨differ,newRtp,newRtcp⟩
    have new : ∀ kind, ¬ Taken m ((plannedTrack p).serverPort kind) := by
      intro kind
      cases kind
      · show ¬ Taken m (plannedTrack p).serverRtpPort
        rwa [rtp]
      · show ¬ Taken m (plannedTrack p).serverRtcpPort
        rwa [rtcp]
    have kinds : ∀ kind kind', (plannedTrack p).serverPort kind = (plannedTrack p).serverPort kind' → kind = kind' := by
      intro kind kind' same
      cases kind <;> cases kind' <;> simp_all [TrackInfo.serverPort]
    intro k i kind k' i' kind' port first second
    rcases (hasPortAdded accepted).mp first with old | ⟨rfl,-,rfl,rfl⟩
    · rcases (hasPortAdded accepted).mp second with old' | ⟨-,-,-,rfl⟩
      · exact distinct _ _ _ _ _ _ _ old old'
      · exact (new kind' (takenOf old)).elim
    · rcases (hasPortAdded accepted).mp second with old' | ⟨rfl,-,rfl,same⟩
      · exact (new kind (takenOf old')).elim
      · exact ⟨rfl,rfl,kinds _ _ same.symm⟩

theorem distinctSetup (distinct : DistinctPorts m) (accepted : Accepted u m m' x p session)
    (udp : p.transport.isTcpInterleaved = false) :
    DistinctPorts m' ↔ x.probes.Avoid (Taken m) ∧ x.probes.Differ := by
  have allocated := (planSpec accepted.planned).ports udp
  rw [distinctAdded distinct accepted udp,allocatedAvoid (Taken m) allocated,allocatedDiffer allocated]
  exact and_comm

theorem takenStep {e : Event} (step : Announcement u m m' e) {port : UInt16} (taken : Taken m' port) : Taken m port ∨
    ∃ x p session, e = .request x ∧ Accepted u m m' x p session ∧ p.transport.isTcpInterleaved = false ∧
      (port = p.serverRtpPort ∨ port = p.serverRtcpPort) := by
  obtain ⟨k,i,kind,has⟩ := taken
  cases step with
  | kept same => exact .inl (takenOf ((hasPortKept same).mp has))
  | removed key after => exact .inl (takenOf (hasPortRemoved after has))
  | @added x p session accepted =>
    rcases (hasPortAdded accepted).mp has with old | ⟨-,udp,-,same⟩
    · exact .inl (takenOf old)
    · obtain ⟨rtp,rtcp⟩ := plannedPort udp
      refine .inr ⟨x,p,session,rfl,accepted,udp,?_⟩
      cases kind
      · exact .inl (same.symm.trans rtp)
      · exact .inr (same.symm.trans rtcp)

end Announced

namespace Binding
variable {u : CaseMapping} {timeout : Duration} {w w' : Binding}

def Owned (w : Binding) (k : Socket) : Prop :=
  (∃ x ∈ w.manager.spawned, x.task = k.task ∧ x.interleaved = none ∧ x.serverPort k.kind = k.port) ∨
    ¬ Taken w.manager k.port

structure Settled (w : Binding) : Prop where
  kept : Kept w.manager
  posted : Posted w.manager
  distinct : DistinctPorts w.manager
  owned : ∀ k ∈ w.sockets, k.task ∉ w.manager.aborted → w.Owned k

def Apart (u : CaseMapping) (w : Binding) (e : BindingEvent) : Prop :=
  FreshId w e ∧ SystemAnswers w e ∧ Unannounced u w e

theorem senderPort (posted : Posted w.manager) {x : Sender} (member : x ∈ w.manager.spawned)
    (alive : x.task ∉ w.manager.aborted) (udp : x.interleaved = none) (kind : PortKind) :
    HasPort w.manager x.session.name x.trackId kind (x.serverPort kind) := by
  obtain ⟨t,there,carries⟩ := posted x member alive
  refine ⟨t,there,carries.interleaved ▸ udp,carries.trackId.symm,?_⟩
  cases kind
  · exact carries.serverRtpPort.symm
  · exact carries.serverRtcpPort.symm

theorem samePort (settled : w.Settled) {x y : Sender} (first : x ∈ w.manager.spawned) (second : y ∈ w.manager.spawned)
    (firstAlive : x.task ∉ w.manager.aborted) (secondAlive : y.task ∉ w.manager.aborted)
    (firstUdp : x.interleaved = none) (secondUdp : y.interleaved = none) {kind kind' : PortKind}
    (same : x.serverPort kind = y.serverPort kind') : x.task = y.task ∧ kind = kind' := by
  have has := senderPort settled.posted first firstAlive firstUdp kind
  have has' := senderPort settled.posted second secondAlive secondUdp kind'
  rw [same] at has
  obtain ⟨key,id,kinds⟩ := settled.distinct _ _ _ _ _ _ _ has has'
  have held := settled.kept.accounted.live x first firstAlive
  have held' := settled.kept.accounted.live y second secondAlive
  rw [key,id] at held
  refine ⟨?_,kinds⟩
  cases found : w.manager.get y.session.name with
  | none =>
    rw [found] at held
    exact (notHeldNil _ _ held).elim
  | some s =>
    rw [found] at held held'
    exact heldTaskUnique (settled.kept.sound _ s found) held held'

theorem nextBindSpec {task : TaskId} {x : Sender} {kind : PortKind} (accounted : Accounted w.manager)
    (next : w.nextBind task = some (x,kind)) :
    x ∈ w.manager.spawned ∧ x.task = task ∧ x.interleaved = none ∧ task ∉ w.manager.aborted ∧
      ∀ k ∈ w.sockets, k.task = task → k.kind ≠ kind := by
  unfold nextBind at next
  split at next
  · contradiction
  · rename_i y found
    have number : y.task = task := by
      obtain ⟨below,-⟩ := List.getElem?_eq_some_iff.mp found
      have listed := congrArg (·[task]?) accounted.numbered
      simp only [List.getElem?_map,found,Option.map_some,List.getElem?_range below] at listed
      exact Option.some.inj listed
    split at next
    · contradiction
    · rename_i running
      simp only [not_or,Bool.not_eq_true,Option.isSome_eq_false_iff,Option.isNone_iff_eq_none] at running
      have member := List.mem_of_getElem? found
      have unbound : ∀ {kind}, (w.sockets.all fun k => ¬ (k.task = task ∧ k.kind = kind)) = true →
          ∀ k ∈ w.sockets, k.task = task → k.kind ≠ kind := by
        intro kind free k bound own same
        have other := List.all_eq_true.mp free k bound
        simp [own,same] at other
      split at next
      · rename_i free
        cases next
        exact ⟨member,number,running.1,running.2.2,unbound free⟩
      · split at next
        · rename_i free
          cases next
          exact ⟨member,number,running.1,running.2.2,unbound free⟩
        · contradiction

theorem serverSettled {e : Event} {m' : RtspSessionManager} {out : List RtspResponse} (settled : w.Settled)
    (met : Apart u w (.server e)) (taken : (server u timeout).step w.manager e = some (m',out)) :
    Settled {w with manager := m'} := by
  obtain ⟨fresh,answers,unannounced⟩ := met
  have fresh : Rtsp.FreshId w.manager e := fresh
  have change := stepChange fresh taken
  have announcement := stepAnnounced fresh taken
  obtain ⟨senders,spawned,-⟩ := stepSpawned settled.kept.sound taken
  refine ⟨⟨soundChange settled.kept.sound change,settled.kept.accounted.change settled.kept.sound change⟩,
    stepPosted settled.kept settled.posted fresh taken,?_,?_⟩
  · cases announcement with
    | kept same => exact distinctKept settled.distinct (hasPortKept same).mp
    | removed key after => exact distinctKept settled.distinct (hasPortRemoved after)
    | @added x p session accepted =>
      cases taken
      cases tcp : p.transport.isTcpInterleaved with
      | false => exact (distinctSetup settled.distinct accepted tcp).mpr (unannounced p session accepted tcp)
      | true =>
        refine distinctKept settled.distinct fun has => ?_
        rcases (hasPortAdded accepted).mp has with old | ⟨-,udp,-⟩
        · exact old
        · rw [tcp] at udp
          contradiction
  · intro k bound alive
    -- a socket stays its sender's, since no SETUP is given a bound port
    rcases settled.owned k bound (mt (abortedGrows change) alive) with ⟨x,member,facts⟩ | free
    · exact .inl ⟨x,by rw [spawned]; exact List.mem_append_left _ member,facts⟩
    · refine .inr fun later => ?_
      rcases takenStep announcement later with before | ⟨x,p,session,rfl,accepted,udp,port⟩
      · exact free before
      · have avoided := (allocatedAvoid w.Bound ((planSpec accepted.planned).ports udp)).mp answers
        rcases port with port | port
        · exact avoided.1 ⟨k,bound,port⟩
        · exact avoided.2 ⟨k,bound,port⟩

theorem bindSettled {task : TaskId} {assigned : AssignedPort} {x : Sender} {kind : PortKind} (settled : w.Settled)
    (met : Apart u w (.bind task assigned)) (next : w.nextBind task = some (x,kind)) :
    (w.bind task kind (if x.serverPort kind = 0 then assigned else x.serverPort kind)).1.Settled ∧
      ∀ r ∈ (w.bind task kind (if x.serverPort kind = 0 then assigned else x.serverPort kind)).2, r.stopped = true := by
  obtain ⟨-,answers,unannounced⟩ := met
  obtain ⟨member,number,udp,alive,unbound⟩ := nextBindSpec settled.kept.accounted next
  unfold bind
  cases found : w.sockets.find? (·.port = if x.serverPort kind = 0 then (assigned : UInt16) else x.serverPort kind) with
  | some k =>
    refine ⟨⟨settled.kept,settled.posted,settled.distinct,settled.owned⟩,?_⟩
    have bound := List.mem_of_find?_eq_some found
    have port := List.find?_some found
    simp only [decide_eq_true_eq] at port
    simp only [List.mem_singleton,forall_eq,decide_eq_true_eq]
    by_contra running
    -- the socket of a live sender on this port would be the one about to be bound
    split at port
    · rename_i zero
      exact answers x kind next zero ⟨k,bound,port⟩
    · rcases settled.owned k bound running with ⟨y,there,own,udp',same⟩ | free
      · obtain ⟨tasks,kinds⟩ := samePort settled there member (own ▸ running) (number ▸ alive) udp' udp (same.trans port)
        exact unbound k bound (own.symm.trans (tasks.trans number)) kinds
      · exact free (port ▸ takenOf (senderPort settled.posted member (number ▸ alive) udp kind))
  | none =>
    refine ⟨⟨settled.kept,settled.posted,settled.distinct,?_⟩,by simp⟩
    intro k bound running
    rcases List.mem_cons.mp bound with rfl | bound
    · by_cases zero : x.serverPort kind = 0
      · simp only [zero,if_true]
        exact .inr (unannounced x kind next zero)
      · simp only [zero,if_false]
        exact .inl ⟨x,member,number,udp,rfl⟩
    · exact settled.owned k bound running

theorem stepSettled {e : BindingEvent} {out : List Refused} (settled : w.Settled) (met : Apart u w e)
    (taken : w.step u timeout e = some (w',out)) : w'.Settled ∧ ∀ r ∈ out, r.stopped = true := by
  cases e with
  | server e =>
    obtain ⟨r,moved,same⟩ := Option.map_eq_some_iff.mp taken
    cases same
    exact ⟨serverSettled settled met moved,by simp⟩
  | bind task assigned =>
    simp only [step] at taken
    split at taken
    · contradiction
    · rename_i x kind next
      have bound := bindSettled settled met next
      rwa [Option.some.inj taken] at bound
  | ended task =>
    simp only [step] at taken
    split at taken
    · cases taken
      exact ⟨⟨settled.kept,settled.posted,settled.distinct,settled.owned⟩,by simp⟩
    · contradiction
  | closed task =>
    simp only [step] at taken
    split at taken
    · cases taken
      exact ⟨⟨settled.kept,settled.posted,settled.distinct,
        fun k bound => settled.owned k (List.mem_filter.mp bound).1⟩,by simp⟩
    · contradiction

theorem runSettled {trace : List Refused} (run : (machine u timeout).Run (Apart u) w trace) :
    w.Settled ∧ ∀ r ∈ trace, r.stopped = true := by
  refine Machine.runOutputs _ (·.stopped = true) ?_ (fun settled met taken => stepSettled settled met taken) run
  obtain ⟨kept,posted⟩ := runPosted (.start : (server u timeout).Run Rtsp.FreshId _ _)
  refine ⟨kept,posted,?_,by simp [machine]⟩
  rintro k i kind k' i' kind' port ⟨t,member,-⟩
  rw [announcedNone rfl] at member
  contradiction

/-- The announced ports are distinct, and a bind of a sender fails only at a socket of an
aborted one, in every run where the system assigns no announced port and no port twice to one
pair; an accepted SETUP keeps them distinct on no other condition. -/
theorem portsStayDistinct {trace : List Refused} (run : (machine u timeout).Run (Apart u) w trace) :
    DistinctPorts w.manager ∧ (∀ r ∈ trace, r.stopped = true) ∧
      ∀ x p session, Accepted u w.manager (handleRequest u w.manager x).1 x p session →
        p.transport.isTcpInterleaved = false →
        (DistinctPorts (handleRequest u w.manager x).1 ↔ x.probes.Avoid (Taken w.manager) ∧ x.probes.Differ) := by
  obtain ⟨settled,refused⟩ := runSettled run
  exact ⟨settled.distinct,refused,fun x p session accepted udp => distinctSetup settled.distinct accepted udp⟩

section Run

def announcedPorts (m : RtspSessionManager) : List UInt16 :=
  m.sessions.keys.flatMap fun k => (announced m k).flatMap fun t => [t.serverRtpPort,t.serverRtcpPort]

theorem takenListed {m : RtspSessionManager} {port : UInt16} (taken : Taken m port) : port ∈ announcedPorts m := by
  obtain ⟨k,i,kind,t,member,-,-,same⟩ := taken
  refine List.mem_flatMap.mpr ⟨k,?_,List.mem_flatMap.mpr ⟨t,member,?_⟩⟩
  · cases found : m.get k with
    | none =>
      rw [announcedNone found] at member
      contradiction
    | some s => exact Table.memKeys.mpr (by rw [← RtspSessionManager.get,found]; rfl)
  · cases kind <;> simp [← same,TrackInfo.serverPort]

theorem unboundAvoid {w : Binding} (none : w.sockets = []) (probes : PortProbes) : probes.Avoid w.Bound := by
  simp [PortProbes.Avoid,Bound,none]

def setupOther : Exchange :=
  {exchangeOf (setupRequest "rtsp://h/stream/dev/trackID=0" "RTP/AVP;unicast;client_port=5000-5001" none) ['b'] with
    probes := ⟨some ⟨7000,by decide⟩,false,some ⟨7005,by decide⟩⟩}

theorem otherApart {m : RtspSessionManager} (new : 7000 ∉ announcedPorts m ∧ 7005 ∉ announcedPorts m) :
    setupOther.probes.Avoid (Taken m) ∧ setupOther.probes.Differ := by
  have allocated : allocatePortPair setupOther.probes = some (7000,7005) := rfl
  exact ⟨(allocatedAvoid _ allocated).mpr ⟨mt takenListed new.1,mt takenListed new.2⟩,
    (allocatedDiffer allocated).mpr (by decide)⟩

theorem portsStayDistinctRun : ∃ w : Binding, w.sockets = [⟨0,.rtcp,6001⟩,⟨0,.rtp,6000⟩] ∧
    announcedPorts w.manager = [6000,6001,7000,7005] ∧ DistinctPorts w.manager := by
  have first := Machine.runStep (.start : (machine .ascii 0).Run (Apart .ascii) _ _) (.server (.request setupVideo))
    ⟨rfl,unboundAvoid rfl _,fun p session accepted udp => by
      have allocated : allocatePortPair setupVideo.probes = some (6000,6001) := rfl
      exact ⟨(allocatedAvoid _ allocated).mpr ⟨mt takenListed (by decide),mt takenListed (by decide)⟩,
        (allocatedDiffer allocated).mpr (by decide)⟩⟩ rfl
  have second := Machine.runStep first (.server (.request setupOther))
    ⟨rfl,unboundAvoid rfl _,fun _ _ _ _ => otherApart (by decide)⟩ rfl
  have playing := Machine.runStep second (.server (.request {playBoth with drawn := ⟨['c']⟩}))
    ⟨rfl,unboundAvoid rfl _,fun _ _ accepted _ => absurd accepted.setup (by decide)⟩ rfl
  have rtp := Machine.runStep playing (.bind 0 ⟨8000,by decide⟩)
    ⟨trivial,fun _ _ next zero => by cases next; contradiction,fun _ _ next zero => by cases next; contradiction⟩ rfl
  have rtcp := Machine.runStep rtp (.bind 0 ⟨8000,by decide⟩)
    ⟨trivial,fun _ _ next zero => by cases next; contradiction,fun _ _ next zero => by cases next; contradiction⟩ rfl
  exact ⟨_,rfl,by decide,(portsStayDistinct rtcp).1⟩

theorem pairGivenTwice : ¬ ∀ (w : Binding) (trace : List Refused),
    (machine .ascii 0).Run (fun w e => FreshId w e ∧ SystemAnswers w e) w trace → DistinctPorts w.manager := by
  intro distinct
  have first := Machine.runStep (.start : (machine .ascii 0).Run (fun w e => FreshId w e ∧ SystemAnswers w e) _ _)
    (.server (.request setupVideo)) ⟨rfl,unboundAvoid rfl _⟩ rfl
  have second := Machine.runStep first (.server (.request {setupVideo with drawn := ⟨['b']⟩}))
    ⟨rfl,unboundAvoid rfl _⟩ rfl
  have once := distinct _ _ second ['a'] 0 .rtp ['b'] 0 .rtp 6000 ⟨_,List.mem_cons_self,rfl,rfl,rfl⟩
    ⟨_,List.mem_cons_self,rfl,rfl,rfl⟩
  exact absurd once.1 (by decide)

end Run

end Binding
end Vscreen.Rtsp
