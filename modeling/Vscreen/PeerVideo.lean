import Vscreen.Broadcast
import Vscreen.KeyframeRequests

/-! The video of an instance on its way to its peers (supervisor.rs, ws.rs): the packets of
the encode thread go through a broadcast channel to the task of each peer, which writes them
to the peer's track. A lag or a failed write is logged, and nothing asks for a keyframe then. -/
namespace Vscreen.Peers
open Video

-- the receivers are those of the peers' tasks and of the sender tasks of RTSP sessions
structure Feed (c : Broadcast.Channel EncodedPacket) where
  supervisor : Supervisor
  video : Broadcast.Fanout c

namespace Feed

inductive Event where
  | supervisor (event : Supervisor.Event)
  | subscribe
  | answer (peer : Nat)
  | forward (peer : Nat) (written : Bool)
  | disconnect (peer : Nat)

inductive Note where
  | requested
  | answered (peer : Nat)
  | output (output : Supervisor.Output)
  | media (note : Broadcast.Note EncodedPacket)
  | unwritten (peer position : Nat)
  deriving DecidableEq

def noted (notes : List Note) : Supervisor.Event → List Note
  | .requestKeyframe => [.requested]
  | _ => notes

def failed : List (Broadcast.Note EncodedPacket) → List Note
  | [.given peer position _] => [.unwritten peer position]
  | _ => []

section
variable {c : Broadcast.Channel EncodedPacket} (doc : Broadcast.Documented c)

def publish (video : Broadcast.Fanout c) : List Supervisor.Output → Broadcast.Fanout c × List Note
  | [] => (video,[])
  | .packet packet::rest =>
    let sent := video.send packet
    let later := publish sent.1 rest
    (later.1,sent.2.map .media ++ later.2)
  | output::rest =>
    let later := publish video rest
    (later.1,.output output::later.2)

def listen (f : Feed c) (event : Broadcast.Event EncodedPacket) : Option (Feed c × List Note) := match doc.step f.video event with
  | none => none
  | some (video,out) => some ({f with video := video},out.map .media)

def step (colours : Colours) (config : VideoConfig) (f : Feed c) : Event → Option (Feed c × List Note)
  | .supervisor event => match f.supervisor.step colours config event with
    | none => none
    | some (supervisor,out) => some (⟨supervisor,(publish f.video out).1⟩,noted (publish f.video out).2 event)
  | .subscribe => f.listen doc .join
  | .answer peer => match doc.next f.video peer with
    | some _ => some ({f with supervisor := {f.supervisor with keyframeFlag := true}},[.answered peer])
    | none => none
  | .forward peer written => match doc.step f.video (.take peer) with
    | none => none
    | some (video,out) => some ({f with video := video},out.map .media ++ if written then [] else failed out)
  | .disconnect peer => f.listen doc (.leave peer)

end
end Feed

open Feed

def feed {c : Broadcast.Channel EncodedPacket} (doc : Broadcast.Documented c) (colours : Colours) (config : VideoConfig) :
    Machine (Feed c) Feed.Event Feed.Note where
  init := ⟨(Video.supervisor colours config).init,Broadcast.Fanout.new c⟩
  step := Feed.step doc colours config

def mediaNote : Note → Option (Broadcast.Note EncodedPacket)
  | .media note => some note
  | _ => none

def mediaOf (trace : List Note) : List (Broadcast.Note EncodedPacket) := trace.filterMap mediaNote

def seenNote : Note → Option Seen
  | .requested => some .requested
  | .answered _ => some .requested
  | .output output => some (.output output)
  | .media (.sent packet _) => some (.output (.packet packet))
  | _ => none

def seenOf (trace : List Note) : List Seen := trace.filterMap seenNote

def stream (trace : List Note) : List EncodedPacket := Broadcast.stream (mediaOf trace)

/-- The peer's task neither lagged nor failed to write. -/
structure Smooth (peer : Nat) (trace : List Note) : Prop where
  lagged : ∀ start missed, .media (.lagged peer start missed) ∉ trace
  written : ∀ position, .unwritten peer position ∉ trace

def Written (peer : Nat) (trace : List Note) (position : Nat) : Prop :=
  (∃ packet, .media (.given peer position packet) ∈ trace) ∧ .unwritten peer position ∉ trace

/-- A packet of a stream that a decoder can show when it has these: a keyframe, or one that
comes right after one that it can show. -/
inductive Decodable (packets : List EncodedPacket) (written : Nat → Prop) : Nat → Prop where
  | keyframe {position : Nat} {packet : EncodedPacket} (has : written position) (there : packets[position]? = some packet)
      (key : packet.isKeyframe = true) : Decodable packets written position
  | next {position : Nat} (before : Decodable packets written position) (has : written (position + 1)) :
      Decodable packets written (position + 1)

theorem mediaAppend (trace out : List Note) : mediaOf (trace ++ out) = mediaOf trace ++ mediaOf out := List.filterMap_append

theorem seenAppend (trace out : List Note) : seenOf (trace ++ out) = seenOf trace ++ seenOf out := List.filterMap_append

theorem streamAppend (trace out : List Note) : stream (trace ++ out) = stream trace ++ stream out := by
  rw [stream,mediaAppend,Broadcast.streamAppend]
  rfl

theorem mediaMap (out : List (Broadcast.Note EncodedPacket)) : mediaOf (out.map .media) = out := by
  induction out with
  | nil => rfl
  | cons note out ih => exact congrArg (note::·) ih

theorem decodableMore {packets more : List EncodedPacket} {written written' : Nat → Prop} {position : Nat}
    (shown : Decodable packets written position) (has : ∀ position, written position → written' position) :
    Decodable (packets ++ more) written' position := by
  induction shown with
  | keyframe written there key =>
    refine .keyframe (has _ written) ?_ key
    rw [List.getElem?_append_left (List.getElem?_eq_some_iff.mp there).1]
    exact there
  | next before written ih => exact .next ih (has _ written)

theorem decodableFrom {packets : List EncodedPacket} {written : Nat → Prop} {k : Nat} {packet : EncodedPacket}
    (there : packets[k]? = some packet) (key : packet.isKeyframe = true) {position : Nat} (from_ : k ≤ position)
    (all : ∀ j, k ≤ j → j ≤ position → written j) : Decodable packets written position := by
  induction position, from_ using Nat.le_induction with
  | base => exact .keyframe (all k (Nat.le_refl _) (Nat.le_refl _)) there key
  | succ position from_ ih =>
    exact .next (ih fun j low high => all j low (Nat.le_succ_of_le high)) (all _ (Nat.le_succ_of_le from_) (Nat.le_refl _))

section Outputs
variable {colours : Colours} {config : VideoConfig} {s s' : Supervisor} {out : List Supervisor.Output}

def Single (out : List Supervisor.Output) : Prop :=
  Quiet out ∨ ∃ first packet, Quiet first ∧ out = first ++ [.packet packet]

theorem madeSingle {p : VideoPipeline} {pipeline : Option VideoPipeline} {hinted : List Supervisor.Output} (quiet : Quiet hinted)
    (made : Made p pipeline out) : Single (hinted ++ out) := by
  cases made with
  | panicked silent => exact .inl (quietAppend quiet silent)
  | dropped sound kept silent => exact .inl (quietAppend quiet silent)
  | packet sound served silent => exact .inr ⟨_,_,quietAppend quiet silent,(List.append_assoc _ _ _).symm⟩

theorem outputsSingle {event : Supervisor.Event} (well : s.Well) (obliging : Obliging s event)
    (taken : s.step colours config event = some (s',out)) : Single out := by
  have none : Quiet [] := fun packet absurd => by cases absurd
  cases Supervisor.stepped taken with
  | started _ done =>
    simp only [Supervisor.start] at done
    split at done
    · cases done
      exact .inl (conversionsQuiet _ _)
    · cases done
      exact .inl (conversionsQuiet _ _)
  | input event => exact .inl none
  | relayed _ => exact .inl none
  | requested => exact .inl none
  | framed _ => exact .inl none
  | sent _ _ => exact .inl none
  | received _ _ _ => exact .inl none
  | @encoded p cmd hintLib lib _ _ runs received done =>
    cases done
    obtain ⟨sound₁,codec₁,-,quiet⟩ := applyHintSound hintLib cmd.bitrateHint (well.sound p runs)
    obtain ⟨sound₂,codec₂,-⟩ := applyRequestSound cmd.forceKeyframe sound₁
    exact madeSingle quiet (encodeDataMade colours cmd.data sound₂
      fun vp9 => obliging p runs (codec₁.symm.trans (codec₂.symm.trans vp9)))

end Outputs

section Publish
variable {c : Broadcast.Channel EncodedPacket} {video : Broadcast.Fanout c} {out first : List Supervisor.Output}

theorem publishQuiet (quiet : Quiet out) : publish video out = (video,out.map .output) := by
  induction out with
  | nil => rfl
  | cons output rest ih =>
    have later := ih fun packet member => quiet packet (List.mem_cons_of_mem _ member)
    cases output with
    | packet packet => exact absurd List.mem_cons_self (quiet packet)
    | _ => simp only [publish,later,List.map_cons]

theorem publishPacket (quiet : Quiet first) (packet : EncodedPacket) :
    publish video (first ++ [.packet packet]) = ((video.send packet).1,first.map .output ++ (video.send packet).2.map .media) := by
  induction first with
  | nil => simp only [List.nil_append,publish,List.append_nil,List.map_nil]
  | cons output rest ih =>
    have later := ih fun packet member => quiet packet (List.mem_cons_of_mem _ member)
    cases output with
    | packet packet => exact absurd List.mem_cons_self (quiet packet)
    | _ => simp only [List.cons_append,publish,later,List.map_cons]

theorem mediaOutputs (out : List Supervisor.Output) : mediaOf (out.map .output) = [] := by
  induction out with
  | nil => rfl
  | cons output out ih => exact ih

theorem seenOutputs (out : List Supervisor.Output) : seenOf (out.map .output) = out.map .output := by
  induction out with
  | nil => rfl
  | cons output out ih => exact congrArg (Seen.output output::·) ih

theorem seenSent (packet : EncodedPacket) : seenOf ((video.send packet).2.map .media) = [.output (.packet packet)] := by
  rfl

theorem seenPublished (single : Single out) : seenOf (publish video out).2 = out.map .output := by
  rcases single with quiet | ⟨first,packet,quiet,rfl⟩
  · rw [publishQuiet quiet]
    exact seenOutputs out
  · rw [publishPacket quiet,seenAppend,seenOutputs,seenSent,List.map_append]
    rfl

end Publish

inductive Keyed (a : Nat) (packets : List EncodedPacket) (owed : Option Nat) : Prop where
  | done (k : Nat) (packet : EncodedPacket) (low : a ≤ k) (high : k ≤ a + 4) (there : packets[k]? = some packet)
      (key : packet.isKeyframe = true)
  | owing (n : Nat) (still : owed = some n) (short : packets.length ≤ a + n)

section Keyframes
variable {a : Nat} {packets : List EncodedPacket} {owed : Option Nat}

theorem keyedMore (keyed : Keyed a packets owed) {owed' : Option Nat} (kept : ∀ n, owed = some n → ∃ n', owed' = some n' ∧ n ≤ n') :
    Keyed a packets owed' := by
  rcases keyed with ⟨k,packet,low,high,there,key⟩ | ⟨n,still,short⟩
  · exact .done k packet low high there key
  · obtain ⟨n',still',more⟩ := kept n still
    exact .owing n' still' (by omega)

theorem keyedPacket (keyed : Keyed a packets owed) (within : ∀ n, owed = some n → n ≤ 4) (begun : a ≤ packets.length)
    (packet : EncodedPacket) : Keyed a (packets ++ [packet]) (unservedNext owed (.output (.packet packet))) := by
  rcases keyed with ⟨k,earlier,low,high,there,key⟩ | ⟨n,still,short⟩
  · refine .done k earlier low high ?_ key
    rw [List.getElem?_append_left (List.getElem?_eq_some_iff.mp there).1]
    exact there
  · have few := within n still
    rw [still,unservedNext]
    cases key : packet.isKeyframe with
    | true => exact .done packets.length packet begun (by omega) List.getElem?_concat_length key
    | false =>
      refine .owing (n + 1) rfl ?_
      rw [List.length_append,List.length_singleton]
      omega

end Keyframes

variable {c : Broadcast.Channel EncodedPacket}

structure Since (doc : Broadcast.Documented c) (f : Feed c) (trace before : List Note) (peer : Nat) (after : List Note) : Prop where
  known : peer < f.video.listeners.length
  begun : (stream before).length ≤ (stream trace).length
  keyed : ∀ next, doc.next f.video peer = some next →
    Keyed (stream before).length (stream trace) (unserved (seenOf trace))
  given : ∀ next, doc.next f.video peer = some next → Smooth peer after → ∀ position,
    (stream before).length ≤ position → position < next → ∃ packet, .media (.given peer position packet) ∈ after
  shown : Smooth peer after → ∀ position packet, .media (.given peer position packet) ∈ after →
    (stream before).length + 4 ≤ position → Decodable (stream trace) (Written peer after) position

section Steps
variable {doc : Broadcast.Documented c} {f f' : Feed c} {trace before after out : List Note} {peer : Nat}

theorem smoothLess (smooth : Smooth peer (after ++ out)) : Smooth peer after :=
  ⟨fun start missed there => smooth.lagged start missed (List.mem_append_left _ there),
    fun position there => smooth.written position (List.mem_append_left _ there)⟩

theorem shownMore (since : Since doc f trace before peer after) (smooth : Smooth peer (after ++ out)) {position : Nat}
    {packet : EncodedPacket} (given : .media (.given peer position packet) ∈ after) (late : (stream before).length + 4 ≤ position) :
    Decodable (stream (trace ++ out)) (Written peer (after ++ out)) position := by
  rw [streamAppend]
  refine decodableMore (since.shown (smoothLess smooth) position packet given late) fun position written => ?_
  obtain ⟨⟨packet,there⟩,-⟩ := written
  exact ⟨⟨packet,List.mem_append_left _ there⟩,smooth.written position⟩

theorem sinceAside (since : Since doc f trace before peer after) (known : peer < f'.video.listeners.length)
    (listens : ∀ next, doc.next f'.video peer = some next → doc.next f.video peer = some next)
    (keyed : ∀ next, doc.next f'.video peer = some next →
      Keyed (stream before).length (stream (trace ++ out)) (unserved (seenOf (trace ++ out))))
    (silent : ∀ position packet, .media (.given peer position packet) ∉ out) :
    Since doc f' (trace ++ out) before peer (after ++ out) := by
  refine ⟨known,?_,keyed,fun next there smooth position from_ before => ?_,fun smooth position packet given late => ?_⟩
  · have begun := since.begun
    rw [streamAppend,List.length_append]
    omega
  · obtain ⟨packet,given⟩ := since.given next (listens next there) (smoothLess smooth) position from_ before
    exact ⟨packet,List.mem_append_left _ given⟩
  · rcases List.mem_append.mp given with old | new
    · exact shownMore since smooth old late
    · exact absurd new (silent position packet)

theorem sinceGiven {next : Nat} {packet : EncodedPacket} {rest : List Note} (since : Since doc f trace before peer after)
    (within : ∀ n, unserved (seenOf trace) = some n → n ≤ 4)
    (found : (stream trace)[next]? = some packet) (taken : Broadcast.Taken doc f.video f'.video peer next (next + 1))
    (shape : out = .media (.given peer next packet)::rest) (silent : ∀ position packet, .media (.given peer position packet) ∉ rest)
    (same : stream (trace ++ out) = stream trace) (owed : unserved (seenOf (trace ++ out)) = unserved (seenOf trace)) :
    Since doc f' (trace ++ out) before peer (after ++ out) := by
  have inside : next < (stream trace).length := (List.getElem?_eq_some_iff.mp found).1
  have there := taken.here
  have keyed := since.keyed next there
  have all : Smooth peer (after ++ out) → ∀ position, (stream before).length ≤ position → position ≤ next →
      ∃ packet, .media (.given peer position packet) ∈ after ++ out := by
    intro smooth position from_ upto
    rcases Nat.lt_or_eq_of_le upto with earlier | rfl
    · obtain ⟨packet,given⟩ := since.given next there (smoothLess smooth) position from_ earlier
      exact ⟨packet,List.mem_append_left _ given⟩
    · exact ⟨packet,List.mem_append_right _ (shape ▸ List.mem_cons_self)⟩
  have at_ : doc.next f'.video peer = some (next + 1) := by
    rw [taken.moved,if_pos rfl]
  refine ⟨by rw [taken.length]; exact since.known,by rw [same]; exact since.begun,?_,?_,?_⟩
  · intro next' _
    rw [same,owed]
    exact keyed
  · intro next' there' smooth position from_ earlier
    cases at_.symm.trans there'
    exact all smooth position from_ (Nat.le_of_lt_succ earlier)
  · intro smooth position packet' given late
    rcases List.mem_append.mp given with old | new
    · exact shownMore since smooth old late
    · rw [shape] at new
      rcases List.mem_cons.mp new with now | later
      · cases now
        rcases keyed with ⟨k,key,low,high,stands,isKey⟩ | ⟨n,still,short⟩
        · rw [same]
          refine decodableFrom stands isKey (by omega) fun j low' upto => ?_
          exact ⟨all smooth j (Nat.le_trans low low') upto,smooth.written j⟩
        · have few := within n still
          omega
      · exact absurd later (silent position packet')

theorem sinceLagged {next missed : Nat} (since : Since doc f trace before peer after)
    (moved : f'.video.listeners.length = f.video.listeners.length)
    (keyed : Keyed (stream before).length (stream (trace ++ out)) (unserved (seenOf (trace ++ out))))
    (shape : .media (.lagged peer next missed) ∈ out) : Since doc f' (trace ++ out) before peer (after ++ out) := by
  have rough : ¬ Smooth peer (after ++ out) := fun smooth => smooth.lagged next missed (List.mem_append_right _ shape)
  refine ⟨by rw [moved]; exact since.known,?_,fun _ _ => keyed,fun _ _ smooth => absurd smooth rough,
    fun smooth => absurd smooth rough⟩
  have begun := since.begun
  rw [streamAppend,List.length_append]
  omega

theorem sinceAnswered {next : Nat} (there : doc.next f'.video peer = some next) (reached : next ≤ (stream trace).length) :
    Since doc f' (trace ++ [.answered peer]) trace peer [] := by
  have same : stream (trace ++ [.answered peer]) = stream trace := by
    rw [streamAppend]
    exact List.append_nil _
  refine ⟨Broadcast.Documented.nextKnown there,by rw [same],fun _ _ => ?_,fun next' at_ _ position from_ earlier => ?_,
    fun _ position packet absurd => by cases absurd⟩
  · rw [same,seenAppend,unservedAppend]
    change Keyed _ _ (unservedNext (unserved (seenOf trace)) .requested)
    cases unserved (seenOf trace) with
    | none => exact .owing 0 rfl (Nat.le_refl _)
    | some n => exact .owing n rfl (Nat.le_add_right _ _)
  · cases there.symm.trans at_
    omega

end Steps

def Compliant (f : Feed c) : Feed.Event → Prop
  | .supervisor event => Obliging f.supervisor event
  | _ => True

structure Fed (doc : Broadcast.Documented c) (f : Feed c) (trace : List Note) : Prop where
  well : f.supervisor.Well
  kept : Kept f.supervisor (unserved (seenOf trace))
  told : Broadcast.Told doc f.video (mediaOf trace)
  since : ∀ before peer after, trace = before ++ .answered peer::after → Since doc f trace before peer after

section Runs
variable {doc : Broadcast.Documented c} {colours : Colours} {config : VideoConfig} {f f' : Feed c} {trace out : List Note}

theorem splitAside (silent : ∀ peer, .answered peer ∉ out) {before after : List Note} {peer : Nat}
    (split : trace ++ out = before ++ .answered peer::after) : ∃ rest, after = rest ++ out ∧ trace = before ++ .answered peer::rest := by
  rcases List.append_eq_append_iff.mp split with ⟨rest,rfl,same⟩ | ⟨rest,same,tail⟩
  · exact absurd (same ▸ List.mem_append_right _ List.mem_cons_self) (silent peer)
  · cases rest with
    | nil =>
      rw [List.nil_append] at tail
      exact absurd (tail ▸ List.mem_cons_self) (silent peer)
    | cons first rest =>
      cases tail
      exact ⟨rest,rfl,same⟩

theorem splitConcat {l before after : List Note} {x y : Note} (split : l ++ [x] = before ++ y::after) :
    (before = l ∧ y = x ∧ after = []) ∨ ∃ rest, after = rest ++ [x] ∧ l = before ++ y::rest := by
  rcases List.eq_nil_or_concat after with rfl | ⟨rest,last,rfl⟩
  · obtain ⟨same,last⟩ := List.append_inj' split rfl
    cases last
    exact .inl ⟨same.symm,rfl,rfl⟩
  · rw [List.concat_eq_append,← List.cons_append,← List.append_assoc] at split
    obtain ⟨same,last⟩ := List.append_inj' split rfl
    cases last
    exact .inr ⟨rest,by rw [List.concat_eq_append],same⟩

theorem withinFour (fed : Fed doc f trace) : ∀ n, unserved (seenOf trace) = some n → n ≤ 4 :=
  fun n owed => (fed.kept n owed).within

theorem publishListeners {video : Broadcast.Fanout c} {out : List Supervisor.Output} (single : Single out) :
    (publish video out).1.listeners = video.listeners := by
  rcases single with quiet | ⟨first,packet,quiet,rfl⟩
  · rw [publishQuiet quiet]
  · rw [publishPacket quiet]
    rfl

theorem publishTold {video : Broadcast.Fanout c} (out : List Supervisor.Output)
    (told : Broadcast.Told doc video (mediaOf trace)) :
    Broadcast.Told doc (publish video out).1 (mediaOf (trace ++ (publish video out).2)) := by
  induction out generalizing video trace with
  | nil =>
    rw [publish,List.append_nil]
    exact told
  | cons output rest ih =>
    cases output with
    | packet packet =>
      have sent : Broadcast.Told doc (video.send packet).1 (mediaOf (trace ++ (video.send packet).2.map .media)) := by
        rw [mediaAppend,mediaMap]
        exact Broadcast.toldSend told packet
      rw [publish,← List.append_assoc]
      exact ih sent
    | _ =>
      simp only [publish]
      rw [List.append_cons]
      refine ih ?_
      rw [mediaAppend]
      exact (List.append_nil (mediaOf trace)).symm ▸ told

theorem publishPlain {video : Broadcast.Fanout c} {out : List Supervisor.Output} (single : Single out) :
    (∀ peer, .answered peer ∉ (publish video out).2) ∧
      ∀ peer position packet, .media (.given peer position packet) ∉ (publish video out).2 := by
  have plain : ∀ out : List Supervisor.Output, (∀ peer, .answered peer ∉ out.map Note.output) ∧
      ∀ peer position packet, .media (.given peer position packet) ∉ out.map Note.output := by
    intro out
    constructor
    · intro peer member
      obtain ⟨_,-,same⟩ := List.mem_map.mp member
      cases same
    · intro peer position packet member
      obtain ⟨_,-,same⟩ := List.mem_map.mp member
      cases same
  rcases single with quiet | ⟨first,packet,quiet,rfl⟩
  · rw [publishQuiet quiet]
    exact plain out
  · rw [publishPacket quiet]
    constructor
    · intro peer member
      rcases List.mem_append.mp member with old | new
      · exact (plain first).1 peer old
      · cases List.mem_singleton.mp new
    · intro peer position packet' member
      rcases List.mem_append.mp member with old | new
      · exact (plain first).2 peer position packet' old
      · cases List.mem_singleton.mp new

theorem keyedPublish {a peer next : Nat} {out : List Supervisor.Output} (told : Broadcast.Told doc f.video (mediaOf trace))
    (single : Single out)
    (there : doc.next f.video peer = some next) (within : ∀ n, unserved (seenOf trace) = some n → n ≤ 4)
    (begun : a ≤ (stream trace).length) (keyed : Keyed a (stream trace) (unserved (seenOf trace))) :
    Keyed a (stream (trace ++ (publish f.video out).2)) (unserved (seenOf (trace ++ (publish f.video out).2))) := by
  rw [streamAppend,seenAppend,seenPublished single,unservedAppend]
  rcases single with quiet | ⟨first,packet,quiet,rfl⟩
  · rw [publishQuiet quiet,quietUnserved quiet,stream,stream,mediaOutputs]
    exact (List.append_nil (stream trace)).symm ▸ keyed
  · have sent : stream (publish f.video (first ++ [.packet packet])).2 = [packet] := by
      rw [publishPacket quiet,stream,mediaAppend,mediaOutputs,mediaMap,Broadcast.sentHeard told there]
      rfl
    rw [sent,List.map_append,List.foldl_append,quietUnserved quiet]
    exact keyedPacket keyed within begun packet

theorem quietFed {video : Broadcast.Fanout c} (fed : Fed doc f trace) (told : Broadcast.Told doc video (mediaOf trace))
    (grown : f.video.listeners.length ≤ video.listeners.length)
    (listens : ∀ peer next, peer < f.video.listeners.length → doc.next video peer = some next → doc.next f.video peer = some next) :
    Fed doc {f with video := video} (trace ++ []) := by
  rw [List.append_nil]
  refine ⟨fed.well,fed.kept,told,fun before peer after split => ?_⟩
  have since := fed.since before peer after split
  have moved := @sinceAside _ doc f {f with video := video} trace before after [] peer since
    (Nat.lt_of_lt_of_le since.known grown) (fun next => listens peer next since.known)
    (fun next there => by rw [List.append_nil]; exact since.keyed next (listens peer next since.known there)) nofun
  rw [List.append_nil,List.append_nil] at moved
  exact moved

theorem joinFed (fed : Fed doc f trace) : Fed doc {f with video := f.video.join} (trace ++ []) := by
  refine quietFed fed (Broadcast.toldJoin fed.told) ?_ fun peer next known there => ?_
  · rw [Broadcast.Fanout.join,List.length_append]
    exact Nat.le_add_right ..
  · rw [Broadcast.joinNext fed.told,if_neg (Nat.ne_of_lt known)] at there
    exact there

theorem leaveFed {peer : Nat} {r : c.Receiver} (fed : Fed doc f trace) (there : f.video.listeners[peer]? = some (some r)) :
    Fed doc {f with video := ⟨c.drop f.video.sender r,f.video.listeners.set peer none⟩} (trace ++ []) := by
  have known : peer < f.video.listeners.length := (List.getElem?_eq_some_iff.mp there).1
  refine quietFed fed (Broadcast.toldLeave fed.told there) (Nat.le_of_eq (List.length_set ..).symm) fun other next _ at_ => ?_
  rw [Broadcast.Documented.nextSet _ _ known] at at_
  split at at_
  · cases at_
  · exact at_

theorem supervisorFed {event : Supervisor.Event} {s' : Supervisor} {outputs : List Supervisor.Output} (fed : Fed doc f trace)
    (obliging : Obliging f.supervisor event) (taken : f.supervisor.step colours config event = some (s',outputs)) :
    Fed doc ⟨s',(publish f.video outputs).1⟩ (trace ++ noted (publish f.video outputs).2 event) := by
  have single := outputsSingle fed.well obliging taken
  have watched : (watched colours config).step f.supervisor event = some (s',seen outputs event) := by
    simp only [Video.watched,Video.supervisor,taken]
  obtain ⟨well,kept⟩ := watchedStep fed.well fed.kept obliging watched
  by_cases request : event = .requestKeyframe
  · subst request
    cases taken
    have owed : seenOf (trace ++ [.requested]) = seenOf trace ++ [.requested] := seenAppend _ _
    have same : stream (trace ++ [.requested]) = stream trace := by
      rw [streamAppend]
      exact List.append_nil _
    refine ⟨well,by rw [noted,owed]; exact kept,?_,fun before peer after split => ?_⟩
    · rw [noted,mediaAppend]
      exact (List.append_nil (mediaOf trace)).symm ▸ fed.told
    · obtain ⟨rest,rfl,earlier⟩ := splitAside (fun peer absurd => by cases List.mem_singleton.mp absurd) split
      have since := fed.since before peer rest earlier
      refine sinceAside since since.known (fun _ there => there) (fun next there => ?_)
        (fun position packet absurd => by cases List.mem_singleton.mp absurd)
      rw [noted,same,owed,unservedAppend]
      refine keyedMore (since.keyed next there) fun n still => ⟨n,?_,Nat.le_refl _⟩
      rw [still]
      rfl
  · have notes : noted (publish f.video outputs).2 event = (publish f.video outputs).2 := by
      cases event with
      | requestKeyframe => exact absurd rfl request
      | _ => rfl
    have labels : seen outputs event = seenOf (publish f.video outputs).2 := by
      rw [seenPublished single]
      cases event with
      | requestKeyframe => exact absurd rfl request
      | _ => rfl
    rw [notes]
    rw [labels,← seenAppend] at kept
    refine ⟨well,kept,publishTold outputs fed.told,fun before peer after split => ?_⟩
    obtain ⟨rest,rfl,earlier⟩ := splitAside (publishPlain single).1 split
    have since := fed.since before peer rest earlier
    have listeners := @publishListeners _ f.video outputs single
    have stays : ∀ next, doc.next (publish f.video outputs).1 peer = some next → doc.next f.video peer = some next := by
      intro next there
      simp only [Broadcast.Documented.next,listeners] at there
      exact there
    refine sinceAside since (by rw [listeners]; exact since.known) stays (fun next there => ?_) ((publishPlain single).2 peer)
    exact keyedPublish fed.told single (stays next there) (withinFour fed) since.begun (since.keyed next (stays next there))

theorem answerFed {peer next : Nat} (fed : Fed doc f trace) (there : doc.next f.video peer = some next) :
    Fed doc {f with supervisor := {f.supervisor with keyframeFlag := true}} (trace ++ [.answered peer]) := by
  have kept := requestKept fed.well fed.kept
  have owed : seenOf (trace ++ [.answered peer]) = seenOf trace ++ [.requested] := seenAppend _ _
  have same : stream (trace ++ [.answered peer]) = stream trace := by
    rw [streamAppend]
    exact List.append_nil _
  refine ⟨⟨fed.well.sound,fed.well.begun,fed.well.short⟩,?_,?_,fun before other after split => ?_⟩
  · rw [owed,unservedAppend]
    exact kept
  · rw [mediaAppend]
    exact (List.append_nil (mediaOf trace)).symm ▸ fed.told
  · rcases splitConcat split with ⟨rfl,now,rfl⟩ | ⟨rest,rfl,earlier⟩
    · cases now
      exact sinceAnswered there (fed.told.reached peer next there)
    · have since := fed.since before other rest earlier
      refine sinceAside since since.known (fun _ there => there) (fun next there => ?_)
        (fun position packet absurd => by cases List.mem_singleton.mp absurd)
      rw [same,owed,unservedAppend]
      refine keyedMore (since.keyed next there) fun n still => ⟨n,?_,Nat.le_refl _⟩
      rw [still]
      rfl

theorem forwardGiven {peer next : Nat} {packet : EncodedPacket} {written : Bool} {video : Broadcast.Fanout c}
    (fed : Fed doc f trace) (told : Broadcast.Told doc video (mediaOf trace ++ [.given peer next packet]))
    (taken : Broadcast.Taken doc f.video video peer next (next + 1)) (found : (stream trace)[next]? = some packet) :
    Fed doc {f with video := video} (trace ++ .media (.given peer next packet)::if written then [] else [.unwritten peer next]) := by
  have rest : ∀ note ∈ (if written then [] else [Note.unwritten peer next]), note = .unwritten peer next := by
    cases written with
    | true => exact nofun
    | false => exact fun note member => List.mem_singleton.mp member
  have media : mediaOf (.media (.given peer next packet)::if written then [] else [.unwritten peer next]) = [.given peer next packet] := by
    cases written <;> rfl
  have seen : seenOf (.media (.given peer next packet)::if written then [] else [.unwritten peer next]) = [] := by
    cases written <;> rfl
  have same : stream (trace ++ .media (.given peer next packet)::if written then [] else [.unwritten peer next]) = stream trace := by
    rw [stream,mediaAppend,media,Broadcast.streamAppend]
    exact List.append_nil _
  have owed : seenOf (trace ++ .media (.given peer next packet)::if written then [] else [.unwritten peer next]) = seenOf trace := by
    rw [seenAppend,seen,List.append_nil]
  refine ⟨fed.well,by rw [owed]; exact fed.kept,by rw [mediaAppend,media]; exact told,fun before other after split => ?_⟩
  have silent : ∀ j, Note.answered j ∉ (.media (.given peer next packet)::if written then [] else [.unwritten peer next] : List Note) := by
    intro j member
    rcases List.mem_cons.mp member with absurd | later
    · cases absurd
    · cases rest _ later
  obtain ⟨later,rfl,earlier⟩ := splitAside silent split
  have since := fed.since before other later earlier
  by_cases mine : other = peer
  · subst mine
    refine sinceGiven since (withinFour fed) found taken rfl ?_ same (by rw [owed])
    intro position packet' member
    cases rest _ member
  · have others : doc.next video other = doc.next f.video other := by
      rw [taken.moved,if_neg mine]
    refine sinceAside since (by rw [taken.length]; exact since.known) (fun next there => others ▸ there) (fun next there => ?_) ?_
    · rw [same,owed]
      exact since.keyed next (others ▸ there)
    · intro position packet' member
      rcases List.mem_cons.mp member with this | later
      · cases this
        exact mine rfl
      · cases rest _ later

theorem forwardLagged {peer next next' missed : Nat} {video : Broadcast.Fanout c} (fed : Fed doc f trace)
    (told : Broadcast.Told doc video (mediaOf trace ++ [.lagged peer next missed]))
    (taken : Broadcast.Taken doc f.video video peer next next') :
    Fed doc {f with video := video} (trace ++ [.media (.lagged peer next missed)]) := by
  have same : stream (trace ++ [.media (.lagged peer next missed)]) = stream trace := by
    rw [streamAppend]
    exact List.append_nil _
  have owed : seenOf (trace ++ [.media (.lagged peer next missed)]) = seenOf trace := by
    rw [seenAppend]
    exact List.append_nil _
  refine ⟨fed.well,by rw [owed]; exact fed.kept,by rw [mediaAppend]; exact told,fun before other after split => ?_⟩
  obtain ⟨later,rfl,earlier⟩ := splitAside (fun j member => by cases List.mem_singleton.mp member) split
  have since := fed.since before other later earlier
  by_cases mine : other = peer
  · subst mine
    refine sinceLagged since taken.length ?_ List.mem_cons_self
    rw [same,owed]
    exact since.keyed next taken.here
  · have others : doc.next video other = doc.next f.video other := by
      rw [taken.moved,if_neg mine]
    refine sinceAside since (by rw [taken.length]; exact since.known) (fun next there => others ▸ there) (fun next there => ?_)
      (fun position packet absurd => by cases List.mem_singleton.mp absurd)
    rw [same,owed]
    exact since.keyed next (others ▸ there)

theorem forwardFed {peer : Nat} {written : Bool} {video : Broadcast.Fanout c} {notes : List (Broadcast.Note EncodedPacket)}
    (fed : Fed doc f trace) (stepped : doc.step f.video (.take peer) = some (video,notes)) :
    Fed doc {f with video := video} (trace ++ (notes.map .media ++ if written then [] else failed notes)) := by
  obtain ⟨next,next',taken,told,⟨packet,rfl,found,rfl⟩ | ⟨missed,rfl⟩⟩ := Broadcast.takeCases fed.told stepped
  · exact forwardGiven fed told taken found
  · have silent : (if written then [] else failed [Broadcast.Note.lagged peer next missed]) = [] := by cases written <;> rfl
    rw [silent,List.append_nil]
    exact forwardLagged fed told taken

theorem fedStep {event : Feed.Event} (fed : Fed doc f trace) (compliant : Compliant f event)
    (taken : (feed doc colours config).step f event = some (f',out)) : Fed doc f' (trace ++ out) := by
  simp only [feed,Feed.step] at taken
  cases event with
  | supervisor event =>
    dsimp only at taken
    split at taken
    · cases taken
    · rename_i s' outputs stepped
      cases taken
      exact supervisorFed fed compliant stepped
  | subscribe => cases taken; exact joinFed fed
  | answer peer =>
    dsimp only at taken
    split at taken
    · rename_i next there
      cases taken
      exact answerFed fed there
    · cases taken
  | forward peer written =>
    dsimp only at taken
    split at taken
    · cases taken
    · rename_i video notes moved
      cases taken
      exact forwardFed fed moved
  | disconnect peer =>
    simp only [Feed.listen,Broadcast.Documented.step] at taken
    split at taken
    · cases taken
    · rename_i video notes moved
      split at moved
      · rename_i r there
        cases moved
        cases taken
        exact leaveFed fed there
      · cases moved

def picture (isKeyframe : Bool) (pts : UInt64) : EncodedPacket := ⟨[1],isKeyframe,pts,some 33,some .h264⟩

def sent (isKeyframe : Bool) (pts : UInt64) : Note := .media (.sent (picture isKeyframe pts) true)

def given (position : Nat) (isKeyframe : Bool) (pts : UInt64) : Note := .media (.given 0 position (picture isKeyframe pts))

end Runs

end Vscreen.Peers
