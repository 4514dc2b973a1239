import Mathlib.Data.List.Forall2
import Vscreen.Chunks
import Vscreen.H264Split

/-! Packetization is invertible. The fragment loop emits the pieces of a NAL unit as
FU-A packets and the receiver puts them together again. -/
namespace Vscreen.H264

theorem fuIndicatorType : ∀ header : Byte, payloadType (fuIndicator header) = 28 :=
  forallByte (by decide +kernel)

theorem fuHeaderBits (isFirst isLast : Bool) : ∀ header : Byte,
    startBit (fuHeader header isFirst isLast) = isFirst ∧ endBit (fuHeader header isFirst isLast) = isLast :=
  forallByte (by cases isFirst <;> cases isLast <;> decide +kernel)

theorem headerRebuilt : ∀ header : Byte,
    (fuIndicator header &&& 0xE0) ||| payloadType (fuHeader header true false) = header :=
  forallByte (by decide +kernel)

def fuPiece (header : Byte) (piece : Piece Byte) : Payload :=
  fuPacket header piece.first piece.last piece.chunk

theorem fragmentLoopDone {header fragMax data} (fuel offset : Nat) (payloads : List Payload)
    (done : data.length ≤ offset) : fragmentLoop header fragMax data fuel offset payloads = some payloads := by
  cases fuel <;> rw [fragmentLoop,if_neg (by omega)]

theorem fragmentLoopRound {header fragMax data} (fuel offset : Nat) (payloads : List Payload)
    (left : offset < data.length) : fragmentLoop header fragMax data (fuel + 1) offset payloads =
      fragmentLoop header fragMax data fuel (min (offset + fragMax) data.length)
        (payloads ++ [fuPiece header ⟨offset == 0,decide (data.length ≤ offset + fragMax),
          slice data offset (min (offset + fragMax) data.length)⟩]) := by
  have stop : offset + min (data.length - offset) fragMax = min (offset + fragMax) data.length := by omega
  have last : decide (data.length ≤ min (offset + fragMax) data.length) =
      decide (data.length ≤ offset + fragMax) := by
    rw [decide_eq_decide]; omega
  rw [fragmentLoop,if_pos left]
  dsimp only
  rw [stop,last]
  rfl

theorem fragmentLoopRuns {header fragMax} {data : List Byte} (room : 0 < fragMax) (more : 0 < data.length) :
    ∃ pieces, Chunked fragMax true data pieces ∧ ∀ fuel payloads, data.length ≤ fuel →
      fragmentLoop header fragMax data fuel 0 payloads = some (payloads ++ pieces.map (fuPiece header)) :=
  chunkedLoop room fragmentLoopDone fragmentLoopRound 0 more

inductive Sent (maxPayload : Nat) : Nal → List Payload → Prop where
  | skipped : Sent maxPayload [] []
  | single {nal} (more : nal ≠ []) (fits : nal.length ≤ maxPayload) : Sent maxPayload nal [nal]
  | fragments {header data pieces} (large : maxPayload < data.length + 1)
      (cut : Chunked (maxPayload - 2) true data pieces) :
      Sent maxPayload (header::data) (pieces.map (fuPiece header))

theorem packetizeLoopRuns {maxPayload} (room : 0 < maxPayload - 2) (nals : List Nal) :
    ∃ groups, List.Forall₂ (Sent maxPayload) nals groups ∧
      ∀ fuel payloads, (∀ nal ∈ nals, nal.length ≤ fuel) →
        packetizeLoop fuel maxPayload nals payloads = some (payloads ++ groups.flatten) := by
  induction nals with
  | nil => exact ⟨[],.nil,by simp [packetizeLoop]⟩
  | cons nal nals ih =>
    obtain ⟨groups,sent,runs⟩ := ih
    cases nal with
    | nil =>
      refine ⟨[]::groups,.cons .skipped sent,?_⟩
      intro fuel payloads enough
      have rest := runs fuel payloads (fun n mem => enough n (List.mem_cons_of_mem _ mem))
      simpa [packetizeLoop] using rest
    | cons header data =>
      by_cases fits : data.length + 1 ≤ maxPayload
      · refine ⟨[header::data]::groups,.cons (.single (by simp) fits) sent,?_⟩
        intro fuel payloads enough
        simp only [packetizeLoop,List.isEmpty_cons,Bool.false_eq_true,if_false,List.length_cons,if_pos fits]
        rw [runs fuel _ (fun n mem => enough n (List.mem_cons_of_mem _ mem))]
        simp
      · obtain ⟨pieces,cut,loop⟩ := @fragmentLoopRuns header (maxPayload - 2) data room (by omega)
        refine ⟨pieces.map (fuPiece header)::groups,.cons (.fragments (by omega) cut) sent,?_⟩
        intro fuel payloads enough
        have size := enough (header::data) (by simp)
        rw [List.length_cons] at size
        simp only [packetizeLoop,List.isEmpty_cons,Bool.false_eq_true,if_false,List.length_cons,if_neg fits,
          fragmentFuA,loop fuel payloads (by omega)]
        rw [runs fuel _ (fun n mem => enough n (List.mem_cons_of_mem _ mem))]
        simp

theorem scanLength (data : List Byte) (i nalStart : Nat) :
    ∀ nal ∈ scanNals data i nalStart, nal.length ≤ data.length := by
  induction i,nalStart using scanNals.induct data with
  | case1 i nalStart room n found ih =>
    intro nal mem
    rw [scanCode room found] at mem
    rcases List.mem_append.mp mem with here | later
    · split at here
      · rw [List.mem_singleton.mp here]
        simp only [slice,List.length_take,List.length_drop]
        omega
      · contradiction
    · exact ih nal later
  | case2 i nalStart room absent ih =>
    intro nal mem
    rw [scanByte room absent] at mem
    exact ih nal mem
  | case3 i nalStart last left =>
    intro nal mem
    rw [scanEnd (by omega),if_pos left,List.mem_singleton] at mem
    rw [mem,List.length_drop]
    omega
  | case4 i nalStart last left =>
    intro nal mem
    rw [scanEnd (by omega),if_neg left] at mem
    contradiction

theorem packetizeRuns (p : H264Packetizer) (room : 0 < p.mtu - rtpHeaderSize - 2) (stream : List Byte) :
    ∃ groups, List.Forall₂ (Sent (p.mtu - rtpHeaderSize)) (splitAnnexB stream) groups ∧
      ∀ fuel, stream.length ≤ fuel → p.packetize fuel stream = some groups.flatten := by
  obtain ⟨groups,sent,runs⟩ := packetizeLoopRuns room (splitAnnexB stream)
  refine ⟨groups,sent,?_⟩
  intro fuel enough
  exact runs fuel [] (fun nal mem => Nat.le_trans (scanLength stream _ _ nal mem) enough)

theorem receiveFragment (pending : Option Nal) (header : Byte) (isFirst isLast : Bool) (chunk : List Byte) :
    receive pending (fuPacket header isFirst isLast chunk) =
      receiveFuA pending (fuIndicator header) (fuHeader header isFirst isLast) chunk := by
  have fragment : ¬ ((1 : Byte) ≤ 28 ∧ (28 : Byte) ≤ 23) := by decide
  simp only [receive,fuPacket,fuIndicatorType,if_neg fragment,if_true]

theorem receiveFirst (header : Byte) (chunk : List Byte) :
    receive none (fuPacket header true false chunk) = some (some (header::chunk),[]) := by
  have bits := fuHeaderBits true false header
  simp only [receiveFragment,receiveFuA,bits.1,bits.2,headerRebuilt]

theorem receiveNext (header : Byte) (isLast : Bool) (nal : Nal) (chunk : List Byte) :
    receive (some nal) (fuPacket header false isLast chunk) =
      if isLast then some (none,[nal ++ chunk]) else some (some (nal ++ chunk),[]) := by
  have bits := fuHeaderBits false isLast header
  cases isLast <;> simp only [receiveFragment,receiveFuA,bits.1,bits.2] <;> rfl

theorem reassembleRest {header size isFirst data} {pieces : List (Piece Byte)}
    (cut : Chunked size isFirst data pieces) (later : isFirst = false) (nal : Nal) (rest : List Payload) :
    depacketize (some nal) (pieces.map (fuPiece header) ++ rest) =
      (depacketize none rest).map ((nal ++ data) :: ·) := by
  induction cut generalizing nal with
  | last more fits =>
    subst later
    simp only [List.map_cons,List.map_nil,List.singleton_append,depacketize,fuPiece,receiveNext,if_true]
  | more full next ih =>
    subst later
    simp only [List.map_cons,List.cons_append,depacketize,fuPiece,receiveNext,Bool.false_eq_true,if_false,
      List.nil_append,Option.map_id_fun',id_eq]
    rw [ih rfl,List.append_assoc]

theorem reassemble {header size data} {pieces : List (Piece Byte)} (cut : Chunked size true data pieces)
    (large : size < data.length) (rest : List Payload) :
    depacketize none (pieces.map (fuPiece header) ++ rest) =
      (depacketize none rest).map ((header::data) :: ·) := by
  cases cut with
  | last more fits => omega
  | more full next =>
    simp only [List.map_cons,List.cons_append,depacketize,fuPiece,receiveFirst,List.nil_append,
      Option.map_id_fun',id_eq]
    rw [reassembleRest next rfl,List.cons_append]

theorem depacketizeSent {maxPayload : Nat} (room : 0 < maxPayload - 2) {units : List NalUnit} {groups}
    (sent : List.Forall₂ (Sent maxPayload) (units.map NalUnit.bytes) groups) :
    depacketize none groups.flatten = some (units.map NalUnit.bytes) := by
  induction units generalizing groups with
  | nil => cases sent; rfl
  | cons u units ih =>
    cases sent with
    | cons first others =>
      have rest := ih others
      rw [List.flatten_cons,List.map_cons]
      generalize bytes : u.bytes = nal at first
      cases first with
      | skipped => simp [NalUnit.bytes] at bytes
      | single more fits =>
        subst bytes
        simp only [List.singleton_append,depacketize,receive,NalUnit.bytes,if_pos u.type,Option.isNone_none,
          if_true,rest]
        rfl
      | fragments large cut =>
        rw [reassemble cut (by omega),rest]
        rfl

def FuARun (frags : List Payload) : Prop :=
  ∀ i (inside : i < frags.length), ∃ indicator fu chunk, frags[i] = indicator::fu::chunk ∧
    payloadType indicator = 28 ∧ startBit fu = decide (i = 0) ∧ endBit fu = decide (i + 1 = frags.length) ∧
    (startBit fu && endBit fu) = false

theorem fragmentsRun {header size data} {pieces : List (Piece Byte)} (cut : Chunked size true data pieces)
    (large : size < data.length) : FuARun (pieces.map (fuPiece header)) := by
  have two := chunkedTwo cut large
  intro i inside
  rw [List.length_map] at inside
  have flags := chunkedFlags cut i inside
  have bits := fuHeaderBits pieces[i].first pieces[i].last header
  refine ⟨_,_,pieces[i].chunk,by rw [List.getElem_map]; rfl,fuIndicatorType header,?_,?_,?_⟩
  · rw [bits.1,flags.1,Bool.true_and]
  · rw [bits.2,flags.2,List.length_map]
  · rw [bits.1,bits.2,flags.1,flags.2,Bool.and_eq_false_iff]
    by_cases zero : i = 0
    · right
      rw [decide_eq_false_iff_not]; omega
    · left
      simp [zero]

theorem sentSizes {maxPayload nals groups} (room : 0 < maxPayload - 2)
    (sent : List.Forall₂ (Sent maxPayload) nals groups) :
    ∀ payload ∈ groups.flatten, payload.length ≤ maxPayload := by
  induction sent with
  | nil => simp
  | cons first _ ih =>
    intro payload mem
    rw [List.flatten_cons,List.mem_append] at mem
    rcases mem with here | later
    · cases first with
      | skipped => contradiction
      | single more fits => rw [List.mem_singleton.mp here]; exact fits
      | fragments large cut =>
        obtain ⟨piece,inPieces,rfl⟩ := List.mem_map.mp here
        have size := chunkedSize cut piece inPieces
        simp only [fuPiece,fuPacket,List.length_cons]
        omega
    · exact ih payload later

theorem sentShape {maxPayload : Nat} {u : NalUnit} {group} (room : 0 < maxPayload - 2)
    (sent : Sent maxPayload u.bytes group) : group = [u.bytes] ∨ FuARun group := by
  generalize bytes : u.bytes = nal at sent
  cases sent with
  | skipped => simp [NalUnit.bytes] at bytes
  | single more fits => exact .inl rfl
  | fragments large cut => exact .inr (fragmentsRun cut (by omega))

theorem withMtuRoom (mtu : Nat) : 0 < (H264Packetizer.withMtu mtu).mtu - rtpHeaderSize - 2 := by
  simp only [H264Packetizer.withMtu,rtpHeaderSize]
  omega

def Carries (units : List (Bool × NalUnit)) (payloads : List Payload) : Prop :=
  ∃ groups, payloads = groups.flatten ∧
    List.Forall₂ (fun x group => group = [x.2.bytes] ∨ FuARun group) units groups

theorem packetizeInverts (p : H264Packetizer) (room : 0 < p.mtu - rtpHeaderSize - 2)
    (units : List (Bool × NalUnit)) : ∃ payloads,
      (∀ fuel, (annexB units).length ≤ fuel → p.packetize fuel (annexB units) = some payloads) ∧
      depacketize none payloads = some (units.map (fun x => x.2.bytes)) ∧
      (∀ payload ∈ payloads, payload.length ≤ p.mtu - rtpHeaderSize) ∧ Carries units payloads := by
  obtain ⟨groups,sent,runs⟩ := packetizeRuns p room (annexB units)
  rw [splitJoined] at sent
  refine ⟨groups.flatten,runs,?_,sentSizes room sent,groups,rfl,?_⟩
  · have units' : units.map (fun x => x.2.bytes) = (units.map Prod.snd).map NalUnit.bytes := by simp
    rw [units'] at sent ⊢
    exact depacketizeSent room sent
  · rw [List.forall₂_map_left_iff] at sent
    exact sent.imp (fun x group sent => sentShape room sent)

theorem packetizationInvertible :
    (∀ (p : H264Packetizer) (units : List (Bool × NalUnit)), 0 < p.mtu - rtpHeaderSize - 2 → ∃ payloads,
      (∀ fuel, (annexB units).length ≤ fuel → p.packetize fuel (annexB units) = some payloads) ∧
      depacketize none payloads = some (units.map (fun x => x.2.bytes)) ∧
      (∀ payload ∈ payloads, payload.length ≤ p.mtu - rtpHeaderSize) ∧ Carries units payloads) ∧
    ∀ mtu stream, ∃ payloads, ∀ fuel, stream.length ≤ fuel →
      (H264Packetizer.withMtu mtu).packetize fuel stream = some payloads := by
  constructor
  · intro p units room
    exact packetizeInverts p room units
  · intro mtu stream
    obtain ⟨groups,_,runs⟩ := packetizeRuns (.withMtu mtu) (withMtuRoom mtu) stream
    exact ⟨groups.flatten,runs⟩

def idrUnit : NalUnit where
  header := 0x65
  data := [1,2,3,4,5,6]
  type := by decide
  noStartCode := by decide
  ending := by decide

theorem packetizationInvertibleRun : ∃ payloads,
    (H264Packetizer.mk 16).packetize 20 (annexB [(true,idrUnit)]) = some payloads ∧
    depacketize none payloads = some [[0x65,1,2,3,4,5,6]] := by
  obtain ⟨payloads,runs,back,_⟩ := packetizationInvertible.1 ⟨16⟩ [(true,idrUnit)] (by decide)
  exact ⟨payloads,runs 20 (by decide),back⟩

end Vscreen.H264
