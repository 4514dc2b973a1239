import Vscreen.RtspHandler
import Vscreen.RtspTransport

/-! The arithmetic of vscreen-rtsp on numbers from outside: the port and the channel
after a single one (parser.rs), the port after the one that the system hands out
(transport.rs), and the bitrate that a URL asks for (quality.rs, transcoder.rs). -/
namespace Vscreen.Rtsp
open Text
variable {u : CaseMapping}

section Increments

def numberField (u : CaseMapping) (value : Text) : Option (TransportKind × Text) :=
  let lower := u.toLowercase value
  if ¬ "rtp/avp".toList <:+: lower then none
  else if "rtp/avp/tcp".toList <:+: lower ∨ TransportHeader.interleaved <:+: lower then
    (((split ';' lower).find? fun part => TransportHeader.interleaved.isPrefixOf (trim part)).bind
      fun part => stripPrefix TransportHeader.interleaved (trim part)).map (TransportKind.tcp,·)
  else
    (((split ';' value).find? fun part => TransportHeader.clientPort.isPrefixOf (u.toLowercase (trim part))).bind
      fun part => (split '=' part)[1]?).map fun ports => (TransportKind.udp,trim ports)

def singleValue (u : CaseMapping) (value : Text) : Option (TransportKind × Nat) := match numberField u value with
  | none => none
  | some (d,text) => if '-' ∈ text then none else (parseUnsigned d.bound text).map (d,·)

def wrapped (d : TransportKind) (n : Nat) : TransportMode := match d with
  | .udp => .udpUnicast (.ofNat n) (.ofNat n + 1)
  | .tcp => .tcpInterleaved (.ofNat n) (.ofNat n + 1)

theorem singleParsed {value : Text} {d : TransportKind} {n : Nat} (single : singleValue u value = some (d,n)) :
    TransportHeader.parse u value = .ok ⟨wrapped d n⟩ ∧ n < d.bound := by
  unfold singleValue at single
  split at single
  · contradiction
  · rename_i e text field
    split at single
    · contradiction
    · rename_i one
      obtain ⟨m,number,same⟩ := Option.map_eq_some_iff.mp single
      cases same
      refine ⟨?_,parsedSmall (by cases d <;> decide) number⟩
      unfold numberField at field
      unfold TransportHeader.parse
      dsimp only at field ⊢
      split at field
      · contradiction
      · rename_i profile
        rw [if_neg profile]
        split at field
        · rename_i tcp
          rw [if_pos tcp]
          obtain ⟨part,found,same⟩ := Option.map_eq_some_iff.mp field
          cases same
          have read : TransportHeader.parseU8 text = some (.ofNat n) := by
            rw [TransportHeader.parseU8,show parseUnsigned (2^8) text = some n from number]
            rfl
          rw [TransportHeader.parseInterleaved,found]
          dsimp only
          rw [parsePairSingle one read]
          rfl
        · rename_i udp
          rw [if_neg udp]
          obtain ⟨part,found,same⟩ := Option.map_eq_some_iff.mp field
          cases same
          obtain ⟨piece,hit,ports⟩ := Option.bind_eq_some_iff.mp found
          have read : TransportHeader.parseU16 (trim part) = some (.ofNat n) := by
            rw [TransportHeader.parseU16,show parseUnsigned (2^16) (trim part) = some n from number]
            rfl
          rw [TransportHeader.parseUnicast,hit]
          dsimp only
          rw [ports]
          dsimp only
          rw [parsePairSingle one read]
          rfl

/-- A header is rejected, or its single number stands for itself and the next one. -/
def NoWrap (u : CaseMapping) (value : Text) : Prop := ∀ t d n, TransportHeader.parse u value = .ok t →
  singleValue u value = some (d,n) → t.mode.reading = (d,n,n + 1)

theorem wrappedReading {d : TransportKind} {n : Nat} (small : n < d.bound) :
    (wrapped d n).reading = (d,n,n + 1) ↔ n ≠ d.bound - 1 := by
  cases d with
  | udp =>
    simp only [TransportKind.bound] at small ⊢
    simp [wrapped,TransportMode.reading,UInt16.toNat_add,UInt16.toNat_ofNat']
    omega
  | tcp =>
    simp only [TransportKind.bound] at small ⊢
    simp [wrapped,TransportMode.reading,UInt8.toNat_add,UInt8.toNat_ofNat']
    omega

theorem noWrapIff (value : Text) : NoWrap u value ↔ ∀ d, singleValue u value ≠ some (d,d.bound - 1) := by
  constructor
  · intro exactly d single
    obtain ⟨parsed,small⟩ := singleParsed single
    exact (wrappedReading small).mp (exactly _ d _ parsed single) rfl
  · intro below t d n parsed single
    obtain ⟨parsed',small⟩ := singleParsed single
    rw [parsed'] at parsed
    cases parsed
    exact (wrappedReading small).mpr fun last => below d (last ▸ single)

/-- After this first port `allocate_port_pair` tries the next one, and answers with both if it is free. -/
structure NextExact (first : AssignedPort) : Prop where
  tried : (first.val + 1).toNat = first.val.toNat + 1
  answered : ∀ probes : PortProbes, probes.rtp = some first → probes.nextFree = true → ∀ rtp rtcp,
    allocatePortPair probes = some (rtp,rtcp) → rtcp.toNat = rtp.toNat + 1

theorem nextExactIff (first : AssignedPort) : NextExact first ↔ first.val ≠ 65535 := by
  have below : (first.val + 1).toNat = first.val.toNat + 1 ↔ first.val ≠ 65535 := by
    rw [UInt16.toNat_add,Ne,← UInt16.toNat_inj]
    have bound := first.val.toNat_lt
    change (first.val.toNat + 1) % 2^16 = first.val.toNat + 1 ↔ ¬ first.val.toNat = 65535
    omega
  refine ⟨fun exactly => below.mp exactly.tried,fun other => ⟨below.mpr other,?_⟩⟩
  intro probes probed free rtp rtcp allocated
  obtain ⟨first',same,rfl,⟨-,rfl⟩ | ⟨used,-⟩⟩ := allocatedCases allocated
  · cases probed.symm.trans same
    exact below.mpr other
  · rw [free] at used
    cases used

theorem incrementsExact (u : CaseMapping) (value : Text) (first : AssignedPort) :
    (NoWrap u value ↔ ∀ d, singleValue u value ≠ some (d,d.bound - 1)) ∧ (NextExact first ↔ first.val ≠ 65535) :=
  ⟨noWrapIff value,nextExactIff first⟩

theorem lastNumbersWrap : ¬ NoWrap .ascii "RTP/AVP/TCP;unicast;interleaved=255".toList ∧
    ¬ NoWrap .ascii "RTP/AVP;unicast;client_port=65535".toList ∧
    allocatePortPair ⟨some ⟨65535,by decide⟩,true,none⟩ = some (65535,0) ∧ ¬ NextExact ⟨65535,by decide⟩ := by
  refine ⟨?_,?_,rfl,?_⟩
  · rw [noWrapIff]
    exact fun below => below .tcp (by decide +kernel)
  · rw [noWrapIff]
    exact fun below => below .udp (by decide +kernel)
  · rw [nextExactIff]
    exact fun below => below rfl

end Increments

section Bitrates

def QualityTier.bitrateKbps : QualityTier → UInt32
  | .low => 32
  | .medium => 64
  | .standard => 128
  | .high => 256
  | .custom kbps _ => kbps

def QualityTier.display : QualityTier → Text
  | .low => "low (32kbps mono)".toList
  | .medium => "medium (64kbps mono)".toList
  | .standard => "standard (128kbps stereo)".toList
  | .high => "high (256kbps stereo)".toList
  | .custom kbps channels =>
    "custom (".toList ++ decimal kbps.toNat ++ "kbps ".toList ++ (if channels = 1 then "mono".toList else "stereo".toList) ++
      ")".toList

def QualityTier.opusBitrate (tier : QualityTier) : Int32 := tier.bitrateBps.toInt32

/-- The bitrate is the one that the tier names wherever the tier is used. -/
structure Carried (tier : QualityTier) : Prop where
  bps : tier.bitrateBps.toNat = 1000 * tier.bitrateKbps.toNat
  transcoder : tier.opusBitrate.toInt = 1000 * tier.bitrateKbps.toNat
  bandwidth : ∀ p : SdpParams, p.tier = tier →
    "a=fmtp:111 minptime=10;useinbandfec=1;maxaveragebitrate=".toList ++ decimal (1000 * tier.bitrateKbps.toNat) ∈ p.audioLines
  display : ∃ before after, tier.display = before ++ decimal tier.bitrateKbps.toNat ++ "kbps ".toList ++ after

theorem castExact (bps : UInt32) : bps.toInt32.toInt = bps.toNat ↔ bps.toNat < 2^31 := by
  have bound := bps.toNat_lt
  have value : bps.toInt32.toInt = (bps.toNat : Int).bmod (2^32) := by
    rw [← Int32.toInt_toBitVec,UInt32.toBitVec_toInt32,BitVec.toInt_eq_toNat_bmod]
    rfl
  rw [value,Int.bmod_def]
  omega

theorem bandwidthLine (p : SdpParams) :
    "a=fmtp:111 minptime=10;useinbandfec=1;maxaveragebitrate=".toList ++ decimal p.tier.bitrateBps.toNat ∈ p.audioLines :=
  List.mem_cons_of_mem _ (List.mem_cons_of_mem _ List.mem_cons_self)

theorem displayShows (tier : QualityTier) :
    ∃ before after, tier.display = before ++ decimal tier.bitrateKbps.toNat ++ "kbps ".toList ++ after := by
  cases tier with
  | low => exact ⟨"low (".toList,"mono)".toList,by decide⟩
  | medium => exact ⟨"medium (".toList,"mono)".toList,by decide⟩
  | standard => exact ⟨"standard (".toList,"stereo)".toList,by decide⟩
  | high => exact ⟨"high (".toList,"stereo)".toList,by decide⟩
  | custom kbps channels => exact ⟨"custom (".toList,_,List.append_assoc _ _ _⟩

theorem bpsExact (tier : QualityTier) :
    (tier.bitrateBps.toNat = 1000 * tier.bitrateKbps.toNat ∧ tier.bitrateBps.toNat < 2^31) ↔
    tier.bitrateKbps.toNat ≤ 2147483 := by
  cases tier with
  | custom kbps channels =>
    have bound := kbps.toNat_lt
    simp only [QualityTier.bitrateBps,QualityTier.bitrateKbps,UInt32.toNat_mul]
    change (kbps.toNat * 1000 % 2^32 = 1000 * kbps.toNat ∧ kbps.toNat * 1000 % 2^32 < 2^31) ↔ _
    constructor
    · rintro ⟨same,small⟩
      omega
    · intro fits
      rw [Nat.mod_eq_of_lt (by omega)]
      omega
  | _ => decide

theorem carriedIff (tier : QualityTier) : Carried tier ↔ tier.bitrateKbps.toNat ≤ 2147483 := by
  rw [← bpsExact]
  constructor
  · intro carried
    refine ⟨carried.bps,(castExact _).mp ?_⟩
    rw [← QualityTier.opusBitrate,carried.transcoder,carried.bps]
    omega
  · rintro ⟨bps,small⟩
    refine ⟨bps,?_,?_,displayShows tier⟩
    · rw [QualityTier.opusBitrate,(castExact _).mpr small,bps]
      omega
    · rintro p rfl
      rw [← bps]
      exact bandwidthLine p

theorem bitratesCarried (u : CaseMapping) (url : Text) :
    Carried (resolveQualityTier u (extractQueryParams u url)) ↔
      ((extractQueryParams u url).get "tier".toList).bind (QualityTier.fromName u) ≠ none ∨
        ∀ kbps, ((extractQueryParams u url).get "kbps".toList).bind (parseUnsigned (2^32)) = some kbps →
          kbps ≤ 2147483 := by
  rw [carriedIff,resolveQualityTier]
  cases named : ((extractQueryParams u url).get "tier".toList).bind (QualityTier.fromName u) with
  | some tier =>
    refine ⟨fun _ => .inl (by simp),fun _ => ?_⟩
    obtain ⟨name,-,known⟩ := Option.bind_eq_some_iff.mp named
    unfold QualityTier.fromName at known
    dsimp only at known ⊢
    repeat' split at known
    all_goals cases known
    all_goals decide
  | none =>
    dsimp only
    cases number : ((extractQueryParams u url).get "kbps".toList).bind (parseUnsigned (2^32)) with
    | none =>
      dsimp only
      exact ⟨fun _ => .inr (fun kbps bad => (by cases bad)),fun _ => by decide⟩
    | some kbps =>
      obtain ⟨digits,-,parsed⟩ := Option.bind_eq_some_iff.mp number
      have small := parsedSmall (by decide) parsed
      have same : (QualityTier.customOf (.ofNat kbps)
          (((extractQueryParams u url).get "channels".toList).bind TransportHeader.parseU16)).bitrateKbps.toNat = kbps := by
        rw [QualityTier.customOf,QualityTier.bitrateKbps,UInt32.toNat_ofNat',Nat.mod_eq_of_lt small]
      dsimp only
      rw [same]
      constructor
      · intro fits
        refine .inr ?_
        rintro _ ⟨rfl⟩
        exact fits
      · rintro (bad | fits)
        · exact absurd rfl bad
        · exact fits kbps rfl

theorem requestedBitrateWraps :
    ¬ ∀ url, Carried (resolveQualityTier .ascii (extractQueryParams .ascii url)) := by
  intro all
  have fits := (carriedIff _).mp (all "rtsp://h/audio/dev?kbps=4294968".toList)
  have asked : (resolveQualityTier .ascii
      (extractQueryParams .ascii "rtsp://h/audio/dev?kbps=4294968".toList)).bitrateKbps = 4294968 := by decide +kernel
  rw [asked] at fits
  exact absurd fits (by decide)

end Bitrates
end Vscreen.Rtsp
