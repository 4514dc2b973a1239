import Vscreen.RtspUrl

/-! DESCRIBE and SETUP on the track URLs of one stream: the sections that a client
reads in the SDP, the URLs it forms for them, and what SETUP makes of those. -/
namespace Vscreen.Rtsp
open Text

section Sdp

structure MediaSection where
  kind : Text
  control : Option Text
  deriving DecidableEq, Repr

def sectionsFrom : List Text → Option Text × List MediaSection
  | [] => (none,[])
  | line::rest =>
    let later := sectionsFrom rest
    match stripPrefix "m=".toList line with
    | some media => (none,⟨(split ' ' media).headD media,later.1⟩::later.2)
    | none => match stripPrefix "a=control:".toList line with
      | some control => (some control,later.2)
      | none => later

def mediaSections (sdp : Text) : List MediaSection := (sectionsFrom (lines sdp)).2

def MediaType.display : MediaType → Text
  | .video => "video".toList
  | .audio => "audio".toList

def MediaType.trackId : MediaType → UInt8
  | .video => 0
  | .audio => 1

def sectionOf (kind : MediaType) : MediaSection := ⟨kind.display,some (trackControl kind.trackId.toNat)⟩

def MediaConfig.sections (media : MediaConfig) : List MediaSection :=
  (if media.video then [sectionOf .video] else []) ++ (if media.audio then [sectionOf .audio] else [])

theorem memSections {media : MediaConfig} {s : MediaSection} :
    s ∈ media.sections ↔ ∃ kind, media.carries kind = true ∧ s = sectionOf kind := by
  constructor
  · intro member
    rcases List.mem_append.mp member with video | audio
    · split at video
      · rename_i carried
        exact ⟨.video,carried,List.mem_singleton.mp video⟩
      · contradiction
    · split at audio
      · rename_i carried
        exact ⟨.audio,carried,List.mem_singleton.mp audio⟩
      · contradiction
  · rintro ⟨kind,carried,rfl⟩
    cases kind with
    | video => exact List.mem_append_left _ (by rw [if_pos (show media.video = true from carried)]; simp)
    | audio => exact List.mem_append_right _ (by rw [if_pos (show media.audio = true from carried)]; simp)

theorem linesFlatMap {block : List Text} (unbroken : ∀ line ∈ block, '\n' ∉ line) :
    lines (block.flatMap (· ++ crlf)) = block := by
  induction block with
  | nil => rfl
  | cons line block ih =>
    rw [List.forall_mem_cons] at unbroken
    have shape : (line::block).flatMap (· ++ crlf) = (line ++ ['\r']) ++ '\n'::block.flatMap (· ++ crlf) := by
      simp [crlf]
    rw [shape,lines,linesFromLine [] _ (by simp [unbroken.1]),ih unbroken.2]
    simp [stripCr]

theorem decimalOneLine (n : Nat) : '\n' ∉ decimal n := fun member =>
  absurd (decimalDigits n _ member) (by decide)

theorem sessionOneLine {p : SdpParams} (id : '\n' ∉ p.instanceId) : ∀ line ∈ p.sessionLines, '\n' ∉ line := by
  have number := decimalOneLine
  have ip := p.serverIp.oneLine
  have version : '\n' ∉ p.ipVer := by unfold SdpParams.ipVer; split <;> decide
  intro line member
  simp only [SdpParams.sessionLines,List.mem_cons,List.not_mem_nil,or_false] at member
  rcases member with rfl | rfl | rfl | rfl | rfl <;> simp [number,ip,version,id]

theorem codecOneLine (p : SdpParams) : ∀ line ∈ p.codecLines, '\n' ∉ line := by
  have number := decimalOneLine
  intro line member
  unfold SdpParams.codecLines at member
  split at member <;> simp only [List.mem_cons,List.not_mem_nil,or_false] at member <;>
    rcases member with rfl | rfl <;> simp [number]

theorem videoOneLine (p : SdpParams) : ∀ line ∈ p.videoLines, '\n' ∉ line := by
  have number := decimalOneLine
  intro line member
  simp only [SdpParams.videoLines,List.mem_append,List.mem_cons,List.not_mem_nil,or_false] at member
  rcases member with (rfl | codec) | rfl | rfl
  · decide
  · exact codecOneLine p line codec
  · simp [number]
  · decide

theorem audioOneLine (p : SdpParams) : ∀ line ∈ p.audioLines, '\n' ∉ line := by
  have number := decimalOneLine
  intro line member
  simp only [SdpParams.audioLines,List.mem_cons,List.not_mem_nil,or_false] at member
  rcases member with rfl | rfl | rfl | rfl | rfl <;> simp [number]

theorem sdpOneLine {p : SdpParams} (id : '\n' ∉ p.instanceId) : ∀ line ∈ p.lines, '\n' ∉ line := by
  intro line member
  rcases List.mem_append.mp member with front | audio
  · rcases List.mem_append.mp front with session | video
    · exact sessionOneLine id line session
    · split at video
      · exact videoOneLine p line video
      · contradiction
  · split at audio
    · exact audioOneLine p line audio
    · contradiction

theorem sectionsSkip {front : List Text} (plain : ∀ line ∈ front, stripPrefix "m=".toList line = none ∧
    stripPrefix "a=control:".toList line = none) (rest : List Text) : sectionsFrom (front ++ rest) = sectionsFrom rest := by
  induction front with
  | nil => rfl
  | cons line front ih =>
    rw [List.forall_mem_cons] at plain
    rw [List.cons_append,sectionsFrom,plain.1.1,plain.1.2]
    exact ih plain.2

theorem sessionPlain (p : SdpParams) : ∀ line ∈ p.sessionLines, stripPrefix "m=".toList line = none ∧
    stripPrefix "a=control:".toList line = none := by
  intro line member
  simp only [SdpParams.sessionLines,List.mem_cons,List.not_mem_nil,or_false] at member
  rcases member with rfl | rfl | rfl | rfl | rfl <;> exact ⟨rfl,rfl⟩

theorem codecPlain (p : SdpParams) : ∀ line ∈ p.codecLines, stripPrefix "m=".toList line = none ∧
    stripPrefix "a=control:".toList line = none := by
  intro line member
  unfold SdpParams.codecLines at member
  split at member <;> simp only [List.mem_cons,List.not_mem_nil,or_false] at member <;>
    rcases member with rfl | rfl <;> exact ⟨rfl,rfl⟩

theorem videoSection (p : SdpParams) (rest : List Text) :
    (sectionsFrom (p.videoLines ++ rest)).2 = sectionOf .video::(sectionsFrom rest).2 := by
  have media : stripPrefix "m=".toList "m=video 0 RTP/AVP 96".toList = some "video 0 RTP/AVP 96".toList := rfl
  have rate : ∀ t : Text, stripPrefix "m=".toList ("a=framerate:".toList ++ t) = none ∧
      stripPrefix "a=control:".toList ("a=framerate:".toList ++ t) = none := fun _ => ⟨rfl,rfl⟩
  have control : stripPrefix "m=".toList "a=control:trackID=0".toList = none ∧
      stripPrefix "a=control:".toList "a=control:trackID=0".toList = some "trackID=0".toList := ⟨rfl,rfl⟩
  rw [SdpParams.videoLines,List.append_assoc,List.append_assoc,List.singleton_append,sectionsFrom,media]
  dsimp only
  rw [sectionsSkip (codecPlain p)]
  simp only [List.cons_append,List.nil_append,sectionsFrom,(rate _).1,(rate _).2,control.1,control.2]
  rfl

theorem audioSection (p : SdpParams) : (sectionsFrom p.audioLines).2 = [sectionOf .audio] := by
  have media : stripPrefix "m=".toList "m=audio 0 RTP/AVP 111".toList = some "audio 0 RTP/AVP 111".toList := rfl
  have map : stripPrefix "m=".toList "a=rtpmap:111 opus/48000/2".toList = none ∧
      stripPrefix "a=control:".toList "a=rtpmap:111 opus/48000/2".toList = none := ⟨rfl,rfl⟩
  have format : ∀ t : Text, stripPrefix "m=".toList
      ("a=fmtp:111 minptime=10;useinbandfec=1;maxaveragebitrate=".toList ++ t) = none ∧ stripPrefix "a=control:".toList
      ("a=fmtp:111 minptime=10;useinbandfec=1;maxaveragebitrate=".toList ++ t) = none := fun _ => ⟨rfl,rfl⟩
  have time : ∀ t : Text, stripPrefix "m=".toList ("a=ptime:".toList ++ t) = none ∧
      stripPrefix "a=control:".toList ("a=ptime:".toList ++ t) = none := fun _ => ⟨rfl,rfl⟩
  have control : stripPrefix "m=".toList "a=control:trackID=1".toList = none ∧
      stripPrefix "a=control:".toList "a=control:trackID=1".toList = some "trackID=1".toList := ⟨rfl,rfl⟩
  simp only [SdpParams.audioLines,sectionsFrom,media,map.1,map.2,(format _).1,(format _).2,(time _).1,(time _).2,
    control.1,control.2]
  rfl

theorem sdpSections {p : SdpParams} (id : '\n' ∉ p.instanceId) : mediaSections (generateSdp p) = p.media.sections := by
  rw [mediaSections,generateSdp,linesFlatMap (sdpOneLine id),SdpParams.lines,List.append_assoc,
    sectionsSkip (sessionPlain p),MediaConfig.sections]
  split
  · rw [videoSection]
    split
    · rw [audioSection]; rfl
    · rfl
  · split
    · rw [List.nil_append,audioSection]; rfl
    · rfl

end Sdp

section Resolution
variable {u : CaseMapping} {url id : Text}

def resolved (u : CaseMapping) (url : Text) : Option (UInt8 × MediaType) :=
  resolveTrack (extractTrackId url) (parseMediaConfig u url)

def tierOf (u : CaseMapping) (url : Text) : QualityTier := resolveQualityTier u (extractQueryParams u url)

def mediaFrom (url : Text) (params : Table Text Text) : MediaConfig :=
  if isAudioOnlyUrl url then .audioOnly else ⟨enabled params "video".toList,enabled params "audio".toList⟩

theorem mediaFromParams (u : CaseMapping) (url : Text) :
    parseMediaConfig u url = mediaFrom url (extractQueryParams u url) := rfl

def LastIgnored (u : CaseMapping) (url : Text) : Prop :=
  mediaFrom url (withoutLast u url) = parseMediaConfig u url ∧
    resolveQualityTier u (withoutLast u url) = tierOf u url

def MediaConfig.only : MediaType → MediaConfig
  | .video => ⟨true,false⟩
  | .audio => ⟨false,true⟩

/-- The URLs whose tracks can be followed: a plain path with both media, or a query
after the path with one, the track id of the path not against it; in each case the
last key of the query has no say. Or nothing is advertised and no SETUP gets a track. -/
def Followable (u : CaseMapping) (url : Text) : Prop :=
  ('?' ∉ afterHost url ∧ parseMediaConfig u url = .default ∧ LastIgnored u url) ∨
    ('?' ∈ afterHost url ∧
      ((∃ kind, parseMediaConfig u url = .only kind ∧
          (extractTrackId url = none ∨ extractTrackId url = some kind.trackId) ∧ LastIgnored u url) ∨
        (parseMediaConfig u url = ⟨false,false⟩ ∧ ∃ i, extractTrackId url = some i ∧ i ≠ 0 ∧ i ≠ 1)))

structure UrlAgrees (u : CaseMapping) (url : Text) : Prop where
  followed : ∀ kind, (parseMediaConfig u url).carries kind = true →
    resolved u (controlUrl url (trackControl kind.trackId.toNat)) = some (kind.trackId,kind) ∧
      parseMediaConfig u (controlUrl url (trackControl kind.trackId.toNat)) = parseMediaConfig u url ∧
      tierOf u (controlUrl url (trackControl kind.trackId.toNat)) = tierOf u url
  granted : ∀ url', (url' = url ∨ ∃ n, url' = controlUrl url (trackControl n)) →
    ∀ i kind, resolved u url' = some (i,kind) → (parseMediaConfig u url).carries kind = true

theorem suffixReading (n : Nat) (same : isAudioOnlyUrl (url ++ trackSuffix url n) = isAudioOnlyUrl url) :
    parseMediaConfig u (url ++ trackSuffix url n) = mediaFrom url (withoutLast u url) ∧
      tierOf u (url ++ trackSuffix url n) = resolveQualityTier u (withoutLast u url) := by
  have reading := suffixParams (u := u) url n
  refine ⟨?_,reading.tier⟩
  rw [mediaFromParams,mediaFrom,mediaFrom,same,reading.video,reading.audio]

theorem trackNumber (kind : MediaType) : TransportHeader.parseU8 (decimal kind.trackId.toNat) = some kind.trackId := by
  cases kind <;> rfl

theorem resolveNumber (kind : MediaType) (media : MediaConfig) :
    resolveTrack (some kind.trackId) media = some (kind.trackId,kind) := by
  cases kind <;> rfl

theorem resolveOnly (kind : MediaType) : resolveTrack none (.only kind) = some (kind.trackId,kind) := by
  cases kind <;> rfl

theorem resolveKnown {t : Option UInt8} {media : MediaConfig} {kind : MediaType}
    (resolved : resolveTrack t media = some (kind.trackId,kind)) : t = none ∨ t = some kind.trackId := by
  unfold resolveTrack at resolved
  split at resolved
  · cases kind with
    | video => exact .inr rfl
    | audio => simp at resolved
  · cases kind with
    | video => simp at resolved
    | audio => exact .inr rfl
  · exact .inl rfl
  · contradiction

theorem resolveUnknown {i : UInt8} (media : MediaConfig) (video : i ≠ 0) (audio : i ≠ 1) :
    resolveTrack (some i) media = none := by
  unfold resolveTrack
  split
  · rename_i same; exact (video (Option.some.inj same)).elim
  · rename_i same; exact (audio (Option.some.inj same)).elim
  · contradiction
  · rfl

theorem carriesOnly {kind kind' : MediaType} : (MediaConfig.only kind).carries kind' = true ↔ kind' = kind := by
  cases kind <;> cases kind' <;> simp [MediaConfig.only,MediaConfig.carries]

theorem mediaCases (media : MediaConfig) : media = .default ∨ (∃ kind, media = .only kind) ∨ media = ⟨false,false⟩ := by
  obtain ⟨video,audio⟩ := media
  cases video <;> cases audio
  · exact .inr (.inr rfl)
  · exact .inr (.inl ⟨.audio,rfl⟩)
  · exact .inr (.inl ⟨.video,rfl⟩)
  · exact .inl rfl

theorem controlIsSuffix (url : Text) (n : Nat) : controlUrl url (trackControl n) = url ++ trackSuffix url n := rfl

theorem plainAgrees (accepted : extractInstanceId url = some id) (plain : '?' ∉ afterHost url) :
    UrlAgrees u url ↔ parseMediaConfig u url = .default ∧ LastIgnored u url := by
  have track : ∀ n, extractTrackId (controlUrl url (trackControl n)) = TransportHeader.parseU8 (decimal n) :=
    fun n => (plainTrack n accepted plain).2.1
  have reading := fun n => suffixReading (u := u) n (plainTrack n accepted plain).2.2
  have asked : ∀ kind : MediaType,
      resolved u (controlUrl url (trackControl kind.trackId.toNat)) = some (kind.trackId,kind) := fun kind => by
    rw [resolved,track,trackNumber,resolveNumber]
  constructor
  · intro agrees
    have carried : ∀ kind, (parseMediaConfig u url).carries kind = true := fun kind =>
      agrees.granted _ (.inr ⟨_,rfl⟩) _ _ (asked kind)
    have both : parseMediaConfig u url = .default := by
      have video := carried .video
      have audio := carried .audio
      cases media : parseMediaConfig u url with
      | mk v a =>
        rw [media] at video audio
        simp only [MediaConfig.carries] at video audio
        rw [video,audio]
        rfl
    obtain ⟨-,media,tier⟩ := agrees.followed .video (carried .video)
    rw [controlIsSuffix,(reading _).1] at media
    rw [controlIsSuffix,(reading _).2] at tier
    exact ⟨both,media,tier⟩
  · rintro ⟨both,media,tier⟩
    constructor
    · intro kind _
      refine ⟨asked kind,?_,?_⟩
      · rw [controlIsSuffix,(reading _).1,media]
      · rw [controlIsSuffix,(reading _).2,tier]
    · intro url' _ i kind _
      rw [both]
      cases kind <;> rfl

theorem queryAgrees (accepted : extractInstanceId url = some id) (query : '?' ∈ afterHost url) :
    UrlAgrees u url ↔ (∃ kind, parseMediaConfig u url = .only kind ∧
        (extractTrackId url = none ∨ extractTrackId url = some kind.trackId) ∧ LastIgnored u url) ∨
      (parseMediaConfig u url = ⟨false,false⟩ ∧ ∃ i, extractTrackId url = some i ∧ i ≠ 0 ∧ i ≠ 1) := by
  have track : ∀ n, extractTrackId (controlUrl url (trackControl n)) = extractTrackId url :=
    fun n => (queryTrack n accepted query).2.1
  have reading := fun n => suffixReading (u := u) n (queryTrack n accepted query).2.2
  constructor
  · intro agrees
    have own : ∀ kind, (parseMediaConfig u url).carries kind = true →
        resolveTrack (extractTrackId url) (parseMediaConfig u url) = some (kind.trackId,kind) := fun kind carried => by
      obtain ⟨asked,media,-⟩ := agrees.followed kind carried
      rw [resolved,track,media] at asked
      exact asked
    rcases mediaCases (parseMediaConfig u url) with both | ⟨kind,only⟩ | none
    · have video := own .video (by rw [both]; rfl)
      have audio := own .audio (by rw [both]; rfl)
      rw [video] at audio
      simp [MediaType.trackId] at audio
    · have carried : (parseMediaConfig u url).carries kind = true := by rw [only]; exact carriesOnly.mpr rfl
      obtain ⟨-,media,tier⟩ := agrees.followed kind carried
      rw [controlIsSuffix,(reading _).1] at media
      rw [controlIsSuffix,(reading _).2] at tier
      exact .inl ⟨kind,only,resolveKnown (own kind carried),media,tier⟩
    · refine .inr ⟨none,?_⟩
      have refused : ∀ i kind, resolveTrack (extractTrackId url) ⟨false,false⟩ ≠ some (i,kind) := by
        intro i kind found
        have carried := agrees.granted url (.inl rfl) i kind (by rw [resolved,none]; exact found)
        rw [none] at carried
        cases kind <;> contradiction
      cases own : extractTrackId url with
      | none => exact (refused 1 .audio (by rw [own]; rfl)).elim
      | some i =>
        refine ⟨i,rfl,?_,?_⟩
        · rintro rfl
          exact refused 0 .video (by rw [own]; rfl)
        · rintro rfl
          exact refused 1 .audio (by rw [own]; rfl)
  · rintro (⟨kind,only,path,media,tier⟩ | ⟨none,i,path,video,audio⟩)
    · have same : ∀ n, parseMediaConfig u (controlUrl url (trackControl n)) = .only kind := fun n => by
        rw [controlIsSuffix,(reading n).1,media,only]
      have own : resolveTrack (extractTrackId url) (.only kind) = some (kind.trackId,kind) := by
        rcases path with path | path
        · rw [path,resolveOnly]
        · rw [path,resolveNumber]
      constructor
      · intro kind' carried
        rw [only] at carried
        cases carriesOnly.mp carried
        refine ⟨by rw [resolved,track,same,own],by rw [same,only],?_⟩
        rw [controlIsSuffix,(reading _).2,tier]
      · rintro url' asked i kind' found
        have mine : resolved u url' = some (kind.trackId,kind) := by
          rcases asked with rfl | ⟨n,rfl⟩
          · rw [resolved,only,own]
          · rw [resolved,track,same,own]
        rw [mine] at found
        cases found
        rw [only]
        exact carriesOnly.mpr rfl
    · constructor
      · intro kind carried
        rw [none] at carried
        cases kind <;> contradiction
      · intro url' asked j kind found
        have refused : resolved u url' = Option.none := by
          rcases asked with rfl | ⟨n,rfl⟩
          · rw [resolved,path,resolveUnknown _ video audio]
          · rw [resolved,track,path,resolveUnknown _ video audio]
        rw [refused] at found
        contradiction

theorem urlAgreesIff (accepted : extractInstanceId url = some id) : UrlAgrees u url ↔ Followable u url := by
  by_cases query : '?' ∈ afterHost url
  · rw [queryAgrees accepted query,Followable]
    simp [query]
  · rw [plainAgrees accepted query,Followable]
    simp [query]

end Resolution
end Vscreen.Rtsp
