import Vscreen.RtspTracks

/-! The agreement of DESCRIBE and SETUP at the handlers: what the DESCRIBE response
says of the tracks, and what SETUP plans for the URLs made of it. -/
namespace Vscreen.Rtsp
open Text
variable {u : CaseMapping}

section Received

theorem splitnPieces {count : Nat} {sep : Char} {s a b : Text} {rest : List Text}
    (parts : splitn (count + 2) sep s = a::b::rest) (more : rest ≠ []) : sep ∉ b ∧ ∀ c ∈ b, c ∈ s := by
  unfold splitn at parts
  split at parts
  · simp at parts
  · rename_i piece remaining first
    obtain ⟨-,tail⟩ := List.cons_eq_cons.mp parts
    have shape := (splitOnceSome first).1
    cases count with
    | zero =>
      rw [splitn] at tail
      exact (more (List.cons_eq_cons.mp tail).2.symm).elim
    | succ count =>
      unfold splitn at tail
      split at tail
      · exact (more (List.cons_eq_cons.mp tail).2.symm).elim
      · rename_i piece' remaining' second
        obtain ⟨shape',absent⟩ := splitOnceSome second
        cases (List.cons_eq_cons.mp tail).1
        refine ⟨absent,fun c member => ?_⟩
        rw [shape,shape']
        simp [member]

theorem linesFromOneLine {current s : Text} (unbroken : '\n' ∉ current) : ∀ line ∈ linesFrom current s, '\n' ∉ line := by
  induction s generalizing current with
  | nil =>
    rw [linesFrom]
    split
    · simp
    · intro line member
      rw [List.mem_singleton.mp member]
      exact unbroken
  | cons c s ih =>
    rw [linesFrom]
    split
    · have bare : '\n' ∉ stripCr current := by
        unfold stripCr
        split
        · exact fun member => unbroken (List.mem_of_mem_dropLast member)
        · exact unbroken
      exact List.forall_mem_cons.mpr ⟨bare,ih (by simp)⟩
    · rename_i other
      exact ih (by simp [unbroken,Ne.symm other])

theorem receivedUrl {data : List Byte} {req : RtspRequest} (received : RtspRequest.parse u data = .ok req) :
    '\n' ∉ req.url ∧ ' ' ∉ req.url := by
  unfold RtspRequest.parse at received
  split at received
  · contradiction
  · rename_i text _
    unfold RtspRequest.parseText at received
    dsimp only at received
    split at received
    · contradiction
    · rename_i requestLine rest found
      split at received
      · rename_i m url t more parts
        have line : '\n' ∉ requestLine := linesFromOneLine (show '\n' ∉ [] by simp) requestLine
          (show requestLine ∈ lines _ by rw [found]; simp)
        obtain ⟨absent,inside⟩ := splitnPieces parts (List.cons_ne_nil t more)
        have same : req.url = url := by
          cases method : Method.parse m with
          | error e => rw [method] at received; contradiction
          | ok method' =>
            rw [method] at received
            cases fields : parseHeaders u rest with
            | error e => rw [fields] at received; contradiction
            | ok headers =>
              rw [fields] at received
              cases cseq : parseCSeq headers with
              | error e => simp [bind,Except.bind,cseq] at received
              | ok n =>
                cases body : parseBody headers (splitHeaderBody text).2 with
                | error e => simp [bind,Except.bind,cseq,body] at received
                | ok b =>
                  simp only [bind,Except.bind,cseq,body,Except.ok.injEq] at received
                  rw [← received]
        rw [same]
        exact ⟨fun member => line (inside _ member),absent⟩
      · contradiction

end Received

section Plan

def Serviceable (u : CaseMapping) (y : Exchange) (instanceId : Text) : Prop :=
  y.lookup.instanceExists instanceId = true ∧ ∃ value t, y.request.headers.get "transport".toList = some value ∧
    TransportHeader.parse u value = .ok t ∧ (t.isTcpInterleaved = false → (allocatePortPair y.probes).isSome)

structure PlannedFor (u : CaseMapping) (url : Text) (p : SetupPlan) : Prop where
  instanceId : extractInstanceId url = some p.instanceId
  track : resolved u url = some (p.trackId,p.mediaType)
  media : p.mediaConfig = parseMediaConfig u url
  tier : p.quality = tierOf u url

theorem plannedFor {y : Exchange} {p : SetupPlan} (planned : planSetup u y = .ok p) : PlannedFor u y.request.url p where
  instanceId := (planSpec planned).instanceId
  track := (planSpec planned).track
  media := (planSpec planned).media
  tier := (planSpec planned).quality

theorem planServed {y : Exchange} {id : Text} {i : UInt8} {kind : MediaType}
    (accepted : extractInstanceId y.request.url = some id) (serviceable : Serviceable u y id)
    (track : resolved u y.request.url = some (i,kind)) : ∃ p, planSetup u y = .ok p := by
  obtain ⟨there,value,t,header,read,free⟩ := serviceable
  have ports : ∃ pair, (if t.isTcpInterleaved then some (0,0) else allocatePortPair y.probes) = some pair := by
    cases tcp : t.isTcpInterleaved with
    | true => exact ⟨_,rfl⟩
    | false => exact Option.isSome_iff_exists.mp (free tcp)
  obtain ⟨⟨rtp,rtcp⟩,ports⟩ := ports
  unfold resolved at track
  rw [planSetup]
  simp only [accepted,there,header,read,ports,track]
  exact ⟨_,rfl⟩

end Plan

section Described
variable {x : Exchange}

theorem notFoundStatus (cseq : UInt32) : (RtspResponse.notFound cseq).status = 404 := rfl

theorem describeSpec (accepted : (handleDescribe u x).status = 200) :
    ∃ id, extractInstanceId x.request.url = some id ∧ x.lookup.instanceExists id = true ∧
      (handleDescribe u x).body = some (generateSdp (describeParams u x id)) ∧
      (handleDescribe u x).headers.get "Content-Base".toList = some x.request.url := by
  unfold handleDescribe at accepted ⊢
  split at accepted
  · rw [notFoundStatus] at accepted
    contradiction
  · rename_i id found
    split at accepted
    · rw [notFoundStatus] at accepted
      contradiction
    · rename_i there
      rw [if_neg there]
      refine ⟨id,found,by simpa using there,rfl,?_⟩
      simp [RtspResponse.header]

theorem idOneLine {url id : Text} (found : extractInstanceId url = some id) (oneLine : '\n' ∉ url) : '\n' ∉ id := by
  obtain ⟨first,more,segments,-⟩ := acceptedSegments found
  intro member
  have path : '\n' ∈ relativePath url := by
    have whole : ['/'].intercalate (split '/' (relativePath url)) = relativePath url := List.intercalate_splitOn '/'
    rw [← whole,segments]
    cases more <;> simp [List.intercalate,member]
  have inside : ∀ c ∈ relativePath url, c ∈ url := by
    intro c here
    obtain ⟨h,shape⟩ := afterHostCons (acceptedPath found)
    rw [relativeOfPath shape] at here
    have host : c ∈ afterHost url := by
      rw [shape]
      exact List.mem_cons_of_mem _ (List.takeWhile_subset _ here)
    have scheme : c ∈ afterScheme url := (List.dropWhile_suffix _).subset host
    unfold afterScheme at scheme
    split at scheme
    · exact scheme
    · rename_i front rest cutUrl
      rw [cutSome cutUrl]
      exact List.mem_append_right _ scheme
  exact oneLine (inside _ path)

end Described

/-- The tracks of one DESCRIBE: every section is followed by SETUP to its own track
with the configuration and tier described, and SETUP plans no track of the URL that
has no section. -/
structure TracksAgree (u : CaseMapping) (x : Exchange) : Prop where
  followed : ∀ sdp base id, (handleDescribe u x).body = some sdp →
    (handleDescribe u x).headers.get "Content-Base".toList = some base → extractInstanceId x.request.url = some id →
    ∀ s ∈ mediaSections sdp, ∀ control, s.control = some control →
    ∀ y, y.request.url = controlUrl base control → Serviceable u y id →
    ∃ p, planSetup u y = .ok p ∧ p.instanceId = id ∧ s.kind = p.mediaType.display ∧
      control = trackControl p.trackId.toNat ∧ p.mediaConfig = (describeParams u x id).media ∧
      p.quality = (describeParams u x id).tier
  granted : ∀ sdp base, (handleDescribe u x).body = some sdp →
    (handleDescribe u x).headers.get "Content-Base".toList = some base →
    ∀ y p, (y.request.url = x.request.url ∨ ∃ n, y.request.url = controlUrl base (trackControl n)) →
    planSetup u y = .ok p → ∃ s ∈ mediaSections sdp, s.kind = p.mediaType.display

section Exact
variable {x : Exchange}

theorem displayInjective {kind kind' : MediaType} (same : kind.display = kind'.display) : kind = kind' := by
  cases kind <;> cases kind' <;> first | rfl | (exact absurd same (by decide))

def setupOf (x : Exchange) (url : Text) : Exchange :=
  {x with request := ⟨.setup,url,1,none,Table.put ∅ "transport".toList "RTP/AVP/TCP;interleaved=0-1".toList,none⟩}

theorem parseTcp {value lower : Text} (low : u.toLowercase value = lower) (avp : "rtp/avp".toList <:+: lower)
    (tcp : "rtp/avp/tcp".toList <:+: lower) :
    TransportHeader.parse u value = TransportHeader.parseInterleaved lower := by
  subst low
  unfold TransportHeader.parse
  dsimp only
  simp only [avp,tcp,not_true_eq_false,if_false,true_or,if_true]

theorem tcpReadable (u : CaseMapping) :
    TransportHeader.parse u "RTP/AVP/TCP;interleaved=0-1".toList = .ok ⟨.tcpInterleaved 0 1⟩ := by
  have lower : u.toLowercase "RTP/AVP/TCP;interleaved=0-1".toList = "rtp/avp/tcp;interleaved=0-1".toList :=
    ((u.lowered "RTP/AVP/TCP;interleaved=0-1".toList).ascii (forallListed (by decide))).trans (by decide)
  exact (parseTcp lower (by decide) (by decide)).trans (by decide)

theorem setupServiceable {id : Text} (there : x.lookup.instanceExists id = true) (url : Text) :
    Serviceable u (setupOf x url) id :=
  ⟨there,_,_,Table.getPut _ _ _ _,tcpReadable u,fun udp => by simp [TransportHeader.isTcpInterleaved] at udp⟩

theorem kindOfTrack {i : UInt8} {kind : MediaType} (track : (i = 0 ∧ kind = .video) ∨ (i = 1 ∧ kind = .audio)) :
    i = kind.trackId := by
  rcases track with ⟨rfl,rfl⟩ | ⟨rfl,rfl⟩ <;> rfl

theorem tracksAgreeIff (accepted : (handleDescribe u x).status = 200) (oneLine : '\n' ∉ x.request.url) :
    TracksAgree u x ↔ UrlAgrees u x.request.url := by
  obtain ⟨id,found,there,body,base⟩ := describeSpec accepted
  have read : mediaSections (generateSdp (describeParams u x id)) = (parseMediaConfig u x.request.url).sections :=
    sdpSections (idOneLine found oneLine)
  have sameId : ∀ n, extractInstanceId (controlUrl x.request.url (trackControl n)) = some id := fun n => by
    rw [controlIsSuffix]
    by_cases query : '?' ∈ afterHost x.request.url
    · exact (queryTrack n found query).1
    · exact (plainTrack n found query).1
  constructor
  · intro agrees
    constructor
    · intro kind carried
      have listed : sectionOf kind ∈ mediaSections (generateSdp (describeParams u x id)) := by
        rw [read]
        exact memSections.mpr ⟨kind,carried,rfl⟩
      obtain ⟨p,planned,-,named,-,media,tier⟩ := agrees.followed _ _ id body base found _ listed _ rfl
        (setupOf x (controlUrl x.request.url (trackControl kind.trackId.toNat))) rfl (setupServiceable there _)
      have spec := plannedFor planned
      have sameKind : kind = p.mediaType := displayInjective named
      have track := kindOfTrack (resolvedKind spec.track)
      refine ⟨?_,?_,?_⟩
      · exact spec.track.trans (by rw [track,← sameKind])
      · exact spec.media.symm.trans media
      · exact spec.tier.symm.trans tier
    · intro url' asked i kind resolves
      have accepted' : extractInstanceId url' = some id := by
        rcases asked with rfl | ⟨n,rfl⟩
        · exact found
        · exact sameId n
      obtain ⟨p,planned⟩ := planServed (y := setupOf x url') accepted' (setupServiceable there url') resolves
      obtain ⟨s,listed,named⟩ := agrees.granted _ _ body base (setupOf x url') p asked planned
      have same := (plannedFor planned).track
      rw [show resolved u (setupOf x url').request.url = some (i,kind) from resolves] at same
      cases same
      rw [read] at listed
      obtain ⟨kind',carried,rfl⟩ := memSections.mp listed
      rw [displayInjective named] at carried
      exact carried
  · intro agrees
    constructor
    · intro sdp base' id' described based found' s listed control controlled y asked serviceable
      rw [body] at described
      rw [base] at based
      rw [found] at found'
      cases described
      cases based
      cases found'
      rw [read] at listed
      obtain ⟨kind,carried,rfl⟩ := memSections.mp listed
      cases controlled
      obtain ⟨resolves,media,tier⟩ := agrees.followed kind carried
      obtain ⟨p,planned⟩ := planServed (by rw [asked]; exact sameId _) serviceable (by rw [asked]; exact resolves)
      have spec := plannedFor planned
      rw [asked] at spec
      have track := spec.track
      rw [resolves,Option.some.injEq,Prod.mk.injEq] at track
      have instance_ := spec.instanceId
      rw [sameId,Option.some.injEq] at instance_
      refine ⟨p,planned,instance_.symm,by rw [← track.2]; rfl,by rw [← track.1],?_,?_⟩
      · rw [spec.media,media]; rfl
      · rw [spec.tier,tier]; rfl
    · intro sdp base' described based y p asked planned
      rw [body] at described
      rw [base] at based
      cases described
      cases based
      have spec := plannedFor planned
      refine ⟨sectionOf p.mediaType,?_,rfl⟩
      rw [read]
      exact memSections.mpr ⟨p.mediaType,agrees.granted _ asked _ _ spec.track,rfl⟩

end Exact

theorem trackUrlsAgree {data : List Byte} {x : Exchange} (received : RtspRequest.parse u data = .ok x.request)
    (accepted : (handleDescribe u x).status = 200) : TracksAgree u x ↔ Followable u x.request.url := by
  obtain ⟨id,found,-⟩ := describeSpec accepted
  rw [tracksAgreeIff accepted (receivedUrl received).1,urlAgreesIff found]

section Runs

def describeBytes (url : String) : List Byte :=
  Utf8.encode ("DESCRIBE ".toList ++ url.toList ++ " RTSP/1.0\r\nCSeq: 2\r\n\r\n".toList)

theorem trackUrlsAgreeRun : ∃ x : Exchange, x.request.url = "rtsp://h/stream/dev".toList ∧
    (handleDescribe .ascii x).status = 200 ∧ TracksAgree .ascii x := by
  cases received : RtspRequest.parse .ascii (describeBytes "rtsp://h/stream/dev") with
  | error e =>
    have fails : (RtspRequest.parse .ascii (describeBytes "rtsp://h/stream/dev")).isOk = true := by decide +kernel
    rw [received] at fails
    cases fails
  | ok req =>
    have url : req.url = "rtsp://h/stream/dev".toList := by
      have same : (RtspRequest.parse .ascii (describeBytes "rtsp://h/stream/dev")).toOption.map (·.url) =
          some "rtsp://h/stream/dev".toList := by decide +kernel
      rw [received] at same
      exact Option.some.inj same
    have accepted : (handleDescribe .ascii (exchangeOf req [])).status = 200 := by
      have id : extractInstanceId (exchangeOf req []).request.url = some "dev".toList := by
        rw [show (exchangeOf req []).request.url = _ from url]
        decide
      rw [handleDescribe,id]
      rfl
    refine ⟨exchangeOf req [],url,accepted,(trackUrlsAgree (x := exchangeOf req []) received accepted).mpr (.inl ?_)⟩
    rw [show (exchangeOf req []).request.url = _ from url]
    exact ⟨by decide,by decide,by decide,by decide⟩

def tierRequest : RtspRequest := ⟨.describe,"rtsp://h/stream/dev?tier=low".toList,2,none,∅,none⟩

theorem queryLosesTrack : ¬ ∀ (u : CaseMapping) (x : Exchange), '\n' ∉ x.request.url → ' ' ∉ x.request.url →
    (handleDescribe u x).status = 200 → TracksAgree u x := by
  intro agree
  have agrees := agree .ascii (exchangeOf tierRequest []) (by decide) (by decide) rfl
  have listed : sectionOf .video ∈ mediaSections (generateSdp (describeParams .ascii (exchangeOf tierRequest [])
      "dev".toList)) := by decide +kernel
  obtain ⟨p,planned,-,kind,-⟩ := agrees.followed _ tierRequest.url "dev".toList rfl rfl rfl _ listed _ rfl
    (setupOf (exchangeOf tierRequest []) (controlUrl tierRequest.url (trackControl 0))) rfl
    ⟨rfl,"RTP/AVP/TCP;interleaved=0-1".toList,⟨.tcpInterleaved 0 1⟩,rfl,by decide,fun _ => rfl⟩
  have track : (planSetup .ascii (setupOf (exchangeOf tierRequest [])
      (controlUrl tierRequest.url (trackControl 0)))).toOption.map (fun p => (p.mediaType,p.quality)) =
      some (.audio,.high) := by decide +kernel
  rw [planned,Except.toOption,Option.map_some,Option.some.injEq,Prod.mk.injEq] at track
  rw [track.1] at kind
  cases kind

end Runs
end Vscreen.Rtsp
