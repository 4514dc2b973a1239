import Vscreen.CdpClient
import Vscreen.CdpScreencast
import Vscreen.SerdeJson

/-! Messages that reach a CDP client, and the acknowledgement of screencast frames
(`handle_message` of client.rs). -/
namespace Vscreen.Cdp
open Text

def screencastFrame : Text := "Page.screencastFrame".toList

structure ScreencastFrameMetadata where
  offsetTop : ℚ
  pageScaleFactor : ℚ
  deviceWidth : ℚ
  deviceHeight : ℚ
  scrollOffsetX : ℚ
  scrollOffsetY : ℚ
  timestamp : Option ℚ
  deriving DecidableEq

namespace ScreencastFrameMetadata

def required : List Text := ["offsetTop".toList,"pageScaleFactor".toList,"deviceWidth".toList,"deviceHeight".toList,
  "scrollOffsetX".toList,"scrollOffsetY".toList]

def timestampKey : Text := "timestamp".toList

def names : List Text := required ++ [timestampKey]

def fromValue (v : Serde) : Option ScreencastFrameMetadata := do
  let field ← v.fields names
  let offsetTop ← (field "offsetTop".toList).bind Serde.asF64
  let pageScaleFactor ← (field "pageScaleFactor".toList).bind Serde.asF64
  let deviceWidth ← (field "deviceWidth".toList).bind Serde.asF64
  let deviceHeight ← (field "deviceHeight".toList).bind Serde.asF64
  let scrollOffsetX ← (field "scrollOffsetX".toList).bind Serde.asF64
  let scrollOffsetY ← (field "scrollOffsetY".toList).bind Serde.asF64
  let timestamp ← Serde.asOptionF64 (field timestampKey)
  some ⟨offsetTop,pageScaleFactor,deviceWidth,deviceHeight,scrollOffsetX,scrollOffsetY,timestamp⟩

end ScreencastFrameMetadata

namespace ScreencastFrameEvent

def names : List Text := ["data".toList,"metadata".toList,"sessionId".toList]

def fromValue (v : Serde) : Option ScreencastFrameEvent := do
  let field ← v.fields names
  let data ← (field "data".toList).bind Serde.asString
  let _ ← (field "metadata".toList).bind ScreencastFrameMetadata.fromValue
  let sessionId ← (field "sessionId".toList).bind Serde.asU32
  some ⟨data,sessionId⟩

end ScreencastFrameEvent

-- What `handle_message` works on. `generation` is that of the connection it reads,
-- `frames` are those that listeners were given, and `writing` holds until the write loop
-- ends and the channel of requests with it.
structure FrameReader where
  client : CdpClient Serde
  screencast : ScreencastManager
  generation : UInt64
  listeners : Nat
  frames : List RawFrame
  writing : Bool
  requests : List CdpRequest

namespace FrameReader
variable (decode : Text → Except Text (List UInt8)) (refusal : Serde → Text)

def broadcast (s : FrameReader) : Option RawFrame → FrameReader
  | none => s
  | some frame => if 0 < s.listeners then {s with frames := s.frames ++ [frame]} else s

def enqueue (s : FrameReader) (r : Request) : FrameReader :=
  let request : CdpRequest := ⟨s.client.nextId,r.1,r.2⟩
  {s with client := s.client.drawId, requests := if s.writing then s.requests ++ [request] else s.requests}

-- `refusal` is the text of serde's error for parameters that it does not take.
def handleFrame (s : FrameReader) (params : Serde) : FrameReader × Except CdpError Unit :=
  match ScreencastFrameEvent.fromValue params with
  | none => (s,.error (.screencast (refusal params)))
  | some event => match s.screencast.decodeFrame decode event s.generation with
    | .error e => (s,.error e)
    | .ok frame => ((s.broadcast frame).enqueue (ScreencastManager.ackRequest event.sessionId),.ok ())

def handleMessage (s : FrameReader) (read : Except Text (CdpMessage Serde)) : FrameReader × Except CdpError Unit :=
  match read with
  | .error e => (s,.error (.protocol e))
  | .ok msg => match msg.id with
    | some _ => ({s with client := s.client.handleMessage msg},.ok ())
    | none =>
      if msg.method = some screencastFrame then
        match msg.params with
        | none => (s,.ok ())
        | some params => s.handleFrame decode refusal params
      else (s,.ok ())

end FrameReader

structure FrameEvent (msg : CdpMessage Serde) (members : List (Text × Serde)) (id : Int) : Prop where
  method : msg.method = some screencastFrame
  event : msg.id = none
  params : msg.params = some (.object members)
  session : ∃ n, Serde.member members "sessionId".toList = some (.number n) ∧ n.integer = some id

def Acknowledged (s s' : FrameReader) (id : Int) : Prop :=
  ∃ n : UInt32, (n.toNat : Int) = id ∧
    s'.requests = s.requests ++ [⟨s.client.nextId,(ScreencastManager.ackRequest n).1,(ScreencastManager.ackRequest n).2⟩]

def Metadata (v : Serde) : Prop :=
  ∃ field, v.fields ScreencastFrameMetadata.names = some field ∧
    (∀ name ∈ ScreencastFrameMetadata.required, ∃ n, field name = some (.number n)) ∧
    (field ScreencastFrameMetadata.timestampKey = none ∨ field ScreencastFrameMetadata.timestampKey = some .null ∨
      ∃ n, field ScreencastFrameMetadata.timestampKey = some (.number n))

structure Answerable (decode : Text → Except Text (List UInt8)) (s : FrameReader) (members : List (Text × Serde))
    (id : Int) : Prop where
  image : ∃ t, Serde.member members "data".toList = some (.string t) ∧
    (s.generation < s.screencast.generation ∨ ∃ bytes, decode t = .ok bytes)
  metadata : ∃ v, Serde.member members "metadata".toList = some v ∧ Metadata v
  session : ∃ n : UInt32, id = n.toNat
  writing : s.writing = true

theorem metadataRead (v : Serde) : (∃ m, ScreencastFrameMetadata.fromValue v = some m) ↔ Metadata v := by
  simp only [ScreencastFrameMetadata.fromValue,bind,Option.bind_eq_some_iff,Metadata,ScreencastFrameMetadata.required,
    List.forall_mem_cons]
  constructor
  · rintro ⟨m,field,fields,a,offsetTop,b,pageScaleFactor,c,deviceWidth,d,deviceHeight,e,scrollOffsetX,f,scrollOffsetY,
      t,timestamp,-⟩
    have number {name q} (read : ∃ v, field name = some v ∧ v.asF64 = some q) : ∃ n, field name = some (.number n) :=
      (Serde.requiredF64Iff _).mp ⟨q,Option.bind_eq_some_iff.mpr read⟩
    exact ⟨field,fields,⟨number offsetTop,number pageScaleFactor,number deviceWidth,number deviceHeight,
      number scrollOffsetX,number scrollOffsetY,fun name absent => by cases absent⟩,
      (Serde.optionF64Iff _).mp ⟨t,timestamp⟩⟩
  · rintro ⟨field,fields,⟨⟨a,offsetTop⟩,⟨b,pageScaleFactor⟩,⟨c,deviceWidth⟩,⟨d,deviceHeight⟩,
      ⟨e,scrollOffsetX⟩,⟨f,scrollOffsetY⟩,-⟩,timestamp⟩
    obtain ⟨t,timestamp⟩ := (Serde.optionF64Iff _).mpr timestamp
    exact ⟨_,field,fields,_,⟨_,offsetTop,rfl⟩,_,⟨_,pageScaleFactor,rfl⟩,_,⟨_,deviceWidth,rfl⟩,
      _,⟨_,deviceHeight,rfl⟩,_,⟨_,scrollOffsetX,rfl⟩,_,⟨_,scrollOffsetY,rfl⟩,t,timestamp,rfl⟩

theorem eventRead {members : List (Text × Serde)} {event : ScreencastFrameEvent} :
    ScreencastFrameEvent.fromValue (.object members) = some event ↔
      Serde.member members "data".toList = some (.string event.data) ∧
      (∃ v, Serde.member members "metadata".toList = some v ∧ Metadata v) ∧
      (Serde.member members "sessionId".toList).bind Serde.asU32 = some event.sessionId := by
  simp only [ScreencastFrameEvent.fromValue,Serde.fields,bind,Option.bind_some,Option.bind_eq_some_iff,← metadataRead]
  constructor
  · rintro ⟨data,⟨v,found,string⟩,m,⟨w,there,metadata⟩,id,session,shape⟩
    cases shape
    refine ⟨?_,⟨w,there,m,metadata⟩,session⟩
    cases v with
    | string s => cases string; exact found
    | _ => cases string
  · rintro ⟨data,⟨w,there,m,metadata⟩,session⟩
    exact ⟨event.data,⟨_,data,rfl⟩,m,⟨w,there,metadata⟩,event.sessionId,session,rfl⟩

section Acks
variable (decode : Text → Except Text (List UInt8)) (refusal : Serde → Text) (s : FrameReader)

theorem frameDecoded (m : ScreencastManager) (event : ScreencastFrameEvent) (generation : UInt64) :
    (∃ frame, m.decodeFrame decode event generation = .ok frame) ↔
      generation < m.generation ∨ ∃ bytes, decode event.data = .ok bytes := by
  rw [ScreencastManager.decodeFrame]
  split
  · rename_i stale
    exact iff_of_true ⟨none,rfl⟩ (.inl stale)
  · rename_i fresh
    cases decode event.data with
    | error e =>
      refine iff_of_false (fun ⟨_,absent⟩ => by cases absent) ?_
      rintro (stale | ⟨_,absent⟩)
      · exact fresh stale
      · cases absent
    | ok data => exact iff_of_true ⟨_,rfl⟩ (.inr ⟨data,rfl⟩)

theorem handled {msg : CdpMessage Serde} {members : List (Text × Serde)} {id : Int} (frame : FrameEvent msg members id) :
    s.handleMessage decode refusal (.ok msg) = s.handleFrame decode refusal (.object members) := by
  simp only [FrameReader.handleMessage,frame.event,frame.method,frame.params,if_true]

theorem answered {params : Serde} {event : ScreencastFrameEvent} {frame : Option RawFrame}
    (read : ScreencastFrameEvent.fromValue params = some event)
    (decoded : s.screencast.decodeFrame decode event s.generation = .ok frame) :
    (s.handleFrame decode refusal params).1.requests = if s.writing then
      s.requests ++ [⟨s.client.nextId,(ScreencastManager.ackRequest event.sessionId).1,
        (ScreencastManager.ackRequest event.sessionId).2⟩] else s.requests := by
  have kept : (s.broadcast frame).client = s.client ∧ (s.broadcast frame).requests = s.requests ∧
      (s.broadcast frame).writing = s.writing := by
    cases frame with
    | none => exact ⟨rfl,rfl,rfl⟩
    | some f => rw [FrameReader.broadcast]; split <;> exact ⟨rfl,rfl,rfl⟩
  obtain ⟨client,requests,writing⟩ := kept
  rw [FrameReader.handleFrame,read]
  dsimp only
  rw [decoded]
  simp only [FrameReader.enqueue,client,requests,writing]

theorem answeredOnly {params : Serde} {request : CdpRequest}
    (sent : (s.handleFrame decode refusal params).1.requests = s.requests ++ [request]) :
    ∃ event, ScreencastFrameEvent.fromValue params = some event ∧
      (∃ frame, s.screencast.decodeFrame decode event s.generation = .ok frame) ∧ s.writing = true := by
  cases read : ScreencastFrameEvent.fromValue params with
  | none => simp [FrameReader.handleFrame,read] at sent
  | some event =>
    cases decoded : s.screencast.decodeFrame decode event s.generation with
    | error e => simp [FrameReader.handleFrame,read,decoded] at sent
    | ok frame =>
      rw [answered decode refusal s read decoded] at sent
      cases writing : s.writing with
      | false => simp [writing] at sent
      | true => exact ⟨event,rfl,⟨frame,decoded⟩,rfl⟩

theorem framesAcknowledged {msg : CdpMessage Serde} {members : List (Text × Serde)} {id : Int}
    (frame : FrameEvent msg members id) :
    Acknowledged s (s.handleMessage decode refusal (.ok msg)).1 id ↔ Answerable decode s members id := by
  rw [handled decode refusal s frame]
  obtain ⟨n,number,integer⟩ := frame.session
  have session (k : UInt32) : (Serde.member members "sessionId".toList).bind Serde.asU32 = some k ↔ id = k.toNat := by
    rw [number,Option.bind_some,Serde.asU32,Serde.asNumber,Option.bind_some,SerdeNumber.u32Iff,integer,Option.some.injEq]
  constructor
  · rintro ⟨k,same,acknowledged⟩
    obtain ⟨event,read,decoded,writing⟩ := answeredOnly decode refusal s acknowledged
    obtain ⟨data,metadata,carried⟩ := eventRead.mp read
    exact ⟨⟨event.data,data,(frameDecoded decode _ event _).mp decoded⟩,metadata,⟨k,same.symm⟩,writing⟩
  · rintro ⟨⟨t,data,image⟩,metadata,⟨k,rfl⟩,writing⟩
    have read : ScreencastFrameEvent.fromValue (.object members) = some ⟨t,k⟩ :=
      eventRead.mpr ⟨data,metadata,(session k).mpr rfl⟩
    obtain ⟨image,decoded⟩ := (frameDecoded decode s.screencast ⟨t,k⟩ s.generation).mpr image
    exact ⟨k,rfl,by rw [answered decode refusal s read decoded,writing]; rfl⟩

end Acks

section Samples

def sampleDecode (image : Text) : Except Text (List UInt8) :=
  if image = "/9j/".toList then .ok [0xFF,0xD8,0xFF] else .error "Invalid symbol 33, offset 0.".toList

def sampleMetadata : Serde := .object (ScreencastFrameMetadata.required.map (·,.number (.posInt 0)))

def sampleFrame (image : Text) (metadata : List (Text × Serde)) : List (Text × Serde) :=
  ("data".toList,.string image)::metadata ++ [("sessionId".toList,.number (.posInt 7))]

def sampleMessage (members : List (Text × Serde)) : CdpMessage Serde :=
  ⟨none,some screencastFrame,none,none,some (.object members)⟩

def sampleReader : FrameReader := ⟨.start,.new,0,0,[],true,[]⟩

theorem framesAcknowledgedRun :
    let members := sampleFrame "/9j/".toList [("metadata".toList,sampleMetadata)]
    Acknowledged sampleReader (sampleReader.handleMessage sampleDecode (fun _ => []) (.ok (sampleMessage members))).1 7 :=
  (framesAcknowledged sampleDecode (fun _ => []) sampleReader ⟨rfl,rfl,rfl,_,rfl,rfl⟩).mpr
    ⟨⟨_,rfl,.inr ⟨_,rfl⟩⟩,⟨_,rfl,(metadataRead _).mp ⟨_,rfl⟩⟩,⟨7,rfl⟩,rfl⟩

def brokenImage : List (Text × Serde) := sampleFrame "!!!!".toList [("metadata".toList,sampleMetadata)]

def metadataMissing : List (Text × Serde) := sampleFrame "/9j/".toList []

theorem brokenFramesUnanswered :
    (FrameEvent (sampleMessage brokenImage) brokenImage 7 ∧ ¬ Acknowledged sampleReader
      (sampleReader.handleMessage sampleDecode (fun _ => []) (.ok (sampleMessage brokenImage))).1 7) ∧
    FrameEvent (sampleMessage metadataMissing) metadataMissing 7 ∧ ¬ Acknowledged sampleReader
      (sampleReader.handleMessage sampleDecode (fun _ => []) (.ok (sampleMessage metadataMissing))).1 7 := by
  have silent {s' : FrameReader} (none : s'.requests = []) : ¬ Acknowledged sampleReader s' 7 := by
    rintro ⟨n,-,sent⟩
    rw [none] at sent
    cases sent
  exact ⟨⟨⟨rfl,rfl,rfl,_,rfl,rfl⟩,silent rfl⟩,⟨rfl,rfl,rfl,_,rfl,rfl⟩,silent rfl⟩

end Samples

end Vscreen.Cdp
