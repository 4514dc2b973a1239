import Vscreen.RtspAgreement
import Vscreen.Utf8Pieces

/-! What the bytes of a client can do to the task of its connection: the body
buffer that `handle_connection` allocates and the body slice that `parse` takes. -/
namespace Vscreen.Rtsp
open Text
variable {u : CaseMapping}

def isizeMax : Nat := 2^63 - 1

inductive Reception where
  | closed
  | interleaved (channel : Byte) (data : List Byte) (rest : List Byte)
  -- `vec![0u8; content_length]` panics with a capacity overflow
  | capacityPanic
  | parsed (request : Except ParseError RtspRequest)

def receive (u : CaseMapping) (stream : List Byte) : Reception :=
  if stream.head? = some 0x24 then match readInterleaved stream with
    | some (.interleaved channel data rest) => .interleaved channel data rest
    | _ => .closed
  else match readHeaders u [] 0 stream with
    | none => .closed
    | some (lines,contentLength,rest) =>
      if isizeMax < contentLength then .capacityPanic
      else if rest.length < contentLength then .closed
      else
        let f : Framed := ⟨lines,contentLength,rest.take contentLength,rest.drop contentLength⟩
        .parsed (RtspRequest.parse u (Utf8.encode f.buffer))

def Reception.panics : Reception → Bool
  | .capacityPanic => true
  | .parsed (.error .slicePanic) => true
  | _ => false

section Blocks

theorem readLine {bytes : List Byte} (line rest : List Byte) (contentLength : Nat) (unbroken : (0x0A : Byte) ∉ bytes) :
    readHeaders u line contentLength (bytes ++ 0x0A::rest) =
      readHeaders u (line ++ bytes) contentLength (0x0A::rest) := by
  induction bytes generalizing line with
  | nil => rw [List.append_nil]; rfl
  | cons b bytes ih =>
    rw [List.mem_cons,not_or] at unbroken
    rw [List.cons_append,readHeaders,if_pos (Ne.symm unbroken.1),ih _ unbroken.2,List.append_assoc]
    rfl

theorem encodeUnbroken {x : Text} (unbroken : '\n' ∉ x) : (0x0A : Byte) ∉ Utf8.encode x := by
  intro member
  obtain ⟨c,inside,byte⟩ := List.mem_flatMap.mp member
  exact unbroken (Utf8.lineFeedByte byte ▸ inside)

theorem readTerminated {line : Text} (ended : Terminated line) (contentLength : Nat) (rest : List Byte) :
    readHeaders u [] contentLength (Utf8.encode line ++ rest) =
      if line = crlf ∨ line = lineFeed then some ([line],(scannedLength u line).getD contentLength,rest)
      else (readHeaders u [] ((scannedLength u line).getD contentLength) rest).map fun r => (line::r.1,r.2) := by
  obtain ⟨x,rfl,unbroken⟩ := ended
  have feed : Utf8.encode lineFeed = [0x0A] := by decide
  have whole : Utf8.encode x ++ [0x0A] = Utf8.encode (x ++ lineFeed) := by rw [Utf8.encodeAppend,feed]
  rw [Utf8.encodeAppend,feed,List.append_assoc,List.singleton_append,readLine [] rest _ (encodeUnbroken unbroken),
    List.nil_append,readHeaders,if_neg (by simp),whole,Utf8.decodeEncode]

theorem readBlock {lines : List Text} (block : HeaderBlock lines) (contentLength : Nat) (rest : List Byte) :
    readHeaders u [] contentLength (Utf8.encode lines.flatten ++ rest) =
      some (lines,scanLengths u contentLength lines,rest) := by
  induction block generalizing contentLength with
  | @last line blank =>
    have ended := blockTerminated (.last blank) line (List.mem_singleton_self line)
    rw [List.flatten_singleton,readTerminated ended,if_pos blank]
    rfl
  | @cons line lines ended more tail ih =>
    rw [List.flatten_cons,Utf8.encodeAppend,List.append_assoc,readTerminated ended,if_neg more,ih]
    rfl

theorem readHeadersIff {stream rest : List Byte} {lines : List Text} {contentLength : Nat} :
    readHeaders u [] 0 stream = some (lines,contentLength,rest) ↔
      stream = Utf8.encode lines.flatten ++ rest ∧ HeaderBlock lines ∧ contentLength = directLength u lines := by
  constructor
  · intro read
    obtain ⟨bytes,block,scanned⟩ := readHeadersSpec (by simp) read
    exact ⟨bytes,block,scanned.trans (scanLengthsLast 0 lines)⟩
  · rintro ⟨rfl,block,rfl⟩
    rw [readBlock block,scanLengthsLast]
    rfl

end Blocks

section Slices

def charBoundary : Text → Nat → Bool
  | _,0 => true
  | [],_ + 1 => false
  | c::s,n + 1 => decide (c.utf8Size ≤ n + 1) && charBoundary s (n + 1 - c.utf8Size)

theorem charBoundaryIff {s : Text} {n : Nat} :
    charBoundary s n = true ↔ ∃ front back, s = front ++ back ∧ (Utf8.encode front).length = n := by
  induction s generalizing n with
  | nil => cases n with
    | zero => exact ⟨fun _ => ⟨[],[],rfl,rfl⟩,fun _ => rfl⟩
    | succ n =>
      refine ⟨fun bad => (by cases bad),?_⟩
      rintro ⟨front,back,shape,length⟩
      cases (List.append_eq_nil_iff.mp shape.symm).1
      cases length
  | cons c s ih => cases n with
    | zero => exact ⟨fun _ => ⟨[],c::s,rfl,rfl⟩,fun _ => by rw [charBoundary]⟩
    | succ n =>
      rw [charBoundary,Bool.and_eq_true,decide_eq_true_eq,ih]
      constructor
      · rintro ⟨fits,front,back,rfl,length⟩
        refine ⟨c::front,back,rfl,?_⟩
        rw [Utf8.encodeCons,List.length_append,String.length_utf8EncodeChar,length]
        omega
      · rintro ⟨front,back,shape,length⟩
        cases front with
        | nil => cases length
        | cons d front =>
          obtain ⟨rfl,rfl⟩ := List.cons_eq_cons.mp shape
          rw [Utf8.encodeCons,List.length_append,String.length_utf8EncodeChar] at length
          exact ⟨by omega,front,back,rfl,by omega⟩

theorem takeBytesPanics {s : Text} {n : Nat} (within : n ≤ (Utf8.encode s).length) :
    takeBytes s n = .error .slicePanic ↔ charBoundary s n = false := by
  have whole : Utf8.sliceTo s n = Utf8.decode ((Utf8.encode s).take n) := if_pos within
  have sliced : (∃ front, Utf8.decode ((Utf8.encode s).take n) = some front) ↔ charBoundary s n = true := by
    rw [charBoundaryIff,← whole]
    constructor
    · rintro ⟨front,slice⟩
      obtain ⟨⟨back,same⟩,bytes⟩ := Utf8.sliceToSome.mp slice
      exact ⟨front,back,same.symm,bytes⟩
    · rintro ⟨front,back,same,bytes⟩
      exact ⟨front,Utf8.sliceToSome.mpr ⟨⟨back,same.symm⟩,bytes⟩⟩
  rw [takeBytes]
  cases cutOff : Utf8.decode ((Utf8.encode s).take n) with
  | none =>
    have outside : charBoundary s n ≠ true := fun inside => by
      obtain ⟨front,decoded⟩ := sliced.mpr inside
      rw [cutOff] at decoded
      contradiction
    exact ⟨fun _ => Bool.eq_false_iff.mpr outside,fun _ => rfl⟩
  | some front =>
    have inside := sliced.mp ⟨front,cutOff⟩
    exact ⟨fun bad => (by cases bad),fun bad => (by rw [bad] at inside; cases inside)⟩

theorem parseBodyPanics {headers : Headers} {bodySection : Option Text} :
    parseBody headers bodySection = .error .slicePanic ↔
      ∃ value cl, headers.get lengthKey = some value ∧ parseUnsigned usizeBound value = some cl ∧
        cl ≤ (Utf8.encode (bodySection.getD [])).length ∧ charBoundary (bodySection.getD []) cl = false := by
  unfold parseBody
  rw [show "content-length".toList = lengthKey from rfl]
  cases headers.get lengthKey with
  | none => simp
  | some value =>
    dsimp only
    cases number : parseUnsigned usizeBound value with
    | none => simp [number]
    | some cl =>
      dsimp only
      split
      · split
        · rename_i short
          constructor
          · intro bad
            cases bad
          · rintro ⟨_,_,same,number',within,-⟩
            cases same
            rw [number] at number'
            cases number'
            omega
        · rename_i enough
          have panics := takeBytesPanics (Nat.le_of_not_lt enough)
          constructor
          · intro failed
            refine ⟨value,cl,rfl,number,Nat.le_of_not_lt enough,panics.mp ?_⟩
            cases taken : takeBytes (bodySection.getD []) cl with
            | error e => rw [taken] at failed; cases failed; rfl
            | ok body => rw [taken] at failed; cases failed
          · rintro ⟨_,_,same,number',-,inside⟩
            cases same
            rw [number] at number'
            cases number'
            rw [panics.mpr inside]
            rfl
      · rename_i zero
        constructor
        · intro bad
          cases bad
        · rintro ⟨_,_,same,number',-,inside⟩
          cases same
          rw [number] at number'
          cases number'
          have zero : cl = 0 := by omega
          rw [zero] at inside
          unfold charBoundary at inside
          cases inside

theorem methodError {m : Text} {e : ParseError} (failed : Method.parse m = .error e) : e = .unknownMethod m := by
  unfold Method.parse at failed
  repeat' split at failed
  all_goals cases failed
  rfl

theorem headersError {headers : Headers} {lines : List Text} {e : ParseError}
    (failed : parseHeadersFrom u headers lines = .error e) : ∃ header, e = .invalidHeader header := by
  induction lines generalizing headers with
  | nil => cases failed
  | cons line lines ih =>
    rw [parseHeadersFrom] at failed
    split at failed
    · exact ih failed
    · split at failed
      · cases failed
        exact ⟨_,rfl⟩
      · exact ih failed

theorem cseqError {headers : Headers} {e : ParseError} (failed : parseCSeq headers = .error e) : e = .missingCSeq := by
  unfold parseCSeq at failed
  repeat' split at failed
  all_goals cases failed
  all_goals rfl

theorem bindFails {α β : Type} {x : Except ParseError α} {f : α → Except ParseError β}
    (failed : (x >>= f) = .error .slicePanic) : x = .error .slicePanic ∨ ∃ a, x = .ok a ∧ f a = .error .slicePanic := by
  cases x with
  | error e => cases failed; exact .inl rfl
  | ok a => exact .inr ⟨a,rfl,failed⟩

def methodNames : List Text :=
  ["OPTIONS","DESCRIBE","SETUP","PLAY","PAUSE","TEARDOWN","GET_PARAMETER"].map String.toList

theorem methodNamed {m : Text} : (∃ method, Method.parse m = .ok method) ↔ m ∈ methodNames := by
  have listed : m ∈ methodNames ↔ m = "OPTIONS".toList ∨ m = "DESCRIBE".toList ∨ m = "SETUP".toList ∨
      m = "PLAY".toList ∨ m = "PAUSE".toList ∨ m = "TEARDOWN".toList ∨ m = "GET_PARAMETER".toList := by
    simp [methodNames]
  rw [listed]
  unfold Method.parse
  repeat' split
  all_goals simp_all

theorem fieldsRead {headers : Headers} {lines : List Text} :
    (∃ headers', parseHeadersFrom u headers lines = .ok headers') ↔ ∀ line ∈ lines, trim line = [] ∨ ':' ∈ trim line := by
  induction lines generalizing headers with
  | nil => simp [parseHeadersFrom]
  | cons line lines ih =>
    rw [parseHeadersFrom,List.forall_mem_cons]
    split
    · rename_i blank
      rw [ih,and_iff_right (Or.inl blank)]
    · rename_i printed
      split
      · rename_i whole
        have unnamed : ':' ∉ trim line := by
          intro member
          obtain ⟨before,after,shape,absent⟩ := List.eq_append_cons_of_mem member
          rw [shape,splitOnceFirst after absent] at whole
          cases whole
        simp [printed,unnamed]
      · rename_i name value parted
        have named : ':' ∈ trim line := by
          rw [(splitOnceSome parted).1]
          simp
        rw [ih,and_iff_right (Or.inr named)]

def lastNamed (u : CaseMapping) (key : Text) (lines : List Text) : Option Text :=
  (lines.filterMap (fieldValue u key)).getLast?

inductive HeadLength (u : CaseMapping) (cl : Nat) : List Text → Prop where
  | intro {requestLine fields m url version more csn value}
      (parts : splitn 3 ' ' requestLine = m::url::version::more)
      (known : m ∈ methodNames)
      (wellFormed : ∀ line ∈ fields, trim line = [] ∨ ':' ∈ trim line)
      (numbered : lastNamed u "cseq".toList fields = some csn)
      (sequence : (parseUnsigned (2^32) csn).isSome)
      (named : lastNamed u lengthKey fields = some value)
      (length : parseUnsigned usizeBound value = some cl) : HeadLength u cl (requestLine::fields)

theorem cseqRead {headers : Headers} :
    (∃ cseq, parseCSeq headers = .ok cseq) ↔
      ∃ value, headers.get "cseq".toList = some value ∧ (parseUnsigned (2^32) value).isSome := by
  unfold parseCSeq
  cases headers.get "cseq".toList with
  | none => simp
  | some value =>
    dsimp only
    split
    · rename_i none
      exact ⟨fun ⟨_,bad⟩ => (by cases bad),fun ⟨_,same,number⟩ => by cases same; rw [none] at number; cases number⟩
    · rename_i n number
      exact ⟨fun _ => ⟨value,rfl,by rw [number]; rfl⟩,fun _ => ⟨_,rfl⟩⟩

theorem parseTextPanics {text : Text} : RtspRequest.parseText u text = .error .slicePanic ↔
    ∃ cl, HeadLength u cl (lines (splitHeaderBody text).1) ∧
      cl ≤ (Utf8.encode ((splitHeaderBody text).2.getD [])).length ∧
        charBoundary ((splitHeaderBody text).2.getD []) cl = false := by
  have lookup {fields headers key} (read : parseHeaders u fields = .ok headers) :
      headers.get key = lastNamed u key fields := by
    rw [parsedHeader key read,Table.getEmpty,Option.or_none]
    rfl
  constructor
  · intro failed
    unfold RtspRequest.parseText at failed
    dsimp only at failed
    split at failed
    · cases failed
    · rename_i requestLine rest first
      split at failed
      · rename_i m url version more parts
        rcases bindFails failed with early | ⟨method,known,failed⟩
        · cases methodError early
        rcases bindFails failed with early | ⟨headers,fields,failed⟩
        · obtain ⟨_,same⟩ := headersError early
          cases same
        rcases bindFails failed with early | ⟨cseq,numbered,failed⟩
        · cases cseqError early
        rcases bindFails failed with panicked | ⟨body,-,done⟩
        · obtain ⟨value,cl,found,number,within,inside⟩ := parseBodyPanics.mp panicked
          obtain ⟨csn,sequence,counts⟩ := cseqRead.mp ⟨cseq,numbered⟩
          refine ⟨cl,?_,within,inside⟩
          rw [first]
          exact ⟨parts,methodNamed.mp ⟨method,known⟩,fieldsRead.mp ⟨headers,fields⟩,lookup fields ▸ sequence,counts,
            lookup fields ▸ found,number⟩
        · cases done
      · cases failed
  · rintro ⟨cl,head,within,inside⟩
    generalize first : lines (splitHeaderBody text).1 = section_ at head
    cases head with
    | intro parts known wellFormed numbered sequence named length =>
      obtain ⟨method,known⟩ := methodNamed.mpr known
      obtain ⟨headers,fields⟩ : ∃ headers, parseHeaders u _ = .ok headers := fieldsRead.mpr wellFormed
      obtain ⟨cseq,numbered⟩ := cseqRead.mpr ⟨_,lookup fields ▸ numbered,sequence⟩
      have panicked : parseBody headers (splitHeaderBody text).2 = .error .slicePanic :=
        parseBodyPanics.mpr ⟨_,cl,lookup fields ▸ named,length,within,inside⟩
      unfold RtspRequest.parseText
      simp only [first,parts,known,fields,numbered,panicked,bind,Except.bind]

end Slices

section Bytes

theorem insideLossy {bytes : List Byte} {n : Nat} : Utf8.Inside bytes n ↔
    n ≤ (Utf8.encode (Utf8.fromUtf8Lossy bytes)).length ∧ charBoundary (Utf8.fromUtf8Lossy bytes) n = false := by
  constructor
  · intro inside
    induction inside with
    | @here bytes size rest n piece started unfinished =>
      obtain ⟨c,decoded,rfl⟩ := Utf8.pieceLossy piece
      obtain ⟨n,rfl⟩ := Nat.exists_eq_add_of_le' (show 1 ≤ n from started)
      rw [decoded,Utf8.encodeCons,List.length_append,String.length_utf8EncodeChar,charBoundary,
        decide_eq_false (Nat.not_le_of_lt unfinished)]
      exact ⟨by omega,rfl⟩
    | @later bytes size rest n piece _ ih =>
      obtain ⟨c,decoded,rfl⟩ := Utf8.pieceLossy piece
      obtain ⟨k,size⟩ := Nat.exists_eq_add_of_le' (show 1 ≤ c.utf8Size + n by have := c.utf8Size_pos; omega)
      rw [decoded,Utf8.encodeCons,List.length_append,String.length_utf8EncodeChar,size,charBoundary,← size,
        Nat.add_sub_cancel_left,ih.2,Bool.and_false]
      exact ⟨Nat.add_le_add_left ih.1 _,rfl⟩
  · rintro ⟨within,inside⟩
    induction bytes using Utf8.pieceInduction generalizing n with
    | nil =>
      cases Nat.le_zero.mp within
      cases inside
    | @piece bytes size rest first ih =>
      obtain ⟨c,decoded,rfl⟩ := Utf8.pieceLossy first
      rw [decoded,Utf8.encodeCons,List.length_append,String.length_utf8EncodeChar] at within
      rw [decoded] at inside
      cases n with
      | zero =>
        rw [charBoundary] at inside
        cases inside
      | succ n =>
        rw [charBoundary] at inside
        by_cases past : c.utf8Size ≤ n + 1
        · rw [decide_eq_true past,Bool.true_and] at inside
          have later := Utf8.Inside.later first (ih (by omega) inside)
          rwa [Nat.add_sub_cancel' past] at later
        · exact .here first n.succ_pos (Nat.lt_of_not_le past)

def endBytes : List Byte := [0x0D,0x0A,0x0D,0x0A]

def FirstEnd (bytes head body : List Byte) : Prop :=
  bytes = head ++ endBytes ++ body ∧ ∀ head' body', bytes = head' ++ endBytes ++ body' → head.length ≤ head'.length

theorem endEncoded : Utf8.encode headerEnd = endBytes := by decide

theorem lossyAtEnd (head body : List Byte) : Utf8.fromUtf8Lossy (head ++ endBytes ++ body) =
    Utf8.fromUtf8Lossy head ++ headerEnd ++ Utf8.fromUtf8Lossy body := by
  have ended := Utf8.lossyAppend headerEnd body
  rw [endEncoded] at ended
  rw [List.append_assoc,List.append_assoc,← ended]
  exact Utf8.lossyBefore (by decide) head _

theorem endFound {bytes : List Byte} {x y : Text} (decoded : Utf8.fromUtf8Lossy bytes = x ++ headerEnd ++ y) :
    ∃ head body, bytes = head ++ endBytes ++ body ∧ Utf8.fromUtf8Lossy head = x ∧ Utf8.fromUtf8Lossy body = y := by
  rw [List.append_assoc] at decoded
  obtain ⟨head,back,rfl,tail⟩ := Utf8.lossySuffix decoded
  obtain ⟨body,rfl,rest⟩ := Utf8.lossyPrefix (by decide) tail
  rw [endEncoded,← List.append_assoc,lossyAtEnd,rest,List.append_assoc] at decoded
  exact ⟨head,body,by rw [endEncoded,List.append_assoc],List.append_cancel_right decoded,rest⟩

theorem cutLossy {bytes : List Byte} {x y : Text} : cut headerEnd (Utf8.fromUtf8Lossy bytes) = some (x,y) ↔
    ∃ head body, FirstEnd bytes head body ∧ Utf8.fromUtf8Lossy head = x ∧ Utf8.fromUtf8Lossy body = y := by
  have first {x y} (found : cut headerEnd (Utf8.fromUtf8Lossy bytes) = some (x,y)) :
      ∃ head body, FirstEnd bytes head body ∧ Utf8.fromUtf8Lossy head = x ∧ Utf8.fromUtf8Lossy body = y := by
    obtain ⟨head,body,shape,before,after⟩ := endFound (cutSome found)
    refine ⟨head,body,⟨shape,fun head' body' occurs => ?_⟩,before,after⟩
    by_contra longer
    have longer := Nat.lt_of_not_le longer
    have early := cutFirst found (by rw [occurs,lossyAtEnd])
    have whole := shape.symm.trans occurs
    rw [List.append_assoc,List.append_assoc] at whole
    rcases List.append_eq_append_iff.mp whole with ⟨extra,rfl,-⟩ | ⟨extra,rfl,rest⟩
    · rw [List.length_append] at longer
      omega
    · -- an end before the one that the text has first would leave less text before it
      cases extra with
      | nil =>
        rw [List.append_nil] at longer
        omega
      | cons b extra =>
        have ascii : b = 0x0D := (List.cons.inj rest).1.symm
        have some : Utf8.fromUtf8Lossy (b::extra) ≠ [] := by
          rw [Utf8.lossyCons]
          split <;> simp
        have long := List.length_pos_of_ne_nil some
        rw [← before,Utf8.lossyBefore (by rw [ascii]; decide),List.length_append] at early
        omega
  refine ⟨first,?_⟩
  rintro ⟨head,body,⟨shape,least⟩,rfl,rfl⟩
  cases found : cut headerEnd (Utf8.fromUtf8Lossy bytes) with
  | none => exact (cutNone found ⟨_,_,by rw [shape,lossyAtEnd]⟩).elim
  | some parts =>
    obtain ⟨head',body',⟨shape',least'⟩,before,after⟩ := first found
    have same := shape.symm.trans shape'
    rw [List.append_assoc,List.append_assoc] at same
    have lengths := Nat.le_antisymm (least head' body' shape') (least' head body shape)
    obtain ⟨rfl,rest⟩ := List.append_inj same lengths
    rw [List.append_cancel_left rest,before,after]

/-- A message whose length cuts a character of its body, or the three bytes that stand
for bytes which are none. -/
def CutsCharacter (u : CaseMapping) (message : List Byte) : Prop :=
  ∃ head body cl, FirstEnd message head body ∧ HeadLength u cl (lines (Utf8.fromUtf8Lossy head)) ∧ Utf8.Inside body cl

theorem parsePanics {message : List Byte} :
    RtspRequest.parseText u (Utf8.fromUtf8Lossy message) = .error .slicePanic ↔ CutsCharacter u message := by
  rw [parseTextPanics]
  cases found : cut headerEnd (Utf8.fromUtf8Lossy message) with
  | none =>
    rw [splitUncut found]
    constructor
    · rintro ⟨cl,-,within,inside⟩
      cases Nat.le_zero.mp within
      cases inside
    · rintro ⟨head,body,cl,first,-⟩
      rw [cutLossy.mpr ⟨head,body,first,rfl,rfl⟩] at found
      cases found
  | some parts =>
    obtain ⟨head,body,first,before,after⟩ := cutLossy.mp found
    obtain ⟨section_,rest⟩ := splitCut found
    rw [section_,rest,← before,← after]
    constructor
    · rintro ⟨cl,named,within,inside⟩
      exact ⟨head,body,cl,first,named,insideLossy.mpr ⟨within,inside⟩⟩
    · rintro ⟨head',body',cl,first',named,inside⟩
      have same := found.symm.trans (cutLossy.mpr ⟨head',body',first',rfl,rfl⟩)
      obtain ⟨front,back⟩ := Prod.mk.inj (Option.some.inj same)
      rw [before,after,front,back]
      exact ⟨cl,named,insideLossy.mp inside⟩

end Bytes

/-- The bytes that the task survives: where a header block comes, the last line that
starts with content-length: gives at most `isize::MAX`, and where that many bytes follow,
the length that the head names cuts no character of the message's body. -/
def Harmless (u : CaseMapping) (stream : List Byte) : Prop :=
  ∀ lines rest, stream.head? ≠ some 0x24 → stream = Utf8.encode lines.flatten ++ rest → HeaderBlock lines →
    directLength u lines ≤ isizeMax ∧
      (directLength u lines ≤ rest.length →
        ¬ CutsCharacter u (Utf8.encode lines.flatten ++ rest.take (directLength u lines)))

theorem parsedPanics {result : Except ParseError RtspRequest} :
    (Reception.parsed result).panics = true ↔ result = .error .slicePanic := by
  cases result with
  | ok req => exact ⟨fun bad => (by cases bad),fun bad => (by cases bad)⟩
  | error e => cases e <;> simp [Reception.panics]

theorem readsWithoutPanic (u : CaseMapping) (stream : List Byte) :
    (receive u stream).panics = false ↔ Harmless u stream := by
  rw [receive]
  split
  · rename_i dollar
    refine ⟨fun _ lines rest text => (text dollar).elim,fun _ => ?_⟩
    split <;> rfl
  · rename_i text
    split
    · rename_i unread
      refine ⟨fun _ lines rest _ bytes block => ?_,fun _ => rfl⟩
      rw [(readHeadersIff (u := u)).mpr ⟨bytes,block,rfl⟩] at unread
      cases unread
    · rename_i lines contentLength rest read
      obtain ⟨bytes,block,rfl⟩ := readHeadersIff.mp read
      have harmless : Harmless u stream ↔ directLength u lines ≤ isizeMax ∧ (directLength u lines ≤ rest.length →
          ¬ CutsCharacter u (Utf8.encode lines.flatten ++ rest.take (directLength u lines))) := by
        refine ⟨fun all => all lines rest text bytes block,fun one lines' rest' _ bytes' block' => ?_⟩
        have read' := (readHeadersIff (u := u)).mpr ⟨bytes',block',rfl⟩
        rw [read] at read'
        cases read'
        exact one
      rw [harmless]
      split
      · rename_i large
        exact ⟨fun bad => (by cases bad),fun fits => absurd fits.1 (Nat.not_le.mpr large)⟩
      · rename_i small
        have small := Nat.le_of_not_lt small
        split
        · rename_i short
          exact ⟨fun _ => ⟨small,fun enough => absurd enough (Nat.not_le.mpr short)⟩,fun _ => rfl⟩
        · rename_i enough
          have enough := Nat.le_of_not_lt enough
          have panics := @parsePanics u (Utf8.encode lines.flatten ++ rest.take (directLength u lines))
          rw [Utf8.lossyAppend] at panics
          rw [← Bool.not_eq_true,parsedPanics,RtspRequest.parse,Utf8.decodeEncode]
          refine (not_congr panics).trans ?_
          exact ⟨fun clean => ⟨small,fun _ => clean⟩,fun both => both.2 enough⟩

def clippedStream : List Byte := Utf8.encode "OPTIONS * RTSP/1.0\r\nCSeq: 1\r\nContent-Length: 1\r\n\r\n".toList ++ [0xFF]

theorem clippedReplacement : ¬ ∀ stream, (receive .ascii stream).panics = false := by
  intro never
  have panicked : (receive .ascii clippedStream).panics = true := by decide +kernel
  rw [never] at panicked
  cases panicked

end Vscreen.Rtsp
