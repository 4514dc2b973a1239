import Vscreen.RtspFraming

/-! When the connection loop and the request parser agree on one request: on the
length, the header lines, the body and the end of the message. -/
namespace Vscreen.Rtsp
open Text CaseMapping
variable {u : CaseMapping}

section Scanned

theorem keyPlain : ∀ d ∈ lengthKey, d.toNat < 128 ∧ d ≠ 'i' ∧ d ≠ 'k' := forallListed (by decide)

theorem trimmedOfVisible {s : Text} (visible : ∀ c ∈ s, isWhitespace c = false) : Trimmed s where
  head c rest shape := visible c (by rw [shape]; simp)
  last rest c shape := visible c (by rw [shape]; simp)

theorem trimAfter {p : Text} (tail : Text) (kept : Trimmed p) (nonempty : p ≠ []) :
    ∃ tail', trim (p ++ tail) = p ++ tail' ∧ trim tail' = trim tail := by
  obtain ⟨before,after,shape,left,right,middle⟩ := trimSplit tail
  by_cases empty : trim tail = []
  · refine ⟨[],?_,by rw [empty]; rfl⟩
    have spaces : ∀ c ∈ tail, isWhitespace c = true := by
      intro c member
      rw [shape,empty,List.append_nil] at member
      exact (List.mem_append.mp member).elim (left c) (right c)
    rw [List.append_nil]
    exact trimRight spaces kept
  · refine ⟨before ++ trim tail,?_,?_⟩
    · have whole : p ++ tail = (p ++ (before ++ trim tail)) ++ after := by
        rw [List.append_assoc,← shape]
      rw [whole]
      refine trimRight right ⟨?_,?_⟩
      · intro c rest start
        cases p with
        | nil => exact (nonempty rfl).elim
        | cons d p =>
          cases (List.cons_eq_cons.mp start).1
          exact kept.head c p rfl
      · intro rest c ends
        cases core : trim tail using List.reverseRecOn with
        | nil => exact (empty core).elim
        | append_singleton front d =>
          rw [core,← List.append_assoc,← List.append_assoc] at ends
          cases List.singleton_inj.mp (List.append_inj_right' ends rfl)
          exact middle.last front c core
    · exact trimLeft left middle

end Scanned

section RequestLine

def methodStarts : Text := ['O','D','S','P','T','G']

theorem methodStart {m : Text} {method : Method} (known : Method.parse m = .ok method) :
    ∃ c rest, m = c::rest ∧ c ∈ methodStarts := by
  unfold Method.parse at known
  repeat' split at known
  all_goals first
    | (rename_i same; exact ⟨_,_,same,by decide⟩)
    | cases known

theorem trimStarts {c : Char} (rest : Text) (visible : isWhitespace c = false) : ∃ rest', trim (c::rest) = c::rest' := by
  obtain ⟨rest',trimmed,-⟩ := trimAfter (p := [c]) rest (trimmedOfVisible (by simpa using visible)) (by simp)
  exact ⟨rest',trimmed⟩

theorem methodPlain : ∀ c ∈ methodStarts, isWhitespace c = false ∧ c ≠ ':' ∧ c.toLower ≠ 'c' := forallListed (by decide)

theorem requestLineUnnamed {c : Char} {rest : Text} (start : c ∈ methodStarts) :
    fieldValue u lengthKey (c::rest) = none := by
  obtain ⟨visible,noColon,other⟩ := methodPlain c start
  obtain ⟨rest',trimmed⟩ := trimStarts rest visible
  rw [fieldValue,trimmed,splitOnce,if_neg noColon]
  cases splitOnce ':' rest' with
  | none => rfl
  | some parts =>
    obtain ⟨name,value⟩ := parts
    rw [Option.map_some]
    dsimp only
    refine if_neg fun named => ?_
    obtain ⟨name',same⟩ := trimStarts name visible
    have low := u.lowered (trim (c::name))
    rw [named,same,← List.append_nil lengthKey] at low
    obtain ⟨p,tail,shape,mapped,-,-⟩ := low.leading keyPlain
    cases p with
    | nil => contradiction
    | cons d p =>
      cases (List.cons_eq_cons.mp shape).1
      exact other (List.cons_eq_cons.mp mapped).1

end RequestLine

section Parse

def parserLength (headers : Headers) : Nat := ((headers.get lengthKey).bind (parseUnsigned usizeBound)).getD 0

structure Parsed (u : CaseMapping) (text : Text) (req : RtspRequest) : Prop where
  length : req.headers.get lengthKey = namedLength u (lines (splitHeaderBody text).1)
  body : parseBody req.headers (splitHeaderBody text).2 = .ok req.body

theorem bindOk {ε α β : Type} {x : Except ε α} {f : α → Except ε β} {b : β} (ok : (x >>= f) = .ok b) :
    ∃ a, x = .ok a ∧ f a = .ok b := by
  cases x with
  | error e => cases ok
  | ok a => exact ⟨a,rfl,ok⟩

theorem parseTextSpec {text : Text} {req : RtspRequest} (parsed : RtspRequest.parseText u text = .ok req) :
    Parsed u text req := by
  unfold RtspRequest.parseText at parsed
  dsimp only at parsed
  split at parsed
  · contradiction
  · rename_i requestLine rest found
    split at parsed
    · rename_i m url t more parts
      obtain ⟨method,known,parsed⟩ := bindOk parsed
      obtain ⟨headers,fields,parsed⟩ := bindOk parsed
      obtain ⟨cseq,-,parsed⟩ := bindOk parsed
      obtain ⟨body,taken,parsed⟩ := bindOk parsed
      cases parsed
      refine ⟨?_,taken⟩
      obtain ⟨c,m',rfl,start⟩ := methodStart known
      have line : ∃ tail, requestLine = c::tail := by
        unfold splitn at parts
        split at parts
        · simp at parts
        · rename_i piece remaining cutOff
          cases (List.cons_eq_cons.mp parts).1
          exact ⟨_,(splitOnceSome cutOff).1⟩
      obtain ⟨tail,rfl⟩ := line
      rw [found,namedLength,List.filterMap_cons_none (requestLineUnnamed start),parsedHeader lengthKey fields,
        Table.getEmpty,Option.or_none]
    · contradiction

theorem parseBodySpec {headers : Headers} {bodySection body : Option Text}
    (taken : parseBody headers bodySection = .ok body) :
    Utf8.encode (body.getD []) = (Utf8.encode (bodySection.getD [])).take (parserLength headers) ∧
      parserLength headers ≤ (Utf8.encode (bodySection.getD [])).length := by
  unfold parseBody at taken
  split at taken
  · rename_i absent
    cases taken
    simp [parserLength,show headers.get lengthKey = none from absent]
  · rename_i value found
    split at taken
    · contradiction
    · rename_i cl number
      have length : parserLength headers = cl := by
        rw [parserLength,show headers.get lengthKey = some value from found,Option.bind_some,number]
        rfl
      rw [length]
      split at taken
      · dsimp only at taken
        split at taken
        · contradiction
        · rename_i enough
          refine ⟨?_,Nat.le_of_not_lt enough⟩
          unfold takeBytes at taken
          split at taken
          · contradiction
          · rename_i text decoded
            cases taken
            exact Utf8.decodeIff.mp decoded
      · rename_i zero
        cases taken
        have zero : cl = 0 := by omega
        simp [zero]

def parsedEnd (text : Text) (req : RtspRequest) : Nat :=
  (Utf8.encode (splitHeaderBody text).1).length + (if (cut headerEnd text).isSome then 4 else 0) +
    parserLength req.headers

end Parse

/-- The loop, which cut `f` from the stream, and the parser, which made `req` of it,
mean the same message. -/
structure Agrees (stream : List Byte) (f : Framed) (req : RtspRequest) : Prop where
  length : parserLength req.headers = f.contentLength
  header : headerLines (splitHeaderBody f.buffer).1 = headerLines f.header
  body : Utf8.encode (req.body.getD []) = f.bodyBytes
  ending : stream.drop (parsedEnd f.buffer req) = f.rest

/-- The requests that the two cannot read in two ways: no length is given directly,
or the block ends in `\r\n\r\n`, the body is UTF-8, and the last line that names the
length gives the number of the last that gives one directly. -/
def Unambiguous (u : CaseMapping) (block : List Text) (bodyBytes : List Byte) : Prop :=
  directLength u block = 0 ∨
    (headerEnd <:+ block.flatten ∧ (Utf8.decode bodyBytes).isSome ∧
      (namedLength u block).bind (parseUnsigned usizeBound) = some (directLength u block))

section Cases
variable {stream : List Byte} {f : Framed} {req : RtspRequest}

theorem splitCut {text before after : Text} (found : cut headerEnd text = some (before,after)) :
    (splitHeaderBody text).1 = before ∧ (splitHeaderBody text).2.getD [] = after := by
  rw [splitHeaderBody,found]
  refine ⟨rfl,?_⟩
  dsimp only
  split
  · rename_i empty
    exact empty.symm
  · rfl

theorem splitUncut {text : Text} (absent : cut headerEnd text = none) : splitHeaderBody text = (text,none) := by
  rw [splitHeaderBody,absent]

theorem headerLinesCut {before : Text} : headerLines (before ++ headerEnd) = headerLines before :=
  linesEnded [] before

theorem parsedLength (block : HeaderBlock f.lines) (parsed : Parsed u f.buffer req)
    (header : headerLines (splitHeaderBody f.buffer).1 = headerLines f.header) :
    req.headers.get lengthKey = namedLength u f.lines := by
  have filtered := namedLengthFilter (u := u) (lines (splitHeaderBody f.buffer).1)
  rw [parsed.length,← filtered,show List.filter _ _ = headerLines f.header from header,headerLines,namedLengthFilter,
    Framed.header,linesBlock block,namedLengthBare (blockTerminated block)]

theorem dropWhole {a b c : List Byte} {n : Nat} (whole : a ++ b ++ c = stream) (length : n = a.length + b.length) :
    stream.drop n = c := by
  rw [← whole,length,← List.length_append,List.drop_left]

theorem agreesEmpty (bytes : Utf8.encode f.header ++ f.bodyBytes ++ f.rest = stream) (block : HeaderBlock f.lines)
    (counted : f.bodyBytes.length = f.contentLength) (parsed : Parsed u f.buffer req) (empty : f.contentLength = 0) :
    Agrees stream f req := by
  have noBody : f.bodyBytes = [] := List.eq_nil_of_length_eq_zero (counted.trans empty)
  have whole : f.buffer = f.header := by rw [Framed.buffer,noBody]; exact List.append_nil _
  obtain ⟨taken,within⟩ := parseBodySpec parsed.body
  cases found : cut headerEnd f.buffer with
  | none =>
    rw [splitUncut found] at taken within
    have zero : parserLength req.headers = 0 := by simpa using within
    refine ⟨by rw [zero,empty],by rw [splitUncut found,whole],by rw [taken,noBody]; simp,dropWhole bytes ?_⟩
    rw [parsedEnd,splitUncut found,found,zero,noBody,whole]
    rfl
  | some parts =>
    obtain ⟨before,after⟩ := parts
    have shape := cutSome found
    rw [whole] at shape
    cases blockEnd block shape
    rw [List.append_nil] at shape
    obtain ⟨section_,body⟩ := splitCut found
    rw [body] at taken within
    have zero : parserLength req.headers = 0 := by simpa using within
    refine ⟨by rw [zero,empty],?_,by rw [taken,noBody]; simp,dropWhole bytes ?_⟩
    · rw [section_,shape,headerLinesCut]
    · rw [parsedEnd,section_,found,zero,noBody,shape,Utf8.encodeAppend,List.length_append]
      rfl

theorem agreesCut {before : Text} (bytes : Utf8.encode f.header ++ f.bodyBytes ++ f.rest = stream)
    (block : HeaderBlock f.lines) (counted : f.bodyBytes.length = f.contentLength) (parsed : Parsed u f.buffer req)
    (ended : f.header = before ++ headerEnd) (valid : (Utf8.decode f.bodyBytes).isSome)
    (named : (namedLength u f.lines).bind (parseUnsigned usizeBound) = some f.contentLength) :
    Agrees stream f req := by
  have found : cut headerEnd f.buffer = some (before,Utf8.fromUtf8Lossy f.bodyBytes) := cutBlock block ended
  obtain ⟨section_,body⟩ := splitCut found
  have header : headerLines (splitHeaderBody f.buffer).1 = headerLines f.header := by
    rw [section_,ended,headerLinesCut]
  have length : parserLength req.headers = f.contentLength := by
    rw [parserLength,parsedLength block parsed header,named]
    rfl
  have same := (Utf8.lossyExact f.bodyBytes).mpr valid
  obtain ⟨taken,-⟩ := parseBodySpec parsed.body
  rw [body,same,length,← counted,List.take_length] at taken
  refine ⟨length,header,taken,dropWhole bytes ?_⟩
  rw [parsedEnd,section_,found,length,counted,ended,Utf8.encodeAppend,List.length_append]
  rfl

theorem bodyLost (block : HeaderBlock f.lines) (counted : f.bodyBytes.length = f.contentLength)
    (parsed : Parsed u f.buffer req) (agrees : Agrees stream f req) (some_ : f.contentLength ≠ 0) :
    headerEnd <:+ f.header := by
  refine blockInfix block ?_
  obtain ⟨-,within⟩ := parseBodySpec parsed.body
  rw [agrees.length] at within
  cases found : cut headerEnd f.buffer with
  | none =>
    rw [splitUncut found] at within
    exact (some_ (by simpa using within)).elim
  | some parts =>
    obtain ⟨before,after⟩ := parts
    obtain ⟨-,body⟩ := splitCut found
    rw [body] at within
    have shape := cutSome found
    have valid : (Utf8.decode f.bodyBytes).isSome := by rw [Utf8.decodeIff.mpr agrees.body]; rfl
    have same := (Utf8.lossyExact f.bodyBytes).mpr valid
    rcases List.append_eq_append_iff.mp (shape : f.header ++ _ = before ++ headerEnd ++ after) with
      ⟨late,ends,left⟩ | ⟨more,inside,-⟩
    · -- what follows the end that the parser sees is shorter than the body, unless that end is the block's
      have size := congrArg (fun t => (Utf8.encode t).length) left
      simp only [Utf8.encodeAppend,List.length_append,same,counted] at size
      have none : late = [] := by
        cases late with
        | nil => rfl
        | cons c late =>
          have positive := c.utf8Size_pos
          simp only [Utf8.encodeCons,List.length_append,String.length_utf8EncodeChar] at size
          omega
      rw [none,List.append_nil] at ends
      exact ⟨before,[],by rw [List.append_nil]; exact ends⟩
    · exact ⟨before,more,inside.symm⟩

end Cases

theorem framingAgrees {u : CaseMapping} {stream : List Byte} {f : Framed} {req : RtspRequest}
    (delimited : nextMessage u stream = some (.request f))
    (parsed : RtspRequest.parse u (Utf8.encode f.buffer) = .ok req) :
    Agrees stream f req ↔ Unambiguous u f.lines f.bodyBytes := by
  obtain ⟨bytes,block,scanned,counted⟩ := readRequestSpec (nextRequest delimited)
  have direct : directLength u f.lines = f.contentLength := (scanned.trans (scanLengthsLast 0 f.lines)).symm
  have parsed : Parsed u f.buffer req := by
    rw [RtspRequest.parse,Utf8.decodeEncode] at parsed
    exact parseTextSpec parsed
  constructor
  · intro agrees
    by_cases empty : f.contentLength = 0
    · exact .inl (direct.trans empty)
    · refine .inr ⟨bodyLost block counted parsed agrees empty,by rw [Utf8.decodeIff.mpr agrees.body]; rfl,?_⟩
      have length := agrees.length
      rw [parserLength,parsedLength block parsed agrees.header] at length
      rw [direct]
      cases found : (namedLength u f.lines).bind (parseUnsigned usizeBound) with
      | none =>
        rw [found] at length
        exact (empty length.symm).elim
      | some n =>
        rw [found] at length
        rw [← length]
        rfl
  · rintro (empty | ⟨⟨before,ended⟩,valid,named⟩)
    · exact agreesEmpty bytes.symm block counted parsed (direct.symm.trans empty)
    · exact agreesCut bytes.symm block counted parsed ended.symm valid (direct ▸ named)

theorem parsedFacts (p : RtspRequest → Bool) (data : List Byte)
    (ok : (RtspRequest.parse u data).toOption.any p = true) :
    ∃ req, RtspRequest.parse u data = .ok req ∧ p req = true := by
  cases parsed : RtspRequest.parse u data with
  | error e => rw [parsed] at ok; contradiction
  | ok req => rw [parsed] at ok; exact ⟨req,rfl,ok⟩

def plainStream : List Byte :=
  Utf8.encode "OPTIONS rtsp://h RTSP/1.0\r\nCSeq: 1\r\nContent-Length: 2\r\n\r\nokP".toList

def plainFramed : Framed where
  lines := ["OPTIONS rtsp://h RTSP/1.0\r\n".toList,"CSeq: 1\r\n".toList,"Content-Length: 2\r\n".toList,crlf]
  contentLength := 2
  bodyBytes := [0x6F,0x6B]
  rest := [0x50]

theorem framingAgreesRun : ∃ f req, nextMessage .ascii plainStream = some (.request f) ∧
    RtspRequest.parse .ascii (Utf8.encode f.buffer) = .ok req ∧ Agrees plainStream f req := by
  have delimited : nextMessage .ascii plainStream = some (.request plainFramed) := by decide +kernel
  obtain ⟨req,parsed,-⟩ := parsedFacts (u := .ascii) (fun _ => true) (Utf8.encode plainFramed.buffer)
    (by decide +kernel)
  refine ⟨plainFramed,req,delimited,parsed,(framingAgrees delimited parsed).mpr (.inr ⟨?_,?_,?_⟩)⟩
  · decide
  · decide
  · decide

def bareStream : List Byte :=
  Utf8.encode "PLAY rtsp://h RTSP/1.0\nCSeq: 1\nContent-Length: 25\n\nCSeq: 9\nContent-Length: 0".toList

def bareFramed : Framed where
  lines := ["PLAY rtsp://h RTSP/1.0\n".toList,"CSeq: 1\n".toList,"Content-Length: 25\n".toList,lineFeed]
  contentLength := 25
  bodyBytes := Utf8.encode "CSeq: 9\nContent-Length: 0".toList
  rest := []

theorem bodyOverridesHeaders : ∃ f req, nextMessage .ascii bareStream = some (.request f) ∧
    RtspRequest.parse .ascii (Utf8.encode f.buffer) = .ok req ∧ req.cseq = 9 ∧ ¬ Agrees bareStream f req := by
  have delimited : nextMessage .ascii bareStream = some (.request bareFramed) := by decide +kernel
  obtain ⟨req,parsed,facts⟩ := parsedFacts (u := .ascii) (fun req => req.cseq = 9 ∧ parserLength req.headers = 0)
    (Utf8.encode bareFramed.buffer) (by decide +kernel)
  obtain ⟨cseq,length⟩ := of_decide_eq_true facts
  refine ⟨bareFramed,req,delimited,parsed,cseq,fun agrees => ?_⟩
  have wrong := agrees.length
  rw [length] at wrong
  cases wrong

end Vscreen.Rtsp
