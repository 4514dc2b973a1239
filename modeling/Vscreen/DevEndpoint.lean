import Vscreen.SerdeJson
import Vscreen.TextParts
import Vscreen.Utf8Cut

/-! The endpoint of the browser that dev mode has started (vscreen/src/dev.rs): a GET request
whose response is looked through after every read. With a Content-Length the body is whole
then; without one the loop takes what ends in a closing bracket for the whole of it. -/
namespace Vscreen.Dev
open Text

def headerEnd : List Byte := [0x0D,0x0A,0x0D,0x0A]

def cutHead : List Byte → Option (List Byte × List Byte)
  | [] => none
  | b::rest => if headerEnd <+: b::rest then some ([],rest.drop 3) else (cutHead rest).map fun p => (b::p.1,p.2)

def contentLength (line : Text) : Option Nat :=
  (stripPrefix "content-length:".toList (lowered line)).bind fun val => parseUnsigned (2 ^ 64) (trim val)

def closed (text : Text) : Bool := text.getLast? = some ']' || text.getLast? = some '\x7d'

def tryExtractBody (buf : List Byte) : Option Text := match cutHead buf with
  | none => none
  | some (head,body) => match Utf8.decode head with
    | none => none
    | some headers => match (lines headers).findSome? contentLength with
      | some length => if length ≤ body.length then Utf8.decode (body.take length) else none
      | none => match Utf8.decode body with
        | none => none
        | some text => if closed (trim text) then some (trim text) else none

def fetchHttpGet (failure : Option Text) : List Byte → List (List Byte) → Except Text Text
  | buf,[] => match failure with
    | some e => .error ("read: ".toList ++ e)
    | none => match tryExtractBody buf with
      | some body => .ok body
      | none => .error "no HTTP body".toList
  | buf,chunk::rest => match tryExtractBody (buf ++ chunk) with
    | some body => .ok body
    | none => fetchHttpGet failure (buf ++ chunk) rest

section
variable (fromStr : Text → Except Text (List Serde))

def endpointOf (response : Text) : Except Text Text := match fromStr response with
  | .error e => .error ("parse CDP json: ".toList ++ e)
  | .ok entries => match (entries.head?.bind (·.get "webSocketDebuggerUrl".toList)).bind Serde.asString with
    | some url => .ok url
    | none => .error "no webSocketDebuggerUrl in CDP response".toList

-- `fromStr` is `serde_json::from_str`; the reads are those of one connection that was
-- made and written to, within the two seconds of the timeout
def reqwestCdpEndpoint (failure : Option Text) (reads : List (List Byte)) : Except Text Text :=
  match fetchHttpGet failure [] reads with
  | .error e => .error e
  | .ok response => endpointOf fromStr response

end

section Head
variable {a b s more : List Byte}

theorem cutHeadShape (found : cutHead s = some (a,b)) : s = a ++ headerEnd ++ b := by
  induction s generalizing a b with
  | nil => cases found
  | cons c rest ih =>
    rw [cutHead] at found
    split at found
    · rename_i here
      cases found
      obtain ⟨tail,same⟩ := here
      cases same
      rfl
    · obtain ⟨p,later,same⟩ := Option.map_eq_some_iff.mp found
      cases same
      rw [ih later]
      rfl

theorem cutHeadAppend (found : cutHead s = some (a,b)) (more : List Byte) : cutHead (s ++ more) = some (a,b ++ more) := by
  induction s generalizing a b with
  | nil => cases found
  | cons c rest ih =>
    have long : 4 ≤ (c::rest).length := by
      rw [cutHeadShape found,List.length_append,List.length_append]
      exact Nat.le_trans (Nat.le_add_left 4 a.length) (Nat.le_add_right _ _)
    have prefixes : headerEnd <+: c::rest ++ more ↔ headerEnd <+: c::rest :=
      ⟨fun front => List.prefix_of_prefix_length_le front (List.prefix_append _ _) long,
        fun front => front.trans (List.prefix_append _ _)⟩
    rw [cutHead] at found
    rw [List.cons_append,cutHead,← List.cons_append]
    split at found
    · rename_i here
      cases found
      rw [if_pos (prefixes.mpr here),List.drop_append_of_le_length (by simpa using Nat.le_of_succ_le_succ long)]
    · rename_i other
      obtain ⟨p,later,same⟩ := Option.map_eq_some_iff.mp found
      cases same
      rw [if_neg (fun front => other (prefixes.mp front)),ih later]
      rfl

theorem cutHeadSkip {x : List Byte} (y : List Byte) (absent : 0x0D ∉ x) :
    cutHead (x ++ y) = (cutHead y).map fun p => (x ++ p.1,p.2) := by
  induction x with
  | nil => simp
  | cons c x ih =>
    rw [List.mem_cons,not_or] at absent
    have other : ¬ headerEnd <+: c::(x ++ y) := fun front => absent.1 (List.cons_prefix_cons.mp front).1
    rw [List.cons_append,cutHead,if_neg other,ih absent.2,Option.map_map]
    rfl

theorem cutHeadLine {z : List Byte} (more : z.head? ≠ some 0x0D) :
    cutHead (0x0D::0x0A::z) = (cutHead z).map fun p => (0x0D::0x0A::p.1,p.2) := by
  have other : ¬ headerEnd <+: 0x0D::0x0A::z := by
    rintro ⟨tail,same⟩
    cases same
    exact more rfl
  have second : ¬ headerEnd <+: 0x0A::z := fun front => absurd (List.cons_prefix_cons.mp front).1 (by decide)
  rw [cutHead,if_neg other,cutHead,if_neg second,Option.map_map]
  rfl

theorem cutHeadEnd (rest : List Byte) : cutHead (headerEnd ++ rest) = some ([],rest) := by
  rw [headerEnd,List.cons_append,cutHead,if_pos ⟨rest,rfl⟩]
  rfl

end Head

structure HeaderLine where
  text : Text
  nonempty : text ≠ []
  noReturn : '\r' ∉ text
  noFeed : '\n' ∉ text

def headText : List HeaderLine → Text
  | [] => []
  | [line] => line.text
  | line::next::rest => line.text ++ '\r' :: '\n' :: headText (next::rest)

def headBytes (lines : List HeaderLine) : List Byte := Utf8.encode (headText lines)

theorem linesLast {x : Text} (current : Text) (unbroken : '\n' ∉ x) (nonempty : current ++ x ≠ []) :
    linesFrom current x = [current ++ x] := by
  induction x generalizing current with
  | nil =>
    rw [List.append_nil] at nonempty ⊢
    rw [linesFrom,if_neg nonempty]
  | cons c x ih =>
    rw [List.mem_cons,not_or] at unbroken
    rw [linesFrom,if_neg (Ne.symm unbroken.1),ih _ unbroken.2 (by simp),List.append_assoc]
    rfl

theorem linesHead (header : List HeaderLine) : lines (headText header) = header.map HeaderLine.text := by
  induction header with
  | nil => rfl
  | cons line rest ih =>
    cases rest with
    | nil =>
      rw [headText,lines,linesLast [] line.noFeed line.nonempty]
      rfl
    | cons next rest =>
      have split : line.text ++ '\r' :: '\n' :: headText (next::rest) = (line.text ++ ['\r']) ++ '\n'::headText (next::rest) := by
        simp
      have unbroken : '\n' ∉ line.text ++ ['\r'] := by
        rw [List.mem_append,not_or]
        exact ⟨line.noFeed,by decide⟩
      have bare : stripCr (line.text ++ ['\r']) = line.text := by simp [stripCr]
      rw [headText,split,lines,linesFromLine [] _ unbroken,List.nil_append,bare,ih]
      rfl

theorem returnByte {c : Char} (member : (0x0D : Byte) ∈ String.utf8EncodeChar c) : c = '\r' := by
  have value : c.toNat = 13 := by
    have whole : c.val.toNat = c.toNat := rfl
    simp only [String.utf8EncodeChar] at member
    split at member
    · simp [← UInt8.toNat_inj] at member
      omega
    · split at member
      · simp [← UInt8.toNat_inj] at member
        omega
      · split at member
        · simp [← UInt8.toNat_inj] at member
          omega
        · simp [← UInt8.toNat_inj] at member
          omega
  exact Char.toNat_inj.mp value

theorem lineBytes (line : HeaderLine) : (0x0D : Byte) ∉ Utf8.encode line.text := by
  intro member
  obtain ⟨c,inside,byte⟩ := List.mem_flatMap.mp member
  exact line.noReturn (returnByte byte ▸ inside)

theorem headFirst (next : HeaderLine) (rest : List HeaderLine) (more : List Byte) :
    (headBytes (next::rest) ++ more).head? ≠ some 0x0D := by
  have front : ∃ tail, headText (next::rest) = next.text ++ tail := by
    cases rest with
    | nil => exact ⟨[],(List.append_nil _).symm⟩
    | cons other rest => exact ⟨_,rfl⟩
  obtain ⟨tail,same⟩ := front
  intro first
  cases bytes : Utf8.encode next.text with
  | nil => exact Utf8.encodeNonempty next.nonempty bytes
  | cons b bs =>
    rw [headBytes,same,Utf8.encodeAppend,bytes] at first
    cases first
    exact lineBytes next (bytes ▸ List.mem_cons_self)

theorem cutHeadHead (header : List HeaderLine) (rest : List Byte) :
    cutHead (headBytes header ++ (headerEnd ++ rest)) = some (headBytes header,rest) := by
  induction header with
  | nil => exact cutHeadEnd rest
  | cons line others ih =>
    cases others with
    | nil =>
      rw [headBytes,headText,cutHeadSkip _ (lineBytes line),cutHeadEnd]
      simp
    | cons next others =>
      have bytes : headBytes (line::next::others) = Utf8.encode line.text ++ 0x0D::0x0A::headBytes (next::others) := by
        rw [headBytes,headText,Utf8.encodeAppend,Utf8.encodeCons,Utf8.encodeCons]
        rfl
      rw [bytes,List.append_assoc,cutHeadSkip _ (lineBytes line),List.cons_append,List.cons_append,
        cutHeadLine (headFirst next others _),ih]
      rfl

def responseBytes (header : List HeaderLine) (body : List Byte) : List Byte := headBytes header ++ (headerEnd ++ body)

/-- The length that the head gives: that of the first line that gives one. -/
def announced (header : List HeaderLine) : Option Nat := (header.map HeaderLine.text).findSome? contentLength

section Response
variable {header : List HeaderLine} {p body : List Byte}

theorem extractHead (front : p <+: headBytes header ++ headerEnd) (short : p ≠ headBytes header ++ headerEnd) :
    tryExtractBody p = none := by
  have none : cutHead p = none := by
    cases found : cutHead p with
    | none => rfl
    | some parts =>
      obtain ⟨more,whole⟩ := front
      have longer := cutHeadAppend found more
      have exact_ := cutHeadHead header []
      rw [List.append_nil,← whole,longer] at exact_
      have empty : parts.2 ++ more = [] := congrArg Prod.snd (Option.some.inj exact_)
      rw [(List.append_eq_nil_iff.mp empty).2,List.append_nil] at whole
      exact absurd whole short
  rw [tryExtractBody,none]

theorem extractBody (header : List HeaderLine) (part : List Byte) :
    tryExtractBody (responseBytes header part) = match announced header with
      | some length => if length ≤ part.length then Utf8.decode (part.take length) else none
      | none => match Utf8.decode part with
        | none => none
        | some text => if closed (trim text) then some (trim text) else none := by
  rw [tryExtractBody,responseBytes,cutHeadHead]
  simp only [headBytes,Utf8.decodeEncode,linesHead,announced]

theorem responsePrefix (front : p <+: responseBytes header body) : (p <+: headBytes header ++ headerEnd ∧ p ≠ headBytes header ++ headerEnd) ∨
    ∃ part, part <+: body ∧ p = responseBytes header part := by
  obtain ⟨more,same⟩ := front
  rw [responseBytes,← List.append_assoc] at same
  rcases List.append_eq_append_iff.mp same with ⟨rest,inside,-⟩ | ⟨part,shape,rest⟩
  · by_cases whole : p = headBytes header ++ headerEnd
    · exact .inr ⟨[],List.nil_prefix,by rw [whole,responseBytes,List.append_nil]⟩
    · exact .inl ⟨⟨rest,inside.symm⟩,whole⟩
  · exact .inr ⟨part,⟨more,rest.symm⟩,by rw [shape,responseBytes,List.append_assoc]⟩

def Reads (bytes : List Byte) (reads : List (List Byte)) : Prop :=
  reads.flatten = bytes ∧ ∀ chunk ∈ reads, chunk ≠ [] ∧ chunk.length ≤ 4096

theorem readsSingle (bytes : List Byte) : Reads bytes (bytes.map fun b => [b]) := by
  constructor
  · induction bytes with
    | nil => rfl
    | cons b bytes ih => rw [List.map_cons,List.flatten_cons,ih]; rfl
  · intro chunk member
    obtain ⟨b,-,rfl⟩ := List.mem_map.mp member
    exact ⟨List.cons_ne_nil _ _,by rw [List.length_singleton]; decide⟩

section Announced
variable {text : Text} (length : announced header = some (Utf8.encode text).length)
include length

theorem extractWhole (more : List Byte) : tryExtractBody (responseBytes header (Utf8.encode text) ++ more) = some text := by
  have whole : responseBytes header (Utf8.encode text) ++ more = responseBytes header (Utf8.encode text ++ more) := by
    simp only [responseBytes,List.append_assoc]
  rw [whole,extractBody,length]
  simp only [List.length_append,Nat.le_add_right,if_true,List.take_left,Utf8.decodeEncode]

theorem extractPart (front : p <+: responseBytes header (Utf8.encode text)) (short : p ≠ responseBytes header (Utf8.encode text)) :
    tryExtractBody p = none := by
  rcases responsePrefix front with ⟨inside,other⟩ | ⟨part,inside,rfl⟩
  · exact extractHead inside other
  · have less : part.length < (Utf8.encode text).length := by
      refine Nat.lt_of_le_of_ne inside.length_le fun same => short ?_
      rw [inside.eq_of_length same]
    rw [extractBody,length]
    exact if_neg (Nat.not_le.mpr less)

theorem fetchWhole (failure : Option Text) {buf : List Byte} {reads : List (List Byte)}
    (part : buf <+: responseBytes header (Utf8.encode text)) (short : buf ≠ responseBytes header (Utf8.encode text))
    (whole : responseBytes header (Utf8.encode text) <+: buf ++ reads.flatten) : fetchHttpGet failure buf reads = .ok text := by
  induction reads generalizing buf with
  | nil =>
    rw [List.flatten_nil,List.append_nil] at whole
    exact absurd (part.eq_of_length (Nat.le_antisymm part.length_le whole.length_le)) short
  | cons chunk rest ih =>
    rw [List.flatten_cons,← List.append_assoc] at whole
    by_cases done : responseBytes header (Utf8.encode text) <+: buf ++ chunk
    · obtain ⟨more,same⟩ := done
      rw [fetchHttpGet,← same,extractWhole length]
    · have still : buf ++ chunk <+: responseBytes header (Utf8.encode text) :=
        (List.prefix_or_prefix_of_prefix (List.prefix_append _ _) whole).resolve_right done
      have other : buf ++ chunk ≠ responseBytes header (Utf8.encode text) := fun same => done (same ▸ List.prefix_refl _)
      rw [fetchHttpGet,extractPart length still other]
      exact ih still other whole

theorem endpointWhole (fromStr : Text → Except Text (List Serde)) (failure : Option Text) {reads : List (List Byte)}
    (whole : responseBytes header (Utf8.encode text) <+: reads.flatten) :
    reqwestCdpEndpoint fromStr failure reads = endpointOf fromStr text := by
  have nonempty : [] ≠ responseBytes header (Utf8.encode text) := by
    rw [responseBytes]
    intro same
    have long := congrArg List.length same
    simp [headerEnd] at long
  rw [reqwestCdpEndpoint,fetchWhole length failure List.nil_prefix nonempty whole]

def okLine : HeaderLine := ⟨"HTTP/1.1 200 OK".toList,by decide,by decide,by decide⟩

def lengthLine : HeaderLine := ⟨"Content-LENGTH:  37 ".toList,by decide,by decide,by decide⟩

def targetText : Text := "[\x7b\"webSocketDebuggerUrl\":\"ws://h/1\"\x7d]".toList

def targetReader (text : Text) : Except Text (List Serde) :=
  if text = targetText then .ok [.object [("webSocketDebuggerUrl".toList,.string "ws://h/1".toList)]]
  else .error "expected value at line 1 column 1".toList

omit length in
theorem endpointRead : reqwestCdpEndpoint targetReader none
    (((responseBytes [okLine,lengthLine] (Utf8.encode targetText)).map fun b => [b]) ++ [[0x0A]]) = .ok "ws://h/1".toList := by
  have announces : announced [okLine,lengthLine] = some (Utf8.encode targetText).length := by decide
  have read : endpointOf targetReader targetText = .ok "ws://h/1".toList := by decide
  refine (endpointWhole announces targetReader none ?_).trans read
  rw [List.flatten_append,(readsSingle _).1]
  exact List.prefix_append _ _

end Announced

theorem closedVisible {s : Text} (ends : closed s = true) : s ≠ [] := by
  rintro rfl
  cases ends

theorem trimBetween {p q r : Text} (visible : trim p ≠ []) (same : trim (p ++ (q ++ r)) = trim p) : trim (p ++ q) = trim p := by
  obtain ⟨before,after,shape,left,right,middle⟩ := trimSplit p
  obtain ⟨before',after',shape',left',right',-⟩ := trimSplit (p ++ (q ++ r))
  rw [same] at shape'
  have both : before ++ (trim p ++ (after ++ (q ++ r))) = before' ++ (trim p ++ after') := by
    calc before ++ (trim p ++ (after ++ (q ++ r))) = (before ++ trim p ++ after) ++ (q ++ r) := by simp only [List.append_assoc]
      _ = before' ++ trim p ++ after' := by rw [← shape,shape']
      _ = before' ++ (trim p ++ after') := List.append_assoc _ _ _
  have leading : ∀ b t : Text, (∀ c ∈ b, isWhitespace c = true) → (b ++ (trim p ++ t)).takeWhile isWhitespace = b := by
    intro b t spaces
    cases core : trim p with
    | nil => exact absurd core visible
    | cons c rest =>
      rw [List.takeWhile_append_of_pos spaces,List.cons_append,
        List.takeWhile_cons_of_neg (by rw [middle.head c rest core]; decide),List.append_nil]
  have front : before = before' := by rw [← leading before _ left,both,leading before' _ left']
  subst front
  have rest : after ++ (q ++ r) = after' := List.append_cancel_left (List.append_cancel_left both)
  have whole : p ++ q = before ++ trim p ++ (after ++ q) := by rw [← List.append_assoc,← shape]
  rw [whole]
  refine trimOf left (fun c member => right' c ?_) middle
  rw [← rest,← List.append_assoc]
  exact List.mem_append_left _ member

theorem fetchStops {buf : List Byte} {first rest : List (List Byte)} {answer : Text} (nonempty : first ≠ [])
    (there : tryExtractBody (buf ++ first.flatten) = some answer) (failure : Option Text) : ∃ front z, front <+: first ∧
    tryExtractBody (buf ++ front.flatten) = some z ∧ fetchHttpGet failure buf (first ++ rest) = .ok z := by
  induction first generalizing buf with
  | nil => exact absurd rfl nonempty
  | cons chunk first ih =>
    rw [List.cons_append,fetchHttpGet]
    cases now : tryExtractBody (buf ++ chunk) with
    | some z => exact ⟨[chunk],z,⟨first,rfl⟩,by rw [List.flatten_singleton]; exact now,rfl⟩
    | none =>
      rw [List.flatten_cons,← List.append_assoc] at there
      have more : first ≠ [] := by
        rintro rfl
        rw [List.flatten_nil,List.append_nil,now] at there
        cases there
      obtain ⟨front,z,inside,found,same⟩ := ih more there
      refine ⟨chunk::front,z,List.cons_prefix_cons.mpr ⟨rfl,inside⟩,?_,same⟩
      rw [List.flatten_cons,← List.append_assoc]
      exact found

theorem fetchAnswered {buf : List Byte} {reads : List (List Byte)} {answer : Text}
    (ok : fetchHttpGet none buf reads = .ok answer) : ∃ front, front <+: reads ∧ tryExtractBody (buf ++ front.flatten) = some answer := by
  induction reads generalizing buf with
  | nil =>
    rw [fetchHttpGet] at ok
    refine ⟨[],List.nil_prefix,?_⟩
    rw [List.flatten_nil,List.append_nil]
    cases there : tryExtractBody buf with
    | none =>
      rw [there] at ok
      cases ok
    | some body =>
      rw [there] at ok
      cases ok
      rfl
  | cons chunk rest ih =>
    rw [fetchHttpGet] at ok
    cases there : tryExtractBody (buf ++ chunk) with
    | some body =>
      rw [there] at ok
      cases ok
      exact ⟨[chunk],⟨rest,rfl⟩,by rw [List.flatten_singleton]; exact there⟩
    | none =>
      rw [there] at ok
      obtain ⟨front,inside,found⟩ := ih ok
      refine ⟨chunk::front,List.cons_prefix_cons.mpr ⟨rfl,inside⟩,?_⟩
      rw [List.flatten_cons,← List.append_assoc]
      exact found

theorem flattenPrefix {front reads : List (List Byte)} (inside : front <+: reads) : front.flatten <+: reads.flatten := by
  obtain ⟨rest,rfl⟩ := inside
  rw [List.flatten_append]
  exact List.prefix_append _ _

section Unannounced
variable (unannounced : announced header = none)
include unannounced

theorem extractClosed {text answer : Text} (front : p <+: responseBytes header (Utf8.encode text))
    (there : tryExtractBody p = some answer) : ∃ part, part <+: text ∧ closed (trim part) = true ∧ answer = trim part := by
  rcases responsePrefix front with ⟨inside,other⟩ | ⟨bytes,⟨more,whole⟩,rfl⟩
  · rw [extractHead inside other] at there
    cases there
  · rw [extractBody,unannounced] at there
    dsimp only at there
    split at there
    · cases there
    · rename_i part decoded
      split at there
      · rename_i ends
        cases there
        rw [← Utf8.decodeIff.mp decoded] at whole
        obtain ⟨rest,shape,-⟩ := Utf8.encodeLeft whole.symm
        exact ⟨part,⟨rest,shape.symm⟩,ends,rfl⟩
      · cases there

theorem extractAt {part : Text} (ends : closed (trim part) = true) :
    tryExtractBody (responseBytes header (Utf8.encode part)) = some (trim part) := by
  rw [extractBody,unannounced,Utf8.decodeEncode]
  exact if_pos ends

theorem fetchClosed {text : Text} (ends : closed (trim text) = true)
    (whole : ∀ part, part <+: text → closed (trim part) = true → trim part = trim text) {buf : List Byte} {reads : List (List Byte)}
    (all : buf ++ reads.flatten = responseBytes header (Utf8.encode text)) : fetchHttpGet none buf reads = .ok (trim text) := by
  induction reads generalizing buf with
  | nil =>
    rw [List.flatten_nil,List.append_nil] at all
    rw [fetchHttpGet,all,extractAt unannounced ends]
  | cons chunk rest ih =>
    rw [List.flatten_cons,← List.append_assoc] at all
    rw [fetchHttpGet]
    cases now : tryExtractBody (buf ++ chunk) with
    | none => exact ih all
    | some answer =>
      obtain ⟨part,inside,closes,same⟩ := extractClosed unannounced ⟨rest.flatten,all⟩ now
      rw [same,whole part inside closes]

theorem unannouncedWhole (text : Text) : (∀ reads, Reads (responseBytes header (Utf8.encode text)) reads →
      fetchHttpGet none [] reads = .ok (trim text)) ↔
    closed (trim text) = true ∧ ∀ part, part <+: text → closed (trim part) = true → trim part = trim text := by
  constructor
  · intro always
    have single := always _ (readsSingle _)
    constructor
    · obtain ⟨front,inside,found⟩ := fetchAnswered single
      have some_ := flattenPrefix inside
      rw [(readsSingle _).1] at some_
      obtain ⟨part,-,closes,same⟩ := extractClosed unannounced some_ found
      rw [same]
      exact closes
    · rintro part ⟨more,rfl⟩ closes
      have parts : responseBytes header (Utf8.encode (part ++ more)) = responseBytes header (Utf8.encode part) ++ Utf8.encode more := by
        simp only [responseBytes,Utf8.encodeAppend,List.append_assoc]
      rw [parts,List.map_append] at single
      have there : tryExtractBody ([] ++ ((responseBytes header (Utf8.encode part)).map fun b => [b]).flatten) = some (trim part) := by
        rw [(readsSingle _).1]
        exact extractAt unannounced closes
      have nonempty : (responseBytes header (Utf8.encode part)).map (fun b => [b]) ≠ [] := by
        intro empty
        rw [empty] at there
        cases there
      obtain ⟨front,z,inside,found,stops⟩ := fetchStops nonempty there none
      cases stops.symm.trans single
      have some_ := flattenPrefix inside
      rw [(readsSingle _).1] at some_
      obtain ⟨early,⟨between,rfl⟩,visible,same⟩ := extractClosed unannounced some_ found
      have equal := @trimBetween early between more (closedVisible visible)
      rw [← List.append_assoc,same] at equal
      rw [equal rfl,← same]
  · rintro ⟨ends,whole⟩ reads ⟨all,-⟩
    exact fetchClosed unannounced ends whole all

omit unannounced in
theorem objectCut : ¬ ∀ reads, Reads (responseBytes [okLine] (Utf8.encode "[\x7b\x7d]".toList)) reads →
    fetchHttpGet none [] reads = .ok (trim "[\x7b\x7d]".toList) := by
  intro always
  have only := ((unannouncedWhole (by decide) _).mp always).2 "[\x7b\x7d".toList ⟨[']'],by decide⟩ (by decide)
  exact absurd only (by decide)

end Unannounced

end Response

end Vscreen.Dev
