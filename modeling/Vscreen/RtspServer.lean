import Vscreen.RtspParser

/-! How the connection loop of the RTSP server cuts messages out of its byte
stream (server.rs). Where it answers nothing (the stream ends inside a message, or
a line is not UTF-8) the connection is closed. -/
namespace Vscreen.Rtsp
open Text

def lineFeed : Text := ['\n']

structure Framed where
  lines : List Text
  contentLength : Nat
  bodyBytes : List Byte
  rest : List Byte
  deriving DecidableEq

inductive Message where
  | interleaved (channel : Byte) (data : List Byte) (rest : List Byte)
  | request (framed : Framed)
  deriving DecidableEq

namespace Framed

def header (f : Framed) : Text := f.lines.flatten

def buffer (f : Framed) : Text := f.header ++ Utf8.fromUtf8Lossy f.bodyBytes

end Framed

section Scan
variable (u : CaseMapping)

def lengthPrefix : Text := "content-length:".toList

def scannedLength (line : Text) : Option Nat :=
  (stripPrefix lengthPrefix (u.toLowercase line)).bind fun rest => parseUnsigned usizeBound (trim rest)

def readHeaders (line : List Byte) (contentLength : Nat) : List Byte → Option (List Text × Nat × List Byte)
  | [] => none
  | b::rest =>
    if b ≠ 0x0A then readHeaders (line ++ [b]) contentLength rest
    else match Utf8.decode (line ++ [b]) with
      | none => none
      | some text =>
        let contentLength := (scannedLength u text).getD contentLength
        if text = crlf ∨ text = lineFeed then some ([text],contentLength,rest)
        else (readHeaders [] contentLength rest).map fun r => (text::r.1,r.2)

def readRequest (stream : List Byte) : Option Framed := match readHeaders u [] 0 stream with
  | none => none
  | some (lines,contentLength,rest) =>
    if rest.length < contentLength then none
    else some ⟨lines,contentLength,rest.take contentLength,rest.drop contentLength⟩

def readInterleaved : List Byte → Option Message
  | _::channel::high::low::rest =>
    let len := high.toNat * 256 + low.toNat
    if rest.length < len then none else some (.interleaved channel (rest.take len) (rest.drop len))
  | _ => none

def nextMessage (stream : List Byte) : Option Message := match stream with
  | [] => none
  | first::_ => if first = 0x24 then readInterleaved stream else (readRequest u stream).map .request

end Scan

def Terminated (line : Text) : Prop := ∃ x, line = x ++ lineFeed ∧ '\n' ∉ x

inductive HeaderBlock : List Text → Prop where
  | last {line} (blank : line = crlf ∨ line = lineFeed) : HeaderBlock [line]
  | cons {line lines} (ended : Terminated line) (more : ¬ (line = crlf ∨ line = lineFeed))
      (rest : HeaderBlock lines) : HeaderBlock (line::lines)

def scanLengths (u : CaseMapping) (contentLength : Nat) (lines : List Text) : Nat :=
  lines.foldl (fun contentLength line => (scannedLength u line).getD contentLength) contentLength

theorem readHeadersSpec {u : CaseMapping} {stream line rest : List Byte} {before contentLength : Nat}
    {lines : List Text} (unbroken : (0x0A : Byte) ∉ line)
    (ok : readHeaders u line before stream = some (lines,contentLength,rest)) :
    line ++ stream = Utf8.encode lines.flatten ++ rest ∧ HeaderBlock lines ∧
      contentLength = scanLengths u before lines := by
  induction stream generalizing line before lines contentLength with
  | nil => contradiction
  | cons b stream ih =>
    rw [readHeaders] at ok
    split at ok
    · rename_i other
      have longer : (0x0A : Byte) ∉ line ++ [b] := by simp [unbroken,Ne.symm other]
      obtain ⟨bytes,block,length⟩ := ih longer ok
      exact ⟨by rw [← bytes,List.append_assoc]; rfl,block,length⟩
    · rename_i same
      have same : b = 0x0A := not_not.mp same
      subst same
      split at ok
      · contradiction
      · rename_i text decoded
        have bytes := Utf8.decodeIff.mp decoded
        dsimp only at ok
        split at ok
        · rename_i blank
          cases ok
          refine ⟨?_,.last blank,rfl⟩
          rw [List.flatten_singleton,bytes,List.append_assoc]
          rfl
        · rename_i more
          obtain ⟨⟨_,_,_⟩,tail,equal⟩ := Option.map_eq_some_iff.mp ok
          cases equal
          obtain ⟨bytes',block,length⟩ := ih (by simp) tail
          refine ⟨?_,.cons (Utf8.decodeLine unbroken decoded) more block,length⟩
          rw [List.flatten_cons,Utf8.encodeAppend,bytes,List.append_assoc,List.append_assoc,← bytes']
          rfl

theorem readRequestSpec {u : CaseMapping} {stream : List Byte} {f : Framed} (ok : readRequest u stream = some f) :
    stream = Utf8.encode f.header ++ f.bodyBytes ++ f.rest ∧ HeaderBlock f.lines ∧
      f.contentLength = scanLengths u 0 f.lines ∧ f.bodyBytes.length = f.contentLength := by
  unfold readRequest at ok
  split at ok
  · contradiction
  · rename_i lines contentLength rest read
    obtain ⟨bytes,block,length⟩ := readHeadersSpec (by simp) read
    split at ok
    · contradiction
    · rename_i enough
      cases ok
      refine ⟨?_,block,length,List.length_take_of_le (by omega)⟩
      rw [List.append_assoc,List.take_append_drop]
      exact bytes

theorem interleavedKind {stream : List Byte} {f : Framed} : readInterleaved stream ≠ some (.request f) := by
  intro read
  unfold readInterleaved at read
  split at read
  · dsimp only at read
    split at read <;> simp at read
  · contradiction

theorem nextRequest {u : CaseMapping} {stream : List Byte} {f : Framed}
    (next : nextMessage u stream = some (.request f)) : readRequest u stream = some f := by
  unfold nextMessage at next
  split at next
  · contradiction
  · split at next
    · exact (interleavedKind next).elim
    · obtain ⟨f',read,same⟩ := Option.map_eq_some_iff.mp next
      cases same
      exact read

end Vscreen.Rtsp
