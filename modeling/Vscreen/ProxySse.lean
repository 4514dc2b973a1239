import Vscreen.Json
import Vscreen.Utf8

/-! The SSE side of the MCP proxy (mcp_proxy.rs): the chunks of a response body,
the buffer they are decoded into, and the lines that are written to stdout. A
write is the argument of one `write_line`. -/
namespace Vscreen.Proxy
open Text

def writeLine (data : Text) : Text := data ++ ['\n']

def stdout (writes : List Text) : Text := writes.flatMap writeLine

def blankLine : Text := ['\n','\n']

def dataPrefix : Text := "data:".toList

def dataOf (line : Text) : Option Text := match stripPrefix dataPrefix line with
  | none => none
  | some data => if (trim data).isEmpty then none else some (trim data)

def writeData (block : Text) : List Text := (lines block).filterMap dataOf

def drain : Nat → Text → List Text × Text
  | 0,buffer => ([],buffer)
  | fuel+1,buffer => match cut blankLine buffer with
    | none => ([],buffer)
    | some (block,rest) => (writeData block ++ (drain fuel rest).1,(drain fuel rest).2)

structure SseReader where
  buffer : Text
  written : List Text
  deriving DecidableEq, Repr

def readChunk (r : SseReader) (chunk : List Byte) : SseReader := match Utf8.decode chunk with
  | none => r
  | some text =>
    let drained := drain (r.buffer ++ text).length (r.buffer ++ text)
    ⟨drained.2,r.written ++ drained.1⟩

def readStream (r : SseReader) : List (Option (List Byte)) → SseReader
  | [] => r
  | none::_ => r
  | some chunk::rest => readStream (readChunk r chunk) rest

def startReader : SseReader := ⟨[],[]⟩

def handleSseResponse (stream : List (Option (List Byte))) : List Text :=
  let r := readStream startReader stream
  if r.buffer.isEmpty then r.written else r.written ++ writeData r.buffer

def runSseListener (response : Except Text (Nat × List (Option (List Byte)))) : Except Text Unit × List Text :=
  match response with
  | .error e => (.error ("SSE GET failed: ".toList ++ e),[])
  | .ok (status,stream) =>
    if 200 ≤ status ∧ status < 300 then (.ok (),handleSseResponse stream)
    else if status = 405 then (.ok (),[])
    else (.error ("SSE GET returned ".toList ++ decimal status),[])

section Lines

end Lines

section Drain

end Drain
end Vscreen.Proxy
