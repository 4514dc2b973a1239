import Vscreen.ProxySse

/-! The stdin side of the MCP proxy (mcp_proxy.rs): the loop that posts every line
and writes what comes back, and the JSON-RPC messages that pass through it. What
the HTTP client answers to a POST is an input of the loop. -/
namespace Vscreen.Proxy
open Text

structure Response where
  status : Nat
  mcpSessionId : Option Text
  contentType : Option Text
  text : Option Text
  stream : List (Option (List Byte))

def eventStream : Text := "text/event-stream".toList

def Response.streams (r : Response) : Bool := (cut eventStream (r.contentType.getD [])).isSome

def postFailedStart : Text := "\x7b\"jsonrpc\":\"2.0\",\"error\":\x7b\"code\":-32603,\"message\":\"proxy POST failed: ".toList

def postFailedEnd : Text := "\"\x7d,\"id\":null\x7d".toList

def unquoted (e : Text) : Text := e.map fun c => if c = '"' then '\'' else c

def postFailed (e : Text) : Text := postFailedStart ++ unquoted e ++ postFailedEnd

def forward (http : Except Text Response) : List Text := match http with
  | .error e => [postFailed e]
  | .ok r =>
    if r.status = 202 then []
    else if r.streams then handleSseResponse r.stream
    else match r.text with
      | none => []
      | some body => if (trim body).isEmpty then [] else [trim body]

section Messages
open Json

inductive RequestId where
  | string (units : Units)
  | number (literal : Text)
  deriving DecidableEq, Repr

def RequestId.scalar : RequestId → Scalar
  | .string units => .string units
  | .number literal => .number literal

def isVersion (v : Value) : Bool := v.scalarAt "jsonrpc".toList = some (.string (unitsOf "2.0".toList))

def isRequest (id : RequestId) (v : Value) : Bool :=
  isVersion v && v.scalarAt "id".toList = some id.scalar &&
    match v.scalarAt "method".toList with
    | some (.string _) => true
    | _ => false

def isErrorObject (v : Value) : Bool :=
  match v.scalarAt "code".toList,v.scalarAt "message".toList with
  | some (.number _),some (.string _) => true
  | _,_ => false

def isResponse (id : RequestId) (v : Value) : Bool :=
  isVersion v && v.scalarAt "id".toList = some id.scalar &&
    match v.member "result".toList,v.member "error".toList with
    | some _,none => true
    | none,some error => isErrorObject error
    | _,_ => false

def answers (id : RequestId) (text : Text) : Bool := (parse text).any (isResponse id)

def isJson (text : Text) : Bool := (parse text).isSome

end Messages

def stdoutLines (writes : List Text) : List Text := (split '\n' (stdout writes)).dropLast

structure Answered (id : RequestId) (writes : List Text) : Prop where
  one : ((stdoutLines writes).filter (answers id)).length = 1
  json : ∀ line ∈ stdoutLines writes, isJson line = true

end Vscreen.Proxy
