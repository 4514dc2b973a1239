import Mathlib.Data.List.Forall2
import Vscreen.ProxyForwarding
import Vscreen.ProxyLoop

/-! What a request through the MCP proxy is answered with, for every way its POST
can come out. The loop forwards bodies as they are, so that a request is answered
exactly when the body has the form of one line. -/
namespace Vscreen.Proxy
open Text Json

structure Document where
  before : Text
  core : Text
  after : Text
  spaceBefore : ∀ c ∈ before, isSpace c = true
  spaceAfter : ∀ c ∈ after, isSpace c = true
  bare : Trimmed core
  value : Value
  parsed : parse core = some value

def Document.text (d : Document) : Text := d.before ++ d.core ++ d.after

inductive Outcome (id : RequestId) where
  | sendFailed (error : Text)
  | errorStatus (status : Nat) (failed : 400 ≤ status) (body : Text)
  | json (body : Document) (responds : isResponse id body.value = true)
  | unreadable
  | events (events : List Event) (responds : ((payloads events).filter (answers id)).length = 1)

/-- The outcomes after which a request is answered, whatever else the network does. -/
def Served {id : RequestId} : Outcome id → Prop
  | .sendFailed _ => False
  | .errorStatus _ _ body => ((split '\n' (trim body)).filter (answers id)).length = 1 ∧
      ∀ line ∈ split '\n' (trim body), isJson line = true
  | .json body _ => '\n' ∉ body.core
  | .unreadable => False
  | .events events _ => Utf8.Ascii (streamText events)

structure Exchange where
  id : RequestId
  request : Document
  oneLine : '\n' ∉ request.before ++ request.core
  asks : isRequest id request.value = true
  outcome : Outcome id

section Failed

end Failed

section Bodies

end Bodies

end Vscreen.Proxy
