import Vscreen.CdpProtocol
import Vscreen.Machine
import Vscreen.Table

/-! Requests and responses of the CDP client (client.rs): the callers of
`send_command_and_wait`, the reader task, and the table of pending requests they
share. A step runs from one point where others can interleave to the next. -/
namespace Vscreen.Cdp

abbrev CallerId := Nat

def defaultRequestTimeoutMs : Nat := 15000

section Client
variable (Value : Type)

inductive Reply where
  | awaited
  | message (msg : CdpMessage Value)
  | dropped
  deriving DecidableEq, Repr

inductive Resolution where
  | answered (msg : CdpMessage Value)
  | failed (error : CdpError)
  deriving DecidableEq, Repr

inductive Phase where
  | drawn
  | sending
  | waiting
  | leaving (error : CdpError)
  | resolved (resolution : Resolution Value)
  deriving DecidableEq, Repr

structure Call where
  id : MessageId
  phase : Phase Value
  reply : Reply Value
  deriving DecidableEq, Repr

-- `drawn` counts the ids ever drawn from `NEXT_ID`, by any request of any client.
structure CdpClient where
  nextId : MessageId
  drawn : Nat
  pendingRequests : Table MessageId CallerId
  calls : Table CallerId (Call Value)

inductive Event where
  | draw (c : CallerId)
  | drawOther
  | insert (c : CallerId)
  | sent (c : CallerId)
  | sendFailed (c : CallerId)
  | timeout (c : CallerId)
  | leave (c : CallerId)
  | wake (c : CallerId)
  | message (msg : CdpMessage Value)
  | clear (ids : List MessageId)

structure Resolved where
  caller : CallerId
  resolution : Resolution Value
  deriving DecidableEq, Repr

end Client

variable {Value : Type}

def Resolution.result : Resolution Value → Except CdpError (CdpMessage Value)
  | .failed error => .error error
  | .answered msg => match msg.error with
    | some err => .error (.protocol ("CDP error ".toList ++ (toString err.code).toList ++ ": ".toList ++ err.message))
    | none => .ok msg

def Phase.listening : Phase Value → Bool
  | .sending => true
  | .waiting => true
  | _ => false

namespace CdpClient

def start : CdpClient Value := ⟨firstMessageId,0,∅,∅⟩

def deliver (s : CdpClient Value) (c : CallerId) (reply : Reply Value) : CdpClient Value :=
  match s.calls.get c with
  | none => s
  | some x => if x.phase.listening then {s with calls := s.calls.put c {x with reply := reply}} else s

def answer (s : CdpClient Value) (reply : Reply Value) (id : MessageId) : CdpClient Value :=
  match s.pendingRequests.get id with
  | none => s
  | some c => deliver {s with pendingRequests := s.pendingRequests.del id} c reply

def handleMessage (s : CdpClient Value) (msg : CdpMessage Value) : CdpClient Value :=
  match msg.id with
  | none => s
  | some id => s.answer (.message msg) id

def drawId (s : CdpClient Value) : CdpClient Value := {s with nextId := s.nextId + 1, drawn := s.drawn + 1}

def setCall (s : CdpClient Value) (c : CallerId) (x : Call Value) : CdpClient Value := {s with calls := s.calls.put c x}

def insertEntry (s : CdpClient Value) (c : CallerId) (x : Call Value) : CdpClient Value :=
  let s := (s.answer .dropped x.id).setCall c {x with phase := .sending}
  {s with pendingRequests := s.pendingRequests.put x.id c}

def advance (s : CdpClient Value) (c : CallerId) (x : Call Value) (phase : Phase Value) :
    Option (CdpClient Value × List (Resolved Value)) := some (s.setCall c {x with phase := phase},[])

def resolve (s : CdpClient Value) (c : CallerId) (x : Call Value) (r : Resolution Value) :
    Option (CdpClient Value × List (Resolved Value)) := some (s.setCall c {x with phase := .resolved r},[⟨c,r⟩])

def callStep (s : CdpClient Value) (c : CallerId) (x : Call Value) :
    Event Value → Option (CdpClient Value × List (Resolved Value))
  | .insert _ => match x.phase with
    | .drawn => some (s.insertEntry c x,[])
    | _ => none
  | .sent _ => match x.phase with
    | .sending => s.advance c x .waiting
    | _ => none
  | .sendFailed _ => match x.phase with
    | .sending => s.advance c x (.leaving .connectionLost)
    | _ => none
  | .timeout _ => match x.phase,x.reply with
    | .waiting,.awaited => s.advance c x (.leaving (.timeout defaultRequestTimeoutMs))
    | _,_ => none
  | .leave _ => match x.phase with
    | .leaving error => resolve {s with pendingRequests := s.pendingRequests.del x.id} c x (.failed error)
    | _ => none
  | .wake _ => match x.phase,x.reply with
    | .waiting,.message msg => s.resolve c x (.answered msg)
    | .waiting,.dropped => s.resolve c x (.failed .connectionLost)
    | _,_ => none
  | _ => none

def callerOf : Event Value → Option CallerId
  | .insert c => some c
  | .sent c => some c
  | .sendFailed c => some c
  | .timeout c => some c
  | .leave c => some c
  | .wake c => some c
  | _ => none

def step (s : CdpClient Value) (e : Event Value) : Option (CdpClient Value × List (Resolved Value)) :=
  match e with
  | .draw c => match s.calls.get c with
    | none => some (s.drawId.setCall c ⟨s.nextId,.drawn,.awaited⟩,[])
    | some _ => none
  | .drawOther => some (s.drawId,[])
  | .message msg => some (s.handleMessage msg,[])
  | .clear ids => some (ids.foldl (answer · .dropped) s,[])
  | e => match callerOf e with
    | none => none
    | some c => match s.calls.get c with
      | none => none
      | some x => s.callStep c x e

def machine (Value : Type) : Machine (CdpClient Value) (Event Value) (Resolved Value) := ⟨start,step⟩

end CdpClient
end Vscreen.Cdp
