import Vscreen.Text

/-! The messages of the Chrome DevTools Protocol that vscreen-cdp sends and receives
(protocol.rs). The values in results, errors and event parameters stay abstract. -/
namespace Vscreen.Cdp
open Text

abbrev MessageId := UInt64

def firstMessageId : MessageId := 1

inductive Field where
  | string (value : Text)
  | number (value : UInt32)
  deriving DecidableEq, Repr

abbrev Params := List (Text × Field)

structure CdpRequest where
  id : MessageId
  method : Text
  params : Option Params
  deriving DecidableEq, Repr

structure CdpErrorPayload where
  code : Int
  message : Text
  data : Option Text
  deriving DecidableEq, Repr

structure CdpMessage (Value : Type) where
  id : Option MessageId
  method : Option Text
  result : Option Value
  error : Option CdpErrorPayload
  params : Option Value
  deriving DecidableEq, Repr

inductive CdpError where
  | connectionLost
  | protocol (reason : Text)
  | screencast (reason : Text)
  | timeout (ms : Nat)
  deriving DecidableEq, Repr

structure StartScreencastParams where
  format : Text
  maxWidth : UInt32
  maxHeight : UInt32
  everyNthFrame : UInt32
  quality : UInt32
  deriving DecidableEq, Repr

def StartScreencastParams.toValue (p : StartScreencastParams) : Params :=
  [("format".toList,.string p.format),("maxWidth".toList,.number p.maxWidth),("maxHeight".toList,.number p.maxHeight),
    ("everyNthFrame".toList,.number p.everyNthFrame),("quality".toList,.number p.quality)]

end Vscreen.Cdp
