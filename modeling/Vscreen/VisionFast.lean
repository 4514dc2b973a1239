import Vscreen.VisionStream

/-! `parse_response` of the vision client (vscreen-server, vision.rs), and what it makes
of an answer that `call_ollama_fast` cuts off beside the whole answer. -/
namespace Vscreen.Vision
open Text

structure ClickTarget where
  x : ℚ
  y : ℚ
  description : Option Text
  confidence : Option ℚ
  deriving DecidableEq

def asBool : Serde → Option Bool
  | .bool b => some b
  | _ => none

def clickTarget (parsed : Serde) : Option ClickTarget :=
  match (parsed.get "x".toList).bind Serde.asF64,(parsed.get "y".toList).bind Serde.asF64 with
  | some x,some y => some ⟨x,y,(parsed.get "description".toList).bind Serde.asString,
      (parsed.get "confidence".toList).bind Serde.asF64⟩
  | _,_ => none

def foundInProse (u : CaseMapping) (text : Text) : Bool :=
  ["not found".toList,"no ".toList,"\"found\": false".toList,"found: false".toList].all
    fun word => !decide (word <:+: u.toLowercase text)

def foundIn (parsed : Serde) : Bool := ((parsed.get "found".toList).bind asBool).getD true

def said (reader : SerdeReader) (u : CaseMapping) (text block : Text) : Bool × Option ClickTarget :=
  match reader.value block with
  | some parsed => (foundIn parsed,clickTarget parsed)
  | none => (foundInProse u text,none)

section Fences
variable {p rest : Text} {block : Text}

end Fences

section Loops
variable {reader : SerdeReader} {clock : Clock}

end Loops

structure Piece where
  content : Text
  escaped : Text
  done : Bool

def Piece.record (piece : Piece) : Text := recordFront ++ piece.escaped ++
  (if piece.done then recordBack else "\"\x7d,\"done\":false\x7d\n".toList)

def absentPiece : Piece :=
  ⟨"\x7b\"found\":false\x7d".toList,"\x7b\\\"found\\\":false\x7d".toList,false⟩

def openedPiece : Piece :=
  ⟨"```json\n\x7b\"found\":false\x7d".toList,"```json\\n\x7b\\\"found\\\":false\x7d".toList,false⟩

def closedPiece : Piece := ⟨"\n```\nDone.".toList,"\\n```\\nDone.".toList,true⟩

def blockPiece : Piece := ⟨"```json\n\x7b\x7d\n```".toList,"```json\\n\x7b\x7d\\n```".toList,true⟩

def bracePiece : Piece := ⟨"\x7ba\x7d".toList,"\x7ba\x7d".toList,false⟩

def refusalPiece : Piece := ⟨" is not found".toList," is not found".toList,true⟩

def pieces : List Piece := [absentPiece,openedPiece,closedPiece,blockPiece,bracePiece,refusalPiece]

end Vscreen.Vision
