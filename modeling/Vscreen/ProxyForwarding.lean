import Vscreen.ProxySse
import Vscreen.Utf8Cut

/-! Forwarding a server-sent event stream. A well-formed stream is a list of
events, each with one line of JSON data; the bytes reach the proxy in any cut. -/
namespace Vscreen.Proxy
open Text

inductive LineEnd where
  | lf
  | crlf
  deriving DecidableEq, Repr

def LineEnd.text : LineEnd → Text
  | .lf => ['\n']
  | .crlf => ['\r','\n']

def LineEnd.carriage : LineEnd → Text
  | .lf => []
  | .crlf => ['\r']

def OneLine (s : Text) : Prop := '\n' ∉ s ∧ '\r' ∉ s

structure OtherLine where
  content : Text
  ending : LineEnd
  oneLine : OneLine content
  name : content.takeWhile (· ≠ ':') ≠ "data".toList

structure DataLine where
  before : Text
  payload : Text
  after : Text
  ending : LineEnd
  spaceBefore : ∀ c ∈ before, c = ' ' ∨ c = '\t'
  spaceAfter : ∀ c ∈ after, c = ' ' ∨ c = '\t'
  json : (Json.parse payload).isSome = true
  bare : Trimmed payload
  oneLine : OneLine payload

structure Event where
  before : List OtherLine
  data : DataLine
  after : List OtherLine
  unbroken : ∀ l ∈ after, l.content ≠ []
  closing : LineEnd

def OtherLine.text (l : OtherLine) : Text := l.content ++ l.ending.text

def DataLine.content (l : DataLine) : Text := dataPrefix ++ (l.before ++ l.payload ++ l.after)

def DataLine.text (l : DataLine) : Text := l.content ++ l.ending.text

def Event.text (e : Event) : Text :=
  e.before.flatMap OtherLine.text ++ (e.data.text ++ (e.after.flatMap OtherLine.text ++ e.closing.text))

def streamText (events : List Event) : Text := events.flatMap Event.text

def payloads (events : List Event) : List Text := events.map (·.data.payload)

section Data

theorem blankSpace {c : Char} (blank : c = ' ' ∨ c = '\t') : isWhitespace c = true := by
  rcases blank with rfl | rfl <;> decide

end Data

section Prompt

end Prompt

section Cuts

end Cuts

def returned : Event where
  before := []
  data := ⟨[' '],['1'],[],.crlf,by simp,by simp,by decide,trimmedEnds (by decide) (by decide),⟨by decide,by decide⟩⟩
  after := []
  unbroken := by simp
  closing := .crlf

end Vscreen.Proxy
