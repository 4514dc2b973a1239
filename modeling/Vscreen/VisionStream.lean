import Vscreen.Utf8Lossy
import Vscreen.VisionText

/-! The answer of a vision model as a stream (vscreen-server, vision.rs): the loop over
the chunks of `call_ollama`, `call_ollama_fast` and `call_openai`, with what each of
them makes of a line. What serde_json reads of a text is a parameter, and so is the
clock. -/
namespace Vscreen.Vision
open Text

inductive VisionError where
  | unreachable (message : Text)
  | requestFailed (message : Text)
  | parseError (message : Text)
  deriving DecidableEq, Repr

structure OllamaMessage where
  content : Option Text
  thinking : Option Text

structure OllamaChatChunk where
  message : Option OllamaMessage
  done : Option Bool

structure OpenAiDelta where
  content : Option Text

structure OpenAiChoice where
  delta : Option OpenAiDelta

structure OpenAiChunk where
  choices : Option (List OpenAiChoice)

structure SerdeReader where
  value : Text → Option Serde
  ollama : Text → Option OllamaChatChunk
  openAi : Text → Option OpenAiChunk

inductive Step (σ : Type) where
  | next (s : σ)
  | done (result : Except VisionError Text)

section Loop
variable {σ : Type} (step : σ → Text → Step σ) (finish : σ → Text)

def drain : Nat → σ → Text → Step (σ × Text)
  | 0,s,buf => .next (s,buf)
  | fuel+1,s,buf => match splitOnce '\n' buf with
    | none => .next (s,buf)
    | some (line,rest) => match step s (trim line) with
      | .next s => drain fuel s rest
      | .done result => .done result

def readStream (s : σ) (buf : Text) : List (Except Text (List Byte)) → Except VisionError Text
  | [] => .ok (finish s)
  | .error e::_ => .error (.requestFailed e)
  | .ok chunk::rest =>
    let text := buf ++ Utf8.fromUtf8Lossy chunk
    match drain step text.length s text with
    | .next (s,buf) => readStream s buf rest
    | .done result => result

end Loop

section Lines
variable (reader : SerdeReader)

def ollamaError (line : Text) : Option Text :=
  (reader.value line).bind fun val => (val.get "error".toList).bind Serde.asString

def OllamaChatChunk.content (chunk : OllamaChatChunk) : Text :=
  ((chunk.message.bind OllamaMessage.content).getD [])

def OllamaChatChunk.thinks (chunk : OllamaChatChunk) : Bool :=
  !((chunk.message.bind OllamaMessage.thinking).getD []).isEmpty

def ollamaLine (fullText line : Text) : Step Text :=
  if line.isEmpty then .next fullText
  else match ollamaError reader line with
  | some err => .done (.error (.requestFailed ("Ollama error: ".toList ++ err)))
  | none => match reader.ollama line with
    | none => .next fullText
    | some chunk =>
      if chunk.done = some true then .done (.ok (fullText ++ chunk.content)) else .next (fullText ++ chunk.content)

structure FastState where
  fullText : Text
  thinkingTokens : UInt32
  records : Nat

structure Clock where
  callerTimeoutMs : UInt64
  elapsed : Nat → Nat

def Clock.thinkingAbortMs (clock : Clock) : UInt64 := max (clock.callerTimeoutMs * 75 / 100) 15000

def stuckThinking : VisionError := .requestFailed "model stuck in thinking phase, no content produced".toList

def FastState.read (s : FastState) (chunk : OllamaChatChunk) : FastState where
  fullText := s.fullText ++ chunk.content
  thinkingTokens := if chunk.thinks then s.thinkingTokens + 1 else s.thinkingTokens
  records := s.records + 1

def FastState.stuck (s : FastState) (clock : Clock) : Prop :=
  s.fullText.isEmpty ∧ 500 < s.thinkingTokens ∧ clock.thinkingAbortMs.toNat * 1000000 < clock.elapsed s.records

instance (s : FastState) (clock : Clock) : Decidable (s.stuck clock) := by unfold FastState.stuck; infer_instance

def EarlyExit (fullText : Text) : Prop := ¬ fullText.isEmpty ∧ (extractJson fullText).isSome

instance (fullText : Text) : Decidable (EarlyExit fullText) := by unfold EarlyExit; infer_instance

def fastLine (clock : Clock) (s : FastState) (line : Text) : Step FastState :=
  if line.isEmpty then .next s
  else match ollamaError reader line with
  | some err => .done (.error (.requestFailed ("Ollama error: ".toList ++ err)))
  | none => match reader.ollama line with
    | none => .next s
    | some chunk =>
      let s := s.read chunk
      if s.stuck clock then .done (.error stuckThinking)
      else if EarlyExit s.fullText then .done (.ok s.fullText)
      else if chunk.done = some true then .done (.ok s.fullText)
      else .next s

def OpenAiChunk.content (chunk : OpenAiChunk) : Text :=
  (chunk.choices.getD []).flatMap fun choice => (choice.delta.bind OpenAiDelta.content).getD []

def dataPrefix : Text := "data: ".toList

def openAiLine (fullText line : Text) : Step Text :=
  if line.isEmpty ∨ line = dataPrefix ++ "[DONE]".toList then .next fullText
  else match reader.openAi ((stripPrefix dataPrefix line).getD line) with
  | none => .next fullText
  | some chunk => .next (fullText ++ chunk.content)

end Lines

inductive Call where
  | ollama
  | ollamaFast (clock : Clock)
  | openAi

def Call.read (reader : SerdeReader) (stream : List (Except Text (List Byte))) : Call → Except VisionError Text
  | .ollama => readStream (ollamaLine reader) id [] [] stream
  | .ollamaFast clock => readStream (fastLine reader clock) FastState.fullText ⟨[],0,0⟩ [] stream
  | .openAi => readStream (openAiLine reader) id [] [] stream

section Lines
variable {σ : Type} {step : σ → Text → Step σ} {finish : σ → Text}

def readLines (step : σ → Text → Step σ) (s : σ) : List Text → Step σ
  | [] => .next s
  | line::lines => match step s line with
    | .next s => readLines step s lines
    | .done result => .done result

def Step.conclude (finish : σ → Text) : Step σ → Except VisionError Text
  | .next s => .ok (finish s)
  | .done result => result

end Lines

def Call.readLines (reader : SerdeReader) (lines : List Text) : Call → Except VisionError Text
  | .ollama => (Vision.readLines (ollamaLine reader) [] lines).conclude id
  | .ollamaFast clock => (Vision.readLines (fastLine reader clock) ⟨[],0,0⟩ lines).conclude FastState.fullText
  | .openAi => (Vision.readLines (openAiLine reader) [] lines).conclude id

def marks (s : Text) : Text := s.filter (· = Utf8.replacement)

def recordFront : Text := "\x7b\"message\":\x7b\"content\":\"".toList

def recordBack : Text := "\"\x7d,\"done\":true\x7d\n".toList

def lost : Text := [Utf8.replacement,Utf8.replacement]

end Vscreen.Vision
