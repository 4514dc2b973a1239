import Vscreen.SerdeJson
import Vscreen.Utf8Cut

/-! The texts of a page that the MCP tools cut short (mcp/workflow.rs and
mcp/observation.rs). The pretty printer of serde_json is a parameter. `none` is a panic. -/
namespace Vscreen.Mcp
open Utf8 (byteLength sliceTo)

def cutShort (limit : Nat) (mark text : Text) : Option Text :=
  if limit < byteLength text then (sliceTo text limit).map (· ++ mark) else some text

def ellipsis : Text := "...".toList

def textPreview (extractText : Option Bool) (textResult : Option Serde) : Option (Option Text) :=
  if extractText = some true then
    let fullText := (textResult.bind Serde.asString).getD []
    (cutShort 2000 ellipsis fullText).map some
  else some none

def textExcerpt (includeText : Option Bool) (textResult : Option Serde) : Option (Option Text) :=
  if includeText ≠ some false then match textResult.bind Serde.asString with
    | none => some none
    | some s => (cutShort 1500 ellipsis s).map some
  else some none

def treeMark (text : Text) : Text :=
  "...\n(truncated, ".toList ++ Text.decimal (byteLength text) ++ " bytes total)".toList

def framesMark : Text := "\n... (truncated)".toList

section Pretty
variable (toStringPretty : Serde → Text)

def vscreenAccessibilityTree (treeResult jsResult : Except Text Serde) : Option (Except Text Text) := match treeResult with
  | .ok response =>
    let text := toStringPretty response
    (cutShort 50000 (treeMark text) text).map .ok
  | .error _ => match jsResult with
    | .error e => some (.error e)
    | .ok result => some (.ok (toStringPretty result))

def framesText (frameTree rectsResult : Serde) : Text :=
  "Frame tree:\n".toList ++ toStringPretty frameTree ++ "\n\nIframe bounding rects:\n".toList ++
    rectsResult.asString.getD "[]".toList

def vscreenListFrames (frameTree rectsResult : Serde) : Option Text :=
  cutShort 8000 framesMark (framesText toStringPretty frameTree rectsResult)

end Pretty

inductive Truncation where
  | browse (fullText : Text)
  | observe (s : Text)
  | accessibilityTree (toStringPretty : Serde → Text) (response : Serde) (jsResult : Except Text Serde)
  | listFrames (toStringPretty : Serde → Text) (frameTree rectsResult : Serde)

namespace Truncation

def text : Truncation → Text
  | browse fullText => fullText
  | observe s => s
  | accessibilityTree toStringPretty response _ => toStringPretty response
  | listFrames toStringPretty frameTree rectsResult => framesText toStringPretty frameTree rectsResult

def limit : Truncation → Nat
  | browse _ => 2000
  | observe _ => 1500
  | accessibilityTree .. => 50000
  | listFrames .. => 8000

def mark : Truncation → Text
  | browse _ => ellipsis
  | observe _ => ellipsis
  | accessibilityTree toStringPretty response _ => treeMark (toStringPretty response)
  | listFrames .. => framesMark

def returned : Truncation → Option Text
  | browse fullText => (textPreview (some true) (some (.string fullText))).join
  | observe s => (textExcerpt none (some (.string s))).join
  | accessibilityTree toStringPretty response jsResult =>
    (vscreenAccessibilityTree toStringPretty (.ok response) jsResult).bind Except.toOption
  | listFrames toStringPretty frameTree rectsResult => vscreenListFrames toStringPretty frameTree rectsResult

/-- The whole text where it is short enough, and else whole characters of it and the mark. -/
def Right (t : Truncation) : Prop :=
  if byteLength t.text ≤ t.limit then t.returned = some t.text
  else ∃ shown, shown <+: t.text ∧ byteLength shown ≤ t.limit ∧ t.returned = some (shown ++ t.mark)

theorem joined (r : Option Text) : (r.map some).join = r := by cases r <;> rfl

theorem answered (r : Option Text) : (r.map (Except.ok (ε := Text))).bind Except.toOption = r := by cases r <;> rfl

theorem stringRead (s : Text) : (some (Serde.string s)).bind Serde.asString = some s := rfl

theorem returnedCut (t : Truncation) : t.returned = cutShort t.limit t.mark t.text := by
  cases t with
  | browse fullText => simp only [returned,textPreview,stringRead,if_true,Option.getD_some,joined,limit,mark,text]
  | observe s =>
    have wanted : (none : Option Bool) ≠ some false := by decide
    simp only [returned,textExcerpt,if_pos wanted,stringRead,joined,limit,mark,text]
  | accessibilityTree toStringPretty response jsResult =>
    simp only [returned,vscreenAccessibilityTree,answered,limit,mark,text]
  | listFrames toStringPretty frameTree rectsResult => simp only [returned,vscreenListFrames,limit,mark,text]

theorem textsCutRight (t : Truncation) :
    t.Right ↔ byteLength t.text ≤ t.limit ∨ ∃ front, front <+: t.text ∧ byteLength front = t.limit := by
  rw [Right,returnedCut,cutShort]
  split
  · rename_i short
    exact iff_of_true (if_neg (Nat.not_lt.mpr short)) (.inl short)
  · rename_i long
    rw [if_pos (Nat.not_le.mp long)]
    constructor
    · rintro ⟨shown,-,-,same⟩
      obtain ⟨front,sliced,-⟩ := Option.map_eq_some_iff.mp same
      exact .inr ⟨front,Utf8.sliceToSome.mp sliced⟩
    · rintro (short | ⟨front,start,bytes⟩)
      · exact (long short).elim
      · exact ⟨front,start,bytes.le,by rw [Utf8.sliceToSome.mpr ⟨start,bytes⟩]; rfl⟩

end Truncation

theorem plainBytes (n : Nat) : byteLength (List.replicate n 'a') = n := by
  induction n with
  | zero => rfl
  | succ n ih =>
    rw [List.replicate_succ,Utf8.byteLengthCons,ih]
    have one : 'a'.utf8Size = 1 := by decide
    omega

theorem straddled (n : Nat) : sliceTo (List.replicate n 'a' ++ ['é']) (n + 1) = none := by
  rw [Option.eq_none_iff_forall_ne_some]
  intro front sliced
  obtain ⟨start,bytes⟩ := Utf8.sliceToSome.mp sliced
  rcases List.prefix_concat_iff.mp start with rfl | inside
  · rw [Utf8.byteLengthAppend,plainBytes] at bytes
    exact absurd (Nat.add_left_cancel bytes) (by decide)
  · obtain ⟨back,same⟩ := inside
    have whole := congrArg byteLength same
    rw [Utf8.byteLengthAppend,plainBytes] at whole
    omega

theorem longPreviewPanics : ¬ (Truncation.browse (List.replicate 1999 'a' ++ ['é'])).Right ∧
    ¬ (Truncation.observe (List.replicate 1499 'a' ++ ['é'])).Right := by
  have cut (n : Nat) (mark : Text) : cutShort (n + 1) mark (List.replicate n 'a' ++ ['é']) = none := by
    have bytes : n + 1 < byteLength (List.replicate n 'a' ++ ['é']) := by
      have two : byteLength ['é'] = 2 := by decide
      rw [Utf8.byteLengthAppend,plainBytes,two]
      omega
    rw [cutShort,if_pos bytes,straddled]
    rfl
  have failed (t : Truncation) (nothing : t.returned = none) : ¬ t.Right := by
    rw [Truncation.Right,nothing]
    split
    · exact fun absent => by cases absent
    · rintro ⟨shown,-,-,absent⟩
      cases absent
  exact ⟨failed _ (by rw [Truncation.returnedCut]; exact cut 1999 _),
    failed _ (by rw [Truncation.returnedCut]; exact cut 1499 _)⟩

end Vscreen.Mcp
