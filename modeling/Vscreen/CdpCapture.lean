import Mathlib.Data.Rat.Floor
import Vscreen.CdpProtocol
import Vscreen.SerdeJson

/-! The full-page screenshot of client.rs and what it leaves of the page: where the page
is scrolled to, and the device metrics that Chrome was told to use. What Chrome answers
to each command is an argument. -/
namespace Vscreen.Cdp
open Text

structure Scroll where
  x : ℚ
  y : ℚ
  deriving DecidableEq

def Scroll.top : Scroll := ⟨0,0⟩

structure DeviceMetrics where
  width : UInt32
  height : UInt32
  deriving DecidableEq, Repr

structure Page where
  scroll : Scroll
  metrics : Option DeviceMetrics
  deriving DecidableEq

structure Layout where
  settle : DeviceMetrics → Scroll → Scroll
  top : ∀ m, settle m .top = .top

inductive Command where
  | scrollTo (position : Scroll)
  | setDeviceMetricsOverride (m : DeviceMetrics)
  | captureScreenshot (format : Text) (quality : Option UInt32)
  | clearDeviceMetricsOverride
  deriving DecidableEq

def Page.after (layout : Layout) (page : Page) : Command → Page
  | .scrollTo position => {page with scroll := position}
  | .setDeviceMetricsOverride m => ⟨layout.settle m page.scroll,some m⟩
  | .captureScreenshot _ _ => page
  | .clearDeviceMetricsOverride => {page with metrics := none}

inductive Answer (α : Type) where
  | done (value : α)
  | failedBefore (error : CdpError)
  | failedAfter (error : CdpError)
  deriving DecidableEq, Repr

namespace Answer
variable {α : Type}

def took : Answer α → Bool
  | done _ => true
  | failedBefore _ => false
  | failedAfter _ => true

def result : Answer α → Except CdpError α
  | done v => .ok v
  | failedBefore e => .error e
  | failedAfter e => .error e

end Answer

def Page.sent {α : Type} (layout : Layout) (page : Page) (c : Command) (answer : Answer α) : Page :=
  if answer.took then page.after layout c else page

structure Answers where
  documentSize : Except CdpError Serde
  scrolled : Answer Serde
  overridden : Answer (CdpMessage Serde)
  captured : Answer (CdpMessage Serde)

def capped (x : ℚ) : UInt32 := .ofNat ⌊min x 16384⌋.toNat

def documentMetrics (fromStr : Text → Except Text Serde) (dims : Except CdpError Serde) : Except CdpError DeviceMetrics :=
  match dims with
  | .error e => .error e
  | .ok dims => match dims.asString with
    | none => .error (.protocol "unexpected type for document dimensions".toList)
    | some text => match fromStr text with
      | .error e => .error (.protocol ("failed to parse dimensions: ".toList ++ e))
      | .ok obj =>
        let contentWidth := ((obj.get "w".toList).bind Serde.asF64).getD 1920
        let contentHeight := ((obj.get "h".toList).bind Serde.asF64).getD 1080
        .ok ⟨capped contentWidth,capped contentHeight⟩

def imageOf (decode : Text → Except Text (List UInt8)) (response : CdpMessage Serde) : Except CdpError (List UInt8) :=
  match (response.result.bind (·.get "data".toList)).bind Serde.asString with
  | none => .error (.protocol "missing screenshot data in response".toList)
  | some data => match decode data with
    | .error e => .error (.protocol ("base64 decode failed: ".toList ++ e))
    | .ok decoded => .ok decoded

section Capture
variable (layout : Layout) (fromStr : Text → Except Text Serde) (decode : Text → Except Text (List UInt8))

-- The answer to the scrolling is ignored, and clearing the override takes effect.
def captureFullPageScreenshot (page : Page) (format : Text) (quality : Option UInt32) (answers : Answers) :
    Page × Except CdpError (List UInt8) :=
  match documentMetrics fromStr answers.documentSize with
  | .error e => (page,.error e)
  | .ok m =>
    let page := page.sent layout (.scrollTo .top) answers.scrolled
    let page := page.sent layout (.setDeviceMetricsOverride m) answers.overridden
    match answers.overridden.result with
    | .error e => (page,.error e)
    | .ok _ =>
      let page := page.sent layout (.captureScreenshot format quality) answers.captured
      let page := page.after layout .clearDeviceMetricsOverride
      (page,answers.captured.result.bind (imageOf decode))

def Unchanged (scroll : Scroll) (page : Page) : Prop := page.metrics = none ∧ page.scroll = scroll

/-- What was changed on the way had no effect or was undone. -/
structure Undone (scroll : Scroll) (m : DeviceMetrics) (answers : Answers) : Prop where
  atTop : answers.scrolled.took = true → scroll = .top
  settled : answers.overridden.took = true → layout.settle m scroll = scroll
  cleared : ∀ e, answers.overridden ≠ .failedAfter e

def lastScroll (scroll : Scroll) (m : DeviceMetrics) (answers : Answers) : Scroll :=
  let scroll := if answers.scrolled.took then .top else scroll
  if answers.overridden.took then layout.settle m scroll else scroll

theorem lastScrollIff {scroll : Scroll} {m : DeviceMetrics} {answers : Answers} :
    lastScroll layout scroll m answers = scroll ↔
      (answers.scrolled.took = true → scroll = .top) ∧
        (answers.overridden.took = true → layout.settle m scroll = scroll) := by
  rw [lastScroll]
  cases answers.scrolled.took with
  | false => cases answers.overridden.took <;> simp
  | true =>
    -- the top is where every layout leaves the page
    cases answers.overridden.took with
    | false => simpa using eq_comm
    | true =>
      simp only [if_true,layout.top,forall_const]
      constructor
      · rintro rfl
        exact ⟨rfl,layout.top m⟩
      · exact fun both => both.1.symm

theorem lastPage {m : DeviceMetrics} {answers : Answers} (read : documentMetrics fromStr answers.documentSize = .ok m)
    (scroll : Scroll) (format : Text) (quality : Option UInt32) :
    (captureFullPageScreenshot layout fromStr decode ⟨scroll,none⟩ format quality answers).1 =
      ⟨lastScroll layout scroll m answers,match answers.overridden with | .failedAfter _ => some m | _ => none⟩ := by
  have looked (page : Page) : page.sent layout (.captureScreenshot format quality) answers.captured = page := by
    rw [Page.sent]
    split <;> rfl
  have moved : Page.sent layout ⟨scroll,none⟩ (.scrollTo .top) answers.scrolled =
      ⟨if answers.scrolled.took then .top else scroll,none⟩ := by
    rw [Page.sent]
    split <;> rfl
  rw [captureFullPageScreenshot,read,lastScroll]
  dsimp only
  rw [looked,moved]
  cases answers.overridden <;> rfl

theorem screenshotRestores (scroll : Scroll) (format : Text) (quality : Option UInt32) (answers : Answers) :
    Unchanged scroll (captureFullPageScreenshot layout fromStr decode ⟨scroll,none⟩ format quality answers).1 ↔
      ∀ m, documentMetrics fromStr answers.documentSize = .ok m → Undone layout scroll m answers := by
  cases read : documentMetrics fromStr answers.documentSize with
  | error e =>
    rw [captureFullPageScreenshot,read]
    exact iff_of_true ⟨rfl,rfl⟩ fun m absent => by cases absent
  | ok m =>
    rw [Unchanged,lastPage layout fromStr decode read,lastScrollIff]
    constructor
    · rintro ⟨cleared,atTop,settled⟩ m' same
      cases same
      exact ⟨atTop,settled,fun e lost => by rw [lost] at cleared; cases cleared⟩
    · intro undone
      obtain ⟨atTop,settled,cleared⟩ := undone m rfl
      refine ⟨?_,atTop,settled⟩
      cases lost : answers.overridden with
      | failedAfter e => exact absurd lost (cleared e)
      | _ => rfl

end Capture

def tallPage : Layout :=
  ⟨fun m p => ⟨min p.x (max 0 (1000 - m.width.toNat)),min p.y (max 0 (4000 - m.height.toNat))⟩,
    fun m => by simp [Scroll.top]⟩

theorem pageLeftChanged :
    let fromStr := fun _ : Text =>
      .ok (.object [("w".toList,.number (.posInt 1000)),("h".toList,.number (.posInt 4000))])
    let decode := fun _ : Text => .ok [0x89]
    let image : CdpMessage Serde := ⟨some 4,none,some (.object [("data".toList,.string "iQ==".toList)]),none,none⟩
    let succeeds : Answers := ⟨.ok (.string "\x7b\"w\":1000,\"h\":4000\x7d".toList),.done .null,
      .done ⟨some 3,none,some (.object []),none,none⟩,.done image⟩
    let lost : Answers := {succeeds with overridden := .failedAfter (.timeout 15000)}
    ¬ Unchanged ⟨0,500⟩ (captureFullPageScreenshot tallPage fromStr decode ⟨⟨0,500⟩,none⟩ "png".toList none succeeds).1 ∧
      ¬ Unchanged .top (captureFullPageScreenshot tallPage fromStr decode ⟨.top,none⟩ "png".toList none lost).1 := by
  intro fromStr decode image succeeds lost
  constructor
  · rintro ⟨-,back⟩
    rw [lastPage tallPage fromStr decode rfl] at back
    have atTop : (⟨0,500⟩ : Scroll) = .top := ((@lastScrollIff tallPage _ _ succeeds).mp back).1 rfl
    exact absurd atTop (by decide)
  · rintro ⟨cleared,-⟩
    rw [lastPage tallPage fromStr decode rfl] at cleared
    cases cleared

end Vscreen.Cdp
