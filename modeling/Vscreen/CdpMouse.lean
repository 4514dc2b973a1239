import Mathlib.Algebra.Ring.Nat
import Mathlib.Data.Finset.Erase
import Mathlib.Data.Finset.Insert
import Mathlib.Data.Rat.Defs
import Vscreen.Bytes

/-! Mouse input on its way to Chrome: the conversion of `InputEvent` (input.rs) and the
clicks of the API (handlers.rs, mcp/interaction.rs). Buttons are numbered as in the DOM
and Chrome has a mask of its own for them. -/
namespace Vscreen.Cdp

inductive MouseEventType where
  | mouseMoved
  | mousePressed
  | mouseReleased
  | mouseWheel
  deriving DecidableEq, Repr

inductive MouseButton where
  | left
  | middle
  | right
  | back
  | forward
  | none
  deriving DecidableEq, Repr

structure DispatchMouseEventParams where
  eventType : MouseEventType
  x : ℚ
  y : ℚ
  button : Option MouseButton
  buttons : Option UInt32
  clickCount : Option UInt32
  deltaX : Option ℚ
  deltaY : Option ℚ
  modifiers : UInt32
  deriving DecidableEq

inductive InputEvent where
  | mouseMove (x y : ℚ) (b : UInt16) (m : UInt8)
  | mouseDown (x y : ℚ) (b m : UInt8)
  | mouseUp (x y : ℚ) (b m : UInt8)
  | wheel (x y dx dy : ℚ) (m : UInt8)
  deriving DecidableEq

def buttonName (b : UInt8) : MouseButton := match b with
  | 0 => .left
  | 1 => .middle
  | 2 => .right
  | 3 => .back
  | 4 => .forward
  | _ => .none

-- `1 << b` of 32 bits. A shift by 32 or more is a panic in a debug build, and one by its
-- last five bits in a release build, as here.
def buttonShift (b : UInt8) : UInt32 := 1 <<< b.toUInt32

def inputToCdp : InputEvent → DispatchMouseEventParams
  | .mouseMove x y b m =>
    let buttons := if 0 < b then some b.toUInt32 else none
    let button :=
      if b &&& 1 ≠ 0 then some .left else if b &&& 2 ≠ 0 then some .right else if b &&& 4 ≠ 0 then some .middle
      else none
    ⟨.mouseMoved,x,y,button,buttons,none,none,none,m.toUInt32⟩
  | .mouseDown x y b m =>
    ⟨.mousePressed,x,y,some (buttonName b),some (buttonShift b),some 1,none,none,m.toUInt32⟩
  | .mouseUp x y b m => ⟨.mouseReleased,x,y,some (buttonName b),some 0,some 1,none,none,m.toUInt32⟩
  | .wheel x y dx dy m => ⟨.mouseWheel,x,y,none,none,none,some dx,some dy,m.toUInt32⟩

def clickName (btn : UInt8) : MouseButton := match btn with
  | 1 => .middle
  | 2 => .right
  | _ => .left

inductive Action where
  | press (b : UInt8)
  | release (b : UInt8)
  | other
  deriving DecidableEq, Repr

abbrev Produced := Action × DispatchMouseEventParams

def clickPair (x y : ℚ) (btn : UInt8) (count : UInt32) : List Produced :=
  [(.press btn,⟨.mousePressed,x,y,some (clickName btn),some (buttonShift btn),some count,none,none,0⟩),
    (.release btn,⟨.mouseReleased,x,y,some (clickName btn),some 0,some count,none,none,0⟩)]

def clickMove (x y : ℚ) : Produced := (.other,⟨.mouseMoved,x,y,none,none,none,none,none,0⟩)

def inputClick (x y : ℚ) (button : Option UInt8) (double : Option Bool) : List Produced :=
  let btn := button.getD 0
  clickMove x y::clickPair x y btn 1 ++ if double.getD false then clickPair x y btn 2 else []

def clickHelperSingle (x y : ℚ) (button : Option UInt8) : List Produced :=
  clickMove x y::clickPair x y (button.getD 0) 1

def InputEvent.action : InputEvent → Action
  | .mouseDown _ _ b _ => .press b
  | .mouseUp _ _ b _ => .release b
  | .mouseMove .. => .other
  | .wheel .. => .other

inductive MouseInput where
  | event (e : InputEvent)
  | inputClick (x y : ℚ) (button : Option UInt8) (double : Option Bool) (sent : Nat)
  | clickHelperSingle (x y : ℚ) (button : Option UInt8) (sent : Nat)

def MouseInput.produced : MouseInput → List Produced
  | .event e => [(e.action,inputToCdp e)]
  | .inputClick x y button double sent => (Cdp.inputClick x y button double).take sent
  | .clickHelperSingle x y button sent => (Cdp.clickHelperSingle x y button).take sent

/-- The buttons that are shifted by, whether or not the press then goes out: `input_click`
shifts when the event before the press is out, `click_helper_single` before its first. -/
def MouseInput.shifts : MouseInput → List UInt8
  | .event (.mouseDown _ _ b _) => [b]
  | .event _ => []
  | .inputClick _ _ button double sent =>
    (if 1 ≤ sent then [button.getD 0] else []) ++
      if double.getD false = true ∧ 3 ≤ sent then [button.getD 0] else []
  | .clickHelperSingle _ _ button _ => [button.getD 0]

abbrev Held := Finset UInt8

def chromeButtons : List (UInt8 × Nat) := [(0,1),(1,4),(2,2),(3,8),(4,16)]

def mask (held : Held) : Nat := (chromeButtons.map fun (b,bit) => if b ∈ held then bit else 0).sum

def Action.after (held : Held) : Action → Held
  | .press b => insert b held
  | .release b => held.erase b
  | .other => held

def InRange (b : UInt8) : Prop := b.toNat < 32

structure Sent where
  held : Held
  action : Action
  params : DispatchMouseEventParams

/-- A mask that is not sent is that of no button. An event that changes no button may
name any. -/
structure Sent.Right (o : Sent) : Prop where
  buttons : (o.params.buttons.getD 0).toNat = mask o.held
  pressed : ∀ b, o.action = .press b → o.params.button = some (buttonName b) ∧ InRange b
  released : ∀ b, o.action = .release b → o.params.button = some (buttonName b)

def sent : Held → List Produced → List Sent
  | _,[] => []
  | held,p::rest => ⟨p.1.after held,p.1,p.2⟩::sent (p.1.after held) rest

def heldAfter : Held → List Produced → Held
  | held,[] => held
  | held,p::rest => heldAfter (p.1.after held) rest

def Free (held : Held) : Prop := ∀ p ∈ chromeButtons, p.1 ∉ held

def clickFits (held : Held) (button : Option UInt8) (sent : Nat) : Prop :=
  (1 ≤ sent → Free held) ∧ (2 ≤ sent → button.getD 0 = 0)

def MouseInput.Fits (held : Held) : MouseInput → Prop
  | .event (.mouseMove _ _ b _) => b.toNat = mask held
  | .event (.mouseDown _ _ b _) => (b = 0 ∨ b = 3 ∨ b = 4) ∧ Free (held.erase b)
  | .event (.mouseUp _ _ b _) => Free (held.erase b)
  | .event (.wheel ..) => Free held
  | .inputClick _ _ button _ sent => clickFits held button sent ∧ (1 ≤ sent → InRange (button.getD 0))
  | .clickHelperSingle _ _ button sent => clickFits held button sent ∧ InRange (button.getD 0)

def AllFit : Held → List MouseInput → Prop
  | _,[] => True
  | held,i::rest => i.Fits held ∧ AllFit (heldAfter held i.produced) rest

section Masks
variable (held : Held) (b : UInt8)

def chromeBit : Nat := (chromeButtons.lookup b).getD 0

theorem bitsInsert {table : List (UInt8 × Nat)} (distinct : (table.map Prod.fst).Nodup) :
    (table.map fun (c,bit) => if c ∈ insert b held then bit else 0).sum =
      (table.lookup b).getD 0 + (table.map fun (c,bit) => if c ∈ held.erase b then bit else 0).sum := by
  induction table with
  | nil => rfl
  | cons entry rest ih =>
    obtain ⟨c,bit⟩ := entry
    obtain ⟨fresh,distinct⟩ := List.nodup_cons.mp distinct
    rw [List.map_cons,List.map_cons,List.sum_cons,List.sum_cons,ih distinct]
    by_cases same : b = c
    · subst same
      have absent : rest.lookup b = none := List.lookup_eq_none_iff.mpr fun p member => by
        simpa using fun same => fresh (List.mem_map.mpr ⟨p,member,same.symm⟩)
      simp [absent]
    · have apart : (b == c) = false := by simpa using same
      rw [List.lookup_cons,apart]
      simp only [Finset.mem_insert,Finset.mem_erase,Ne.symm same,false_or,ne_eq,not_false_eq_true,true_and]
      omega

theorem maskInsert : mask (insert b held) = chromeBit b + mask (held.erase b) := bitsInsert held b (by decide)

theorem maskZero : mask held = 0 ↔ Free held := by
  simp [mask,Free,chromeButtons]

theorem maskBound : mask held < 32 := by
  simp only [mask,chromeButtons,List.map_cons,List.map_nil,List.sum_cons,List.sum_nil]
  split_ifs <;> decide

theorem maskNotRight : mask (held.erase 2) ≠ 2 := by
  simp only [mask,chromeButtons,List.map_cons,List.map_nil,List.sum_cons,List.sum_nil,Finset.notMem_erase,if_false]
  split_ifs <;> decide

theorem shifts : ∀ b : UInt8, (b = 0 ∨ b = 3 ∨ b = 4) ∧ (buttonShift b).toNat = chromeBit b ∧ b.toNat < 32 ∨
    b = 1 ∨ b = 2 ∨ 5 ≤ b ∧ (b.toNat < 32 → 32 ≤ (buttonShift b).toNat) ∧ chromeBit b = 0 :=
  forallByte (by decide +kernel)

theorem pressMask : ((buttonShift b).toNat = mask (insert b held) ∧ b.toNat < 32) ↔
    (b = 0 ∨ b = 3 ∨ b = 4) ∧ Free (held.erase b) := by
  rw [maskInsert,← maskZero]
  rcases shifts b with ⟨listed,same,small⟩ | rfl | rfl | ⟨large,shift,none⟩
  · simp only [listed,same,small,true_and,and_true]
    omega
  · refine iff_of_false (fun both => ?_) (fun both => absurd both.1 (by decide))
    have more : 2 = 4 + mask (held.erase 1) := both.1
    omega
  · refine iff_of_false (fun both => ?_) (fun both => absurd both.1 (by decide))
    have more : 4 = 2 + mask (held.erase 2) := both.1
    exact maskNotRight held (by omega)
  · refine iff_of_false (fun both => ?_) ?_
    · have bound := maskBound (held.erase b)
      have above := shift both.2
      omega
    · rintro ⟨rfl | rfl | rfl,-⟩ <;> exact absurd large (by decide)

end Masks

section Events
variable {held : Held}

theorem freeSubset {held' : Held} (sub : held' ⊆ held) (free : Free held) : Free held' :=
  fun p listed member => free p listed (sub member)

theorem otherRight (params : DispatchMouseEventParams) :
    Sent.Right ⟨held,.other,params⟩ ↔ (params.buttons.getD 0).toNat = mask held :=
  ⟨Sent.Right.buttons,fun same => ⟨same,fun b absent => (by cases absent),fun b absent => (by cases absent)⟩⟩

theorem eventRight (e : InputEvent) :
    Sent.Right ⟨e.action.after held,e.action,inputToCdp e⟩ ↔ (MouseInput.event e).Fits held := by
  cases e with
  | mouseMove x y b m =>
    have kept : ((if 0 < b then some b.toUInt32 else none).getD 0).toNat = b.toNat := by
      split
      · exact UInt16.toNat_toUInt32 b
      · rename_i zero
        rw [show b = 0 from UInt16.le_antisymm (UInt16.not_lt.mp zero) (UInt16.zero_le)]
        rfl
    refine (otherRight _).trans ?_
    exact iff_of_eq (congrArg (· = mask held) kept)
  | mouseDown x y b m =>
    refine Iff.trans ⟨fun right => ⟨right.buttons,(right.pressed b rfl).2⟩,fun both => ⟨both.1,?_,?_⟩⟩
      (pressMask held b)
    · rintro _ ⟨⟩
      exact ⟨rfl,both.2⟩
    · exact fun _ absent => by cases absent
  | mouseUp x y b m =>
    refine Iff.trans ⟨fun right => right.buttons.symm,fun zero => ⟨zero.symm,?_,?_⟩⟩ (maskZero (held.erase b))
    · exact fun _ absent => by cases absent
    · rintro _ ⟨⟩
      rfl
  | wheel x y dx dy m => exact (otherRight _).trans (eq_comm.trans (maskZero held))

theorem sentTake (ps : List Produced) (n : Nat) : sent held (ps.take n) = (sent held ps).take n := by
  induction ps generalizing held n with
  | nil => simp [sent]
  | cons p ps ih =>
    cases n with
    | zero => rfl
    | succ n => rw [List.take_succ_cons,sent,sent,List.take_succ_cons,ih]

theorem sentAppend (ps qs : List Produced) : sent held (ps ++ qs) = sent held ps ++ sent (heldAfter held ps) qs := by
  induction ps generalizing held with
  | nil => rfl
  | cons p ps ih => rw [List.cons_append,sent,sent,heldAfter,ih,List.cons_append]

end Events

section Clicks
variable {held : Held} {x y : ℚ} {btn : UInt8} {count : UInt32}

theorem clickPressed (free : Free held) : Sent.Right ⟨insert btn held,.press btn,
    ⟨.mousePressed,x,y,some (clickName btn),some (buttonShift btn),some count,none,none,0⟩⟩ ↔ btn = 0 := by
  constructor
  · intro right
    obtain ⟨name,small⟩ := right.pressed btn rfl
    obtain ⟨rfl | rfl | rfl,-⟩ := (pressMask held btn).mp ⟨right.buttons,small⟩
    · rfl
    · cases name
    · cases name
  · rintro rfl
    obtain ⟨same,small⟩ := (pressMask held 0).mpr ⟨.inl rfl,freeSubset (Finset.erase_subset _ _) free⟩
    exact ⟨same,by rintro _ ⟨⟩; exact ⟨rfl,small⟩,fun _ absent => by cases absent⟩

theorem leftPair (free : Free held) : (∀ o ∈ sent held (clickPair x y 0 count), o.Right) ∧
    Free (heldAfter held (clickPair x y 0 count)) := by
  have after : Free ((insert 0 held).erase 0) := freeSubset (fun b member => by
    obtain ⟨other,inside⟩ := Finset.mem_erase.mp member
    exact (Finset.mem_insert.mp inside).resolve_left other) free
  refine ⟨List.forall_mem_cons.mpr ⟨(clickPressed free).mpr rfl,List.forall_mem_singleton.mpr ⟨?_,?_,?_⟩⟩,after⟩
  · exact ((maskZero _).mpr after).symm
  · exact fun _ absent => by cases absent
  · rintro _ ⟨⟩
    rfl

theorem clickRight {more : List Produced} (second : more = [] ∨ more = clickPair x y btn 2) (n : Nat) :
    (∀ o ∈ sent held ((clickMove x y::clickPair x y btn 1 ++ more).take n), o.Right) ↔
      (1 ≤ n → Free held) ∧ (2 ≤ n → btn = 0) := by
  rw [sentTake]
  constructor
  · intro right
    have moved (one : 1 ≤ n) : Free held := by
      obtain ⟨k,rfl⟩ := Nat.exists_eq_add_of_le' one
      exact (maskZero held).mp ((otherRight _).mp (right _ List.mem_cons_self)).symm
    refine ⟨moved,fun two => ?_⟩
    obtain ⟨k,rfl⟩ := Nat.exists_eq_add_of_le' two
    exact (clickPressed (moved (by omega))).mp (right _ (List.mem_cons_of_mem _ List.mem_cons_self))
  · rintro ⟨free,left⟩
    match n with
    | 0 => exact fun o absent => by cases absent
    | 1 =>
      refine List.forall_mem_singleton.mpr ((otherRight _).mpr ?_)
      exact ((maskZero held).mpr (free (by omega))).symm
    | k + 2 =>
      cases left (by omega)
      have free := free (by omega)
      have whole : ∀ o ∈ sent held (clickMove x y::clickPair x y 0 1 ++ more), o.Right := by
        refine List.forall_mem_cons.mpr ⟨(otherRight _).mpr ((maskZero held).mpr free).symm,?_⟩
        change ∀ o ∈ sent held (clickPair x y 0 1 ++ more), o.Right
        rw [sentAppend]
        refine List.forall_mem_append.mpr ⟨(leftPair free).1,?_⟩
        rcases second with rfl | rfl
        · exact fun o absent => by cases absent
        · exact (leftPair (leftPair free).2).1
      exact fun o member => whole o (List.mem_of_mem_take member)

end Clicks

theorem inputRight (held : Held) (i : MouseInput) :
    ((∀ o ∈ sent held i.produced, o.Right) ∧ ∀ b ∈ i.shifts, InRange b) ↔ i.Fits held := by
  cases i with
  | event e =>
    have right : (∀ o ∈ sent held [(e.action,inputToCdp e)], o.Right) ↔ (MouseInput.event e).Fits held :=
      List.forall_mem_singleton.trans (eventRight e)
    refine Iff.trans (and_iff_left_of_imp fun all b shifted => ?_) right
    cases e with
    | mouseDown x y b' m =>
      cases List.mem_singleton.mp shifted
      exact ((all _ List.mem_cons_self).pressed _ rfl).2
    | mouseMove x y b' m => cases shifted
    | mouseUp x y b' m => cases shifted
    | wheel x y dx dy m => cases shifted
  | inputClick x y button double n =>
    refine and_congr (clickRight ?_ n) ?_
    · cases double.getD false
      · exact .inl rfl
      · exact .inr rfl
    · rw [MouseInput.shifts,List.forall_mem_append]
      refine ⟨fun both one => both.1 _ (by rw [if_pos one]; exact List.mem_cons_self),fun ranged => ⟨?_,?_⟩⟩
      · intro b shifted
        split at shifted
        · rename_i one
          exact List.mem_singleton.mp shifted ▸ ranged one
        · cases shifted
      · intro b shifted
        split at shifted
        · rename_i again
          exact List.mem_singleton.mp shifted ▸ ranged (Nat.le_trans (by decide) again.2)
        · cases shifted
  | clickHelperSingle x y button n =>
    have single : clickHelperSingle x y button = clickMove x y::clickPair x y (button.getD 0) 1 ++ [] := by
      rw [List.append_nil]
      rfl
    rw [MouseInput.produced,single]
    exact and_congr (clickRight (.inl rfl) n) List.forall_mem_singleton

theorem buttonsConsistent (held : Held) (inputs : List MouseInput) :
    ((∀ o ∈ sent held (inputs.flatMap MouseInput.produced), o.Right) ∧
      ∀ b ∈ inputs.flatMap MouseInput.shifts, InRange b) ↔ AllFit held inputs := by
  induction inputs generalizing held with
  | nil => exact iff_of_true ⟨fun o absent => (by cases absent),fun b absent => (by cases absent)⟩ trivial
  | cons i rest ih =>
    rw [List.flatMap_cons,List.flatMap_cons,sentAppend,List.forall_mem_append,List.forall_mem_append,
      and_and_and_comm,inputRight,ih,AllFit]

theorem middleReportedRight :
    (¬ ∀ inputs : List MouseInput, (∀ o ∈ sent ∅ (inputs.flatMap MouseInput.produced), o.Right) ∧
        ∀ b ∈ inputs.flatMap MouseInput.shifts, InRange b) ∧
      (inputToCdp (.mouseDown 10 20 1 0)).buttons = some 2 ∧ mask {1} = 4 ∧ mask {2} = 2 ∧
      ¬ (MouseInput.inputClick 10 20 (some 1) none 5).Fits ∅ ∧ ¬ (MouseInput.event (.wheel 10 20 0 5 0)).Fits {0} ∧
      ¬ (MouseInput.clickHelperSingle 10 20 (some 40) 0).Fits ∅ := by
  refine ⟨fun all => ?_,by decide,by decide,by decide,?_,?_,?_⟩
  · have sent : 2 = 4 := ((all [.event (.mouseDown 10 20 1 0)]).1 _ List.mem_cons_self).buttons
    cases sent
  · exact fun fits => absurd (fits.1.2 (by decide)) (by decide)
  · exact fun free => free _ List.mem_cons_self (Finset.mem_singleton_self _)
  · exact fun fits => absurd fits.2 (by decide +kernel : ¬ (40 : UInt8).toNat < 32)

end Vscreen.Cdp
