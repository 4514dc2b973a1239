import Mathlib.Algebra.Order.Field.Basic
import Mathlib.Algebra.Order.Field.Rat
import Vscreen.CdpMouse
import Vscreen.Dispatches

/-! The drag of the API (mcp/interaction.rs) and the scroll that brings its start into view
(supervisor.rs). The page answers with where it is; a drag whose evaluation or dispatch
fails stops there. -/
namespace Vscreen.Cdp

structure ViewportInfo where
  scrollX : Option ℚ
  scrollY : Option ℚ
  innerW : Option ℚ
  innerH : Option ℚ

structure ScrollInfo where
  x : Option ℚ
  y : Option ℚ

structure PageScripts where
  info : Except Text ViewportInfo
  scrollTo : ℚ → ℚ → Except Text ScrollInfo

def margin : ℚ := 50

def inView (page scroll inner : ℚ) : Bool := decide (scroll + margin ≤ page) && decide (page ≤ scroll + inner - margin)

def targetScroll (page scroll inner : ℚ) : ℚ := if inView page scroll inner then scroll else max (page - inner / 2) 0

def scrollIntoViewAndTranslate (scripts : PageScripts) (pageX pageY : ℚ) : Except Text (ℚ × ℚ) :=
  match scripts.info with
  | .error e => .error e
  | .ok info =>
    let scrollX := info.scrollX.getD 0
    let scrollY := info.scrollY.getD 0
    let innerW := info.innerW.getD 1920
    let innerH := info.innerH.getD 940
    if inView pageX scrollX innerW && inView pageY scrollY innerH then .ok (pageX - scrollX,pageY - scrollY)
    else
      let targetScrollX := targetScroll pageX scrollX innerW
      let targetScrollY := targetScroll pageY scrollY innerH
      match scripts.scrollTo targetScrollX targetScrollY with
      | .error e => .error e
      | .ok scroll => .ok (pageX - scroll.x.getD targetScrollX,pageY - scroll.y.getD targetScrollY)

structure DragParam where
  fromX : ℚ
  fromY : ℚ
  toX : ℚ
  toY : ℚ
  steps : Option UInt32

def dragStep (fromVx fromVy toVx toVy : ℚ) (steps i : Nat) : DispatchMouseEventParams :=
  let t : ℚ := i / steps
  ⟨.mouseMoved,fromVx + (toVx - fromVx) * t,fromVy + (toVy - fromVy) * t,some .left,some 1,none,none,none,0⟩

def dragEvents (fromVx fromVy toVx toVy : ℚ) (steps : Nat) : List DispatchMouseEventParams :=
  ⟨.mouseMoved,fromVx,fromVy,none,none,none,none,none,0⟩::
    ⟨.mousePressed,fromVx,fromVy,some .left,some 1,some 1,none,none,0⟩::
    ((List.range' 1 steps).map (dragStep fromVx fromVy toVx toVy steps) ++
      [⟨.mouseReleased,toVx,toVy,some .left,some 0,some 1,none,none,0⟩])

def dragSteps (params : DragParam) : Nat := (max (params.steps.getD 10) 1).toNat

abbrev Drag := List DispatchMouseEventParams × Except ToolError Unit

def vscreenDrag (scripts : PageScripts) (fails : Nat → Option Text) (params : DragParam) : Drag :=
  match scrollIntoViewAndTranslate scripts params.fromX params.fromY with
  | .error e => ([],.error (.internalError e))
  | .ok (fromVx,fromVy) =>
    -- The end of the drag is moved by the scroll in one of the axes only.
    let toVx := params.toX
    let toVy := params.toY - (params.fromY - fromVy)
    sendAll fails 0 (dragEvents fromVx fromVy toVx toVy (dragSteps params))

structure ScrolledPage where
  scrollX : ℚ
  scrollY : ℚ
  innerW : ℚ
  innerH : ℚ
  scrollTo : ℚ → ℚ → ℚ × ℚ

def ScrolledPage.scripts (page : ScrolledPage) (infoFails scrollFails : Option Text) : PageScripts :=
  ⟨match infoFails with
    | some e => .error e
    | none => .ok ⟨some page.scrollX,some page.scrollY,some page.innerW,some page.innerH⟩,
  fun x y => match scrollFails with
    | some e => .error e
    | none => .ok ⟨some (page.scrollTo x y).1,some (page.scrollTo x y).2⟩⟩

def ScrolledPage.shows (page : ScrolledPage) (x y : ℚ) : Bool :=
  inView x page.scrollX page.innerW && inView y page.scrollY page.innerH

def ScrolledPage.scrolled (page : ScrolledPage) (x y : ℚ) : ℚ × ℚ :=
  if page.shows x y then (page.scrollX,page.scrollY)
  else page.scrollTo (targetScroll x page.scrollX page.innerW) (targetScroll y page.scrollY page.innerH)

def ScrolledPage.answers (page : ScrolledPage) (infoFails scrollFails : Option Text) (x y : ℚ) : Prop :=
  infoFails = none ∧ (page.shows x y = true ∨ scrollFails = none)

section Translation
variable {page : ScrolledPage} {infoFails scrollFails : Option Text} {x y : ℚ}

theorem translated (answers : page.answers infoFails scrollFails x y) :
    scrollIntoViewAndTranslate (page.scripts infoFails scrollFails) x y =
      .ok (x - (page.scrolled x y).1,y - (page.scrolled x y).2) := by
  obtain ⟨rfl,answered⟩ := answers
  by_cases shown : page.shows x y = true
  · rw [ScrolledPage.scrolled,if_pos shown]
    exact if_pos shown
  · obtain rfl : scrollFails = none := answered.resolve_left shown
    rw [ScrolledPage.scrolled,if_neg shown]
    exact if_neg shown

theorem untranslated (silent : ¬ page.answers infoFails scrollFails x y) :
    ∃ e, scrollIntoViewAndTranslate (page.scripts infoFails scrollFails) x y = .error e := by
  cases infoFails with
  | some e => exact ⟨e,rfl⟩
  | none =>
    have hidden : ¬ page.shows x y = true := fun shown => silent ⟨rfl,.inl shown⟩
    cases scrollFails with
    | none => exact absurd ⟨rfl,.inr rfl⟩ silent
    | some e => exact ⟨e,if_neg hidden⟩

end Translation

abbrev Point := ℚ × ℚ

def seen (point scroll : Point) : Point := (point.1 - scroll.1,point.2 - scroll.2)

def along (start stop : Point) (t : ℚ) : Point :=
  (start.1 + (stop.1 - start.1) * t,start.2 + (stop.2 - start.2) * t)

def dragMoves (events : List DispatchMouseEventParams) : List Point :=
  (events.filter fun e => e.eventType = .mouseMoved ∧ e.buttons = some 1).map fun e => (e.x,e.y)

/-- The press and the release are where the two points are seen under one scroll; the moves
lie between them, in order, the last at the release. -/
structure DragRight (start stop : Point) (r : Drag) : Prop where
  press : ∀ (i : Nat) (e : DispatchMouseEventParams), r.1[i]? = some e → e.eventType = .mousePressed → (e.x,e.y) = start ∧ dragMoves (r.1.take i) = []
  moves : ∃ ts : List ℚ, dragMoves r.1 = ts.map (along start stop) ∧ ts.Pairwise (· < ·) ∧ ∀ t ∈ ts, 0 < t ∧ t ≤ 1
  release : ∀ (i : Nat) (e : DispatchMouseEventParams), r.1[i]? = some e → e.eventType = .mouseReleased →
    (e.x,e.y) = stop ∧ (dragMoves (r.1.take i)).getLast? = some stop ∧ i + 1 = r.1.length
  letsGo : ∀ (i : Nat) (e : DispatchMouseEventParams), r.1[i]? = some e → e.eventType = .mousePressed →
    ∃ (j : Nat) (e' : DispatchMouseEventParams), i < j ∧ r.1[j]? = some e' ∧ e'.eventType = .mouseReleased
  done : r.2 = .ok () → ∃ e ∈ r.1, e.eventType = .mousePressed

def Pressed (fails : Nat → Option Text) : Prop := ∀ i ≤ 1, fails i = none

def AllSent (fails : Nat → Option Text) (params : DragParam) : Prop := ∀ i ≤ dragSteps params + 2, fails i = none

def dragTimes (steps : Nat) : List ℚ := (List.range' 1 steps).map fun i : Nat => (i : ℚ) / (steps : ℚ)

section Events
variable (fromVx fromVy toVx toVy : ℚ) (steps : Nat)

theorem dragLength : (dragEvents fromVx fromVy toVx toVy steps).length = steps + 3 := by
  simp [dragEvents]

theorem movesOfSteps : dragMoves ((List.range' 1 steps).map (dragStep fromVx fromVy toVx toVy steps)) =
    (dragTimes steps).map (along (fromVx,fromVy) (toVx,toVy)) := by
  have all : ((List.range' 1 steps).map (dragStep fromVx fromVy toVx toVy steps)).filter
      (fun e => e.eventType = .mouseMoved ∧ e.buttons = some 1) =
      (List.range' 1 steps).map (dragStep fromVx fromVy toVx toVy steps) := by
    refine List.filter_eq_self.mpr fun e member => ?_
    obtain ⟨i,-,rfl⟩ := List.mem_map.mp member
    rfl
  rw [dragMoves,all,dragTimes,List.map_map,List.map_map]
  rfl

theorem dragPressAt {i : Nat} {e : DispatchMouseEventParams}
    (found : (dragEvents fromVx fromVy toVx toVy steps)[i]? = some e) (press : e.eventType = .mousePressed) :
    i = 1 ∧ (e.x,e.y) = (fromVx,fromVy) := by
  match i with
  | 0 =>
    cases found
    cases press
  | 1 =>
    cases found
    exact ⟨rfl,rfl⟩
  | i + 2 =>
    rcases List.mem_append.mp (List.mem_of_getElem? (found : (_ ++ [_])[i]? = some e)) with move | release
    · obtain ⟨j,-,rfl⟩ := List.mem_map.mp move
      cases press
    · cases List.mem_singleton.mp release
      cases press

theorem dragReleaseAt {i : Nat} {e : DispatchMouseEventParams}
    (found : (dragEvents fromVx fromVy toVx toVy steps)[i]? = some e) (release : e.eventType = .mouseReleased) :
    i = steps + 2 ∧ (e.x,e.y) = (toVx,toVy) := by
  match i with
  | 0 =>
    cases found
    cases release
  | 1 =>
    cases found
    cases release
  | i + 2 =>
    replace found : (((List.range' 1 steps).map (dragStep fromVx fromVy toVx toVy steps)) ++ [_])[i]? = some e := found
    have counted : ((List.range' 1 steps).map (dragStep fromVx fromVy toVx toVy steps)).length = steps := by simp
    by_cases move : i < steps
    · rw [List.getElem?_append_left (by omega)] at found
      obtain ⟨j,-,rfl⟩ := List.mem_map.mp (List.mem_of_getElem? found)
      cases release
    · rw [List.getElem?_append_right (by omega),counted] at found
      have last : i - steps = 0 := by
        obtain ⟨inside,-⟩ := List.getElem?_eq_some_iff.mp found
        exact Nat.lt_one_iff.mp inside
      rw [last] at found
      cases found
      exact ⟨by omega,rfl⟩

theorem dragReleased : ∃ e, (dragEvents fromVx fromVy toVx toVy steps)[steps + 2]? = some e ∧
    e.eventType = .mouseReleased ∧ (e.x,e.y) = (toVx,toVy) := by
  refine ⟨⟨.mouseReleased,toVx,toVy,some .left,some 0,some 1,none,none,0⟩,?_,rfl,rfl⟩
  change (((List.range' 1 steps).map (dragStep fromVx fromVy toVx toVy steps)) ++ [_])[steps]? = _
  rw [List.getElem?_append_right (by simp)]
  simp

theorem movesOfEvents : dragMoves (dragEvents fromVx fromVy toVx toVy steps) =
    (dragTimes steps).map (along (fromVx,fromVy) (toVx,toVy)) := by
  rw [← movesOfSteps,dragEvents]
  simp [dragMoves]

theorem movesBeforeRelease : dragMoves ((dragEvents fromVx fromVy toVx toVy steps).take (steps + 2)) =
    (dragTimes steps).map (along (fromVx,fromVy) (toVx,toVy)) := by
  rw [← movesOfSteps,dragEvents,List.take_succ_cons,List.take_succ_cons,List.take_append_of_le_length (by simp),
    List.take_of_length_le (by simp)]
  rfl

theorem stepsOrdered (some : 0 < steps) : (dragTimes steps).Pairwise (· < ·) ∧
    ∀ t ∈ dragTimes steps, 0 < t ∧ t ≤ 1 := by
  have positive : (0 : ℚ) < steps := Nat.cast_pos.mpr some
  constructor
  · refine List.Pairwise.map _ (fun i j less => ?_) (List.pairwise_lt_range' 1)
    exact div_lt_div_of_pos_right (Nat.cast_lt.mpr less) positive
  · intro t member
    obtain ⟨i,inside,rfl⟩ := List.mem_map.mp member
    obtain ⟨low,high⟩ := List.mem_range'_1.mp inside
    refine ⟨div_pos (Nat.cast_pos.mpr low) positive,(div_le_one positive).mpr (Nat.cast_le.mpr ?_)⟩
    omega

theorem lastStep (some : 0 < steps) (start stop : Point) :
    ((dragTimes steps).map (along start stop)).getLast? = Option.some stop := by
  obtain ⟨n,rfl⟩ := Nat.exists_eq_add_of_le' some
  have whole : ((n + 1 : ℕ) : ℚ) ≠ 0 := Nat.cast_ne_zero.mpr (Nat.succ_ne_zero n)
  rw [dragTimes,List.range'_1_concat,List.map_append,List.map_append,List.map_singleton,List.map_singleton,List.getLast?_concat,
    Nat.add_comm 1 n,div_self whole,along]
  simp

end Events

theorem dragStepsSome (params : DragParam) : 0 < dragSteps params := by
  change 0 < (if params.steps.getD 10 ≤ 1 then (1 : UInt32) else params.steps.getD 10).toNat
  split
  · decide
  · rename_i more
    have above : (1 : UInt32).toNat < _ := UInt32.lt_iff_toNat_lt.mp (UInt32.not_le.mp more)
    exact Nat.zero_lt_of_lt above

theorem wholeRight (start stop : Point) {steps : Nat} (some : 0 < steps) (ending : Except ToolError Unit) :
    DragRight start stop (dragEvents start.1 start.2 stop.1 stop.2 steps,ending) := by
  obtain ⟨ordered,within⟩ := stepsOrdered steps some
  refine ⟨?_,⟨dragTimes steps,movesOfEvents _ _ _ _ steps,ordered,within⟩,?_,?_,?_⟩
  · intro i e found press
    obtain ⟨rfl,place⟩ := dragPressAt _ _ _ _ steps found press
    exact ⟨place,rfl⟩
  · intro i e found release
    obtain ⟨rfl,place⟩ := dragReleaseAt _ _ _ _ steps found release
    refine ⟨place,?_,(dragLength _ _ _ _ steps).symm⟩
    rw [movesBeforeRelease]
    exact lastStep steps some start stop
  · intro i e found press
    obtain ⟨rfl,-⟩ := dragPressAt _ _ _ _ steps found press
    obtain ⟨e',last,release,-⟩ := dragReleased start.1 start.2 stop.1 stop.2 steps
    exact ⟨steps + 2,e',by omega,last,release⟩
  · exact fun _ => ⟨_,List.mem_cons_of_mem _ List.mem_cons_self,rfl⟩

theorem unpressedRight {start stop : Point} {r : Drag} (first : ∃ fromVx fromVy toVx toVy steps n, n ≤ 1 ∧
    r.1 = (dragEvents fromVx fromVy toVx toVy steps).take n) (failed : r.2 ≠ .ok ()) : DragRight start stop r := by
  obtain ⟨fromVx,fromVy,toVx,toVy,steps,n,few,sent⟩ := first
  have moved : ∀ e ∈ r.1, e.eventType = .mouseMoved ∧ e.buttons = none := by
    intro e member
    rw [sent] at member
    match n,few with
    | 0,_ => cases member
    | 1,_ =>
      cases List.mem_singleton.mp member
      exact ⟨rfl,rfl⟩
  refine ⟨?_,⟨[],?_,List.Pairwise.nil,fun t absent => by cases absent⟩,?_,?_,fun ok => absurd ok failed⟩
  · intro i e found press
    have other := (moved e (List.mem_of_getElem? found)).1
    rw [press] at other
    cases other
  · refine List.map_eq_nil_iff.mpr (List.filter_eq_nil_iff.mpr fun e member => ?_)
    simp [moved e member]
  · intro i e found release
    have other := (moved e (List.mem_of_getElem? found)).1
    rw [release] at other
    cases other
  · intro i e found press
    have other := (moved e (List.mem_of_getElem? found)).1
    rw [press] at other
    cases other

theorem pressedReleased {start stop : Point} {r : Drag} {fromVx fromVy toVx toVy : ℚ} {steps n : Nat} (press : 1 < n)
    (sent : r.1 = (dragEvents fromVx fromVy toVx toVy steps).take n) (right : DragRight start stop r) :
    steps + 2 < n ∧ (toVx,toVy) = stop := by
  have second : r.1[1]? = some ⟨.mousePressed,fromVx,fromVy,some .left,some 1,some 1,none,none,0⟩ := by
    rw [sent,List.getElem?_take_of_lt press]
    rfl
  obtain ⟨j,e,-,found,release⟩ := right.letsGo 1 _ second rfl
  have place := (right.release j e found release).1
  rw [sent,List.getElem?_take] at found
  split at found
  · rename_i inside
    obtain ⟨rfl,same⟩ := dragReleaseAt _ _ _ _ steps found release
    exact ⟨inside,same.symm.trans place⟩
  · cases found

theorem dragSent {page : ScrolledPage} {infoFails scrollFails : Option Text} {params : DragParam}
    (answers : page.answers infoFails scrollFails params.fromX params.fromY) (fails : Nat → Option Text) :
    vscreenDrag (page.scripts infoFails scrollFails) fails params = sendAll fails 0
      (dragEvents (params.fromX - (page.scrolled params.fromX params.fromY).1)
        (params.fromY - (page.scrolled params.fromX params.fromY).2) params.toX
        (params.toY - (page.scrolled params.fromX params.fromY).2) (dragSteps params)) := by
  rw [vscreenDrag,translated answers]
  simp only [sub_sub_cancel]

theorem pressedCame {fails : Nat → Option Text} {params : DragParam} :
    Pressed fails ↔ 1 < came fails 0 (dragSteps params + 3) := by
  rw [cameReaches]
  simp [Pressed]

theorem allCame {fails : Nat → Option Text} {params : DragParam} :
    AllSent fails params ↔ dragSteps params + 2 < came fails 0 (dragSteps params + 3) := by
  rw [cameReaches]
  simp [AllSent]

theorem sentRight {fails : Nat → Option Text} {params : DragParam} {scroll : Point} (press : Pressed fails) :
    DragRight (seen (params.fromX,params.fromY) scroll) (seen (params.toX,params.toY) scroll)
        (sendAll fails 0 (dragEvents (params.fromX - scroll.1) (params.fromY - scroll.2) params.toX
          (params.toY - scroll.2) (dragSteps params))) ↔ AllSent fails params ∧ scroll.1 = 0 := by
  have count := dragLength (params.fromX - scroll.1) (params.fromY - scroll.2) params.toX (params.toY - scroll.2)
    (dragSteps params)
  have sent := sentAll fails 0 (dragEvents (params.fromX - scroll.1) (params.fromY - scroll.2) params.toX
    (params.toY - scroll.2) (dragSteps params))
  rw [count] at sent
  constructor
  · intro right
    obtain ⟨all,same⟩ := pressedReleased (pressedCame.mp press) sent right
    have level : params.toX = params.toX - scroll.1 := congrArg Prod.fst same
    exact ⟨allCame.mpr all,sub_eq_self.mp level.symm⟩
  · rintro ⟨whole,level⟩
    have full : came fails 0 (dragSteps params + 3) = dragSteps params + 3 :=
      Nat.le_antisymm (cameBound fails 0 _) (allCame.mp whole)
    rw [full,← count,List.take_length] at sent
    have right := wholeRight (seen (params.fromX,params.fromY) scroll)
      (seen (params.toX,params.toY) scroll) (dragStepsSome params)
    simp only [seen,level,sub_zero] at right sent ⊢
    generalize sendAll fails 0 _ = r at sent ⊢
    obtain ⟨events,ending⟩ := r
    obtain rfl : events = _ := sent
    exact right ending

theorem unsentRight {fails : Nat → Option Text} {params : DragParam} {start stop : Point} {fromVx fromVy toVx toVy : ℚ}
    (unpressed : ¬ Pressed fails) :
    DragRight start stop (sendAll fails 0 (dragEvents fromVx fromVy toVx toVy (dragSteps params))) := by
  have count := dragLength fromVx fromVy toVx toVy (dragSteps params)
  have sent := sentAll fails 0 (dragEvents fromVx fromVy toVx toVy (dragSteps params))
  rw [count] at sent
  rw [@pressedCame fails params] at unpressed
  refine unpressedRight ⟨_,_,_,_,_,_,Nat.le_of_not_lt unpressed,sent⟩ fun ok => ?_
  rw [sentOk,count] at ok
  omega

theorem dragRight (page : ScrolledPage) (infoFails scrollFails : Option Text) (fails : Nat → Option Text)
    (params : DragParam) :
    DragRight (seen (params.fromX,params.fromY) (page.scrolled params.fromX params.fromY))
        (seen (params.toX,params.toY) (page.scrolled params.fromX params.fromY))
        (vscreenDrag (page.scripts infoFails scrollFails) fails params) ↔
      ¬ page.answers infoFails scrollFails params.fromX params.fromY ∨ ¬ Pressed fails ∨
        AllSent fails params ∧ (page.scrolled params.fromX params.fromY).1 = 0 := by
  by_cases answers : page.answers infoFails scrollFails params.fromX params.fromY
  · rw [dragSent answers,or_iff_right (not_not.mpr answers)]
    by_cases press : Pressed fails
    · exact (sentRight press).trans (or_iff_right (not_not.mpr press)).symm
    · exact iff_of_true (unsentRight press) (.inl press)
  · obtain ⟨e,failed⟩ := untranslated answers
    rw [vscreenDrag,failed]
    refine iff_of_true (unpressedRight ⟨0,0,0,0,0,0,Nat.zero_le 1,rfl⟩ ?_) (.inl answers)
    rintro ⟨⟩

theorem dragMisses :
    (¬ ∀ (page : ScrolledPage) (fails : Nat → Option Text) (params : DragParam),
      DragRight (seen (params.fromX,params.fromY) (page.scrolled params.fromX params.fromY))
        (seen (params.toX,params.toY) (page.scrolled params.fromX params.fromY))
        (vscreenDrag (page.scripts none none) fails params)) ∧
      ((vscreenDrag (ScrolledPage.scripts ⟨100,0,1000,800,Prod.mk⟩ none none) (fun _ => none) ⟨300,300,500,300,some 1⟩).1.map
        fun e => (e.eventType,e.x)) =
        [(.mouseMoved,200),(.mousePressed,200),(.mouseMoved,500),(.mouseReleased,500)] ∧
      ((vscreenDrag (ScrolledPage.scripts ⟨0,0,1000,800,Prod.mk⟩ none none) (fun i => if i = 2 then some "lost".toList else none)
        ⟨300,300,500,300,some 1⟩).1.map fun e => (e.eventType,e.x)) = [(.mouseMoved,300),(.mousePressed,300)] := by
  refine ⟨fun all => ?_,by decide +kernel,by decide +kernel⟩
  have right := all ⟨100,0,1000,800,Prod.mk⟩ (fun _ => none) ⟨300,300,500,300,some 1⟩
  have place := (right.release 3 ⟨.mouseReleased,500,300,some .left,some 0,some 1,none,none,0⟩
    (by decide +kernel) rfl).1
  exact absurd place (by decide +kernel)

end Vscreen.Cdp
