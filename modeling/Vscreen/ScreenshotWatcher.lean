import Vscreen.Bytes

/-! The watcher of a region of the page (screenshot_watcher.rs): perceptual hashes of
the cells of a grid, and the cells reported as changed at each tick. Reading a PNG is a
parameter. `none` is a panic, which ends the watcher's task. -/
namespace Vscreen.Watcher

structure GridDims where
  rows : UInt32
  cols : UInt32
  deriving DecidableEq, Repr

structure CellData where
  pixels : List Byte
  width : UInt32
  height : UInt32
  deriving DecidableEq, Repr

structure LumaImage where
  width : UInt32
  height : UInt32
  pixels : List Byte
  deriving DecidableEq, Repr

structure HashSums where
  small : List UInt32
  counts : List UInt32
  deriving DecidableEq, Repr

def hashSlot (cell : CellData) (y x : UInt32) : Nat :=
  (y * 8 / cell.height).toNat * 8 + (x * 8 / cell.width).toNat

def addPixel (cell : CellData) (sums : HashSums) (place : UInt32 × UInt32) : Option HashSums :=
  let (y,x) := place
  let idx := hashSlot cell y x
  match sums.small[idx]?,cell.pixels[(y * cell.width + x).toNat]?,sums.counts[idx]? with
  | some s,some pixel,some c => some ⟨sums.small.set idx (s + pixel.toUInt32),sums.counts.set idx (c + 1)⟩
  | _,_,_ => none

def cellPixels (cell : CellData) : List (UInt32 × UInt32) :=
  (List.range cell.height.toNat).flatMap fun y => (List.range cell.width.toNat).map fun x => (.ofNat y,.ofNat x)

def HashSums.average (sums : HashSums) : List Byte :=
  List.zipWith (fun s c => if 0 < c then (s / c).toUInt8 else 0) sums.small sums.counts

def hashOf (avgPixels : List Byte) : UInt64 :=
  let mean := avgPixels.foldl (fun sum p => sum + p.toUInt32) 0 / 64
  avgPixels.zipIdx.foldl (fun hash (pixel,i) => if mean < pixel.toUInt32 then hash ||| 1 <<< i.toUInt64 else hash) 0

def averageHash (cell : CellData) : Option UInt64 :=
  ((cellPixels cell).foldlM (addPixel cell) ⟨List.replicate 64 0,List.replicate 64 0⟩).map fun sums => hashOf sums.average

def countOnes (n : UInt64) : Nat := ((List.range 64).filter n.toNat.testBit).length

def hammingDistance (a b : UInt64) : Nat := countOnes (a ^^^ b)

def cropCell (img : LumaImage) (cellW cellH row col : UInt32) : CellData :=
  let x := col * cellW
  let y := row * cellH
  ⟨(List.range cellH.toNat).flatMap fun r =>
    slice img.pixels ((y.toNat + r) * img.width.toNat + x.toNat) ((y.toNat + r) * img.width.toNat + x.toNat + cellW.toNat),
    cellW,cellH⟩

section Loop
variable (loadLuma : List Byte → Option LumaImage) (grid : GridDims)

def splitIntoCells (pngData : List Byte) : Option (Option (List CellData)) := match loadLuma pngData with
  | none => some none
  | some img =>
    if grid.cols = 0 ∨ grid.rows = 0 then none
    else
      let cellW := img.width / grid.cols
      let cellH := img.height / grid.rows
      some (some ((List.range grid.rows.toNat).flatMap fun row => (List.range grid.cols.toNat).map fun col =>
        cropCell img cellW cellH (.ofNat row) (.ofNat col)))

structure LoopState where
  prevHashes : List UInt64
  firstRun : Bool
  deriving DecidableEq, Repr

def totalCells : Nat := (grid.rows * grid.cols).toNat

def LoopState.start : LoopState := ⟨List.replicate (totalCells grid) 0,true⟩

def threshold : Nat := 5

def cellChanged (s : LoopState) (current : List UInt64) (i : Nat) : Option Bool :=
  if s.firstRun then some true
  else match s.prevHashes[i]?,current[i]? with
    | some prev,some now => some (threshold < hammingDistance prev now)
    | _,_ => none

def changedCells (s : LoopState) (current : List UInt64) : List Nat → Option (List Nat)
  | [] => some []
  | i::rest => match cellChanged s current i,changedCells s current rest with
    | some true,some changed => some (i::changed)
    | some false,some changed => some changed
    | _,_ => none

structure Tick where
  current : List UInt64
  changed : List Nat
  deriving DecidableEq, Repr

def hashesOf (capture : Option (List Byte)) : Option (Option (List UInt64)) := match capture with
  | none => some none
  | some screenshot => match splitIntoCells loadLuma grid screenshot with
    | none => none
    | some none => some none
    | some (some cells) => (cells.mapM averageHash).map some

def watcherLoop (s : LoopState) : List (Option (List Byte)) → List Tick
  | [] => []
  | capture::rest => match hashesOf loadLuma grid capture with
    | none => []
    | some none => watcherLoop s rest
    | some (some current) => match changedCells s current (List.range (totalCells grid)) with
      | none => []
      | some changed => ⟨current,changed⟩::watcherLoop ⟨current,false⟩ rest

def capturedHashes : List (Option (List Byte)) → List (List UInt64)
  | [] => []
  | capture::rest => match hashesOf loadLuma grid capture with
    | none => []
    | some none => capturedHashes rest
    | some (some current) => current::capturedHashes rest

end Loop

def Tick.hash (t : Tick) (i : Nat) : UInt64 := t.current.getD i 0

def Tick.reports (t : Tick) (i : Nat) : Bool := t.changed.contains i

def lastReported (ticks : List Tick) (i : Nat) : Option UInt64 :=
  (ticks.reverse.find? (·.reports i)).map (·.hash i)

/-- After every tick, each cell is within the threshold of the hash last reported for it. -/
def NothingMissed (total : Nat) (ticks : List Tick) : Prop := ∀ past tick, past ++ [tick] <+: ticks → ∀ i < total,
  ∃ base, lastReported (past ++ [tick]) i = some base ∧ hammingDistance base (tick.hash i) ≤ threshold

/-- One cell through its captures: what follows its first capture, or one that jumps away
from the capture before, stays near it until the next jump. -/
def NoDrift (captured : List UInt64) : Prop := ∀ past base quiet, past ++ base::quiet <+: captured →
  (∀ prev ∈ past.getLast?, threshold < hammingDistance prev base) →
    (base::quiet).IsChain (fun prev now => hammingDistance prev now ≤ threshold) →
      ∀ now ∈ quiet, hammingDistance base now ≤ threshold

section Proofs
variable {loadLuma : List Byte → Option LumaImage} {grid : GridDims}

theorem mapMLength {α β : Type} {f : α → Option β} {l : List α} {m : List β} (mapped : l.mapM f = some m) :
    m.length = l.length := by
  induction l generalizing m with
  | nil => cases mapped; rfl
  | cons a l ih =>
    rw [List.mapM_cons] at mapped
    obtain ⟨b,-,mapped⟩ := Option.bind_eq_some_iff.mp mapped
    obtain ⟨rest,tail,same⟩ := Option.bind_eq_some_iff.mp mapped
    cases same
    rw [List.length_cons,List.length_cons,ih tail]

theorem hashesEnough {capture : Option (List Byte)} {current : List UInt64}
    (hashed : hashesOf loadLuma grid capture = some (some current)) : totalCells grid ≤ current.length := by
  unfold hashesOf at hashed
  split at hashed
  · cases hashed
  · rename_i screenshot
    split at hashed
    · cases hashed
    · cases hashed
    · rename_i cells there
      obtain ⟨current',mapped,same⟩ := Option.map_eq_some_iff.mp hashed
      cases same
      rw [mapMLength mapped]
      unfold splitIntoCells at there
      split at there
      · cases there
      · split at there
        · cases there
        · cases there
          simp only [List.length_flatMap,List.length_map,List.length_range,List.map_const',List.sum_replicate_nat]
          rw [totalCells,UInt32.toNat_mul]
          exact Nat.mod_le _ _

def jumped (s : LoopState) (current : List UInt64) (i : Nat) : Bool :=
  s.firstRun || threshold < hammingDistance (s.prevHashes.getD i 0) (current.getD i 0)

theorem changedSpec {s : LoopState} {current : List UInt64} {total : Nat}
    (before : s.firstRun = true ∨ total ≤ s.prevHashes.length) (now : total ≤ current.length) (l : List Nat)
    (inside : ∀ i ∈ l, i < total) : changedCells s current l = some (l.filter (jumped s current)) := by
  induction l with
  | nil => rfl
  | cons i l ih =>
    obtain ⟨first,rest⟩ := List.forall_mem_cons.mp inside
    have looked : cellChanged s current i = some (jumped s current i) := by
      rw [cellChanged,jumped]
      split
      · rename_i firstRun
        rw [firstRun,Bool.true_or]
      · rename_i later
        have long := before.resolve_left later
        obtain ⟨prev,there⟩ : ∃ prev, s.prevHashes[i]? = some prev := ⟨_,List.getElem?_eq_getElem (by omega)⟩
        obtain ⟨next,here⟩ : ∃ next, current[i]? = some next := ⟨_,List.getElem?_eq_getElem (by omega)⟩
        rw [List.getD_eq_getElem?_getD,List.getD_eq_getElem?_getD,there,here,Bool.eq_false_iff.mpr later,Bool.false_or]
        rfl
    rw [changedCells,looked,ih rest,List.filter_cons]
    cases jumped s current i <;> rfl

def Linked (total : Nat) : LoopState → List Tick → Prop
  | _,[] => True
  | s,t::rest => (∀ i < total, t.reports i = jumped s t.current i) ∧ Linked total ⟨t.current,false⟩ rest

theorem loopLinked {s : LoopState} (before : s.firstRun = true ∨ totalCells grid ≤ s.prevHashes.length)
    (captures : List (Option (List Byte))) : Linked (totalCells grid) s (watcherLoop loadLuma grid s captures) ∧
      (watcherLoop loadLuma grid s captures).map (·.current) = capturedHashes loadLuma grid captures := by
  induction captures generalizing s with
  | nil => exact ⟨trivial,rfl⟩
  | cons capture captures ih =>
    rw [watcherLoop,capturedHashes]
    cases hashed : hashesOf loadLuma grid capture with
    | none => exact ⟨trivial,rfl⟩
    | some read => cases read with
      | none => exact ih before
      | some current =>
        have enough := hashesEnough hashed
        dsimp only
        rw [changedSpec before enough _ (fun i member => List.mem_range.mp member)]
        obtain ⟨linked,hashes⟩ := @ih ⟨current,false⟩ (.inr enough)
        refine ⟨⟨fun i inside => ?_,linked⟩,?_⟩
        · rw [Tick.reports,Bool.eq_iff_iff,List.contains_iff_mem,List.mem_filter,List.mem_range]
          exact and_iff_right inside
        · rw [List.map_cons,hashes]

theorem linkedReports {total i : Nat} {s : LoopState} {past rest : List Tick} {tick : Tick} (inside : i < total)
    (linked : Linked total s (past ++ tick::rest)) :
    tick.reports i = match past.getLast? with
      | none => jumped s tick.current i
      | some prev => decide (threshold < hammingDistance (prev.hash i) (tick.hash i)) := by
  induction past generalizing s with
  | nil => exact linked.1 i inside
  | cons t past ih =>
    rw [ih linked.2]
    cases past with
    | nil => simp [jumped,Tick.hash]
    | cons u past =>
      rw [List.getLast?_cons_cons]
      cases last : (u::past).getLast? with
      | none => simp at last
      | some prev => rfl

theorem reportsIff {total i : Nat} {past rest : List Tick} {tick : Tick} (inside : i < total)
    (linked : Linked total (.start grid) (past ++ tick::rest)) :
    tick.reports i = true ↔ ∀ prev ∈ past.getLast?, threshold < hammingDistance (prev.hash i) (tick.hash i) := by
  rw [linkedReports inside linked]
  cases past.getLast? with
  | none => simp [jumped,LoopState.start]
  | some prev => simp

theorem lastReportedIff {ticks : List Tick} {i : Nat} {base : UInt64} : lastReported ticks i = some base ↔
    ∃ past t quiet, ticks = past ++ t::quiet ∧ t.reports i = true ∧ (∀ u ∈ quiet, u.reports i = false) ∧
      t.hash i = base := by
  rw [lastReported,Option.map_eq_some_iff]
  constructor
  · rintro ⟨t,found,rfl⟩
    obtain ⟨reported,later,earlier,shape,unreported⟩ := List.find?_eq_some_iff_append.mp found
    refine ⟨earlier.reverse,t,later.reverse,?_,reported,fun u member => ?_,rfl⟩
    · rw [← List.reverse_inj,shape]
      simp
    · simpa using unreported u (List.mem_reverse.mp member)
  · rintro ⟨past,t,quiet,rfl,reported,unreported,rfl⟩
    refine ⟨t,List.find?_eq_some_iff_append.mpr ⟨reported,quiet.reverse,past.reverse,by simp,fun u member => ?_⟩,rfl⟩
    rw [unreported u (List.mem_reverse.mp member)]
    rfl

def cellHashes (ticks : List Tick) (i : Nat) : List UInt64 := ticks.map (·.hash i)

theorem hammingSelf (a : UInt64) : hammingDistance a a = 0 := by
  simp [hammingDistance,countOnes]

theorem quietIff {total i : Nat} {past quiet rest : List Tick} {t : Tick} (inside : i < total)
    (linked : Linked total (.start grid) (past ++ t::(quiet ++ rest))) :
    (∀ u ∈ quiet, u.reports i = false) ↔
      (cellHashes (t::quiet) i).IsChain (fun prev now => hammingDistance prev now ≤ threshold) := by
  induction quiet generalizing past t with
  | nil => simp [cellHashes]
  | cons u quiet ih =>
    have next := @ih (past ++ [t]) u (by simpa using linked)
    have first : u.reports i = false ↔ hammingDistance (t.hash i) (u.hash i) ≤ threshold := by
      have linked : Linked total (.start grid) ((past ++ [t]) ++ u::(quiet ++ rest)) := by simpa using linked
      have reported := reportsIff inside linked
      rw [← Bool.not_eq_true,reported]
      simp
    rw [List.forall_mem_cons,first,next]
    simp only [cellHashes,List.map_cons,List.isChain_cons_cons]

theorem jumpIff {total i : Nat} {past rest : List Tick} {t : Tick} (inside : i < total)
    (linked : Linked total (.start grid) (past ++ t::rest)) : t.reports i = true ↔
      ∀ prev ∈ (cellHashes past i).getLast?, threshold < hammingDistance prev (t.hash i) := by
  rw [reportsIff inside linked,cellHashes,List.getLast?_map]
  cases past.getLast? <;> simp

theorem firstReported {total i : Nat} {ticks : List Tick} (inside : i < total) (nonempty : ticks ≠ [])
    (linked : Linked total (.start grid) ticks) : ∃ base, lastReported ticks i = some base := by
  cases ticks with
  | nil => exact absurd rfl nonempty
  | cons t rest =>
    have reported : t.reports i = true := (@reportsIff _ _ _ [] _ _ inside linked).mpr (by simp)
    cases found : (t::rest).reverse.find? (·.reports i) with
    | none => exact absurd reported (List.find?_eq_none.mp found t (by simp))
    | some u => exact ⟨u.hash i,by rw [lastReported,found]; rfl⟩

theorem linkedPrefix {total : Nat} {s : LoopState} {ticks rest : List Tick} (linked : Linked total s (ticks ++ rest)) :
    Linked total s ticks := by
  induction ticks generalizing s with
  | nil => trivial
  | cons t ticks ih => exact ⟨linked.1,ih linked.2⟩

theorem missedDrift {total i : Nat} {ticks : List Tick} (inside : i < total) (linked : Linked total (.start grid) ticks)
    (faithful : NothingMissed total ticks) : NoDrift (cellHashes ticks i) := by
  rintro past base quiet ⟨later,shape⟩ jump near now member
  obtain ⟨front,back,rfl,front',-⟩ := List.map_eq_append_iff.mp shape.symm
  obtain ⟨before,stretch,rfl,rfl,stretch'⟩ := List.map_eq_append_iff.mp front'
  cases stretch with
  | nil => cases stretch'
  | cons t held =>
    obtain ⟨rfl,rfl⟩ := List.cons.inj stretch'
    obtain ⟨u,there,rfl⟩ := List.mem_map.mp member
    obtain ⟨first,second,rfl⟩ := List.append_of_mem there
    have whole : Linked total (.start grid) (before ++ t::((first ++ u::second) ++ back)) := by simpa using linked
    have reported := (jumpIff inside whole).mpr jump
    have unreported := (quietIff inside whole).mpr near
    obtain ⟨base,last,close⟩ := faithful (before ++ t::first) u ⟨second ++ back,by simp⟩ i inside
    -- the jump is the last report, so the invariant speaks of its hash
    have same : lastReported (before ++ t::first ++ [u]) i = some (t.hash i) := lastReportedIff.mpr
      ⟨before,t,first ++ [u],by simp,reported,fun v among => unreported v (by
        rcases List.mem_append.mp among with early | final
        · exact List.mem_append_left _ early
        · rw [List.mem_singleton.mp final]
          simp),rfl⟩
    cases same.symm.trans last
    exact close

theorem driftMissed {total : Nat} {ticks : List Tick} (linked : Linked total (.start grid) ticks)
    (steady : ∀ i < total, NoDrift (cellHashes ticks i)) : NothingMissed total ticks := by
  rintro past tick ⟨later,rfl⟩ i inside
  obtain ⟨base,last⟩ := firstReported inside (by simp) (linkedPrefix linked)
  refine ⟨base,last,?_⟩
  obtain ⟨before,t,held,shape,reported,unreported,rfl⟩ := lastReportedIff.mp last
  cases held using List.reverseRecOn with
  | nil =>
    obtain ⟨-,same⟩ := List.append_inj' shape rfl
    cases same
    rw [hammingSelf]
    exact Nat.zero_le _
  | append_singleton quiet u =>
    have same : past ++ [tick] = (before ++ t::quiet) ++ [u] := by simpa using shape
    obtain ⟨rfl,final⟩ := List.append_inj' same rfl
    cases final
    have whole : Linked total (.start grid) (before ++ t::((quiet ++ [tick]) ++ later)) := by simpa using linked
    exact steady i inside (cellHashes before i) (t.hash i) (cellHashes (quiet ++ [tick]) i)
      ⟨cellHashes later i,by simp [cellHashes]⟩ ((jumpIff inside whole).mp reported)
      ((quietIff inside whole).mp unreported) (tick.hash i) (List.mem_map_of_mem (by simp))

end Proofs

theorem changesReported (loadLuma : List Byte → Option LumaImage) (grid : GridDims) (captures : List (Option (List Byte))) :
    NothingMissed (totalCells grid) (watcherLoop loadLuma grid (.start grid) captures) ↔
      ∀ i < totalCells grid, NoDrift ((capturedHashes loadLuma grid captures).map fun hashes => hashes.getD i 0) := by
  obtain ⟨linked,hashes⟩ := @loopLinked loadLuma grid (.start grid) (.inl rfl) captures
  have cells (i : Nat) : (capturedHashes loadLuma grid captures).map (fun hashes => hashes.getD i 0) =
      cellHashes (watcherLoop loadLuma grid (.start grid) captures) i := by
    rw [← hashes,List.map_map]
    rfl
  constructor
  · intro faithful i inside
    rw [cells]
    exact missedDrift inside linked faithful
  · intro steady
    refine driftMissed linked fun i inside => ?_
    rw [← cells]
    exact steady i inside

def whitened (n : Nat) : List Byte := List.replicate n 255 ++ List.replicate (64 - n) 0

theorem slowChangeMissed :
    ¬ NothingMissed 1 (watcherLoop (fun png => some ⟨8,8,png⟩) ⟨1,1⟩ (.start ⟨1,1⟩)
      [whitened 3,whitened 6,whitened 9]) := by
  intro faithful
  have ticks : watcherLoop (fun png => some ⟨8,8,png⟩) ⟨1,1⟩ (.start ⟨1,1⟩) [whitened 3,whitened 6,whitened 9] =
      [⟨[0x7],[0]⟩,⟨[0x3F],[]⟩,⟨[0x1FF],[]⟩] := by decide +kernel
  rw [ticks] at faithful
  obtain ⟨base,last,near⟩ := faithful [⟨[0x7],[0]⟩,⟨[0x3F],[]⟩] ⟨[0x1FF],[]⟩ (List.prefix_refl _) 0 (by decide)
  cases (show lastReported [⟨[0x7],[0]⟩,⟨[0x3F],[]⟩,⟨[0x1FF],[]⟩] 0 = some 0x7 by decide).symm.trans last
  exact absurd near (by decide +kernel)

end Vscreen.Watcher
