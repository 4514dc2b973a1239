import Mathlib.Algebra.GroupWithZero.Nat
import Vscreen.Arith
import Vscreen.ScreenshotWatcher

/-! The average hash (screenshot_watcher.rs) over its whole input: the blocks that the
pixels of a cell fall in, the arithmetic, and cells that are enlarged. -/
namespace Vscreen.Watcher

structure CellData.Fits (cell : CellData) : Prop where
  pixels : cell.pixels.length = cell.width.toNat * cell.height.toNat
  height : 8 * cell.height.toNat < 2^32
  width : 8 * cell.width.toNat < 2^32
  area : 255 * cell.width.toNat * cell.height.toNat < 2^32

abbrev Place := UInt32 × UInt32

def hashSums (cell : CellData) : Option HashSums :=
  (cellPixels cell).foldlM (addPixel cell) ⟨List.replicate 64 0,List.replicate 64 0⟩

def rowArith (cell : CellData) (y : UInt32) : List Arith := [.mulU32 y 8,.div (y * 8).toNat cell.height.toNat]

def pixelArith (cell : CellData) (sums : HashSums) (place : Place) : List Arith :=
  let (y,x) := place
  let sy := (y * 8 / cell.height).toNat
  let sx := (x * 8 / cell.width).toNat
  let idx := hashSlot cell y x
  [.mulU32 x 8,.div (x * 8).toNat cell.width.toNat,.mulUsize sy 8,.addUsize (sy * 8) sx,.mulU32 y cell.width,
    .addU32 (y * cell.width) x] ++ match sums.small[idx]?,cell.pixels[(y * cell.width + x).toNat]?,sums.counts[idx]? with
    | some s,some pixel,some c => [.addU32 s pixel.toUInt32,.addU32 c 1]
    | _,_,_ => []

def averageArith (sums : HashSums) : List Arith :=
  (List.zip sums.small sums.counts).flatMap fun (s,c) => if 0 < c then [.div s.toNat c.toNat] else []

def meanArith (avgPixels : List Byte) : List Arith :=
  runArith (fun sum p => [.addU32 sum p.toUInt32]) (fun sum p => some (sum + p.toUInt32)) 0 avgPixels

def hashArith (cell : CellData) : List Arith :=
  (List.range cell.height.toNat).flatMap (fun y => rowArith cell (.ofNat y)) ++
    runArith (pixelArith cell) (addPixel cell) ⟨List.replicate 64 0,List.replicate 64 0⟩ (cellPixels cell) ++
    match hashSums cell with
    | none => []
    | some sums => averageArith sums ++ meanArith sums.average

section Blocks
variable {cell : CellData}

theorem placeInside {p : Place} (member : p ∈ cellPixels cell) :
    p.1.toNat < cell.height.toNat ∧ p.2.toNat < cell.width.toNat := by
  obtain ⟨y,row,inRow⟩ := List.mem_flatMap.mp member
  obtain ⟨x,column,rfl⟩ := List.mem_map.mp inRow
  have low := List.mem_range.mp row
  have left := List.mem_range.mp column
  have bound := cell.height.toNat_lt
  have bound' := cell.width.toNat_lt
  constructor
  · rw [UInt32.toNat_ofNat_of_lt' (low.trans bound)]
    exact low
  · rw [UInt32.toNat_ofNat_of_lt' (left.trans bound')]
    exact left

theorem placeMember {y x : Nat} (low : y < cell.height.toNat) (left : x < cell.width.toNat) :
    (UInt32.ofNat y,UInt32.ofNat x) ∈ cellPixels cell :=
  List.mem_flatMap.mpr ⟨y,List.mem_range.mpr low,List.mem_map.mpr ⟨x,List.mem_range.mpr left,rfl⟩⟩

theorem placeCount : (cellPixels cell).length = cell.height.toNat * cell.width.toNat := by
  simp [cellPixels,List.length_flatMap]

variable (fits : cell.Fits) {p : Place} (inside : p ∈ cellPixels cell)
include fits inside

theorem slotNat :
    hashSlot cell p.1 p.2 = p.1.toNat * 8 / cell.height.toNat * 8 + p.2.toNat * 8 / cell.width.toNat := by
  obtain ⟨low,left⟩ := placeInside inside
  have height := fits.height
  have width := fits.width
  rw [hashSlot,UInt32.toNat_div,UInt32.toNat_div,UInt32.toNat_mul,UInt32.toNat_mul,Nat.mod_eq_of_lt,Nat.mod_eq_of_lt]
  · rfl
  · change p.2.toNat * 8 < 2^32
    omega
  · change p.1.toNat * 8 < 2^32
    omega

theorem slotBound : hashSlot cell p.1 p.2 < 64 := by
  obtain ⟨low,left⟩ := placeInside inside
  have row : p.1.toNat * 8 / cell.height.toNat < 8 := Nat.div_lt_of_lt_mul (by omega)
  have column : p.2.toNat * 8 / cell.width.toNat < 8 := Nat.div_lt_of_lt_mul (by omega)
  rw [slotNat fits inside]
  omega

theorem pixelNat : (p.1 * cell.width + p.2).toNat = p.1.toNat * cell.width.toNat + p.2.toNat ∧
    p.1.toNat * cell.width.toNat + p.2.toNat < cell.pixels.length ∧ p.1.toNat * cell.width.toNat + p.2.toNat < 2^32 := by
  obtain ⟨low,left⟩ := placeInside inside
  have area := fits.area
  have pixels := fits.pixels
  have below : p.1.toNat * cell.width.toNat + p.2.toNat < cell.width.toNat * cell.height.toNat := by
    have rows : (p.1.toNat + 1) * cell.width.toNat ≤ cell.height.toNat * cell.width.toNat :=
      Nat.mul_le_mul_right _ low
    rw [Nat.add_mul,Nat.one_mul,Nat.mul_comm cell.height.toNat] at rows
    omega
  rw [Nat.mul_assoc] at area
  refine ⟨?_,by omega,by omega⟩
  rw [UInt32.toNat_add,UInt32.toNat_mul,Nat.mod_eq_of_lt (a := p.1.toNat * cell.width.toNat) (by omega),
    Nat.mod_eq_of_lt (by omega)]

end Blocks

section Sums
variable (cell : CellData)

def pixelAt (p : Place) : Nat := (cell.pixels.getD (p.1.toNat * cell.width.toNat + p.2.toNat) 0).toNat

def block (i : Nat) (done : List Place) : List Place := done.filter fun p => hashSlot cell p.1 p.2 = i

def blockSum (i : Nat) (done : List Place) : Nat := ((block cell i done).map (pixelAt cell)).sum

structure Summed (done : List Place) (sums : HashSums) : Prop where
  small : sums.small.length = 64 ∧ ∀ i s, sums.small[i]? = some s → s.toNat = blockSum cell i done
  counts : sums.counts.length = 64 ∧ ∀ i c, sums.counts[i]? = some c → c.toNat = (block cell i done).length

theorem summedStart : Summed cell [] ⟨List.replicate 64 0,List.replicate 64 0⟩ := by
  refine ⟨⟨List.length_replicate,fun i s found => ?_⟩,List.length_replicate,fun i c found => ?_⟩
  · rw [List.eq_of_mem_replicate (List.mem_of_getElem? found)]
    rfl
  · rw [List.eq_of_mem_replicate (List.mem_of_getElem? found)]
    rfl

theorem blockLength (i : Nat) (done : List Place) : (block cell i done).length ≤ done.length :=
  List.length_filter_le _ _

theorem pixelsBound (places : List Place) : (places.map (pixelAt cell)).sum ≤ 255 * places.length := by
  induction places with
  | nil => exact Nat.le_refl 0
  | cons p rest ih =>
    have one : pixelAt cell p < 2^8 := UInt8.toNat_lt _
    rw [List.map_cons,List.sum_cons,List.length_cons]
    omega

theorem blockSnoc (i : Nat) (done : List Place) (p : Place) : block cell i (done ++ [p]) =
    block cell i done ++ if hashSlot cell p.1 p.2 = i then [p] else [] := by
  rw [block,List.filter_append,List.filter_singleton]
  simp [block]

end Sums

theorem pixelBounds {cell : CellData} (fits : cell.Fits) {done : List Place}
    (short : done.length < (cellPixels cell).length) (p : Place) :
    blockSum cell (hashSlot cell p.1 p.2) done + pixelAt cell p < 2^32 ∧
      (block cell (hashSlot cell p.1 p.2) done).length + 1 < 2^32 := by
  have most := pixelsBound cell (block cell (hashSlot cell p.1 p.2) done)
  have some := blockLength cell (hashSlot cell p.1 p.2) done
  have one : pixelAt cell p < 2^8 := UInt8.toNat_lt _
  have area := fits.area
  rw [placeCount,Nat.mul_comm] at short
  rw [Nat.mul_assoc] at area
  rw [blockSum]
  omega

section Step
variable {cell : CellData} {done : List Place} {sums : HashSums} {p : Place}
  (fits : cell.Fits) (inside : p ∈ cellPixels cell) (summed : Summed cell done sums)
include fits inside summed

theorem pixelReads : ∃ s pixel c, sums.small[hashSlot cell p.1 p.2]? = some s ∧
    cell.pixels[(p.1 * cell.width + p.2).toNat]? = some pixel ∧ sums.counts[hashSlot cell p.1 p.2]? = some c ∧
    s.toNat = blockSum cell (hashSlot cell p.1 p.2) done ∧ pixel.toNat = pixelAt cell p ∧
    c.toNat = (block cell (hashSlot cell p.1 p.2) done).length := by
  have slot := slotBound fits inside
  obtain ⟨place,present,-⟩ := pixelNat fits inside
  have first : hashSlot cell p.1 p.2 < sums.small.length := summed.small.1.symm ▸ slot
  have second : hashSlot cell p.1 p.2 < sums.counts.length := summed.counts.1.symm ▸ slot
  refine ⟨sums.small[hashSlot cell p.1 p.2],cell.pixels[p.1.toNat * cell.width.toNat + p.2.toNat],
    sums.counts[hashSlot cell p.1 p.2],List.getElem?_eq_getElem first,?_,List.getElem?_eq_getElem second,
    summed.small.2 _ _ (List.getElem?_eq_getElem first),?_,summed.counts.2 _ _ (List.getElem?_eq_getElem second)⟩
  · rw [place]
    exact List.getElem?_eq_getElem present
  · rw [pixelAt,List.getD_eq_getElem?_getD,List.getElem?_eq_getElem present]
    rfl

theorem pixelSound (short : done.length < (cellPixels cell).length) : AllSound (pixelArith cell sums p) := by
  obtain ⟨s,pixel,c,first,second,third,sum,value,count⟩ := pixelReads fits inside summed
  obtain ⟨sumBound,countBound⟩ := pixelBounds fits short p
  obtain ⟨low,left⟩ := placeInside inside
  obtain ⟨-,-,index⟩ := pixelNat fits inside
  have width := fits.width
  simp only [pixelArith,first,second,third]
  intro op member
  simp only [List.cons_append,List.nil_append,List.mem_cons,List.not_mem_nil,or_false] at member
  have row := (p.1 * 8 / cell.height).toNat_lt
  have column := (p.2 * 8 / cell.width).toNat_lt
  rcases member with rfl | rfl | rfl | rfl | rfl | rfl | rfl | rfl
  · change p.2.toNat * 8 < 2^32
    omega
  · change cell.width.toNat ≠ 0
    omega
  · change _ * 8 < 2^64
    omega
  · change _ * 8 + _ < 2^64
    omega
  · exact Nat.lt_of_le_of_lt (Nat.le_add_right _ _) index
  · change (p.1 * cell.width).toNat + p.2.toNat < 2^32
    rwa [UInt32.toNat_mul,Nat.mod_eq_of_lt (Nat.lt_of_le_of_lt (Nat.le_add_right _ _) index)]
  · change s.toNat + pixel.toUInt32.toNat < 2^32
    rwa [UInt8.toNat_toUInt32,sum,value]
  · change c.toNat + 1 < 2^32
    rwa [count]

theorem pixelStep (short : done.length < (cellPixels cell).length) :
    ∃ sums', addPixel cell sums p = some sums' ∧ Summed cell (done ++ [p]) sums' := by
  obtain ⟨s,pixel,c,first,second,third,sum,value,count⟩ := pixelReads fits inside summed
  obtain ⟨sumBound,countBound⟩ := pixelBounds fits short p
  refine ⟨⟨sums.small.set (hashSlot cell p.1 p.2) (s + pixel.toUInt32),sums.counts.set (hashSlot cell p.1 p.2) (c + 1)⟩,
    by simp only [addPixel,first,second,third],?_,?_⟩
  · refine ⟨List.length_set.trans summed.small.1,fun i s' found => ?_⟩
    rw [blockSum,blockSnoc,List.map_append,List.sum_append,← blockSum]
    rw [List.getElem?_set] at found
    split at found
    · rename_i same
      subst same
      split at found
      · cases found
        rw [if_pos rfl,UInt32.toNat_add,UInt8.toNat_toUInt32,sum,value,Nat.mod_eq_of_lt sumBound]
        simp
      · cases found
    · rename_i other
      rw [if_neg other]
      exact summed.small.2 i s' found
  · refine ⟨List.length_set.trans summed.counts.1,fun i c' found => ?_⟩
    rw [blockSnoc,List.length_append]
    rw [List.getElem?_set] at found
    split at found
    · rename_i same
      subst same
      split at found
      · cases found
        rw [if_pos rfl,UInt32.toNat_add,count]
        exact Nat.mod_eq_of_lt countBound
      · cases found
    · rename_i other
      rw [if_neg other]
      exact summed.counts.2 i c' found

end Step

theorem nextPlace {cell : CellData} {done rest : List Place} {p : Place} (split : done ++ p::rest = cellPixels cell) :
    p ∈ cellPixels cell ∧ done.length < (cellPixels cell).length := by
  rw [← split,List.length_append,List.length_cons]
  exact ⟨List.mem_append_right _ List.mem_cons_self,by omega⟩

section Run
variable {cell : CellData} (fits : cell.Fits)
include fits

theorem sumsRun (rest : List Place) {done : List Place} {sums : HashSums} (split : done ++ rest = cellPixels cell)
    (summed : Summed cell done sums) :
    ∃ sums', rest.foldlM (addPixel cell) sums = some sums' ∧ Summed cell (cellPixels cell) sums' := by
  induction rest generalizing done sums with
  | nil =>
    rw [List.append_nil] at split
    exact ⟨sums,rfl,split ▸ summed⟩
  | cons p rest ih =>
    obtain ⟨member,short⟩ := nextPlace split
    obtain ⟨sums₁,first,summed₁⟩ := pixelStep fits member summed short
    obtain ⟨sums₂,later,summed₂⟩ := ih (by rw [List.append_assoc]; exact split) summed₁
    refine ⟨sums₂,?_,summed₂⟩
    rw [List.foldlM_cons,first]
    exact later

theorem sumsExist : ∃ sums, hashSums cell = some sums ∧ Summed cell (cellPixels cell) sums :=
  sumsRun fits (cellPixels cell) (List.nil_append _) (summedStart cell)

theorem pixelsSound : AllSound (runArith (pixelArith cell) (addPixel cell)
    ⟨List.replicate 64 0,List.replicate 64 0⟩ (cellPixels cell)) := by
  refine runSound (fun sums rest => ∃ done, done ++ rest = cellPixels cell ∧ Summed cell done sums) ?_ ?_
    ⟨[],rfl,summedStart cell⟩
  · rintro sums p rest ⟨done,split,summed⟩
    obtain ⟨member,short⟩ := nextPlace split
    exact pixelSound fits member summed short
  · rintro sums p rest sums' ⟨done,split,summed⟩ taken
    obtain ⟨member,short⟩ := nextPlace split
    obtain ⟨sums₁,first,summed₁⟩ := pixelStep fits member summed short
    cases Option.some.inj (first.symm.trans taken)
    exact ⟨done ++ [p],by rw [List.append_assoc]; exact split,summed₁⟩

theorem rowsSound : AllSound ((List.range cell.height.toNat).flatMap fun y => rowArith cell (.ofNat y)) := by
  intro op member
  obtain ⟨y,row,inRow⟩ := List.mem_flatMap.mp member
  have low := List.mem_range.mp row
  have height := fits.height
  have small := low.trans cell.height.toNat_lt
  rw [rowArith,List.mem_cons,List.mem_singleton] at inRow
  rcases inRow with rfl | rfl
  · change (UInt32.ofNat y).toNat * 8 < 2^32
    rw [UInt32.toNat_ofNat_of_lt' small]
    omega
  · exact Nat.ne_of_gt (Nat.zero_lt_of_lt low)

end Run

theorem averageSound (sums : HashSums) : AllSound (averageArith sums) := by
  intro op member
  obtain ⟨⟨s,c⟩,-,inside⟩ := List.mem_flatMap.mp member
  dsimp only at inside
  split at inside
  · rename_i positive
    rw [List.mem_singleton.mp inside]
    exact Nat.ne_of_gt (UInt32.lt_iff_toNat_lt.mp positive)
  · cases inside

theorem meanSound {avgPixels : List Byte} (counted : avgPixels.length = 64) : AllSound (meanArith avgPixels) := by
  have room (sum : UInt32) (p : Byte) (rest : List Byte)
      (inv : sum.toNat + 255 * (p::rest).length ≤ 255 * 64) : sum.toNat + p.toUInt32.toNat + 255 * rest.length ≤ 255 * 64 := by
    have one := p.toNat_lt
    rw [List.length_cons] at inv
    rw [UInt8.toNat_toUInt32]
    omega
  refine runSound (fun sum rest => sum.toNat + 255 * rest.length ≤ 255 * 64) ?_ ?_ (by rw [counted]; decide)
  · intro sum p rest inv op member
    rw [List.mem_singleton.mp member]
    have most := room sum p rest inv
    change sum.toNat + p.toUInt32.toNat < 2^32
    omega
  · intro sum p rest sum' inv taken
    cases taken
    have most := room sum p rest inv
    rwa [UInt32.toNat_add,Nat.mod_eq_of_lt (by omega)]

theorem averageLength {cell : CellData} {done : List Place} {sums : HashSums} (summed : Summed cell done sums) :
    sums.average.length = 64 := by
  rw [HashSums.average,List.length_zipWith,summed.small.1,summed.counts.1]
  rfl

def replicated (pattern : List Byte) (k : Nat) : CellData :=
  ⟨(List.range (8 * k)).flatMap fun y => (List.range (8 * k)).map fun x => pattern.getD (y / k * 8 + x / k) 0,
    .ofNat (8 * k),.ofNat (8 * k)⟩

structure Shows (cell : CellData) (pattern : List Byte) (k : Nat) : Prop where
  height : cell.height.toNat = 8 * k
  width : cell.width.toNat = 8 * k
  pixels : ∀ p ∈ cellPixels cell, pixelAt cell p = (pattern.getD (p.1.toNat / k * 8 + p.2.toNat / k) 0).toNat

section Scale
variable {cell : CellData} {pattern : List Byte} {k : Nat} (fits : cell.Fits) (shown : Shows cell pattern k)
  (positive : 0 < k)
include fits shown

theorem slotScaled {p : Place} (inside : p ∈ cellPixels cell) :
    hashSlot cell p.1 p.2 = p.1.toNat / k * 8 + p.2.toNat / k := by
  rw [slotNat fits inside,shown.height,shown.width,Nat.mul_comm p.1.toNat 8,Nat.mul_comm p.2.toNat 8,
    Nat.mul_div_mul_left _ _ (by decide),Nat.mul_div_mul_left _ _ (by decide)]

theorem blockSame (i : Nat) : blockSum cell i (cellPixels cell) =
    (block cell i (cellPixels cell)).length * (pattern.getD i 0).toNat := by
  have same : ∀ p ∈ block cell i (cellPixels cell), pixelAt cell p = (pattern.getD i 0).toNat := by
    intro p member
    obtain ⟨inside,slot⟩ := List.mem_filter.mp member
    rw [shown.pixels p inside,← slotScaled fits shown inside,of_decide_eq_true slot]
  rw [blockSum,List.map_congr_left same]
  simp

include positive

theorem blockSome {i : Nat} (slot : i < 64) : 0 < (block cell i (cellPixels cell)).length := by
  have row : i / 8 * k < cell.height.toNat := by
    rw [shown.height]
    exact Nat.mul_lt_mul_of_pos_right (by omega) positive
  have column : i % 8 * k < cell.width.toNat := by
    rw [shown.width]
    exact Nat.mul_lt_mul_of_pos_right (by omega) positive
  have member := placeMember row column
  refine List.length_pos_of_mem (List.mem_filter.mpr ⟨member,decide_eq_true ?_⟩)
  rw [slotScaled fits shown member,UInt32.toNat_ofNat_of_lt' (row.trans cell.height.toNat_lt),
    UInt32.toNat_ofNat_of_lt' (column.trans cell.width.toNat_lt),Nat.mul_div_cancel _ positive,
    Nat.mul_div_cancel _ positive]
  omega

theorem averageScaled (counted : pattern.length = 64) {sums : HashSums}
    (summed : Summed cell (cellPixels cell) sums) : sums.average = pattern := by
  refine List.ext_getElem ((averageLength summed).trans counted.symm) fun i inside inside' => ?_
  have slot : i < 64 := counted ▸ inside'
  have first : i < sums.small.length := summed.small.1.symm ▸ slot
  have second : i < sums.counts.length := summed.counts.1.symm ▸ slot
  have sum := summed.small.2 i _ (List.getElem?_eq_getElem first)
  have count := summed.counts.2 i _ (List.getElem?_eq_getElem second)
  have some := blockSome fits shown positive slot
  have value : (pattern.getD i 0) = pattern[i] := by
    rw [List.getD_eq_getElem?_getD,List.getElem?_eq_getElem inside']
    rfl
  rw [blockSame fits shown,value,← count] at sum
  rw [← count] at some
  have nonzero : 0 < sums.counts[i] := UInt32.lt_iff_toNat_lt.mpr some
  simp only [HashSums.average,List.getElem_zipWith]
  rw [if_pos nonzero]
  refine UInt8.toNat_inj.mp ?_
  rw [UInt32.toNat_toUInt8,UInt32.toNat_div,sum,Nat.mul_div_cancel_left _ some]
  exact Nat.mod_eq_of_lt (UInt8.toNat_lt _)

theorem hashScaled (counted : pattern.length = 64) : averageHash cell = some (hashOf pattern) := by
  obtain ⟨sums,run,summed⟩ := sumsExist fits
  rw [averageHash,← hashSums,run,Option.map_some,averageScaled fits shown positive counted summed]

end Scale

theorem gridGet {α : Type} (f : Nat → Nat → α) {h w y x : Nat} (low : y < h) (left : x < w) :
    ((List.range h).flatMap fun y => (List.range w).map (f y))[y * w + x]? = some (f y x) := by
  induction h with
  | zero => cases low
  | succ h ih =>
    have count : ((List.range h).flatMap fun y => (List.range w).map (f y)).length = h * w := by
      simp [List.length_flatMap]
    rw [List.range_succ,List.flatMap_append,List.flatMap_singleton]
    by_cases last : y = h
    · subst last
      rw [List.getElem?_append_right (by omega),count,Nat.add_sub_cancel_left]
      simp [left]
    · have earlier : y < h := by omega
      have rows : (y + 1) * w ≤ h * w := Nat.mul_le_mul_right w earlier
      rw [Nat.add_mul,Nat.one_mul] at rows
      rw [List.getElem?_append_left (by omega)]
      exact ih earlier

theorem replicatedFits {pattern : List Byte} {k : Nat} (rows : 8 * (8 * k) < 2^32)
    (area : 255 * (8 * k) * (8 * k) < 2^32) : (replicated pattern k).Fits := by
  have same : (UInt32.ofNat (8 * k)).toNat = 8 * k := UInt32.toNat_ofNat_of_lt' (by change 8 * k < 2^32; omega)
  refine ⟨?_,?_,?_,?_⟩
  · rw [replicated,same]
    simp [List.length_flatMap]
  · rw [replicated,same]
    exact rows
  · rw [replicated,same]
    exact rows
  · rw [replicated,same]
    exact area

theorem replicatedShows {pattern : List Byte} {k : Nat} (rows : 8 * (8 * k) < 2^32) :
    Shows (replicated pattern k) pattern k := by
  have same : (UInt32.ofNat (8 * k)).toNat = 8 * k := UInt32.toNat_ofNat_of_lt' (by change 8 * k < 2^32; omega)
  refine ⟨same,same,fun p member => ?_⟩
  obtain ⟨low,left⟩ := placeInside member
  rw [replicated,same] at low left
  rw [pixelAt,replicated,same,List.getD_eq_getElem?_getD,gridGet _ low left]
  rfl

theorem patternFits {pattern : List Byte} (counted : pattern.length = 64) : CellData.Fits ⟨pattern,8,8⟩ :=
  ⟨counted,(by decide : 8 * 8 < 2^32),(by decide : 8 * 8 < 2^32),(by decide : 255 * 8 * 8 < 2^32)⟩

theorem patternShows (pattern : List Byte) : Shows ⟨pattern,8,8⟩ pattern 1 :=
  ⟨rfl,rfl,fun p _ => by rw [Nat.div_one,Nat.div_one]; rfl⟩

theorem averageWithin {cell : CellData} {done : List Place} {sums : HashSums} (summed : Summed cell done sums) :
    ∀ p ∈ List.zip sums.small sums.counts, (p.1 / p.2).toNat < 2^8 := by
  intro p member
  obtain ⟨i,inside,rfl⟩ := List.mem_iff_getElem.mp member
  rw [List.getElem_zip]
  have sum := summed.small.2 i _ (List.getElem?_eq_getElem (List.lt_length_left_of_zip inside))
  have count := summed.counts.2 i _ (List.getElem?_eq_getElem (List.lt_length_right_of_zip inside))
  have most := pixelsBound cell (block cell i done)
  rw [UInt32.toNat_div,sum,count,blockSum]
  exact Nat.lt_succ_of_le (Nat.div_le_of_le_mul (Nat.mul_comm _ _ ▸ most))

theorem averageHashScales :
    (∀ cell : CellData, cell.Fits → AllSound (hashArith cell) ∧
      ∃ sums, hashSums cell = some sums ∧ averageHash cell = some (hashOf sums.average) ∧
        (∀ p ∈ List.zip sums.small sums.counts, (p.1 / p.2).toNat < 2^8) ∧ ∀ p ∈ sums.average.zipIdx, p.2 < 64) ∧
      ∀ (pattern : List Byte) (k : Nat), pattern.length = 64 → 1 ≤ k → 8 * (8 * k) < 2^32 →
        255 * (8 * k) * (8 * k) < 2^32 → averageHash (replicated pattern k) = averageHash ⟨pattern,8,8⟩ := by
  constructor
  · intro cell fits
    obtain ⟨sums,run,summed⟩ := sumsExist fits
    have counted := averageLength summed
    constructor
    · rw [hashArith,run]
      exact List.forall_mem_append.mpr ⟨List.forall_mem_append.mpr ⟨rowsSound fits,pixelsSound fits⟩,
        List.forall_mem_append.mpr ⟨averageSound sums,meanSound counted⟩⟩
    · refine ⟨sums,run,?_,averageWithin summed,fun p member => ?_⟩
      · rw [averageHash,← hashSums,run,Option.map_some]
      · have inside := (List.mem_zipIdx member).2.1
        rwa [counted] at inside
  · intro pattern k counted positive rows area
    rw [hashScaled (replicatedFits rows area) (replicatedShows rows) positive counted,
      hashScaled (patternFits counted) (patternShows pattern) (by decide) counted]

theorem averageHashSmall :
    (∃ sums, hashSums ⟨[7,9],2,1⟩ = some sums ∧ averageHash ⟨[7,9],2,1⟩ = some (hashOf sums.average)) ∧
      averageHash (replicated (0::List.replicate 63 200) 2) = averageHash ⟨0::List.replicate 63 200,8,8⟩ := by
  obtain ⟨-,sums,run,hash,-⟩ := averageHashScales.1 ⟨[7,9],2,1⟩ ⟨by decide,by decide,by decide,by decide⟩
  exact ⟨⟨sums,run,hash⟩,averageHashScales.2 _ 2 (by decide) (by decide) (by decide) (by decide)⟩

end Vscreen.Watcher
