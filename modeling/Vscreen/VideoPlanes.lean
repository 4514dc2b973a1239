import Vscreen.VideoFrames

/-! A decoded frame on its way through `pad_to_even` and `rgb_to_i420`, as
`VideoPipeline::process` calls them: when it comes through, and what is in each cell of
the three planes. -/
namespace Vscreen.Video

def padAndConvert (colours : Colours) (frame : RgbFrame) : Option (Except VideoError I420Buffer) :=
  match padToEven frame with
  | none => none
  | some padded => rgbToI420 colours padded

def applyWrites (plane : List Byte) (writes : List (Nat × Byte)) : List Byte :=
  writes.foldl (fun plane write => plane.set write.1 write.2) plane

section Writes
variable {plane : List Byte} {writes : List (Nat × Byte)} {i size : Nat} {b : Byte}

theorem applyAppend (plane : List Byte) (ws vs : List (Nat × Byte)) :
    applyWrites plane (ws ++ vs) = applyWrites (applyWrites plane ws) vs := List.foldl_append

theorem writesLength (plane : List Byte) (writes : List (Nat × Byte)) :
    (applyWrites plane writes).length = plane.length := by
  induction writes generalizing plane with
  | nil => rfl
  | cons w ws ih => exact (ih (plane.set w.1 w.2)).trans List.length_set

theorem writesOther (other : ∀ w ∈ writes, w.1 ≠ i) : (applyWrites plane writes)[i]? = plane[i]? := by
  induction writes generalizing plane with
  | nil => rfl
  | cons w ws ih =>
    obtain ⟨first,rest⟩ := List.forall_mem_cons.mp other
    exact (@ih (plane.set w.1 w.2) rest).trans (List.getElem?_set_ne first)

theorem writesAt (once : (writes.map Prod.fst).Nodup) (member : (i,b) ∈ writes) (inside : i < plane.length) :
    (applyWrites plane writes)[i]? = some b := by
  induction writes generalizing plane with
  | nil => cases member
  | cons w ws ih =>
    obtain ⟨fresh,once⟩ := List.nodup_cons.mp once
    rcases List.mem_cons.mp member with rfl | later
    · have others : ∀ v ∈ ws, v.1 ≠ i := fun v among same => fresh (List.mem_map.mpr ⟨v,among,same⟩)
      exact (@writesOther (plane.set i b) _ _ others).trans (List.getElem?_set_self inside)
    · exact ih once later (by rwa [List.length_set])

structure Written (plane : List Byte) (size : Nat) (writes : List (Nat × Byte)) : Prop where
  made : plane = applyWrites (List.replicate size 0) writes
  once : (writes.map Prod.fst).Perm (List.range size)

theorem Written.length (written : Written plane size writes) : plane.length = size := by
  rw [written.made,writesLength,List.length_replicate]

theorem Written.read (written : Written plane size writes) (member : (i,b) ∈ writes) : plane[i]? = some b := by
  have inside : i < size := List.mem_range.mp (written.once.mem_iff.mp (List.mem_map.mpr ⟨(i,b),member,rfl⟩))
  rw [written.made]
  exact writesAt (written.once.nodup_iff.mpr List.nodup_range) member (by rwa [List.length_replicate])

end Writes

abbrev Rgb := Byte × Byte × Byte

def rgbAt (rgb : List Byte) (idx : Nat) : Rgb := (rgb.getD idx 0,rgb.getD (idx + 1) 0,rgb.getD (idx + 2) 0)

def applyColour (f : Byte → Byte → Byte → Byte) (pixel : Rgb) : Byte := f pixel.1 pixel.2.1 pixel.2.2

section Convert
variable (colours : Colours) (rgb : List Byte) (w uvW : Nat)

def lumaWrite (pixel : Nat × Nat) : Nat × Byte :=
  (pixel.1 * w + pixel.2,applyColour colours.luma (rgbAt rgb ((pixel.1 * w + pixel.2) * 3)))

def chromaWrite (f : Byte → Byte → Byte → Byte) (pixel : Nat × Nat) : Option (Nat × Byte) :=
  if pixel.1 % 2 = 0 ∧ pixel.2 % 2 = 0 then
    some (pixel.1 / 2 * uvW + pixel.2 / 2,applyColour f (rgbAt rgb ((pixel.1 * w + pixel.2) * 3)))
  else none

structure Drawn (l : List (Nat × Nat)) (planes planes' : Planes) : Prop where
  y : planes'.y = applyWrites planes.y (l.map (lumaWrite colours rgb w))
  u : planes'.u = applyWrites planes.u (l.filterMap (chromaWrite rgb w uvW colours.chromaU))
  v : planes'.v = applyWrites planes.v (l.filterMap (chromaWrite rgb w uvW colours.chromaV))

variable {colours rgb w uvW} {planes planes' : Planes}

theorem setAtWrite {plane plane' : List Byte} {i : Nat} {b : Byte} (set : setAt plane i b = some plane') :
    plane' = applyWrites plane [(i,b)] := by
  rw [setAt] at set
  split at set <;> cases set
  rfl

theorem getDSome {l : List Byte} {i : Nat} {b : Byte} (there : l[i]? = some b) : l.getD i 0 = b := by
  rw [List.getD_eq_getElem?_getD,there]
  rfl

theorem pixelDrawn {pixel : Nat × Nat} (taken : convertPixel colours rgb w uvW planes pixel = some planes') :
    (pixel.1 * w + pixel.2) * 3 + 2 < rgb.length ∧ Drawn colours rgb w uvW [pixel] planes planes' := by
  obtain ⟨row,col⟩ := pixel
  simp only [convertPixel] at taken
  split at taken
  · rename_i r g b red green blue
    have at_ : rgbAt rgb ((row * w + col) * 3) = (r,g,b) := by
      rw [rgbAt,getDSome red,getDSome green,getDSome blue]
    refine ⟨(List.getElem?_eq_some_iff.mp blue).1,?_⟩
    split at taken
    · cases taken
    · rename_i y luma
      have drawnY : y = applyWrites planes.y ([(row,col)].map (lumaWrite colours rgb w)) := by
        rw [setAtWrite luma,List.map_singleton,lumaWrite,at_]
        rfl
      split at taken
      · rename_i even
        have chroma (f : Byte → Byte → Byte → Byte) : [(row,col)].filterMap (chromaWrite rgb w uvW f) =
            [(row / 2 * uvW + col / 2,f r g b)] := by
          rw [List.filterMap_cons,chromaWrite,if_pos even,at_]
          rfl
        split at taken
        · rename_i u v first second
          cases taken
          exact ⟨drawnY,by rw [chroma,setAtWrite first],by rw [chroma,setAtWrite second]⟩
        · cases taken
      · rename_i odd
        have chroma (f : Byte → Byte → Byte → Byte) : [(row,col)].filterMap (chromaWrite rgb w uvW f) = [] := by
          rw [List.filterMap_cons,chromaWrite,if_neg odd]
          rfl
        cases taken
        exact ⟨drawnY,by rw [chroma]; rfl,by rw [chroma]; rfl⟩
  · cases taken

theorem pixelsDrawn {l : List (Nat × Nat)} (done : l.foldlM (convertPixel colours rgb w uvW) planes = some planes') :
    Drawn colours rgb w uvW l planes planes' := by
  induction l generalizing planes with
  | nil => cases done; exact ⟨rfl,rfl,rfl⟩
  | cons pixel l ih =>
    rw [List.foldlM_cons] at done
    obtain ⟨planes₁,taken,rest⟩ := Option.bind_eq_some_iff.mp done
    have first := (pixelDrawn taken).2
    have later := ih rest
    have split : pixel::l = [pixel] ++ l := rfl
    refine ⟨?_,?_,?_⟩
    · rw [later.y,first.y,split,List.map_append,applyAppend]
    · rw [later.u,first.u,split,List.filterMap_append,applyAppend]
    · rw [later.v,first.v,split,List.filterMap_append,applyAppend]

theorem setAtInside {plane : List Byte} {i : Nat} (b : Byte) (inside : i < plane.length) :
    ∃ plane', setAt plane i b = some plane' ∧ plane'.length = plane.length :=
  ⟨_,if_pos inside,List.length_set⟩

theorem pixelTotal {yLength uvLength : Nat} {pixel : Nat × Nat} (sized : planes.Sized yLength uvLength)
    (read : (pixel.1 * w + pixel.2) * 3 + 2 < rgb.length) (luma : pixel.1 * w + pixel.2 < yLength)
    (chroma : pixel.1 % 2 = 0 ∧ pixel.2 % 2 = 0 → pixel.1 / 2 * uvW + pixel.2 / 2 < uvLength) :
    ∃ planes', convertPixel colours rgb w uvW planes pixel = some planes' ∧ planes'.Sized yLength uvLength := by
  obtain ⟨row,col⟩ := pixel
  dsimp only at read luma chroma
  obtain ⟨y,setY,lengthY⟩ := setAtInside (colours.luma (rgb[(row * w + col) * 3]) (rgb[(row * w + col) * 3 + 1])
    (rgb[(row * w + col) * 3 + 2])) (sized.y.symm ▸ luma)
  simp only [convertPixel,List.getElem?_eq_getElem (show (row * w + col) * 3 < rgb.length by omega),
    List.getElem?_eq_getElem (show (row * w + col) * 3 + 1 < rgb.length by omega),List.getElem?_eq_getElem read,setY]
  split
  · rename_i even
    obtain ⟨u,setU,lengthU⟩ := setAtInside (colours.chromaU (rgb[(row * w + col) * 3]) (rgb[(row * w + col) * 3 + 1])
      (rgb[(row * w + col) * 3 + 2])) (sized.u.symm ▸ chroma even)
    obtain ⟨v,setV,lengthV⟩ := setAtInside (colours.chromaV (rgb[(row * w + col) * 3]) (rgb[(row * w + col) * 3 + 1])
      (rgb[(row * w + col) * 3 + 2])) (sized.v.symm ▸ chroma even)
    rw [setU,setV]
    exact ⟨_,rfl,lengthY.trans sized.y,lengthU.trans sized.u,lengthV.trans sized.v⟩
  · exact ⟨_,rfl,lengthY.trans sized.y,sized.u,sized.v⟩

theorem foldlTotal {σ α : Type} {f : σ → α → Option σ} (inv : σ → Prop) {l : List α}
    (steps : ∀ s, inv s → ∀ a ∈ l, ∃ s', f s a = some s' ∧ inv s') {s : σ} (start : inv s) :
    ∃ s', l.foldlM f s = some s' := by
  induction l generalizing s with
  | nil => exact ⟨s,rfl⟩
  | cons a l ih =>
    obtain ⟨s₁,taken,kept⟩ := steps s start a List.mem_cons_self
    obtain ⟨s',rest⟩ := ih (fun t holds b member => steps t holds b (List.mem_cons_of_mem a member)) kept
    exact ⟨s',by rw [List.foldlM_cons,taken]; exact rest⟩

end Convert

theorem evenUpToNat {n : UInt32} : (evenUp n).toNat = (n.toNat + 1) % 2^32 / 2 * 2 := by
  have mask : (~~~(1 : UInt32)).toNat = 2^32 - 1 - 1 := rfl
  rw [evenUp,UInt32.toNat_and,UInt32.toNat_add,mask]
  have below : (n.toNat + (1 : UInt32).toNat) % 2^32 < 2^32 := Nat.mod_lt _ (by decide)
  have one : (n.toNat + (1 : UInt32).toNat) % 2^32 = (n.toNat + 1) % 2^32 := rfl
  rw [one] at below ⊢
  generalize (n.toNat + 1) % 2^32 = m at below ⊢
  have high : (m &&& 2^32 - 1 - 1) / 2 = m / 2 := by
    rw [Nat.and_div_two,show (2^32 - 1 - 1) / 2 = 2^31 - 1 from rfl,Nat.and_two_pow_sub_one_eq_mod,
      Nat.mod_eq_of_lt (by omega)]
  have low : (m &&& 2^32 - 1 - 1) % 2 ≠ 1 := by
    rw [Ne,Nat.and_mod_two_eq_one]
    exact fun both => absurd both.2 (by decide)
  omega

theorem evenUpSelf {n : UInt32} : evenUp n = n ↔ n.toNat % 2 = 0 := by
  rw [← UInt32.toNat_inj,evenUpToNat]
  have := n.toNat_lt
  omega

theorem evenUpFits {n : UInt32} (fits : n.toNat + n.toNat % 2 < 2^32) :
    (evenUp n).toNat = n.toNat + n.toNat % 2 := by
  rw [evenUpToNat]
  omega

theorem evenUpWraps {n : UInt32} (wraps : ¬ n.toNat + n.toNat % 2 < 2^32) : evenUp n = 0 := by
  rw [← UInt32.toNat_inj,evenUpToNat]
  have := n.toNat_lt
  have : n.toNat = 2^32 - 1 := by omega
  rw [this]
  rfl

section Rows
variable {oldStride newStride count : Nat} {data start padded : List Byte}

theorem copyRowSpec {row : Nat} {target target' : List Byte}
    (copied : copyRow data oldStride newStride target row = some target') :
    row * oldStride + oldStride ≤ data.length ∧ row * newStride + oldStride ≤ target.length ∧
      target'.length = target.length ∧ ∀ i, target'[i]? =
        if row * newStride ≤ i ∧ i < row * newStride + oldStride then data[row * oldStride + (i - row * newStride)]?
        else target[i]? := by
  simp only [copyRow,sliceOf] at copied
  split at copied
  · cases copied
  · rename_i source cut
    split at cut
    · rename_i inside
      cases cut
      have length : (slice data (row * oldStride) (row * oldStride + oldStride)).length = oldStride := by
        rw [slice,List.length_take,List.length_drop]
        omega
      rw [copyInto,length] at copied
      split at copied
      · rename_i fits
        cases copied
        refine ⟨inside.2,fits,?_,fun i => ?_⟩
        · rw [List.length_append,List.length_append,List.length_take,List.length_drop,length]
          omega
        · have before : (target.take (row * newStride)).length = row * newStride := by
            rw [List.length_take]
            omega
          by_cases early : i < row * newStride
          · rw [List.getElem?_append_left (by omega),if_neg (by omega),List.getElem?_take_of_lt early]
          · rw [List.getElem?_append_right (by omega),before]
            by_cases within : i < row * newStride + oldStride
            · rw [List.getElem?_append_left (by omega),if_pos (by omega),slice,List.getElem?_take_of_lt (by omega),
                List.getElem?_drop]
            · rw [List.getElem?_append_right (by omega),if_neg (by omega),List.getElem?_drop,length]
              congr 1
              omega
      · cases copied
    · cases cut

theorem copyRowTotal {row : Nat} {target : List Byte} (read : row * oldStride + oldStride ≤ data.length)
    (fits : row * newStride + oldStride ≤ target.length) :
    ∃ target', copyRow data oldStride newStride target row = some target' := by
  have cut : sliceOf data (row * oldStride) (row * oldStride + oldStride) =
      some (slice data (row * oldStride) (row * oldStride + oldStride)) := if_pos ⟨Nat.le_add_right _ _,read⟩
  have length : (slice data (row * oldStride) (row * oldStride + oldStride)).length = oldStride := by
    rw [slice,List.length_take,List.length_drop]
    omega
  rw [copyRow,cut]
  exact ⟨_,if_pos (length.symm ▸ fits)⟩

theorem rowOffset {row other k : Nat} (inRow : k < newStride) (short : oldStride ≤ newStride) :
    (other * newStride ≤ row * newStride + k ∧ row * newStride + k < other * newStride + oldStride) ↔
      row = other ∧ k < oldStride := by
  rcases Nat.lt_trichotomy row other with less | rfl | more
  · have := Nat.mul_le_mul_right newStride (show row + 1 ≤ other from less)
    rw [Nat.succ_mul] at this
    omega
  · omega
  · have := Nat.mul_le_mul_right newStride (show other + 1 ≤ row from more)
    rw [Nat.succ_mul] at this
    omega

theorem rowsInside (done : (List.range count).foldlM (copyRow data oldStride newStride) start = some padded) :
    padded.length = start.length ∧
      ∀ row < count, row * oldStride + oldStride ≤ data.length ∧ row * newStride + oldStride ≤ start.length := by
  have keeps (target : List Byte) (row : Nat) (target' : List Byte) (length : target.length = start.length)
      (copied : copyRow data oldStride newStride target row = some target') : target'.length = start.length :=
    (copyRowSpec copied).2.2.1.trans length
  refine ⟨foldlInvariant (fun target => target.length = start.length) keeps rfl done,fun row below => ?_⟩
  obtain ⟨target,target',length,copied⟩ :=
    foldlEach (fun target => target.length = start.length) keeps rfl done (List.mem_range.mpr below)
  exact ⟨(copyRowSpec copied).1,length ▸ (copyRowSpec copied).2.1⟩

theorem rowsCopied (short : oldStride ≤ newStride)
    (done : (List.range count).foldlM (copyRow data oldStride newStride) start = some padded) {row k : Nat}
    (inRow : k < newStride) : padded[row * newStride + k]? =
      if row < count ∧ k < oldStride then data[row * oldStride + k]? else start[row * newStride + k]? := by
  induction count generalizing padded with
  | zero =>
    cases done
    exact (if_neg (fun both => Nat.not_lt_zero _ both.1)).symm
  | succ n ih =>
    rw [List.range_succ,List.foldlM_append] at done
    obtain ⟨before,earlier,last⟩ := Option.bind_eq_some_iff.mp done
    rw [List.foldlM_cons] at last
    obtain ⟨after,copied,same⟩ := Option.bind_eq_some_iff.mp last
    cases same
    rw [(copyRowSpec copied).2.2.2,ih earlier]
    by_cases here : row = n ∧ k < oldStride
    · obtain ⟨rfl,small⟩ := here
      rw [if_pos ((rowOffset inRow short).mpr ⟨rfl,small⟩),if_pos ⟨Nat.lt_succ_self _,small⟩,Nat.add_sub_cancel_left]
    · rw [if_neg (fun range => here ((rowOffset inRow short).mp range))]
      have : (row < n ∧ k < oldStride) ↔ row < n + 1 ∧ k < oldStride := by omega
      simp only [this]

theorem rowsTotal (read : ∀ row < count, row * oldStride + oldStride ≤ data.length)
    (fits : ∀ row < count, row * newStride + oldStride ≤ start.length) :
    ∃ padded, (List.range count).foldlM (copyRow data oldStride newStride) start = some padded := by
  refine foldlTotal (fun target => target.length = start.length) (fun target length row member => ?_) rfl
  have below := List.mem_range.mp member
  obtain ⟨target',copied⟩ := copyRowTotal (read row below) (length.symm ▸ fits row below)
  exact ⟨target',copied,(copyRowSpec copied).2.2.1.trans length⟩

end Rows

theorem rowMajor (h w : Nat) :
    ((List.range h).flatMap fun row => (List.range w).map fun col => row * w + col) = List.range (h * w) := by
  induction h with
  | zero => rw [Nat.zero_mul]; rfl
  | succ h ih =>
    rw [List.range_succ,List.flatMap_append,ih,List.flatMap_singleton,Nat.succ_mul,List.range_add]

theorem evenColumns {α : Type} (m : Nat) (f : Nat → α) :
    ((List.range (m * 2)).filterMap fun col => if col % 2 = 0 then some (f (col / 2)) else none) =
      (List.range m).map f := by
  induction m with
  | zero => rfl
  | succ m ih =>
    rw [Nat.succ_mul,List.range_succ,List.range_succ,List.range_succ]
    simp only [List.filterMap_append,List.map_append,ih]
    simp

theorem evenRows {α : Type} (k : Nat) (f : Nat → List α) :
    ((List.range (k * 2)).flatMap fun row => if row % 2 = 0 then f (row / 2) else []) = (List.range k).flatMap f := by
  induction k with
  | zero => rfl
  | succ k ih =>
    rw [Nat.succ_mul,List.range_succ,List.range_succ,List.range_succ]
    simp only [List.flatMap_append,ih]
    simp

section Cells
variable (colours : Colours) (rgb : List Byte) (w h uvW : Nat)

theorem lumaCells : ((pixels w h).map (lumaWrite colours rgb w)).map Prod.fst = List.range (w * h) := by
  rw [Nat.mul_comm,← rowMajor h w,List.map_map,pixels,List.map_flatMap]
  simp only [List.map_map]
  rfl

theorem chromaCells (f : Byte → Byte → Byte → Byte) (evenW : w % 2 = 0) (evenH : h % 2 = 0) :
    ((pixels w h).filterMap (chromaWrite rgb w (w / 2) f)).map Prod.fst = List.range (w / 2 * (h / 2)) := by
  rw [Nat.mul_comm,← rowMajor (h / 2) (w / 2),List.map_filterMap,pixels,List.filterMap_flatMap]
  have row (r : Nat) : ((List.range w).map fun col => (r,col)).filterMap
      (fun pixel => (chromaWrite rgb w (w / 2) f pixel).map Prod.fst) =
        if r % 2 = 0 then (List.range (w / 2)).map fun col => r / 2 * (w / 2) + col else [] := by
    rw [List.filterMap_map]
    split
    · rename_i even
      rw [← evenColumns,Nat.div_mul_cancel (Nat.dvd_of_mod_eq_zero evenW)]
      refine List.filterMap_congr fun col _ => ?_
      simp only [Function.comp_apply,chromaWrite,even,true_and]
      split <;> rfl
    · rename_i odd
      refine List.filterMap_eq_nil_iff.mpr fun col _ => ?_
      simp only [Function.comp_apply,chromaWrite,odd,false_and,if_false]
      rfl
  simp only [row]
  rw [← evenRows (h / 2),Nat.div_mul_cancel (Nat.dvd_of_mod_eq_zero evenH)]

end Cells

section Conversion
variable {colours : Colours} {frame : RgbFrame} {buffer : I420Buffer}

structure PlanesOf (colours : Colours) (frame : RgbFrame) (buffer : I420Buffer) : Prop where
  y : Written buffer.y (frame.width.toNat * frame.height.toNat)
    ((pixels frame.width.toNat frame.height.toNat).map (lumaWrite colours frame.data frame.width.toNat))
  u : Written buffer.u (frame.width.toNat / 2 * (frame.height.toNat / 2))
    ((pixels frame.width.toNat frame.height.toNat).filterMap
      (chromaWrite frame.data frame.width.toNat (frame.width.toNat / 2) colours.chromaU))
  v : Written buffer.v (frame.width.toNat / 2 * (frame.height.toNat / 2))
    ((pixels frame.width.toNat frame.height.toNat).filterMap
      (chromaWrite frame.data frame.width.toNat (frame.width.toNat / 2) colours.chromaV))

theorem halfEven {n : Nat} (even : n % 2 = 0) : (n + 1) / 2 = n / 2 := by omega

theorem evenBelow {n : UInt32} (even : n.toNat % 2 = 0) : n.toNat + 1 < 2^32 := by
  have := n.toNat_lt
  omega

theorem ySizeExact {width height : UInt32} (area : width.toNat * height.toNat < 2^32) :
    ySize width height = width.toNat * height.toNat := by
  rw [ySize,UInt32.toNat_mul,Nat.mod_eq_of_lt area]

theorem halfExact {n : UInt32} (even : n.toNat % 2 = 0) : ((n + 1) / 2).toNat = n.toNat / 2 := by
  rw [UInt32.toNat_div,UInt32.toNat_add,show (1 : UInt32).toNat = 1 from rfl,Nat.mod_eq_of_lt (evenBelow even),
    show (2 : UInt32).toNat = 2 from rfl,halfEven even]

theorem quarterBelow {w h : Nat} (area : w * h < 2^32) : w / 2 * (h / 2) < 2^32 :=
  (Nat.mul_le_mul (Nat.div_le_self _ _) (Nat.div_le_self _ _)).trans_lt area

theorem uvSizeExact {width height : UInt32} (area : width.toNat * height.toNat < 2^32)
    (evenW : width.toNat % 2 = 0) (evenH : height.toNat % 2 = 0) :
    uvSize width height = width.toNat / 2 * (height.toNat / 2) := by
  rw [uvSize,UInt32.toNat_mul,halfExact evenW,halfExact evenH,Nat.mod_eq_of_lt (quarterBelow area)]

theorem rgbSize : (frame.width * frame.height * 3).toNat = frame.width.toNat * frame.height.toNat * 3 % 2^32 := by
  rw [UInt32.toNat_mul,UInt32.toNat_mul,Nat.mod_mul_mod]
  rfl

theorem pixelsMember {w h : Nat} {pixel : Nat × Nat} (member : pixel ∈ pixels w h) : pixel.1 < h ∧ pixel.2 < w := by
  obtain ⟨row,inRow,columns⟩ := List.mem_flatMap.mp member
  obtain ⟨col,inCol,rfl⟩ := List.mem_map.mp columns
  exact ⟨List.mem_range.mp inRow,List.mem_range.mp inCol⟩

theorem rowMajorBelow {row col h w : Nat} (inRow : row < h) (inCol : col < w) : row * w + col < w * h := by
  have := Nat.mul_le_mul_right w (show row + 1 ≤ h from inRow)
  rw [Nat.succ_mul,Nat.mul_comm h] at this
  omega

theorem conversionTotal (wide : frame.width ≠ 0) (high : frame.height ≠ 0) (evenW : frame.width.toNat % 2 = 0)
    (evenH : frame.height.toNat % 2 = 0) (area : frame.width.toNat * frame.height.toNat < 2^32)
    (enough : frame.width.toNat * frame.height.toNat * 3 ≤ frame.data.length) :
    ∃ buffer, rgbToI420 colours frame = some (.ok buffer) := by
  have long : ¬ frame.data.length < (frame.width * frame.height * 3).toNat := by
    rw [rgbSize]
    exact Nat.not_lt.mpr ((Nat.mod_le _ _).trans enough)
  have steps (planes : Planes) (sized : planes.Sized (frame.width.toNat * frame.height.toNat)
      (frame.width.toNat / 2 * (frame.height.toNat / 2))) (pixel : Nat × Nat)
      (member : pixel ∈ pixels frame.width.toNat frame.height.toNat) :
      ∃ planes', convertPixel colours frame.data frame.width.toNat ((frame.width.toNat + 1) / 2) planes pixel = some planes' ∧
        planes'.Sized (frame.width.toNat * frame.height.toNat) (frame.width.toNat / 2 * (frame.height.toNat / 2)) := by
    obtain ⟨inRow,inCol⟩ := pixelsMember member
    have inside := rowMajorBelow inRow inCol
    rw [halfEven evenW]
    exact pixelTotal sized (by omega) inside fun _ => rowMajorBelow (by omega) (by omega)
  obtain ⟨planes,done⟩ := foldlTotal (s := ⟨List.replicate (ySize frame.width frame.height) 0,
    List.replicate (uvSize frame.width frame.height) 0,List.replicate (uvSize frame.width frame.height) 0⟩)
    (fun planes : Planes => planes.Sized (frame.width.toNat * frame.height.toNat)
      (frame.width.toNat / 2 * (frame.height.toNat / 2))) steps
    ⟨by rw [List.length_replicate,ySizeExact area],by rw [List.length_replicate,uvSizeExact area evenW evenH],
      by rw [List.length_replicate,uvSizeExact area evenW evenH]⟩
  simp only [rgbToI420,if_neg (not_or.mpr ⟨wide,high⟩),if_neg long,rgbToI420Sw,done]
  exact ⟨_,rfl⟩

theorem foldlMember {σ α : Type} {f : σ → α → Option σ} {l : List α} {s s' : σ} (done : l.foldlM f s = some s')
    {a : α} (member : a ∈ l) : ∃ t t', f t a = some t' :=
  have ⟨t,t',_,taken⟩ := foldlEach (fun _ => True) (fun _ _ _ _ _ => trivial) trivial done member
  ⟨t,t',taken⟩

theorem conversionSpec (evenW : frame.width.toNat % 2 = 0) (evenH : frame.height.toNat % 2 = 0)
    (ok : rgbToI420 colours frame = some (.ok buffer)) :
    frame.width.toNat * frame.height.toNat * 3 ≤ frame.data.length ∧ PlanesOf colours frame buffer := by
  have area := (rgbToI420Spec ok).area
  simp only [rgbToI420] at ok
  split at ok
  · cases ok
  · rename_i positive
    obtain ⟨wide,high⟩ := not_or.mp positive
    split at ok
    · cases ok
    · split at ok
      · cases ok
      · rename_i planes done
        cases ok
        rw [rgbToI420Sw,ySizeExact area,uvSizeExact area evenW evenH,halfEven evenW] at done
        have drawn := pixelsDrawn done
        refine ⟨?_,⟨drawn.y,?_⟩,⟨drawn.u,?_⟩,⟨drawn.v,?_⟩⟩
        · have wide := positiveToNat wide
          have high := positiveToNat high
          -- the last pixel is read, too
          obtain ⟨t,t',taken⟩ := foldlMember done (memPixels (Nat.sub_one_lt_of_lt high) (Nat.sub_one_lt_of_lt wide))
          have read := (pixelDrawn taken).1
          have rows : (frame.height.toNat - 1) * frame.width.toNat + frame.width.toNat =
              frame.width.toNat * frame.height.toNat := by
            rw [← Nat.succ_mul,Nat.succ_eq_add_one,Nat.sub_add_cancel high,Nat.mul_comm]
          dsimp only at read
          omega
        · rw [lumaCells]
        · rw [chromaCells _ _ _ _ evenW evenH]
        · rw [chromaCells _ _ _ _ evenW evenH]

end Conversion

def pixelOf (frame : RgbFrame) (row col : Nat) : Rgb :=
  if row < frame.height.toNat ∧ col < frame.width.toNat then rgbAt frame.data ((row * frame.width.toNat + col) * 3)
  else (0,0,0)

structure Exact (colours : Colours) (frame : RgbFrame) (buffer : I420Buffer) : Prop where
  width : buffer.width = evenUp frame.width ∧ frame.width.toNat ≤ buffer.width.toNat
  height : buffer.height = evenUp frame.height ∧ frame.height.toNat ≤ buffer.height.toNat
  y : buffer.y.length = buffer.width.toNat * buffer.height.toNat
  u : buffer.u.length = buffer.width.toNat / 2 * (buffer.height.toNat / 2)
  v : buffer.v.length = buffer.width.toNat / 2 * (buffer.height.toNat / 2)
  read : frame.width.toNat * frame.height.toNat * 3 ≤ frame.data.length
  luma : ∀ row < buffer.height.toNat, ∀ col < buffer.width.toNat,
    buffer.y[row * buffer.width.toNat + col]? = some (applyColour colours.luma (pixelOf frame row col))
  chromaU : ∀ row < buffer.height.toNat / 2, ∀ col < buffer.width.toNat / 2,
    buffer.u[row * (buffer.width.toNat / 2) + col]? =
      some (applyColour colours.chromaU (pixelOf frame (row * 2) (col * 2)))
  chromaV : ∀ row < buffer.height.toNat / 2, ∀ col < buffer.width.toNat / 2,
    buffer.v[row * (buffer.width.toNat / 2) + col]? =
      some (applyColour colours.chromaV (pixelOf frame (row * 2) (col * 2)))
  written : ∃ padded, padToEven frame = some padded ∧ PlanesOf colours padded buffer

/-- No panic, and what comes through is exact. -/
def ExactOrError (colours : Colours) (frame : RgbFrame) : Prop :=
  match padAndConvert colours frame with
  | none => False
  | some (.error _) => True
  | some (.ok buffer) => Exact colours frame buffer

/-- Frames whose data is long enough for the products of their dimensions in `u32`,
or, where nothing is padded, too short for them. -/
def Fitting (frame : RgbFrame) : Prop :=
  let w := frame.width.toNat
  let h := frame.height.toNat
  if w % 2 = 0 ∧ h % 2 = 0 then
    frame.data.length < w * h * 3 % 2^32 ∨ w * h < 2^32 ∧ w * h * 3 ≤ frame.data.length
  else (w + w % 2) * 3 < 2^32 ∧ (w + w % 2) * (h + h % 2) < 2^32 ∧ w * h * 3 ≤ frame.data.length

instance (frame : RgbFrame) : Decidable (Fitting frame) := by unfold Fitting; infer_instance

section Whole
variable {colours : Colours} {frame padded : RgbFrame} {buffer : I420Buffer}

theorem cellsExact (dims : padded.width = evenUp frame.width ∧ padded.height = evenUp frame.height)
    (wider : frame.width.toNat ≤ padded.width.toNat ∧ frame.height.toNat ≤ padded.height.toNat)
    (read : frame.width.toNat * frame.height.toNat * 3 ≤ frame.data.length) (padding : padToEven frame = some padded)
    (same : ∀ row < padded.height.toNat, ∀ col < padded.width.toNat,
      rgbAt padded.data ((row * padded.width.toNat + col) * 3) = pixelOf frame row col)
    (ok : rgbToI420 colours padded = some (.ok buffer)) (planes : PlanesOf colours padded buffer) :
    Exact colours frame buffer := by
  have sized := rgbToI420Spec ok
  have chroma (f : Byte → Byte → Byte → Byte) {row col : Nat} (inRow : row < padded.height.toNat / 2)
      (inCol : col < padded.width.toNat / 2) :
      (row * (padded.width.toNat / 2) + col,applyColour f (pixelOf frame (row * 2) (col * 2))) ∈
        (pixels padded.width.toNat padded.height.toNat).filterMap
          (chromaWrite padded.data padded.width.toNat (padded.width.toNat / 2) f) := by
    refine List.mem_filterMap.mpr ⟨(row * 2,col * 2),memPixels (by omega) (by omega),?_⟩
    rw [chromaWrite,if_pos ⟨Nat.mul_mod_left row 2,Nat.mul_mod_left col 2⟩,
      same (row * 2) (by omega) (col * 2) (by omega),Nat.mul_div_cancel row Nat.two_pos,
      Nat.mul_div_cancel col Nat.two_pos]
  refine ⟨?_,?_,?_,?_,?_,read,?_,?_,?_,padded,padding,planes⟩
  · rw [sized.width]
    exact ⟨dims.1,wider.1⟩
  · rw [sized.height]
    exact ⟨dims.2,wider.2⟩
  all_goals rw [sized.width,sized.height]
  · exact planes.y.length
  · exact planes.u.length
  · exact planes.v.length
  · intro row inRow col inCol
    refine planes.y.read (List.mem_map.mpr ⟨(row,col),memPixels inRow inCol,?_⟩)
    rw [lumaWrite,same row inRow col inCol]
  · exact fun row inRow col inCol => planes.u.read (chroma colours.chromaU inRow inCol)
  · exact fun row inRow col inCol => planes.v.read (chroma colours.chromaV inRow inCol)

theorem strideToNat {n : UInt32} : (n * 3).toNat = n.toNat * 3 % 2^32 := by
  rw [UInt32.toNat_mul]
  rfl

theorem stridePositive {n : UInt32} (positive : n ≠ 0) : 0 < (n * 3).toNat := by
  rw [strideToNat]
  refine Nat.pos_of_ne_zero fun none => ?_
  have divides : 2^32 ∣ n.toNat :=
    Nat.Coprime.dvd_of_dvd_mul_right (show Nat.Coprime (2^32) 3 by decide) (Nat.dvd_of_mod_eq_zero none)
  exact absurd (Nat.le_of_dvd (positiveToNat positive) divides) (Nat.not_le.mpr n.toNat_lt)

structure Padding (frame padded : RgbFrame) : Prop where
  width : padded.width = evenUp frame.width
  height : padded.height = evenUp frame.height
  length : padded.data.length = (padded.width * 3).toNat * padded.height.toNat
  rows : (List.range frame.height.toNat).foldlM
    (copyRow frame.data (frame.width * 3).toNat (padded.width * 3).toNat)
      (List.replicate ((padded.width * 3).toNat * padded.height.toNat) 0) = some padded.data

theorem paddingSource (odd : ¬ (frame.width.toNat % 2 = 0 ∧ frame.height.toNat % 2 = 0))
    (done : padToEven frame = some padded) : Padding frame padded := by
  rw [← evenUpSelf,← evenUpSelf] at odd
  simp only [padToEven,if_neg odd] at done
  split at done
  · cases done
  · rename_i data copied
    cases done
    exact ⟨rfl,rfl,(rowsInside copied).1.trans List.length_replicate,copied⟩

theorem Padding.last (padding : Padding frame padded) (high : frame.height ≠ 0) :
    frame.height.toNat * (frame.width * 3).toNat ≤ frame.data.length ∧
      (frame.width * 3).toNat ≤ (padded.width * 3).toNat * padded.height.toNat := by
  have positive := positiveToNat high
  have inside := (rowsInside padding.rows).2
  have first := (inside 0 positive).2
  have last := (inside _ (Nat.sub_one_lt_of_lt positive)).1
  rw [← Nat.succ_mul,Nat.succ_eq_add_one,Nat.sub_add_cancel positive] at last
  rw [List.length_replicate] at first
  exact ⟨last,by omega⟩

theorem Padding.positive (padding : Padding frame padded) (wide : frame.width ≠ 0) (high : frame.height ≠ 0) :
    padded.width ≠ 0 ∧ padded.height ≠ 0 := by
  have fits := (stridePositive wide).trans_le (padding.last high).2
  refine ⟨fun none => ?_,fun none => ?_⟩
  · rw [none,show ((0 : UInt32) * 3).toNat = 0 from rfl,Nat.zero_mul] at fits
    exact Nat.not_lt_zero _ fits
  · rw [none,show (0 : UInt32).toNat = 0 from rfl,Nat.mul_zero] at fits
    exact Nat.not_lt_zero _ fits

theorem Padding.taken (padding : Padding frame padded) (wide : frame.width ≠ 0) (high : frame.height ≠ 0)
    (e : VideoError) : rgbToI420 colours padded ≠ some (.error e) := by
  intro failed
  simp only [rgbToI420,if_neg (not_or.mpr (padding.positive wide high))] at failed
  split at failed
  · rename_i short
    have wrapped : (padded.width * 3).toNat * padded.height.toNat % 2^32 =
        padded.width.toNat * padded.height.toNat * 3 % 2^32 := by
      rw [strideToNat,Nat.mod_mul_mod,Nat.mul_right_comm]
    have := Nat.mod_le ((padded.width * 3).toNat * padded.height.toNat) (2^32)
    rw [rgbSize,padding.length] at short
    omega
  · split at failed <;> cases failed

theorem Padding.even (padding : Padding frame padded) :
    padded.width.toNat % 2 = 0 ∧ padded.height.toNat % 2 = 0 := by
  rw [padding.width,padding.height,evenUpToNat,evenUpToNat]
  exact ⟨Nat.mul_mod_left _ _,Nat.mul_mod_left _ _⟩

theorem evenUpExact {n : UInt32} (positive : evenUp n ≠ 0) : (evenUp n).toNat = n.toNat + n.toNat % 2 := by
  by_cases fits : n.toNat + n.toNat % 2 < 2^32
  · exact evenUpFits fits
  · exact absurd (evenUpWraps fits) positive

theorem Padding.pixel (padding : Padding frame padded) (wider : frame.width.toNat ≤ padded.width.toNat)
    (narrow : padded.width.toNat * 3 < 2^32) {row col : Nat} (inRow : row < padded.height.toNat)
    (inCol : col < padded.width.toNat) :
    rgbAt padded.data ((row * padded.width.toNat + col) * 3) = pixelOf frame row col := by
  have strides : (frame.width * 3).toNat = frame.width.toNat * 3 ∧
      (padded.width * 3).toNat = padded.width.toNat * 3 := by
    rw [strideToNat,strideToNat,Nat.mod_eq_of_lt narrow,Nat.mod_eq_of_lt (by omega)]
    exact ⟨rfl,rfl⟩
  have cell (j : Nat) (part : j < 3) : padded.data.getD ((row * padded.width.toNat + col) * 3 + j) 0 =
      if row < frame.height.toNat ∧ col < frame.width.toNat then
        frame.data.getD ((row * frame.width.toNat + col) * 3 + j) 0 else 0 := by
    have at_ (w : Nat) : (row * w + col) * 3 + j = row * (w * 3) + (col * 3 + j) := by
      rw [Nat.add_mul,Nat.mul_assoc,Nat.add_assoc]
    have short : (frame.width * 3).toNat ≤ (padded.width * 3).toNat := by
      rw [strides.1,strides.2]
      omega
    have within : col * 3 + j < (padded.width * 3).toNat := by
      rw [strides.2]
      omega
    have read := @rowsCopied _ _ _ _ _ _ short padding.rows row _ within
    have before : (row < frame.height.toNat ∧ col * 3 + j < frame.width.toNat * 3) ↔
        row < frame.height.toNat ∧ col < frame.width.toNat := by omega
    have black : row * (padded.width.toNat * 3) + (col * 3 + j) < padded.width.toNat * 3 * padded.height.toNat :=
      rowMajorBelow inRow (by omega)
    rw [strides.1,strides.2,List.getElem?_replicate,if_pos black] at read
    rw [List.getD_eq_getElem?_getD,List.getD_eq_getElem?_getD,at_,at_,read]
    simp only [before]
    split <;> rfl
  rw [rgbAt,pixelOf,cell 1 (by decide),cell 2 (by decide)]
  have := cell 0 (by decide)
  rw [Nat.add_zero] at this
  rw [this]
  split <;> rfl

theorem evenFrame (even : frame.width.toNat % 2 = 0 ∧ frame.height.toNat % 2 = 0) : padToEven frame = some frame := by
  rw [← evenUpSelf,← evenUpSelf] at even
  simp only [padToEven,if_pos even]

theorem evenExact (even : frame.width.toNat % 2 = 0 ∧ frame.height.toNat % 2 = 0)
    (ok : rgbToI420 colours frame = some (.ok buffer)) : Exact colours frame buffer := by
  obtain ⟨read,planes⟩ := conversionSpec even.1 even.2 ok
  have inside (row : Nat) (inRow : row < frame.height.toNat) (col : Nat) (inCol : col < frame.width.toNat) :
      rgbAt frame.data ((row * frame.width.toNat + col) * 3) = pixelOf frame row col := (if_pos ⟨inRow,inCol⟩).symm
  exact cellsExact ⟨(evenUpSelf.mpr even.1).symm,(evenUpSelf.mpr even.2).symm⟩ ⟨Nat.le_refl _,Nat.le_refl _⟩ read
    (evenFrame even) inside ok planes

theorem evenConverted (wide : frame.width ≠ 0) (high : frame.height ≠ 0)
    (even : frame.width.toNat % 2 = 0 ∧ frame.height.toNat % 2 = 0) :
    ExactOrError colours frame ↔ frame.data.length < frame.width.toNat * frame.height.toNat * 3 % 2^32 ∨
      frame.width.toNat * frame.height.toNat < 2^32 ∧
        frame.width.toNat * frame.height.toNat * 3 ≤ frame.data.length := by
  rw [ExactOrError,padAndConvert,evenFrame even]
  dsimp only
  constructor
  · intro exact_
    split at exact_
    · exact exact_.elim
    · rename_i e failed
      left
      simp only [rgbToI420,if_neg (not_or.mpr ⟨wide,high⟩)] at failed
      split at failed
      · rename_i short
        rwa [rgbSize] at short
      · split at failed <;> cases failed
    · rename_i buffer ok
      exact .inr ⟨(rgbToI420Spec ok).area,(conversionSpec even.1 even.2 ok).1⟩
  · rintro (short | ⟨area,enough⟩)
    · rw [← rgbSize] at short
      simp only [rgbToI420,if_neg (not_or.mpr ⟨wide,high⟩),if_pos short]
    · obtain ⟨buffer,ok⟩ := @conversionTotal colours _ wide high even.1 even.2 area enough
      rw [ok]
      exact evenExact even ok

theorem Padding.fits (padding : Padding frame padded) (wide : frame.width ≠ 0) (high : frame.height ≠ 0)
    (ok : rgbToI420 colours padded = some (.ok buffer)) :
    (padded.width.toNat * 3 < 2^32 ∧ padded.width.toNat * padded.height.toNat < 2^32 ∧
      frame.width.toNat * frame.height.toNat * 3 ≤ frame.data.length) ∧
    padded.width.toNat = frame.width.toNat + frame.width.toNat % 2 ∧
      padded.height.toNat = frame.height.toNat + frame.height.toNat % 2 := by
  have positive := padding.positive wide high
  have width : padded.width.toNat = frame.width.toNat + frame.width.toNat % 2 := by
    rw [padding.width]
    exact evenUpExact (padding.width ▸ positive.1)
  have height : padded.height.toNat = frame.height.toNat + frame.height.toNat % 2 := by
    rw [padding.height]
    exact evenUpExact (padding.height ▸ positive.2)
  have read := (conversionSpec padding.even.1 padding.even.2 ok).1
  rw [padding.length,Nat.mul_right_comm] at read
  have stride := Nat.le_of_mul_le_mul_right read (positiveToNat positive.2)
  have narrow : padded.width.toNat * 3 < 2^32 := stride.trans_lt (UInt32.toNat_lt _)
  have source := (padding.last high).1
  rw [strideToNat,Nat.mod_eq_of_lt (by omega),Nat.mul_comm,Nat.mul_right_comm] at source
  exact ⟨⟨narrow,(rgbToI420Spec ok).area,source⟩,width,height⟩

theorem Padding.exact (padding : Padding frame padded) (done : padToEven frame = some padded) (wide : frame.width ≠ 0)
    (high : frame.height ≠ 0) (ok : rgbToI420 colours padded = some (.ok buffer)) : Exact colours frame buffer := by
  obtain ⟨⟨narrow,_,read⟩,width,height⟩ := padding.fits wide high ok
  have wider : frame.width.toNat ≤ padded.width.toNat := by omega
  exact cellsExact ⟨padding.width,padding.height⟩ ⟨wider,by omega⟩ read done
    (fun row inRow col inCol => padding.pixel wider narrow inRow inCol) ok
    (conversionSpec padding.even.1 padding.even.2 ok).2

theorem paddingTotal (odd : ¬ (frame.width.toNat % 2 = 0 ∧ frame.height.toNat % 2 = 0))
    (width : (evenUp frame.width).toNat = frame.width.toNat + frame.width.toNat % 2)
    (height : (evenUp frame.height).toNat = frame.height.toNat + frame.height.toNat % 2)
    (narrow : (evenUp frame.width).toNat * 3 < 2^32)
    (enough : frame.width.toNat * frame.height.toNat * 3 ≤ frame.data.length) :
    ∃ padded, padToEven frame = some padded := by
  have old : (frame.width * 3).toNat = frame.width.toNat * 3 := by
    rw [strideToNat,Nat.mod_eq_of_lt (by omega)]
  have new : (evenUp frame.width * 3).toNat = (evenUp frame.width).toNat * 3 := by
    rw [strideToNat,Nat.mod_eq_of_lt narrow]
  have read (row : Nat) (below : row < frame.height.toNat) :
      row * (frame.width * 3).toNat + (frame.width * 3).toNat ≤ frame.data.length := by
    have upTo := Nat.mul_le_mul_right (frame.width * 3).toNat (show row + 1 ≤ frame.height.toNat from below)
    have whole : frame.height.toNat * (frame.width * 3).toNat = frame.width.toNat * frame.height.toNat * 3 := by
      rw [old,← Nat.mul_assoc,Nat.mul_comm frame.height.toNat]
    rw [Nat.succ_mul] at upTo
    omega
  have fits (row : Nat) (below : row < frame.height.toNat) :
      row * (evenUp frame.width * 3).toNat + (frame.width * 3).toNat ≤
        (List.replicate ((evenUp frame.width * 3).toNat * (evenUp frame.height).toNat) (0 : Byte)).length := by
    have upTo := Nat.mul_le_mul_right (evenUp frame.width * 3).toNat
      (show row + 1 ≤ (evenUp frame.height).toNat by omega)
    rw [Nat.succ_mul,Nat.mul_comm (evenUp frame.height).toNat] at upTo
    rw [List.length_replicate]
    omega
  obtain ⟨data,copied⟩ := rowsTotal read fits
  rw [← evenUpSelf,← evenUpSelf] at odd
  simp only [padToEven,if_neg odd,copied]
  exact ⟨_,rfl⟩

theorem oddConverted (wide : frame.width ≠ 0) (high : frame.height ≠ 0)
    (odd : ¬ (frame.width.toNat % 2 = 0 ∧ frame.height.toNat % 2 = 0)) :
    ExactOrError colours frame ↔ (frame.width.toNat + frame.width.toNat % 2) * 3 < 2^32 ∧
      (frame.width.toNat + frame.width.toNat % 2) * (frame.height.toNat + frame.height.toNat % 2) < 2^32 ∧
        frame.width.toNat * frame.height.toNat * 3 ≤ frame.data.length := by
  rw [ExactOrError,padAndConvert]
  constructor
  · intro exact_
    split at exact_
    · exact exact_.elim
    · rename_i e failed
      split at failed
      · cases failed
      · rename_i padded done
        exact absurd failed ((paddingSource odd done).taken wide high e)
    · rename_i buffer ok
      split at ok
      · cases ok
      · rename_i padded done
        obtain ⟨fits,width,height⟩ := (paddingSource odd done).fits wide high ok
        rwa [width,height] at fits
  · rintro ⟨narrow,area,enough⟩
    have wide' := positiveToNat wide
    have high' := positiveToNat high
    have width : (evenUp frame.width).toNat = frame.width.toNat + frame.width.toNat % 2 := evenUpFits (by omega)
    have height : (evenUp frame.height).toNat = frame.height.toNat + frame.height.toNat % 2 :=
      evenUpFits ((Nat.le_mul_of_pos_left _ (by omega)).trans_lt area)
    obtain ⟨padded,done⟩ := paddingTotal odd width height (width.symm ▸ narrow) enough
    have padding := paddingSource odd done
    have positive := padding.positive wide high
    have dims : padded.width.toNat = frame.width.toNat + frame.width.toNat % 2 ∧
        padded.height.toNat = frame.height.toNat + frame.height.toNat % 2 := by
      rw [padding.width,padding.height]
      exact ⟨width,height⟩
    have enough' : padded.width.toNat * padded.height.toNat * 3 ≤ padded.data.length := by
      rw [padding.length,strideToNat,Nat.mod_eq_of_lt (dims.1.symm ▸ narrow),Nat.mul_right_comm]
    obtain ⟨buffer,ok⟩ := @conversionTotal colours _ positive.1 positive.2 padding.even.1 padding.even.2
      (dims.1.symm ▸ dims.2.symm ▸ area) enough'
    rw [done]
    dsimp only
    rw [ok]
    exact padding.exact done wide high ok

theorem framesConverted (colours : Colours) (frame : RgbFrame) (wide : frame.width ≠ 0) (high : frame.height ≠ 0) :
    ExactOrError colours frame ↔ Fitting frame := by
  by_cases even : frame.width.toNat % 2 = 0 ∧ frame.height.toNat % 2 = 0
  · rw [evenConverted wide high even,Fitting]
    simp only [if_pos even]
  · rw [oddConverted wide high even,Fitting]
    simp only [if_neg even]

end Whole

def meanColours : Colours := ⟨fun r g b => (r + g + b) / 3,fun r _ b => (b - r) / 2,fun r g _ => (r - g) / 2⟩

theorem framesConvertedSmall : ExactOrError meanColours ⟨[9,9,9],1,1⟩ :=
  (framesConverted meanColours ⟨[9,9,9],1,1⟩ (by decide) (by decide)).mpr (by decide)

theorem emptyPixelPanics : ¬ ∀ (colours : Colours) (frame : RgbFrame), frame.width ≠ 0 → frame.height ≠ 0 →
    ExactOrError colours frame := by
  intro exact_
  have none : padAndConvert meanColours ⟨[],1,1⟩ = none := by decide
  have := exact_ meanColours ⟨[],1,1⟩ (by decide) (by decide)
  rw [ExactOrError,none] at this
  exact this

end Vscreen.Video
