import Vscreen.AudioEncode
import Vscreen.Config

/-! Frames from JPEG to I420 (vscreen-video: decode.rs, convert.rs and `pad_to_even`
of pipeline.rs). What zune-jpeg reads of an input and the colour functions of one
pixel are parameters. `none` is a panic: an index or a slice out of range. -/
namespace Vscreen.Video

inductive VideoError where
  | decodeFailed (message : Text)
  | frameTooLarge (size max : Nat)
  | conversionFailed (message : Text)
  | encodeFailed (message : Text)
  | invalidResolution (width height : UInt32)
  deriving DecidableEq, Repr

structure RgbFrame where
  data : List Byte
  width : UInt32
  height : UInt32
  deriving DecidableEq, Repr

structure I420Buffer where
  y : List Byte
  u : List Byte
  v : List Byte
  width : UInt32
  height : UInt32
  deriving DecidableEq, Repr

def ySize (width height : UInt32) : Nat := (width * height).toNat

def uvSize (width height : UInt32) : Nat := ((width + 1) / 2 * ((height + 1) / 2)).toNat

structure JpegDecoder where
  headers : Except Text Unit
  dimensions : Option (Nat × Nat)
  pixels : Except Text (List Byte)

def maxFrameSize : Nat := 2 * 1024 * 1024

def decodeJpeg (data : List Byte) (decoder : JpegDecoder) : Except VideoError RgbFrame :=
  if maxFrameSize < data.length then .error (.frameTooLarge data.length maxFrameSize)
  else if data.isEmpty then .error (.decodeFailed "empty input".toList)
  else match decoder.headers with
  | .error e => .error (.decodeFailed ("header: ".toList ++ e))
  | .ok () => match decoder.dimensions with
    | none => .error (.decodeFailed "no dimensions after header decode".toList)
    | some (width,height) =>
      if UInt32.ofNat width = 0 ∨ UInt32.ofNat height = 0 then
        .error (.invalidResolution (UInt32.ofNat width) (UInt32.ofNat height))
      else match decoder.pixels with
      | .error e => .error (.decodeFailed ("pixels: ".toList ++ e))
      | .ok pixels => .ok ⟨pixels,UInt32.ofNat width,UInt32.ofNat height⟩

def sliceOf (data : List Byte) (start stop : Nat) : Option (List Byte) :=
  if start ≤ stop ∧ stop ≤ data.length then some (slice data start stop) else none

def copyInto (target : List Byte) (start : Nat) (source : List Byte) : Option (List Byte) :=
  if start + source.length ≤ target.length then
    some (target.take start ++ (source ++ target.drop (start + source.length)))
  else none

def evenUp (n : UInt32) : UInt32 := (n + 1) &&& ~~~1

def copyRow (data : List Byte) (oldStride newStride : Nat) (padded : List Byte) (row : Nat) : Option (List Byte) :=
  match sliceOf data (row * oldStride) (row * oldStride + oldStride) with
  | none => none
  | some source => copyInto padded (row * newStride) source

def padToEven (frame : RgbFrame) : Option RgbFrame :=
  let targetW := evenUp frame.width
  let targetH := evenUp frame.height
  if targetW = frame.width ∧ targetH = frame.height then some frame
  else
    let oldStride := (frame.width * 3).toNat
    let newStride := (targetW * 3).toNat
    let padded := List.replicate (newStride * targetH.toNat) 0
    match (List.range frame.height.toNat).foldlM (copyRow frame.data oldStride newStride) padded with
    | none => none
    | some data => some ⟨data,targetW,targetH⟩

structure Colours where
  luma : Byte → Byte → Byte → Byte
  chromaU : Byte → Byte → Byte → Byte
  chromaV : Byte → Byte → Byte → Byte

structure Planes where
  y : List Byte
  u : List Byte
  v : List Byte

def setAt (plane : List Byte) (i : Nat) (b : Byte) : Option (List Byte) :=
  if i < plane.length then some (plane.set i b) else none

section Convert
variable (colours : Colours)

def convertPixel (rgb : List Byte) (w uvW : Nat) (planes : Planes) (pixel : Nat × Nat) : Option Planes :=
  let (row,col) := pixel
  let idx := (row * w + col) * 3
  match rgb[idx]?,rgb[idx + 1]?,rgb[idx + 2]? with
  | some r,some g,some b => match setAt planes.y (row * w + col) (colours.luma r g b) with
    | none => none
    | some y =>
      if row % 2 = 0 ∧ col % 2 = 0 then
        let uvIdx := row / 2 * uvW + col / 2
        match setAt planes.u uvIdx (colours.chromaU r g b),setAt planes.v uvIdx (colours.chromaV r g b) with
        | some u,some v => some ⟨y,u,v⟩
        | _,_ => none
      else some {planes with y := y}
  | _,_,_ => none

def pixels (w h : Nat) : List (Nat × Nat) := (List.range h).flatMap fun row => (List.range w).map fun col => (row,col)

def rgbToI420Sw (rgb : List Byte) (width height : UInt32) (planes : Planes) : Option Planes :=
  (pixels width.toNat height.toNat).foldlM
    (convertPixel colours rgb width.toNat ((width.toNat + 1) / 2)) planes

def rgbToI420 (frame : RgbFrame) : Option (Except VideoError I420Buffer) :=
  let width := frame.width
  let height := frame.height
  if width = 0 ∨ height = 0 then some (.error (.invalidResolution width height))
  else
    let expectedRgbSize := (width * height * 3).toNat
    if frame.data.length < expectedRgbSize then
      some (.error (.conversionFailed ("RGB buffer too small: ".toList ++ Text.decimal frame.data.length ++
        " < ".toList ++ Text.decimal expectedRgbSize)))
    else
      let zeroed (n : Nat) : List Byte := List.replicate n 0
      match rgbToI420Sw colours frame.data width height
          ⟨zeroed (ySize width height),zeroed (uvSize width height),zeroed (uvSize width height)⟩ with
      | none => none
      | some planes => some (.ok ⟨planes.y,planes.u,planes.v,width,height⟩)

end Convert

theorem foldlInvariant {σ α : Type} {f : σ → α → Option σ} (inv : σ → Prop)
    (keeps : ∀ s a s', inv s → f s a = some s' → inv s') {l : List α} {s s' : σ} (start : inv s)
    (done : l.foldlM f s = some s') : inv s' := by
  induction l generalizing s with
  | nil => cases done; exact start
  | cons a l ih =>
    rw [List.foldlM_cons] at done
    obtain ⟨s₁,taken,rest⟩ := Option.bind_eq_some_iff.mp done
    exact ih (keeps s a s₁ start taken) rest

theorem foldlEach {σ α : Type} {f : σ → α → Option σ} (inv : σ → Prop)
    (keeps : ∀ s a s', inv s → f s a = some s' → inv s') {l : List α} {s s' : σ} (start : inv s)
    (done : l.foldlM f s = some s') {a : α} (member : a ∈ l) : ∃ t t', inv t ∧ f t a = some t' := by
  induction l generalizing s with
  | nil => cases member
  | cons b l ih =>
    rw [List.foldlM_cons] at done
    obtain ⟨s₁,taken,rest⟩ := Option.bind_eq_some_iff.mp done
    rcases List.mem_cons.mp member with rfl | later
    · exact ⟨s,s₁,start,taken⟩
    · exact ih (keeps s b s₁ start taken) rest later

theorem setAtSome {plane plane' : List Byte} {i : Nat} {b : Byte} (set : setAt plane i b = some plane') :
    i < plane.length ∧ plane'.length = plane.length := by
  simp only [setAt] at set
  split at set
  · rename_i inside
    cases set
    exact ⟨inside,List.length_set⟩
  · cases set

structure Planes.Sized (planes : Planes) (yLength uvLength : Nat) : Prop where
  y : planes.y.length = yLength
  u : planes.u.length = uvLength
  v : planes.v.length = uvLength

section Sizes
variable {colours : Colours} {rgb : List Byte} {w uvW yLength uvLength : Nat} {planes planes' : Planes}

theorem convertPixelSpec {pixel : Nat × Nat} (sized : planes.Sized yLength uvLength)
    (taken : convertPixel colours rgb w uvW planes pixel = some planes') :
    pixel.1 * w + pixel.2 < yLength ∧ planes'.Sized yLength uvLength := by
  obtain ⟨row,col⟩ := pixel
  simp only [convertPixel] at taken
  split at taken
  · split at taken
    · cases taken
    · rename_i y luma
      obtain ⟨inside,length⟩ := setAtSome luma
      have fits : row * w + col < yLength := sized.y ▸ inside
      split at taken
      · split at taken
        · rename_i u v first second
          cases taken
          exact ⟨fits,length.trans sized.y,(setAtSome first).2.trans sized.u,(setAtSome second).2.trans sized.v⟩
        · cases taken
      · cases taken
        exact ⟨fits,length.trans sized.y,sized.u,sized.v⟩
  · cases taken

theorem memPixels {w h row col : Nat} (inRow : row < h) (inCol : col < w) : (row,col) ∈ pixels w h :=
  List.mem_flatMap.mpr ⟨row,List.mem_range.mpr inRow,List.mem_map.mpr ⟨col,List.mem_range.mpr inCol,rfl⟩⟩

theorem rgbToI420SwSpec {width height : UInt32} (sized : planes.Sized yLength uvLength)
    (done : rgbToI420Sw colours rgb width height planes = some planes') : planes'.Sized yLength uvLength ∧
      ∀ row < height.toNat, ∀ col < width.toNat, row * width.toNat + col < yLength := by
  have keeps : ∀ (s : Planes) (pixel : Nat × Nat) (s' : Planes), s.Sized yLength uvLength →
      convertPixel colours rgb width.toNat ((width.toNat + 1) / 2) s pixel = some s' → s'.Sized yLength uvLength :=
    fun s pixel s' before taken => (convertPixelSpec before taken).2
  refine ⟨foldlInvariant (·.Sized yLength uvLength) keeps sized done,?_⟩
  intro row inRow col inCol
  obtain ⟨t,t',before,taken⟩ := foldlEach (·.Sized yLength uvLength) keeps sized done (memPixels inRow inCol)
  exact (convertPixelSpec before taken).1

end Sizes

structure Converted (frame : RgbFrame) (buffer : I420Buffer) : Prop where
  width : buffer.width = frame.width
  height : buffer.height = frame.height
  area : frame.width.toNat * frame.height.toNat < 2^32
  y : buffer.y.length = ySize frame.width frame.height
  u : buffer.u.length = uvSize frame.width frame.height
  v : buffer.v.length = uvSize frame.width frame.height

theorem positiveToNat {n : UInt32} (positive : n ≠ 0) : 0 < n.toNat := by
  by_contra none
  exact positive (UInt32.toNat_inj.mp (by simpa using none))

theorem rgbToI420Spec {colours : Colours} {frame : RgbFrame} {buffer : I420Buffer}
    (ok : rgbToI420 colours frame = some (.ok buffer)) : Converted frame buffer := by
  simp only [rgbToI420] at ok
  split at ok
  · cases ok
  · rename_i positive
    obtain ⟨wide,high⟩ := not_or.mp positive
    split at ok
    · cases ok
    · split at ok
      · cases ok
      · rename_i planes done
        cases ok
        obtain ⟨sized,placed⟩ := rgbToI420SwSpec
          ⟨List.length_replicate,List.length_replicate,List.length_replicate⟩ done
        -- the last pixel has its place in a plane whose size is taken modulo 2^32
        have last := placed _ (Nat.sub_one_lt_of_lt (positiveToNat high)) _ (Nat.sub_one_lt_of_lt (positiveToNat wide))
        have rows : (frame.height.toNat - 1) * frame.width.toNat + frame.width.toNat =
            frame.width.toNat * frame.height.toNat := by
          rw [← Nat.succ_mul,Nat.succ_eq_add_one,Nat.sub_add_cancel (positiveToNat high),Nat.mul_comm]
        have area : frame.width.toNat * frame.height.toNat ≤ ySize frame.width frame.height := by
          have := positiveToNat wide
          omega
        exact ⟨rfl,rfl,area.trans_lt (UInt32.toNat_lt _),sized.y,sized.u,sized.v⟩

end Vscreen.Video
