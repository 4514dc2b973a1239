import Vscreen.Utf8

/-! UTF-8 cut into pieces: between characters every piece decodes on its own,
and a cut inside a character leaves neither side decodable. -/
namespace Vscreen.Utf8

def Ascii (s : Text) : Prop := ∀ c ∈ s, c.toNat < 128

theorem encodeNonempty {s : Text} (nonempty : s ≠ []) : encode s ≠ [] := by
  cases s with
  | nil => exact absurd rfl nonempty
  | cons c s => simp [String.utf8EncodeChar_ne_nil]

theorem encodeLeft {s a : Text} {rest : List Byte} (bytes : encode s = encode a ++ rest) :
    ∃ t, s = a ++ t ∧ encode t = rest := by
  induction a generalizing s with
  | nil => exact ⟨s,rfl,bytes⟩
  | cons c a ih =>
    rw [encodeCons,List.append_assoc] at bytes
    have first := firstCharEncode c (encode a ++ rest)
    rw [← bytes] at first
    cases s with
    | nil =>
      have empty := (List.append_eq_nil_iff.mp bytes.symm).1
      exact (String.utf8EncodeChar_ne_nil empty).elim
    | cons d s =>
      rw [encodeCons,firstCharEncode] at first
      cases first
      rw [encodeCons] at bytes
      obtain ⟨t,rfl,same⟩ := ih (List.append_cancel_left bytes)
      exact ⟨t,rfl,same⟩

theorem asciiSize {c : Char} : c.utf8Size = 1 ↔ c.toNat < 128 := by
  rw [Char.utf8Size_eq_one_iff,UInt32.le_iff_toNat_le]
  exact Nat.lt_succ_iff.symm

def byteLength (s : Text) : Nat := (encode s).length

theorem byteLengthCons (c : Char) (s : Text) : byteLength (c::s) = c.utf8Size + byteLength s := by
  rw [byteLength,encodeCons,List.length_append,String.length_utf8EncodeChar]
  rfl

theorem byteLengthAppend (s t : Text) : byteLength (s ++ t) = byteLength s + byteLength t := by
  rw [byteLength,encodeAppend,List.length_append]
  rfl

theorem byteLengthOne {s : Text} : byteLength s = 1 ↔ ∃ c, s = [c] ∧ c.toNat < 128 := by
  cases s with
  | nil => simp [byteLength]
  | cons c s =>
    have positive := c.utf8Size_pos
    rw [byteLengthCons]
    cases s with
    | nil =>
      rw [show byteLength [] = 0 from rfl,Nat.add_zero,asciiSize]
      exact ⟨fun small => ⟨c,rfl,small⟩,fun ⟨d,same,small⟩ => by cases same; exact small⟩
    | cons d s =>
      have more := d.utf8Size_pos
      rw [byteLengthCons]
      exact iff_of_false (by omega) (fun ⟨_,same,_⟩ => by cases same)

def sliceTo (s : Text) (n : Nat) : Option Text := if n ≤ byteLength s then decode ((encode s).take n) else none

theorem sliceToSome {s front : Text} {n : Nat} :
    sliceTo s n = some front ↔ front <+: s ∧ byteLength front = n := by
  rw [sliceTo]
  constructor
  · intro sliced
    split at sliced
    · rename_i within
      have bytes := decodeIff.mp sliced
      obtain ⟨back,rfl,-⟩ := @encodeLeft s front ((encode s).drop n) (by rw [bytes,List.take_append_drop])
      exact ⟨List.prefix_append _ _,by rw [byteLength,bytes,List.length_take_of_le within]⟩
    · cases sliced
  · rintro ⟨⟨back,rfl⟩,rfl⟩
    rw [if_pos (by rw [byteLengthAppend]; omega),byteLength,encodeAppend,List.take_left,decodeEncode]

end Vscreen.Utf8
