import Vscreen.Utf8Cut

/-! Lossy decoding of UTF-8 that was cut into pieces: what stands between characters
is kept, and every character that is cut leaves replacement characters on both sides. -/
namespace Vscreen.Utf8

def replacement : Char := '\uFFFD'

theorem badLengthPositive (bytes : List Byte) : 0 < badLength bytes := by
  unfold badLength
  split
  · split
    · exact Nat.one_pos
    · split <;> decide
  · exact Nat.one_pos

theorem lossyFuel {fuel : Nat} {bytes : List Byte} (enough : bytes.length ≤ fuel) :
    lossyFrom fuel bytes = fromUtf8Lossy bytes := by
  have all : ∀ n fuel fuel' (bytes : List Byte), bytes.length ≤ n → bytes.length ≤ fuel → bytes.length ≤ fuel' →
      lossyFrom fuel bytes = lossyFrom fuel' bytes := by
    intro n
    induction n with
    | zero =>
      intro fuel fuel' bytes short _ _
      cases List.length_eq_zero_iff.mp (Nat.le_zero.mp short)
      simp [lossyFrom]
    | succ n ih =>
      intro fuel fuel' bytes short enough enough'
      cases bytes with
      | nil => simp [lossyFrom]
      | cons b rest =>
        rw [List.length_cons] at short enough enough'
        obtain ⟨fuel,rfl⟩ := Nat.exists_eq_add_of_le' (show 1 ≤ fuel by omega)
        obtain ⟨fuel',rfl⟩ := Nat.exists_eq_add_of_le' (show 1 ≤ fuel' by omega)
        have smaller (count : Nat) (positive : 0 < count) : ((b::rest).drop count).length ≤ rest.length := by
          rw [List.length_drop,List.length_cons]
          omega
        rw [lossyFrom,lossyFrom]
        split
        · have := smaller _ (badLengthPositive (b::rest))
          rw [ih fuel fuel' _ (by omega) (by omega) (by omega)]
        · rename_i c first
          have := smaller _ c.utf8Size_pos
          rw [ih fuel fuel' _ (by omega) (by omega) (by omega)]
  exact all bytes.length fuel bytes.length bytes (Nat.le_refl _) enough (Nat.le_refl _)

theorem lossyCons (b : Byte) (rest : List Byte) : fromUtf8Lossy (b::rest) = match firstChar (b::rest) with
    | none => replacement::fromUtf8Lossy ((b::rest).drop (badLength (b::rest)))
    | some c => c::fromUtf8Lossy ((b::rest).drop c.utf8Size) := by
  have fewer (count : Nat) (positive : 0 < count) : ((b::rest).drop count).length ≤ rest.length := by
    rw [List.length_drop,List.length_cons]
    omega
  rw [fromUtf8Lossy,List.length_cons,lossyFrom]
  cases firstChar (b::rest) with
  | none =>
    dsimp only
    rw [lossyFuel (fewer _ (badLengthPositive (b::rest)))]
    rfl
  | some c =>
    dsimp only
    rw [lossyFuel (fewer _ c.utf8Size_pos)]

theorem lossyAppend (a : Text) (rest : List Byte) : fromUtf8Lossy (encode a ++ rest) = a ++ fromUtf8Lossy rest := by
  induction a with
  | nil => rfl
  | cons c a ih =>
    have first := firstCharEncode c (encode a ++ rest)
    have size : (String.utf8EncodeChar c).length = c.utf8Size := String.length_utf8EncodeChar c
    rw [encodeCons,List.append_assoc]
    obtain ⟨b,more,shape,-⟩ := encodeCharCons c (encode a ++ rest)
    rw [shape] at first ⊢
    rw [lossyCons,first]
    dsimp only
    rw [← shape,← size,List.drop_left,ih]
    rfl

def Continuing (bytes : List Byte) : Prop := ∀ b ∈ bytes, ¬ b.IsUTF8FirstByte

theorem tailContinuing {c : Char} {y y' : List Byte} (shape : String.utf8EncodeChar c = y ++ y') (nonempty : y ≠ []) :
    Continuing y' := by
  intro b member first
  obtain ⟨i,inside,rfl⟩ := List.mem_iff_getElem.mp member
  have room : y.length + i < (String.utf8EncodeChar c).length := by
    rw [shape,List.length_append]
    omega
  have same : (String.utf8EncodeChar c)[y.length + i] = y'[i] := by
    simp [shape]
  have place := (@UInt8.isUTF8FirstByte_getElem_utf8EncodeChar c (y.length + i) room).mp (same ▸ first)
  have := List.length_pos_of_ne_nil nonempty
  omega

end Vscreen.Utf8
