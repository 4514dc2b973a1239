import Vscreen.Utf8Lossy

/-! The pieces of bytes that lossy decoding turns into characters: what stands before an
ASCII byte is decoded on its own, and where a place of the decoded text falls in the bytes. -/
namespace Vscreen.Utf8

inductive Piece : List Byte → Nat → List Byte → Prop where
  | character (c : Char) (rest : List Byte) : Piece (String.utf8EncodeChar c ++ rest) c.utf8Size rest
  | replaced {bytes : List Byte} (some : bytes ≠ []) (unread : firstChar bytes = none) :
      Piece bytes replacement.utf8Size (bytes.drop (badLength bytes))

/-- The bytes whose decoded text has its `n`th byte inside a character. -/
inductive Inside : List Byte → Nat → Prop where
  | here {bytes size rest n} (piece : Piece bytes size rest) (started : 0 < n) (unfinished : n < size) : Inside bytes n
  | later {bytes size rest n} (piece : Piece bytes size rest) (inside : Inside rest n) : Inside bytes (size + n)

theorem lossyCharacter (c : Char) (rest : List Byte) :
    fromUtf8Lossy (String.utf8EncodeChar c ++ rest) = c::fromUtf8Lossy rest := by
  have one := lossyAppend [c] rest
  rwa [encodeCons,encodeNil,List.append_nil] at one

theorem lossyReplaced {bytes : List Byte} (some : bytes ≠ []) (unread : firstChar bytes = none) :
    fromUtf8Lossy bytes = replacement::fromUtf8Lossy (bytes.drop (badLength bytes)) := by
  cases bytes with
  | nil => exact absurd rfl some
  | cons b rest => rw [lossyCons,unread]

theorem pieceLossy {bytes rest : List Byte} {size : Nat} (piece : Piece bytes size rest) :
    ∃ c, fromUtf8Lossy bytes = c::fromUtf8Lossy rest ∧ c.utf8Size = size := by
  cases piece with
  | character c => exact ⟨c,lossyCharacter c rest,rfl⟩
  | replaced some unread => exact ⟨replacement,lossyReplaced some unread,rfl⟩

theorem pieceShorter {bytes rest : List Byte} {size : Nat} (piece : Piece bytes size rest) :
    rest.length < bytes.length := by
  cases piece with
  | character c =>
    have positive := c.utf8Size_pos
    rw [List.length_append,String.length_utf8EncodeChar]
    omega
  | replaced some unread =>
    have positive := badLengthPositive bytes
    have long := List.length_pos_of_ne_nil some
    rw [List.length_drop]
    omega

theorem firstPiece {bytes : List Byte} (some : bytes ≠ []) : ∃ size rest, Piece bytes size rest := by
  cases found : firstChar bytes with
  | none => exact ⟨_,_,.replaced some found⟩
  | some c =>
    rw [firstCharSome found]
    exact ⟨_,_,.character c _⟩

theorem pieceInduction {motive : List Byte → Prop} (nil : motive [])
    (piece : ∀ {bytes size rest}, Piece bytes size rest → motive rest → motive bytes) (bytes : List Byte) : motive bytes := by
  induction count : bytes.length using Nat.strongRecOn generalizing bytes with
  | _ n ih =>
    by_cases empty : bytes = []
    · rwa [empty]
    · obtain ⟨size,rest,first⟩ := firstPiece empty
      exact piece first (ih rest.length (count ▸ pieceShorter first) rest rfl)

section Ascii
variable {b : Byte} {y z : List Byte}

theorem asciiLeads (ascii : b < 0x80) : b.IsUTF8FirstByte :=
  forallByte (p := fun b => b < 0x80 → b.IsUTF8FirstByte) (by decide +kernel) b ascii

theorem asciiRefused (ascii : b < 0x80) (lead : Byte) : isContinuation b = false ∧ secondAllowed lead b = false := by
  have low := forallByte (p := fun b => b < 0x80 → ¬ 0x80 ≤ b ∧ ¬ 0x90 ≤ b ∧ ¬ 0xA0 ≤ b) (by decide +kernel) b ascii
  have outside : isContinuation b = false := by simp [isContinuation,low.1]
  refine ⟨outside,?_⟩
  unfold secondAllowed
  repeat' split
  all_goals simp [low,outside]

theorem firstCharBefore (ascii : b < 0x80) (some : y ≠ []) (unread : firstChar y = none) :
    firstChar (y ++ b::z) = none := by
  cases found : firstChar (y ++ b::z) with
  | none => rfl
  | some c =>
    have shape := firstCharSome found
    rcases List.append_eq_append_iff.mp shape with ⟨y',code,after⟩ | ⟨more,whole,-⟩
    · cases y' with
      | nil =>
        rw [List.append_nil] at code
        rw [← code,← List.append_nil (String.utf8EncodeChar c),firstCharEncode] at unread
        contradiction
      | cons d y' =>
        have same : b = d := (List.cons.inj after).1
        exact absurd (asciiLeads ascii) (tailContinuing code some b (same ▸ List.mem_cons_self))
    · rw [whole,firstCharEncode] at unread
      contradiction

theorem badLengthBefore (ascii : b < 0x80) (some : y ≠ []) :
    badLength (y ++ b::z) = badLength y ∧ badLength y ≤ y.length := by
  cases y with
  | nil => exact absurd rfl some
  | cons lead y => cases y with
    | nil =>
      have refused := (asciiRefused ascii lead).2
      simp [badLength,refused]
    | cons second third => cases third with
      | nil =>
        have outside := (asciiRefused ascii lead).1
        simp [badLength,outside]
        split <;> simp
      | cons d third =>
        simp [badLength]
        split
        · simp
        · split <;> simp

theorem lossyBefore (ascii : b < 0x80) (y z : List Byte) :
    fromUtf8Lossy (y ++ b::z) = fromUtf8Lossy y ++ fromUtf8Lossy (b::z) := by
  induction y using pieceInduction with
  | nil => rfl
  | @piece y size rest first ih => cases first with
    | character c => rw [List.append_assoc,lossyCharacter,lossyCharacter,ih,List.cons_append]
    | replaced some unread =>
      obtain ⟨same,within⟩ := badLengthBefore (z := z) ascii some
      rw [lossyReplaced some unread,lossyReplaced (by simp) (firstCharBefore ascii some unread),same,
        List.drop_append_of_le_length within,ih,List.cons_append]

end Ascii

theorem lossySuffix {bytes : List Byte} {x y : Text} (decoded : fromUtf8Lossy bytes = x ++ y) :
    ∃ front back, bytes = front ++ back ∧ fromUtf8Lossy back = y := by
  induction x generalizing bytes with
  | nil => exact ⟨[],bytes,rfl,decoded⟩
  | cons c x ih =>
    have some : bytes ≠ [] := by
      rintro rfl
      cases decoded
    obtain ⟨size,rest,first⟩ := firstPiece some
    obtain ⟨d,step,-⟩ := pieceLossy first
    rw [step] at decoded
    obtain ⟨front,back,split,same⟩ := ih (List.cons.inj decoded).2
    have suffix : ∃ taken, bytes = taken ++ rest := by
      cases first with
      | character c => exact ⟨_,rfl⟩
      | replaced some unread => exact ⟨_,(List.take_append_drop (badLength bytes) bytes).symm⟩
    obtain ⟨taken,whole⟩ := suffix
    exact ⟨taken ++ front,back,by rw [whole,split,List.append_assoc],same⟩

theorem lossyPrefix {bytes : List Byte} {x y : Text} (plain : replacement ∉ x) (decoded : fromUtf8Lossy bytes = x ++ y) :
    ∃ rest, bytes = encode x ++ rest ∧ fromUtf8Lossy rest = y := by
  induction x generalizing bytes with
  | nil => exact ⟨bytes,rfl,decoded⟩
  | cons c x ih =>
    rw [List.mem_cons,not_or] at plain
    have some : bytes ≠ [] := by
      rintro rfl
      cases decoded
    cases found : firstChar bytes with
    | none =>
      rw [lossyReplaced some found] at decoded
      exact absurd (List.cons.inj decoded).1 plain.1
    | some d =>
      have shape := firstCharSome found
      rw [shape,lossyCharacter] at decoded
      obtain ⟨rfl,tail⟩ := List.cons.inj decoded
      obtain ⟨rest,split,same⟩ := ih plain.2 tail
      exact ⟨rest,by rw [shape,split,encodeCons,List.append_assoc],same⟩

end Vscreen.Utf8
