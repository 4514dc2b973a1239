import Vscreen.Bytes
import Vscreen.Text

/-! UTF-8 as byte lists, from the character codec of the core library: strict
decoding is the inverse of encoding, lossy decoding extends it. -/
namespace Vscreen.Utf8

def encode (s : Text) : List Byte := s.flatMap String.utf8EncodeChar

def firstChar (bytes : List Byte) : Option Char := bytes.toByteArray.utf8DecodeChar? 0

def decodeFrom : Nat → List Byte → Option Text
  | _,[] => some []
  | 0,_::_ => none
  | fuel+1,b::rest => match firstChar (b::rest) with
    | none => none
    | some c => (decodeFrom fuel ((b::rest).drop c.utf8Size)).map (c::·)

def decode (bytes : List Byte) : Option Text := decodeFrom bytes.length bytes

def isContinuation (b : Byte) : Bool := 0x80 ≤ b && b ≤ 0xBF

def secondAllowed (lead b : Byte) : Bool :=
  if lead = 0xE0 then 0xA0 ≤ b && b ≤ 0xBF
  else if lead = 0xED then 0x80 ≤ b && b ≤ 0x9F
  else if lead = 0xF0 then 0x90 ≤ b && b ≤ 0xBF
  else if lead = 0xF4 then 0x80 ≤ b && b ≤ 0x8F
  else 0xE1 ≤ lead && lead ≤ 0xF3 && isContinuation b

def badLength : List Byte → Nat
  | lead::second::third => if !secondAllowed lead second then 1
    else if 0xF0 ≤ lead && third.head?.any isContinuation then 3 else 2
  | _ => 1

def lossyFrom : Nat → List Byte → Text
  | _,[] => []
  | 0,_::_ => []
  | fuel+1,b::rest => match firstChar (b::rest) with
    | none => '\uFFFD'::lossyFrom fuel ((b::rest).drop (badLength (b::rest)))
    | some c => c::lossyFrom fuel ((b::rest).drop c.utf8Size)

def fromUtf8Lossy (bytes : List Byte) : Text := lossyFrom bytes.length bytes

@[simp] theorem encodeNil : encode [] = [] := rfl

@[simp] theorem encodeCons (c : Char) (s : Text) : encode (c::s) = String.utf8EncodeChar c ++ encode s := rfl

@[simp] theorem encodeAppend (s t : Text) : encode (s ++ t) = encode s ++ encode t := List.flatMap_append

theorem firstCharEncode (c : Char) (rest : List Byte) :
    firstChar (String.utf8EncodeChar c ++ rest) = some c := by
  simp only [firstChar,List.toByteArray_append,ByteArray.utf8DecodeChar?_utf8EncodeChar_append]

theorem firstCharSome {bytes : List Byte} {c : Char} (first : firstChar bytes = some c) :
    bytes = String.utf8EncodeChar c ++ bytes.drop c.utf8Size := by
  obtain ⟨rest,split⟩ := ByteArray.exists_of_utf8DecodeChar?_eq_some first
  have same : bytes = String.utf8EncodeChar c ++ rest.data.toList := by
    apply List.toByteArray_inj.mp
    rw [split,List.toByteArray_append]
    congr 1
    exact ByteArray.ext (by simp)
  rw [same]
  simp [← String.length_utf8EncodeChar]

theorem encodeCharCons (c : Char) (rest : List Byte) :
    ∃ b more, String.utf8EncodeChar c ++ rest = b::more ∧ rest.length ≤ more.length := by
  have positive := c.utf8Size_pos
  rw [← String.length_utf8EncodeChar] at positive
  cases bytes : String.utf8EncodeChar c with
  | nil => simp [bytes] at positive
  | cons b more => exact ⟨b,more ++ rest,rfl,by simp⟩

theorem decodeFromEncode {fuel : Nat} {s : Text} (enough : (encode s).length ≤ fuel) :
    decodeFrom fuel (encode s) = some s := by
  induction s generalizing fuel with
  | nil => cases fuel <;> rfl
  | cons c s ih =>
    obtain ⟨b,more,shape,shorter⟩ := encodeCharCons c (encode s)
    rw [encodeCons,shape] at enough ⊢
    cases fuel with
    | zero => simp at enough
    | succ fuel =>
      simp only [List.length_cons] at enough
      rw [decodeFrom,← shape,firstCharEncode]
      simp [ih (by omega : (encode s).length ≤ fuel)]

theorem decodeFromSome {fuel : Nat} {bytes : List Byte} {s : Text} (ok : decodeFrom fuel bytes = some s) :
    encode s = bytes ∧ lossyFrom fuel bytes = s := by
  induction fuel generalizing bytes s with
  | zero => cases bytes with
    | nil => simp only [decodeFrom,Option.some.injEq] at ok; subst ok; exact ⟨rfl,rfl⟩
    | cons b rest => simp [decodeFrom] at ok
  | succ fuel ih => cases bytes with
    | nil => simp only [decodeFrom,Option.some.injEq] at ok; subst ok; exact ⟨rfl,rfl⟩
    | cons b rest =>
      rw [decodeFrom] at ok
      split at ok
      · contradiction
      · rename_i c first
        obtain ⟨t,tail,rfl⟩ := Option.map_eq_some_iff.mp ok
        obtain ⟨bytes,lossy⟩ := ih tail
        refine ⟨?_,?_⟩
        · rw [encodeCons,bytes]
          exact (firstCharSome first).symm
        · rw [lossyFrom,first]
          exact congrArg (c::·) lossy

theorem decodeEncode (s : Text) : decode (encode s) = some s := decodeFromEncode (Nat.le_refl _)

theorem decodeIff {bytes : List Byte} {s : Text} : decode bytes = some s ↔ encode s = bytes :=
  ⟨fun decoded => (decodeFromSome decoded).1,fun same => same ▸ decodeEncode s⟩

theorem lossyEncode (s : Text) : fromUtf8Lossy (encode s) = s := (decodeFromSome (decodeEncode s)).2

theorem lossyExact (bytes : List Byte) : encode (fromUtf8Lossy bytes) = bytes ↔ (decode bytes).isSome := by
  constructor
  · intro same
    rw [decodeIff.mpr same]
    rfl
  · intro valid
    obtain ⟨s,decoded⟩ := Option.isSome_iff_exists.mp valid
    rw [← decodeIff.mp decoded,lossyEncode]

theorem lineFeedByte {c : Char} (member : (0x0A : Byte) ∈ String.utf8EncodeChar c) : c = '\n' := by
  have value : c.toNat = 10 := by
    have whole : c.val.toNat = c.toNat := rfl
    simp only [String.utf8EncodeChar] at member
    split at member
    · simp [← UInt8.toNat_inj] at member
      omega
    · split at member
      · simp [← UInt8.toNat_inj] at member
        omega
      · split at member
        · simp [← UInt8.toNat_inj] at member
          omega
        · simp [← UInt8.toNat_inj] at member
          omega
  exact Char.toNat_inj.mp value

theorem decodeLine {line : List Byte} {text : Text} (unbroken : (0x0A : Byte) ∉ line)
    (decoded : decode (line ++ [0x0A]) = some text) : ∃ x, text = x ++ ['\n'] ∧ '\n' ∉ x := by
  have bytes := decodeIff.mp decoded
  cases text using List.reverseRecOn with
  | nil => simp at bytes
  | append_singleton x c =>
    rw [encodeAppend,encodeCons,encodeNil,List.append_nil] at bytes
    have ends : (0x0A : Byte) ∈ String.utf8EncodeChar c := by
      cases tail : String.utf8EncodeChar c using List.reverseRecOn with
      | nil => exact (String.utf8EncodeChar_ne_nil tail).elim
      | append_singleton front b =>
        rw [tail,← List.append_assoc] at bytes
        rw [List.singleton_inj.mp (List.append_inj_right' bytes rfl)]
        simp
    have same := lineFeedByte ends
    subst same
    refine ⟨x,rfl,?_⟩
    intro broken
    have front : encode x = line := List.append_inj_left' bytes rfl
    exact unbroken (front ▸ List.mem_flatMap.mpr ⟨'\n',broken,by decide⟩)

end Vscreen.Utf8
