import Mathlib.Data.Rat.Defs
import Vscreen.Text

/-! Values of serde_json and what a derived `Deserialize` takes from one. A structure is
read from an object, or from an array that has its fields in order; an optional field
may be missing from the object. Other members of an object are ignored. -/
namespace Vscreen
open Text

inductive SerdeNumber where
  | posInt (n : UInt64)
  | negInt (n : Nat)
  | float (value : ℚ)
  deriving DecidableEq

inductive Serde where
  | null
  | bool (b : Bool)
  | number (n : SerdeNumber)
  | string (s : Text)
  | array (items : List Serde)
  | object (members : List (Text × Serde))

namespace SerdeNumber

def value : SerdeNumber → ℚ
  | posInt n => n.toNat
  | negInt n => -(n + 1)
  | float q => q

def integer : SerdeNumber → Option Int
  | posInt n => some n.toNat
  | negInt n => some (-(n + 1))
  | float _ => none

def u32 : SerdeNumber → Option UInt32
  | posInt n => if n.toNat < 2^32 then some n.toUInt32 else none
  | negInt _ => none
  | float _ => none

theorem u32Iff (n : SerdeNumber) (id : UInt32) : n.u32 = some id ↔ n.integer = some (id.toNat : Int) := by
  cases n with
  | posInt n =>
    rw [u32,integer,Option.some.injEq,Int.ofNat_inj]
    split
    · rename_i small
      have kept : n.toUInt32.toNat = n.toNat := by rw [UInt64.toNat_toUInt32,Nat.mod_eq_of_lt small]
      rw [Option.some.injEq,← UInt32.toNat_inj,kept]
    · rename_i large
      have bound : id.toNat < 2^32 := id.toNat_lt
      exact iff_of_false (fun absent => by cases absent) (by omega)
  | negInt n => exact iff_of_false (fun absent => by cases absent) (by rw [integer,Option.some.injEq]; omega)
  | float q => exact iff_of_false (fun absent => by cases absent) (fun absent => by cases absent)

end SerdeNumber

namespace Serde

def member (members : List (Text × Serde)) (name : Text) : Option Serde :=
  (members.find? fun m => m.1 = name).map Prod.snd

def fields (names : List Text) : Serde → Option (Text → Option Serde)
  | .object members => some (member members)
  | .array items => if items.length = names.length then some fun name => items[names.idxOf name]? else none
  | _ => none

def asString : Serde → Option Text
  | .string s => some s
  | _ => none

def asNumber : Serde → Option SerdeNumber
  | .number n => some n
  | _ => none

def asF64 (v : Serde) : Option ℚ := v.asNumber.map SerdeNumber.value

def asU32 (v : Serde) : Option UInt32 := v.asNumber.bind SerdeNumber.u32

def get (v : Serde) (name : Text) : Option Serde := match v with
  | .object members => member members name
  | _ => none

def asOptionF64 : Option Serde → Option (Option ℚ)
  | none => some none
  | some .null => some none
  | some v => v.asF64.map some

theorem asF64Iff (v : Serde) : (∃ q, v.asF64 = some q) ↔ ∃ n, v = .number n := by
  constructor
  · rintro ⟨q,read⟩
    cases v with
    | number n => exact ⟨n,rfl⟩
    | _ => cases read
  · rintro ⟨n,rfl⟩
    exact ⟨n.value,rfl⟩

theorem requiredF64Iff (v : Option Serde) : (∃ q, v.bind asF64 = some q) ↔ ∃ n, v = some (.number n) := by
  cases v with
  | none => simp
  | some v => simp only [Option.bind_some,Option.some.injEq,asF64Iff]

theorem optionF64Iff (v : Option Serde) :
    (∃ q, asOptionF64 v = some q) ↔ v = none ∨ v = some .null ∨ ∃ n, v = some (.number n) := by
  cases v with
  | none => exact ⟨fun _ => .inl rfl,fun _ => ⟨none,rfl⟩⟩
  | some v =>
    cases v with
    | null => exact ⟨fun _ => .inr (.inl rfl),fun _ => ⟨none,rfl⟩⟩
    | number n => exact ⟨fun _ => .inr (.inr ⟨n,rfl⟩),fun _ => ⟨some n.value,rfl⟩⟩
    | _ => simp [asOptionF64,asF64,asNumber]

end Serde
end Vscreen
