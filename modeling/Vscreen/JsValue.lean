import Vscreen.Json

/-! JavaScript values as `JSON.parse` makes them. A number is a finite one or, from a
literal such as `1e999`, an infinity; a string is its UTF-16 units. A member that is
`undefined` reads as one that is absent, and of two members of one name the first counts. -/
namespace Vscreen
open Json (Units)

inductive JsNumber where
  | finite (value : Rat)
  | infinite (negative : Bool)
  deriving DecidableEq, Repr

inductive Js where
  | null
  | bool (b : Bool)
  | number (n : JsNumber)
  | string (u : Units)
  | array (items : List Js)
  | object (members : List (Units × Js))
  deriving Repr

abbrev JsObject := List (Units × Js)

def js (s : String) : Units := Json.unitsOf s.toList

namespace JsObject

def get (o : JsObject) (name : Units) : Option Js := (o.find? (fun m => m.1 == name)).map Prod.snd

def set (name : Units) (v : Js) : JsObject → JsObject
  | [] => [(name,v)]
  | m::rest => if m.1 = name then (name,v)::rest else m::set name v rest

-- `if (v !== undefined) o.name = v`
def assign (o : JsObject) (name : Units) : Option Js → JsObject
  | none => o
  | some v => set name v o

def literal (members : List (Units × Option Js)) : JsObject :=
  members.filterMap (fun m => m.2.map (fun v => (m.1,v)))

@[simp] theorem getCons (m : Units × Js) (o : JsObject) (name : Units) :
    get (m::o) name = if m.1 = name then some m.2 else get o name := by
  by_cases same : m.1 = name
  · simp [get,same]
  · have apart : (m.1 == name) = false := by simpa using same
    simp [get,same,apart]

@[simp] theorem getSet (o : JsObject) (name other : Units) (v : Js) :
    get (set name v o) other = if name = other then some v else get o other := by
  induction o with
  | nil => simp [set]
  | cons m rest ih =>
    simp only [set]
    split
    · rename_i same
      by_cases asked : name = other
      · simp [asked]
      · simp [asked,same]
    · rename_i apart
      rw [getCons,getCons,ih]
      by_cases asked : name = other
      · subst asked
        simp [apart]
      · simp [asked]

theorem getAssign (o : JsObject) (name other : Units) (v : Option Js) (apart : name ≠ other) :
    get (assign o name v) other = get o other := by
  cases v with
  | none => rfl
  | some v => simp [assign,apart]

theorem getAssigned (o : JsObject) (name : Units) (v : Option Js) : get (assign o name v) name = v.or (get o name) := by
  cases v with
  | none => rfl
  | some v => simp [assign]

@[simp] theorem getLiteral (m : Units × Option Js) (members : List (Units × Option Js)) (name : Units) :
    get (literal (m::members)) name = (if m.1 = name then m.2 else none).or (get (literal members) name) := by
  obtain ⟨n,v⟩ := m
  cases v with
  | none => simp [literal]
  | some v =>
    have cons : literal ((n,some v)::members) = (n,v)::literal members := rfl
    rw [cons,getCons]
    split <;> rfl

end JsObject

namespace Js

def get (v : Js) (name : Units) : Option Js := match v with
  | .object o => JsObject.get o name
  | _ => none

def set (v : Js) (name : Units) (x : Js) : Js := match v with
  | .object o => .object (JsObject.set name x o)
  | v => v

def truthy : Js → Bool
  | .null => false
  | .bool b => b
  | .number n => n != .finite 0
  | .string u => !u.isEmpty
  | .array _ => true
  | .object _ => true

def orElse (v : Option Js) (d : Js) : Js := match v with
  | none => d
  | some .null => d
  | some v => v

def codePoints : Units → List Units
  | [] => []
  | [u] => [[u]]
  | u::v::rest =>
    if 0xd800 ≤ u ∧ u < 0xdc00 ∧ 0xdc00 ≤ v ∧ v < 0xe000 then [u,v]::codePoints rest
    else [u]::codePoints (v::rest)

-- What `...v` spreads; `none` is the `TypeError` of a value that is not iterable.
def spread : Js → Option (List Js)
  | .array items => some items
  | .string u => some ((codePoints u).map .string)
  | _ => none

mutual

-- `JSON.parse(JSON.stringify(v))`: an infinity is written as `null`.
def restored : Js → Js
  | .null => .null
  | .bool b => .bool b
  | .number (.finite q) => .number (.finite q)
  | .number (.infinite _) => .null
  | .string u => .string u
  | .array items => .array (restoredItems items)
  | .object o => .object (restoredMembers o)

def restoredItems : List Js → List Js
  | [] => []
  | v::rest => restored v::restoredItems rest

def restoredMembers : JsObject → JsObject
  | [] => []
  | (name,v)::rest => (name,restored v)::restoredMembers rest

end

mutual

def finite : Js → Bool
  | .null => true
  | .bool _ => true
  | .number (.finite _) => true
  | .number (.infinite _) => false
  | .string _ => true
  | .array items => finiteItems items
  | .object o => finiteMembers o

def finiteItems : List Js → Bool
  | [] => true
  | v::rest => finite v && finiteItems rest

def finiteMembers : JsObject → Bool
  | [] => true
  | (_,v)::rest => finite v && finiteMembers rest

end

mutual

theorem restoredIff : ∀ v : Js, restored v = v ↔ finite v = true
  | .null => by simp [restored,finite]
  | .bool b => by simp [restored,finite]
  | .number (.finite q) => by simp [restored,finite]
  | .number (.infinite negative) => by simp [restored,finite]
  | .string u => by simp [restored,finite]
  | .array items => by
    rw [restored,finite,Js.array.injEq]
    exact restoredItemsIff items
  | .object o => by
    rw [restored,finite,Js.object.injEq]
    exact restoredMembersIff o

theorem restoredItemsIff : ∀ items : List Js, restoredItems items = items ↔ finiteItems items = true
  | [] => by simp [restoredItems,finiteItems]
  | v::rest => by
    rw [restoredItems,finiteItems,List.cons.injEq,Bool.and_eq_true,restoredIff v,restoredItemsIff rest]

theorem restoredMembersIff : ∀ o : JsObject, restoredMembers o = o ↔ finiteMembers o = true
  | [] => by simp [restoredMembers,finiteMembers]
  | (name,v)::rest => by
    rw [restoredMembers,finiteMembers,List.cons.injEq,Bool.and_eq_true,restoredMembersIff rest,Prod.mk.injEq,
      restoredIff v,and_iff_right rfl]

end

theorem getRestored (o : JsObject) (name : Units) :
    JsObject.get (restoredMembers o) name = (JsObject.get o name).map restored := by
  induction o with
  | nil => rfl
  | cons m rest ih =>
    rw [restoredMembers,JsObject.getCons,JsObject.getCons,ih]
    split <;> rfl

end Js
end Vscreen
