import Mathlib.Data.List.Forall2
import Vscreen.JsValue

/-! Schemas for JavaScript values, and what is documented of a function that parses with
them. An interpreter shows that there is such a function. A schema may refer to others
by name, so that it can contain itself. -/
namespace Vscreen.Zod
open Json (Units)

inductive Schema (ν : Type) where
  | string
  | stringMin (least : Nat) (message : Option Units)
  | number
  | boolean
  | any
  | unknown
  | enum (values : List Units)
  | optional (inner : Schema ν)
  | array (item : Schema ν)
  | arrayMin (item : Schema ν) (least : Nat)
  | record (value : Schema ν)
  | object (shape : List (Units × Schema ν))
  | passthrough (shape : List (Units × Schema ν))
  | union (options : List (Schema ν))
  | lazy (name : ν)

structure Issue where
  path : List Units
  message : Units
  deriving DecidableEq, Repr

abbrev Outcome := Except (List Issue) (Option Js)

abbrev Parser (ν : Type) := Schema ν → Option Js → Outcome

variable {ν : Type}

def accepts (safeParse : Parser ν) (s : Schema ν) (v : Option Js) : Bool := (safeParse s v).isOk

def ParsesItems (safeParse : Parser ν) (item : Schema ν) (items outputs : List Js) : Prop :=
  List.Forall₂ (fun v o => safeParse item (some v) = .ok (some o)) items outputs

structure Documented (safeParse : Parser ν) : Prop where
  string : ∀ v out, safeParse .string v = .ok out ↔ (∃ u, v = some (.string u)) ∧ out = v
  stringMin : ∀ least message v out,
    safeParse (.stringMin least message) v = .ok out ↔ (∃ u, v = some (.string u) ∧ least ≤ u.length) ∧ out = v
  any : ∀ v, safeParse .any v = .ok v
  enum : ∀ values v out, safeParse (.enum values) v = .ok out ↔ (∃ u ∈ values, v = some (.string u)) ∧ out = v
  absent : ∀ inner, safeParse (.optional inner) none = .ok none
  present : ∀ inner v, safeParse (.optional inner) (some v) = safeParse inner (some v)
  array : ∀ item v out, safeParse (.array item) v = .ok out ↔
    ∃ items outputs, v = some (.array items) ∧ out = some (.array outputs) ∧ ParsesItems safeParse item items outputs
  arrayMin : ∀ item least v out, safeParse (.arrayMin item least) v = .ok out ↔
    ∃ items outputs, v = some (.array items) ∧ out = some (.array outputs) ∧ least ≤ items.length ∧
      ParsesItems safeParse item items outputs
  object : ∀ shape v out, (shape.map Prod.fst).Nodup → safeParse (.object shape) v = .ok out →
    ∃ o parsed, v = some (.object o) ∧ out = some (.object parsed) ∧
      ∀ field ∈ shape, safeParse field.2 (JsObject.get o field.1) = .ok (JsObject.get parsed field.1)
  objectAccepts : ∀ shape o, (shape.map Prod.fst).Nodup →
    (∀ field ∈ shape, accepts safeParse field.2 (JsObject.get o field.1) = true) →
    accepts safeParse (.object shape) (some (.object o)) = true

theorem acceptsIff {safeParse : Parser ν} {s : Schema ν} {v : Option Js} :
    accepts safeParse s v = true ↔ ∃ out, safeParse s v = .ok out := by
  unfold accepts
  cases safeParse s v with
  | ok out => simp [Except.isOk,Except.toBool]
  | error issues => simp [Except.isOk,Except.toBool]

theorem parsesEach {safeParse : Parser ν} {item : Schema ν} {items outputs : List Js}
    (parses : ParsesItems safeParse item items outputs) : ∀ v ∈ items, ∃ o, safeParse item (some v) = .ok (some o) := by
  induction parses with
  | nil => intro v mem; cases mem
  | cons first later ih => exact List.forall_mem_cons.mpr ⟨⟨_,first⟩,ih⟩

namespace Documented
variable {safeParse : Parser ν} (documented : Documented safeParse)
include documented

theorem parsesAny {items outputs : List Js} : ParsesItems safeParse .any items outputs ↔ items = outputs := by
  simp only [ParsesItems,documented.any,Except.ok.injEq,Option.some.injEq,List.forall₂_eq_eq_eq]

theorem arrayAny (v out : Option Js) :
    safeParse (.array .any) v = .ok out ↔ (∃ items, v = some (.array items)) ∧ out = v := by
  rw [documented.array]
  constructor
  · rintro ⟨items,outputs,rfl,rfl,parses⟩
    rw [documented.parsesAny.mp parses]
    exact ⟨⟨outputs,rfl⟩,rfl⟩
  · rintro ⟨⟨items,rfl⟩,rfl⟩
    exact ⟨items,items,rfl,rfl,documented.parsesAny.mpr rfl⟩

theorem arrayMinAny (least : Nat) (v out : Option Js) :
    safeParse (.arrayMin .any least) v = .ok out ↔ (∃ items, v = some (.array items) ∧ least ≤ items.length) ∧ out = v := by
  rw [documented.arrayMin]
  constructor
  · rintro ⟨items,outputs,rfl,rfl,enough,parses⟩
    rw [← documented.parsesAny.mp parses]
    exact ⟨⟨items,rfl,enough⟩,rfl⟩
  · rintro ⟨⟨items,rfl,enough⟩,rfl⟩
    exact ⟨items,items,rfl,rfl,enough,documented.parsesAny.mpr rfl⟩

theorem arrayAccepts (item : Schema ν) (items : List Js) :
    accepts safeParse (.array item) (some (.array items)) = true ↔
      ∀ v ∈ items, ∃ o, safeParse item (some v) = .ok (some o) := by
  rw [acceptsIff]
  constructor
  · rintro ⟨out,parsed⟩
    obtain ⟨items',outputs,same,-,parses⟩ := (documented.array item _ out).mp parsed
    cases same
    exact parsesEach parses
  · intro each
    have outputs : ∃ outputs, ParsesItems safeParse item items outputs := by
      induction items with
      | nil => exact ⟨[],.nil⟩
      | cons v rest ih =>
        obtain ⟨o,first⟩ := each v List.mem_cons_self
        obtain ⟨outputs,later⟩ := ih (fun w mem => each w (List.mem_cons_of_mem _ mem))
        exact ⟨o::outputs,.cons first later⟩
    obtain ⟨outputs,parses⟩ := outputs
    exact ⟨_,(documented.array item _ _).mpr ⟨items,outputs,rfl,rfl,parses⟩⟩

theorem arrayAppend (item : Schema ν) (old new : List Js) :
    accepts safeParse (.array item) (some (.array (old ++ new))) = true ↔
      accepts safeParse (.array item) (some (.array old)) = true ∧
      accepts safeParse (.array item) (some (.array new)) = true := by
  rw [documented.arrayAccepts,documented.arrayAccepts,documented.arrayAccepts,List.forall_mem_append]

end Documented

def mismatch : Outcome := .error [⟨[],js "Invalid input"⟩]

def under (segment : Units) (issues : List Issue) : List Issue := issues.map (fun i => {i with path := segment::i.path})

def issues {α : Type} : Except (List Issue) α → List Issue
  | .ok _ => []
  | .error e => e

def parseItems (parse : Js → Outcome) : Nat → List Js → Except (List Issue) (List Js)
  | _,[] => .ok []
  | i,v::rest =>
    let later := parseItems parse (i + 1) rest
    match parse v with
    | .ok (some o) => match later with
      | .ok outputs => .ok (o::outputs)
      | .error e => .error e
    | .ok none => .error (issues mismatch ++ issues later)
    | .error e => .error (under (Json.unitsOf (Text.decimal i)) e ++ issues later)

def parseMembers (parse : Js → Outcome) : JsObject → Except (List Issue) JsObject
  | [] => .ok []
  | (name,v)::rest =>
    let later := parseMembers parse rest
    match parse v with
    | .ok out => match later with
      | .ok members => .ok (JsObject.literal [(name,out)] ++ members)
      | .error e => .error e
    | .error e => .error (under name e ++ issues later)

section
variable (lazy : ν → Option Js → Outcome)

mutual

def parseWith : Schema ν → Option Js → Outcome
  | .string,v => match v with
    | some (.string _) => .ok v
    | _ => mismatch
  | .stringMin least message,v => match v with
    | some (.string u) => if least ≤ u.length then .ok v else .error [⟨[],message.getD (js "Too small")⟩]
    | _ => mismatch
  | .number,v => match v with
    | some (.number (.finite _)) => .ok v
    | _ => mismatch
  | .boolean,v => match v with
    | some (.bool _) => .ok v
    | _ => mismatch
  | .any,v => .ok v
  | .unknown,v => .ok v
  | .enum values,v => match v with
    | some (.string u) => if u ∈ values then .ok v else mismatch
    | _ => mismatch
  | .optional inner,v => match v with
    | none => .ok none
    | some x => parseWith inner (some x)
  | .array item,v => match v with
    | some (.array items) => match parseItems (fun x => parseWith item (some x)) 0 items with
      | .ok outputs => .ok (some (.array outputs))
      | .error e => .error e
    | _ => mismatch
  | .arrayMin item least,v => match v with
    | some (.array items) =>
      if least ≤ items.length then
        match parseItems (fun x => parseWith item (some x)) 0 items with
        | .ok outputs => .ok (some (.array outputs))
        | .error e => .error e
      else mismatch
    | _ => mismatch
  | .record value,v => match v with
    | some (.object o) => match parseMembers (fun x => parseWith value (some x)) o with
      | .ok members => .ok (some (.object members))
      | .error e => .error e
    | _ => mismatch
  | .object shape,v => match v with
    | some (.object o) => match parseShape shape o with
      | .ok members => .ok (some (.object members))
      | .error e => .error e
    | _ => mismatch
  | .passthrough shape,v => match v with
    | some (.object o) => match parseShape shape o with
      | .ok members => .ok (some (.object (members ++ o.filter (fun m => m.1 ∉ shape.map Prod.fst))))
      | .error e => .error e
    | _ => mismatch
  | .union options,v => parseUnion options v
  | .lazy name,v => lazy name v

def parseShape : List (Units × Schema ν) → JsObject → Except (List Issue) JsObject
  | [],_ => .ok []
  | (name,s)::rest,o =>
    let later := parseShape rest o
    match parseWith s (JsObject.get o name) with
    | .ok out => match later with
      | .ok members => .ok (JsObject.literal [(name,out)] ++ members)
      | .error e => .error e
    | .error e => .error (under name e ++ issues later)

def parseUnion : List (Schema ν) → Option Js → Outcome
  | [],_ => mismatch
  | s::rest,v => match parseWith s v with
    | .ok out => .ok out
    | .error _ => parseUnion rest v

end

end

def interpreter (definitions : ν → Schema ν) : Nat → Parser ν
  | 0 => parseWith (fun _ _ => mismatch)
  | depth + 1 => parseWith (fun name v => interpreter definitions depth (definitions name) v)

theorem parseItemsIff (parse : Js → Outcome) : ∀ (items outputs : List Js) (i : Nat),
    parseItems parse i items = .ok outputs ↔ List.Forall₂ (fun v o => parse v = .ok (some o)) items outputs := by
  intro items
  induction items with
  | nil =>
    intro outputs i
    rw [List.forall₂_nil_left_iff,parseItems,Except.ok.injEq]
    exact eq_comm
  | cons v rest ih =>
    intro outputs i
    rw [List.forall₂_cons_left_iff]
    simp only [← ih _ (i + 1),parseItems]
    cases parse v with
    | error e => simp
    | ok out => cases out with
      | none => simp
      | some o => cases parseItems parse (i + 1) rest with
        | error e => simp
        | ok later => simp [eq_comm]

theorem mismatchIff {out : Option Js} {accepted : Prop} (never : ¬ accepted) : mismatch = .ok out ↔ accepted :=
  ⟨fun parsed => (by cases parsed),fun accepted => (never accepted).elim⟩

section
variable {lazy : ν → Option Js → Outcome}

theorem parseShapeNames {shape : List (Units × Schema ν)} {o members : JsObject}
    (parsed : parseShape lazy shape o = .ok members) {name : Units} (other : name ∉ shape.map Prod.fst) :
    JsObject.get members name = none := by
  induction shape generalizing members with
  | nil =>
    cases parsed
    rfl
  | cons field rest ih =>
    rw [List.map_cons,List.mem_cons,not_or] at other
    simp only [parseShape] at parsed
    split at parsed
    · rename_i out _
      split at parsed
      · rename_i later found
        cases parsed
        cases out with
        | none => exact ih found other.2
        | some v =>
          have apart : field.1 ≠ name := Ne.symm other.1
          have rest := ih found other.2
          simpa [JsObject.literal,apart] using rest
      · cases parsed
    · cases parsed

theorem parseShapeFields {shape : List (Units × Schema ν)} {o members : JsObject}
    (distinct : (shape.map Prod.fst).Nodup) (parsed : parseShape lazy shape o = .ok members) :
    ∀ field ∈ shape, parseWith lazy field.2 (JsObject.get o field.1) = .ok (JsObject.get members field.1) := by
  induction shape generalizing members with
  | nil => intro field mem; cases mem
  | cons field rest ih =>
    obtain ⟨name,s⟩ := field
    rw [List.map_cons,List.nodup_cons] at distinct
    simp only [parseShape] at parsed
    split at parsed
    · rename_i out first
      split at parsed
      · rename_i later found
        cases parsed
        have absent := parseShapeNames found distinct.1
        have fields := ih distinct.2 found
        intro field mem
        cases List.mem_cons.mp mem with
        | inl same =>
          subst same
          rw [first]
          cases out with
          | none => exact congrArg Except.ok absent.symm
          | some v => simp [JsObject.literal]
        | inr inside =>
          have apart : name ≠ field.1 := by
            intro same
            rw [same] at distinct
            exact distinct.1 (List.mem_map.mpr ⟨field,inside,rfl⟩)
          rw [fields field inside]
          cases out with
          | none => rfl
          | some v => simp [JsObject.literal,apart]
      · cases parsed
    · cases parsed

theorem parseShapeAccepts {shape : List (Units × Schema ν)} {o : JsObject}
    (each : ∀ field ∈ shape, accepts (parseWith lazy) field.2 (JsObject.get o field.1) = true) :
    ∃ members, parseShape lazy shape o = .ok members := by
  induction shape with
  | nil => exact ⟨[],rfl⟩
  | cons field rest ih =>
    obtain ⟨out,first⟩ := acceptsIff.mp (each field List.mem_cons_self)
    obtain ⟨later,found⟩ := ih (fun f mem => each f (List.mem_cons_of_mem _ mem))
    simp only [parseShape,first,found]
    exact ⟨_,rfl⟩

theorem parseWithDocumented (lazy : ν → Option Js → Outcome) : Documented (parseWith lazy) where
  string := by
    intro v out
    unfold parseWith
    split
    · simp [eq_comm]
    · rename_i other
      refine mismatchIff ?_
      rintro ⟨⟨u,same⟩,-⟩
      exact other u same
  stringMin := by
    intro least message v out
    unfold parseWith
    split
    · rename_i u
      split <;> rename_i enough <;> simp [enough,eq_comm]
    · rename_i other
      refine mismatchIff ?_
      rintro ⟨⟨u,same,-⟩,-⟩
      exact other u same
  any := fun v => by unfold parseWith; rfl
  enum := by
    intro values v out
    unfold parseWith
    split
    · rename_i u
      split <;> rename_i listed <;> simp [mismatch,listed,eq_comm]
    · rename_i other
      refine mismatchIff ?_
      rintro ⟨⟨u,-,same⟩,-⟩
      exact other u same
  absent := fun inner => by simp only [parseWith]
  present := fun inner v => by simp only [parseWith]
  array := by
    intro item v out
    unfold parseWith
    split
    · rename_i items
      simp only [ParsesItems,← parseItemsIff (fun x => parseWith lazy item (some x)) _ _ 0]
      split <;> rename_i parsed <;> simp [parsed,eq_comm]
    · rename_i other
      refine mismatchIff ?_
      rintro ⟨items,outputs,same,-⟩
      exact other items same
  arrayMin := by
    intro item least v out
    unfold parseWith
    split
    · rename_i items
      simp only [ParsesItems,← parseItemsIff (fun x => parseWith lazy item (some x)) _ _ 0]
      split
      · rename_i enough
        split <;> rename_i parsed <;> simp [parsed,enough,eq_comm]
      · rename_i short
        simp [mismatch,short]
    · rename_i other
      refine mismatchIff ?_
      rintro ⟨items,outputs,same,-⟩
      exact other items same
  object := by
    intro shape v out distinct parsed
    unfold parseWith at parsed
    split at parsed
    · rename_i o
      split at parsed
      · rename_i members found
        cases parsed
        exact ⟨o,members,rfl,rfl,parseShapeFields distinct found⟩
      · cases parsed
    · cases parsed
  objectAccepts := by
    intro shape o distinct each
    obtain ⟨members,found⟩ := parseShapeAccepts each
    refine acceptsIff.mpr ⟨some (.object members),?_⟩
    simp only [parseWith,found]

end

theorem interpreterDocumented (definitions : ν → Schema ν) (depth : Nat) : Documented (interpreter definitions depth) := by
  cases depth with
  | zero => exact parseWithDocumented _
  | succ depth => exact parseWithDocumented _

end Vscreen.Zod
