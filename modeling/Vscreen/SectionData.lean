import Vscreen.SectionSchemas

/-! What a section without validation errors is, and what becomes of it when its data
is replaced. -/
namespace Vscreen.Pages
open Json (Units)

def arrayOf : Option Schema → Option Schema
  | some (.array item) => some item
  | _ => none

theorem componentHasItems {c : Units} (listed : c ∈ componentTypes) :
    ∃ item, schemaOf componentDataSchemas (some (.string c)) = some (.array item) := by
  have all : ∀ c ∈ componentTypes, (arrayOf (schemaOf componentDataSchemas (some (.string c)))).isSome = true := by decide
  have found := all c listed
  cases lookup : schemaOf componentDataSchemas (some (.string c)) with
  | none => rw [lookup] at found; cases found
  | some schema =>
    rw [lookup] at found
    cases schema with
    | array item => exact ⟨item,rfl⟩
    | _ => cases found

section
variable {safeParse : Zod.Parser LazySchema}

theorem checkedNone {schema : Schema} {v : Option Js} :
    checked safeParse (some schema) v = none ↔ Zod.accepts safeParse schema v = true := by
  rw [Zod.acceptsIff]
  cases parsed : safeParse schema v with
  | ok out => simp [checked,parsed]
  | error issues => simp [checked,parsed]

def DataValid (safeParse : Zod.Parser LazySchema) (c : Units) (items : List Js) : Prop :=
  checked safeParse (schemaOf componentDataSchemas (some (.string c))) (some (.array items)) = none

instance (c : Units) (items : List Js) : Decidable (DataValid safeParse c items) :=
  inferInstanceAs (Decidable (_ = none))

theorem dataAppend (documented : Zod.Documented safeParse) {c : Units} (listed : c ∈ componentTypes)
    (old new : List Js) :
    DataValid safeParse c (old ++ new) ↔ DataValid safeParse c old ∧ DataValid safeParse c new := by
  obtain ⟨item,found⟩ := componentHasItems listed
  simp only [DataValid,found,checkedNone]
  exact documented.arrayAppend item old new

structure SectionFields (o : JsObject) (id c : Units) (items : List Js) : Prop where
  id : JsObject.get o (js "id") = some (.string id)
  component : JsObject.get o (js "component") = some (.string c)
  listed : c ∈ componentTypes
  data : JsObject.get o (js "data") = some (.array items)

structure MetaValid (safeParse : Zod.Parser LazySchema) (c : Units) (title metadata : Option Js) : Prop where
  title : Zod.accepts safeParse (.optional .string) title = true
  metadata : ∃ out, safeParse (.optional (.record .unknown)) metadata = .ok out ∧
    ∀ v, out = some v → v.truthy = true → checked safeParse (schemaOf componentMetaSchemas (some (.string c))) (some v) = none

theorem dataErrorsNil {sec : JsObject} {id c : Units} {items : List Js} (fields : SectionFields sec id c items) :
    dataErrors safeParse (some (.object sec)) = [] ↔ DataValid safeParse c items := by
  simp only [dataErrors,member,Js.get,Option.bind_some,fields.component,fields.data,DataValid]
  split
  · rename_i none_
    simp [none_]
  · rename_i issues some_
    simp [some_]

theorem metaErrorsNil {sec : JsObject} {id c : Units} {items : List Js} (fields : SectionFields sec id c items) :
    metaErrors safeParse (some (.object sec)) = [] ↔ ∀ v, JsObject.get sec (js "meta") = some v → v.truthy = true →
      checked safeParse (schemaOf componentMetaSchemas (some (.string c))) (some v) = none := by
  simp only [metaErrors,member,Js.get,Option.bind_some,fields.component]
  split
  · rename_i none_
    simp [none_]
  · rename_i v some_
    rw [some_]
    split
    · rename_i truthy
      split
      · rename_i none_
        simp [none_]
      · rename_i issues some_
        simp [some_,truthy]
    · rename_i falsy
      simp [falsy]

theorem baseParsed (documented : Zod.Documented safeParse) {v out : Option Js}
    (parsed : safeParse baseSectionSchema v = .ok out) : ∃ o sec id c items,
      v = some (.object o) ∧ out = some (.object sec) ∧ SectionFields o id c items ∧ SectionFields sec id c items ∧
      Zod.accepts safeParse (.optional .string) (JsObject.get o (js "title")) = true ∧
      safeParse (.optional (.record .unknown)) (JsObject.get o (js "meta")) = .ok (JsObject.get sec (js "meta")) := by
  obtain ⟨o,sec,rfl,rfl,fields⟩ := documented.object _ v out (by decide) parsed
  simp only [List.forall_mem_cons] at fields
  obtain ⟨id,component,title,data,metadata,-⟩ := fields
  obtain ⟨⟨idText,idIs⟩,idOut⟩ := (documented.string _ _).mp id
  obtain ⟨⟨c,listed,componentIs⟩,componentOut⟩ := (documented.enum _ _ _).mp component
  obtain ⟨⟨items,dataIs⟩,dataOut⟩ := (documented.arrayAny _ _).mp data
  exact ⟨o,sec,idText,c,items,rfl,rfl,⟨idIs,componentIs,listed,dataIs⟩,
    ⟨idOut.trans idIs,componentOut.trans componentIs,listed,dataOut.trans dataIs⟩,Zod.acceptsIff.mpr ⟨_,title⟩,metadata⟩

theorem validObject (documented : Zod.Documented safeParse) {s : Js} (valid : validateSection safeParse s = []) :
    ∃ o id c items, s = .object o ∧ SectionFields o id c items ∧
      MetaValid safeParse c (JsObject.get o (js "title")) (JsObject.get o (js "meta")) ∧ DataValid safeParse c items := by
  unfold validateSection at valid
  split at valid
  · cases valid
  · rename_i out parsed
    obtain ⟨o,sec,id,c,items,same,rfl,fields,secFields,title,metadata⟩ := baseParsed documented parsed
    cases same
    obtain ⟨dataNil,metaNil⟩ := List.append_eq_nil_iff.mp valid
    exact ⟨o,id,c,items,rfl,fields,⟨title,_,metadata,(metaErrorsNil secFields).mp metaNil⟩,
      (dataErrorsNil secFields).mp dataNil⟩

theorem objectValid (documented : Zod.Documented safeParse) {o : JsObject} {id c : Units} {items : List Js}
    (fields : SectionFields o id c items)
    (meta_ : MetaValid safeParse c (JsObject.get o (js "title")) (JsObject.get o (js "meta")))
    (data : DataValid safeParse c items) : validateSection safeParse (.object o) = [] := by
  obtain ⟨metaOut,metaParsed,metaChecked⟩ := meta_.metadata
  have each : Zod.accepts safeParse baseSectionSchema (some (.object o)) = true := by
    refine documented.objectAccepts _ o (by decide) ?_
    simp only [List.forall_mem_cons,Zod.acceptsIff]
    refine ⟨?_,?_,Zod.acceptsIff.mp meta_.title,?_,⟨metaOut,metaParsed⟩,fun field mem => absurd mem List.not_mem_nil⟩
    · exact ⟨_,(documented.string _ _).mpr ⟨⟨id,fields.id⟩,rfl⟩⟩
    · exact ⟨_,(documented.enum _ _ _).mpr ⟨⟨c,fields.listed,fields.component⟩,rfl⟩⟩
    · exact ⟨_,(documented.arrayAny _ _).mpr ⟨⟨items,fields.data⟩,rfl⟩⟩
  obtain ⟨out,parsed⟩ := Zod.acceptsIff.mp each
  obtain ⟨o',sec,id',c',items',same,rfl,fields',secFields,-,metadata⟩ := baseParsed documented parsed
  cases same
  cases Option.some.inj (fields.component.symm.trans fields'.component)
  cases Option.some.inj (fields.data.symm.trans fields'.data)
  cases Except.ok.inj (metaParsed.symm.trans metadata)
  simp only [validateSection,parsed]
  rw [(dataErrorsNil secFields).mpr data,(metaErrorsNil secFields).mpr metaChecked]
  rfl

theorem replacedValid (documented : Zod.Documented safeParse) {o : JsObject} {id c : Units} {items : List Js}
    (fields : SectionFields o id c items)
    (meta_ : MetaValid safeParse c (JsObject.get o (js "title")) (JsObject.get o (js "meta"))) (items' : List Js) :
    validateSection safeParse ((Js.object o).set (js "data") (.array items')) = [] ↔ DataValid safeParse c items' := by
  have names : js "data" ≠ js "id" ∧ js "data" ≠ js "component" ∧ js "data" ≠ js "title" ∧ js "data" ≠ js "meta" := by decide
  have replaced : SectionFields (JsObject.set (js "data") (.array items') o) id c items' := by
    refine ⟨?_,?_,fields.listed,?_⟩
    · rw [JsObject.getSet,if_neg names.1,fields.id]
    · rw [JsObject.getSet,if_neg names.2.1,fields.component]
    · rw [JsObject.getSet,if_pos rfl]
  constructor
  · intro valid
    obtain ⟨o',id',c',items'',same,fields',-,data⟩ := validObject documented valid
    cases same
    cases Option.some.inj (replaced.component.symm.trans fields'.component)
    cases Option.some.inj (replaced.data.symm.trans fields'.data)
    exact data
  · intro data
    refine objectValid documented replaced ?_ data
    rw [JsObject.getSet,if_neg names.2.2.1,JsObject.getSet,if_neg names.2.2.2]
    exact meta_

theorem newSectionValid (documented : Zod.Documented safeParse) (id : Units) (items : List Js) :
    validateSection safeParse (newSection id items) = [] ↔ DataValid safeParse (js "card-grid") items := by
  have fields : SectionFields (JsObject.literal [(js "id",some (.string id)),
      (js "component",some (.string (js "card-grid"))),(js "data",some (.array items))]) id (js "card-grid") items := by
    have names : js "id" ≠ js "component" ∧ js "id" ≠ js "data" ∧ js "component" ≠ js "data" := by decide
    refine ⟨?_,?_,by decide,?_⟩ <;> simp [JsObject.literal,names]
  constructor
  · intro valid
    obtain ⟨o,id',c,items',same,fields',-,data⟩ := validObject documented valid
    cases same
    cases Option.some.inj (fields.component.symm.trans fields'.component)
    cases Option.some.inj (fields.data.symm.trans fields'.data)
    exact data
  · intro data
    refine objectValid documented fields ⟨?_,none,?_,fun v absent => by cases absent⟩ data
    · exact Zod.acceptsIff.mpr ⟨none,documented.absent _⟩
    · exact documented.absent _

end

end Vscreen.Pages
