import Vscreen.PageIds
import Vscreen.PageRequests

/-! A request keeps the pages renderable exactly when it is an update with an array of
sections or none, a push of items that its section accepts, or is refused. -/
namespace Vscreen.Pages
open Json (Units)

section
variable {r : Runtime}

theorem pageRendersIff {page : JsObject} : pageRenders r page = true ↔
    ∃ sections, JsObject.get page (js "sections") = some (.array sections) ∧
      ∀ s ∈ sections, validateSection r.safeParse s = [] := by
  unfold pageRenders
  split
  · rename_i sections found
    simp only [List.all_eq_true,List.isEmpty_iff]
    constructor
    · intro each
      exact ⟨sections,found,each⟩
    · rintro ⟨sections',same,each⟩
      rw [found] at same
      cases same
      exact each
  · rename_i other
    refine ⟨fun renders => (by cases renders),?_⟩
    rintro ⟨sections,found,-⟩
    exact (other sections found).elim

theorem writeRenderable {s : Store} (renderable : Renderable r s) (id : Units) (page : JsObject) :
    Renderable r (s.write id page) ↔ pageRenders r page = true := by
  constructor
  · intro all
    exact all (.string id) page (by simp [Store.write])
  · intro renders
    exact Table.allPut renderable renders

theorem newPageSections (id : Units) (req : CreatePageRequest) (now : Units) :
    JsObject.get (newPage id req now) (js "sections") = some (Js.orElse req.sections (.array [])) := by
  have names : ∀ name ∈ [js "id",js "title",js "subtitle",js "theme",js "accentColor",js "layout"],
      name ≠ js "sections" := by decide
  simp only [List.forall_mem_cons] at names
  obtain ⟨id,title,subtitle,theme,accentColor,layout,-⟩ := names
  simp [newPage,id,title,subtitle,theme,accentColor,layout]

theorem updatedSections (page : JsObject) (req : UpdatePageRequest) (now : Units) :
    JsObject.get (updated page req now) (js "sections") = req.sections.or (JsObject.get page (js "sections")) := by
  have stamped : js "updatedAt" ≠ js "sections" := by decide
  rw [updated,JsObject.getSet,if_neg stamped,JsObject.getAssigned,getFields page req (by decide)]

theorem withSectionsRenders {page : JsObject} {sections : List Js} {now : Units} :
    pageRenders r (withSections page sections now) = true ↔ ∀ s ∈ sections, validateSection r.safeParse s = [] := by
  have stamped : js "updatedAt" ≠ js "sections" := by decide
  have found : JsObject.get (withSections page sections now) (js "sections") = some (.array sections) := by
    rw [withSections,JsObject.getSet,if_neg stamped,JsObject.getSet,if_pos rfl]
  rw [pageRendersIff,found]
  constructor
  · rintro ⟨sections',same,each⟩
    cases same
    exact each
  · intro each
    exact ⟨sections,rfl,each⟩

theorem checkedArray {items : List Js} {sections : Option Js}
    (passed : checkSections r (some (.array items)) = .ok sections) :
    ∃ items', sections = some (.array items') ∧ ∀ s ∈ items', validateSection r.safeParse s = [] := by
  cases items with
  | nil =>
    cases passed
    exact ⟨[],rfl,fun s mem => absurd mem List.not_mem_nil⟩
  | cons first rest =>
    simp only [checkSections] at passed
    split at passed
    · rename_i none_
      cases passed
      refine ⟨_,rfl,?_⟩
      simpa only [validateSections,List.flatMap_eq_nil_iff] using none_
    · split at passed <;> cases passed

theorem checkedOther {v : Option Js} (other : ∀ items, v ≠ some (.array items)) : checkSections r v = .ok v := by
  unfold checkSections
  split
  · exact (other _ rfl).elim
  · rfl

theorem checkedAbsent : checkSections r none = .ok none := rfl

theorem parsedSections (documented : Zod.Documented r.safeParse) {raw : Js} {parsed : Option Js}
    (accepted : r.safeParse createPageSchema (some raw) = .ok parsed) :
    member parsed (js "sections") = none ∨ ∃ items, member parsed (js "sections") = some (.array items) := by
  obtain ⟨o,out,-,rfl,fields⟩ := documented.object _ _ parsed (by decide) accepted
  have sections := fields (js "sections",.optional (.array .any)) (by simp)
  cases found : JsObject.get o (js "sections") with
  | none =>
    rw [found,documented.absent] at sections
    exact .inl (Except.ok.inj sections).symm
  | some v =>
    rw [found,documented.present,documented.arrayAny] at sections
    obtain ⟨⟨items,isArray⟩,same⟩ := sections
    exact .inr ⟨items,same.trans isArray⟩

theorem postRenderable (documented : Zod.Documented r.safeParse) {s : Store} (renderable : Renderable r s)
    (body : Option Js) (now : Units) : Renderable r (post r s body now).1 := by
  unfold post
  split
  · exact renderable
  · rename_i raw
    split
    · exact renderable
    · rename_i parsed accepted
      split
      · exact renderable
      · rename_i sections passed
        split
        · rename_i title _
          simp only [createPage]
          split
          · exact renderable
          · rename_i s' id created
            split at created
            · cases created
            · cases created
              refine (writeRenderable renderable _ _).mpr (pageRendersIff.mpr ?_)
              rw [newPageSections]
              cases parsedSections documented accepted with
              | inl absent =>
                rw [absent,checkedAbsent] at passed
                cases passed
                exact ⟨[],rfl,fun s mem => absurd mem List.not_mem_nil⟩
              | inr present =>
                obtain ⟨items,found⟩ := present
                rw [found] at passed
                obtain ⟨items',rfl,each⟩ := checkedArray passed
                exact ⟨items',rfl,each⟩
        · exact renderable

theorem putMissing {s : Store} {id : Units} (missing : s.getPage id = none) (body : Option Js) (now : Units) :
    (put r s id body now).1 = s := by
  unfold put
  split
  · rfl
  · rfl
  · split
    · rfl
    · simp [updatePage,missing]

theorem updateRenders {page : JsObject} (renders : pageRenders r page = true) (req : UpdatePageRequest) (now : Units) :
    pageRenders r (updated page req now) = true ↔ ∀ v, req.sections = some v →
      ∃ items, v = .array items ∧ ∀ s ∈ items, validateSection r.safeParse s = [] := by
  rw [pageRendersIff,updatedSections]
  cases req.sections with
  | none =>
    obtain ⟨sections,found,each⟩ := pageRendersIff.mp renders
    exact ⟨fun _ v absent => (by cases absent),fun _ => ⟨sections,found,each⟩⟩
  | some v =>
    constructor
    · rintro ⟨sections,same,each⟩ v' found
      cases found
      exact ⟨sections,Option.some.inj same,each⟩
    · intro passed
      obtain ⟨items,rfl,each⟩ := passed v rfl
      exact ⟨items,rfl,each⟩

theorem putExact {s : Store} (renderable : Renderable r s) (id : Units) (body : Option Js) (now : Units) :
    Renderable r (put r s id body now).1 ↔ keepsRenderable r s (.update id body now) = true := by
  cases found : s.getPage id with
  | none =>
    rw [putMissing found]
    simp [keepsRenderable,found,renderable]
  | some page =>
    have renders : pageRenders r page = true := renderable _ page found
    unfold put
    split
    · simp [keepsRenderable,member,found,renderable]
    · simp [keepsRenderable,member,Js.get,found,renderable]
    · rename_i body _
      simp only [keepsRenderable,member,found,Option.bind_some,updatePage]
      cases asked : body.get (js "sections") with
      | none =>
        rw [checkedAbsent]
        simp only [writeRenderable renderable,updateRenders renders]
        exact ⟨fun _ => trivial,fun _ v absent => by cases absent⟩
      | some v =>
        by_cases array : ∃ items, v = .array items
        · obtain ⟨items,rfl⟩ := array
          split
          · exact ⟨fun _ => rfl,fun _ => renderable⟩
          · rename_i sections passed
            obtain ⟨items',rfl,each⟩ := checkedArray passed
            simp only [writeRenderable renderable,updateRenders renders]
            refine ⟨fun _ => rfl,fun _ v same => ?_⟩
            cases same
            exact ⟨items',rfl,each⟩
        · have other : ∀ items, some v ≠ some (.array items) := by
            intro items same
            exact array ⟨items,Option.some.inj same⟩
          rw [checkedOther other]
          simp only [writeRenderable renderable,updateRenders renders]
          constructor
          · intro passed
            obtain ⟨items,same,-⟩ := passed v rfl
            exact (array ⟨items,same⟩).elim
          · intro asked
            cases v with
            | array items => exact (array ⟨items,rfl⟩).elim
            | _ => cases asked

theorem appendSpec (documented : Zod.Documented r.safeParse) (sectionId : Units) (data : List Js) {sections : List Js}
    (valid : ∀ s ∈ sections, validateSection r.safeParse s = []) :
    (sections.find? (hasId sectionId) = none ∧ appendData sectionId data sections = .ok none) ∨
    ∃ before o id c items after, sections = before ++ .object o::after ∧
      sections.find? (hasId sectionId) = some (.object o) ∧ SectionFields o id c items ∧
      MetaValid r.safeParse c (JsObject.get o (js "title")) (JsObject.get o (js "meta")) ∧ DataValid r.safeParse c items ∧
      appendData sectionId data sections =
        .ok (some (before ++ (Js.object o).set (js "data") (.array (items ++ data))::after,
          (Js.object o).set (js "data") (.array (items ++ data)))) := by
  induction sections with
  | nil => exact .inl ⟨rfl,rfl⟩
  | cons s rest ih =>
    obtain ⟨o,id,c,items,rfl,fields,meta_,dataValid⟩ := validObject documented (valid s List.mem_cons_self)
    cases asked : hasId sectionId (.object o) with
    | true =>
      refine .inr ⟨[],o,id,c,items,rest,rfl,?_,fields,meta_,dataValid,?_⟩
      · rw [List.find?_cons,asked]
      · have old : ((Js.object o).get (js "data")).bind Js.spread = some items := by
          rw [Js.get,fields.data]
          rfl
        simp [appendData,asked,old]
    | false =>
      cases ih (fun x mem => valid x (List.mem_cons_of_mem _ mem)) with
      | inl missing =>
        refine .inl ⟨?_,?_⟩
        · rw [List.find?_cons,asked]
          exact missing.1
        · simp [appendData,asked,missing.2]
      | inr present =>
        obtain ⟨before,o',id',c',items',after,rfl,found,fields',meta',dataValid',appended⟩ := present
        refine .inr ⟨.object o::before,o',id',c',items',after,rfl,?_,fields',meta',dataValid',?_⟩
        · rw [List.find?_cons,asked]
          exact found
        · simp [appendData,asked,appended]

theorem pushDataExact (documented : Zod.Documented r.safeParse) {s : Store} (renderable : Renderable r s) {id : Units}
    {page : JsObject} (found : s.getPage id = some page) (sectionId : Units) (data : List Js) (now : Units) :
    ∃ s' section_, pushData s id sectionId data now = .ok (s',some section_) ∧
      (Renderable r s' ↔ checked r.safeParse (schemaOf componentDataSchemas (componentOf page sectionId))
        (some (.array data)) = none) := by
  obtain ⟨sections,held,valid⟩ := pageRendersIff.mp (renderable _ page found)
  cases appendSpec documented sectionId data valid with
  | inl missing =>
    obtain ⟨absent,appended⟩ := missing
    refine ⟨s.write id (withSections page (sections ++ [newSection sectionId data]) now),newSection sectionId data,?_,?_⟩
    · simp only [pushData,found,held,appended]
    · have component : componentOf page sectionId = some (.string (js "card-grid")) := by
        simp only [componentOf,held,absent]
      rw [writeRenderable renderable,withSectionsRenders,component,List.forall_mem_append,List.forall_mem_singleton,
        newSectionValid documented]
      exact and_iff_right valid
  | inr present =>
    obtain ⟨before,o,oid,c,items,after,rfl,at_,fields,meta_,dataValid,appended⟩ := present
    refine ⟨s.write id (withSections page
      (before ++ (Js.object o).set (js "data") (.array (items ++ data))::after) now),
      (Js.object o).set (js "data") (.array (items ++ data)),?_,?_⟩
    · simp only [pushData,found,held,appended]
    · have component : componentOf page sectionId = some (.string c) := by
        simp only [componentOf,held,at_]
        exact fields.component
      rw [List.forall_mem_append,List.forall_mem_cons] at valid
      rw [writeRenderable renderable,withSectionsRenders,component,List.forall_mem_append,List.forall_mem_cons,
        replacedValid documented fields meta_,dataAppend documented fields.listed]
      constructor
      · rintro ⟨-,⟨-,new⟩,-⟩
        exact new
      · intro new
        exact ⟨valid.1,⟨dataValid,new⟩,valid.2.2⟩

theorem pushParsed (documented : Zod.Documented r.safeParse) {raw : Js} {parsed : Option Js}
    (accepted : r.safeParse pushSchema (some raw) = .ok parsed) : ∃ sectionId data,
      member parsed (js "section_id") = some (.string sectionId) ∧ member parsed (js "data") = some (.array data) ∧
      pushed (some raw) = some (sectionId,data) := by
  obtain ⟨o,out,same,rfl,fields⟩ := documented.object _ _ parsed (by decide) accepted
  cases same
  simp only [List.forall_mem_cons] at fields
  obtain ⟨sectionId,data,-⟩ := fields
  obtain ⟨⟨u,idIs,idLong⟩,idOut⟩ := (documented.stringMin _ _ _ _).mp sectionId
  obtain ⟨⟨items,dataIs,dataLong⟩,dataOut⟩ := (documented.arrayMinAny _ _ _).mp data
  refine ⟨u,items,idOut.trans idIs,dataOut.trans dataIs,?_⟩
  cases u with
  | nil => cases idLong
  | cons u rest => cases items with
    | nil => cases dataLong
    | cons v later => simp only [pushed,member,Js.get,Option.bind_some,idIs,dataIs]

theorem pushRefused (documented : Zod.Documented r.safeParse) {raw : Js} {issues : List Zod.Issue}
    (refused : r.safeParse pushSchema (some raw) = .error issues) : pushed (some raw) = none := by
  cases asked : pushed (some raw) with
  | none => rfl
  | some _ =>
    unfold pushed at asked
    split at asked
    · rename_i u id v data idIs dataIs
      cases raw with
      | object o =>
        have accepted : Zod.accepts r.safeParse pushSchema (some (.object o)) = true := by
          refine documented.objectAccepts _ o (by decide) ?_
          simp only [List.forall_mem_cons,Zod.acceptsIff]
          refine ⟨?_,?_,fun field mem => absurd mem List.not_mem_nil⟩
          · exact ⟨_,(documented.stringMin _ _ _ _).mpr ⟨⟨u::id,idIs,Nat.succ_pos _⟩,rfl⟩⟩
          · exact ⟨_,(documented.arrayMinAny _ _ _).mpr ⟨⟨v::data,dataIs,Nat.succ_pos _⟩,rfl⟩⟩
        obtain ⟨out,parsed⟩ := Zod.acceptsIff.mp accepted
        rw [refused] at parsed
        cases parsed
      | _ => cases idIs
    · cases asked

theorem pushExact (documented : Zod.Documented r.safeParse) {s : Store} (renderable : Renderable r s) (id : Units)
    (body : Option Js) (now : Units) :
    Renderable r (pushPost r s id body now).1 ↔ keepsRenderable r s (.push id body now) = true := by
  unfold pushPost
  split
  · have none_ : pushed none = none := rfl
    simp only [keepsRenderable,none_]
    cases s.getPage id <;> exact ⟨fun _ => rfl,fun _ => renderable⟩
  · rename_i raw
    split
    · rename_i issues refused
      simp only [keepsRenderable,pushRefused documented refused]
      cases s.getPage id <;> exact ⟨fun _ => rfl,fun _ => renderable⟩
    · rename_i parsed accepted
      obtain ⟨sectionId,data,idIs,dataIs,asked⟩ := pushParsed documented accepted
      simp only [idIs,dataIs,keepsRenderable,asked]
      cases found : s.getPage id with
      | none => exact ⟨fun _ => rfl,fun _ => renderable⟩
      | some page =>
        obtain ⟨s',section_,wrote,exact_⟩ := pushDataExact documented renderable found sectionId data now
        simp only [wrote,Option.isNone_iff_eq_none]
        exact exact_

theorem handleExact (documented : Zod.Documented r.safeParse) {s : Store} (renderable : Renderable r s) (q : Request) :
    Renderable r (handle r s q).1 ↔ keepsRenderable r s q = true := by
  cases q with
  | create body now => exact ⟨fun _ => rfl,fun _ => postRenderable documented renderable body now⟩
  | update id body now => exact putExact renderable id body now
  | push id body now => exact pushExact documented renderable id body now

theorem pushWithout {s s' : Store} {id sectionId : Units} {data : List Js} {now : Units}
    (without : pushData s id sectionId data now = .ok (s',none)) : s' = s := by
  unfold pushData at without
  split at without
  · cases without
    rfl
  · split at without
    · split at without <;> cases without
    · cases without

theorem postOutcome (s : Store) (body : Option Js) (now : Units) :
    (post r s body now).2.ok = true ∨ (post r s body now).1 = s := by
  unfold post
  split
  · exact .inr rfl
  · split
    · exact .inr rfl
    · split
      · exact .inr rfl
      · split
        · dsimp only
          split
          · exact .inr rfl
          · exact .inl rfl
        · exact .inr rfl

theorem putOutcome (s : Store) (id : Units) (body : Option Js) (now : Units) :
    (put r s id body now).2.ok = true ∨ (put r s id body now).1 = s := by
  cases found : s.getPage id with
  | none => exact .inr (putMissing found body now)
  | some page =>
    unfold put
    split
    · exact .inr rfl
    · exact .inr rfl
    · split
      · exact .inr rfl
      · rw [found]
        exact .inl rfl

theorem pushOutcome (s : Store) (id : Units) (body : Option Js) (now : Units) :
    (pushPost r s id body now).2.ok = true ∨ (pushPost r s id body now).1 = s := by
  unfold pushPost
  split
  · exact .inr rfl
  · split
    · exact .inr rfl
    · split
      · split
        · exact .inr rfl
        · split
          · exact .inr rfl
          · rename_i without
            exact .inr (pushWithout without)
          · exact .inl rfl
      · exact .inr rfl

theorem refusedUnchanged (s : Store) (q : Request) (refused : (handle r s q).2.ok = false) : (handle r s q).1 = s := by
  have outcome : (handle r s q).2.ok = true ∨ (handle r s q).1 = s := by
    cases q with
    | create body now => exact postOutcome s body now
    | update id body now => exact putOutcome s id body now
    | push id body now => exact pushOutcome s id body now
  cases outcome with
  | inl accepted => rw [refused] at accepted; cases accepted
  | inr same => exact same

theorem allKeepIff (documented : Zod.Documented r.safeParse) (requests : List Request) : ∀ s, Renderable r s →
    ((∀ done rest, requests = done ++ rest → Renderable r (done.foldl (fun s q => (handle r s q).1) s)) ↔
      allKeepRenderable r s requests = true) := by
  induction requests with
  | nil =>
    intro s renderable
    refine ⟨fun _ => rfl,fun _ done rest parts => ?_⟩
    rw [(List.append_eq_nil_iff.mp parts.symm).1]
    exact renderable
  | cons q later ih =>
    intro s renderable
    rw [allKeepRenderable,Bool.and_eq_true,← handleExact documented renderable]
    constructor
    · intro all
      have first : Renderable r (handle r s q).1 := all [q] later rfl
      refine ⟨first,(ih _ first).mp ?_⟩
      intro done rest parts
      exact all (q::done) rest (by rw [parts,List.cons_append])
    · rintro ⟨first,kept⟩ done rest parts
      cases done with
      | nil => exact renderable
      | cons q' done =>
        obtain ⟨rfl,tails⟩ := List.cons.inj parts
        exact (ih _ first).mpr kept done rest tails

theorem pagesStayRenderable (r : Runtime) (documented : Zod.Documented r.safeParse) (requests : List Request) :
    StaysRenderable r requests ↔ allKeepRenderable r .new requests = true := by
  rw [← allKeepIff documented requests .new Table.allEmpty]
  constructor
  · intro stays
    exact stays.renderable
  · intro renderable
    exact ⟨renderable,fun _ _ _ _ refused => refusedUnchanged _ _ refused⟩

end

def asciiRuntime : Runtime where
  toLowerCase := asciiLowerCase
  templateText
    | some (.string u) => .ok u
    | _ => .error .typeError
  safeParse := Zod.interpreter LazySchema.definition 8

def article (title : Units) : Js := .object [(js "title",.string title)]

def cards (component : Units) (items : List Js) : Js :=
  .object [(js "id",.string (js "s")),(js "component",.string component),(js "data",.array items)]

theorem pagesStayRenderableOnce : StaysRenderable asciiRuntime [
    .create (some (.object [(js "title",.string (js "A")),(js "sections",.array [cards (js "articles") [article (js "x")]])]))
      (js "t"),
    .push (js "a") (some (.object [(js "section_id",.string (js "s")),(js "data",.array [article (js "y")])])) (js "t"),
    .update (js "a") (some (.object [(js "sections",.array [cards (js "hero") [.null]])])) (js "t")] :=
  (pagesStayRenderable asciiRuntime (Zod.interpreterDocumented _ 8) _).mpr (by decide)

theorem brokenPage {r : Runtime} {requests : List Request} (id : Units)
    (broken : ((runRequests r requests).getPage id).map (pageRenders r) = some false) : ¬ StaysRenderable r requests := by
  intro stays
  cases found : (runRequests r requests).getPage id with
  | none => rw [found] at broken; cases broken
  | some page =>
    rw [found] at broken
    have renders := stays.renderable requests [] (List.append_nil _).symm (.string id) page found
    rw [Option.map_some,renders] at broken
    cases broken

theorem pagesBroken :
    ¬ StaysRenderable asciiRuntime [.create (some (article (js "A"))) (js "t"),
      .update (js "a") (some (.object [(js "sections",.string (js "x"))])) (js "t")] ∧
    ¬ StaysRenderable asciiRuntime [.create (some (article (js "A"))) (js "t"),
      .push (js "a") (some (.object [(js "section_id",.string (js "s")),(js "data",.array [.object []])])) (js "t")] :=
  ⟨brokenPage (js "a") (by decide),brokenPage (js "a") (by decide)⟩

end Vscreen.Pages
