import Vscreen.PageIds

/-! Saved pages after a restart. A run keeps, beside the map and the files, what every
page was when it was last saved; loading the files into an empty map gives that back
exactly when no page is saved under the empty id and none holds an infinity. -/
namespace Vscreen.Pages
open Json (Units)

inductive Action where
  | create (req : CreatePageRequest) (now : Units)
  | update (id : Units) (req : UpdatePageRequest) (now : Units)
  | push (pageId sectionId : Units) (data : List Js) (now : Units)
  | save (id : Units)

structure World where
  store : Store
  disk : Disk
  saved : Table Units JsObject

namespace World

def start : World := ⟨.new,∅,∅⟩

def act (toLowerCase : Units → Units) (w : World) : Action → World
  | .create req now => match createPage toLowerCase w.store req now with
    | none => w
    | some (store,_) => {w with store := store}
  | .update id req now => {w with store := (updatePage w.store id req now).1}
  | .push pageId sectionId data now => match pushData w.store pageId sectionId data now with
    | .error _ => w
    | .ok (store,_) => {w with store := store}
  | .save id => {
      w with
      disk := (savePage w.store w.disk id).1
      saved := match w.store.getPage id with
        | none => w.saved
        | some page => Table.put w.saved id page }

def run (toLowerCase : Units → Units) (actions : List Action) : World := actions.foldl (act toLowerCase) start

structure Consistent (w : World) : Prop where
  keyed : ∀ key page, Table.get w.store.pages key = some page →
    ∃ id, key = .string id ∧ JsObject.get page (js "id") = some (.string id)
  named : ∀ id page, Table.get w.saved id = some page → JsObject.get page (js "id") = some (.string id)
  files : ∀ name file, Table.get w.disk name = some file ↔
    ∃ id page, Table.get w.saved id = some page ∧ name = fileName id ∧ file = .json (Js.restored (.object page))

end World

theorem fileNameInjective {id other : Units} (same : fileName id = fileName other) : id = other :=
  List.append_cancel_right same

@[simp] theorem newPageId (id : Units) (req : CreatePageRequest) (now : Units) :
    JsObject.get (newPage id req now) (js "id") = some (.string id) := by
  simp [newPage,JsObject.literal]

@[simp] theorem updatedId (page : JsObject) (req : UpdatePageRequest) (now : Units) :
    JsObject.get (updated page req now) (js "id") = JsObject.get page (js "id") := by
  have stamped : js "updatedAt" ≠ js "id" := by decide
  have sections : js "sections" ≠ js "id" := by decide
  rw [updated,JsObject.getSet,if_neg stamped,JsObject.getAssign _ _ _ _ sections,getFields page req (by decide)]

@[simp] theorem withSectionsId (page : JsObject) (sections : List Js) (now : Units) :
    JsObject.get (withSections page sections now) (js "id") = JsObject.get page (js "id") := by
  have written : js "sections" ≠ js "id" := by decide
  have stamped : js "updatedAt" ≠ js "id" := by decide
  rw [withSections,JsObject.getSet,if_neg stamped,JsObject.getSet,if_neg written]

theorem pushWrites {s s' : Store} {pageId sectionId : Units} {data : List Js} {now : Units} {section_ : Option Js}
    (pushed : pushData s pageId sectionId data now = .ok (s',section_)) :
    s' = s ∨ ∃ page sections, s.getPage pageId = some page ∧ s' = s.write pageId (withSections page sections now) := by
  unfold pushData at pushed
  split at pushed
  · cases pushed
    exact .inl rfl
  · rename_i page found
    split at pushed
    · split at pushed
      · cases pushed
      · rename_i sections' _ _
        cases pushed
        exact .inr ⟨page,sections',found,rfl⟩
      · cases pushed
        exact .inr ⟨page,_,found,rfl⟩
    · cases pushed

namespace World
variable {toLowerCase : Units → Units} {w : World}

theorem consistentStart : Consistent start where
  keyed := by intro key page found; cases found
  named := by intro id page found; cases found
  files := by
    intro name file
    constructor
    · intro found; cases found
    · rintro ⟨id,page,found,-⟩; cases found

theorem consistentWrite (consistent : Consistent w) {id : Units} {page : JsObject}
    (named : JsObject.get page (js "id") = some (.string id)) :
    Consistent {w with store := w.store.write id page} where
  keyed := by
    intro key page' found
    rw [Store.write,Table.getPut] at found
    split at found
    · rename_i same
      cases Option.some.inj found
      exact ⟨id,same,named⟩
    · exact consistent.keyed key page' found
  named := consistent.named
  files := consistent.files

theorem pageNamed (consistent : Consistent w) {id : Units} {page : JsObject} (found : w.store.getPage id = some page) :
    JsObject.get page (js "id") = some (.string id) := by
  obtain ⟨id',same,named⟩ := consistent.keyed (.string id) page found
  cases same
  exact named

inductive Acted (toLowerCase : Units → Units) (w : World) : Action → World → Prop where
  | nothing (action) : Acted toLowerCase w action w
  | created {req now id} (fresh : uniqueId toLowerCase w.store req.title = some id) :
      Acted toLowerCase w (.create req now) {w with store := w.store.write id (newPage id req now)}
  | changed {action id page page'} (found : w.store.getPage id = some page)
      (kept : JsObject.get page' (js "id") = JsObject.get page (js "id")) :
      Acted toLowerCase w action {w with store := w.store.write id page'}
  | saved {id page} (found : w.store.getPage id = some page) :
      Acted toLowerCase w (.save id) ⟨w.store,Table.put w.disk (fileName id) (.json (Js.restored (.object page))),
        Table.put w.saved id page⟩

theorem actActed (toLowerCase : Units → Units) (w : World) (action : Action) :
    Acted toLowerCase w action (w.act toLowerCase action) := by
  cases action with
  | create req now =>
    simp only [act,createPage]
    cases fresh : uniqueId toLowerCase w.store req.title with
    | none => exact .nothing _
    | some id => exact .created fresh
  | update id req now =>
    simp only [act,updatePage]
    cases found : w.store.getPage id with
    | none => exact .nothing _
    | some page => exact .changed found (updatedId page req now)
  | push pageId sectionId data now =>
    simp only [act]
    split
    · exact .nothing _
    · rename_i store section_ pushed
      cases pushWrites pushed with
      | inl same =>
        rw [same]
        exact .nothing _
      | inr wrote =>
        obtain ⟨page,sections,found,rfl⟩ := wrote
        exact .changed found (withSectionsId page sections now)
  | save id =>
    simp only [act,savePage]
    cases found : w.store.getPage id with
    | none => exact .nothing _
    | some page => exact .saved found

theorem consistentSave (consistent : Consistent w) {id : Units} {page : JsObject}
    (found : w.store.getPage id = some page) :
    Consistent ⟨w.store,Table.put w.disk (fileName id) (.json (Js.restored (.object page))),Table.put w.saved id page⟩ where
  keyed := consistent.keyed
  named := by
    intro id' page' saved
    rw [Table.getPut] at saved
    split at saved
    · rename_i same
      cases Option.some.inj saved
      rw [same]
      exact pageNamed consistent found
    · exact consistent.named id' page' saved
  files := by
    intro name file
    rw [Table.getPut]
    constructor
    · intro holds
      split at holds
      · rename_i same
        cases Option.some.inj holds
        exact ⟨id,page,by simp,same,rfl⟩
      · rename_i other
        obtain ⟨id',page',saved,named,restored⟩ := (consistent.files name file).mp holds
        refine ⟨id',page',?_,named,restored⟩
        have apart : id' ≠ id := by
          intro same
          exact other (by rw [named,same])
        rw [Table.getPut,if_neg apart]
        exact saved
    · rintro ⟨id',page',saved,named,restored⟩
      rw [Table.getPut] at saved
      split at saved
      · rename_i same
        cases Option.some.inj saved
        rw [if_pos (by rw [named,same]),restored]
      · rename_i other
        have apart : name ≠ fileName id := by
          intro same
          exact other (fileNameInjective (named.symm.trans same))
        rw [if_neg apart]
        exact (consistent.files name file).mpr ⟨id',page',saved,named,restored⟩

theorem consistentAct (consistent : Consistent w) {action : Action} {w' : World}
    (acted : Acted toLowerCase w action w') : Consistent w' := by
  cases acted with
  | nothing => exact consistent
  | created fresh => exact consistentWrite consistent (newPageId _ _ _)
  | changed found kept =>
    refine consistentWrite consistent ?_
    rw [kept]
    exact pageNamed consistent found
  | saved found => exact consistentSave consistent found

theorem runConsistent (toLowerCase : Units → Units) (actions : List Action) : Consistent (run toLowerCase actions) := by
  have kept : ∀ w, Consistent w → Consistent (actions.foldl (act toLowerCase) w) := by
    induction actions with
    | nil => intro w consistent; exact consistent
    | cons action rest ih => intro w consistent; exact ih _ (consistentAct consistent (actActed toLowerCase w action))
  exact kept start consistentStart

end World

def savedFile (id : Units) (page : JsObject) : Units × File := (fileName id,.json (Js.restored (.object page)))

theorem loadSavedFile (acc : Store × Nat) {id : Units} {page : JsObject}
    (named : JsObject.get page (js "id") = some (.string id)) :
    loadFile acc (savedFile id page) =
      if id = [] then acc
      else (⟨Table.put acc.1.pages (.string id) (Js.restoredMembers page),acc.1.references + 1⟩,acc.2 + 1) := by
  have suffix : (js ".json").isSuffixOf (fileName id) = true :=
    List.isSuffixOf_iff_suffix.mpr (List.suffix_append id (js ".json"))
  have carried : JsObject.get (Js.restoredMembers page) (js "id") = some (.string id) := by
    rw [Js.getRestored,named]
    rfl
  simp only [loadFile,savedFile,suffix,Js.restored,carried,keyOf,Js.truthy]
  cases id with
  | nil => rfl
  | cons u rest => rfl

def FromSaves (saved : Table Units JsObject) (files : List (Units × File)) : Prop :=
  ∀ file ∈ files, ∃ id page, Table.get saved id = some page ∧
    JsObject.get page (js "id") = some (.string id) ∧ file = savedFile id page

section
variable {saved : Table Units JsObject} {files : List (Units × File)}

theorem loadSound (fromSaves : FromSaves saved files) : ∀ {acc : Store × Nat} {key : Key} {page' : JsObject},
    Table.get (files.foldl loadFile acc).1.pages key = some page' →
    Table.get acc.1.pages key = some page' ∨
    ∃ id page, Table.get saved id = some page ∧ id ≠ [] ∧ key = .string id ∧ page' = Js.restoredMembers page := by
  induction files with
  | nil => intro acc key page' found; exact .inl found
  | cons file rest ih =>
    intro acc key page' found
    obtain ⟨id,page,saved',named,rfl⟩ := fromSaves file List.mem_cons_self
    rw [List.foldl_cons,loadSavedFile acc named] at found
    cases ih (fun f mem => fromSaves f (List.mem_cons_of_mem _ mem)) found with
    | inr fromRest => exact .inr fromRest
    | inl before =>
      split at before
      · exact .inl before
      · rename_i nonempty
        rw [Table.getPut] at before
        split at before
        · rename_i same
          cases Option.some.inj before
          exact .inr ⟨id,page,saved',nonempty,same,rfl⟩
        · exact .inl before

theorem loadKeeps (fromSaves : FromSaves saved files) {id : Units} (absent : fileName id ∉ files.map Prod.fst) :
    ∀ acc : Store × Nat,
      Table.get (files.foldl loadFile acc).1.pages (.string id) = Table.get acc.1.pages (.string id) := by
  induction files with
  | nil => intro acc; rfl
  | cons file rest ih =>
    intro acc
    obtain ⟨id',page,saved',named,rfl⟩ := fromSaves file List.mem_cons_self
    rw [List.map_cons,List.mem_cons,not_or] at absent
    have other : Key.string id ≠ .string id' := by
      intro same
      cases same
      exact absent.1 rfl
    rw [List.foldl_cons,ih (fun f mem => fromSaves f (List.mem_cons_of_mem _ mem)) absent.2,loadSavedFile acc named]
    split
    · rfl
    · rw [Table.getPut,if_neg other]

theorem loadComplete (fromSaves : FromSaves saved files) (distinct : (files.map Prod.fst).Nodup)
    {id : Units} {page : JsObject} (named : JsObject.get page (js "id") = some (.string id)) (nonempty : id ≠ [])
    (listed : savedFile id page ∈ files) : ∀ acc : Store × Nat,
      Table.get (files.foldl loadFile acc).1.pages (.string id) = some (Js.restoredMembers page) := by
  induction files with
  | nil => cases listed
  | cons file rest ih =>
    intro acc
    have restSaves : FromSaves saved rest := fun f mem => fromSaves f (List.mem_cons_of_mem _ mem)
    rw [List.map_cons,List.nodup_cons] at distinct
    rw [List.foldl_cons]
    cases List.mem_cons.mp listed with
    | inl first =>
      subst first
      rw [loadKeeps restSaves distinct.1,loadSavedFile acc named,if_neg nonempty]
      simp
    | inr later => exact ih restSaves distinct.2 later _

theorem loadCounts (fromSaves : FromSaves saved files)
    (nonempty : ∀ id page, Table.get saved id = some page → id ≠ []) :
    ∀ acc : Store × Nat, (files.foldl loadFile acc).2 = acc.2 + files.length := by
  induction files with
  | nil => intro acc; rfl
  | cons file rest ih =>
    intro acc
    obtain ⟨id,page,saved',named,rfl⟩ := fromSaves file List.mem_cons_self
    rw [List.foldl_cons,ih (fun f mem => fromSaves f (List.mem_cons_of_mem _ mem)),loadSavedFile acc named,
      if_neg (nonempty id page saved'),List.length_cons]
    omega

end

/-- What `readdirSync` can return: every file of the directory once, in any order. -/
structure Lists (files : List (Units × File)) (disk : Disk) : Prop where
  distinct : (files.map Prod.fst).Nodup
  listed : ∀ name file, (name,file) ∈ files ↔ Table.get disk name = some file

def listing (disk : Disk) : List (Units × File) := disk.entries.map (fun e => (e.1,e.2))

theorem listingLists (disk : Disk) : Lists (listing disk) disk where
  distinct := by
    have names : (listing disk).map Prod.fst = disk.keys := by
      simp [listing,AList.keys,List.keys,List.map_map,Function.comp_def]
    rw [names]
    exact disk.keys_nodup
  listed := by
    intro name file
    rw [Table.get,AList.lookup,← Option.mem_def,List.mem_dlookup_iff disk.nodupKeys,listing]
    constructor
    · intro mem
      obtain ⟨entry,inside,same⟩ := List.mem_map.mp mem
      cases same
      exact inside
    · intro mem
      exact List.mem_map.mpr ⟨⟨name,file⟩,mem,rfl⟩

/-- An empty map, filled from the files, holds exactly the pages last saved. -/
structure RoundTrips (w : World) : Prop where
  restores : ∀ files, Lists files w.disk → ∀ key page,
    Table.get (loadAllPages .new files).1.pages key = some page ↔
      ∃ id, key = .string id ∧ Table.get w.saved id = some page
  counts : ∀ files, Lists files w.disk → (loadAllPages .new files).2 = w.saved.keys.length
  apart : ∀ id ∈ w.saved.keys, ∀ other ∈ w.saved.keys, fileName id = fileName other → id = other

def Lossless (w : World) : Prop :=
  ∀ id page, Table.get w.saved id = some page → id ≠ [] ∧ Js.finiteMembers page = true

namespace World
variable {w : World} {files : List (Units × File)}

theorem listedSaves (consistent : Consistent w) (lists : Lists files w.disk) : FromSaves w.saved files := by
  intro file mem
  obtain ⟨id,page,saved,named,restored⟩ := (consistent.files file.1 file.2).mp ((lists.listed file.1 file.2).mp mem)
  exact ⟨id,page,saved,consistent.named id page saved,Prod.ext named restored⟩

theorem savedListed (consistent : Consistent w) (lists : Lists files w.disk) {id : Units} {page : JsObject}
    (saved : Table.get w.saved id = some page) : savedFile id page ∈ files :=
  (lists.listed _ _).mpr ((consistent.files _ _).mpr ⟨id,page,saved,rfl,rfl⟩)

theorem listedLength (consistent : Consistent w) (lists : Lists files w.disk) : files.length = w.saved.keys.length := by
  have distinct : (w.saved.keys.map fileName).Nodup := w.saved.keys_nodup.map (fun _ _ same => fileNameInjective same)
  have same : (files.map Prod.fst).Perm (w.saved.keys.map fileName) := by
    rw [List.perm_ext_iff_of_nodup lists.distinct distinct]
    intro name
    constructor
    · intro mem
      obtain ⟨file,inside,rfl⟩ := List.mem_map.mp mem
      obtain ⟨id,page,saved,-,rfl⟩ := listedSaves consistent lists file inside
      exact List.mem_map.mpr ⟨id,Table.memKeys.mpr (by rw [saved]; rfl),rfl⟩
    · intro mem
      obtain ⟨id,inside,rfl⟩ := List.mem_map.mp mem
      obtain ⟨page,saved⟩ := Option.isSome_iff_exists.mp (Table.memKeys.mp inside)
      exact List.mem_map.mpr ⟨_,savedListed consistent lists saved,rfl⟩
  simpa using same.length_eq

theorem losslessRoundTrips (consistent : Consistent w) (lossless : Lossless w) : RoundTrips w where
  restores := by
    intro files lists key page
    have fromSaves := listedSaves consistent lists
    constructor
    · intro found
      cases loadSound fromSaves found with
      | inl before => cases before
      | inr loaded =>
        obtain ⟨id,page',saved,-,same,restored⟩ := loaded
        rw [(Js.restoredMembersIff page').mpr (lossless id page' saved).2] at restored
        rw [restored]
        exact ⟨id,same,saved⟩
    · rintro ⟨id,rfl,saved⟩
      obtain ⟨nonempty,finite⟩ := lossless id page saved
      rw [loadAllPages,loadComplete fromSaves lists.distinct (consistent.named id page saved) nonempty
        (savedListed consistent lists saved),(Js.restoredMembersIff page).mpr finite]
  counts := by
    intro files lists
    rw [loadAllPages,loadCounts (listedSaves consistent lists) (fun id page saved => (lossless id page saved).1),
      listedLength consistent lists,Nat.zero_add]
  apart := fun _ _ _ _ same => fileNameInjective same

theorem roundTripsLossless (consistent : Consistent w) (roundTrips : RoundTrips w) : Lossless w := by
  intro id page saved
  have lists := listingLists w.disk
  have loaded := (roundTrips.restores _ lists (.string id) page).mpr ⟨id,rfl,saved⟩
  cases loadSound (listedSaves consistent lists) loaded with
  | inl before => cases before
  | inr fromFile =>
    obtain ⟨id',page',saved',nonempty,same,restored⟩ := fromFile
    cases same
    rw [saved] at saved'
    cases Option.some.inj saved'
    exact ⟨nonempty,(Js.restoredMembersIff page).mp restored.symm⟩

end World

theorem savedPagesRestored (toLowerCase : Units → Units) (actions : List Action) :
    RoundTrips (World.run toLowerCase actions) ↔ Lossless (World.run toLowerCase actions) :=
  ⟨World.roundTripsLossless (World.runConsistent toLowerCase actions),
    World.losslessRoundTrips (World.runConsistent toLowerCase actions)⟩

structure Named (w : World) : Prop where
  stored : w.store.getPage [] = none
  saved : Table.get w.saved [] = none

theorem writeNamed {w : World} (named : Named w) {id : Units} (nonempty : id ≠ []) (page : JsObject) :
    Named {w with store := w.store.write id page} where
  stored := by
    have apart : Key.string [] ≠ .string id := by
      intro same
      cases same
      exact nonempty rfl
    rw [Store.getPage,Store.write,Table.getPut,if_neg apart]
    exact named.stored
  saved := named.saved

theorem storedNonempty {w : World} (named : Named w) {id : Units} {page : JsObject}
    (found : w.store.getPage id = some page) : id ≠ [] := by
  rintro rfl
  rw [named.stored] at found
  cases found

def Titled (toLowerCase : Units → Units) : Action → Prop
  | .create req _ => ∃ u ∈ toLowerCase req.title, slugUnit u = true
  | _ => True

theorem actNamed {toLowerCase : Units → Units} {w w' : World} (named : Named w) {action : Action}
    (acted : World.Acted toLowerCase w action w') (titled : Titled toLowerCase action) : Named w' := by
  cases acted with
  | nothing => exact named
  | @created req now id fresh =>
    refine writeNamed named ?_ _
    rintro rfl
    obtain ⟨u,mem,slug⟩ := titled
    have other := ((emptyIdIff toLowerCase w.store req.title).mp fresh).1 u mem
    rw [slug] at other
    cases other
  | changed found kept => exact writeNamed named (storedNonempty named found) _
  | saved found =>
    refine ⟨named.stored,?_⟩
    rw [Table.getPut,if_neg (storedNonempty named found).symm]
    exact named.saved

theorem titledLossless {toLowerCase : Units → Units} {actions : List Action}
    (titled : ∀ action ∈ actions, Titled toLowerCase action) :
    Lossless (World.run toLowerCase actions) ↔
      ∀ id page, Table.get (World.run toLowerCase actions).saved id = some page → Js.finiteMembers page = true := by
  have kept : ∀ w, Named w → Named (actions.foldl (World.act toLowerCase) w) := by
    induction actions with
    | nil => intro w named; exact named
    | cons action rest ih =>
      rw [List.forall_mem_cons] at titled
      intro w named
      exact ih titled.2 _ (actNamed named (World.actActed toLowerCase w action) titled.1)
  have named : Named (World.run toLowerCase actions) := kept World.start ⟨rfl,rfl⟩
  refine ⟨fun lossless id page saved => (lossless id page saved).2,fun finite id page saved => ⟨?_,finite id page saved⟩⟩
  rintro rfl
  rw [named.saved] at saved
  cases saved

theorem untitledPageLost :
    ¬ RoundTrips (World.run asciiLowerCase [.create ⟨js "!!!",none,none,none,none,none⟩ (js "t"),.save []]) := by
  intro roundTrips
  have counts := roundTrips.counts _ (listingLists _)
  revert counts
  decide

end Vscreen.Pages
