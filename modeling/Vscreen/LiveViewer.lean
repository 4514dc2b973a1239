import Mathlib.Logic.Function.Basic
import Vscreen.Machine
import Vscreen.PagePersistence
import Vscreen.PageRendering

/-! Open viewers of synthesis pages (page/[slug]/+page.svelte), which follow the server over
its event stream (server/ws.ts, api/events): requests write the store and tell every stream,
and a viewer fetches its page again when it is told. A stream may break at any time. -/
namespace Vscreen.Pages.Live
open Json (Units)

inductive MessageType where
  | connected
  | created
  | updated
  | push
  | deleted
  deriving DecidableEq, Repr

structure Message where
  type : MessageType
  pageId : Option Js

def strictEquals : Option Js → Option Js → Bool
  | none,none => true
  | some .null,some .null => true
  | some (.bool a),some (.bool b) => a == b
  | some (.number a),some (.number b) => a == b
  | some (.string a),some (.string b) => a == b
  | _,_ => false

structure Stream where
  opened : Bool
  unread : List Message

def segment (id : Units) : Bool := !id.isEmpty && id.all (fun u => slugUnit u || u == 45)

inductive Reached where
  | page (id : Units)
  | elsewhere (answer : Option Js)

/-- What URLs and Svelte do here: a plain id stands for itself in a path, and `live` says
whether `$derived(data.page)` follows when `data.page` is assigned. -/
structure Platform where
  reach : Units → Reached
  live : Bool
  plain : ∀ id, segment id = true → reach id = .page id

-- `page` is `data.page` and `derived` the `$derived` one; `fetches` are the ids asked for, and
-- `answers` what `res.json()` gives, `none` where the response is not ok
structure Viewer where
  page : Js
  derived : Js
  stream : Option Stream
  fetches : List Units
  answers : List (Option Js)

namespace Viewer

def pageId (v : Viewer) : Option Js := v.derived.get (js "id")

def fetch (v : Viewer) : Viewer := match v.pageId with
  | some (.string id) => {v with fetches := v.fetches ++ [id]}
  | _ => v

def onopen (v : Viewer) : Viewer := match v.pageId with
  | some id => if id.truthy then v.fetch else v
  | none => v

def refetches (v : Viewer) (msg : Message) : Bool :=
  strictEquals msg.pageId v.pageId && (msg.type == .updated || msg.type == .push)

def onmessage (v : Viewer) (msg : Message) : Viewer := if v.refetches msg then v.fetch else v

def receive (f : Platform) (v : Viewer) (answer : Option Js) : Viewer := match answer with
  | none => v
  | some page => {v with page := page, derived := if f.live then page else v.derived}

end Viewer

structure Site where
  store : Store
  viewers : Nat → Option Viewer

inductive Event where
  | request (q : Request)
  | delete (id : Units)
  | load (i : Nat) (id : Units)
  | connect (i : Nat)
  | onopen (i : Nat)
  | onmessage (i : Nat)
  | broken (i : Nat)
  | serve (i k : Nat)
  | arrive (i k : Nat)
  | failed (i k : Nat)
  | lost (i k : Nat)
  | leave (i : Nat)

def broadcast : Request → Reply → Option Message
  | .create _ _,.json _ (.object page) => some ⟨.created,JsObject.get page (js "id")⟩
  | .update _ _ _,.json _ (.object page) => some ⟨.updated,JsObject.get page (js "id")⟩
  | .push id _ _,.json _ _ => some ⟨.push,some (.string id)⟩
  | _,_ => none

def Viewer.tell (msg : Message) (v : Viewer) : Viewer :=
  {v with stream := v.stream.map fun s => {s with unread := s.unread ++ [msg]}}

namespace Site

def tell (s : Site) : Option Message → Site
  | none => s
  | some msg => {s with viewers := fun i => (s.viewers i).map (Viewer.tell msg)}

def setViewer (s : Site) (i : Nat) (v : Option Viewer) : Site := {s with viewers := Function.update s.viewers i v}

def get (s : Site) (id : Units) : Option JsObject := (s.store.getPage id).map Js.restoredMembers

def answer (f : Platform) (s : Site) (asked : Units) : Option Js := match f.reach asked with
  | .page id => (s.get id).map .object
  | .elsewhere answer => answer

section
variable (f : Platform) (r : Runtime)

def request (s : Site) (q : Request) : Site :=
  let handled := handle r s.store q
  tell {s with store := handled.1} (broadcast q handled.2)

def delete (s : Site) (id : Units) : Site :=
  let deleted := deletePage s.store id
  tell {s with store := deleted.1} (if deleted.2 then some ⟨.deleted,some (.string id)⟩ else none)

def viewerStep (s : Site) (v : Viewer) : Event → Option Viewer
  | .connect _ => match v.stream with
    | none => some {v with stream := some ⟨false,[⟨.connected,none⟩]⟩}
    | some _ => none
  | .onopen _ => match v.stream with
    | some ⟨false,unread⟩ => some {v.onopen with stream := some ⟨true,unread⟩}
    | _ => none
  | .onmessage _ => match v.stream with
    | some ⟨true,msg::unread⟩ => some {v.onmessage msg with stream := some ⟨true,unread⟩}
    | _ => none
  | .broken _ => some {v with stream := none}
  | .serve _ k => (v.fetches[k]?).map fun id => {v with fetches := v.fetches.eraseIdx k, answers := v.answers ++ [s.answer f id]}
  | .arrive _ k => (v.answers[k]?).map fun answer => {v with answers := v.answers.eraseIdx k}.receive f answer
  | .failed _ k => some {v with fetches := v.fetches.eraseIdx k}
  | .lost _ k => some {v with answers := v.answers.eraseIdx k}
  | _ => none

def stepViewer (s : Site) (i : Nat) (event : Event) : Option Site := match s.viewers i with
  | none => none
  | some v => (s.viewerStep f v event).map fun v' => s.setViewer i (some v')

def step (s : Site) : Event → Option Site
  | .request q => some (s.request r q)
  | .delete id => some (s.delete id)
  | .load i id => match s.store.getPage id with
    | some page => some (s.setViewer i (some ⟨.object page,.object page,none,[],[]⟩))
    | none => none
  | .leave i => some (s.setViewer i none)
  | event@(.connect i) | event@(.onopen i) | event@(.onmessage i) | event@(.broken i) | event@(.serve i _)
  | event@(.arrive i _) | event@(.failed i _) | event@(.lost i _) => s.stepViewer f i event

end
end Site

def site (f : Platform) (r : Runtime) (files : List (Units × File)) : Machine Site Event Event where
  init := ⟨(loadAllPages .new files).1,fun _ => none⟩
  step s event := (s.step f r event).map fun s' => (s',[event])

/-- The pages opened have plain ids, none of a viewer is deleted, no fetch fails, and the
answers to a viewer arrive in the order in which the server gave them. -/
def Steady (s : Site) : Event → Prop
  | .load _ id => segment id = true
  | .delete id => ∀ i v, s.viewers i = some v → v.pageId ≠ some (.string id)
  | .arrive _ k => k = 0
  | .failed _ _ => False
  | .lost _ _ => False
  | _ => True

def Named (s : Store) : Prop := ∀ id page, s.getPage id = some page → JsObject.get page (js "id") = some (.string id)

theorem writeNamed {s : Store} (named : Named s) {id : Units} {page : JsObject}
    (own : JsObject.get page (js "id") = some (.string id)) : Named (s.write id page) := by
  intro id' page' found
  rw [Store.getPage,Store.write,Table.getPut] at found
  split at found
  · rename_i same
    cases same
    cases Option.some.inj found
    exact own
  · exact named id' page' found

theorem deleteNamed {s : Store} (named : Named s) (id : Units) : Named (deletePage s id).1 := by
  intro id' page' found
  rw [deletePage,Store.getPage,Table.getDel] at found
  split at found
  · cases found
  · exact named id' page' found

theorem loadFileNamed {acc : Store × Nat} (named : Named acc.1) (file : Units × File) : Named (loadFile acc file).1 := by
  unfold loadFile
  split
  · exact named
  · split
    · rename_i page same
      split
      · rename_i id found
        split
        · intro id' page' stored
          rw [Store.getPage,Table.getPut] at stored
          split at stored
          · rename_i key
            cases Option.some.inj stored
            cases id with
            | string u => cases key; exact found
            | _ => cases key
          · exact named id' page' stored
        · exact named
      · exact named
    · exact named

theorem loadNamed (files : List (Units × File)) : Named (loadAllPages .new files).1 := by
  have kept : ∀ acc : Store × Nat, Named acc.1 → Named (files.foldl loadFile acc).1 := by
    induction files with
    | nil => intro acc named; exact named
    | cons file rest ih => intro acc named; exact ih _ (loadFileNamed named file)
  exact kept _ fun id page found => by cases found

inductive Handled (s : Store) : Request → Store × Reply → Prop where
  | same {q reply} : Handled s q (s,reply)
  | created {body now id page status} (absent : s.getPage id = none)
      (own : JsObject.get page (js "id") = some (.string id)) :
      Handled s (.create body now) (s.write id page,.json status (.object page))
  | updated {id body now page page' status} (found : s.getPage id = some page)
      (kept : JsObject.get page' (js "id") = JsObject.get page (js "id")) :
      Handled s (.update id body now) (s.write id page',.json status (.object page'))
  | pushed {id body now page page' section_ status} (found : s.getPage id = some page)
      (kept : JsObject.get page' (js "id") = JsObject.get page (js "id")) :
      Handled s (.push id body now) (s.write id page',.json status section_)

section
variable (r : Runtime)

theorem postHandled (s : Store) (body : Option Js) (now : Units) : Handled s (.create body now) (post r s body now) := by
  unfold post
  split
  · exact .same
  · split
    · exact .same
    · split
      · exact .same
      · split
        · rename_i title _
          dsimp only
          split
          · exact .same
          · rename_i s' id made
            obtain ⟨fresh,found,free,-⟩ := uniqueIdFresh r.toLowerCase s title
            rw [createPage,found] at made
            cases Option.some.inj made
            exact .created (by simpa [Store.has] using free) (newPageId _ _ _)
        · exact .same

theorem putHandled (s : Store) (id : Units) (body : Option Js) (now : Units) :
    Handled s (.update id body now) (put r s id body now) := by
  unfold put
  split
  · exact .same
  · exact .same
  · split
    · exact .same
    · dsimp only
      cases found : s.getPage id with
      | none =>
        simp only [updatePage,found]
        exact .same
      | some page =>
        simp only [updatePage,found]
        exact .updated found (updatedId _ _ _)

theorem pushHandled (s : Store) (id : Units) (body : Option Js) (now : Units) :
    Handled s (.push id body now) (pushPost r s id body now) := by
  unfold pushPost
  split
  · exact .same
  · split
    · exact .same
    · split
      · split
        · exact .same
        · split
          · exact .same
          · rename_i without
            rw [pushWithout without]
            exact .same
          · rename_i s' section_ pushed
            rcases pushWrites pushed with rfl | ⟨page,sections,found,rfl⟩
            · exact .same
            · exact .pushed found (withSectionsId _ _ _)
      · exact .same

theorem handleHandled (s : Store) (q : Request) : Handled s q (handle r s q) := by
  cases q with
  | create body now => exact postHandled r s body now
  | update id body now => exact putHandled r s id body now
  | push id body now => exact pushHandled r s id body now

end

mutual

theorem finiteRestored : ∀ v : Js, Js.finite (Js.restored v) = true
  | .null => rfl
  | .bool _ => rfl
  | .number (.finite _) => rfl
  | .number (.infinite _) => rfl
  | .string _ => rfl
  | .array items => by
    rw [Js.restored,Js.finite]
    exact finiteRestoredItems items
  | .object o => by
    rw [Js.restored,Js.finite]
    exact finiteRestoredMembers o

theorem finiteRestoredItems : ∀ items : List Js, Js.finiteItems (Js.restoredItems items) = true
  | [] => rfl
  | v::rest => by
    rw [Js.restoredItems,Js.finiteItems,finiteRestored v,finiteRestoredItems rest]
    rfl

theorem finiteRestoredMembers : ∀ o : JsObject, Js.finiteMembers (Js.restoredMembers o) = true
  | [] => rfl
  | (_,v)::rest => by
    rw [Js.restoredMembers,Js.finiteMembers,finiteRestored v,finiteRestoredMembers rest]
    rfl

end

theorem restoredTwice (o : JsObject) : Js.restored (.object (Js.restoredMembers o)) = Js.restored (.object o) := by
  rw [Js.restored,Js.restored,(Js.restoredMembersIff _).mpr (finiteRestoredMembers o)]

namespace Viewer

def Told (v : Viewer) : Prop := ∃ unread, v.stream = some ⟨true,unread⟩ ∧ ∀ msg ∈ unread, v.refetches msg = false

def last (v : Viewer) : Js := v.answers.foldl (fun page answer => answer.getD page) v.page

structure Settled (v : Viewer) : Prop where
  told : v.Told
  fetches : v.fetches = []
  answers : v.answers = []

structure Follows (id : Units) (page : JsObject) (v : Viewer) : Prop where
  own : v.pageId = some (.string id)
  plain : segment id = true
  fetches : ∀ asked ∈ v.fetches, asked = id
  answers : ∀ answer ∈ v.answers, ∃ page', answer = some page' ∧ page'.get (js "id") = some (.string id)
  current : v.Told → v.fetches = [] → Js.restored v.last = Js.restored (.object page)

section
variable {id : Units} {page : JsObject} {v v' : Viewer}

theorem followsUntold (follows : v.Follows id page) {stream : Option Stream} {page' : JsObject}
    (untold : ¬ Told {v with stream := stream}) : Follows id page' {v with stream := stream} :=
  ⟨follows.own,follows.plain,follows.fetches,follows.answers,fun told => absurd told untold⟩

theorem followsFetch (follows : v.Follows id page) (stream : Option Stream) :
    Follows id page {v.fetch with stream := stream} := by
  have asks : v.fetch = {v with fetches := v.fetches ++ [id]} := by
    rw [fetch,follows.own]
  rw [asks]
  refine ⟨follows.own,follows.plain,?_,follows.answers,fun _ none => ?_⟩
  · intro asked member
    rcases List.mem_append.mp member with before | new
    · exact follows.fetches asked before
    · exact List.mem_singleton.mp new
  · cases (List.append_eq_nil_iff.mp none).2

theorem followsOnopen (follows : v.Follows id page) (stream : Option Stream) :
    Follows id page {v.onopen with stream := stream} := by
  have truthy : (Js.string id).truthy = true := by
    cases id with
    | nil => cases follows.plain
    | cons u rest => rfl
  have asks : v.onopen = v.fetch := by
    rw [onopen,follows.own]
    exact if_pos truthy
  rw [asks]
  exact followsFetch follows stream

theorem followsOnmessage (follows : v.Follows id page) {msg : Message} {unread : List Message}
    (reads : v.stream = some ⟨true,msg::unread⟩) :
    Follows id page {v.onmessage msg with stream := some ⟨true,unread⟩} := by
  unfold onmessage
  cases asks : v.refetches msg with
  | true => exact followsFetch follows _
  | false =>
    refine ⟨follows.own,follows.plain,follows.fetches,follows.answers,fun told quiet => ?_⟩
    obtain ⟨rest,same,silent⟩ := told
    cases same
    refine follows.current ⟨_,reads,?_⟩ quiet
    intro other member
    rcases List.mem_cons.mp member with rfl | later
    · exact asks
    · exact silent other later

theorem followsServe (follows : v.Follows id page) {k : Nat} {answer : Option Js}
    (served : answer = some (.object (Js.restoredMembers page))) (own : JsObject.get page (js "id") = some (.string id)) :
    Follows id page {v with fetches := v.fetches.eraseIdx k, answers := v.answers ++ [answer]} := by
  subst served
  refine ⟨follows.own,follows.plain,?_,?_,fun _ _ => ?_⟩
  · intro asked member
    exact follows.fetches asked (List.mem_of_mem_eraseIdx member)
  · intro answer member
    rcases List.mem_append.mp member with before | new
    · exact follows.answers answer before
    · refine ⟨_,List.mem_singleton.mp new,?_⟩
      rw [Js.get,Js.getRestored,own]
      rfl
  · rw [last,List.foldl_append]
    exact restoredTwice page

theorem followsArrive (f : Platform) (follows : v.Follows id page) {answer : Option Js} (arrives : v.answers[0]? = some answer) :
    Follows id page ({v with answers := v.answers.eraseIdx 0}.receive f answer) := by
  obtain ⟨rest,ahead⟩ : ∃ rest, v.answers = answer::rest := by
    cases answers : v.answers with
    | nil => rw [answers] at arrives; cases arrives
    | cons first rest =>
      rw [answers] at arrives
      cases arrives
      exact ⟨rest,rfl⟩
  obtain ⟨page',same,own⟩ := follows.answers answer (by rw [ahead]; exact List.mem_cons_self)
  subst same
  rw [ahead]
  have still : ({v with answers := (some page'::rest).eraseIdx 0}.receive f (some page')).pageId = some (.string id) := by
    rw [receive,pageId]
    dsimp only
    split
    · exact own
    · exact follows.own
  refine ⟨still,follows.plain,follows.fetches,?_,fun told quiet => ?_⟩
  · intro later member
    exact follows.answers later (by rw [ahead]; exact List.mem_cons_of_mem _ member)
  · obtain ⟨unread,opened,silent⟩ := told
    have before := follows.current ⟨unread,opened,fun msg member => ?_⟩ quiet
    · rw [last,ahead] at before
      exact before
    · have quietNow := silent msg member
      rw [refetches] at quietNow ⊢
      rw [follows.own]
      rw [still] at quietNow
      exact quietNow

theorem followsTell (follows : v.Follows id page) (msg : Message) : Follows id page (v.tell msg) := by
  refine ⟨follows.own,follows.plain,follows.fetches,follows.answers,fun told quiet => follows.current ?_ quiet⟩
  obtain ⟨unread,opened,silent⟩ := told
  rw [tell] at opened
  obtain ⟨⟨_,ahead⟩,before,same⟩ := Option.map_eq_some_iff.mp opened
  cases same
  exact ⟨ahead,before,fun other member => silent other (List.mem_append_left _ member)⟩

theorem followsWritten (follows : v.Follows id page) {msg : Message} (asks : v.refetches msg = true) (page' : JsObject) :
    Follows id page' (v.tell msg) := by
  refine followsUntold follows ?_
  rintro ⟨unread,opened,silent⟩
  obtain ⟨⟨_,ahead⟩,before,same⟩ := Option.map_eq_some_iff.mp opened
  cases same
  have ignored := silent msg (List.mem_append_right _ (List.mem_singleton.mpr rfl))
  exact absurd (asks.symm.trans ignored) (by decide)

end
end Viewer

namespace Site
variable {f : Platform} {r : Runtime} {s s' : Site}

structure Kept (s : Site) : Prop where
  named : Named s.store
  viewers : ∀ i v, s.viewers i = some v → ∃ id page, s.store.getPage id = some page ∧ v.Follows id page

theorem keptViewer (kept : s.Kept) {i : Nat} {v : Option Viewer}
    (follows : ∀ v', v = some v' → ∃ id page, s.store.getPage id = some page ∧ v'.Follows id page) :
    (s.setViewer i v).Kept := by
  refine ⟨kept.named,fun j v' there => ?_⟩
  simp only [setViewer,Function.update_apply] at there
  split at there
  · exact follows v' there
  · exact kept.viewers j v' there

theorem keptTell (kept : s.Kept) (msg : Option Message) : (s.tell msg).Kept := by
  cases msg with
  | none => exact kept
  | some msg =>
    refine ⟨kept.named,fun i v there => ?_⟩
    obtain ⟨before,shown,rfl⟩ := Option.map_eq_some_iff.mp there
    obtain ⟨id,page,found,follows⟩ := kept.viewers i before shown
    exact ⟨id,page,found,Viewer.followsTell follows msg⟩

theorem keptWrite (kept : s.Kept) {id : Units} {page : JsObject} (own : JsObject.get page (js "id") = some (.string id))
    (msg : Message) (tells : s.store.getPage id = none ∨ ∀ v : Viewer, v.pageId = some (.string id) → v.refetches msg = true) :
    (tell {s with store := s.store.write id page} (some msg)).Kept := by
  refine ⟨writeNamed kept.named own,fun i v there => ?_⟩
  obtain ⟨before,shown,rfl⟩ := Option.map_eq_some_iff.mp there
  obtain ⟨id',page',found,follows⟩ := kept.viewers i before shown
  have stored : (s.store.write id page).getPage id' = if id' = id then some page else some page' := by
    rw [Store.getPage,Store.write,Table.getPut,← found]
    by_cases same : id' = id
    · rw [if_pos same,if_pos (congrArg Key.string same)]
    · rw [if_neg same,if_neg fun key => same (Key.string.inj key)]
      rfl
  by_cases same : id' = id
  · subst same
    rw [if_pos rfl] at stored
    rcases tells with absent | asks
    · exact absurd (absent.symm.trans found) (by simp)
    · exact ⟨id',page,stored,Viewer.followsWritten follows (asks before follows.own) page⟩
  · rw [if_neg same] at stored
    exact ⟨id',page',stored,Viewer.followsTell follows msg⟩

theorem refetchesOwn {v : Viewer} {id : Units} {type : MessageType} (own : v.pageId = some (.string id))
    (write : type = .updated ∨ type = .push) : v.refetches ⟨type,some (.string id)⟩ = true := by
  rw [Viewer.refetches,own]
  rcases write with rfl | rfl <;> simp [strictEquals]

theorem keptRequest (kept : s.Kept) (q : Request) : (s.request r q).Kept := by
  have handled := handleHandled r s.store q
  rw [request]
  generalize handle r s.store q = out at handled ⊢
  cases handled with
  | same => exact keptTell kept _
  | created absent own => exact keptWrite kept own _ (.inl absent)
  | @updated id body now page page' status found same =>
    have own := same.trans (kept.named _ _ found)
    refine keptWrite kept own _ (.inr fun v shown => ?_)
    rw [own]
    exact refetchesOwn shown (.inl rfl)
  | pushed found same =>
    have own := same.trans (kept.named _ _ found)
    exact keptWrite kept own _ (.inr fun v shown => refetchesOwn shown (.inr rfl))

theorem keptDelete (kept : s.Kept) {id : Units} (unseen : ∀ i v, s.viewers i = some v → v.pageId ≠ some (.string id)) :
    (s.delete id).Kept := by
  refine keptTell ⟨deleteNamed kept.named id,fun i v there => ?_⟩ _
  obtain ⟨id',page,found,follows⟩ := kept.viewers i v there
  refine ⟨id',page,?_,follows⟩
  have other : Key.string id' ≠ .string id := by
    intro same
    cases same
    exact unseen i v there follows.own
  change Table.get (Table.del s.store.pages (.string id)) (.string id') = some page
  rw [Table.getDel,if_neg other]
  exact found

theorem followsStep (named : Named s.store) {v v' : Viewer} {event : Event} {id : Units} {page : JsObject}
    (found : s.store.getPage id = some page) (follows : v.Follows id page) (steady : Steady s event)
    (taken : s.viewerStep f v event = some v') : v'.Follows id page := by
  cases event with
  | connect i =>
    simp only [viewerStep] at taken
    split at taken
    · cases taken
      refine Viewer.followsUntold follows ?_
      rintro ⟨unread,opened,-⟩
      cases opened
    · cases taken
  | onopen i =>
    simp only [viewerStep] at taken
    split at taken
    · cases taken
      exact Viewer.followsOnopen follows _
    · cases taken
  | onmessage i =>
    simp only [viewerStep] at taken
    split at taken
    · rename_i reads
      cases taken
      exact Viewer.followsOnmessage follows reads
    · cases taken
  | broken i =>
    cases taken
    refine Viewer.followsUntold follows ?_
    rintro ⟨unread,opened,-⟩
    cases opened
  | serve i k =>
    obtain ⟨asked,underWay,rfl⟩ := Option.map_eq_some_iff.mp taken
    have same := follows.fetches asked (List.mem_of_getElem? underWay)
    subst same
    have given : s.answer f asked = some (.object (Js.restoredMembers page)) := by
      simp only [answer,f.plain asked follows.plain,get,found,Option.map_some]
    exact Viewer.followsServe follows given (named _ _ found)
  | arrive i k =>
    cases steady
    obtain ⟨answer,arrives,rfl⟩ := Option.map_eq_some_iff.mp taken
    exact Viewer.followsArrive f follows arrives
  | failed i k => exact steady.elim
  | lost i k => exact steady.elim
  | request q => cases taken
  | delete id => cases taken
  | load i id => cases taken
  | leave i => cases taken

theorem keptStep (kept : s.Kept) {event : Event} (steady : Steady s event) (taken : s.step f r event = some s') : s'.Kept := by
  have viewer : ∀ i, s.stepViewer f i event = some s' → s'.Kept := by
    intro i moved
    unfold stepViewer at moved
    split at moved
    · cases moved
    · rename_i v there
      obtain ⟨v',taken',rfl⟩ := Option.map_eq_some_iff.mp moved
      obtain ⟨id,page,found,follows⟩ := kept.viewers i v there
      refine keptViewer kept fun w same => ?_
      cases same
      exact ⟨id,page,found,followsStep kept.named found follows steady taken'⟩
  cases event with
  | request q =>
    cases taken
    exact keptRequest kept q
  | delete id =>
    cases taken
    exact keptDelete kept steady
  | load i id =>
    simp only [step] at taken
    split at taken
    · rename_i page found
      cases taken
      refine keptViewer kept fun v same => ?_
      cases same
      refine ⟨id,page,found,kept.named id page found,steady,fun _ absurd => (by cases absurd),
        fun _ absurd => (by cases absurd),fun told => ?_⟩
      obtain ⟨unread,opened,-⟩ := told
      cases opened
    · cases taken
  | leave i =>
    cases taken
    exact keptViewer kept fun v absurd => by cases absurd
  | connect i => exact viewer i taken
  | onopen i => exact viewer i taken
  | onmessage i => exact viewer i taken
  | broken i => exact viewer i taken
  | serve i k => exact viewer i taken
  | arrive i k => exact viewer i taken
  | failed i k => exact viewer i taken
  | lost i k => exact viewer i taken

theorem runKept {files : List (Units × File)} {trace : List Event} (run : (site f r files).Run Steady s trace) : s.Kept := by
  refine Machine.runInvariant (fun s _ => s.Kept) ⟨loadNamed files,fun i v absurd => by cases absurd⟩ ?_ run
  intro s trace event s' out kept steady taken
  obtain ⟨next,taken',same⟩ := Option.map_eq_some_iff.mp taken
  cases same
  exact keptStep kept steady taken'

end Site

namespace Viewer

def left (v : Viewer) : Nat :=
  (match v.stream with
    | none => 7
    | some stream => 3 * stream.unread.length + if stream.opened then 0 else 3) +
  2 * v.fetches.length + v.answers.length

theorem leftFetch (v : Viewer) : v.fetch.fetches.length ≤ v.fetches.length + 1 ∧ v.fetch.answers = v.answers := by
  unfold fetch
  split
  · exact ⟨by simp,rfl⟩
  · exact ⟨Nat.le_succ _,rfl⟩

theorem leftOnopen (v : Viewer) : v.onopen.fetches.length ≤ v.fetches.length + 1 ∧ v.onopen.answers = v.answers := by
  unfold onopen
  split
  · split
    · exact leftFetch v
    · exact ⟨Nat.le_succ _,rfl⟩
  · exact ⟨Nat.le_succ _,rfl⟩

theorem leftOnmessage (v : Viewer) (msg : Message) :
    (v.onmessage msg).fetches.length ≤ v.fetches.length + 1 ∧ (v.onmessage msg).answers = v.answers := by
  unfold onmessage
  split
  · exact leftFetch v
  · exact ⟨Nat.le_succ _,rfl⟩

theorem leftReceive (f : Platform) (v : Viewer) (answer : Option Js) : (v.receive f answer).left = v.left := by
  cases answer <;> rfl

end Viewer

namespace Site
variable {f : Platform} {r : Runtime} {s : Site}

def Own (i : Nat) (event : Event) : Prop :=
  event = .connect i ∨ event = .onopen i ∨ event = .onmessage i ∨ event = .serve i 0 ∨ event = .arrive i 0

theorem leftStep (f : Platform) (s : Site) (i : Nat) (v : Viewer) :
    v.Settled ∨ ∃ event v', Own i event ∧ s.viewerStep f v event = some v' ∧ v'.left < v.left := by
  cases answers : v.answers with
  | cons answer rest =>
    refine .inr ⟨.arrive i 0,_,.inr (.inr (.inr (.inr rfl))),by simp only [viewerStep,answers]; rfl,?_⟩
    rw [Viewer.leftReceive]
    simp only [Viewer.left,answers,List.eraseIdx_zero,List.tail_cons,List.length_cons]
    omega
  | nil =>
    cases fetches : v.fetches with
    | cons asked rest =>
      refine .inr ⟨.serve i 0,_,.inr (.inr (.inr (.inl rfl))),by simp only [viewerStep,fetches]; rfl,?_⟩
      simp only [Viewer.left,fetches,answers,List.eraseIdx_zero,List.tail_cons,List.length_cons,List.nil_append,
        List.length_nil]
      omega
    | nil =>
      cases stream : v.stream with
      | none =>
        refine .inr ⟨.connect i,_,.inl rfl,by simp only [viewerStep,stream]; rfl,?_⟩
        simp only [Viewer.left,stream,List.length_cons,List.length_nil]
        exact Nat.add_lt_add_right (Nat.add_lt_add_right (by decide) _) _
      | some state =>
        obtain ⟨opened,unread⟩ := state
        cases opened with
        | false =>
          refine .inr ⟨.onopen i,_,.inr (.inl rfl),by simp only [viewerStep,stream]; rfl,?_⟩
          obtain ⟨few,same⟩ := Viewer.leftOnopen v
          simp only [Viewer.left,stream,same,if_true,Bool.false_eq_true,if_false]
          omega
        | true =>
          cases unread with
          | nil => exact .inl ⟨⟨[],stream,fun msg absurd => by cases absurd⟩,fetches,answers⟩
          | cons msg rest =>
            refine .inr ⟨.onmessage i,_,.inr (.inr (.inl rfl)),by simp only [viewerStep,stream]; rfl,?_⟩
            obtain ⟨few,same⟩ := Viewer.leftOnmessage v msg
            simp only [Viewer.left,stream,same,if_true,List.length_cons]
            omega

theorem ownSteady {i : Nat} {event : Event} (own : Own i event) : Steady s event := by
  rcases own with rfl | rfl | rfl | rfl | rfl
  all_goals first | exact trivial | exact rfl

theorem ownStep {i : Nat} {event : Event} (own : Own i event) : s.step f r event = s.stepViewer f i event := by
  rcases own with rfl | rfl | rfl | rfl | rfl <;> rfl

theorem comesToRest {files : List (Units × File)} {i : Nat} : ∀ (n : Nat) {s : Site} {trace : List Event} {v : Viewer},
    (site f r files).Run Steady s trace → s.viewers i = some v → v.left ≤ n →
    ∃ s' trace' v', (site f r files).Run Steady s' trace' ∧ s'.store = s.store ∧ s'.viewers i = some v' ∧ v'.Settled := by
  intro n
  induction n with
  | zero =>
    intro s trace v run there few
    rcases leftStep f s i v with settled | ⟨event,v',-,-,fewer⟩
    · exact ⟨s,trace,v,run,rfl,there,settled⟩
    · omega
  | succ n ih =>
    intro s trace v run there few
    rcases leftStep f s i v with settled | ⟨event,v',own,taken,fewer⟩
    · exact ⟨s,trace,v,run,rfl,there,settled⟩
    · have moved : (site f r files).step s event = some (s.setViewer i (some v'),[event]) := by
        change (s.step f r event).map _ = _
        rw [ownStep own,stepViewer,there]
        dsimp only
        rw [taken]
        rfl
      have next := Machine.runStep run event (ownSteady own) moved
      have shown : (s.setViewer i (some v')).viewers i = some v' := Function.update_self ..
      obtain ⟨s',trace',last,run',kept,rest⟩ := ih next shown (by omega)
      exact ⟨s',trace',last,run',kept,rest⟩

end Site

/-- However the streams broke and the writes fell between, `data.page` of a viewer with nothing
under way is the page as it is now, up to what JSON cannot say, and every viewer can come to that. -/
theorem viewerCurrent {f : Platform} {r : Runtime} {files : List (Units × File)} {s : Site} {trace : List Event}
    (run : (site f r files).Run Steady s trace) {i : Nat} {v : Viewer} (there : s.viewers i = some v) :
    (v.Settled → ∃ id page, v.pageId = some (.string id) ∧ s.store.getPage id = some page ∧
      Js.restored v.page = Js.restored (.object page)) ∧
    ∃ s' trace' v', (site f r files).Run Steady s' trace' ∧ s'.store = s.store ∧ s'.viewers i = some v' ∧ v'.Settled := by
  refine ⟨fun settled => ?_,Site.comesToRest _ run there (Nat.le_refl _)⟩
  obtain ⟨id,page,found,follows⟩ := (Site.runKept run).viewers i v there
  refine ⟨id,page,follows.own,found,?_⟩
  have current := follows.current settled.told settled.fetches
  rw [Viewer.last,settled.answers] at current
  exact current

def untitled : JsObject := [(js "id",.string (js "a"))]

def plainPlatform : Platform where
  reach id := if segment id then .page id else .elsewhere none
  live := false
  plain _ plain := if_pos plain

theorem titledWhileOpening : ∃ (s : Site) (trace : List Event) (v : Viewer),
    (site plainPlatform asciiRuntime [(js "a.json",.json (.object untitled))]).Run Steady s trace ∧ s.viewers 0 = some v ∧
    v.page.get (js "title") = none ∧
    (v.Settled → ∃ id page, v.pageId = some (.string id) ∧ s.store.getPage id = some page ∧
      Js.restored v.page = Js.restored (.object page)) ∧
    ∃ s' trace' v', (site plainPlatform asciiRuntime [(js "a.json",.json (.object untitled))]).Run Steady s' trace' ∧
      s'.store = s.store ∧ s'.viewers 0 = some v' ∧ v'.Settled := by
  have loaded := Machine.runStep (.start : (site plainPlatform asciiRuntime [(js "a.json",.json (.object untitled))]).Run Steady _ _)
    (.load 0 (js "a")) (by decide : segment (js "a") = true) rfl
  have titled := Machine.runStep loaded
    (.request (.update (js "a") (some (.object [(js "title",.string (js "b"))])) (js "t"))) trivial rfl
  have connected := Machine.runStep titled (.connect 0) trivial rfl
  obtain ⟨s,trace,run,there⟩ : ∃ s trace, (site plainPlatform asciiRuntime [(js "a.json",.json (.object untitled))]).Run Steady s trace ∧
      s.viewers 0 = some ⟨.object untitled,.object untitled,some ⟨false,[⟨.connected,none⟩]⟩,[],[]⟩ := ⟨_,_,connected,rfl⟩
  exact ⟨s,trace,_,run,there,rfl,viewerCurrent run there⟩

end Vscreen.Pages.Live
