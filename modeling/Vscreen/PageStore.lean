import Vscreen.JsValue
import Vscreen.Table

/-! The page store of the synthesis tool (pages.ts): a map of pages, the ids made of
their titles, and the files they are saved to. `toLowerCase` is the one of the
runtime; the timestamps are inputs. A page is the object itself, as requests and
files can give a member any value. -/
namespace Vscreen.Pages
open Json (Units)

section
variable (toLowerCase : Units → Units)

def slugUnit (u : Nat) : Bool := (97 ≤ u && u ≤ 122) || (48 ≤ u && u ≤ 57)

-- `.replace(/[^a-z0-9]+/g, '-')`; `inRun` where the unit before belongs to a run.
def dashRuns (inRun : Bool) : Units → Units
  | [] => []
  | u::rest =>
    if slugUnit u then u::dashRuns false rest
    else if inRun then dashRuns true rest
    else 45::dashRuns true rest

def stripDashes (s : Units) : Units :=
  let body := if s.head? = some 45 then s.tail else s
  if body.getLast? = some 45 then body.dropLast else body

def asciiLowerCase (u : Units) : Units := u.map (fun c => if 65 ≤ c ∧ c ≤ 90 then c + 32 else c)

def slugify (title : Units) : Units := stripDashes (dashRuns false (toLowerCase title))

def suffixed (base : Units) (i : Nat) : Units := base ++ 45::Json.unitsOf (Text.decimal i)

def searchSuffix (has : Units → Bool) (base : Units) : Nat → Nat → Option Units
  | 0,_ => none
  | rounds + 1,i => if has (suffixed base i) then searchSuffix has base rounds (i + 1) else some (suffixed base i)

end

/-- A key of the map: equal strings, numbers and booleans are one key, an object is
its own. Only a file can give an id that is not a string. -/
inductive Key where
  | string (id : Units)
  | number (n : JsNumber)
  | bool (b : Bool)
  | reference (n : Nat)
  deriving DecidableEq, Repr

structure Store where
  pages : Table Key JsObject
  references : Nat

namespace Store

def new : Store := ⟨∅,0⟩

def getPage (s : Store) (id : Units) : Option JsObject := Table.get s.pages (.string id)

def has (s : Store) (id : Units) : Bool := (s.getPage id).isSome

def write (s : Store) (id : Units) (page : JsObject) : Store := {s with pages := Table.put s.pages (.string id) page}

end Store

structure CreatePageRequest where
  title : Units
  subtitle : Option Js
  theme : Option Js
  accentColor : Option Js
  layout : Option Js
  sections : Option Js

structure UpdatePageRequest where
  title : Option Js
  subtitle : Option Js
  theme : Option Js
  accentColor : Option Js
  layout : Option Js
  sections : Option Js

section
variable (toLowerCase : Units → Units)

-- One round more than there are pages: `searchEnds` shows that it ends before.
def uniqueId (s : Store) (title : Units) : Option Units :=
  let base := slugify toLowerCase title
  if !s.has base then some base else searchSuffix s.has base (s.pages.keys.length + 1) 2

def newPage (id : Units) (req : CreatePageRequest) (now : Units) : JsObject :=
  JsObject.literal [(js "id",some (.string id)),(js "title",some (.string req.title)),(js "subtitle",req.subtitle),
    (js "theme",some (Js.orElse req.theme (.string (js "dark")))),(js "accentColor",req.accentColor),
    (js "layout",some (Js.orElse req.layout (.string (js "grid")))),
    (js "sections",some (Js.orElse req.sections (.array []))),(js "createdAt",some (.string now)),
    (js "updatedAt",some (.string now))]

def createPage (s : Store) (req : CreatePageRequest) (now : Units) : Option (Store × Units) :=
  match uniqueId toLowerCase s req.title with
  | none => none
  | some id => some (s.write id (newPage id req now),id)

end

def updated (page : JsObject) (req : UpdatePageRequest) (now : Units) : JsObject :=
  JsObject.set (js "updatedAt") (.string now)
    ((((((page.assign (js "title") req.title).assign (js "subtitle") req.subtitle).assign (js "theme") req.theme).assign
      (js "accentColor") req.accentColor).assign (js "layout") req.layout).assign (js "sections") req.sections)

theorem getFields (page : JsObject) (req : UpdatePageRequest) {name : Units}
    (others : ∀ field ∈ [js "title",js "subtitle",js "theme",js "accentColor",js "layout"], field ≠ name) :
    JsObject.get (((((page.assign (js "title") req.title).assign (js "subtitle") req.subtitle).assign (js "theme")
      req.theme).assign (js "accentColor") req.accentColor).assign (js "layout") req.layout) name =
      JsObject.get page name := by
  simp only [List.forall_mem_cons] at others
  obtain ⟨title,subtitle,theme,accentColor,layout,-⟩ := others
  rw [JsObject.getAssign _ _ _ _ layout,JsObject.getAssign _ _ _ _ accentColor,JsObject.getAssign _ _ _ _ theme,
    JsObject.getAssign _ _ _ _ subtitle,JsObject.getAssign _ _ _ _ title]

def updatePage (s : Store) (id : Units) (req : UpdatePageRequest) (now : Units) : Store × Bool :=
  match s.getPage id with
  | none => (s,false)
  | some page => (s.write id (updated page req now),true)

def deletePage (s : Store) (id : Units) : Store × Bool :=
  ({s with pages := Table.del s.pages (.string id)},s.has id)

inductive JsError where
  | typeError
  deriving DecidableEq, Repr

def hasId (sectionId : Units) (s : Js) : Bool := match s.get (js "id") with
  | some (.string id) => id == sectionId
  | _ => false

def appendData (sectionId : Units) (data : List Js) : List Js → Except JsError (Option (List Js × Js))
  | [] => .ok none
  -- `s.id` of null
  | .null::_ => .error .typeError
  | s::rest =>
    if hasId sectionId s then
      match (s.get (js "data")).bind Js.spread with
      | none => .error .typeError
      | some old =>
        let section_ := s.set (js "data") (.array (old ++ data))
        .ok (some (section_::rest,section_))
    else match appendData sectionId data rest with
      | .error e => .error e
      | .ok none => .ok none
      | .ok (some (rest',section_)) => .ok (some (s::rest',section_))

def newSection (sectionId : Units) (data : List Js) : Js :=
  .object (JsObject.literal [(js "id",some (.string sectionId)),(js "component",some (.string (js "card-grid"))),
    (js "data",some (.array data))])

def withSections (page : JsObject) (sections : List Js) (now : Units) : JsObject :=
  JsObject.set (js "updatedAt") (.string now) (page.set (js "sections") (.array sections))

def pushData (s : Store) (pageId sectionId : Units) (data : List Js) (now : Units) :
    Except JsError (Store × Option Js) :=
  match s.getPage pageId with
  | none => .ok (s,none)
  | some page => match page.get (js "sections") with
    | some (.array sections) => match appendData sectionId data sections with
      | .error e => .error e
      | .ok (some (sections',section_)) => .ok (s.write pageId (withSections page sections' now),some section_)
      | .ok none =>
        let section_ := newSection sectionId data
        .ok (s.write pageId (withSections page (sections ++ [section_]) now),some section_)
    -- no `find` to call
    | _ => .error .typeError

inductive File where
  | json (v : Js)
  | malformed

abbrev Disk := Table Units File

def fileName (id : Units) : Units := id ++ js ".json"

def savePage (s : Store) (disk : Disk) (id : Units) : Disk × Bool :=
  match s.getPage id with
  | none => (disk,false)
  | some page => (Table.put disk (fileName id) (.json (Js.restored (.object page))),true)

def keyOf (references : Nat) : Js → Key
  | .string id => .string id
  | .number n => .number n
  | .bool b => .bool b
  | _ => .reference references

-- One round of the loop of `loadAllPages`. A value without an `id` is skipped, `null` by the `catch`.
def loadFile (acc : Store × Nat) (file : Units × File) : Store × Nat :=
  if !(js ".json").isSuffixOf file.1 then acc
  else match file.2 with
    | .json (.object page) => match JsObject.get page (js "id") with
      | some id =>
        if id.truthy then
          (⟨Table.put acc.1.pages (keyOf acc.1.references id) page,acc.1.references + 1⟩,acc.2 + 1)
        else acc
      | none => acc
    | _ => acc

def loadAllPages (s : Store) (files : List (Units × File)) : Store × Nat := files.foldl loadFile (s,0)

end Vscreen.Pages
