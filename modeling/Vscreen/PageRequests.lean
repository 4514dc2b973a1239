import Vscreen.SectionData

/-! The requests of the page API that write pages (routes/api/pages): the pages stay
renderable as long as an update brings an array of sections, if any, and a push brings
items that its section accepts. A body is `none` where it is not JSON. -/
namespace Vscreen.Pages
open Json (Units)

structure Runtime where
  toLowerCase : Units → Units
  templateText : Option Js → Except JsError Units
  safeParse : Zod.Parser LazySchema

inductive Reply where
  | json (status : Nat) (body : Js)
  | error (status : Nat) (error : Units) (details : Option Units)
  | thrown

def Reply.ok : Reply → Bool
  | .json _ _ => true
  | .error _ _ _ => false
  | .thrown => false

inductive Request where
  | create (body : Option Js) (now : Units)
  | update (id : Units) (body : Option Js) (now : Units)
  | push (id : Units) (body : Option Js) (now : Units)

def pushSchema : Schema := .object [(js "section_id",.stringMin 1 none),(js "data",.arrayMin .any 1)]

def pageNotFound : Reply := .error 404 (js "Page not found") none

section
variable (r : Runtime)

def checkSections (sections : Option Js) : Except Reply (Option Js) := match sections with
  | some (.array (first::rest)) =>
    let resolved := resolveAliasesInSections (first::rest)
    match validateSections r.safeParse resolved with
    | [] => .ok (some (.array resolved))
    | sectionErrors => match formatValidationErrors r.templateText sectionErrors with
      | .ok details => .error (.error 400 (js "Section validation failed") (some details))
      | .error _ => .error .thrown
  | _ => .ok sections

def post (s : Store) (body : Option Js) (now : Units) : Store × Reply := match body with
  | none => (s,.thrown)
  | some raw => match r.safeParse createPageSchema (some raw) with
    | .error issues => (s,.error 400 (issueText dotted issues) none)
    | .ok parsed => match checkSections r (member parsed (js "sections")) with
      | .error reply => (s,reply)
      | .ok sections => match member parsed (js "title") with
        | some (.string title) =>
          let req : CreatePageRequest := ⟨title,member parsed (js "subtitle"),member parsed (js "theme"),
            member parsed (js "accentColor"),member parsed (js "layout"),sections⟩
          match createPage r.toLowerCase s req now with
          | none => (s,.thrown)
          | some (s',id) => (s',.json 201 (.object (newPage id req now)))
        -- only a string has `toLowerCase`
        | _ => (s,.thrown)

def put (s : Store) (id : Units) (body : Option Js) (now : Units) : Store × Reply := match body with
  | none => (s,.thrown)
  -- `body.sections` of null
  | some .null => (s,.thrown)
  | some body => match checkSections r (body.get (js "sections")) with
    | .error reply => (s,reply)
    | .ok sections =>
      let req : UpdatePageRequest := ⟨body.get (js "title"),body.get (js "subtitle"),body.get (js "theme"),
        body.get (js "accentColor"),body.get (js "layout"),sections⟩
      match s.getPage id with
      | none => ((updatePage s id req now).1,pageNotFound)
      | some page => ((updatePage s id req now).1,.json 200 (.object (updated page req now)))

def pushPost (s : Store) (id : Units) (body : Option Js) (now : Units) : Store × Reply := match body with
  | none => (s,.thrown)
  | some raw => match r.safeParse pushSchema (some raw) with
    | .error issues => (s,.error 400 (issueText dotted issues) none)
    | .ok parsed => match member parsed (js "section_id"),member parsed (js "data") with
      | some (.string sectionId),some (.array data) => match s.getPage id with
        | none => (s,pageNotFound)
        | some _ => match pushData s id sectionId data now with
          | .error _ => (s,.thrown)
          | .ok (s',none) => (s',pageNotFound)
          | .ok (s',some section_) => (s',.json 200 section_)
      -- the schema lets nothing else through
      | _,_ => (s,.thrown)

def handle (s : Store) : Request → Store × Reply
  | .create body now => post r s body now
  | .update id body now => put r s id body now
  | .push id body now => pushPost r s id body now

def runRequests (requests : List Request) : Store := requests.foldl (fun s q => (handle r s q).1) .new

def pageRenders (page : JsObject) : Bool := match JsObject.get page (js "sections") with
  | some (.array sections) => sections.all (fun s => (validateSection r.safeParse s).isEmpty)
  | _ => false

def Renderable (s : Store) : Prop := Table.All (fun _ page => pageRenders r page = true) s.pages

/-- After every part of the run the pages are renderable, and what was answered with an
error changed nothing. -/
structure StaysRenderable (requests : List Request) : Prop where
  renderable : ∀ done rest, requests = done ++ rest → Renderable r (runRequests r done)
  refused : ∀ done q rest, requests = done ++ q::rest → (handle r (runRequests r done) q).2.ok = false →
    (handle r (runRequests r done) q).1 = runRequests r done

def componentOf (page : JsObject) (sectionId : Units) : Option Js := match JsObject.get page (js "sections") with
  | some (.array sections) => match sections.find? (hasId sectionId) with
    | some s => s.get (js "component")
    | none => some (.string (js "card-grid"))
  | _ => none

def pushed (body : Option Js) : Option (Units × List Js) :=
  match member body (js "section_id"),member body (js "data") with
  | some (.string (u::id)),some (.array (v::data)) => some (u::id,v::data)
  | _,_ => none

def isArray : Js → Bool
  | .array _ => true
  | _ => false

/-- An update of a page has an array of sections or none; the section of a push accepts its items. -/
def keepsRenderable (s : Store) : Request → Bool
  | .create _ _ => true
  | .update id body _ => match s.getPage id,member body (js "sections") with
    | some _,some sections => isArray sections
    | _,_ => true
  | .push id body _ => match s.getPage id,pushed body with
    | some page,some (sectionId,data) =>
      (checked r.safeParse (schemaOf componentDataSchemas (componentOf page sectionId)) (some (.array data))).isNone
    | _,_ => true

def allKeepRenderable (s : Store) : List Request → Bool
  | [] => true
  | q::rest => keepsRenderable r s q && allKeepRenderable (handle r s q).1 rest

end

end Vscreen.Pages
