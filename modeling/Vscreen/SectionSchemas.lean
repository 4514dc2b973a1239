import Vscreen.ZodSchema
import Vscreen.PageStore

/-! The schemas of the sections of a page (schemas.ts) and their validation. The parser
of the schema library is a parameter, and so is the text of a value in a template. -/
namespace Vscreen.Pages
open Json (Units)

inductive LazySchema where
  | sidebarItemSchema
  deriving DecidableEq, Repr

abbrev Schema := Zod.Schema LazySchema

def articleItemSchema : Schema := .object [(js "title",.string),(js "url",.optional .string),(js "image",.optional .string),
  (js "description",.optional .string),(js "source",.optional .string),(js "sourceColor",.optional .string),
  (js "timestamp",.optional .string)]

def statItemSchema : Schema := .object [(js "label",.string),(js "value",.union [.string,.number]),
  (js "unit",.optional .string),(js "trend",.optional (.enum [js "up",js "down",js "neutral"]))]

def imageItemSchema : Schema := .object [(js "src",.string),(js "alt",.optional .string),(js "caption",.optional .string),
  (js "url",.optional .string)]

def chartPointSchema : Schema := .object [(js "label",.string),(js "value",.number),(js "color",.optional .string)]

def timelineEventSchema : Schema := .object [(js "date",.string),(js "title",.string),
  (js "description",.optional .string),(js "icon",.optional .string)]

def breadcrumbItemSchema : Schema := .object [(js "label",.string),(js "url",.optional .string)]

def filterOptionSchema : Schema := .object [(js "id",.string),(js "label",.string),(js "active",.optional .boolean)]

def keyValuePairSchema : Schema := .object [(js "key",.string),(js "value",.union [.string,.number]),
  (js "url",.optional .string)]

def accordionItemSchema : Schema := .object [(js "title",.string),(js "content",.string)]

def sidebarItemSchema : Schema := .object [(js "id",.string),(js "label",.string),(js "url",.optional .string),
  (js "icon",.optional .string),(js "children",.optional (.array (.lazy .sidebarItemSchema)))]

def LazySchema.definition : LazySchema → Schema
  | .sidebarItemSchema => Pages.sidebarItemSchema

def comparisonFeatureSchema : Schema := .object [(js "label",.string),
  (js "values",.record (.union [.string,.number,.boolean]))]

def notificationDataSchema : Schema := .object [(js "message",.string),
  (js "type",.optional (.enum [js "info",js "warning",js "error",js "success"])),(js "dismissible",.optional .boolean)]

def quoteDataSchema : Schema := .object [(js "text",.string),(js "author",.optional .string),(js "source",.optional .string)]

def codeBlockDataSchema : Schema := .object [(js "code",.string),(js "language",.optional .string)]

def markdownDataSchema : Schema := .object [(js "content",.string)]

def progressDataSchema : Schema := .object [(js "value",.number),(js "max",.optional .number),(js "label",.optional .string),
  (js "color",.optional .string)]

def tableRowSchema : Schema := .record (.union [.string,.number,.boolean])

def tableColumnSchema : Schema := .object [(js "key",.string),(js "label",.string),(js "sortable",.optional .boolean),
  (js "width",.optional .string)]

def chartSeriesSchema : Schema := .object [(js "name",.string),(js "data",.array chartPointSchema),
  (js "color",.optional .string)]

def comparisonColumnSchema : Schema := .object [(js "id",.string),(js "label",.string),(js "highlight",.optional .boolean)]

def componentDataSchemas : List (Units × Schema) := [
  (js "card-grid",.array articleItemSchema),
  (js "content-list",.array articleItemSchema),
  (js "image-gallery",.array imageItemSchema),
  (js "hero",.array articleItemSchema),
  (js "live-feed",.array articleItemSchema),
  (js "stats-row",.array statItemSchema),
  (js "data-table",.array tableRowSchema),
  (js "bar-chart",.array chartPointSchema),
  (js "line-chart",.array chartPointSchema),
  (js "pie-chart",.array chartPointSchema),
  (js "progress-bar",.array progressDataSchema),
  (js "sidebar",.array sidebarItemSchema),
  (js "breadcrumbs",.array breadcrumbItemSchema),
  (js "pagination",.array .any),
  (js "accordion",.array accordionItemSchema),
  (js "modal",.array .any),
  (js "filter-bar",.array filterOptionSchema),
  (js "timeline",.array timelineEventSchema),
  (js "markdown-block",.array markdownDataSchema),
  (js "code-block",.array codeBlockDataSchema),
  (js "quote-block",.array quoteDataSchema),
  (js "key-value-list",.array keyValuePairSchema),
  (js "comparison-table",.array comparisonFeatureSchema),
  (js "notification-banner",.array notificationDataSchema)]

def componentMetaSchemas : List (Units × Schema) := [
  (js "data-table",.passthrough [(js "columns",.array tableColumnSchema),(js "pageSize",.optional .number)]),
  (js "bar-chart",.passthrough [(js "series",.optional (.array chartSeriesSchema)),(js "horizontal",.optional .boolean)]),
  (js "line-chart",.passthrough [(js "series",.optional (.array chartSeriesSchema)),(js "xLabel",.optional .string),
    (js "yLabel",.optional .string)]),
  (js "pie-chart",.passthrough [(js "donut",.optional .boolean)]),
  (js "pagination",.passthrough [(js "totalPages",.number)]),
  (js "sidebar",.passthrough [(js "activeId",.optional .string)]),
  (js "comparison-table",.passthrough [(js "columns",.array comparisonColumnSchema)])]

def componentTypes : List Units := [js "card-grid",js "content-list",js "image-gallery",js "hero",js "live-feed",
  js "stats-row",js "data-table",js "bar-chart",js "line-chart",js "pie-chart",js "progress-bar",js "sidebar",
  js "breadcrumbs",js "pagination",js "accordion",js "modal",js "filter-bar",js "timeline",js "markdown-block",
  js "code-block",js "quote-block",js "key-value-list",js "comparison-table",js "notification-banner"]

def baseSectionSchema : Schema := .object [(js "id",.string),(js "component",.enum componentTypes),
  (js "title",.optional .string),(js "data",.array .any),(js "meta",.optional (.record .unknown))]

def createPageSchema : Schema := .object [(js "title",.stringMin 1 (some (js "title is required"))),
  (js "subtitle",.optional .string),(js "theme",.optional (.enum [js "dark",js "light"])),
  (js "accentColor",.optional .string),
  (js "layout",.optional (.enum [js "grid",js "list",js "split",js "tabs",js "freeform"])),
  (js "sections",.optional (.array .any))]

def componentAliases : List (Units × Units) := [
  (js "article-list",js "card-grid"),
  (js "articles",js "card-grid"),
  (js "news-grid",js "card-grid"),
  (js "article-grid",js "card-grid"),
  (js "news-list",js "content-list"),
  (js "feed",js "live-feed"),
  (js "chart",js "bar-chart"),
  (js "table",js "data-table"),
  (js "kv",js "key-value-list"),
  (js "kvlist",js "key-value-list"),
  (js "stats",js "stats-row"),
  (js "images",js "image-gallery"),
  (js "gallery",js "image-gallery"),
  (js "markdown",js "markdown-block"),
  (js "code",js "code-block"),
  (js "quote",js "quote-block"),
  (js "notification",js "notification-banner"),
  (js "alert",js "notification-banner"),
  (js "compare",js "comparison-table"),
  (js "progress",js "progress-bar")]

-- A name that objects inherit (`constructor`) gets a function in the source; neither is a component type.
def resolveComponentAlias (component : Units) : Units := (componentAliases.lookup component).getD component

def resolveAlias (s : Js) : Js := match s.get (js "component") with
  | some (.string component) => s.set (js "component") (.string (resolveComponentAlias component))
  | _ => s

def resolveAliasesInSections (sections : List Js) : List Js := sections.map resolveAlias

inductive ErrorField where
  | data
  | metadata
  deriving DecidableEq, Repr

structure ValidationError where
  sectionId : Option Js
  component : Option Js
  field : ErrorField
  message : Units

def member (v : Option Js) (name : Units) : Option Js := v.bind (fun x => x.get name)

def join (separator : Units) (texts : List Units) : Units := separator.intercalate texts

def dotted (path : List Units) : Units := join (js ".") path

def dataPath (path : List Units) : Units := if path.length > 0 then js "data[" ++ dotted path ++ js "]" else js "data"

def metaPath (path : List Units) : Units := if path.length > 0 then js "meta." ++ dotted path else js "meta"

def issueText (place : List Units → Units) (issues : List Zod.Issue) : Units :=
  join (js "; ") (issues.map (fun i => place i.path ++ js ": " ++ i.message))

def schemaOf (schemas : List (Units × Schema)) (component : Option Js) : Option Schema := match component with
  | some (.string name) => schemas.lookup name
  | _ => none

section
variable (safeParse : Zod.Parser LazySchema)

def checked (schema : Option Schema) (v : Option Js) : Option (List Zod.Issue) := match schema with
  | none => none
  | some schema => match safeParse schema v with
    | .ok _ => none
    | .error issues => some issues

def dataErrors (sec : Option Js) : List ValidationError :=
  let component := member sec (js "component")
  match checked safeParse (schemaOf componentDataSchemas component) (member sec (js "data")) with
  | none => []
  | some issues => [⟨member sec (js "id"),component,.data,issueText dataPath issues⟩]

def metaErrors (sec : Option Js) : List ValidationError :=
  let component := member sec (js "component")
  match member sec (js "meta") with
  | none => []
  | some meta_ =>
    if meta_.truthy then
      match checked safeParse (schemaOf componentMetaSchemas component) (some meta_) with
      | none => []
      | some issues => [⟨member sec (js "id"),component,.metadata,issueText metaPath issues⟩]
    else []

def validateSection (section_ : Js) : List ValidationError :=
  match safeParse baseSectionSchema (some section_) with
  | .error issues =>
    [⟨some (Js.orElse (section_.get (js "id")) (.string (js "(unknown)"))),
      some (Js.orElse (section_.get (js "component")) (.string (js "(unknown)"))),.data,issueText dotted issues⟩]
  | .ok sec => dataErrors safeParse sec ++ metaErrors safeParse sec

def validateSections (sections : List Js) : List ValidationError := sections.flatMap (validateSection safeParse)

end

def ErrorField.text : ErrorField → Units
  | .data => js "data"
  | .metadata => js "meta"

def errorText (templateText : Option Js → Except JsError Units) (e : ValidationError) : Except JsError Units := do
  let id ← templateText e.sectionId
  let component ← templateText e.component
  return js "Section \"" ++ id ++ js "\" (" ++ component ++ js "): " ++ e.field.text ++ js " — " ++ e.message

def formatValidationErrors (templateText : Option Js → Except JsError Units) (errors : List ValidationError) :
    Except JsError Units := do
  let texts ← errors.mapM (errorText templateText)
  return join (js "\n") texts

end Vscreen.Pages
