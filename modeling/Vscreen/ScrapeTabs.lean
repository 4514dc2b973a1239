import Mathlib.Data.List.Nodup
import Vscreen.CdpClient
import Vscreen.Json

/-! The parallel scraper (synthesis.rs) and the ephemeral tabs it works in
(supervisor.rs, client.rs). What the browser, the pages and the synthesis server do
for one URL is a `Visit`; a scrape task only talks to the tab it was given. -/
namespace Vscreen.Synthesis
open Text Cdp

abbrev TargetId := Text

section Values
open Json

def isHighSurrogate (unit : Nat) : Bool := 0xD800 ≤ unit && unit < 0xDC00

def isLowSurrogate (unit : Nat) : Bool := 0xDC00 ≤ unit && unit < 0xE000

def textOf : Units → Text
  | high::low::rest =>
    if isHighSurrogate high && isLowSurrogate low then
      Char.ofNat (0x10000 + (high - 0xD800) * 0x400 + (low - 0xDC00))::textOf rest
    else Char.ofNat high::textOf (low::rest)
  | [unit] => [Char.ofNat unit]
  | [] => []

def asStr : Value → Option Text
  | .scalar (.string units) => some (textOf units)
  | _ => none

def itemCount : Items → Nat
  | .nil => 0
  | .cons _ rest => itemCount rest + 1

def articleCount : Value → Nat
  | .array items => itemCount items
  | _ => 0

def noArticles : Value :=
  .object (.cons (unitsOf "articles".toList) (.array .nil) (.cons (unitsOf "quality".toList) (.object .nil) .nil))

end Values

def errorText : CdpError → Text
  | .connectionLost => "connection lost".toList
  | .protocol reason => "protocol error: ".toList ++ reason
  | .screencast reason => "screencast error: ".toList ++ reason
  | .timeout ms => "request timed out after ".toList ++ decimal ms ++ "ms".toList

inductive TabError where
  | request (error : CdpError)
  | connectionFailed (reason : Text)
  deriving DecidableEq, Repr

def TabError.toText : TabError → Text
  | .request error => "CDP error: ".toList ++ errorText error
  | .connectionFailed reason => "CDP error: connection failed: ".toList ++ reason

section Tabs

def createTarget (sent : Resolution Json.Value) : Except CdpError TargetId :=
  match sent.result with
  | .error e => .error e
  | .ok response => match (response.result.bind (·.member "targetId".toList)).bind asStr with
    | some targetId => .ok targetId
    | none => .error (.protocol "missing targetId in response".toList)

def devtoolsPage : Text := "/devtools/page/".toList

def pageBase : Text → Option Text
  | [] => none
  | c::rest => match pageBase rest with
    | some base => some (c::base)
    | none => if devtoolsPage <+: c::rest then some [] else none

def endpointForTarget (endpoint : Text) (targetId : TargetId) : Text :=
  match pageBase endpoint with
  | some base => base ++ devtoolsPage ++ targetId
  | none => endpoint ++ '/'::targetId

structure CreateExchange where
  opened : Option TargetId
  sent : Resolution Json.Value
  honest : ∀ targetId, createTarget sent = .ok targetId → opened = some targetId

structure PushReply where
  code : Nat
  status : Text
  body : Option Text

structure TaskAnswers where
  navigate : Except CdpError Unit
  scraped : Except CdpError Json.Value
  title : Except CdpError Json.Value
  push : Except Text PushReply

structure Visit where
  url : Text
  create : CreateExchange
  connect : Text → Except Text Unit
  task : Except Text TaskAnswers

-- `created` remembers the targets that were opened during the call; `clients` are
-- the targets that a running tab client is connected to.
structure Browser where
  endpoint : Text
  targets : List TargetId
  created : List TargetId
  clients : List TargetId

structure EphemeralTab where
  targetId : TargetId
  endpoint : Text

def Browser.start (endpoint : Text) (targets : List TargetId) : Browser := ⟨endpoint,targets,[],[]⟩

def Browser.openTarget (b : Browser) (opened : Option TargetId) : Browser :=
  {b with targets := b.targets ++ opened.toList, created := b.created ++ opened.toList}

def createEphemeralTab (v : Visit) (b : Browser) : Except TabError EphemeralTab × Browser :=
  let b := b.openTarget v.create.opened
  match createTarget v.create.sent with
  | .error e => (.error (.request e),b)
  | .ok targetId =>
    let wsUrl := endpointForTarget b.endpoint targetId
    match v.connect wsUrl with
    | .error reason => (.error (.connectionFailed reason),b)
    | .ok _ => (.ok ⟨targetId,wsUrl⟩,{b with clients := b.clients ++ [targetId]})

def closeEphemeralTab (b : Browser) (tab : EphemeralTab) : Browser :=
  {b with clients := b.clients.filter (· ≠ tab.targetId), targets := b.targets.filter (· ≠ tab.targetId)}

def closeTabs (tabs : List EphemeralTab) (b : Browser) : Browser := tabs.foldl closeEphemeralTab b

end Tabs

section Scraping

inductive PushStatus where
  | ok
  | failed (reason : Text)

structure ScrapeResult where
  url : Text
  pageTitle : Text
  articles : Json.Value
  quality : Json.Value
  pushStatus : Option PushStatus

inductive ScrapeOutcome where
  | ok (result : ScrapeResult)
  | err (url : Text) (error : Text)
  | panic (reason : Text)

def pushStatus (articles : Json.Value) (answer : Except Text PushReply) : PushStatus :=
  if 0 < articleCount articles then
    match answer with
    | .ok reply =>
      if 200 ≤ reply.code ∧ reply.code < 300 then .ok
      else .failed (reply.status ++ ": ".toList ++ reply.body.getD [])
    | .error e => .failed e
  else .ok

section
variable (fromStr : Text → Option Json.Value)

-- `fromStr` is `serde_json::from_str`; `sectionId` is given when the articles go to a section
def scrapeTask (url : Text) (sectionId : Option Text) (a : TaskAnswers) : ScrapeOutcome :=
  match a.navigate with
  | .error e => .err url ("navigate failed: ".toList ++ errorText e)
  | .ok _ => match a.scraped with
    | .error e => .err url ("scrape failed: ".toList ++ errorText e)
    | .ok result =>
      let pageTitle := match a.title with
        | .ok v => (asStr v).getD []
        | .error _ => []
      let parsed := (fromStr ((asStr result).getD "{}".toList)).getD noArticles
      let articles := (parsed.member "articles".toList).getD (.array .nil)
      let quality := (parsed.member "quality".toList).getD (.scalar .null)
      .ok ⟨url,pageTitle,articles,quality,sectionId.map fun _ => pushStatus articles a.push⟩

end

structure ScrapeCall where
  visits : List Visit
  sectionIds : Option (List Text)
  pushes : Bool
  distinct : (visits.filterMap (·.create.opened)).Nodup
  paired : ∀ ids, sectionIds = some ids → ids.length = visits.length

def createTabs (tabs : List EphemeralTab) (b : Browser) : List Visit → Except Text (List EphemeralTab) × Browser
  | [] => (.ok tabs,b)
  | v::rest => match createEphemeralTab v b with
    | (.ok tab,b) => createTabs (tabs ++ [tab]) b rest
    | (.error e,b) =>
      (.error ("failed to create tab for ".toList ++ v.url ++ ": ".toList ++ e.toText),closeTabs tabs b)

section
variable (fromStr : Text → Option Json.Value)

def handle (c : ScrapeCall) (v : Visit) (i : Nat) : Except Text ScrapeOutcome :=
  v.task.map (scrapeTask fromStr v.url (if c.pushes then c.sectionIds.bind (·[i]?) else none))

def joinAll (panicIdx : Nat) : List (Except Text ScrapeOutcome) → List ScrapeOutcome
  | [] => []
  | .ok outcome::rest => outcome::joinAll panicIdx rest
  | .error e::rest =>
    .panic ("task panic #".toList ++ decimal panicIdx ++ ": ".toList ++ e)::joinAll (panicIdx + 1) rest

def runParallelScrape (c : ScrapeCall) (b : Browser) : Except Text (List ScrapeOutcome) × Browser :=
  match createTabs [] b c.visits with
  | (.error e,b) => (.error e,b)
  | (.ok tabs,b) => (.ok (joinAll 0 (c.visits.zipIdx.map fun (v,i) => handle fromStr c v i)),closeTabs tabs b)

end

end Scraping

def Browser.LeavesNone (b : Browser) : Prop := ∀ id ∈ b.created, id ∉ b.targets

def Visit.succeeds (endpoint : Text) (v : Visit) : Bool :=
  match createTarget v.create.sent with
  | .ok targetId => (v.connect (endpointForTarget endpoint targetId)).isOk
  | .error _ => false

/-- The first creation of a tab that fails, if any, has opened no target. -/
def Harmless (endpoint : Text) : List Visit → Prop
  | [] => True
  | v::rest => if v.succeeds endpoint then Harmless endpoint rest else v.create.opened = none

theorem openNothing (b : Browser) : b.openTarget none = b := by
  simp only [Browser.openTarget,Option.toList_none,List.append_nil]

section Closing
variable {b : Browser} {tabs : List EphemeralTab} {v : Visit} {others : List TargetId}

def ids (tabs : List EphemeralTab) : List TargetId := tabs.map (·.targetId)

theorem closeTabsFrame (tabs : List EphemeralTab) (b : Browser) : (closeTabs tabs b).created = b.created ∧
    ∀ id, (id ∈ (closeTabs tabs b).targets ↔ id ∈ b.targets ∧ id ∉ ids tabs) ∧
      (id ∈ (closeTabs tabs b).clients ↔ id ∈ b.clients ∧ id ∉ ids tabs) := by
  induction tabs generalizing b with
  | nil => simp [closeTabs,ids]
  | cons tab tabs ih =>
    obtain ⟨created,closed⟩ := ih (closeEphemeralTab b tab)
    refine ⟨created,fun id => ?_⟩
    have one : (id ∈ (closeEphemeralTab b tab).targets ↔ id ∈ b.targets ∧ id ≠ tab.targetId) ∧
        (id ∈ (closeEphemeralTab b tab).clients ↔ id ∈ b.clients ∧ id ≠ tab.targetId) := by
      simp [closeEphemeralTab]
    have more : id ∉ ids (tab::tabs) ↔ id ≠ tab.targetId ∧ id ∉ ids tabs := by simp [ids]
    rw [more,← and_assoc,← and_assoc,← one.1,← one.2]
    exact closed id

/-- What the call holds while it makes tabs: one tab for each target it had opened, and
one client for each tab. The `others` are the targets from before the call. -/
structure Held (others : List TargetId) (b : Browser) (tabs : List EphemeralTab) : Prop where
  created : b.created = ids tabs
  clients : b.clients = ids tabs
  targets : b.targets = others ++ ids tabs

def Browser.withTab (b : Browser) (tab : EphemeralTab) : Browser :=
  {b.openTarget (some tab.targetId) with clients := b.clients ++ [tab.targetId]}

theorem creationCases (v : Visit) (b : Browser) :
    (∃ tab, v.succeeds b.endpoint = true ∧ v.create.opened = some tab.targetId ∧
      createEphemeralTab v b = (.ok tab,b.withTab tab)) ∨
    (∃ e, v.succeeds b.endpoint = false ∧ createEphemeralTab v b = (.error e,b.openTarget v.create.opened)) := by
  simp only [Visit.succeeds,createEphemeralTab]
  cases named : createTarget v.create.sent with
  | error e => exact .inr ⟨.request e,rfl,rfl⟩
  | ok targetId =>
    have opened := v.create.honest targetId named
    rw [opened]
    simp only [Browser.openTarget]
    cases connected : v.connect (endpointForTarget b.endpoint targetId) with
    | error reason => exact .inr ⟨.connectionFailed reason,rfl,rfl⟩
    | ok _ => exact .inl ⟨⟨targetId,_⟩,rfl,rfl,rfl⟩

theorem heldNext (tab : EphemeralTab) (held : Held others b tabs) : Held others (b.withTab tab) (tabs ++ [tab]) where
  created := by simp [Browser.withTab,Browser.openTarget,held.created,ids]
  clients := by simp [Browser.withTab,held.clients,ids]
  targets := by simp [Browser.withTab,Browser.openTarget,held.targets,ids]

theorem createTabsCases (visits : List Visit) (held : Held others b tabs)
    (fresh : (b.created ++ visits.filterMap (·.create.opened)).Nodup) :
    (∃ tabs' b', createTabs tabs b visits = (.ok tabs',b') ∧ Held others b' tabs' ∧
      tabs'.length = tabs.length + visits.length ∧ Harmless b.endpoint visits) ∨
    (∃ e tabs' b' opened, createTabs tabs b visits = (.error e,closeTabs tabs' (b'.openTarget opened)) ∧
      Held others b' tabs' ∧ (∀ id, opened = some id → id ∉ b'.created) ∧
      (Harmless b.endpoint visits ↔ opened = none)) := by
  induction visits generalizing b tabs with
  | nil => exact .inl ⟨tabs,b,rfl,held,rfl,trivial⟩
  | cons v rest ih =>
    rcases creationCases v b with ⟨tab,succeeds,opened,made⟩ | ⟨e,fails,made⟩
    · have apart : ((b.withTab tab).created ++ rest.filterMap (·.create.opened)).Nodup := by
        simpa [Browser.withTab,Browser.openTarget,opened] using fresh
      have step : createTabs tabs b (v::rest) = createTabs (tabs ++ [tab]) (b.withTab tab) rest := by
        simp only [createTabs,made]
      have same : Harmless b.endpoint (v::rest) = Harmless (b.withTab tab).endpoint rest := by
        simp only [Harmless,succeeds,if_true]
        rfl
      rw [step,same]
      rcases ih (heldNext tab held) apart with ⟨tabs',b',ended,held',count,harmless⟩ | stopped
      · refine .inl ⟨tabs',b',ended,held',?_,harmless⟩
        rw [count,List.length_append,List.length_singleton,List.length_cons]
        omega
      · exact .inr stopped
    · have step : createTabs tabs b (v::rest) =
          (.error ("failed to create tab for ".toList ++ v.url ++ ": ".toList ++ e.toText),
            closeTabs tabs (b.openTarget v.create.opened)) := by
        simp only [createTabs,made]
      refine .inr ⟨_,tabs,b,v.create.opened,step,held,fun id opened member => ?_,?_⟩
      · exact List.disjoint_of_nodup_append fresh member (List.mem_filterMap.mpr ⟨v,List.mem_cons_self,opened⟩)
      · simp only [Harmless,fails,Bool.false_eq_true,if_false]

theorem startHeld (endpoint : Text) (targets : List TargetId) : Held targets (.start endpoint targets) [] :=
  ⟨rfl,rfl,(List.append_nil _).symm⟩

theorem failureLeaves {opened : Option TargetId} (held : Held others b tabs)
    (fresh : ∀ id, opened = some id → id ∉ b.created) :
    (closeTabs tabs (b.openTarget opened)).LeavesNone ↔ opened = none := by
  obtain ⟨created,closed⟩ := closeTabsFrame tabs (b.openTarget opened)
  rw [Browser.LeavesNone,created]
  cases opened with
  | none =>
    refine iff_of_true (fun id member left => ?_) rfl
    simp only [Browser.openTarget,Option.toList_none,List.append_nil,held.created] at member
    exact ((closed id).1.mp left).2 member
  | some id =>
    have new : id ∉ ids tabs := held.created ▸ fresh id rfl
    have there : id ∈ (b.openTarget (some id)).targets := List.mem_append_right _ List.mem_cons_self
    have member : id ∈ (b.openTarget (some id)).created := List.mem_append_right _ List.mem_cons_self
    refine iff_of_false (fun leaves => ?_) (fun absent => by cases absent)
    exact leaves id member ((closed id).1.mpr ⟨there,new⟩)

end Closing

section
variable (fromStr : Text → Option Json.Value)

theorem clientsStopped (c : ScrapeCall) (endpoint : Text) (targets : List TargetId) :
    (runParallelScrape fromStr c (.start endpoint targets)).2.clients = [] := by
  have stopped : ∀ {others tabs b} (opened : Option TargetId), Held others b tabs →
      (closeTabs tabs (b.openTarget opened)).clients = [] := fun {_ tabs b} opened held => by
    refine List.eq_nil_iff_forall_not_mem.mpr fun id left => ?_
    have := ((closeTabsFrame tabs (b.openTarget opened)).2 id).2.mp left
    exact this.2 (held.clients ▸ this.1)
  rcases createTabsCases c.visits (startHeld endpoint targets) c.distinct with
    ⟨tabs,b,ended,held,-,-⟩ | ⟨e,tabs,b,opened,ended,held,-,-⟩
  · simp only [runParallelScrape,ended]
    exact openNothing b ▸ stopped none held
  · simp only [runParallelScrape,ended]
    exact stopped opened held

theorem othersStay {c : ScrapeCall} {endpoint : Text} {targets : List TargetId} {id : TargetId} (before : id ∈ targets)
    (foreign : id ∉ (runParallelScrape fromStr c (.start endpoint targets)).2.created) :
    id ∈ (runParallelScrape fromStr c (.start endpoint targets)).2.targets := by
  have kept : ∀ {tabs b} (opened : Option TargetId), Held targets b tabs →
      id ∉ (closeTabs tabs (b.openTarget opened)).created → id ∈ (closeTabs tabs (b.openTarget opened)).targets :=
    fun {tabs b} opened held other => by
      obtain ⟨created,closed⟩ := closeTabsFrame tabs (b.openTarget opened)
      rw [created] at other
      have there : id ∈ b.targets := held.targets ▸ List.mem_append_left _ before
      refine (closed id).1.mpr ⟨List.mem_append_left _ there,fun mine => other (List.mem_append_left _ ?_)⟩
      exact held.created ▸ mine
  rcases createTabsCases c.visits (startHeld endpoint targets) c.distinct with
    ⟨tabs,b,ended,held,-,-⟩ | ⟨e,tabs,b,opened,ended,held,-,-⟩
  · simp only [runParallelScrape,ended] at foreign ⊢
    rw [← openNothing b] at foreign ⊢
    exact kept none held foreign
  · simp only [runParallelScrape,ended] at foreign ⊢
    exact kept opened held foreign

theorem tabsClosed (c : ScrapeCall) (endpoint : Text) (targets : List TargetId) :
    (runParallelScrape fromStr c (.start endpoint targets)).2.LeavesNone ↔ Harmless endpoint c.visits := by
  rcases createTabsCases c.visits (startHeld endpoint targets) c.distinct with
    ⟨tabs,b,made,held,-,harmless⟩ | ⟨e,tabs,b,opened,failed,held,fresh,same⟩
  · obtain ⟨created,closed⟩ := closeTabsFrame tabs b
    simp only [runParallelScrape,made]
    refine iff_of_true (fun id member left => ?_) harmless
    rw [created,held.created] at member
    exact ((closed id).1.mp left).2 member
  · simp only [runParallelScrape,failed]
    exact (failureLeaves held fresh).trans same.symm

end

section Refused

def targetAnswer : Resolution Json.Value :=
  .answered ⟨some 7,none,some (.object (.cons (Json.unitsOf "targetId".toList)
    (.scalar (.string (Json.unitsOf "T1".toList))) .nil)),none,none⟩

def refused : Visit where
  url := "https://a.example".toList
  create :=
    { opened := some "T1".toList
      sent := targetAnswer
      honest := fun targetId named => by
        have given : createTarget targetAnswer = .ok "T1".toList := rfl
        rw [given] at named
        cases named
        rfl }
  connect := fun _ => .error "refused".toList
  task := .error []

def refusedCall : ScrapeCall := ⟨[refused],none,false,List.nodup_singleton _,fun _ named => by cases named⟩

def mainPage : Text := "ws://localhost:9222/devtools/page/MAIN".toList

theorem tabLeaked : ¬ (runParallelScrape Json.parse refusedCall (.start mainPage ["MAIN".toList])).2.LeavesNone := by
  have created : (runParallelScrape Json.parse refusedCall (.start mainPage ["MAIN".toList])).2.created = ["T1".toList] := rfl
  have targets : (runParallelScrape Json.parse refusedCall (.start mainPage ["MAIN".toList])).2.targets =
    ["MAIN".toList,"T1".toList] := rfl
  intro leaves
  rw [Browser.LeavesNone,created,targets] at leaves
  exact leaves "T1".toList List.mem_cons_self (by decide)

end Refused

end Vscreen.Synthesis
