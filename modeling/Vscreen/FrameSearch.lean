import Mathlib.Algebra.Order.Ring.Rat
import Mathlib.Tactic.Linarith
import Vscreen.Text

/-! The searches of the API in the frames of a page (mcp/mod.rs). What the scripts see of a
page is given: where its iframes are, the frames with their scrolls, and the elements. -/
namespace Vscreen.FrameSearch

abbrev Point := ℚ × ℚ

structure Element where
  tag : Text
  text : Text
  left : ℚ
  top : ℚ
  width : ℚ
  height : ℚ
  matched : Bool

structure Document where
  id : Text
  url : Text
  scroll : Point
  elements : List Element

structure Iframe where
  src : Option Text
  left : ℚ
  top : ℚ

mutual

inductive Frame where
  | mk (document : Document) (children : Frames)

inductive Frames where
  | nil
  | cons (holder : Iframe) (frame : Frame) (rest : Frames)

end

def Frame.document : Frame → Document
  | .mk document _ => document

def Frame.children : Frame → Frames
  | .mk _ children => children

def Frames.toList : Frames → List (Iframe × Frame)
  | .nil => []
  | .cons holder frame rest => (holder,frame)::rest.toList

structure Page where
  scroll : Point
  iframes : List Iframe
  frames : Frames

structure Answers where
  rectFails : Text → Bool
  frameFails : Text → Bool
  broken : Text → Option Point

def Answers.all : Answers := ⟨fun _ => false,fun _ => false,fun _ => none⟩

def plainUrl (url : Text) : Bool := url.all fun c => !(['\'','\\','\n','\r','\x0c','\x00'].contains c)

def lookupIframe (iframes : List Iframe) (url : Text) : Option Iframe :=
  (iframes.find? fun f => !url.isEmpty && f.src.any fun src => decide (url <:+: src)).or iframes.head?

def frameOffset (page : Page) (answers : Answers) (document : Document) : Point :=
  let url := document.url.filter (· ≠ '"')
  if answers.rectFails document.id then (0,0)
  else if plainUrl url then match lookupIframe page.iframes url with
    | none => (0,0)
    | some f => (f.left + page.scroll.1,f.top + page.scroll.2)
  else (answers.broken url).getD (0,0)

def round (q : ℚ) : Int := (q + 1 / 2).floor

structure Found where
  tag : Text
  text : Text
  x : ℚ
  y : ℚ
  width : Int
  height : Int
  visible : Option Bool
  frameId : Text
  deriving DecidableEq

def Element.visible (e : Element) : Bool := 0 < e.width && 0 < e.height && -9000 < e.top && -9000 < e.left

structure Search where
  hits : List Element → List Element
  visible : Element → Option Bool

def report (q : Search) (document : Document) (e : Element) : Found :=
  ⟨e.tag,e.text,round (e.left + e.width / 2 + document.scroll.1),round (e.top + e.height / 2 + document.scroll.2),
    round e.width,round e.height,q.visible e,document.id⟩

def Found.moved (offset : Point) (f : Found) : Found := {f with x := f.x + offset.1,y := f.y + offset.2}

def searchFrames (q : Search) (page : Page) (answers : Answers) : List Document → List Text × List Found
  | [] => ([],[])
  | child::rest =>
    let later := searchFrames q page answers rest
    if child.id.isEmpty then later
    else
      let found := if answers.frameFails child.id then []
        else (q.hits child.elements).map fun e => (report q child e).moved (frameOffset page answers child)
      (child.id::later.1,found ++ later.2)

def childDocuments (page : Page) : List Document := page.frames.toList.map fun c => c.2.document

def elementSearch : Search := ⟨fun es => (es.filter Element.matched).take 30,fun e => some e.visible⟩

def textSearch : Search := ⟨fun es => (es.filter fun e => e.matched && e.visible).take 20,fun _ => none⟩

def findElementsInFrames (page : Page) (answers : Answers) : List Text × List Found :=
  searchFrames elementSearch page answers (childDocuments page)

def findTextInFrames (page : Page) (answers : Answers) : List Text × List Found :=
  searchFrames textSearch page answers (childDocuments page)

mutual

def Frame.placed (origin : Point) : Frame → List (Document × Point)
  | .mk document children => (document,origin)::children.placed origin

def Frames.placed (origin : Point) : Frames → List (Document × Point)
  | .nil => []
  | .cons holder frame rest => frame.placed (origin.1 + holder.left,origin.2 + holder.top) ++ rest.placed origin

end

def Page.descendants (page : Page) : List (Document × Point) := page.frames.placed page.scroll

def placedReport (q : Search) (place : Document × Point) (e : Element) : Found :=
  (report q {place.1 with scroll := (0,0)} e).moved place.2

/-- Every descendant is searched once, and what is found is where it is. -/
structure Covered (q : Search) (page : Page) (r : List Text × List Found) : Prop where
  searched : r.1.Perm (page.descendants.map fun place => place.1.id)
  found : r.2 = page.descendants.flatMap fun place => (q.hits place.1.elements).map (placedReport q place)

def Contains (url : Text) (f : Iframe) : Prop := url ≠ [] ∧ ∃ src, f.src = some src ∧ url <:+: src

/-- The iframe that is taken for the one of a URL: the first whose address contains it, or
the first of all if none does. -/
inductive TakenFor (url : Text) : List Iframe → Iframe → Prop where
  | containing {before after : List Iframe} {f : Iframe} (contains : Contains url f)
      (earlier : ∀ g ∈ before, ¬ Contains url g) : TakenFor url (before ++ f::after) f
  | first {rest : List Iframe} {f : Iframe} (others : ∀ g ∈ f::rest, ¬ Contains url g) : TakenFor url (f::rest) f

def asked (document : Document) : Text := document.url.filter (· ≠ '"')

/-- The place that is taken for that of a frame: its iframe's, or the corner of the page
where there is none or the script fails. What a broken script says is given. -/
inductive TakenPlace (page : Page) (answers : Answers) (document : Document) : Point → Prop where
  | failed (fails : answers.rectFails document.id = true) : TakenPlace page answers document (0,0)
  | iframe (f : Iframe) (evaluated : answers.rectFails document.id = false) (plain : plainUrl (asked document) = true)
      (taken : TakenFor (asked document) page.iframes f) :
      TakenPlace page answers document (f.left + page.scroll.1,f.top + page.scroll.2)
  | without (evaluated : answers.rectFails document.id = false) (plain : plainUrl (asked document) = true)
      (none : page.iframes = []) : TakenPlace page answers document (0,0)
  | broken (evaluated : answers.rectFails document.id = false) (other : plainUrl (asked document) = false) :
      TakenPlace page answers document ((answers.broken (asked document)).getD (0,0))

/-- What the scroll of a frame moves an element by makes up for a place that is not that of
its iframe: both are nothing where the frame is not scrolled and its own iframe is taken. -/
def Balanced (page : Page) (answers : Answers) (c : Iframe × Frame) (e : Element) : Prop :=
  ∃ place, TakenPlace page answers c.2.document place ∧
    (round (e.left + e.width / 2 + c.2.document.scroll.1) - round (e.left + e.width / 2) : ℚ) =
      page.scroll.1 + c.1.left - place.1 ∧
    (round (e.top + e.height / 2 + c.2.document.scroll.2) - round (e.top + e.height / 2) : ℚ) =
      page.scroll.2 + c.1.top - place.2

structure ChildFits (q : Search) (page : Page) (answers : Answers) (c : Iframe × Frame) : Prop where
  named : c.2.document.id ≠ []
  childless : c.2.children = .nil
  answered : answers.frameFails c.2.document.id = true → q.hits c.2.document.elements = []
  balanced : ∀ e ∈ q.hits c.2.document.elements, Balanced page answers c e

theorem placedList (origin : Point) : (fs : Frames) →
    fs.placed origin = fs.toList.flatMap fun c => c.2.placed (origin.1 + c.1.left,origin.2 + c.1.top)
  | .nil => rfl
  | .cons holder frame rest => by rw [Frames.placed,Frames.toList,List.flatMap_cons,placedList origin rest]

theorem framePlaced (origin : Point) (frame : Frame) :
    frame.placed origin = (frame.document,origin)::frame.children.placed origin := by
  cases frame
  rfl

theorem childlessList {fs : Frames} {origin : Point} (none : fs.placed origin = []) : fs = .nil := by
  cases fs with
  | nil => rfl
  | cons holder frame rest =>
    rw [Frames.placed,framePlaced] at none
    cases none

section Searches
variable (q : Search) (page : Page) (answers : Answers)

theorem searchedIds (ds : List Document) :
    (searchFrames q page answers ds).1 = (ds.filter fun d => !d.id.isEmpty).map Document.id := by
  induction ds with
  | nil => rfl
  | cons d rest ih =>
    rw [searchFrames]
    cases empty : d.id.isEmpty with
    | true => simpa [empty] using ih
    | false => simp [empty,ih]

variable (origin : Point)

def below (cs : List (Iframe × Frame)) : List (Document × Point) :=
  cs.flatMap fun c => c.2.placed (origin.1 + c.1.left,origin.2 + c.1.top)

def named (c : Iframe × Frame) : Bool := !c.2.document.id.isEmpty

theorem namedCount (cs : List (Iframe × Frame)) : (cs.filter named).length ≤ (below origin cs).length ∧
    ((cs.filter named).length = (below origin cs).length →
      ∀ c ∈ cs, c.2.document.id ≠ [] ∧ c.2.children = .nil) := by
  induction cs with
  | nil => exact ⟨Nat.le_refl 0,fun _ c absent => nomatch absent⟩
  | cons c rest ih =>
    obtain ⟨most,same⟩ := ih
    rw [below,List.flatMap_cons,← below,List.length_append,framePlaced,List.length_cons]
    cases first : named c with
    | false =>
      rw [List.filter_cons_of_neg (by simp [first])]
      exact ⟨by omega,fun equal => absurd equal (by omega)⟩
    | true =>
      rw [List.filter_cons_of_pos first,List.length_cons]
      refine ⟨by omega,fun equal => List.forall_mem_cons.mpr ⟨⟨?_,?_⟩,same (by omega)⟩⟩
      · intro empty
        rw [named,empty] at first
        cases first
      · have none : c.2.children.placed (origin.1 + c.1.left,origin.2 + c.1.top) = [] :=
          List.length_eq_zero_iff.mp (by omega)
        exact childlessList none

theorem belowFlat {cs : List (Iframe × Frame)} (flat : ∀ c ∈ cs, c.2.children = .nil) :
    below origin cs = cs.map fun c => (c.2.document,(origin.1 + c.1.left,origin.2 + c.1.top)) := by
  induction cs with
  | nil => rfl
  | cons c rest ih =>
    obtain ⟨first,later⟩ := List.forall_mem_cons.mp flat
    rw [below,List.flatMap_cons,← below,ih later,framePlaced,first]
    rfl

theorem descendantsBelow : page.descendants = below page.scroll page.frames.toList := placedList _ _

theorem searchedAll : (searchFrames q page answers (childDocuments page)).1.Perm
      (page.descendants.map fun place => place.1.id) ↔
    ∀ c ∈ page.frames.toList, c.2.document.id ≠ [] ∧ c.2.children = .nil := by
  have ids : (searchFrames q page answers (childDocuments page)).1 =
      (page.frames.toList.filter named).map fun c => c.2.document.id := by
    rw [searchedIds,childDocuments,List.filter_map,List.map_map]
    rfl
  rw [ids,descendantsBelow]
  constructor
  · intro perm
    have count := perm.length_eq
    rw [List.length_map,List.length_map] at count
    exact (namedCount page.scroll page.frames.toList).2 count
  · intro flat
    have all : page.frames.toList.filter named = page.frames.toList := List.filter_eq_self.mpr fun c member => by
      rw [named,Bool.not_eq_true',List.isEmpty_eq_false_iff]
      exact (flat c member).1
    rw [all,belowFlat page.scroll fun c member => (flat c member).2,List.map_map]
    exact List.Perm.refl _

end Searches

theorem flatMapSame {α β : Type} {f g : α → List β} {l : List α} (short : ∀ a ∈ l, (f a).length ≤ (g a).length) :
    (l.flatMap f).length ≤ (l.flatMap g).length ∧ (l.flatMap f = l.flatMap g ↔ ∀ a ∈ l, f a = g a) := by
  induction l with
  | nil => exact ⟨Nat.le_refl 0,iff_of_true rfl fun a absent => nomatch absent⟩
  | cons a rest ih =>
    obtain ⟨first,later⟩ := List.forall_mem_cons.mp short
    obtain ⟨most,same⟩ := ih later
    rw [List.flatMap_cons,List.flatMap_cons,List.forall_mem_cons,← same]
    refine ⟨?_,fun equal => ?_,fun both => by rw [both.1,both.2]⟩
    · rw [List.length_append,List.length_append]
      exact Nat.add_le_add first most
    · have total := congrArg List.length equal
      rw [List.length_append,List.length_append] at total
      exact List.append_inj equal (by omega)

theorem containsIff {url : Text} {f : Iframe} :
    (!url.isEmpty && f.src.any fun src => decide (url <:+: src)) = true ↔ Contains url f := by
  rw [Bool.and_eq_true,Bool.not_eq_true',List.isEmpty_eq_false_iff,Option.any_eq_true,Contains]
  simp only [decide_eq_true_eq]

theorem lookupTaken {url : Text} {iframes : List Iframe} {f : Iframe} (found : lookupIframe iframes url = some f) :
    TakenFor url iframes f := by
  rw [lookupIframe] at found
  cases hit : iframes.find? fun f => !url.isEmpty && f.src.any fun src => decide (url <:+: src) with
  | some g =>
    rw [hit,Option.some_or] at found
    cases found
    obtain ⟨contains,before,after,rfl,earlier⟩ := List.find?_eq_some_iff_append.mp hit
    refine .containing (containsIff.mp contains) fun g member => ?_
    have other := earlier g member
    rw [Bool.not_eq_true',← Bool.not_eq_true,containsIff] at other
    exact other
  | none =>
    rw [hit,Option.none_or] at found
    obtain ⟨rest,rfl⟩ := List.head?_eq_some_iff.mp found
    refine .first fun g member => ?_
    have other := List.find?_eq_none.mp hit g member
    rw [containsIff] at other
    exact other

theorem takenLookup {url : Text} {iframes : List Iframe} {f : Iframe} (taken : TakenFor url iframes f) :
    lookupIframe iframes url = some f := by
  have apart : ∀ {g : Iframe}, ¬ Contains url g → (!url.isEmpty && g.src.any fun src => decide (url <:+: src)) = false := by
    intro g other
    rw [← Bool.not_eq_true,containsIff]
    exact other
  rw [lookupIframe]
  cases taken with
  | containing contains earlier =>
    rw [List.find?_append,List.find?_eq_none.mpr fun g member => by rw [apart (earlier g member)]; decide,Option.none_or]
    simp only [List.find?_cons,containsIff.mpr contains,Option.some_or]
  | first others =>
    rw [List.find?_eq_none.mpr fun g member => by rw [apart (others g member)]; decide,Option.none_or]
    rfl

theorem takenPlace {page : Page} {answers : Answers} {document : Document} {place : Point} :
    TakenPlace page answers document place ↔ frameOffset page answers document = place := by
  have same : document.url.filter (· ≠ '"') = asked document := rfl
  simp only [frameOffset,same]
  constructor
  · intro taken
    cases taken with
    | failed fails => rw [if_pos fails]
    | iframe f evaluated plain taken => rw [evaluated,if_neg Bool.false_ne_true,if_pos plain,takenLookup taken]
    | without evaluated plain none => rw [evaluated,if_neg Bool.false_ne_true,if_pos plain,none]; rfl
    | broken evaluated other => rw [evaluated,if_neg Bool.false_ne_true,other,if_neg Bool.false_ne_true]
  · rintro rfl
    cases fails : answers.rectFails document.id with
    | true => exact .failed fails
    | false =>
      rw [if_neg Bool.false_ne_true]
      cases plain : plainUrl (asked document) with
      | false => exact .broken fails plain
      | true =>
        rw [if_pos rfl]
        cases found : lookupIframe page.iframes (asked document) with
        | some f => exact .iframe f fails plain (lookupTaken found)
        | none =>
          refine .without fails plain ?_
          rw [lookupIframe,Option.or_eq_none_iff] at found
          exact List.head?_eq_none_iff.mp found.2

theorem movedSame (q : Search) (page : Page) (answers : Answers) (c : Iframe × Frame) (e : Element) :
    (report q c.2.document e).moved (frameOffset page answers c.2.document) =
        placedReport q (c.2.document,(page.scroll.1 + c.1.left,page.scroll.2 + c.1.top)) e ↔
      Balanced page answers c e := by
  simp only [report,Found.moved,placedReport,Found.mk.injEq,true_and,and_true,add_zero,Balanced,takenPlace,exists_eq_left']
  constructor
  · rintro ⟨x,y⟩
    exact ⟨by linarith only [x],by linarith only [y]⟩
  · rintro ⟨x,y⟩
    exact ⟨by linarith only [x],by linarith only [y]⟩

theorem searchedFound (q : Search) (page : Page) (answers : Answers) (cs : List (Iframe × Frame))
    (ids : ∀ c ∈ cs, c.2.document.id ≠ []) :
    (searchFrames q page answers (cs.map fun c => c.2.document)).2 = cs.flatMap fun c =>
      if answers.frameFails c.2.document.id then []
      else (q.hits c.2.document.elements).map fun e =>
        (report q c.2.document e).moved (frameOffset page answers c.2.document) := by
  induction cs with
  | nil => rfl
  | cons c rest ih =>
    obtain ⟨first,later⟩ := List.forall_mem_cons.mp ids
    rw [List.map_cons,searchFrames,List.flatMap_cons,← ih later,if_neg (by simpa using first)]

theorem childFound (q : Search) (page : Page) (answers : Answers) (c : Iframe × Frame) :
    ((if answers.frameFails c.2.document.id then []
      else (q.hits c.2.document.elements).map fun e =>
        (report q c.2.document e).moved (frameOffset page answers c.2.document)) =
      (q.hits c.2.document.elements).map
        (placedReport q (c.2.document,(page.scroll.1 + c.1.left,page.scroll.2 + c.1.top)))) ↔
    (answers.frameFails c.2.document.id = true → q.hits c.2.document.elements = []) ∧
      ∀ e ∈ q.hits c.2.document.elements, Balanced page answers c e := by
  cases answers.frameFails c.2.document.id with
  | false =>
    rw [if_neg Bool.false_ne_true,List.map_inj_left]
    simp only [movedSame,Bool.false_eq_true,false_imp_iff,true_and]
  | true =>
    rw [if_pos rfl,eq_comm,List.map_eq_nil_iff]
    constructor
    · intro none
      exact ⟨fun _ => none,fun e member => by rw [none] at member; cases member⟩
    · exact fun both => both.1 rfl

theorem searchCovers (q : Search) (page : Page) (answers : Answers) :
    Covered q page (searchFrames q page answers (childDocuments page)) ↔
      ∀ c ∈ page.frames.toList, ChildFits q page answers c := by
  have results (flat : ∀ c ∈ page.frames.toList, c.2.document.id ≠ [] ∧ c.2.children = .nil) :
      (searchFrames q page answers (childDocuments page)).2 =
        page.descendants.flatMap (fun place => (q.hits place.1.elements).map (placedReport q place)) ↔
      ∀ c ∈ page.frames.toList, (answers.frameFails c.2.document.id = true → q.hits c.2.document.elements = []) ∧
        ∀ e ∈ q.hits c.2.document.elements, Balanced page answers c e := by
    rw [childDocuments,searchedFound q page answers _ fun c member => (flat c member).1,descendantsBelow,
      belowFlat page.scroll fun c member => (flat c member).2,List.flatMap_map,(flatMapSame fun c _ => ?_).2]
    · simp only [childFound]
    · split
      · exact Nat.zero_le _
      · rw [List.length_map,List.length_map]
  constructor
  · intro covered c member
    have flat := (searchedAll q page answers).mp covered.searched
    obtain ⟨answered,balanced⟩ := (results flat).mp covered.found c member
    exact ⟨(flat c member).1,(flat c member).2,answered,balanced⟩
  · intro fits
    have flat : ∀ c ∈ page.frames.toList, c.2.document.id ≠ [] ∧ c.2.children = .nil := fun c member =>
      ⟨(fits c member).named,(fits c member).childless⟩
    exact ⟨(searchedAll q page answers).mpr flat,
      (results flat).mpr fun c member => ⟨(fits c member).answered,(fits c member).balanced⟩⟩

theorem framesCovered (page : Page) (answers : Answers) :
    (Covered elementSearch page (findElementsInFrames page answers) ↔
        ∀ c ∈ page.frames.toList, ChildFits elementSearch page answers c) ∧
      (Covered textSearch page (findTextInFrames page answers) ↔
        ∀ c ∈ page.frames.toList, ChildFits textSearch page answers c) :=
  ⟨searchCovers elementSearch page answers,searchCovers textSearch page answers⟩

theorem framesMissed :
    (¬ ∀ (page : Page) (answers : Answers), Covered elementSearch page (findElementsInFrames page answers)) ∧
      (let page : Page := ⟨(0,0),[⟨some "a".toList,0,0⟩],.cons ⟨some "a".toList,0,0⟩ (.mk ⟨"A".toList,"a".toList,(0,0),[]⟩
        (.cons ⟨some "b".toList,0,0⟩ (.mk ⟨"B".toList,"b".toList,(0,0),[]⟩ .nil) .nil)) .nil⟩
      (findElementsInFrames page .all).1 = ["A".toList] ∧ (findTextInFrames page .all).1 = ["A".toList] ∧
        page.descendants.map (fun place => place.1.id) = ["A".toList,"B".toList]) ∧
      (let page : Page := ⟨(0,0),[⟨some "a".toList,200,0⟩],.cons ⟨some "a".toList,200,0⟩
        (.mk ⟨"A".toList,"a".toList,(0,700),[⟨"a".toList,[],10,20,40,10,true⟩]⟩ .nil) .nil⟩
      (findElementsInFrames page .all).2.map (fun f => (f.x,f.y)) = [(230,725)] ∧
        (page.descendants.flatMap fun place => (elementSearch.hits place.1.elements).map fun e =>
          ((placedReport elementSearch place e).x,(placedReport elementSearch place e).y)) = [(230,25)]) ∧
      (let page : Page := ⟨(0,0),[⟨some "a".toList,0,0⟩,⟨some "a".toList,500,0⟩],
        .cons ⟨some "a".toList,0,0⟩ (.mk ⟨"A".toList,"a".toList,(0,0),[]⟩ .nil)
          (.cons ⟨some "a".toList,500,0⟩ (.mk ⟨"B".toList,"a".toList,(0,0),[⟨"a".toList,[],10,20,40,10,true⟩]⟩ .nil) .nil)⟩
      (findElementsInFrames page .all).2.map (fun f => (f.frameId,f.x,f.y)) = [("B".toList,30,25)] ∧
        (page.descendants.flatMap fun place => (elementSearch.hits place.1.elements).map fun e =>
          ((placedReport elementSearch place e).x,(placedReport elementSearch place e).y)) = [(530,25)]) := by
  refine ⟨fun all => ?_,⟨by decide,by decide,by decide⟩,⟨by decide +kernel,by decide +kernel⟩,by decide +kernel,
    by decide +kernel⟩
  have perm := (all ⟨(0,0),[⟨some "a".toList,0,0⟩],.cons ⟨some "a".toList,0,0⟩ (.mk ⟨"A".toList,"a".toList,(0,0),[]⟩
    (.cons ⟨some "b".toList,0,0⟩ (.mk ⟨"B".toList,"b".toList,(0,0),[]⟩ .nil) .nil)) .nil⟩ .all).searched
  exact absurd perm.length_eq (by decide)

end Vscreen.FrameSearch
