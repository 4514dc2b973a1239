import Vscreen.FrameSearch
import Vscreen.JsLexer
import Vscreen.ScrapeSections
import Vscreen.TextReplace

/-! Scripts that the server writes around texts of its callers and of pages: the scraper
(scraper.js, synthesis.rs), the text targets of `vscreen_interact` (workflow_interact.rs)
and the lookup of an iframe by its URL (mcp/mod.rs). -/
namespace Vscreen.ScriptTexts
open Text JavaScript
open Json (Units utf16 unitsOf)

inductive Marker where
  | limit
  | source
  | timeoutBudgetMs
  deriving DecidableEq, Repr

def Marker.name : Marker → Text
  | .limit => "__LIMIT__".toList
  | .source => "__SOURCE__".toList
  | .timeoutBudgetMs => "__TIMEOUT_BUDGET_MS__".toList

def crlf (lines : List String) : Text := lines.flatMap fun line => line.toList ++ ['\r','\n']

def opening : Text :=
  crlf ["// Synthesis scraper — standalone JS expression evaluated in the browser.","//",
    "// Template markers replaced at runtime by Rust:"] ++ "//   ".toList

def afterLimit : Text := crlf ["            → max number of articles to return"] ++ "//   ".toList

def afterSource : Text := crlf ["           → source label string (pre-escaped)"] ++ "//   ".toList

def afterTimeout : Text :=
  crlf [" → max runtime in ms before graceful degradation (default 12000)","//",
    "// This file is included in the binary via include_str!(\"mcp/scraper.js\")",
    "// and is a single IIFE that returns a JSON string.","","(async () => \x7b","    const results = [];",
    "    const seenTitles = new Set();","    const seenUrls = new Set();"] ++ "    const LIMIT = ".toList

def afterLimitConst : Text :=
  crlf [";","    ","    const MIN_TITLE_LEN = 25;"] ++ "    const BUDGET_MS = ".toList

def head (limit source timeout : Text) : Text :=
  opening ++ limit ++ afterLimit ++ source ++ afterSource ++ timeout ++ afterTimeout ++ limit ++ afterLimitConst ++ timeout

/-- The scraper between its first declarations and that of the source label, and after
it. Neither has a marker, and where the first ends the program is between tokens. -/
structure ScraperSource (goal : List Element → Bool) where
  body : Text
  tail : Text
  bodyFree : ∀ m : Marker, ¬ m.name <:+: body
  tailFree : ∀ m : Marker, ¬ m.name <:+: tail
  bodyCode : ∀ limit : Nat,
    (scan goal .start (head (decimal limit) [] "12000".toList ++ crlf [";"] ++ body)).2.mode = .code

section Scraper
variable {goal : List Element → Bool} (script : ScraperSource goal)

def beforeSource : Text := crlf [";"] ++ script.body ++ crlf [""] ++ "    const source = '".toList

def afterSourceConst : Text := crlf ["';"] ++ script.tail ++ crlf ["\x7d)()"]

def places : List (Marker × Text) :=
  [(.limit,afterLimit),(.source,afterSource),(.timeoutBudgetMs,afterTimeout),(.limit,afterLimitConst),
    (.timeoutBudgetMs,beforeSource script),(.source,afterSourceConst script)]

def scraperTemplate : Text := opening ++ render Marker.name (places script)

def replaceChar (c : Char) (new s : Text) : Text := s.flatMap fun d => if d = c then new else [d]

def escapeSource (sourceRaw : Text) : Text :=
  replaceChar '\r' "\\r".toList (replaceChar '\n' "\\n".toList
    (replaceChar '\'' "\\'".toList (replaceChar '\\' "\\\\".toList sourceRaw)))

def scraperJs (limit : Option UInt64) (sourceLabel : Option Text) : Text :=
  let limit := (limit.getD 8).toNat
  let sourceRaw := sourceLabel.getD []
  let source := escapeSource sourceRaw
  let budgetMs := 12000
  replaceAll Marker.timeoutBudgetMs.name (decimal budgetMs)
    (replaceAll Marker.source.name source (replaceAll Marker.limit.name (decimal limit) (scraperTemplate script)))

end Scraper

theorem markerChar (m : Marker) : m.name ≠ [] ∧ ∀ c ∈ [' ','/',';','\'','\r','\n','\x7d'], c ∉ m.name := by
  cases m <;> exact ⟨by decide,forallListed (by decide)⟩

theorem givenTexts : ∀ t ∈ [opening,afterLimit,afterSource,afterTimeout,afterLimitConst],
    ¬ ['_','_'] <:+: t ∧ t.head? ∈ [some '/',some ' ',some ';'] ∧ t.getLast? = some ' ' := by
  simp only [opening,afterLimit,afterSource,afterTimeout,afterLimitConst,crlf,List.flatMap_cons,List.flatMap_nil]
  -- literals are slow to take apart in the kernel
  repeat rw [String.toList_ofList]
  decide +kernel

theorem betweenGiven (m : Marker) : ∀ t ∈ [opening,afterLimit,afterSource,afterTimeout,afterLimitConst],
    Between m.name t := by
  have lines : ['_','_'] <:+: m.name := by cases m <;> decide
  have apart := (markerChar m).2
  intro t member
  obtain ⟨free,head,last⟩ := givenTexts t member
  refine ⟨fun inside => free (lines.trans inside),?_,⟨' ',apart _ (by decide),last⟩⟩
  simp only [List.mem_cons,List.not_mem_nil,or_false] at head
  rcases head with slash | space | semicolon
  · exact ⟨'/',apart _ (by decide),slash⟩
  · exact ⟨' ',apart _ (by decide),space⟩
  · exact ⟨';',apart _ (by decide),semicolon⟩

theorem forallNested {α : Type} {p : α → Prop} [DecidablePred p] {ls : List (List α)}
    (all : ls.all (fun l => l.all fun a => decide (p a)) = true) : ∀ l ∈ ls, ∀ a ∈ l, p a :=
  fun l member => forallListed (List.all_eq_true.mp all l member)

section Filled
variable {goal : List Element → Bool} (script : ScraperSource goal)

theorem betweenPlaces (m : Marker) : ∀ p ∈ places script, Between m.name p.2 := by
  have given := betweenGiven m
  have apart := (markerChar m).2
  have before : Between m.name (beforeSource script) := by
    have whole : beforeSource script = ([';','\r'] ++ '\n'::script.body) ++ '\r':: '\n':: "    const source = '".toList := by
      simp [beforeSource,crlf]
    refine ⟨?_,⟨';',apart _ (by decide),rfl⟩,⟨'\'',apart _ (by decide),?_⟩⟩
    · rw [whole,infixApart (apart '\r' (by decide)) (markerChar m).1,infixApart (apart '\n' (by decide)) (markerChar m).1]
      rintro ((first | body) | last)
      · revert first
        cases m <;> decide
      · exact script.bodyFree m body
      · revert last
        cases m <;> decide
    · rw [whole,List.getLast?_append_cons]
      rfl
  have after : Between m.name (afterSourceConst script) := by
    have whole : afterSourceConst script =
        (['\'',';','\r'] ++ '\n'::script.tail) ++ '\x7d':: ")()\r\n".toList := by
      simp [afterSourceConst,crlf]
    refine ⟨?_,⟨'\'',apart _ (by decide),rfl⟩,⟨'\n',apart _ (by decide),?_⟩⟩
    · rw [whole,infixApart (apart '\x7d' (by decide)) (markerChar m).1,
        infixApart (apart '\n' (by decide)) (markerChar m).1]
      rintro ((first | tail) | last)
      · revert first
        cases m <;> decide
      · exact script.tailFree m tail
      · revert last
        cases m <;> decide
    · rw [whole,List.getLast?_append_cons]
      rfl
  simp only [places,List.forall_mem_cons,List.not_mem_nil,false_imp_iff,implies_true,and_true]
  exact ⟨given _ (by simp),given _ (by simp),given _ (by simp),given _ (by simp),before,after⟩

theorem digitsFree (m : Marker) (n : Nat) : ¬ m.name <:+: decimal n := by
  intro inside
  have underscore : '_' ∈ m.name := by cases m <;> decide
  have digit : ('_').isDigit = true := Nat.isDigit_of_mem_toDigits (by decide) (by decide) (inside.subset underscore)
  exact absurd digit (by decide)

def filling (limit : Nat) (sourceRaw : Text) : Marker → Text
  | .limit => decimal limit
  | .source => replaceAll Marker.timeoutBudgetMs.name "12000".toList (escapeSource sourceRaw)
  | .timeoutBudgetMs => "12000".toList

theorem scraperFilled (limit : Option UInt64) (sourceLabel : Option Text) : scraperJs script limit sourceLabel =
    opening ++ render (filling (limit.getD 8).toNat (sourceLabel.getD [])) (places script) := by
  have pass (pat : Marker) (new : Text) (fill : Marker → Text) :
      replaceAll pat.name new (opening ++ render fill (places script)) =
        opening ++ render (fun m => replaceAll pat.name new (fill m)) (places script) :=
    replaceRender (markerChar pat).1 (betweenGiven pat _ (by simp)) (betweenPlaces script pat)
  have other (pat m : Marker) (apart : ¬ pat.name <:+: m.name) (new : Text) : replaceAll pat.name new m.name = m.name :=
    replaceFree apart
  have budget : decimal 12000 = "12000".toList := by decide
  rw [scraperJs,scraperTemplate,pass,pass,pass,budget]
  refine congrArg (fun fill => opening ++ render fill (places script)) (funext fun m => ?_)
  cases m with
  | limit =>
    rw [replaceSame (markerChar .limit).1,replaceFree (digitsFree .source _),replaceFree (digitsFree .timeoutBudgetMs _)]
    rfl
  | source =>
    rw [other .limit .source (by decide),replaceSame (markerChar .source).1]
    rfl
  | timeoutBudgetMs =>
    rw [other .limit .timeoutBudgetMs (by decide),other .source .timeoutBudgetMs (by decide),
      replaceSame (markerChar .timeoutBudgetMs).1]
    rfl

def firstPart (limit : Nat) : Text := opening ++ decimal limit ++ afterLimit

def secondPart (limit : Nat) : Text :=
  afterSource ++ "12000".toList ++ afterTimeout ++ decimal limit ++ afterLimitConst ++ "12000".toList ++ beforeSource script

theorem scraperParts (limit : Option UInt64) (s : Text) : scraperJs script limit (some s) =
    firstPart (limit.getD 8).toNat ++ (filling (limit.getD 8).toNat s .source ++
      (secondPart script (limit.getD 8).toNat ++ (filling (limit.getD 8).toNat s .source ++ afterSourceConst script))) := by
  rw [scraperFilled]
  simp [render,places,filling,firstPart,secondPart]

theorem digitLine {n : Nat} : ∀ c ∈ decimal n, isLineTerminator c = false := by
  intro c member
  have digit : c.isDigit = true := Nat.isDigit_of_mem_toDigits (by decide) (by decide) member
  simp only [isLineTerminator,Bool.or_eq_false_iff,decide_eq_false_iff_not]
  refine ⟨⟨⟨?_,?_⟩,?_⟩,?_⟩ <;> rintro rfl <;> exact absurd digit (by decide)

theorem scanLine {k : Context} (within : k.mode = .lineComment) {s : Text} (line : ∀ c ∈ s, isLineTerminator c = false)
    (rest : Text) : ∃ sh, (scan goal k (s ++ '\r':: '\n'::rest)).2 = (scan goal ⟨sh,k.braces,.code⟩ rest).2 := by
  obtain ⟨sh,br,mode⟩ := k
  cases within
  rw [scanAppend,scanComment goal rfl line]
  exact ⟨.code '\n'::.code '\r'::sh,rfl⟩

theorem scanComments {k : Context} (within : k.mode = .lineComment) {lines : List Text}
    (comments : ∀ l ∈ lines, ∀ c ∈ l, isLineTerminator c = false) :
    (scan goal k (lines.flatMap fun l => l ++ "\r\n//".toList)).2.mode = .lineComment := by
  induction lines generalizing k with
  | nil => exact within
  | cons l lines ih =>
    obtain ⟨first,later⟩ := List.forall_mem_cons.mp comments
    rw [List.flatMap_cons,List.append_assoc]
    obtain ⟨sh,next⟩ := scanLine within first ('/':: '/'::lines.flatMap fun l => l ++ "\r\n//".toList)
    refine (congrArg Context.mode next).trans ?_
    exact ih (k := ⟨sh,k.braces,.lineComment⟩) rfl later

theorem scanUpTo {k : Context} (within : k.mode = .lineComment) (lines : List Text) {last t : Text}
    (whole : t = (lines.flatMap fun l => l ++ "\r\n//".toList) ++ last)
    (comments : ∀ l ∈ last::lines, ∀ c ∈ l, isLineTerminator c = false) : (scan goal k t).2.mode = .lineComment := by
  obtain ⟨final,before⟩ := List.forall_mem_cons.mp comments
  have lines : (scan goal k (lines.flatMap fun l => l ++ "\r\n//".toList)).2.mode = .lineComment :=
    scanComments within before
  subst whole
  rw [endAppend,scanComment goal lines final]
  exact lines

theorem openingMode : (scan goal .start opening).2.mode = .lineComment := by
  have text : opening = ['/','/'] ++
      (([" Synthesis scraper — standalone JS expression evaluated in the browser.".toList,[],
        " Template markers replaced at runtime by Rust:".toList].flatMap fun l => l ++ "\r\n//".toList) ++ "   ".toList) := by
    simp only [opening,crlf,List.flatMap_cons,List.flatMap_nil]
    repeat rw [String.toList_ofList]
    rfl
  have within : (scan goal .start ['/','/']).2.mode = .lineComment := rfl
  rw [text,endAppend]
  refine scanUpTo within _ rfl ?_
  repeat rw [String.toList_ofList]
  exact forallNested (by decide)

theorem noteMode {k : Context} (within : k.mode = .lineComment) {line : String}
    (comment : ∀ c ∈ line.toList, isLineTerminator c = false) :
    (scan goal k (crlf [line] ++ "//   ".toList)).2.mode = .lineComment := by
  have text : crlf [line] ++ "//   ".toList = ([line.toList].flatMap fun l => l ++ "\r\n//".toList) ++ "   ".toList := by
    simp [crlf]
  refine scanUpTo within _ text (List.forall_mem_cons.mpr ⟨forallListed (by decide),?_⟩)
  exact List.forall_mem_singleton.mpr comment

theorem limitMode {k : Context} (within : k.mode = .lineComment) : (scan goal k afterLimit).2.mode = .lineComment := by
  refine noteMode within ?_
  rw [String.toList_ofList]
  exact forallListed (by decide)

theorem sourceMode {k : Context} (within : k.mode = .lineComment) : (scan goal k afterSource).2.mode = .lineComment := by
  refine noteMode within ?_
  rw [String.toList_ofList]
  exact forallListed (by decide)

theorem firstMode (limit : Nat) : (scan goal .start (firstPart limit)).2.mode = .lineComment := by
  have opened : (scan goal .start opening).2.mode = .lineComment := openingMode
  rw [firstPart,endAppend,endAppend]
  generalize (scan goal .start opening).2 = k at opened ⊢
  rw [scanComment goal opened digitLine]
  exact limitMode opened

theorem scanPast {k : Context} (within : k.mode = .lineComment) (lines : List Text) {last code t : Text}
    (whole : t = ((lines.flatMap fun l => l ++ "\r\n//".toList) ++ last) ++ '\r'::code)
    (comments : ∀ l ∈ last::lines, ∀ c ∈ l, isLineTerminator c = false)
    (plain : ∀ c ∈ code, c ∉ ['/','"','\'','\x60','\x7d']) : (scan goal k t).2.mode = .code := by
  have before : (scan goal k ((lines.flatMap fun l => l ++ "\r\n//".toList) ++ last)).2.mode = .lineComment :=
    scanUpTo within lines rfl comments
  subst whole
  rw [endAppend]
  generalize (scan goal k _).2 = k' at before ⊢
  rw [scan,stepLine goal before (by decide)]
  exact scanCode goal rfl plain

theorem timeoutMode {k : Context} (within : k.mode = .lineComment) : (scan goal k afterTimeout).2.mode = .code := by
  have text : afterTimeout =
      (([" → max runtime in ms before graceful degradation (default 12000)".toList,[],
        " This file is included in the binary via include_str!(\"mcp/scraper.js\")".toList].flatMap
          fun l => l ++ "\r\n//".toList) ++ " and is a single IIFE that returns a JSON string.".toList) ++
      '\r':: '\n'::(crlf ["","(async () => \x7b","    const results = [];","    const seenTitles = new Set();",
        "    const seenUrls = new Set();"] ++ "    const LIMIT = ".toList) := by
    simp only [afterTimeout,crlf,List.flatMap_cons,List.flatMap_nil]
    repeat rw [String.toList_ofList]
    rfl
  refine scanPast within _ text ?_ ?_
  · repeat rw [String.toList_ofList]
    exact forallNested (by decide)
  · simp only [crlf,List.flatMap_cons,List.flatMap_nil]
    repeat rw [String.toList_ofList]
    exact forallListed (by decide +kernel)

theorem headMode (limit : Nat) : (scan goal .start (head (decimal limit) [] "12000".toList ++ crlf [";"])).2.mode = .code := by
  have parts : head (decimal limit) [] "12000".toList ++ crlf [";"] = firstPart limit ++
      (afterSource ++ ("12000".toList ++ (afterTimeout ++ (decimal limit ++ (afterLimitConst ++
        ("12000".toList ++ crlf [";"])))))) := by
    simp only [head,firstPart,List.append_assoc,List.nil_append]
  have first : (scan goal .start (firstPart limit)).2.mode = .lineComment := firstMode limit
  have budget : ∀ c ∈ "12000".toList, isLineTerminator c = false := forallListed (by decide)
  have plain : ∀ c ∈ decimal limit ++ (afterLimitConst ++ ("12000".toList ++ crlf [";"])),
      c ∉ ['/','"','\'','\x60','\x7d'] := by
    have given : ∀ c ∈ afterLimitConst ++ ("12000".toList ++ crlf [";"]), c ∉ ['/','"','\'','\x60','\x7d'] := by
      simp only [afterLimitConst,crlf,List.flatMap_cons,List.flatMap_nil]
      repeat rw [String.toList_ofList]
      exact forallListed (by decide)
    intro c member
    rcases List.mem_append.mp member with digit | rest
    · have isDigit : c.isDigit = true := Nat.isDigit_of_mem_toDigits (by decide) (by decide) digit
      have others : ∀ d ∈ ['/','"','\'','\x60','\x7d'], d.isDigit = false := forallListed (by decide)
      intro listed
      rw [others c listed] at isDigit
      cases isDigit
    · exact given c rest
  rw [parts,endAppend]
  generalize (scan goal .start (firstPart limit)).2 = k at first ⊢
  have label : (scan goal k afterSource).2.mode = .lineComment := sourceMode first
  rw [endAppend]
  generalize (scan goal k afterSource).2 = k' at label ⊢
  rw [endAppend,scanComment goal label budget,endAppend]
  exact scanCode goal (timeoutMode label) plain

theorem secondMode (limit : Nat) : ∃ sh br,
    (scan goal (scan goal .start (firstPart limit)).2 (secondPart script limit)).2 = ⟨sh,br,.string '\'' [] .none⟩ := by
  have code := script.bodyCode limit
  have parts : head (decimal limit) [] "12000".toList ++ crlf [";"] ++ script.body = firstPart limit ++
      (afterSource ++ "12000".toList ++ afterTimeout ++ decimal limit ++ afterLimitConst ++ "12000".toList ++
        (crlf [";"] ++ script.body)) := by
    simp [head,firstPart]
  have rest : secondPart script limit = (afterSource ++ "12000".toList ++ afterTimeout ++ decimal limit ++ afterLimitConst ++
      "12000".toList ++ (crlf [";"] ++ script.body)) ++ (crlf [""] ++ "    const source = '".toList) := by
    simp [secondPart,beforeSource]
  rw [parts,endAppend] at code
  rw [rest,endAppend]
  generalize (scan goal (scan goal .start (firstPart limit)).2 _).2 = k at code ⊢
  have quoted : crlf [""] ++ "    const source = '".toList = "\r\n    const source = ".toList ++ ['\''] := by decide
  rw [quoted]
  exact scanOpens goal code (forallListed (by decide)) (.inr rfl)

def writeSource (c : Char) : Text :=
  if c = '\\' then "\\\\".toList
  else if c = '\'' then "\\'".toList
  else if c = '\n' then "\\n".toList
  else if c = '\r' then "\\r".toList
  else [c]

theorem sourceWritten (s : Text) : escapeSource s = s.flatMap writeSource := by
  simp only [escapeSource,replaceChar,List.flatMap_assoc]
  refine congrArg (List.flatMap · s) (funext fun c => ?_)
  by_cases backslash : c = '\\'
  · subst backslash
    decide
  by_cases single : c = '\''
  · subst single
    decide
  by_cases feed : c = '\n'
  · subst feed
    decide
  by_cases carriage : c = '\r'
  · subst carriage
    decide
  simp only [writeSource,backslash,single,feed,carriage,if_false,List.flatMap_singleton]

theorem sourcePlain {c : Char} (fixed : c ∉ ['\\','\'','\n','\r']) : writeSource c = [c] := by
  simp only [List.mem_cons,List.not_mem_nil,or_false,not_or] at fixed
  obtain ⟨backslash,single,feed,carriage⟩ := fixed
  rw [writeSource,if_neg backslash,if_neg single,if_neg feed,if_neg carriage]

theorem sourceEscaped {c : Char} (escaped : c ∈ ['\\','\'','\n','\r']) :
    writeSource c ≠ [] ∧ ∀ d ∈ writeSource c, d ∉ Marker.timeoutBudgetMs.name ∧ isLineTerminator d = false := by
  simp only [List.mem_cons,List.not_mem_nil,or_false] at escaped
  rcases escaped with rfl | rfl | rfl | rfl <;> exact ⟨by decide,forallListed (by decide)⟩

theorem sourceRead (c : Char) (value : Units) :
    readText '\'' value .none (writeSource c) = .more (value ++ utf16 c) .none := by
  by_cases escaped : c ∈ ['\\','\'','\n','\r']
  · simp only [List.mem_cons,List.not_mem_nil,or_false] at escaped
    rcases escaped with rfl | rfl | rfl | rfl <;> rfl
  · rw [sourcePlain escaped,readText,readPlainChar]
    · rfl
    · simp only [List.mem_cons,List.not_mem_nil,or_false,not_or] at escaped
      obtain ⟨backslash,single,feed,carriage⟩ := escaped
      exact ⟨single,backslash,feed,carriage⟩

theorem sourceFixes : Fixes Marker.timeoutBudgetMs.name "12000".toList writeSource where
  sought := forallListed (by decide)
  put := forallListed (by decide)
  others c other := by
    have escaped : c ∈ ['\\','\'','\n','\r'] := by
      by_contra fixed
      exact other (sourcePlain fixed)
    obtain ⟨some,apart⟩ := sourceEscaped escaped
    exact ⟨some,fun d member => (apart d member).1⟩

def relabel (s : Text) : Text := replaceAll Marker.timeoutBudgetMs.name "12000".toList s

theorem relabelled (limit : Nat) (s : Text) : filling limit s .source = (relabel s).flatMap writeSource := by
  rw [filling,sourceWritten,replaceWritten (markerChar .timeoutBudgetMs).1 sourceFixes,relabel]

theorem relabelSame {s : Text} : relabel s = s ↔ ¬ Marker.timeoutBudgetMs.name <:+: s := by
  refine ⟨fun same inside => ?_,replaceFree⟩
  have shorter : (relabel s).length < s.length := replaceShorter (by decide) inside
  rw [same] at shorter
  exact Nat.lt_irrefl _ shorter

def isSeparator (c : Char) : Bool := c = '\u2028' || c = '\u2029'

theorem relabelLine {s : Text} (line : ∀ c ∈ s, isSeparator c = false) :
    ∀ c ∈ (relabel s).flatMap writeSource, isLineTerminator c = false := by
  have put : ∀ c ∈ "12000".toList, isSeparator c = false := forallListed (by decide)
  intro c member
  obtain ⟨d,within,written⟩ := List.mem_flatMap.mp member
  by_cases escaped : d ∈ ['\\','\'','\n','\r']
  · exact ((sourceEscaped escaped).2 c written).2
  · rw [sourcePlain escaped,List.mem_singleton] at written
    subst written
    have apart : isSeparator c = false := by
      rcases skipSubset within with budget | label
      · exact put c budget
      · exact line c label
    simp only [isSeparator,Bool.or_eq_false_iff,decide_eq_false_iff_not] at apart
    simp only [List.mem_cons,List.not_mem_nil,or_false,not_or] at escaped
    simp only [isLineTerminator,Bool.or_eq_false_iff,decide_eq_false_iff_not]
    exact ⟨⟨⟨escaped.2.2.1,escaped.2.2.2⟩,apart.1⟩,apart.2⟩

theorem separatorEnds {c : Char} (separator : isSeparator c = true) :
    isLineTerminator c = true ∧ c ∉ Marker.timeoutBudgetMs.name ∧ c ∉ ['\\','\'','\n','\r'] := by
  simp only [isSeparator,Bool.or_eq_true,decide_eq_true_eq] at separator
  rcases separator with rfl | rfl <;> decide

theorem secondHead {k : Context} (within : k.mode = .lineComment) (limit : Nat) :
    ∃ es, (scan goal k (secondPart script limit)).1 = .code '\r'::es := by
  have comment : afterSource =
      "           → source label string (pre-escaped)".toList ++ '\r':: '\n':: "//   ".toList := by decide +kernel
  have line : ∀ c ∈ "           → source label string (pre-escaped)".toList, isLineTerminator c = false :=
    forallListed (by decide +kernel)
  simp only [secondPart,List.append_assoc]
  generalize "12000".toList ++ _ = rest
  rw [comment,List.append_assoc,scanAppend,scanComment goal within line,List.cons_append,scan,
    stepLine goal within (by decide)]
  simp only [List.nil_append,List.singleton_append]
  exact ⟨_,rfl⟩

def labelBefore (limit : Nat) : List Element :=
  (scan goal .start (firstPart limit)).1 ++ (scan goal (scan goal .start (firstPart limit)).2 (secondPart script limit)).1

theorem labelCode (limit : Option UInt64) : ∃ before after, ∀ s : Text,
    lex goal (scraperJs script limit (some s)) = before ++ .string (unitsOf s)::after ↔
      ¬ Marker.timeoutBudgetMs.name <:+: s ∧ ∀ c ∈ s, isSeparator c = false := by
  obtain ⟨sh,br,second⟩ := secondMode script (limit.getD 8).toNat
  have first : (scan goal .start (firstPart (limit.getD 8).toNat)).2.mode = .lineComment := firstMode _
  obtain ⟨es,head⟩ := secondHead script first (limit.getD 8).toNat
  have closes : afterSourceConst script = '\''::(crlf [";"] ++ script.tail ++ crlf ["\x7d)()"]) := rfl
  refine ⟨labelBefore script (limit.getD 8).toNat,
    lexFrom goal ⟨.string []::sh,br,.code⟩ (crlf [";"] ++ script.tail ++ crlf ["\x7d)()"]),fun s => ?_⟩
  rw [scraperParts,relabelled,labelBefore,lex,lexAppend,closes]
  generalize crlf [";"] ++ script.tail ++ crlf ["\x7d)()"] = rest
  generalize (scan goal .start (firstPart (limit.getD 8).toNat)).2 = k at first second head ⊢
  rw [List.append_assoc,List.append_cancel_left_eq]
  by_cases line : ∀ c ∈ s, isSeparator c = false
  · rw [lexComment goal first (relabelLine line),lexAppend,second,lexWritten goal sh br fun c _ => sourceRead c,
      List.append_cancel_left_eq,List.cons.injEq,Element.string.injEq,Synthesis.unitsSame,relabelSame]
    exact ⟨fun both => ⟨both.1,line⟩,fun safe => ⟨safe.1,rfl⟩⟩
  · refine iff_of_false (fun same => ?_) (fun safe => line safe.2)
    obtain ⟨a,c,b,rfl,separator,apart⟩ := firstOther line
    obtain ⟨ends,sought,plain⟩ := separatorEnds (Bool.not_eq_false _ ▸ separator)
    have written : (relabel (a ++ c::b)).flatMap writeSource =
        (relabel a).flatMap writeSource ++ c::(relabel b).flatMap writeSource := by
      rw [relabel,replaceApart (markerChar .timeoutBudgetMs).1 sought,List.flatMap_append,List.flatMap_cons,
        sourcePlain plain]
      rfl
    rw [written,List.append_assoc,lexComment goal first (relabelLine apart),
      List.cons_append,lexLine goal first ends,head,List.cons_append,List.cons.injEq,Element.code.injEq] at same
    obtain ⟨rfl,-⟩ := same
    exact plain (by decide)

end Filled

end Vscreen.ScriptTexts
