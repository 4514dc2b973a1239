import Vscreen.JsStrings

/-! The lexical grammar of JavaScript, for scripts that are not strict: where strings,
templates, regular expressions and comments begin and end. Outside of these every
character is an element of its own. Whether a slash begins a regular expression is told by
the elements before it, without the values of strings. -/
namespace Vscreen.JavaScript
open Json (Units utf16 unitsOf)

inductive Element where
  | code (c : Char)
  | string (value : Units)
  | template (chunk : Text)
  | regex (source : Text)
  | comment (lines : Bool)
  | error
  deriving DecidableEq, Repr

def Element.shape : Element → Element
  | .string _ => .string []
  | e => e

inductive Mode where
  | code
  | slash
  | lineComment
  | blockComment (lines star : Bool)
  | string (quote : Char) (value : Units) (escape : Escape)
  | template (chunk : Text) (escaped dollar : Bool)
  | regex (source : Text) (inClass escaped : Bool)
  | failed
  deriving DecidableEq, Repr

structure Context where
  shapes : List Element
  braces : List Nat
  mode : Mode

def Context.start : Context := ⟨[],[],.code⟩

section Lex
variable (goal : List Element → Bool)

def Context.emit (k : Context) (e : Element) (mode : Mode) : List Element × Context :=
  ([e],⟨e.shape::k.shapes,k.braces,mode⟩)

def Context.enter (k : Context) (mode : Mode) : List Element × Context := ([],{k with mode})

def codeStep (k : Context) (c : Char) : List Element × Context :=
  if c = '/' then k.enter .slash
  else if c = '"' ∨ c = '\'' then k.enter (.string c [] .none)
  else if c = '\x60' then k.enter (.template [] false false)
  else if c = '\x7b' then match k.braces with
    | n::rest => ({k with braces := (n + 1)::rest} : Context).emit (.code c) .code
    | [] => k.emit (.code c) .code
  else if c = '\x7d' then match k.braces with
    | 0::rest => ({k with braces := rest} : Context).emit (.code c) (.template [] false false)
    | (n + 1)::rest => ({k with braces := n::rest} : Context).emit (.code c) .code
    | [] => k.emit (.code c) .code
  else k.emit (.code c) .code

def regexStep (k : Context) (source : Text) (inClass escaped : Bool) (c : Char) : List Element × Context :=
  if isLineTerminator c then k.emit .error .failed
  else if escaped then k.enter (.regex (source ++ [c]) inClass false)
  else if c = '/' ∧ !inClass then k.emit (.regex source) .code
  else k.enter (.regex (source ++ [c]) (c = '[' || inClass && c ≠ ']') (c = '\\'))

def templateStep (k : Context) (chunk : Text) (escaped dollar : Bool) (c : Char) : List Element × Context :=
  if escaped then k.enter (.template (chunk ++ [c]) false false)
  else if c = '\x60' then k.emit (.template chunk) .code
  else if c = '\x7b' ∧ dollar then ({k with braces := 0::k.braces} : Context).emit (.template chunk) .code
  else k.enter (.template (chunk ++ [c]) (c = '\\') (c = '$'))

def stringStep (k : Context) (quote : Char) (value : Units) (escape : Escape) (c : Char) : List Element × Context :=
  match read quote value escape c with
  | .more value' escape' => k.enter (.string quote value' escape')
  | .closed value' => k.emit (.string value') .code
  | .broken => k.emit .error .failed

def step (k : Context) (c : Char) : List Element × Context := match k.mode with
  | .code => codeStep k c
  | .slash =>
    if c = '/' then k.enter .lineComment
    else if c = '*' then k.enter (.blockComment false false)
    else if goal k.shapes then regexStep k [] false false c
    else
      let divided := k.emit (.code '/') .code
      let next := codeStep divided.2 c
      (divided.1 ++ next.1,next.2)
  | .lineComment => if isLineTerminator c then k.emit (.code c) .code else k.enter .lineComment
  | .blockComment lines star =>
    if c = '/' ∧ star then k.emit (.comment lines) .code
    else k.enter (.blockComment (lines || isLineTerminator c) (c = '*'))
  | .string quote value escape => stringStep k quote value escape c
  | .template chunk escaped dollar => templateStep k chunk escaped dollar c
  | .regex source inClass escaped => regexStep k source inClass escaped c
  | .failed => k.enter .failed

def scan (k : Context) : Text → List Element × Context
  | [] => ([],k)
  | c::rest =>
    let first := step goal k c
    let later := scan first.2 rest
    (first.1 ++ later.1,later.2)

def Context.finish (k : Context) : List Element := match k.mode with
  | .code => if k.braces.isEmpty then [] else [.error]
  | .lineComment => []
  | .slash => [.code '/']
  | .failed => []
  | _ => [.error]

def lexFrom (k : Context) (program : Text) : List Element :=
  (scan goal k program).1 ++ (scan goal k program).2.finish

def lex (program : Text) : List Element := lexFrom goal .start program

theorem scanAppend (k : Context) (s t : Text) : scan goal k (s ++ t) =
    ((scan goal k s).1 ++ (scan goal (scan goal k s).2 t).1,(scan goal (scan goal k s).2 t).2) := by
  induction s generalizing k with
  | nil => rfl
  | cons c rest ih => rw [List.cons_append,scan,scan,ih,List.append_assoc]

theorem endAppend (k : Context) (s t : Text) : (scan goal k (s ++ t)).2 = (scan goal (scan goal k s).2 t).2 := by
  rw [scanAppend]

theorem lexAppend (k : Context) (s t : Text) :
    lexFrom goal k (s ++ t) = (scan goal k s).1 ++ lexFrom goal (scan goal k s).2 t := by
  rw [lexFrom,scanAppend,lexFrom,List.append_assoc]

theorem lexCons (k : Context) (c : Char) (rest : Text) :
    lexFrom goal k (c::rest) = (step goal k c).1 ++ lexFrom goal (step goal k c).2 rest := by
  rw [lexFrom,scan,lexFrom,List.append_assoc]

theorem scanCode {k : Context} (code : k.mode = .code) {s : Text}
    (plain : ∀ c ∈ s, c ∉ ['/','"','\'','\x60','\x7d']) : (scan goal k s).2.mode = .code := by
  induction s generalizing k with
  | nil => exact code
  | cons c s ih =>
    obtain ⟨first,later⟩ := List.forall_mem_cons.mp plain
    refine ih ?_ later
    simp only [List.mem_cons,List.not_mem_nil,or_false,not_or] at first
    obtain ⟨slash,double,single,tick,close⟩ := first
    rw [step,code]
    change (codeStep k c).2.mode = .code
    rw [codeStep,if_neg slash,if_neg (not_or.mpr ⟨double,single⟩),if_neg tick]
    by_cases opens : c = '\x7b'
    · rw [if_pos opens]
      split <;> rfl
    · rw [if_neg opens,if_neg close]
      rfl

theorem scanOpens {k : Context} (code : k.mode = .code) {s : Text} (plain : ∀ c ∈ s, c ∉ ['/','"','\'','\x60','\x7d'])
    {quote : Char} (quotes : quote = '"' ∨ quote = '\'') :
    ∃ sh br, (scan goal k (s ++ [quote])).2 = ⟨sh,br,.string quote [] .none⟩ := by
  have before := scanCode goal code plain
  rw [endAppend]
  generalize (scan goal k s).2 = k' at before ⊢
  obtain ⟨sh,br,mode⟩ := k'
  cases before
  refine ⟨sh,br,?_⟩
  rcases quotes with rfl | rfl <;> rfl

theorem scanComment {k : Context} (within : k.mode = .lineComment) {s : Text}
    (line : ∀ c ∈ s, isLineTerminator c = false) : scan goal k s = ([],k) := by
  induction s with
  | nil => rfl
  | cons c s ih =>
    obtain ⟨first,later⟩ := List.forall_mem_cons.mp line
    have stays : step goal k c = ([],k) := by
      rw [step,within]
      refine (if_neg (by rw [first]; exact Bool.false_ne_true)).trans ?_
      change (([],{k with mode := .lineComment}) : List Element × Context) = ([],k)
      rw [← within]
    rw [scan,stays,ih later]
    rfl

theorem lexFailed {k : Context} (failed : k.mode = .failed) (s : Text) : lexFrom goal k s = [] := by
  induction s with
  | nil =>
    rw [lexFrom,scan,Context.finish,failed]
    rfl
  | cons c rest ih =>
    have stays : step goal k c = ([],k) := by
      rw [step,failed]
      change (([],{k with mode := .failed}) : List Element × Context) = ([],k)
      rw [← failed]
    rw [lexCons,stays,ih]
    rfl

theorem lexString (sh : List Element) (br : List Nat) (quote : Char) (value : Units) (escape : Escape) (c : Char)
    (rest : Text) : lexFrom goal ⟨sh,br,.string quote value escape⟩ (c::rest) =
      match read quote value escape c with
      | .more value' escape' => lexFrom goal ⟨sh,br,.string quote value' escape'⟩ rest
      | .closed value' => .string value'::lexFrom goal ⟨.string []::sh,br,.code⟩ rest
      | .broken => [.error] := by
  rw [lexCons]
  change (stringStep ⟨sh,br,.string quote value escape⟩ quote value escape c).1 ++
    lexFrom goal (stringStep ⟨sh,br,.string quote value escape⟩ quote value escape c).2 rest = _
  rw [stringStep]
  cases read quote value escape c with
  | more value' escape' => rfl
  | closed value' => rfl
  | broken => exact congrArg (Element.error::·) (lexFailed goal rfl rest)

section Within
variable (sh : List Element) (br : List Nat) {quote : Char} {value value' : Units} {escape escape' : Escape}

theorem lexText {s : Text} (t : Text) (more : readText quote value escape s = .more value' escape') :
    lexFrom goal ⟨sh,br,.string quote value escape⟩ (s ++ t) = lexFrom goal ⟨sh,br,.string quote value' escape'⟩ t := by
  induction s generalizing value escape with
  | nil =>
    cases more
    rfl
  | cons c rest ih =>
    rw [List.cons_append,lexString]
    rw [readText] at more
    cases one : read quote value escape c with
    | more v e =>
      rw [one] at more
      exact ih more
    | closed v =>
      rw [one] at more
      cases more
    | broken =>
      rw [one] at more
      cases more

theorem lexQuote (rest : Text) : lexFrom goal ⟨sh,br,.string quote value .none⟩ (quote::rest) =
    .string value::lexFrom goal ⟨.string []::sh,br,.code⟩ rest := by
  rw [lexString,read,readPlain,if_pos rfl]

theorem lexReads {t : Text} {rest : List Element}
    (out : lexFrom goal ⟨sh,br,.string quote value escape⟩ t = .string value'::rest) :
    ∃ a c b v e, t = a ++ c::b ∧ readText quote value escape a = .more v e ∧ read quote v e c = .closed value' := by
  induction t generalizing value escape with
  | nil => cases out
  | cons c t ih =>
    rw [lexString] at out
    cases one : read quote value escape c with
    | more v e =>
      rw [one] at out
      obtain ⟨a,c',b,v',e',rfl,first,last⟩ := ih out
      exact ⟨c::a,c',b,v',e',rfl,by rw [readText,one]; exact first,last⟩
    | closed v =>
      rw [one] at out
      cases out
      exact ⟨[],c,t,value,escape,rfl,rfl,one⟩
    | broken =>
      rw [one] at out
      cases out

theorem lexWritten {write : Char → Text} {s : Text}
    (each : ∀ c ∈ s, ∀ value, readText quote value .none (write c) = .more (value ++ utf16 c) .none) (rest : Text) :
    lexFrom goal ⟨sh,br,.string quote [] .none⟩ (s.flatMap write ++ quote::rest) =
      .string (unitsOf s)::lexFrom goal ⟨.string []::sh,br,.code⟩ rest := by
  rw [lexText goal sh br _ (readEach each),List.nil_append,lexQuote]

theorem lexBroken {write : Char → Text} {s : Text}
    (each : ∀ c ∈ s, ∀ value, readText quote value .none (write c) = .more (value ++ utf16 c) .none) {c : Char}
    (other : c ≠ quote) (breaks : c = '\n' ∨ c = '\r') (rest : Text) :
    lexFrom goal ⟨sh,br,.string quote [] .none⟩ (s.flatMap write ++ c::rest) = [.error] := by
  have plain : c ≠ '\\' := by rcases breaks with rfl | rfl <;> decide
  rw [lexText goal sh br _ (readEach each),lexString,read,readPlain,if_neg other,if_neg plain,if_pos breaks]

theorem lexSolid {s : Text} {c : Char} (solid : Solid quote c) {t : Text} {rest : List Element}
    (out : lexFrom goal ⟨sh,br,.string quote value escape⟩ ((s ++ [c]) ++ quote::t) = .string value'::rest) :
    readText quote value escape (s ++ [c]) = .more value' .none ∨
      ∃ a b v e, s = a ++ quote::b ∧ readText quote value escape a = .more v e ∧ read quote v e quote = .closed value' := by
  obtain ⟨a,d,b,v,e,parts,before,closes⟩ := lexReads goal sh br out
  obtain rfl : d = quote := (readClosed closes).1
  have closed (v : Units) : read d v .none d = .closed v := if_pos rfl
  rcases List.append_eq_append_iff.mp parts with ⟨more,rfl,after⟩ | ⟨more,whole,after⟩
  · obtain ⟨v',e',first,later⟩ := readSplit before
    obtain ⟨rfl,-⟩ := textSolid solid first
    cases more with
    | nil =>
      cases later
      cases (closed v).symm.trans closes
      exact .inl first
    | cons x more =>
      obtain ⟨rfl,-⟩ := List.cons.inj after
      rw [readText,closed] at later
      cases later
  · cases more with
    | nil =>
      rw [List.append_nil] at whole
      subst whole
      obtain ⟨rfl,-⟩ := textSolid solid before
      cases (closed v).symm.trans closes
      exact .inl before
    | cons x more =>
      obtain ⟨rfl,-⟩ := List.cons.inj after
      refine .inr ⟨a,more.dropLast,v,e,?_,before,closes⟩
      have last := congrArg List.dropLast whole
      rw [List.dropLast_concat,List.dropLast_append_cons] at last
      rw [last]
      cases more with
      | nil =>
        obtain ⟨-,same⟩ := List.append_inj' whole rfl
        exact absurd (List.cons.inj same).1 solid.plain.1
      | cons y more => rfl

theorem lexComment {k : Context} (within : k.mode = .lineComment) {s : Text}
    (line : ∀ c ∈ s, isLineTerminator c = false) (rest : Text) : lexFrom goal k (s ++ rest) = lexFrom goal k rest := by
  rw [lexAppend,scanComment goal within line]
  rfl

theorem stepLine {k : Context} (within : k.mode = .lineComment) {c : Char} (ends : isLineTerminator c = true) :
    step goal k c = ([.code c],⟨.code c::k.shapes,k.braces,.code⟩) := by
  rw [step,within]
  exact if_pos ends

theorem lexLine {k : Context} (within : k.mode = .lineComment) {c : Char} (ends : isLineTerminator c = true)
    (rest : Text) : lexFrom goal k (c::rest) = .code c::lexFrom goal ⟨.code c::k.shapes,k.braces,.code⟩ rest := by
  rw [lexCons,stepLine goal within ends]
  rfl

end Within

end Lex

end Vscreen.JavaScript
