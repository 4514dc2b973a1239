import Vscreen.Text

/-! JSON texts. A lexer reads the text character by character into tokens, the
tokens of a value are its grammar, and a reader of tokens inverts it. A line feed
always stands between two tokens, so that no line of a broken value is a value. -/
namespace Vscreen.Json

abbrev Units := List Nat

inductive Scalar where
  | null
  | bool (b : Bool)
  | number (literal : Text)
  | string (units : Units)
  deriving DecidableEq, Repr

inductive Token where
  | scalar (s : Scalar)
  | openArray
  | closeArray
  | openObject
  | closeObject
  | comma
  | colon
  deriving DecidableEq, Repr

mutual

inductive Value where
  | scalar (s : Scalar)
  | array (items : Items)
  | object (members : Members)

inductive Items where
  | nil
  | cons (v : Value) (rest : Items)

inductive Members where
  | nil
  | cons (key : Units) (v : Value) (rest : Members)

end

section Lexer

def isSpace (c : Char) : Bool := c = ' ' || c = '\t' || c = '\n' || c = '\r'

def punctuation (c : Char) : Option Token := match c with
  | '[' => some .openArray
  | ']' => some .closeArray
  | '{' => some .openObject
  | '}' => some .closeObject
  | ',' => some .comma
  | ':' => some .colon
  | _ => none

def isDigit (c : Char) : Bool := '0' ≤ c && c ≤ '9'

def exponent : Text → Bool
  | [] => true
  | c::rest => (c = 'e' || c = 'E') && match rest with
    | [] => false
    | d::digits => if d = '+' || d = '-' then !digits.isEmpty && digits.all isDigit else (d::digits).all isDigit

def fraction : Text → Bool
  | [] => true
  | c::rest => if c = '.' then !(rest.takeWhile isDigit).isEmpty && exponent (rest.dropWhile isDigit)
    else exponent (c::rest)

def unsigned : Text → Bool
  | [] => false
  | c::rest => if c = '0' then fraction rest else isDigit c && fraction (rest.dropWhile isDigit)

def isNumber : Text → Bool
  | [] => false
  | c::rest => if c = '-' then unsigned rest else unsigned (c::rest)

def classify (atom : Text) : Option Scalar :=
  if atom = "null".toList then some .null
  else if atom = "true".toList then some (.bool true)
  else if atom = "false".toList then some (.bool false)
  else if isNumber atom then some (.number atom)
  else none

def utf16 (c : Char) : Units :=
  let n := c.toNat
  if n < 0x10000 then [n] else [0xD800 + (n - 0x10000) / 0x400,0xDC00 + (n - 0x10000) % 0x400]

def unitsOf (s : Text) : Units := s.flatMap utf16

def escaped (c : Char) : Option Nat := match c with
  | '"' => some 0x22
  | '\\' => some 0x5C
  | '/' => some 0x2F
  | 'b' => some 0x08
  | 'f' => some 0x0C
  | 'n' => some 0x0A
  | 'r' => some 0x0D
  | 't' => some 0x09
  | _ => none

def hexValue (c : Char) : Option Nat :=
  if isDigit c then some (c.toNat - 0x30)
  else if 'a' ≤ c ∧ c ≤ 'f' then some (c.toNat - 0x57)
  else if 'A' ≤ c ∧ c ≤ 'F' then some (c.toNat - 0x37)
  else none

inductive Mode where
  | between
  | atom (read : Text)
  | string (units : Units)
  | escape (units : Units)
  | hex (units : Units) (digits value : Nat)
  deriving DecidableEq, Repr

def flush : Mode → Option (List Token)
  | .between => some []
  | .atom read => (classify read).map fun s => [.scalar s]
  | _ => none

def feedBetween (c : Char) : List Token × Mode :=
  if isSpace c then ([],.between)
  else match punctuation c with
    | some t => ([t],.between)
    | none => if c = '"' then ([],.string []) else ([],.atom [c])

def endsAtom (c : Char) : Bool := isSpace c || (punctuation c).isSome || c = '"'

def feed (m : Mode) (c : Char) : Option (List Token × Mode) := match m with
  | .between => some (feedBetween c)
  | .atom read =>
    if endsAtom c then (flush m).map fun ended => (ended ++ (feedBetween c).1,(feedBetween c).2)
    else some ([],.atom (read ++ [c]))
  | .string units =>
    if c = '"' then some ([.scalar (.string units)],.between)
    else if c = '\\' then some ([],.escape units)
    else if c.toNat < 0x20 then none
    else some ([],.string (units ++ utf16 c))
  | .escape units =>
    if c = 'u' then some ([],.hex units 0 0)
    else (escaped c).map fun u => ([],.string (units ++ [u]))
  | .hex units digits value => (hexValue c).map fun d =>
    if digits = 3 then ([],.string (units ++ [16 * value + d]))
    else ([],.hex units (digits + 1) (16 * value + d))

def lexFrom (m : Mode) : Text → Option (List Token)
  | [] => flush m
  | c::rest => match feed m c with
    | none => none
    | some (ts,m') => (lexFrom m' rest).map (ts ++ ·)

def lex (s : Text) : Option (List Token) := lexFrom .between s

def scan (m : Mode) : Text → Option (List Token × Mode)
  | [] => some ([],m)
  | c::rest => match feed m c with
    | none => none
    | some (ts,m') => (scan m' rest).map fun r => (ts ++ r.1,r.2)

def Mode.inString : Mode → Bool
  | .between => false
  | .atom _ => false
  | _ => true

theorem feedOpen {m m' : Mode} {c : Char} (inside : m ≠ .between) (fed : feed m c = some ([],m')) : m' ≠ .between := by
  cases m with
  | between => exact absurd rfl inside
  | atom read =>
    simp only [feed,flush] at fed
    split at fed
    · cases classify read with
      | none => simp at fed
      | some s => simp at fed
    · cases fed; simp
  | string units =>
    simp only [feed] at fed
    split at fed
    · simp at fed
    · split at fed
      · cases fed; simp
      · split at fed
        · cases fed
        · cases fed; simp
  | escape units =>
    simp only [feed] at fed
    split at fed
    · cases fed; simp
    · obtain ⟨u,-,same⟩ := Option.map_eq_some_iff.mp fed
      cases same; simp
  | hex units digits value =>
    simp only [feed] at fed
    obtain ⟨d,-,same⟩ := Option.map_eq_some_iff.mp fed
    split at same <;> cases same <;> simp

theorem lexOpen {m : Mode} {s : Text} (inside : m ≠ .between) : lexFrom m s ≠ some [] := by
  induction s generalizing m with
  | nil =>
    cases m with
    | between => exact absurd rfl inside
    | atom read => simp [lexFrom,flush]
    | _ => simp [lexFrom,flush]
  | cons c s ih =>
    intro nothing
    simp only [lexFrom] at nothing
    cases fed : feed m c with
    | none => simp [fed] at nothing
    | some next =>
      obtain ⟨ts,m'⟩ := next
      simp only [fed] at nothing
      obtain ⟨more,rest,same⟩ := Option.map_eq_some_iff.mp nothing
      obtain ⟨rfl,rfl⟩ := List.append_eq_nil_iff.mp same
      exact ih (feedOpen inside fed) rest

theorem lexNothing {s : Text} (nothing : lex s = some []) : ∀ c ∈ s, isSpace c = true := by
  induction s with
  | nil => simp
  | cons c s ih =>
    simp only [lex,lexFrom,feed,feedBetween] at nothing
    split at nothing
    · rename_i space
      obtain ⟨more,rest,same⟩ := Option.map_eq_some_iff.mp nothing
      cases (show more = [] from same)
      exact List.forall_mem_cons.mpr ⟨space,ih rest⟩
    · split at nothing
      · obtain ⟨more,-,same⟩ := Option.map_eq_some_iff.mp nothing
        cases same
      · split at nothing
        · obtain ⟨more,rest,same⟩ := Option.map_eq_some_iff.mp nothing
          cases (show more = [] from same)
          exact (lexOpen (by simp) rest).elim
        · obtain ⟨more,rest,same⟩ := Option.map_eq_some_iff.mp nothing
          cases (show more = [] from same)
          exact (lexOpen (by simp) rest).elim

end Lexer

section Values

mutual

def Value.tokens : Value → List Token
  | .scalar s => [.scalar s]
  | .array .nil => [.openArray,.closeArray]
  | .array (.cons v rest) => .openArray::(v.tokens ++ rest.tokens)
  | .object .nil => [.openObject,.closeObject]
  | .object (.cons key v rest) => .openObject::.scalar (.string key)::.colon::(v.tokens ++ rest.tokens)

def Items.tokens : Items → List Token
  | .nil => [.closeArray]
  | .cons v rest => .comma::(v.tokens ++ rest.tokens)

def Members.tokens : Members → List Token
  | .nil => [.closeObject]
  | .cons key v rest => .comma::.scalar (.string key)::.colon::(v.tokens ++ rest.tokens)

end

mutual

def readValue : Nat → List Token → Option (Value × List Token)
  | 0,_ => none
  | fuel+1,t::ts => match t with
    | .scalar s => some (.scalar s,ts)
    | .openArray =>
      if ts.head? = some .closeArray then some (.array .nil,ts.tail)
      else match readValue fuel ts with
        | none => none
        | some (v,ts) => (readItems fuel ts).map fun r => (.array (.cons v r.1),r.2)
    | .openObject => match ts with
      | .closeObject::rest => some (.object .nil,rest)
      | .scalar (.string key)::.colon::ts => match readValue fuel ts with
        | none => none
        | some (v,ts) => (readMembers fuel ts).map fun r => (.object (.cons key v r.1),r.2)
      | _ => none
    | _ => none
  | _+1,[] => none

def readItems : Nat → List Token → Option (Items × List Token)
  | fuel+1,.comma::ts => match readValue fuel ts with
    | none => none
    | some (v,ts) => (readItems fuel ts).map fun r => (.cons v r.1,r.2)
  | _+1,.closeArray::ts => some (.nil,ts)
  | _,_ => none

def readMembers : Nat → List Token → Option (Members × List Token)
  | fuel+1,.comma::.scalar (.string key)::.colon::ts => match readValue fuel ts with
    | none => none
    | some (v,ts) => (readMembers fuel ts).map fun r => (.cons key v r.1,r.2)
  | _+1,.closeObject::ts => some (.nil,ts)
  | _,_ => none

end

theorem tokensStart (v : Value) : v.tokens.head? ≠ some .closeArray ∧ v.tokens ≠ [] := by
  cases v with
  | scalar s => simp [Value.tokens]
  | array items => cases items <;> simp [Value.tokens]
  | object members => cases members <;> simp [Value.tokens]

mutual

theorem readValueTokens (v : Value) (fuel : Nat) (rest : List Token) (enough : v.tokens.length ≤ fuel) :
    readValue fuel (v.tokens ++ rest) = some (v,rest) := by
  match v,fuel with
  | .scalar s,0 => simp [Value.tokens] at enough
  | .scalar s,fuel+1 => simp only [Value.tokens,List.cons_append,List.nil_append,readValue]
  | .array .nil,0 => simp [Value.tokens] at enough
  | .array .nil,fuel+1 => simp [Value.tokens,readValue]
  | .array (.cons v items),0 => simp [Value.tokens] at enough
  | .array (.cons v items),fuel+1 =>
    simp only [Value.tokens,List.length_cons,List.length_append] at enough
    have first := readValueTokens v fuel (items.tokens ++ rest) (by omega)
    have more := readItemsTokens items fuel rest (by omega)
    have started : (v.tokens ++ (items.tokens ++ rest)).head? ≠ some .closeArray := by
      rw [List.head?_append_of_ne_nil _ (tokensStart v).2]
      exact (tokensStart v).1
    simp only [Value.tokens,List.cons_append,List.append_assoc,readValue]
    rw [if_neg started,first]
    simp only [more,Option.map_some]
  | .object .nil,0 => simp [Value.tokens] at enough
  | .object .nil,fuel+1 => simp [Value.tokens,readValue]
  | .object (.cons key v members),0 => simp [Value.tokens] at enough
  | .object (.cons key v members),fuel+1 =>
    simp only [Value.tokens,List.length_cons,List.length_append] at enough
    have first := readValueTokens v fuel (members.tokens ++ rest) (by omega)
    have more := readMembersTokens members fuel rest (by omega)
    simp only [Value.tokens,List.cons_append,List.append_assoc,readValue,first,more,Option.map_some]

theorem readItemsTokens (items : Items) (fuel : Nat) (rest : List Token) (enough : items.tokens.length ≤ fuel) :
    readItems fuel (items.tokens ++ rest) = some (items,rest) := by
  match items,fuel with
  | .nil,0 => simp [Items.tokens] at enough
  | .nil,fuel+1 => simp only [Items.tokens,List.cons_append,List.nil_append,readItems]
  | .cons v items,0 => simp [Items.tokens] at enough
  | .cons v items,fuel+1 =>
    simp only [Items.tokens,List.length_cons,List.length_append] at enough
    have first := readValueTokens v fuel (items.tokens ++ rest) (by omega)
    have more := readItemsTokens items fuel rest (by omega)
    simp only [Items.tokens,List.cons_append,List.append_assoc,readItems,first,more,Option.map_some]

theorem readMembersTokens (members : Members) (fuel : Nat) (rest : List Token)
    (enough : members.tokens.length ≤ fuel) : readMembers fuel (members.tokens ++ rest) = some (members,rest) := by
  match members,fuel with
  | .nil,0 => simp [Members.tokens] at enough
  | .nil,fuel+1 => simp only [Members.tokens,List.cons_append,List.nil_append,readMembers]
  | .cons key v members,0 => simp [Members.tokens] at enough
  | .cons key v members,fuel+1 =>
    simp only [Members.tokens,List.length_cons,List.length_append] at enough
    have first := readValueTokens v fuel (members.tokens ++ rest) (by omega)
    have more := readMembersTokens members fuel rest (by omega)
    simp only [Members.tokens,List.cons_append,List.append_assoc,readMembers,first,more,Option.map_some]

end

mutual

theorem readValueSound (fuel : Nat) (ts rest : List Token) (v : Value) (ok : readValue fuel ts = some (v,rest)) :
    ts = v.tokens ++ rest := by
  match fuel,ts with
  | 0,_ => simp [readValue] at ok
  | fuel+1,[] => simp [readValue] at ok
  | fuel+1,t::ts =>
    simp only [readValue] at ok
    split at ok
    · cases ok; rfl
    · split at ok
      · rename_i closed
        cases ok
        obtain ⟨rest,rfl⟩ := List.head?_eq_some_iff.mp closed
        rfl
      · split at ok
        · cases ok
        · rename_i v ts' first
          obtain ⟨⟨items,left⟩,more,same⟩ := Option.map_eq_some_iff.mp ok
          cases same
          rw [readValueSound fuel ts ts' v first,readItemsSound fuel ts' left items more]
          simp [Value.tokens]
    · split at ok
      · cases ok; rfl
      · split at ok
        · cases ok
        · rename_i key ts _ v ts' first
          obtain ⟨⟨members,left⟩,more,same⟩ := Option.map_eq_some_iff.mp ok
          cases same
          rw [readValueSound fuel ts ts' v first,readMembersSound fuel ts' left members more]
          simp [Value.tokens]
      · cases ok
    · cases ok

theorem readItemsSound (fuel : Nat) (ts rest : List Token) (items : Items)
    (ok : readItems fuel ts = some (items,rest)) : ts = items.tokens ++ rest := by
  match fuel with
  | 0 => simp [readItems] at ok
  | fuel+1 =>
    unfold readItems at ok
    split at ok
    · rename_i fuel' ts same
      cases same
      split at ok
      · cases ok
      · rename_i v ts' first
        obtain ⟨⟨items,left⟩,more,same⟩ := Option.map_eq_some_iff.mp ok
        cases same
        rw [readValueSound fuel ts ts' v first,readItemsSound fuel ts' left items more]
        simp [Items.tokens]
    · cases ok; rfl
    · cases ok

theorem readMembersSound (fuel : Nat) (ts rest : List Token) (members : Members)
    (ok : readMembers fuel ts = some (members,rest)) : ts = members.tokens ++ rest := by
  match fuel with
  | 0 => simp [readMembers] at ok
  | fuel+1 =>
    unfold readMembers at ok
    split at ok
    · rename_i fuel' key ts same
      cases same
      split at ok
      · cases ok
      · rename_i v ts' first
        obtain ⟨⟨members,left⟩,more,same⟩ := Option.map_eq_some_iff.mp ok
        cases same
        rw [readValueSound fuel ts ts' v first,readMembersSound fuel ts' left members more]
        simp [Members.tokens]
    · cases ok; rfl
    · cases ok

end

def parse (s : Text) : Option Value := match lex s with
  | none => none
  | some ts => match readValue ts.length ts with
    | some (v,[]) => some v
    | _ => none

theorem parseIff {s : Text} {v : Value} : parse s = some v ↔ lex s = some v.tokens := by
  constructor
  · intro ok
    unfold parse at ok
    split at ok
    · cases ok
    · rename_i ts read
      split at ok
      · rename_i v' complete
        cases ok
        rw [read,readValueSound ts.length ts [] v complete,List.append_nil]
      · cases ok
  · intro read
    have back := readValueTokens v v.tokens.length [] (Nat.le_refl _)
    rw [List.append_nil] at back
    simp only [parse,read,back]

def Members.find (key : Units) : Members → Option Value
  | .nil => none
  | .cons k v rest => match rest.find key with
    | some later => some later
    | none => if k = key then some v else none

def Value.member (name : Text) : Value → Option Value
  | .object members => members.find (unitsOf name)
  | _ => none

def Value.scalarAt (name : Text) (v : Value) : Option Scalar := match v.member name with
  | some (.scalar s) => some s
  | _ => none

example : (parse "\x7b\"id\" : [1, \"\\u0061\"]\x7d".toList).isSome = true := by decide

end Values
end Vscreen.Json
