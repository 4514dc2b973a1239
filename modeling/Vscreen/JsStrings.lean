import Vscreen.Json

/-! The strings of JavaScript that is not strict, character by character: what an escape
stands for, where a string ends, and how long its value is. -/
namespace Vscreen.JavaScript
open Json (Units utf16 unitsOf)

inductive Escape where
  | none
  | start
  | hex (left value : Nat)
  | unicode
  | braced (some : Bool) (value : Nat)
  | octal (left value : Nat)
  | carriage
  deriving DecidableEq, Repr

def isLineTerminator (c : Char) : Bool := c = '\n' || c = '\r' || c = '\u2028' || c = '\u2029'

def digit (c : Char) : Option Nat :=
  if '0' ≤ c ∧ c ≤ '9' then some (c.toNat - 48)
  else if 'a' ≤ c ∧ c ≤ 'f' then some (c.toNat - 87)
  else if 'A' ≤ c ∧ c ≤ 'F' then some (c.toNat - 55)
  else none

def codeUnits (n : Nat) : Units :=
  if n < 0x10000 then [n] else [0xD800 + (n - 0x10000) / 0x400,0xDC00 + (n - 0x10000) % 0x400]

inductive Reading where
  | more (value : Units) (escape : Escape)
  | closed (value : Units)
  | broken
  deriving DecidableEq, Repr

def readPlain (quote : Char) (value : Units) (c : Char) : Reading :=
  if c = quote then .closed value
  else if c = '\\' then .more value .start
  else if c = '\n' ∨ c = '\r' then .broken
  else .more (value ++ utf16 c) .none

def singleEscapes : List (Char × Nat) := [('n',10),('t',9),('b',8),('v',11),('f',12),('r',13)]

def readEscaped (value : Units) (c : Char) : Reading :=
  match singleEscapes.lookup c with
  | some unit => .more (value ++ [unit]) .none
  | none =>
    if c = 'x' then .more value (.hex 2 0)
    else if c = 'u' then .more value .unicode
    else if '0' ≤ c ∧ c ≤ '3' then .more value (.octal 2 (c.toNat - 48))
    else if '4' ≤ c ∧ c ≤ '7' then .more value (.octal 1 (c.toNat - 48))
    else if c = '\r' then .more value .carriage
    else if isLineTerminator c then .more value .none
    else .more (value ++ utf16 c) .none

def readHex (value : Units) (left n : Nat) (c : Char) : Reading := match digit c with
  | none => .broken
  | some d => if left ≤ 1 then .more (value ++ [n * 16 + d]) .none else .more value (.hex (left - 1) (n * 16 + d))

def readBraced (value : Units) (some' : Bool) (n : Nat) (c : Char) : Reading :=
  if c = '\x7d' then if some' then .more (value ++ codeUnits n) .none else .broken
  else match digit c with
    | none => .broken
    | some d => if n * 16 + d < 0x110000 then .more value (.braced true (n * 16 + d)) else .broken

def read (quote : Char) (value : Units) (escape : Escape) (c : Char) : Reading := match escape with
  | .none => readPlain quote value c
  | .start => readEscaped value c
  | .hex left n => readHex value left n c
  | .unicode => if c = '\x7b' then .more value (.braced false 0) else readHex value 4 0 c
  | .braced some' n => readBraced value some' n c
  | .octal left n =>
    if '0' ≤ c ∧ c ≤ '7' then
      let n' := n * 8 + (c.toNat - 48)
      if left ≤ 1 then .more (value ++ [n']) .none else .more value (.octal (left - 1) n')
    else readPlain quote (value ++ [n]) c
  | .carriage => if c = '\n' then .more value .none else readPlain quote value c

def readText (quote : Char) : Units → Escape → Text → Reading
  | value,escape,[] => .more value escape
  | value,escape,c::rest => match read quote value escape c with
    | .more value' escape' => readText quote value' escape' rest
    | ending => ending

section Strings
variable {quote : Char} {value value' : Units} {escape escape' : Escape}

theorem unitsCons (c : Char) (rest : Text) : unitsOf (c::rest) = utf16 c ++ unitsOf rest := rfl

theorem unitsAppend (s t : Text) : unitsOf (s ++ t) = unitsOf s ++ unitsOf t := List.flatMap_append

theorem unitMember {c : Char} (low : c.toNat < 0xD800) {s : Text} : c.toNat ∈ unitsOf s ↔ c ∈ s := by
  constructor
  · intro member
    obtain ⟨d,within,unit⟩ := List.mem_flatMap.mp member
    simp only [utf16] at unit
    split at unit
    · rw [List.mem_singleton] at unit
      rwa [Char.toNat_inj.mp unit]
    · simp only [List.mem_cons,List.not_mem_nil,or_false] at unit
      omega
  · intro member
    refine List.mem_flatMap.mpr ⟨c,member,?_⟩
    simp only [utf16]
    rw [if_pos (by omega)]
    exact List.mem_singleton_self _

theorem readAppend {s : Text} (t : Text) (first : readText quote value escape s = .more value' escape') :
    readText quote value escape (s ++ t) = readText quote value' escape' t := by
  induction s generalizing value escape with
  | nil =>
    cases first
    rfl
  | cons c rest ih =>
    rw [List.cons_append,readText]
    rw [readText] at first
    cases one : read quote value escape c with
    | more v e =>
      rw [one] at first
      exact ih first
    | closed v =>
      rw [one] at first
      cases first
    | broken =>
      rw [one] at first
      cases first

theorem readSplit {s t : Text} {last : Units} {final : Escape}
    (whole : readText quote value escape (s ++ t) = .more last final) : ∃ value' escape',
    readText quote value escape s = .more value' escape' ∧ readText quote value' escape' t = .more last final := by
  induction s generalizing value escape with
  | nil => exact ⟨value,escape,rfl,whole⟩
  | cons c rest ih =>
    rw [List.cons_append,readText] at whole
    rw [readText]
    cases one : read quote value escape c with
    | more v e =>
      rw [one] at whole
      exact ih whole
    | closed v =>
      rw [one] at whole
      cases whole
    | broken =>
      rw [one] at whole
      cases whole

def Plain (quote c : Char) : Prop := c ≠ quote ∧ c ≠ '\\' ∧ c ≠ '\n' ∧ c ≠ '\r'

theorem readPlainChar {c : Char} (plain : Plain quote c) : read quote value .none c = .more (value ++ utf16 c) .none := by
  obtain ⟨open',escapes,feed,carriage⟩ := plain
  rw [read,readPlain,if_neg open',if_neg escapes,if_neg (not_or.mpr ⟨feed,carriage⟩)]

theorem readEach {write : Char → Text} {s : Text}
    (each : ∀ c ∈ s, ∀ value, readText quote value .none (write c) = .more (value ++ utf16 c) .none) :
    readText quote value .none (s.flatMap write) = .more (value ++ unitsOf s) .none := by
  induction s generalizing value with
  | nil => exact congrArg (Reading.more · .none) (List.append_nil value).symm
  | cons c rest ih =>
    obtain ⟨first,later⟩ := List.forall_mem_cons.mp each
    rw [List.flatMap_cons,readAppend _ (first value),ih later,unitsCons,List.append_assoc]

theorem readPlainText {s : Text} (plain : ∀ c ∈ s, Plain quote c) :
    readText quote value .none s = .more (value ++ unitsOf s) .none := by
  have each : readText quote value .none (s.flatMap fun c => [c]) = .more (value ++ unitsOf s) .none := by
    refine readEach fun c member value => ?_
    simp only [readText,readPlainChar (plain c member)]
  rwa [List.flatMap_singleton'] at each

end Strings

def Escape.floor : Escape → Nat
  | .none => 0
  | .start => 0
  | .hex _ _ => 1
  | .unicode => 1
  | .braced _ _ => 2
  | .octal _ _ => 1
  | .carriage => 0

theorem unitsOne (c : Char) : 1 ≤ (utf16 c).length := by
  simp only [utf16]
  split <;> simp

theorem codeUnitsLength (n : Nat) : (codeUnits n).length ≤ 2 := by
  unfold codeUnits
  split <;> simp

section Lengths
variable {quote : Char} {value value' : Units} {escape escape' : Escape} {c : Char}

theorem plainLength (more : readPlain quote value c = .more value' escape') :
    value'.length + escape'.floor ≤ value.length + (utf16 c).length := by
  unfold readPlain at more
  split at more
  · cases more
  · split at more
    · cases more
      exact Nat.add_le_add_left (Nat.zero_le _) _
    · split at more
      · cases more
      · cases more
        rw [List.length_append]
        exact Nat.le_refl _

theorem escapedLength (more : readEscaped value c = .more value' escape') :
    value'.length + escape'.floor ≤ value.length + (utf16 c).length := by
  have one := unitsOne c
  unfold readEscaped at more
  split at more
  · cases more
    rw [List.length_append]
    exact Nat.add_le_add_left one _
  · split_ifs at more <;> cases more <;> simp only [Escape.floor,List.length_append] <;> omega

theorem hexLength {left n : Nat} (more : readHex value left n c = .more value' escape') :
    value'.length + escape'.floor ≤ value.length + 1 + (utf16 c).length := by
  unfold readHex at more
  split at more
  · cases more
  · split at more
    · cases more
      simp only [Escape.floor,List.length_append,List.length_singleton]
      omega
    · cases more
      simp only [Escape.floor]
      omega

theorem bracedLength {some' : Bool} {n : Nat} (more : readBraced value some' n c = .more value' escape') :
    value'.length + escape'.floor ≤ value.length + 2 + (utf16 c).length := by
  have two := codeUnitsLength n
  unfold readBraced at more
  split at more
  · split at more
    · cases more
      simp only [Escape.floor,List.length_append]
      omega
    · cases more
  · split at more
    · cases more
    · split at more
      · cases more
        simp only [Escape.floor]
        omega
      · cases more

theorem readLength (more : read quote value escape c = .more value' escape') :
    value'.length + escape'.floor ≤ value.length + escape.floor + (utf16 c).length := by
  have one := unitsOne c
  cases escape with
  | none => exact plainLength more
  | start => exact escapedLength more
  | hex left n => exact hexLength more
  | unicode =>
    rw [read] at more
    split at more
    · cases more
      simp only [Escape.floor]
      omega
    · exact hexLength more
  | braced some' n => exact bracedLength more
  | octal left n =>
    rw [read] at more
    split at more
    · split at more <;> cases more <;> simp only [Escape.floor,List.length_append,List.length_singleton] <;> omega
    · have plain := plainLength more
      rw [List.length_append] at plain
      exact plain
  | carriage =>
    rw [read] at more
    split at more
    · cases more
      exact Nat.le_add_right _ _
    · exact plainLength more

theorem plainClosed (closed : readPlain quote value c = .closed value') : c = quote ∧ value' = value := by
  unfold readPlain at closed
  split at closed
  · rename_i same
    cases closed
    exact ⟨same,rfl⟩
  · split_ifs at closed

theorem escapedOpen : readEscaped value c ≠ .closed value' := by
  intro closed
  unfold readEscaped at closed
  split at closed
  · cases closed
  · split_ifs at closed

theorem hexOpen {left n : Nat} : readHex value left n c ≠ .closed value' := by
  intro closed
  unfold readHex at closed
  split at closed
  · cases closed
  · split at closed <;> cases closed

theorem bracedOpen {some' : Bool} {n : Nat} : readBraced value some' n c ≠ .closed value' := by
  intro closed
  unfold readBraced at closed
  split at closed
  · split at closed <;> cases closed
  · split at closed
    · cases closed
    · split at closed <;> cases closed

theorem readClosed (closed : read quote value escape c = .closed value') :
    c = quote ∧ value'.length ≤ value.length + escape.floor := by
  cases escape with
  | none =>
    obtain ⟨same,rfl⟩ := plainClosed closed
    exact ⟨same,Nat.le_refl _⟩
  | start => exact absurd closed escapedOpen
  | hex left n => exact absurd closed hexOpen
  | unicode =>
    rw [read] at closed
    split at closed
    · cases closed
    · exact absurd closed hexOpen
  | braced some' n => exact absurd closed bracedOpen
  | octal left n =>
    rw [read] at closed
    split at closed
    · split at closed <;> cases closed
    · obtain ⟨same,rfl⟩ := plainClosed closed
      rw [List.length_append]
      exact ⟨same,Nat.le_refl _⟩
  | carriage =>
    rw [read] at closed
    split at closed
    · cases closed
    · obtain ⟨same,rfl⟩ := plainClosed closed
      exact ⟨same,Nat.le_refl _⟩

theorem textLength {s : Text} (more : readText quote value escape s = .more value' escape') :
    value'.length + escape'.floor ≤ value.length + escape.floor + (unitsOf s).length := by
  induction s generalizing value escape with
  | nil =>
    cases more
    exact Nat.le_refl _
  | cons c rest ih =>
    rw [readText] at more
    cases one : read quote value escape c with
    | more v e =>
      rw [one] at more
      have first := readLength one
      have later := ih more
      rw [unitsCons,List.length_append]
      omega
    | closed v =>
      rw [one] at more
      cases more
    | broken =>
      rw [one] at more
      cases more

theorem readUnescaped (more : read quote value .none c = .more value' escape') (plain : c ≠ '\\') :
    Plain quote c ∧ value' = value ++ utf16 c ∧ escape' = .none := by
  rw [read,readPlain] at more
  split at more
  · cases more
  · rename_i other
    split at more
    · cases more
    · rename_i unbroken
      cases more
      exact ⟨⟨other,plain,fun feed => unbroken (.inl feed),fun carriage => unbroken (.inr carriage)⟩,rfl,rfl⟩

theorem textUnescaped {s : Text} (more : readText quote value .none s = .more value' escape') (plain : '\\' ∉ s) :
    (∀ c ∈ s, Plain quote c) ∧ value' = value ++ unitsOf s ∧ escape' = .none := by
  induction s generalizing value with
  | nil =>
    cases more
    exact ⟨(fun c absent => nomatch absent),(List.append_nil _).symm,rfl⟩
  | cons c rest ih =>
    have later : '\\' ∉ rest := fun member => plain (List.mem_cons_of_mem _ member)
    have other : c ≠ '\\' := by
      rintro rfl
      exact plain List.mem_cons_self
    rw [readText] at more
    cases one : read quote value .none c with
    | more v e =>
      rw [one] at more
      obtain ⟨first,rfl,rfl⟩ := readUnescaped one other
      obtain ⟨all,rfl,rfl⟩ := ih more later
      exact ⟨List.forall_mem_cons.mpr ⟨first,all⟩,List.append_assoc _ _ _,rfl⟩
    | closed v =>
      rw [one] at more
      cases more
    | broken =>
      rw [one] at more
      cases more

theorem backslashLength {s : Text} (escaped : '\\' ∈ s) (more : readText quote value .none s = .more value' escape') :
    value'.length + escape'.floor < value.length + (unitsOf s).length := by
  induction s generalizing value with
  | nil => cases escaped
  | cons c rest ih =>
    rw [readText] at more
    have one := unitsOne c
    rw [unitsCons,List.length_append]
    cases first : read quote value .none c with
    | more v e =>
      rw [first] at more
      by_cases backslash : c = '\\'
      · have later := textLength more
        subst backslash
        rw [read,readPlain] at first
        split at first
        · cases first
        · cases first
          rw [Escape.floor] at later
          omega
      · obtain ⟨-,rfl,rfl⟩ := readUnescaped first backslash
        have later := ih ((List.mem_cons.mp escaped).resolve_left (Ne.symm backslash)) more
        rw [List.length_append] at later
        omega
    | closed v =>
      rw [first] at more
      cases more
    | broken =>
      rw [first] at more
      cases more

structure Solid (quote c : Char) : Prop where
  plain : Plain quote c
  digit : digit c = none
  brace : c ≠ '\x7b' ∧ c ≠ '\x7d'
  escaped : ∀ value, readEscaped value c = .more (value ++ utf16 c) .none

theorem plainExtends (more : readPlain quote value c = .more value' escape') : value <+: value' := by
  unfold readPlain at more
  split_ifs at more <;> cases more
  · exact List.prefix_refl _
  · exact List.prefix_append _ _

theorem hexExtends {left n : Nat} (more : readHex value left n c = .more value' escape') : value <+: value' := by
  unfold readHex at more
  split at more
  · cases more
  · split at more <;> cases more
    · exact List.prefix_append _ _
    · exact List.prefix_refl _

theorem readExtends (more : read quote value escape c = .more value' escape') : value <+: value' := by
  cases escape with
  | none => exact plainExtends more
  | start =>
    rw [read,readEscaped] at more
    split at more
    · cases more
      exact List.prefix_append _ _
    · split_ifs at more <;> cases more <;> first | exact List.prefix_refl _ | exact List.prefix_append _ _
  | hex left n => exact hexExtends more
  | unicode =>
    rw [read] at more
    split at more
    · cases more
      exact List.prefix_refl _
    · exact hexExtends more
  | braced some' n =>
    rw [read,readBraced] at more
    split_ifs at more
    · cases more
      exact List.prefix_append _ _
    · split at more
      · cases more
      · split at more <;> cases more
        exact List.prefix_refl _
  | octal left n =>
    rw [read] at more
    split at more
    · split at more <;> cases more
      · exact List.prefix_append _ _
      · exact List.prefix_refl _
    · exact (List.prefix_append _ _).trans (plainExtends more)
  | carriage =>
    rw [read] at more
    split at more
    · cases more
      exact List.prefix_refl _
    · exact plainExtends more

theorem textExtends {s : Text} (more : readText quote value escape s = .more value' escape') : value <+: value' := by
  induction s generalizing value escape with
  | nil =>
    cases more
    exact List.prefix_refl _
  | cons c rest ih =>
    rw [readText] at more
    cases one : read quote value escape c with
    | more v e =>
      rw [one] at more
      exact (readExtends one).trans (ih more)
    | closed v =>
      rw [one] at more
      cases more
    | broken =>
      rw [one] at more
      cases more

theorem readSolid (solid : Solid quote c) (more : read quote value escape c = .more value' escape') :
    escape' = .none ∧ ∃ pending, value' = value ++ pending ++ utf16 c := by
  have plain (v : Units) : readPlain quote v c = .more (v ++ utf16 c) .none := readPlainChar solid.plain
  have hex (left n : Nat) : readHex value left n c = .broken := by rw [readHex,solid.digit]
  cases escape with
  | none =>
    cases (plain value).symm.trans more
    exact ⟨rfl,[],by rw [List.append_nil]⟩
  | start =>
    cases (solid.escaped value).symm.trans more
    exact ⟨rfl,[],by rw [List.append_nil]⟩
  | hex left n => cases (hex left n).symm.trans more
  | unicode =>
    rw [read,if_neg solid.brace.1,hex] at more
    cases more
  | braced some' n =>
    rw [read,readBraced,if_neg solid.brace.2,solid.digit] at more
    cases more
  | octal left n =>
    have other : ¬ ('0' ≤ c ∧ c ≤ '7') := by
      intro octal
      have decimal : '0' ≤ c ∧ c ≤ '9' := ⟨octal.1,Char.le_trans octal.2 (by decide)⟩
      have none := solid.digit
      unfold digit at none
      rw [if_pos decimal] at none
      cases none
    rw [read,if_neg other,plain] at more
    cases more
    exact ⟨rfl,[n],rfl⟩
  | carriage =>
    rw [read,if_neg solid.plain.2.2.1,plain] at more
    cases more
    exact ⟨rfl,[],by rw [List.append_nil]⟩

theorem textSolid (solid : Solid quote c) {s : Text} (more : readText quote value escape (s ++ [c]) = .more value' escape') :
    escape' = .none ∧ ∃ before, value <+: before ∧ value' = before ++ utf16 c := by
  obtain ⟨v,e,first,later⟩ := readSplit more
  rw [readText] at later
  cases one : read quote v e c with
  | more v' e' =>
    obtain ⟨rfl,pending,rfl⟩ := readSolid solid one
    rw [one] at later
    cases later
    exact ⟨rfl,v ++ pending,(textExtends first).trans (List.prefix_append _ _),rfl⟩
  | closed v' =>
    rw [one] at later
    cases later
  | broken =>
    rw [one] at later
    cases later

end Lengths

end Vscreen.JavaScript
