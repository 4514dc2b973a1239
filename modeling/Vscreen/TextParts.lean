import Vscreen.CaseMapping

/-! Texts put together from parts: searching the pieces between separators, words
that stand inside one part, and numerals with leading zeros. -/
namespace Vscreen.Text

section Lower

theorem lowerChar (c : Char) : c.toLower = c ∨ (c.toNat < 128 ∧ c.toLower.toNat < 128) := by
  by_cases small : c.toNat < 128
  · exact .inr ⟨small,forallAscii (p := fun c => c.toLower.toNat < 128) (by decide) c small⟩
  · refine .inl ?_
    unfold Char.toLower
    rw [dif_neg]
    rintro ⟨-,upper⟩
    have upper : c.toNat ≤ 90 := upper
    omega

theorem lowerKeeps {p : Char → Char → Prop} (ascii : ∀ i : Fin 128, p (Char.ofNat i) (Char.ofNat i).toLower)
    (same : ∀ c, p c c) (c : Char) : p c c.toLower := by
  rcases lowerChar c with fixed | ⟨small,-⟩
  · rw [fixed]
    exact same c
  · exact forallAscii (p := fun c => p c c.toLower) ascii c small

theorem lowerSpace (c : Char) : isWhitespace c.toLower = isWhitespace c :=
  lowerKeeps (p := fun c d => isWhitespace d = isWhitespace c) (by decide) (fun _ => rfl) c

def lowered (s : Text) : Text := s.map Char.toLower

@[simp] theorem loweredAppend (s t : Text) : lowered (s ++ t) = lowered s ++ lowered t := List.map_append

@[simp] theorem loweredCons (c : Char) (s : Text) : lowered (c::s) = c.toLower::lowered s := rfl

theorem loweredAscii {u : CaseMapping} {s : Text} (ascii : ∀ c ∈ s, c.toNat < 128) : u.toLowercase s = lowered s :=
  (u.lowered s).ascii ascii

theorem trimStartLowered (s : Text) : trimStart (lowered s) = lowered (trimStart s) := by
  induction s with
  | nil => rfl
  | cons c s ih =>
    rw [loweredCons,trimStart,trimStart,List.dropWhile_cons,List.dropWhile_cons,lowerSpace]
    split
    · exact ih
    · rfl

theorem trimLowered (s : Text) : trim (lowered s) = lowered (trim s) := by
  have ends : trimEnd (lowered s) = lowered (trimEnd s) := by
    have start := trimStartLowered s.reverse
    rw [trimStart,trimStart,lowered,lowered,List.map_reverse] at start
    rw [trimEnd,trimEnd,List.rdropWhile,List.rdropWhile,lowered,start,← List.map_reverse]
    rfl
  rw [trim,trim,ends,trimStartLowered]

theorem splitLowered {sep : Char} (fixed : ∀ c : Char, c.toLower = sep ↔ c = sep) (s : Text) :
    split sep (lowered s) = (split sep s).map lowered := by
  induction s with
  | nil => rfl
  | cons c s ih =>
    rw [loweredCons,split,split,List.splitOn_cons_eq_if_modifyHead,List.splitOn_cons_eq_if_modifyHead,
      show (lowered s).splitOn sep = (s.splitOn sep).map lowered from ih]
    by_cases here : c = sep
    · simp [here,(fixed sep).mpr rfl,lowered]
    · have other : c.toLower ≠ sep := fun same => here ((fixed c).mp same)
      simp only [beq_iff_eq,other,here,if_false]
      cases s.splitOn sep <;> rfl

end Lower

section Pieces
variable {sep : Char}

theorem splitPrepend {a y h : Text} {t : List Text} (absent : sep ∉ a) (parts : split sep y = h::t) :
    split sep (a ++ y) = (a ++ h)::t := by
  induction a with
  | nil => exact parts
  | cons c a ih =>
    rw [List.mem_cons,not_or] at absent
    have rest := ih absent.2
    rw [split] at rest
    rw [List.cons_append,split,List.splitOn_cons_eq_if_modifyHead,rest]
    simp [Ne.symm absent.1]

theorem splitCons (sep : Char) (s : Text) : ∃ h t, split sep s = h::t ∧ h <+: s := by
  refine ⟨s.takeWhile (· ≠ sep),?_⟩
  induction s with
  | nil => exact ⟨[],rfl,List.prefix_refl _⟩
  | cons c s ih =>
    obtain ⟨t,parts,-⟩ := ih
    rw [split] at parts
    rw [split,List.splitOn_cons_eq_if_modifyHead,parts]
    by_cases here : c = sep
    · exact ⟨_,by simp [here]; rfl,by simp [here]⟩
    · exact ⟨t,by simp [here],List.takeWhile_prefix _⟩

theorem memPiece {s piece : Text} {c : Char} (member : piece ∈ split sep s) (inside : c ∈ piece) : c ∈ s := by
  induction s generalizing piece with
  | nil =>
    rw [split,List.splitOn_nil,List.mem_singleton] at member
    rw [member] at inside
    exact inside
  | cons d s ih =>
    obtain ⟨h,t,parts,-⟩ := splitCons sep s
    have first := @ih h (by rw [parts]; exact List.mem_cons_self)
    rw [split] at parts
    rw [split,List.splitOn_cons_eq_if_modifyHead,parts] at member
    split at member
    · rcases List.mem_cons.mp member with rfl | later
      · cases inside
      · exact List.mem_cons_of_mem _ (ih (by rw [split,parts]; exact later) inside)
    · rcases List.mem_cons.mp member with rfl | later
      · rcases List.mem_cons.mp inside with rfl | within
        · exact List.mem_cons_self
        · exact List.mem_cons_of_mem _ (first within)
      · exact List.mem_cons_of_mem _ (ih (by rw [split,parts]; exact List.mem_cons_of_mem _ later) inside)

variable {found : Text → Bool}

theorem findSkip {x : Text} (y : Text) (absent : sep ∉ x) (other : found x = false) :
    (split sep (x ++ sep::y)).find? found = (split sep y).find? found := by
  rw [split,List.splitOn_append_cons_self_of_not_mem absent,List.find?_cons_of_neg (by simp [other])]
  rfl

theorem findSkipAll {x : Text} {pieces : List Text} (y : Text) (absent : sep ∉ x) (other : found x = false)
    (plain : ∀ p ∈ pieces, sep ∉ p ∧ found p = false) :
    (split sep (x ++ pieces.flatMap (sep::·) ++ sep::y)).find? found = (split sep y).find? found := by
  induction pieces generalizing x with
  | nil => rw [List.flatMap_nil,List.append_nil,findSkip y absent other]
  | cons p pieces ih =>
    obtain ⟨here,later⟩ := List.forall_mem_cons.mp plain
    rw [List.flatMap_cons,List.append_assoc,List.append_assoc,List.cons_append,findSkip _ absent other,
      ← List.append_assoc,ih here.1 here.2 later]

end Pieces

section Words
variable {sep : Char} {word a b : Text}

theorem prefixApart (absent : sep ∉ word) : word <+: a ++ sep::b ↔ word <+: a := by
  refine ⟨fun start => ?_,fun start => start.trans (List.prefix_append _ _)⟩
  induction a generalizing word with
  | nil => cases word with
    | nil => exact List.nil_prefix
    | cons c word =>
      obtain ⟨rfl,-⟩ := List.cons_prefix_cons.mp start
      exact absurd List.mem_cons_self absent
  | cons d a ih => cases word with
    | nil => exact List.nil_prefix
    | cons c word =>
      obtain ⟨rfl,rest⟩ := List.cons_prefix_cons.mp start
      exact List.cons_prefix_cons.mpr ⟨rfl,ih (fun member => absent (List.mem_cons_of_mem _ member)) rest⟩

theorem infixApart (absent : sep ∉ word) (nonempty : word ≠ []) :
    word <:+: a ++ sep::b ↔ word <:+: a ∨ word <:+: b := by
  induction a with
  | nil =>
    have start : ¬ word <+: sep::b := fun start => nonempty (List.prefix_nil.mp ((prefixApart (a := []) absent).mp start))
    rw [List.nil_append,List.infix_cons_iff,List.infix_nil]
    exact ⟨fun either => .inr (either.resolve_left start),fun either => .inr (either.resolve_left nonempty)⟩
  | cons c a ih =>
    rw [List.cons_append,List.infix_cons_iff,ih,← List.cons_append,prefixApart absent,List.infix_cons_iff,or_assoc]

theorem cutPrepend (absent : sep ∉ word) (other : ¬ word <:+: a) :
    cut word (a ++ sep::b) = (cut word (sep::b)).map fun p => (a ++ p.1,p.2) := by
  induction a with
  | nil =>
    rw [List.nil_append]
    cases cut word (sep::b) <;> rfl
  | cons c a ih =>
    rw [List.infix_cons_iff,not_or] at other
    have here : ¬ word <+: c::(a ++ sep::b) := fun start => other.1 ((prefixApart (a := c::a) absent).mp start)
    rw [List.cons_append,cut,if_neg here,ih other.2,Option.map_map]
    rfl

theorem cutExtend (absent : sep ∉ word) (nonempty : word ≠ []) (other : ¬ word <:+: b) :
    cut word (a ++ [sep] ++ b) = (cut word (a ++ [sep])).map fun p => (p.1,p.2 ++ b) := by
  cases found : cut word (a ++ [sep]) with
  | some p => exact cutAppend b found
  | none =>
    rw [Option.map_none,Option.eq_none_iff_forall_ne_some]
    rintro ⟨x,y⟩ later
    have inside : word <:+: a ++ sep::b := by
      rw [show a ++ sep::b = a ++ [sep] ++ b by simp,cutSome later]
      exact ⟨x,y,rfl⟩
    rcases (infixApart absent nonempty).mp inside with early | late
    · exact cutNone found (early.trans (List.prefix_append _ _).isInfix)
    · exact other late

theorem infixParts (absent : sep ∉ word) (nonempty : word ≠ []) (pieces : List Text) :
    word <:+: a ++ pieces.flatMap (sep::·) ↔ word <:+: a ∨ ∃ p ∈ pieces, word <:+: p := by
  induction pieces generalizing a with
  | nil => simp
  | cons p pieces ih =>
    rw [List.flatMap_cons,List.cons_append,infixApart absent nonempty,ih]
    simp

theorem leadsTrim (visible : ∀ c ∈ word, isWhitespace c = false) (s : Text) :
    word <+: lowered (trim s) ↔ word <+: lowered (trimStart s) := by
  obtain ⟨before,after,shape,left,right,middle⟩ := trimSplit s
  by_cases empty : trim s = []
  · have spaces : ∀ c ∈ s, isWhitespace c = true := by
      intro c member
      rw [shape,empty,List.append_nil] at member
      exact (List.mem_append.mp member).elim (left c) (right c)
    rw [empty,trimStart,List.dropWhile_eq_nil_iff.mpr spaces]
  · have start : trimStart s = trim s ++ after := by
      conv_lhs => rw [shape,List.append_assoc,trimStart]
      rw [List.dropWhile_append_of_pos left]
      cases core : trim s with
      | nil => exact absurd core empty
      | cons c core' => rw [List.cons_append,List.dropWhile_cons_of_neg (by simp [middle.head c core' core])]
    rw [start,loweredAppend]
    cases after with
    | nil => rw [show lowered [] = [] from rfl,List.append_nil]
    | cons d after =>
      refine (prefixApart fun member => ?_).symm
      have space := lowerSpace d
      rw [right d List.mem_cons_self,visible _ member] at space
      cases space

theorem leadsApart (visible : ∀ c ∈ word, isWhitespace c = false) (seen : isWhitespace sep = false)
    (fixed : sep.toLower = sep) (absent : sep ∉ word) :
    word <+: lowered (trim (a ++ sep::b)) ↔ word <+: lowered (trim a) := by
  rw [leadsTrim visible,leadsTrim visible]
  by_cases spaces : ∀ c ∈ a, isWhitespace c = true
  · have blank : trimStart a = [] := List.dropWhile_eq_nil_iff.mpr spaces
    rw [trimStart,List.dropWhile_append_of_pos spaces,List.dropWhile_cons_of_neg (by simp [seen]),blank,loweredCons,fixed]
    exact prefixApart (a := []) absent
  · have left : trimStart (a ++ sep::b) = trimStart a ++ sep::b := by
      rw [trimStart,List.dropWhile_append,if_neg (by simpa using spaces)]
      rfl
    rw [left,loweredAppend,loweredCons,fixed]
    exact prefixApart absent

end Words

section Numerals

structure Numeral (bound : Nat) where
  digits : Text
  value : Nat
  nonempty : digits ≠ []
  plain : ∀ c ∈ digits, c.isDigit = true
  counts : value = Nat.ofDigitChars 10 digits 0
  small : value < bound

variable {bound : Nat}

def Numeral.ofNat (n : Nat) (small : n < bound) : Numeral bound where
  digits := decimal n
  value := n
  nonempty := Nat.toDigits_ne_nil
  plain _ member := Nat.isDigit_of_mem_toDigits (by decide) (by decide) member
  counts := Nat.ofDigitChars_ten_toDigits.symm
  small := small

theorem digitsGrow (s : Text) (n : Nat) : n ≤ Nat.ofDigitChars 10 s n := by
  induction s generalizing n with
  | nil => exact Nat.le_refl n
  | cons c s ih =>
    have more := ih (10 * n + (c.toNat - '0'.toNat))
    rw [Nat.ofDigitChars_cons]
    omega

theorem parseDigitChars {s : Text} (value : Nat) (plain : ∀ c ∈ s, c.isDigit = true)
    (small : Nat.ofDigitChars 10 s value < bound) : parseDigits bound value s = some (Nat.ofDigitChars 10 s value) := by
  induction s generalizing value with
  | nil => rfl
  | cons c s ih =>
    obtain ⟨digit,rest⟩ := List.forall_mem_cons.mp plain
    simp only [Char.isDigit,Bool.and_eq_true,decide_eq_true_eq] at digit
    have known : digitValue c = some (c.toNat - 48) := if_pos digit
    rw [Nat.ofDigitChars_cons] at small ⊢
    have same : value * 10 + (c.toNat - 48) = 10 * value + (c.toNat - '0'.toNat) := by
      rw [Nat.mul_comm]
      rfl
    rw [parseDigits,known]
    dsimp only
    rw [same,if_pos (Nat.lt_of_le_of_lt (digitsGrow s _) small)]
    exact ih _ rest small

theorem Numeral.parsed (n : Numeral bound) : parseUnsigned bound n.digits = some n.value := by
  have small := n.small
  rw [n.counts] at small ⊢
  have digits := parseDigitChars 0 n.plain small
  cases shape : n.digits with
  | nil => exact absurd shape n.nonempty
  | cons c s =>
    have digit := n.plain c (by rw [shape]; exact List.mem_cons_self)
    have plain : c ≠ '+' := by
      rintro rfl
      cases digit
    rw [parseUnsigned,if_neg plain,← shape]
    exact digits

theorem digitsSmall {s : Text} {value n : Nat} (small : value < bound) (parsed : parseDigits bound value s = some n) :
    n < bound := by
  induction s generalizing value with
  | nil =>
    cases parsed
    exact small
  | cons c s ih =>
    rw [parseDigits] at parsed
    split at parsed
    · contradiction
    · split at parsed
      · rename_i next
        exact ih next parsed
      · contradiction

theorem parsedSmall {s : Text} {n : Nat} (positive : 0 < bound) (parsed : parseUnsigned bound s = some n) : n < bound := by
  unfold parseUnsigned at parsed
  split at parsed
  · contradiction
  · split at parsed
    · split at parsed
      · contradiction
      · exact digitsSmall positive parsed
    · exact digitsSmall positive parsed

end Numerals
end Vscreen.Text
