import Mathlib.Algebra.Group.Nat.Defs
import Mathlib.Data.List.DropRight
import Mathlib.Data.List.Infix

/-! String operations of the Rust standard library on texts as lists of
characters: trimming, splitting, searching, number parsing and lower case. -/
namespace Vscreen

abbrev Text := List Char

def isWhitespace (c : Char) : Bool :=
  let n := c.toNat
  (9 ≤ n && n ≤ 13) || n == 0x20 || n == 0x85 || n == 0xA0 || n == 0x1680 || (0x2000 ≤ n && n ≤ 0x200A) ||
    n == 0x2028 || n == 0x2029 || n == 0x202F || n == 0x205F || n == 0x3000

namespace Text

def trimStart (s : Text) : Text := s.dropWhile isWhitespace

def trimEnd (s : Text) : Text := s.rdropWhile isWhitespace

def trim (s : Text) : Text := trimStart (trimEnd s)

def split (sep : Char) (s : Text) : List Text := s.splitOn sep

def splitOnce (sep : Char) : Text → Option (Text × Text)
  | [] => none
  | c::rest => if c = sep then some ([],rest) else (splitOnce sep rest).map fun p => (c::p.1,p.2)

def splitn : Nat → Char → Text → List Text
  | 0,_,_ => []
  | 1,_,s => [s]
  | count+2,sep,s => match splitOnce sep s with
    | none => [s]
    | some (piece,rest) => piece::splitn (count + 1) sep rest

def cut (pat : Text) : Text → Option (Text × Text)
  | [] => if pat = [] then some ([],[]) else none
  | c::rest =>
    if pat <+: c::rest then some ([],(c::rest).drop pat.length)
    else (cut pat rest).map fun p => (c::p.1,p.2)

def stripPrefix (pat s : Text) : Option Text := if pat <+: s then some (s.drop pat.length) else none

def stripCr (line : Text) : Text := if line.getLast? = some '\r' then line.dropLast else line

def linesFrom (current : Text) : Text → List Text
  | [] => if current = [] then [] else [current]
  | c::rest => if c = '\n' then stripCr current::linesFrom [] rest else linesFrom (current ++ [c]) rest

def lines (s : Text) : List Text := linesFrom [] s

def digitValue (c : Char) : Option Nat := if '0' ≤ c ∧ c ≤ '9' then some (c.toNat - 48) else none

def parseDigits (bound : Nat) : Nat → Text → Option Nat
  | value,[] => some value
  | value,c::rest => match digitValue c with
    | none => none
    | some d => if value * 10 + d < bound then parseDigits bound (value * 10 + d) rest else none

def parseUnsigned (bound : Nat) (s : Text) : Option Nat := match s with
  | [] => none
  | c::rest => if c = '+' then if rest = [] then none else parseDigits bound 0 rest else parseDigits bound 0 s

def decimal (n : Nat) : Text := Nat.toDigits 10 n

theorem splitOnceFirst {sep : Char} {before : Text} (after : Text) (absent : sep ∉ before) :
    splitOnce sep (before ++ sep::after) = some (before,after) := by
  induction before with
  | nil => simp [splitOnce]
  | cons c before ih =>
    rw [List.mem_cons,not_or] at absent
    rw [List.cons_append,splitOnce,if_neg (Ne.symm absent.1),ih absent.2]
    rfl

theorem splitOnceSome {sep : Char} {s before after : Text} (found : splitOnce sep s = some (before,after)) :
    s = before ++ sep::after ∧ sep ∉ before := by
  induction s generalizing before with
  | nil => contradiction
  | cons c s ih =>
    rw [splitOnce] at found
    split at found
    · rename_i same
      cases found
      exact ⟨by rw [same]; rfl,by simp⟩
    · rename_i other
      obtain ⟨p,tail,same⟩ := Option.map_eq_some_iff.mp found
      cases same
      obtain ⟨shape,absent⟩ := ih tail
      exact ⟨by rw [shape]; rfl,by simp [Ne.symm other,absent]⟩

theorem splitOnceAppend {sep : Char} {s before after : Text} (t : Text)
    (found : splitOnce sep s = some (before,after)) : splitOnce sep (s ++ t) = some (before,after ++ t) := by
  obtain ⟨rfl,absent⟩ := splitOnceSome found
  rw [List.append_assoc,List.cons_append,splitOnceFirst _ absent]

theorem splitOnceAbsent {sep : Char} {s : Text} : splitOnce sep s = none ↔ sep ∉ s := by
  constructor
  · intro none member
    obtain ⟨a,b,rfl,absent⟩ := List.eq_append_cons_of_mem member
    rw [splitOnceFirst b absent] at none
    contradiction
  · intro absent
    cases found : splitOnce sep s with
    | none => rfl
    | some parts => exact (absent (by rw [(splitOnceSome found).1]; simp)).elim

theorem cutSome {pat s before after : Text} (found : cut pat s = some (before,after)) : s = before ++ pat ++ after := by
  induction s generalizing before with
  | nil =>
    rw [cut] at found
    split at found
    · rename_i empty
      cases found
      simp [empty]
    · contradiction
  | cons c s ih =>
    rw [cut] at found
    split at found
    · rename_i here
      cases found
      obtain ⟨rest,same⟩ := here
      rw [← same,List.drop_left]
      rfl
    · obtain ⟨p,tail,same⟩ := Option.map_eq_some_iff.mp found
      cases same
      rw [ih tail]
      rfl

theorem cutFirst {pat s before after before' after' : Text} (found : cut pat s = some (before,after))
    (occurs : s = before' ++ pat ++ after') : before.length ≤ before'.length := by
  induction s generalizing before before' with
  | nil =>
    rw [cut] at found
    split at found <;> cases found
    exact Nat.zero_le _
  | cons c s ih =>
    rw [cut] at found
    split at found
    · cases found
      exact Nat.zero_le _
    · rename_i notHere
      obtain ⟨p,tail,same⟩ := Option.map_eq_some_iff.mp found
      cases same
      cases before' with
      | nil => exact (notHere ⟨after',by rw [occurs]; rfl⟩).elim
      | cons d before' =>
        have rest : s = before' ++ pat ++ after' := (List.cons_eq_cons.mp occurs).2
        exact Nat.succ_le_succ (ih tail rest)

theorem cutNone {pat s : Text} (absent : cut pat s = none) : ¬ pat <:+: s := by
  induction s with
  | nil =>
    rw [cut] at absent
    split at absent
    · contradiction
    · rename_i nonempty
      rw [List.infix_nil]
      exact nonempty
  | cons c s ih =>
    rw [cut] at absent
    split at absent
    · contradiction
    · rename_i notHere
      rw [List.infix_cons_iff,not_or]
      exact ⟨notHere,ih (Option.map_eq_none_iff.mp absent)⟩

theorem cutAppend {pat s before after : Text} (more : Text) (found : cut pat s = some (before,after)) :
    cut pat (s ++ more) = some (before,after ++ more) := by
  induction s generalizing before with
  | nil =>
    rw [cut] at found
    split at found
    · rename_i empty
      cases found
      subst empty
      cases more <;> simp [cut]
    · contradiction
  | cons c s ih =>
    rw [cut] at found
    split at found
    · rename_i here
      cases found
      obtain ⟨rest,same⟩ := here
      rw [List.cons_append,cut,← List.cons_append,← same,List.append_assoc,if_pos (List.prefix_append _ _),
        List.drop_left,List.drop_left]
    · rename_i notHere
      obtain ⟨p,tail,same⟩ := Option.map_eq_some_iff.mp found
      cases same
      have room := congrArg List.length (cutSome tail)
      simp only [List.length_append] at room
      have still : ¬ pat <+: c::(s ++ more) := by
        intro here
        have shorter : pat.length ≤ (c::s).length := by
          rw [List.length_cons]; omega
        exact notHere (List.prefix_of_prefix_length_le here (List.prefix_append (c::s) more) shorter)
      rw [List.cons_append,cut,if_neg still,ih tail]
      rfl

structure Trimmed (core : Text) : Prop where
  head : ∀ c rest, core = c::rest → isWhitespace c = false
  last : ∀ rest c, core = rest ++ [c] → isWhitespace c = false

theorem trimmedEnds {core : Text} (head : core.head?.all (fun c => !isWhitespace c) = true)
    (last : core.getLast?.all (fun c => !isWhitespace c) = true) : Trimmed core := by
  constructor
  · intro c rest shape
    rw [shape,List.head?_cons] at head
    simpa using head
  · intro rest c shape
    rw [shape,List.getLast?_concat] at last
    simpa using last

theorem trimOf {before core after : Text} (left : ∀ c ∈ before, isWhitespace c = true)
    (right : ∀ c ∈ after, isWhitespace c = true) (middle : Trimmed core) : trim (before ++ core ++ after) = core := by
  rw [trim,trimEnd,trimStart,List.rdropWhile,List.reverse_append,
    List.dropWhile_append_of_pos (by simpa using right)]
  cases core using List.reverseRecOn with
  | nil =>
    have gone : before.reverse.dropWhile isWhitespace = [] := List.dropWhile_eq_nil_iff.mpr (by simpa using left)
    rw [List.append_nil,gone]
    rfl
  | append_singleton core c =>
    have visible := middle.last core c rfl
    rw [← List.append_assoc,List.reverse_append,List.reverse_singleton,List.singleton_append,
      List.dropWhile_cons_of_neg (by simp [visible]),List.reverse_cons,List.reverse_reverse,List.append_assoc,
      List.dropWhile_append_of_pos left]
    cases start : core ++ [c] with
    | nil => rfl
    | cons d rest => rw [List.dropWhile_cons_of_neg (by simp [middle.head d rest start])]

theorem trimLeft {before core : Text} (left : ∀ c ∈ before, isWhitespace c = true) (middle : Trimmed core) :
    trim (before ++ core) = core := by
  have whole := @trimOf before core [] left (by simp) middle
  rwa [List.append_nil] at whole

theorem trimRight {core after : Text} (right : ∀ c ∈ after, isWhitespace c = true) (middle : Trimmed core) :
    trim (core ++ after) = core :=
  @trimOf [] core after (by simp) right middle

theorem trimSplit (s : Text) : ∃ before after, s = before ++ trim s ++ after ∧
    (∀ c ∈ before, isWhitespace c = true) ∧ (∀ c ∈ after, isWhitespace c = true) ∧ Trimmed (trim s) := by
  have whole : trimEnd s ++ s.rtakeWhile isWhitespace = s := List.rdropWhile_append_rtakeWhile
  have ended : (trimEnd s).takeWhile isWhitespace ++ trim s = trimEnd s := List.takeWhile_append_dropWhile
  refine ⟨(trimEnd s).takeWhile isWhitespace,s.rtakeWhile isWhitespace,?_,?_,?_,?_,?_⟩
  · rw [ended,whole]
  · intro c member
    exact List.mem_takeWhile_imp member
  · intro c member
    exact List.mem_rtakeWhile_imp member
  · intro c rest shape
    have visible := List.head?_dropWhile_not isWhitespace (trimEnd s)
    rw [show (trimEnd s).dropWhile isWhitespace = c::rest from shape] at visible
    exact visible
  · intro rest c shape
    have nonempty : trimEnd s ≠ [] := by
      intro empty
      rw [trim,empty] at shape
      simp [trimStart] at shape
    have visible := List.rdropWhile_last_not isWhitespace s nonempty
    have last : (trimEnd s).getLast nonempty = c := by
      have tail : trimEnd s = ((trimEnd s).takeWhile isWhitespace ++ rest) ++ [c] := by
        rw [List.append_assoc,← shape,ended]
      exact (List.getLast_congr nonempty (by simp) tail).trans List.getLast_concat
    exact Bool.eq_false_iff.mpr (last ▸ visible)

theorem trimAppendSpace {s : Text} {c : Char} (space : isWhitespace c = true) : trim (s ++ [c]) = trim s := by
  obtain ⟨before,after,shape,left,right,middle⟩ := trimSplit s
  have longer : s ++ [c] = before ++ trim s ++ (after ++ [c]) := by
    rw [← List.append_assoc,← shape]
  rw [longer]
  refine trimOf left ?_ middle
  intro d member
  rcases List.mem_append.mp member with earlier | last
  · exact right d earlier
  · rw [List.mem_singleton.mp last]; exact space

theorem trimStripCr (line : Text) : trim (stripCr line) = trim line := by
  rw [stripCr]
  split
  · rename_i ended
    obtain ⟨rest,shape⟩ := List.getLast?_eq_some_iff.mp ended
    rw [shape,List.dropLast_concat]
    exact (trimAppendSpace (by decide)).symm
  · rfl

theorem linesFromLine {x : Text} (current rest : Text) (unbroken : '\n' ∉ x) :
    linesFrom current (x ++ '\n'::rest) = stripCr (current ++ x)::lines rest := by
  induction x generalizing current with
  | nil => simp [linesFrom,lines]
  | cons c x ih =>
    rw [List.mem_cons,not_or] at unbroken
    rw [List.cons_append,linesFrom,if_neg (Ne.symm unbroken.1),ih _ unbroken.2,List.append_assoc]
    rfl

theorem forallAscii {p : Char → Prop} (all : ∀ i : Fin 128, p (Char.ofNat i)) (c : Char) (small : c.toNat < 128) :
    p c := by
  have same := all ⟨c.toNat,small⟩
  rwa [Char.ofNat_toNat] at same

def isNumeral (c : Char) : Bool := c = '+' || ('0' ≤ c && c ≤ '9')

theorem numeralPlain {c : Char} (numeral : isNumeral c = true) : c.toNat < 128 ∧ c ≠ 'i' ∧ c ≠ 'k' := by
  simp only [isNumeral,Bool.or_eq_true,decide_eq_true_eq,Bool.and_eq_true,Char.le_def,UInt32.le_iff_toNat_le] at numeral
  refine ⟨?_,?_,?_⟩
  · rcases numeral with rfl | ⟨-,upper⟩
    · decide
    · have : c.toNat ≤ 57 := upper
      omega
  · rintro rfl
    revert numeral; decide
  · rintro rfl
    revert numeral; decide

theorem digitNumeral {c : Char} {d : Nat} (digit : digitValue c = some d) : isNumeral c = true := by
  unfold digitValue at digit
  split at digit
  · rename_i range
    simp [isNumeral,range]
  · contradiction

theorem parsedDigits {bound value n : Nat} {s : Text} (parsed : parseDigits bound value s = some n) :
    ∀ c ∈ s, isNumeral c = true := by
  induction s generalizing value with
  | nil => simp
  | cons c s ih =>
    rw [parseDigits] at parsed
    split at parsed
    · contradiction
    · rename_i d digit
      split at parsed
      · exact List.forall_mem_cons.mpr ⟨digitNumeral digit,ih parsed⟩
      · contradiction

theorem parsedPlain {bound n : Nat} {s : Text} (parsed : parseUnsigned bound s = some n) :
    ∀ c ∈ s, isNumeral c = true := by
  unfold parseUnsigned at parsed
  split at parsed
  · contradiction
  · rename_i c rest
    split at parsed
    · rename_i plus
      split at parsed
      · contradiction
      · exact List.forall_mem_cons.mpr ⟨by rw [plus]; decide,parsedDigits parsed⟩
    · exact parsedDigits parsed

end Text
end Vscreen
