import Vscreen.RtspAgreement
import Vscreen.TextParts

/-! Transport headers as the RTSP grammar has them: unicast specifications with their
parameters in any order and letter case, offered one or several in a header, and what
`TransportHeader::parse` reads in them. -/
namespace Vscreen.Rtsp
open Text

inductive TransportKind where
  | udp
  | tcp
  deriving DecidableEq, Repr

namespace TransportKind

def key : TransportKind → Text
  | udp => TransportHeader.clientPort
  | tcp => TransportHeader.interleaved

def bound : TransportKind → Nat
  | udp => 2^16
  | tcp => 2^8

def profiles : TransportKind → List Text
  | udp => ["rtp/avp".toList,"rtp/avp/udp".toList]
  | tcp => ["rtp/avp/tcp".toList,"rtp/avp".toList]

def found (d : TransportKind) (part : Text) : Bool := d.key.isPrefixOf (lowered (trim part))

end TransportKind

structure Parameter where
  text : Text
  ascii : ∀ c ∈ text, c.toNat < 128
  one : ';' ∉ text
  other : ∀ d : TransportKind, d.found text = false

abbrev Blank := {s : Text // ∀ c ∈ s, c = ' ' ∨ c = '\t'}

structure TransportSpec where
  delivery : TransportKind
  margin : Blank
  profile : Text
  before : List Parameter
  left : Blank
  key : Text
  first : Numeral delivery.bound
  second : Option (Numeral delivery.bound)
  right : Blank
  after : List Parameter
  profiled : lowered profile ∈ delivery.profiles
  keyed : lowered key = delivery.key

namespace TransportSpec

def numbers (s : TransportSpec) : Text := s.first.digits ++ (s.second.elim [] fun n => '-'::n.digits)

def start (s : TransportSpec) : Text := s.margin.1 ++ s.profile

def parameter (s : TransportSpec) : Text := s.left.1 ++ (s.key ++ s.numbers) ++ s.right.1

def text (s : TransportSpec) : Text :=
  s.start ++ (s.before.map Parameter.text).flatMap (';'::·) ++ ';'::s.parameter ++
    (s.after.map Parameter.text).flatMap (';'::·)

def pair (s : TransportSpec) : Nat × Nat := (s.first.value,(s.second.map Numeral.value).getD (s.first.value + 1))

def InRange (s : TransportSpec) : Prop := s.pair.2 < s.delivery.bound

instance (s : TransportSpec) : Decidable s.InRange := inferInstanceAs (Decidable (_ < _))

def mode (s : TransportSpec) : TransportMode := match s.delivery with
  | .udp => .udpUnicast (.ofNat s.pair.1) (.ofNat s.pair.2)
  | .tcp => .tcpInterleaved (.ofNat s.pair.1) (.ofNat s.pair.2)

end TransportSpec

def offer : List TransportSpec → Text
  | [] => []
  | [s] => s.text
  | s::rest => s.text ++ ','::offer rest

section Letters

theorem keyVisible (d : TransportKind) : ∀ c ∈ d.key, isWhitespace c = false := by
  cases d <;> exact forallListed (by decide)

theorem foundIff {d : TransportKind} {part : Text} : d.found part = true ↔ d.key <+: lowered (trim part) :=
  List.isPrefixOf_iff_prefix

theorem foundComma (d : TransportKind) (x y : Text) : d.found (x ++ ','::y) = d.found x := by
  have absent : ',' ∉ d.key := by cases d <;> decide
  rw [Bool.eq_iff_iff,foundIff,foundIff]
  exact leadsApart (keyVisible d) (by decide) (by decide) absent

theorem loweredSmall {s : Text} (small : ∀ c ∈ lowered s, c.toNat < 128) : ∀ c ∈ s, c.toNat < 128 := by
  intro c member
  rcases lowerChar c with fixed | ⟨ascii,-⟩
  · have lower := small c.toLower (List.mem_map_of_mem member)
    rwa [fixed] at lower
  · exact ascii

theorem loweredAbsent {s word : Text} {sep : Char} (same : lowered s = word) (absent : sep.toLower ∉ word) : sep ∉ s :=
  fun member => absent (same ▸ List.mem_map_of_mem member)

theorem blankSpace (b : Blank) : ∀ c ∈ b.1, isWhitespace c = true := by
  intro c member
  rcases b.2 c member with rfl | rfl <;> decide

theorem blankSmall (b : Blank) : ∀ c ∈ b.1, c.toNat < 128 := by
  intro c member
  rcases b.2 c member with rfl | rfl <;> decide

theorem blankAbsent (b : Blank) {sep : Char} (other : sep ≠ ' ' ∧ sep ≠ '\t') : sep ∉ b.1 := by
  intro member
  rcases b.2 sep member with same | same
  · exact other.1 same
  · exact other.2 same

theorem blankLowered (b : Blank) : lowered b.1 = b.1 := by
  refine (List.map_congr_left ?_).trans (List.map_id _)
  intro c member
  rcases b.2 c member with rfl | rfl <;> rfl

def numberChars : Text := "0123456789-".toList

theorem digitListed {c : Char} (digit : c.isDigit = true) : c ∈ numberChars := by
  have small : c.toNat < 128 := by
    simp only [Char.isDigit,Bool.and_eq_true,decide_eq_true_eq,ge_iff_le,UInt32.le_iff_toNat_le] at digit
    have upper : c.toNat ≤ 57 := digit.2
    omega
  exact forallAscii (p := fun c => c.isDigit = true → c ∈ numberChars) (by decide +kernel) c small digit

theorem listedLowered {s : Text} (listed : ∀ c ∈ s, c ∈ numberChars) : lowered s = s := by
  refine (List.map_congr_left fun c member => ?_).trans (List.map_id _)
  exact (forallListed (p := fun c => c.toLower = c) (l := numberChars) (by decide)) c (listed c member)

namespace TransportSpec
variable (s : TransportSpec)

theorem numbersListed : ∀ c ∈ s.numbers, c ∈ numberChars := by
  intro c member
  rcases List.mem_append.mp member with first | second
  · exact digitListed (s.first.plain c first)
  · cases given : s.second with
    | none => rw [given] at second; cases second
    | some n =>
      rw [given] at second
      rcases List.mem_cons.mp second with rfl | digit
      · decide
      · exact digitListed (n.plain c digit)

theorem numbersLowered : lowered s.numbers = s.numbers := listedLowered s.numbersListed

theorem numbersVisible : ∀ c ∈ s.numbers, isWhitespace c = false := fun c member =>
  (forallListed (p := fun c => isWhitespace c = false) (l := numberChars) (by decide)) c (s.numbersListed c member)

theorem keyedTrimmed : Trimmed (s.delivery.key ++ s.numbers) :=
  trimmedOfVisible fun c member => (List.mem_append.mp member).elim (keyVisible s.delivery c) (s.numbersVisible c)

theorem parameterTrimmed : lowered (trim s.parameter) = s.delivery.key ++ s.numbers := by
  rw [← trimLowered,parameter,loweredAppend,loweredAppend,loweredAppend,blankLowered,blankLowered,s.keyed,s.numbersLowered]
  exact trimOf (blankSpace s.left) (blankSpace s.right) s.keyedTrimmed

theorem parameterFound (d : TransportKind) : d.found s.parameter = decide (s.delivery = d) := by
  rw [Bool.eq_iff_iff,foundIff,s.parameterTrimmed,decide_eq_true_eq]
  constructor
  · intro starts
    have same : d.key <+: s.delivery.key ++ s.numbers := starts
    cases d <;> cases kind : s.delivery <;> rw [kind] at same
    · cases (List.cons_prefix_cons.mp same).1
    · cases (List.cons_prefix_cons.mp same).1
  · rintro rfl
    exact List.prefix_append _ _

theorem startTrimmed : lowered (trim s.start) = lowered s.profile := by
  rw [← trimLowered,start,loweredAppend,blankLowered]
  refine trimLeft (blankSpace s.margin) ?_
  have profiles : ∀ d : TransportKind, ∀ p ∈ d.profiles, Trimmed p := by
    intro d
    cases d <;> rintro p member <;> rcases List.mem_cons.mp member with rfl | member <;>
      first
        | exact trimmedEnds (by decide) (by decide)
        | (rw [List.mem_singleton.mp member]; exact trimmedEnds (by decide) (by decide))
  exact profiles s.delivery _ s.profiled

theorem startOther (d : TransportKind) : d.found s.start = false := by
  have profiles : ∀ e : TransportKind, ∀ p ∈ e.profiles, ¬ d.key <+: p := by
    intro e
    cases d <;> cases e <;> exact forallListed (by decide)
  rw [← Bool.not_eq_true,foundIff,s.startTrimmed]
  exact profiles s.delivery _ s.profiled

theorem profilePlain {sep : Char} (absent : ∀ d : TransportKind, ∀ p ∈ d.profiles, sep.toLower ∉ p) :
    sep ∉ s.profile :=
  loweredAbsent rfl (absent s.delivery _ s.profiled)

theorem startOne : ';' ∉ s.start := by
  have absent : ∀ d : TransportKind, ∀ p ∈ d.profiles, (';' : Char).toLower ∉ p := by
    intro d
    cases d <;> exact forallListed (by decide)
  exact fun member => (List.mem_append.mp member).elim (blankAbsent s.margin (by decide)) (s.profilePlain absent)

theorem parameterOne : ';' ∉ s.parameter := by
  have key : ';' ∉ s.key := loweredAbsent s.keyed (by cases s.delivery <;> decide)
  have numbers : ';' ∉ s.numbers := fun member => absurd (s.numbersListed _ member) (by decide)
  simp only [parameter,List.mem_append,not_or]
  exact ⟨⟨blankAbsent s.left (by decide),key,numbers⟩,blankAbsent s.right (by decide)⟩

end TransportSpec
end Letters

section Search
variable {d : TransportKind}

theorem othersPlain (d : TransportKind) (ps : List Parameter) :
    ∀ p ∈ ps.map Parameter.text, ';' ∉ p ∧ d.found p = false := by
  intro p member
  obtain ⟨q,-,rfl⟩ := List.mem_map.mp member
  exact ⟨q.one,q.other d⟩

theorem skipStart (s : TransportSpec) (rest : Text) :
    (split ';' (s.start ++ (s.before.map Parameter.text).flatMap (';'::·) ++ ';'::rest)).find? d.found =
      (split ';' rest).find? d.found :=
  findSkipAll rest s.startOne (s.startOther d) (othersPlain d s.before)

theorem findWanted {s : TransportSpec} (asked : s.delivery = d) {tail : Text}
    (ends : tail = [] ∨ ∃ more, tail = ','::more) :
    ∃ part, (split ';' (s.text ++ tail)).find? d.found = some part ∧
      (if s.after ≠ [] ∨ tail = [] then part = s.parameter else ∃ more, part = s.parameter ++ ','::more) := by
  have here : d.found s.parameter = true := by rw [s.parameterFound,decide_eq_true_eq]; exact asked
  cases after : s.after with
  | cons p ps =>
    refine ⟨s.parameter,?_,by simp⟩
    rw [TransportSpec.text,after]
    simp only [List.append_assoc,List.cons_append,List.map_cons,List.flatMap_cons]
    rw [← List.append_assoc,skipStart,split,List.splitOn_append_cons_self_of_not_mem s.parameterOne,
      List.find?_cons_of_pos here]
  | nil =>
    have whole : s.text ++ tail = s.start ++ (s.before.map Parameter.text).flatMap (';'::·) ++ ';'::(s.parameter ++ tail) := by
      simp [TransportSpec.text,after]
    rw [whole,skipStart]
    rcases ends with rfl | ⟨more,rfl⟩
    · refine ⟨s.parameter,?_,by simp⟩
      rw [List.append_nil,split,List.splitOn_eq_singleton s.parameterOne,List.find?_cons_of_pos here]
    · obtain ⟨h,t,parts,-⟩ := splitCons ';' more
      have apart : ';' ∉ s.parameter ++ [','] := by simp [s.parameterOne]
      refine ⟨s.parameter ++ ','::h,?_,by simp⟩
      have glued : s.parameter ++ ','::more = (s.parameter ++ [',']) ++ more := by simp
      rw [glued,splitPrepend apart parts,List.find?_cons_of_pos (by simp [foundComma,here])]
      simp

theorem offerStart (s : TransportSpec) (rest : List TransportSpec) : ∃ t, split ';' (offer (s::rest)) = s.start::t := by
  have starts : ∃ y, offer (s::rest) = s.start ++ ';'::y := by
    have text : ∃ y, s.text = s.start ++ ';'::y := by
      rw [TransportSpec.text]
      cases s.before with
      | nil => exact ⟨_,by simp; rfl⟩
      | cons p ps => exact ⟨_,by simp; rfl⟩
    obtain ⟨y,text⟩ := text
    cases rest with
    | nil => exact ⟨y,text⟩
    | cons r rest => exact ⟨y ++ ','::offer (r::rest),by rw [offer,text]; simp; simp⟩
  obtain ⟨y,shape⟩ := starts
  exact ⟨split ';' y,by rw [shape,split,List.splitOn_append_cons_self_of_not_mem s.startOne]; rfl⟩

theorem findSkipSpec {s r : TransportSpec} {rest : List TransportSpec} (other : s.delivery ≠ d) :
    (split ';' (offer (s::r::rest))).find? d.found = (split ';' (offer (r::rest))).find? d.found := by
  have here : d.found s.parameter = false := by rw [s.parameterFound,decide_eq_false_iff_not]; exact other
  -- the last parameter and the start of the next specification are one piece
  have joint {x : Text} (one : ';' ∉ x) (no : d.found x = false) :
      (split ';' (x ++ ','::offer (r::rest))).find? d.found = (split ';' (offer (r::rest))).find? d.found := by
    obtain ⟨t,parts⟩ := offerStart r rest
    have apart : ';' ∉ x ++ [','] := by simp [one]
    have glued : x ++ ','::offer (r::rest) = (x ++ [',']) ++ offer (r::rest) := by simp
    rw [glued,splitPrepend apart parts,parts,List.find?_cons_of_neg (by simp [foundComma,no]),
      List.find?_cons_of_neg (by simp [r.startOther d])]
  have whole : offer (s::r::rest) = s.start ++ (s.before.map Parameter.text).flatMap (';'::·) ++
      ';'::(s.parameter ++ (s.after.map Parameter.text).flatMap (';'::·) ++ ','::offer (r::rest)) := by
    rw [offer,TransportSpec.text]
    · simp
    · simp
  rw [whole,skipStart]
  cases after : s.after using List.reverseRecOn with
  | nil =>
    rw [List.map_nil,List.flatMap_nil,List.append_nil]
    exact joint s.parameterOne here
  | append_singleton ps p =>
    have last : s.parameter ++ ((ps ++ [p]).map Parameter.text).flatMap (';'::·) ++ ','::offer (r::rest) =
        s.parameter ++ (ps.map Parameter.text).flatMap (';'::·) ++ ';'::(p.text ++ ','::offer (r::rest)) := by simp
    rw [last,findSkipAll _ s.parameterOne here (othersPlain d ps)]
    exact joint p.one (p.other d)

def chosen (d : TransportKind) : List TransportSpec → Option (TransportSpec × List TransportSpec)
  | [] => none
  | s::rest => if s.delivery = d then some (s,rest) else chosen d rest

theorem chosenSpec {specs rest : List TransportSpec} {s : TransportSpec} (taken : chosen d specs = some (s,rest)) :
    s ∈ specs ∧ s.delivery = d := by
  induction specs with
  | nil => cases taken
  | cons r specs ih =>
    rw [chosen] at taken
    split at taken
    · rename_i same
      cases taken
      exact ⟨List.mem_cons_self,same⟩
    · obtain ⟨member,asked⟩ := ih taken
      exact ⟨List.mem_cons_of_mem _ member,asked⟩

theorem chosenSome {specs : List TransportSpec} (asked : ∃ s ∈ specs, s.delivery = d) : ∃ p, chosen d specs = some p := by
  obtain ⟨s,member,same⟩ := asked
  induction specs with
  | nil => cases member
  | cons r specs ih =>
    rw [chosen]
    split
    · exact ⟨_,rfl⟩
    · rename_i other
      rcases List.mem_cons.mp member with rfl | later
      · exact absurd same other
      · exact ih later

/-- The numbers of a specification that others follow stand alone where a parameter follows them. -/
def Alone (s : TransportSpec) (rest : List TransportSpec) : Prop := s.after ≠ [] ∨ rest = []

instance (s : TransportSpec) (rest : List TransportSpec) : Decidable (Alone s rest) :=
  inferInstanceAs (Decidable (s.after ≠ [] ∨ rest = []))

theorem findChosen {specs rest : List TransportSpec} {s : TransportSpec} (taken : chosen d specs = some (s,rest)) :
    ∃ part, (split ';' (offer specs)).find? d.found = some part ∧
      (if Alone s rest then part = s.parameter else ∃ more, part = s.parameter ++ ','::more) := by
  induction specs with
  | nil => cases taken
  | cons r specs ih =>
    rw [chosen] at taken
    split at taken
    · rename_i same
      cases taken
      cases rest with
      | nil =>
        obtain ⟨part,hit,shape⟩ := findWanted same (.inl rfl)
        rw [List.append_nil] at hit
        refine ⟨part,hit,?_⟩
        simpa [Alone] using shape
      | cons q rest =>
        obtain ⟨part,hit,shape⟩ := findWanted same (.inr ⟨offer (q::rest),rfl⟩)
        refine ⟨part,hit,?_⟩
        simpa [Alone] using shape
    · rename_i other
      cases specs with
      | nil => cases taken
      | cons q specs => rw [findSkipSpec other]; exact ih taken

end Search

section Numbers
variable {α : Type} {number : Text → Option α} {after : α → α} {first second : Text}

theorem parsePairSingle {value : Text} {x : α} (one : '-' ∉ value) (read : number value = some x) :
    TransportHeader.parsePair number after first second value = .ok (x,after x) := by
  rw [TransportHeader.parsePair,split,List.splitOn_eq_singleton one]
  dsimp only
  rw [read]

theorem parsePairBoth {a b : Text} {x y : α} (one : '-' ∉ a) (one' : '-' ∉ b) (read : number a = some x)
    (read' : number b = some y) :
    TransportHeader.parsePair number after first second (a ++ '-'::b) = .ok (x,y) := by
  rw [TransportHeader.parsePair,split,List.splitOn_append_cons_self_of_not_mem one,List.splitOn_eq_singleton one']
  dsimp only
  rw [read]
  dsimp only
  rw [read']

theorem parsePairFirst {value h : Text} {t : List Text} (parts : split '-' value = h::t) (unread : number h = none) :
    TransportHeader.parsePair number after first second value = .error (.invalidTransport first) := by
  rw [TransportHeader.parsePair,parts]
  cases t <;> dsimp only <;> rw [unread]

theorem parsePairSecond {value a h : Text} {x : α} {t : List Text} (parts : split '-' value = a::h::t)
    (read : number a = some x) (unread : number h = none) :
    TransportHeader.parsePair number after first second value = .error (.invalidTransport second) := by
  rw [TransportHeader.parsePair,parts]
  dsimp only
  rw [read]
  dsimp only
  rw [unread]

theorem commaUnread {bound : Nat} {s : Text} (comma : ',' ∈ s) : parseUnsigned bound s = none := by
  cases parsed : parseUnsigned bound s with
  | none => rfl
  | some n => exact absurd (parsedPlain parsed ',' comma) (by decide)

theorem digitsOne {bound : Nat} (n : Numeral bound) : '-' ∉ n.digits := fun member => absurd (n.plain _ member) (by decide)

variable {s : TransportSpec} {ofNat : Nat → α}

theorem parseNumbers (reads : ∀ t, number t = (parseUnsigned s.delivery.bound t).map ofNat)
    (next : ∀ n, after (ofNat n) = ofNat (n + 1)) :
    TransportHeader.parsePair number after first second s.numbers = .ok (ofNat s.pair.1,ofNat s.pair.2) := by
  have one : number s.first.digits = some (ofNat s.first.value) := by rw [reads,s.first.parsed]; rfl
  rw [TransportSpec.numbers,TransportSpec.pair]
  cases s.second with
  | none =>
    rw [Option.elim_none,List.append_nil,parsePairSingle (digitsOne s.first) one,next]
    rfl
  | some n =>
    have two : number n.digits = some (ofNat n.value) := by rw [reads,n.parsed]; rfl
    rw [Option.elim_some,parsePairBoth (digitsOne s.first) (digitsOne n) one two]
    rfl

theorem parseGlued (reads : ∀ t, number t = (parseUnsigned s.delivery.bound t).map ofNat) (more : Text) :
    ∃ e, TransportHeader.parsePair number after first second (s.numbers ++ s.right.1 ++ ','::more) = .error e := by
  have blank : '-' ∉ s.right.1 := blankAbsent s.right (by decide)
  have unread {t : Text} (comma : ',' ∈ t) : number t = none := by rw [reads,commaUnread comma]; rfl
  obtain ⟨h,t,parts,-⟩ := splitCons '-' more
  rw [TransportSpec.numbers]
  cases s.second with
  | none =>
    have apart : '-' ∉ s.first.digits ++ s.right.1 ++ [','] := by simp [digitsOne s.first,blank]
    have glued := splitPrepend apart parts
    refine ⟨_,parsePairFirst (h := s.first.digits ++ s.right.1 ++ [','] ++ h) (t := t) ?_ (unread (by simp))⟩
    rw [← glued]
    simp
  | some n =>
    have apart : '-' ∉ n.digits ++ s.right.1 ++ [','] := by simp [digitsOne n,blank]
    have glued := splitPrepend apart parts
    refine ⟨_,parsePairSecond (a := s.first.digits) (h := n.digits ++ s.right.1 ++ [','] ++ h) (t := t)
      (x := ofNat s.first.value) ?_ (by rw [reads,s.first.parsed]; rfl) (unread (by simp))⟩
    have cutOff : split '-' (s.first.digits ++ '-'::(n.digits ++ s.right.1 ++ [','] ++ more)) =
        s.first.digits::split '-' (n.digits ++ s.right.1 ++ [','] ++ more) :=
      List.splitOn_append_cons_self_of_not_mem (digitsOne s.first) _
    rw [← glued,← cutOff]
    simp

end Numbers

section Modes
variable {u : CaseMapping} {s : TransportSpec} {part : Text}

theorem trimBlank (b : Blank) (t : Text) : trim (b.1 ++ t) = trim t := by
  obtain ⟨before,after,shape,left,right,middle⟩ := trimSplit t
  have whole : b.1 ++ t = (b.1 ++ before) ++ trim t ++ after := by
    conv_lhs => rw [shape]
    simp
  rw [whole]
  refine trimOf (fun c member => ?_) right middle
  exact (List.mem_append.mp member).elim (blankSpace b c) (left c)

theorem trimGlued {p : Text} (visible : ∃ c ∈ p.head?, isWhitespace c = false) (blank : Blank) (more : Text) :
    ∃ more', trim (p ++ blank.1 ++ ','::more) = p ++ blank.1 ++ ','::more' := by
  have kept : Trimmed (p ++ blank.1 ++ [',']) := by
    obtain ⟨c,first,seen⟩ := visible
    refine trimmedEnds ?_ ?_
    · cases p with
      | nil => cases first
      | cons d p =>
        cases first
        simpa using seen
    · rw [List.getLast?_concat]
      decide
  obtain ⟨more',trimmed,-⟩ := trimAfter more kept (by simp)
  refine ⟨more',?_⟩
  have glued (t : Text) : p ++ blank.1 ++ ','::t = p ++ blank.1 ++ [','] ++ t := by simp
  rw [glued more,trimmed,glued more']

theorem digitsHead (s : TransportSpec) : ∃ c ∈ s.numbers.head?, isWhitespace c = false := by
  cases shape : s.first.digits with
  | nil => exact absurd shape s.first.nonempty
  | cons c rest =>
    refine ⟨c,by simp [TransportSpec.numbers,shape],s.numbersVisible c ?_⟩
    simp [TransportSpec.numbers,shape]

theorem keyHead (s : TransportSpec) (t : Text) : ∃ c ∈ (s.key ++ t).head?, isWhitespace c = false := by
  have lower := s.keyed
  cases shape : s.key with
  | nil => rw [shape] at lower; cases kind : s.delivery <;> rw [kind] at lower <;> cases lower
  | cons c rest =>
    refine ⟨c,rfl,?_⟩
    rw [← lowerSpace]
    refine keyVisible s.delivery _ ?_
    rw [← lower,shape]
    exact List.mem_cons_self

theorem findLowered (value : Text) :
    ((split ';' (lowered value)).find? fun part => TransportHeader.interleaved.isPrefixOf (trim part)) =
      ((split ';' value).find? TransportKind.tcp.found).map lowered := by
  have fixed : ∀ c : Char, c.toLower = ';' ↔ c = ';' :=
    lowerKeeps (p := fun c d => d = ';' ↔ c = ';') (by decide) (fun _ => Iff.rfl)
  rw [splitLowered fixed,List.find?_map]
  congr 2
  funext part
  simp only [Function.comp_apply,trimLowered,TransportKind.found]
  rfl

theorem channelsParsed {value : Text} (kind : s.delivery = .tcp)
    (hit : (split ';' value).find? TransportKind.tcp.found = some s.parameter) :
    TransportHeader.parseInterleaved (lowered value) = .ok ⟨s.mode⟩ := by
  have word : stripPrefix TransportHeader.interleaved (trim (lowered s.parameter)) = some s.numbers := by
    rw [trimLowered,s.parameterTrimmed,kind,stripPrefix]
    exact (if_pos (List.prefix_append _ _)).trans (congrArg some List.drop_left)
  rw [TransportHeader.parseInterleaved,findLowered,hit,Option.map_some,Option.bind_some,word]
  dsimp only
  rw [@parseNumbers _ _ _ _ _ s UInt8.ofNat (fun t => by rw [kind]; rfl) (fun n => (UInt8.ofNat_add n 1).symm)]
  simp [TransportSpec.mode,kind,bind,Except.bind]

theorem channelsGlued {value more : Text} (kind : s.delivery = .tcp)
    (hit : (split ';' value).find? TransportKind.tcp.found = some (s.parameter ++ ','::more)) :
    ∃ e, TransportHeader.parseInterleaved (lowered value) = .error e := by
  have word : ∃ more', stripPrefix TransportHeader.interleaved (trim (lowered (s.parameter ++ ','::more))) =
      some (s.numbers ++ s.right.1 ++ ','::more') := by
    obtain ⟨more',trimmed⟩ := trimGlued (keyHead s s.numbers) s.right more
    have whole : s.parameter ++ ','::more = s.left.1 ++ (s.key ++ s.numbers ++ s.right.1 ++ ','::more) := by
      simp [TransportSpec.parameter]
    have shape : lowered (s.key ++ s.numbers ++ s.right.1 ++ ','::more') =
        TransportHeader.interleaved ++ (s.numbers ++ s.right.1 ++ ','::lowered more') := by
      simp only [loweredAppend,s.keyed,kind,s.numbersLowered,blankLowered,loweredCons,List.append_assoc]
      rfl
    refine ⟨lowered more',?_⟩
    rw [trimLowered,whole,trimBlank,trimmed,shape,stripPrefix]
    exact (if_pos (List.prefix_append _ _)).trans (congrArg some List.drop_left)
  obtain ⟨more',word⟩ := word
  obtain ⟨e,unread⟩ := @parseGlued _ TransportHeader.parseU8 (· + 1) "invalid interleaved channel".toList
    "invalid interleaved channel".toList s UInt8.ofNat (fun t => by rw [kind]; rfl) more'
  refine ⟨e,?_⟩
  rw [TransportHeader.parseInterleaved,findLowered,hit,Option.map_some,Option.bind_some,word]
  dsimp only
  rw [unread]
  rfl

theorem findAscii {value : Text} (ascii : ∀ c ∈ value, c.toNat < 128) :
    ((split ';' value).find? fun part => TransportHeader.clientPort.isPrefixOf (u.toLowercase (trim part))) =
      (split ';' value).find? TransportKind.udp.found := by
  have same : ∀ part ∈ split ';' value,
      TransportHeader.clientPort.isPrefixOf (u.toLowercase (trim part)) = TransportKind.udp.found part := by
    intro part member
    have small : ∀ c ∈ trim part, c.toNat < 128 := by
      intro c inside
      obtain ⟨before,after,shape,-⟩ := trimSplit part
      exact ascii c (memPiece member (by rw [shape]; simp [inside]))
    rw [loweredAscii small]
    rfl
  generalize split ';' value = pieces at same
  induction pieces with
  | nil => rfl
  | cons p pieces ih =>
    obtain ⟨here,later⟩ := List.forall_mem_cons.mp same
    rw [List.find?_cons,List.find?_cons,here,ih later]

theorem portKey (kind : s.delivery = .udp) : ∃ name, s.key = name ++ ['='] ∧ '=' ∉ name := by
  have keyed := s.keyed
  rw [kind,show TransportKind.udp.key = "client_port".toList ++ ['='] from rfl] at keyed
  obtain ⟨name,last,shape,named,ended⟩ := List.map_eq_append_iff.mp keyed
  refine ⟨name,?_,loweredAbsent named (by decide)⟩
  obtain ⟨c,rfl,equals⟩ := List.map_eq_singleton_iff.mp ended
  have same := lowerKeeps (p := fun c d => d = '=' → c = '=') (by decide) (fun _ same => same) c equals
  rw [shape,same]

theorem equalsAbsent (s : TransportSpec) : '=' ∉ s.numbers ++ s.right.1 := by
  have numbers : '=' ∉ s.numbers := fun member => absurd (s.numbersListed _ member) (by decide)
  have blank : '=' ∉ s.right.1 := blankAbsent s.right (by decide)
  simp [numbers,blank]

theorem portsRead (kind : s.delivery = .udp) (tail : Text) :
    split '=' (s.parameter ++ tail) = (s.left.1 ++ s.key.dropLast)::split '=' (s.numbers ++ s.right.1 ++ tail) := by
  obtain ⟨name,key,one⟩ := portKey kind
  have blank : '=' ∉ s.left.1 := blankAbsent s.left (by decide)
  have apart : '=' ∉ s.left.1 ++ name := by simp [one,blank]
  have whole : s.parameter ++ tail = (s.left.1 ++ name) ++ '='::(s.numbers ++ s.right.1 ++ tail) := by
    simp [TransportSpec.parameter,key]
  rw [whole,key,List.dropLast_concat,split,List.splitOn_append_cons_self_of_not_mem apart]
  rfl

theorem numbersTrimmed (s : TransportSpec) : trim (s.numbers ++ s.right.1) = s.numbers :=
  trimRight (blankSpace s.right) (trimmedOfVisible s.numbersVisible)

theorem portsParsed {value : Text} (ascii : ∀ c ∈ value, c.toNat < 128) (kind : s.delivery = .udp)
    (hit : (split ';' value).find? TransportKind.udp.found = some s.parameter) :
    TransportHeader.parseUnicast u value = .ok ⟨s.mode⟩ := by
  have ports : (split '=' s.parameter)[1]? = some (s.numbers ++ s.right.1) := by
    have parts := portsRead kind []
    rw [List.append_nil,List.append_nil] at parts
    rw [parts,split,List.splitOn_eq_singleton (equalsAbsent s)]
    rfl
  rw [TransportHeader.parseUnicast,findAscii ascii,hit]
  dsimp only
  rw [ports]
  dsimp only
  rw [numbersTrimmed,@parseNumbers _ _ _ _ _ s UInt16.ofNat (fun t => by rw [kind]; rfl)
    (fun n => (UInt16.ofNat_add n 1).symm)]
  simp [TransportSpec.mode,kind,bind,Except.bind]

theorem portsGlued {value more : Text} (ascii : ∀ c ∈ value, c.toNat < 128) (kind : s.delivery = .udp)
    (hit : (split ';' value).find? TransportKind.udp.found = some (s.parameter ++ ','::more)) :
    ∃ e, TransportHeader.parseUnicast u value = .error e := by
  obtain ⟨h,t,parts,-⟩ := splitCons '=' more
  have apart : '=' ∉ s.numbers ++ s.right.1 ++ [','] := by
    have none := equalsAbsent s
    simp only [List.mem_append,not_or] at none ⊢
    exact ⟨none,by decide⟩
  have ports : (split '=' (s.parameter ++ ','::more))[1]? = some (s.numbers ++ s.right.1 ++ ','::h) := by
    have glued : s.numbers ++ s.right.1 ++ ','::more = s.numbers ++ s.right.1 ++ [','] ++ more := by simp
    rw [portsRead kind,glued,splitPrepend apart parts]
    simp
  obtain ⟨more',trimmed⟩ := trimGlued (digitsHead s) s.right h
  obtain ⟨e,unread⟩ := @parseGlued _ TransportHeader.parseU16 (· + 1) "invalid RTP port number".toList
    "invalid RTCP port number".toList s UInt16.ofNat (fun t => by rw [kind]; rfl) more'
  refine ⟨e,?_⟩
  rw [TransportHeader.parseUnicast,findAscii ascii,hit]
  dsimp only
  rw [ports]
  dsimp only
  rw [trimmed,unread]
  rfl

end Modes

def tcpWords : List Text := ["rtp/avp/tcp".toList,TransportHeader.interleaved]

def Plain (specs : List TransportSpec) : Prop :=
  ∀ s ∈ specs, ∀ p ∈ s.before ++ s.after, ∀ word ∈ tcpWords, ¬ word <:+: lowered p.text

def wanted (specs : List TransportSpec) : TransportKind := if specs.any (·.delivery = .tcp) then .tcp else .udp

section Choice
variable {s : TransportSpec} {specs : List TransportSpec} {word : Text}

theorem loweredParts (ps : List Parameter) :
    lowered ((ps.map Parameter.text).flatMap (';'::·)) = (ps.map fun p => lowered p.text).flatMap (';'::·) := by
  induction ps with
  | nil => rfl
  | cons p ps ih =>
    rw [List.map_cons,List.flatMap_cons,loweredAppend,ih,loweredCons]
    rfl

theorem wordInSpec (one : ';' ∉ word) (nonempty : word ≠ []) :
    word <:+: lowered s.text ↔ word <:+: lowered s.start ∨ word <:+: lowered s.parameter ∨
      ∃ p ∈ s.before ++ s.after, word <:+: lowered p.text := by
  have whole : lowered s.text = (lowered s.start ++ (s.before.map fun p => lowered p.text).flatMap (';'::·)) ++
      ';'::(lowered s.parameter ++ (s.after.map fun p => lowered p.text).flatMap (';'::·)) := by
    rw [TransportSpec.text,List.append_assoc,loweredAppend,loweredAppend,loweredParts,List.cons_append,loweredCons,
      loweredAppend,loweredParts]
    rfl
  rw [whole,infixApart one nonempty,infixParts one nonempty,infixParts one nonempty]
  simp only [List.mem_map,exists_exists_and_eq_and,List.mem_append]
  constructor
  · rintro ((start | ⟨p,member,inside⟩) | here | ⟨p,member,inside⟩)
    · exact .inl start
    · exact .inr (.inr ⟨p,.inl member,inside⟩)
    · exact .inr (.inl here)
    · exact .inr (.inr ⟨p,.inr member,inside⟩)
  · rintro (start | here | ⟨p,member | member,inside⟩)
    · exact .inl (.inl start)
    · exact .inr (.inl here)
    · exact .inl (.inr ⟨p,member,inside⟩)
    · exact .inr (.inr ⟨p,member,inside⟩)

theorem wordInOffer (comma : ',' ∉ word) (nonempty : word ≠ []) :
    word <:+: lowered (offer specs) ↔ ∃ s ∈ specs, word <:+: lowered s.text := by
  induction specs with
  | nil => simpa [offer,lowered] using nonempty
  | cons s rest ih =>
    cases rest with
    | nil => simp [offer]
    | cons r rest =>
      have whole : lowered (offer (s::r::rest)) = lowered s.text ++ ','::lowered (offer (r::rest)) := by
        rw [offer,loweredAppend]
        · rfl
        · simp
      rw [whole,infixApart comma nonempty,ih]
      simp

theorem letterAbsent {text : Text} {c : Char} (member : c ∈ word) (absent : c ∉ text) : ¬ word <:+: text :=
  fun inside => absent (inside.subset member)

theorem udpWords (kind : s.delivery = .udp) :
    ∀ word ∈ tcpWords, ¬ word <:+: lowered s.start ∧ ¬ word <:+: lowered s.parameter := by
  have profile := s.profiled
  rw [kind] at profile
  have profileLetters : ∀ p ∈ TransportKind.udp.profiles, 'c' ∉ p ∧ 'i' ∉ p := forallListed (by decide)
  obtain ⟨noC,noI⟩ := profileLetters _ profile
  have blank (b : Blank) {c : Char} (other : c ≠ ' ' ∧ c ≠ '\t') : c ∉ b.1 := blankAbsent b other
  have numbers {c : Char} (other : c ∉ numberChars) : c ∉ s.numbers := fun member => other (s.numbersListed c member)
  have start : lowered s.start = s.margin.1 ++ lowered s.profile := by
    rw [TransportSpec.start,loweredAppend,blankLowered]
  have parameter : lowered s.parameter = s.left.1 ++ (TransportKind.udp.key ++ s.numbers) ++ s.right.1 := by
    rw [TransportSpec.parameter,loweredAppend,loweredAppend,loweredAppend,blankLowered,blankLowered,s.keyed,kind,
      s.numbersLowered]
  rw [start,parameter]
  intro word listed
  rcases List.mem_cons.mp listed with rfl | listed
  · refine ⟨letterAbsent (c := 'c') (by decide) ?_,letterAbsent (c := '/') (by decide) ?_⟩
    · simp [blank s.margin (c := 'c') (by decide),noC]
    · simp [blank s.left (c := '/') (by decide),blank s.right (c := '/') (by decide),numbers (c := '/') (by decide),
        show '/' ∉ TransportKind.udp.key by decide]
  · rw [List.mem_singleton.mp listed]
    refine ⟨letterAbsent (c := 'i') (by decide) ?_,letterAbsent (c := 'd') (by decide) ?_⟩
    · simp [blank s.margin (c := 'i') (by decide),noI]
    · simp [blank s.left (c := 'd') (by decide),blank s.right (c := 'd') (by decide),numbers (c := 'd') (by decide),
        show 'd' ∉ TransportKind.udp.key by decide]

theorem tcpAsked (plain : Plain specs) :
    ("rtp/avp/tcp".toList <:+: lowered (offer specs) ∨ TransportHeader.interleaved <:+: lowered (offer specs)) ↔
      ∃ s ∈ specs, s.delivery = .tcp := by
  have apart : ∀ word ∈ tcpWords, ',' ∉ word ∧ ';' ∉ word ∧ word ≠ [] := forallListed (by decide)
  have misled : ∀ word ∈ tcpWords, word <:+: lowered (offer specs) → ∃ s ∈ specs, s.delivery = .tcp := by
    intro word listed inside
    obtain ⟨comma,one,nonempty⟩ := apart word listed
    obtain ⟨s,member,inside⟩ := (wordInOffer comma nonempty).mp inside
    refine ⟨s,member,?_⟩
    cases kind : s.delivery with
    | tcp => rfl
    | udp =>
      obtain ⟨noStart,noNumbers⟩ := udpWords kind word listed
      rcases (wordInSpec one nonempty).mp inside with here | here | ⟨p,other,here⟩
      · exact absurd here noStart
      · exact absurd here noNumbers
      · exact absurd here (plain s member p other word listed)
  constructor
  · rintro (inside | inside)
    · exact misled _ (by decide) inside
    · exact misled _ (by decide) inside
  · rintro ⟨s,member,kind⟩
    refine .inr ((wordInOffer (by decide) (by decide)).mpr ⟨s,member,
      (wordInSpec (by decide) (by decide)).mpr (.inr (.inl ?_))⟩)
    refine ⟨s.left.1,s.numbers ++ s.right.1,?_⟩
    simp only [TransportSpec.parameter,loweredAppend,s.keyed,kind,s.numbersLowered,blankLowered,List.append_assoc]
    rfl

theorem profileOffered (nonempty : specs ≠ []) : "rtp/avp".toList <:+: lowered (offer specs) := by
  cases specs with
  | nil => exact absurd rfl nonempty
  | cons s rest =>
    refine (wordInOffer (by decide) (by decide)).mpr ⟨s,List.mem_cons_self,
      (wordInSpec (by decide) (by decide)).mpr (.inl ?_)⟩
    have profiles : ∀ d : TransportKind, ∀ p ∈ d.profiles, "rtp/avp".toList <+: p := by
      intro d
      cases d <;> exact forallListed (by decide)
    rw [TransportSpec.start,loweredAppend]
    exact (profiles s.delivery _ s.profiled).isInfix.trans (List.suffix_append _ _).isInfix

theorem offerAscii (specs : List TransportSpec) : ∀ c ∈ offer specs, c.toNat < 128 := by
  have profiles : ∀ d : TransportKind, ∀ p ∈ d.profiles, ∀ c ∈ p, c.toNat < 128 := by
    intro d p listed c inside
    have all : ∀ p ∈ d.profiles, p.all (fun c => decide (c.toNat < 128)) = true := by
      cases d <;> exact forallListed (by decide)
    exact of_decide_eq_true (List.all_eq_true.mp (all p listed) c inside)
  have keys (d : TransportKind) : ∀ c ∈ d.key, c.toNat < 128 := by cases d <;> exact forallListed (by decide)
  have parts (ps : List Parameter) : ∀ c ∈ (ps.map Parameter.text).flatMap (';'::·), c.toNat < 128 := by
    intro c member
    obtain ⟨t,listed,inside⟩ := List.mem_flatMap.mp member
    obtain ⟨p,-,rfl⟩ := List.mem_map.mp listed
    rcases List.mem_cons.mp inside with rfl | within
    · decide
    · exact p.ascii c within
  have text (s : TransportSpec) : ∀ c ∈ s.text, c.toNat < 128 := by
    intro c member
    simp only [TransportSpec.text,TransportSpec.start,TransportSpec.parameter,List.mem_append,List.mem_cons] at member
    rcases member with (((margin | profile) | before) | rfl | ((left | key | numbers) | right)) | after
    · exact blankSmall s.margin c margin
    · exact loweredSmall (profiles s.delivery _ s.profiled) c profile
    · exact parts s.before c before
    · decide
    · exact blankSmall s.left c left
    · exact loweredSmall (s.keyed ▸ keys s.delivery) c key
    · exact (forallListed (p := fun c => c.toNat < 128) (l := numberChars) (by decide)) c (s.numbersListed c numbers)
    · exact blankSmall s.right c right
    · exact parts s.after c after
  induction specs with
  | nil => simp [offer]
  | cons s rest ih =>
    cases rest with
    | nil => exact text s
    | cons r rest =>
      intro c member
      rw [offer] at member
      · rcases List.mem_append.mp member with here | later
        · exact text s c here
        · rcases List.mem_cons.mp later with rfl | later
          · decide
          · exact ih c later
      · simp

theorem parseKinds {u : CaseMapping} {value : Text} (ascii : ∀ c ∈ value, c.toNat < 128)
    (profile : "rtp/avp".toList <:+: lowered value) : TransportHeader.parse u value =
      if "rtp/avp/tcp".toList <:+: lowered value ∨ TransportHeader.interleaved <:+: lowered value then
        TransportHeader.parseInterleaved (lowered value)
      else TransportHeader.parseUnicast u value := by
  unfold TransportHeader.parse
  rw [loweredAscii ascii]
  exact if_neg fun absent => absent profile

theorem offerParsed {u : CaseMapping} (nonempty : specs ≠ []) (plain : Plain specs) :
    ∃ s rest, chosen (wanted specs) specs = some (s,rest) ∧
      (if Alone s rest then TransportHeader.parse u (offer specs) = .ok ⟨s.mode⟩
        else ∃ e, TransportHeader.parse u (offer specs) = .error e) := by
  have small := offerAscii specs
  have asked := tcpAsked plain
  by_cases tcp : ∃ s ∈ specs, s.delivery = .tcp
  · have kind : wanted specs = .tcp := if_pos (by simpa using tcp)
    obtain ⟨⟨s,rest⟩,taken⟩ := chosenSome tcp
    have parsed : TransportHeader.parse u (offer specs) = TransportHeader.parseInterleaved (lowered (offer specs)) :=
      (parseKinds small (profileOffered nonempty)).trans (if_pos (asked.mpr tcp))
    obtain ⟨part,hit,shape⟩ := findChosen taken
    have here := (chosenSpec taken).2
    refine ⟨s,rest,kind ▸ taken,?_⟩
    rw [parsed]
    split at shape
    · rename_i alone
      rw [if_pos alone]
      exact channelsParsed here (shape ▸ hit)
    · rename_i joined
      obtain ⟨more,rfl⟩ := shape
      rw [if_neg joined]
      exact channelsGlued here hit
  · have kind : wanted specs = .udp := if_neg (by simpa using tcp)
    have udp : ∃ s ∈ specs, s.delivery = .udp := by
      cases specs with
      | nil => exact absurd rfl nonempty
      | cons s rest =>
        refine ⟨s,List.mem_cons_self,?_⟩
        cases here : s.delivery with
        | udp => rfl
        | tcp => exact absurd ⟨s,List.mem_cons_self,here⟩ tcp
    obtain ⟨⟨s,rest⟩,taken⟩ := chosenSome udp
    have parsed : TransportHeader.parse u (offer specs) = TransportHeader.parseUnicast u (offer specs) :=
      (parseKinds small (profileOffered nonempty)).trans (if_neg fun bad => tcp (asked.mp bad))
    obtain ⟨part,hit,shape⟩ := findChosen taken
    have here := (chosenSpec taken).2
    refine ⟨s,rest,kind ▸ taken,?_⟩
    rw [parsed]
    split at shape
    · rename_i alone
      rw [if_pos alone]
      exact portsParsed small here (shape ▸ hit)
    · rename_i joined
      obtain ⟨more,rfl⟩ := shape
      rw [if_neg joined]
      exact portsGlued small here hit

end Choice

def TransportMode.reading : TransportMode → TransportKind × Nat × Nat
  | .udpUnicast rtp rtcp => (.udp,rtp.toNat,rtcp.toNat)
  | .tcpInterleaved rtp rtcp => (.tcp,rtp.toNat,rtcp.toNat)

theorem modeReading {s : TransportSpec} (inRange : s.InRange) : s.mode.reading = (s.delivery,s.pair) := by
  have first : s.pair.1 < s.delivery.bound := s.first.small
  have second : s.pair.2 < s.delivery.bound := inRange
  unfold TransportSpec.mode
  split <;> rename_i kind <;> rw [kind] at first second <;> simp only [TransportKind.bound] at first second
  · simp only [TransportMode.reading,UInt16.toNat_ofNat']
    rw [Nat.mod_eq_of_lt first,Nat.mod_eq_of_lt second,kind]
  · simp only [TransportMode.reading,UInt8.toNat_ofNat']
    rw [Nat.mod_eq_of_lt first,Nat.mod_eq_of_lt second,kind]

section Response

def unicast : Parameter where
  text := "unicast".toList
  ascii := forallListed (by decide)
  one := by decide
  other d := by cases d <;> decide

theorem pairAscii (a b : Nat) : ∀ c ∈ decimal a ++ '-'::decimal b, c ∈ numberChars := by
  intro c member
  have digits (n : Nat) (inside : c ∈ decimal n) : c ∈ numberChars :=
    digitListed (Nat.isDigit_of_mem_toDigits (by decide) (by decide) inside)
  rcases List.mem_append.mp member with first | second
  · exact digits a first
  · rcases List.mem_cons.mp second with rfl | digit
    · decide
    · exact digits b digit

def serverPort (rtp rtcp : UInt16) : Parameter where
  text := "server_port=".toList ++ (decimal rtp.toNat ++ '-'::decimal rtcp.toNat)
  ascii c member := by
    rcases List.mem_append.mp member with name | number
    · exact (forallListed (p := fun c : Char => c.toNat < 128) (by decide)) c name
    · exact (forallListed (p := fun c : Char => c.toNat < 128) (by decide)) c (pairAscii _ _ c number)
  one member := by
    rcases List.mem_append.mp member with name | number
    · revert name; decide
    · exact absurd (pairAscii _ _ _ number) (by decide)
  other d := by
    rw [← Bool.not_eq_true,foundIff,leadsTrim (keyVisible d)]
    intro starts
    have start (t : Text) : trimStart ("server_port=".toList ++ t) = "server_port=".toList ++ t := rfl
    rw [start] at starts
    cases d <;> cases (List.cons_prefix_cons.mp starts).1

theorem serverPortText (rtp rtcp : UInt16) :
    (serverPort rtp rtcp).text = "server_port=".toList ++ (decimal rtp.toNat ++ '-'::decimal rtcp.toNat) := rfl

def TransportKind.written : TransportKind → Text
  | udp => "RTP/AVP".toList
  | tcp => "RTP/AVP/TCP".toList

def numeral16 (n : UInt16) : Numeral TransportKind.udp.bound := .ofNat n.toNat (by rw [TransportKind.bound]; exact n.toNat_lt)

def numeral8 (n : UInt8) : Numeral TransportKind.tcp.bound := .ofNat n.toNat (by rw [TransportKind.bound]; exact n.toNat_lt)

theorem emptyBlank : ∀ c ∈ ([] : Text), c = ' ' ∨ c = '\t' := fun _ member => by cases member

def plainSpec (d : TransportKind) (first : Numeral d.bound) (second : Option (Numeral d.bound)) (after : List Parameter) :
    TransportSpec where
  delivery := d
  margin := ⟨[],emptyBlank⟩
  profile := d.written
  before := [unicast]
  left := ⟨[],emptyBlank⟩
  key := d.key
  first := first
  second := second
  right := ⟨[],emptyBlank⟩
  after := after
  profiled := by cases d <;> decide
  keyed := by cases d <;> decide

def responseSpec (mode : TransportMode) (serverRtpPort serverRtcpPort : UInt16) : TransportSpec := match mode with
  | .udpUnicast rtp rtcp => plainSpec .udp (numeral16 rtp) (some (numeral16 rtcp)) [serverPort serverRtpPort serverRtcpPort]
  | .tcpInterleaved rtp rtcp => plainSpec .tcp (numeral8 rtp) (some (numeral8 rtcp)) []

theorem plainText {d : TransportKind} (first : Numeral d.bound) (second : Numeral d.bound) (after : List Parameter) :
    offer [plainSpec d first (some second) after] = d.written ++ ';'::unicast.text ++ ';'::(d.key ++ first.digits ++
      '-'::second.digits) ++ (after.map Parameter.text).flatMap (';'::·) := by
  simp [offer,plainSpec,TransportSpec.text,TransportSpec.start,TransportSpec.parameter,TransportSpec.numbers]

theorem responseText (t : TransportHeader) (serverRtpPort serverRtcpPort : UInt16) :
    t.formatResponse serverRtpPort serverRtcpPort = offer [responseSpec t.mode serverRtpPort serverRtcpPort] := by
  have dash : "-".toList = ['-'] := by decide
  obtain ⟨mode⟩ := t
  cases mode with
  | udpUnicast rtp rtcp =>
    have port : "RTP/AVP;unicast;client_port=".toList =
        TransportKind.udp.written ++ ';'::unicast.text ++ ';'::TransportKind.udp.key := by
      decide
    have server : ";server_port=".toList = ';'::"server_port=".toList := by decide
    have digits (n : UInt16) : (numeral16 n).digits = decimal n.toNat := rfl
    rw [responseSpec,plainText,digits,digits,List.map_singleton,serverPortText,TransportHeader.formatResponse]
    dsimp only
    generalize decimal rtp.toNat = a
    generalize decimal rtcp.toNat = b
    generalize decimal serverRtpPort.toNat = c
    generalize decimal serverRtcpPort.toNat = d
    rw [port,server,dash]
    simp
  | tcpInterleaved rtp rtcp =>
    have channel : "RTP/AVP/TCP;unicast;interleaved=".toList =
        TransportKind.tcp.written ++ ';'::unicast.text ++ ';'::TransportKind.tcp.key := by decide
    rw [TransportHeader.formatResponse,responseSpec,plainText,channel,dash]
    simp only [numeral8,Numeral.ofNat,List.map_nil,List.flatMap_nil,List.nil_append,List.append_nil,List.append_assoc,
      List.cons_append]

theorem responsePlain (mode : TransportMode) (serverRtpPort serverRtcpPort : UInt16) :
    Plain [responseSpec mode serverRtpPort serverRtcpPort] := by
  have named : ∀ word ∈ tcpWords, ¬ word <:+: lowered unicast.text := forallListed (by decide)
  have server : ∀ word ∈ tcpWords, ¬ word <:+: lowered (serverPort serverRtpPort serverRtcpPort).text := by
    have numbers : lowered (decimal serverRtpPort.toNat ++ '-'::decimal serverRtcpPort.toNat) =
        decimal serverRtpPort.toNat ++ '-'::decimal serverRtcpPort.toNat := listedLowered (pairAscii _ _)
    have absent {c : Char} (noName : c ∉ "server_port=".toList) (noNumber : c ∉ numberChars) :
        c ∉ lowered (serverPort serverRtpPort serverRtcpPort).text := by
      rw [serverPortText,loweredAppend,numbers]
      intro member
      rcases List.mem_append.mp member with name | number
      · exact noName name
      · exact noNumber (pairAscii _ _ c number)
    intro word listed
    rcases List.mem_cons.mp listed with rfl | listed
    · exact letterAbsent (c := '/') (by decide) (absent (by decide) (by decide))
    · rw [List.mem_singleton.mp listed]
      exact letterAbsent (c := 'd') (by decide) (absent (by decide) (by decide))
  intro s member p listed
  rw [List.mem_singleton.mp member] at listed
  cases mode with
  | udpUnicast rtp rtcp =>
    rcases List.mem_cons.mp listed with rfl | later
    · exact named
    · rw [List.mem_singleton.mp later]
      exact server
  | tcpInterleaved rtp rtcp =>
    rw [List.mem_singleton.mp listed]
    exact named

theorem responseReadBack (u : CaseMapping) (t : TransportHeader) (serverRtpPort serverRtcpPort : UInt16) :
    TransportHeader.parse u (t.formatResponse serverRtpPort serverRtcpPort) = .ok t := by
  obtain ⟨s,rest,taken,parsed⟩ := offerParsed (u := u) (by simp) (responsePlain t.mode serverRtpPort serverRtcpPort)
  have kind : wanted [responseSpec t.mode serverRtpPort serverRtcpPort] =
      (responseSpec t.mode serverRtpPort serverRtcpPort).delivery := by
    obtain ⟨mode⟩ := t
    cases mode <;> rfl
  rw [chosen,kind,if_pos rfl] at taken
  cases taken
  rw [if_pos (.inr rfl),← responseText] at parsed
  rw [parsed]
  obtain ⟨mode⟩ := t
  cases mode <;>
    simp [responseSpec,plainSpec,TransportSpec.mode,TransportSpec.pair,numeral16,numeral8,Numeral.ofNat]

end Response

/-- The header resolves to a specification that was offered, with the mode and the numbers of that one. -/
def Resolved (u : CaseMapping) (specs : List TransportSpec) (s : TransportSpec) : Prop :=
  ∃ t, TransportHeader.parse u (offer specs) = .ok t ∧ t.mode.reading = (s.delivery,s.pair)

theorem offersResolve (u : CaseMapping) {specs : List TransportSpec} (nonempty : specs ≠ []) (plain : Plain specs)
    (inRange : ∀ s ∈ specs, s.InRange) :
    (∀ t serverRtpPort serverRtcpPort,
      TransportHeader.parse u (TransportHeader.formatResponse t serverRtpPort serverRtcpPort) = .ok t) ∧
    ∃ s rest, chosen (wanted specs) specs = some (s,rest) ∧ s ∈ specs ∧
      (if Alone s rest then Resolved u specs s else ∃ e, TransportHeader.parse u (offer specs) = .error e) := by
  obtain ⟨s,rest,taken,parsed⟩ := offerParsed (u := u) nonempty plain
  have member := (chosenSpec taken).1
  refine ⟨responseReadBack u,s,rest,taken,member,?_⟩
  split at parsed
  · rename_i alone
    rw [if_pos alone]
    exact ⟨⟨s.mode⟩,parsed,modeReading (inRange s member)⟩
  · rename_i joined
    rw [if_neg joined]
    exact parsed

def channelOffer : TransportSpec := plainSpec .tcp (numeral8 0) (some (numeral8 1)) []

def portOffer : TransportSpec := plainSpec .udp (numeral16 5000) (some (numeral16 5001)) []

theorem offersResolveRun : ∃ s rest, chosen (wanted [portOffer,channelOffer]) [portOffer,channelOffer] = some (s,rest) ∧
    s ∈ [portOffer,channelOffer] ∧ (if Alone s rest then Resolved .ascii [portOffer,channelOffer] s
      else ∃ e, TransportHeader.parse .ascii (offer [portOffer,channelOffer]) = .error e) := by
  refine (offersResolve .ascii (by simp) ?_ ?_).2
  · intro s member p listed
    rcases List.mem_cons.mp member with rfl | member
    · rw [List.mem_singleton.mp listed]
      exact forallListed (by decide)
    · rw [List.mem_singleton.mp member] at listed
      rw [List.mem_singleton.mp listed]
      exact forallListed (by decide)
  · intro s member
    rcases List.mem_cons.mp member with rfl | member
    · decide
    · rw [List.mem_singleton.mp member]
      decide

def extension : Parameter where
  text := "x-interleaved=1".toList
  ascii := forallListed (by decide)
  one := by decide
  other d := by cases d <;> decide

def extendedOffer : TransportSpec :=
  plainSpec .udp (numeral16 5000) (some (numeral16 5001)) [extension]

def lastPortOffer : TransportSpec := plainSpec .udp (numeral16 65535) none []

theorem offersUnresolved : (∀ s, ¬ Resolved .ascii [channelOffer,portOffer] s) ∧
    (∀ s, ¬ Resolved .ascii [extendedOffer] s) ∧ ¬ Resolved .ascii [lastPortOffer] lastPortOffer := by
  have refused {specs : List TransportSpec} (none : (TransportHeader.parse .ascii (offer specs)).toOption = none)
      (s : TransportSpec) : ¬ Resolved .ascii specs s := by
    rintro ⟨t,parsed,-⟩
    rw [parsed] at none
    cases none
  refine ⟨refused (by decide +kernel),refused (by decide +kernel),?_⟩
  rintro ⟨t,parsed,reading⟩
  have wrapped : (TransportHeader.parse .ascii (offer [lastPortOffer])).toOption = some ⟨.udpUnicast 65535 0⟩ := by
    decide +kernel
  rw [parsed] at wrapped
  cases wrapped
  revert reading
  decide

end Vscreen.Rtsp
