import Mathlib.Algebra.Ring.Int.Defs
import Vscreen.Bytes
import Vscreen.Json
import Vscreen.SerdeJson
import Vscreen.TextParts

/-! What the vision client makes of a model's answer (vscreen-server, vision.rs):
`extract_json`, and when it finds the JSON object that stands in a piece of prose. -/
namespace Vscreen.Vision
open Text

def fence : Text := "```".toList

def jsonFence : Text := "```json".toList

def jsonBlock (text : Text) : Option Text := match cut jsonFence text with
  | none => none
  | some (_,after) => (cut fence after).map fun p => trim p.1

def plainBlock (text : Text) : Option Text := match cut fence text with
  | none => none
  | some (_,after) => match cut fence after with
    | none => none
    | some (inner,_) => if (trim inner).head? = some '{' then some (trim inner) else none

-- `start` is a place in the text, in characters
structure Braces where
  depth : Int
  start : Option Nat
  inString : Bool
  escape : Bool
  deriving DecidableEq, Repr

namespace Braces

def first : Braces := ⟨0,none,false,false⟩

def closes (s : Braces) (ch : Char) : Option Nat :=
  if s.escape = false ∧ s.inString = false ∧ ch = '}' ∧ s.depth - 1 = 0 then s.start else none

def next (s : Braces) (i : Nat) (ch : Char) : Braces :=
  if s.escape then {s with escape := false}
  else if s.inString then
    if ch = '\\' then {s with escape := true}
    else if ch = '"' then {s with inString := false}
    else s
  else if ch = '"' ∧ 0 < s.depth then {s with inString := true}
  else if ch = '{' then {s with start := if s.depth = 0 then some i else s.start, depth := s.depth + 1}
  else if ch = '}' then {s with depth := s.depth - 1}
  else s

end Braces

-- An `i32` depth, which wraps in a release build.
def Braces.wrapped (s : Braces) : Braces := {s with depth := s.depth.bmod (2^32)}

def scanBraces (text : Text) (s : Braces) (i : Nat) : Text → Option Text
  | [] => none
  | ch::rest => match s.closes ch with
    | some start => some (slice text start (i + 1))
    | none => scanBraces text (s.next i ch).wrapped (i + 1) rest

def extractJson (text : Text) : Option Text := match jsonBlock text with
  | some block => some block
  | none => match plainBlock text with
    | some block => some block
    | none => scanBraces text .first 0 text

def countBraces (text : Text) (s : Braces) (i : Nat) : Text → Option Text
  | [] => none
  | ch::rest => match s.closes ch with
    | some start => some (slice text start (i + 1))
    | none => countBraces text (s.next i ch) (i + 1) rest

def braces (text : Text) : Nat := text.countP fun c => c = '{' ∨ c = '}'

theorem nextDepth (s : Braces) (i : Nat) (c : Char) :
    (s.next i c).depth.natAbs ≤ s.depth.natAbs + if c = '{' ∨ c = '}' then 1 else 0 := by
  by_cases brace : c = '{' ∨ c = '}'
  · have step : (s.next i c).depth = s.depth ∨ (s.next i c).depth = s.depth + 1 ∨ (s.next i c).depth = s.depth - 1 := by
      unfold Braces.next
      repeat' split
      all_goals simp
    rw [if_pos brace]
    omega
  · obtain ⟨opens,shuts⟩ := not_or.mp brace
    have kept : (s.next i c).depth = s.depth := by
      rw [Braces.next,if_neg opens,if_neg shuts]
      repeat' split
      all_goals rfl
    rw [kept]
    exact Nat.le_add_right _ _

theorem scanCounts {text rest : Text} {s : Braces} {i : Nat} (few : s.depth.natAbs + braces rest < 2^31) :
    scanBraces text s i rest = countBraces text s i rest := by
  induction rest generalizing s i with
  | nil => rfl
  | cons c rest ih =>
    rw [scanBraces,countBraces]
    split
    · rfl
    · have bound := nextDepth s i c
      have counted : braces (c::rest) = braces rest + if c = '{' ∨ c = '}' then 1 else 0 := by
        simp [braces,List.countP_cons]
      have small : (s.next i c).depth.natAbs + braces rest < 2^31 := by omega
      have same : (s.next i c).wrapped = s.next i c := by
        have range : (s.next i c).depth.bmod (2^32) = (s.next i c).depth := by
          rw [Int.bmod_def]
          omega
        rw [Braces.wrapped,range]
      rw [same,ih small]

def weight : Json.Token → Int
  | .openObject => 1
  | .closeObject => -1
  | _ => 0

def Closes : Int → List Json.Token → Prop
  | depth,[] => depth = 0
  | depth,t::ts => 0 < depth ∧ Closes (depth + weight t) ts

theorem closesFlat {depth : Int} {t : Json.Token} {ts : List Json.Token} (flat : weight t = 0) (positive : 0 < depth)
    (rest : Closes depth ts) : Closes depth (t::ts) := ⟨positive,by rw [flat,Int.add_zero]; exact rest⟩

mutual

theorem valueCloses (v : Json.Value) {depth : Int} {rest : List Json.Token} (positive : 0 < depth)
    (closes : Closes depth rest) : Closes depth (v.tokens ++ rest) := by
  match v with
  | .scalar s => exact closesFlat rfl positive closes
  | .array .nil => exact closesFlat rfl positive (closesFlat rfl positive closes)
  | .array (.cons v items) =>
    rw [Json.Value.tokens,List.cons_append,List.append_assoc]
    exact closesFlat rfl positive (valueCloses v positive (itemsClose items positive closes))
  | .object .nil =>
    have inside : 0 < depth + weight .openObject := by rw [weight]; omega
    have back : depth + weight .openObject + weight .closeObject = depth := by rw [weight,weight]; omega
    exact ⟨positive,inside,back.symm ▸ closes⟩
  | .object (.cons key v members) =>
    rw [Json.Value.tokens,List.cons_append,List.cons_append,List.cons_append,List.append_assoc]
    have inside : 0 < depth + weight .openObject := by rw [weight]; omega
    have back : depth + weight .openObject - 1 = depth := by rw [weight]; omega
    have closes : Closes (depth + weight .openObject - 1) rest := back.symm ▸ closes
    exact ⟨positive,closesFlat rfl inside (closesFlat rfl inside
      (valueCloses v inside (membersClose members inside closes)))⟩

theorem itemsClose (items : Json.Items) {depth : Int} {rest : List Json.Token} (positive : 0 < depth)
    (closes : Closes depth rest) : Closes depth (items.tokens ++ rest) := by
  match items with
  | .nil => exact closesFlat rfl positive closes
  | .cons v items =>
    rw [Json.Items.tokens,List.cons_append,List.append_assoc]
    exact closesFlat rfl positive (valueCloses v positive (itemsClose items positive closes))

theorem membersClose (members : Json.Members) {depth : Int} {rest : List Json.Token} (positive : 0 < depth)
    (closes : Closes (depth - 1) rest) : Closes depth (members.tokens ++ rest) := by
  match members with
  | .nil => exact ⟨positive,closes⟩
  | .cons key v members =>
    rw [Json.Members.tokens,List.cons_append,List.cons_append,List.cons_append,List.append_assoc]
    exact closesFlat rfl positive (closesFlat rfl positive (closesFlat rfl positive
      (valueCloses v positive (membersClose members positive closes))))

end

theorem objectCloses (members : Json.Members) :
    ∃ body, (Json.Value.object members).tokens = .openObject::body ∧ Closes 1 body := by
  cases members with
  | nil => exact ⟨[.closeObject],rfl,by decide,rfl⟩
  | cons key v members =>
    refine ⟨_,rfl,closesFlat rfl (by decide) (closesFlat rfl (by decide) (valueCloses v (by decide) ?_))⟩
    have ends := @membersClose members 1 [] (by decide) rfl
    rwa [List.append_nil] at ends

def weights (ts : List Json.Token) : Int := (ts.map weight).sum

theorem closesLater {depth : Int} {ts more : List Json.Token} (closes : Closes depth (ts ++ more)) :
    Closes (depth + weights ts) more := by
  induction ts generalizing depth with
  | nil => simpa [weights] using closes
  | cons t ts ih =>
    have later := ih closes.2
    rwa [Int.add_assoc] at later

def Agree (s : Braces) : Json.Mode → Prop
  | .between => s.inString = false ∧ s.escape = false
  | .atom _ => s.inString = false ∧ s.escape = false
  | .string _ => s.inString = true ∧ s.escape = false
  | .escape _ => s.inString = true ∧ s.escape = true
  | .hex _ _ _ => s.inString = true ∧ s.escape = false

structure Scanned (s s' : Braces) (c : Char) (ts : List Json.Token) (m' : Json.Mode) : Prop where
  agree : Agree s' m'
  depth : s'.depth = s.depth + weights ts
  start : s'.start = s.start
  closes : s.closes c = if s.depth + weights ts = 0 then s.start else none

section Lexer
variable {s : Braces} {m m' : Json.Mode} {c : Char} {ts : List Json.Token}

theorem closesInside (inside : s.inString = true) (c : Char) : s.closes c = none :=
  if_neg (fun all => by rw [inside] at all; exact Bool.noConfusion all.2.1)

theorem scannedString (inside : s.inString = true) (positive : 0 < s.depth) {s' : Braces}
    (same : s'.depth = s.depth ∧ s'.start = s.start) (agree : Agree s' m') : Scanned s s' c [] m' where
  agree := agree
  depth := by rw [same.1]; exact (Int.add_zero _).symm
  start := same.2
  closes := by
    rw [closesInside inside,if_neg]
    rw [show weights [] = 0 from rfl]
    omega

theorem feedBetweenFlat (opens : c ≠ '{') (shuts : c ≠ '}') (quote : c ≠ '"') :
    weights (Json.feedBetween c).1 = 0 ∧ ((Json.feedBetween c).2 = .between ∨ (Json.feedBetween c).2 = .atom [c]) := by
  rw [Json.feedBetween]
  split
  · exact ⟨rfl,.inl rfl⟩
  · split
    · rename_i t mark
      refine ⟨?_,.inl rfl⟩
      unfold Json.punctuation at mark
      split at mark
      · cases mark; rfl
      · cases mark; rfl
      · exact absurd rfl opens
      · exact absurd rfl shuts
      · cases mark; rfl
      · cases mark; rfl
      · cases mark
    · exact ⟨rfl,.inr rfl⟩

theorem scannedOutside (outside : s.inString = false ∧ s.escape = false) (positive : 0 < s.depth) (i : Nat) (c : Char) :
    Scanned s (s.next i c) c (Json.feedBetween c).1 (Json.feedBetween c).2 := by
  obtain ⟨depth,start,inString,escape⟩ := s
  obtain ⟨rfl,rfl⟩ := outside
  dsimp only at positive
  by_cases opens : c = '{'
  · subst opens
    have fed : Json.feedBetween '{' = ([.openObject],.between) := rfl
    have next : Braces.next ⟨depth,start,false,false⟩ i '{' = ⟨depth + 1,start,false,false⟩ := by
      simp [Braces.next,Int.ne_of_gt positive]
    rw [fed,next]
    exact ⟨⟨rfl,rfl⟩,rfl,rfl,by rw [if_neg (by simp [weights,weight]; omega)]; simp [Braces.closes]⟩
  · by_cases shuts : c = '}'
    · subst shuts
      have fed : Json.feedBetween '}' = ([.closeObject],.between) := rfl
      have next : Braces.next ⟨depth,start,false,false⟩ i '}' = ⟨depth - 1,start,false,false⟩ := by
        simp [Braces.next]
      rw [fed,next]
      refine ⟨⟨rfl,rfl⟩,rfl,rfl,?_⟩
      simp [Braces.closes,weights,weight,Int.sub_eq_add_neg]
    · have closes : Braces.closes ⟨depth,start,false,false⟩ c = none := if_neg (fun all => shuts all.2.2.1)
      by_cases quote : c = '"'
      · subst quote
        have fed : Json.feedBetween '"' = ([],.string []) := rfl
        have next : Braces.next ⟨depth,start,false,false⟩ i '"' = ⟨depth,start,true,false⟩ := by
          simp [Braces.next,positive]
        rw [fed,next]
        exact ⟨⟨rfl,rfl⟩,(Int.add_zero _).symm,rfl,by rw [closes,if_neg (by simp [weights]; omega)]⟩
      · have next : Braces.next ⟨depth,start,false,false⟩ i c = ⟨depth,start,false,false⟩ := by
          simp [Braces.next,opens,shuts,quote]
        obtain ⟨flat,mode⟩ := feedBetweenFlat opens shuts quote
        have mode : Agree ⟨depth,start,false,false⟩ (Json.feedBetween c).2 := by
          rcases mode with same | same <;> rw [same] <;> exact ⟨rfl,rfl⟩
        rw [next]
        exact ⟨mode,by rw [flat]; exact (Int.add_zero _).symm,rfl,by rw [closes,flat,if_neg (by simp; omega)]⟩

theorem flushFlat (flushed : Json.flush m = some ts) : weights ts = 0 := by
  cases m with
  | between => cases flushed; rfl
  | atom read =>
    obtain ⟨scalar,-,rfl⟩ := Option.map_eq_some_iff.mp flushed
    rfl
  | string units => cases flushed
  | escape units => cases flushed
  | hex units digits value => cases flushed

theorem weightsAppend (ts more : List Json.Token) : weights (ts ++ more) = weights ts + weights more := by
  rw [weights,List.map_append,List.sum_append]
  rfl

theorem escapedPlain {u : Nat} (known : Json.hexValue c = some u) : c ≠ '\\' ∧ c ≠ '"' := by
  constructor <;> rintro rfl <;> exact absurd known (by rw [show Json.hexValue _ = none from by decide]; simp)

theorem feedScanned (agree : Agree s m) (positive : 0 < s.depth) (fed : Json.feed m c = some (ts,m')) (i : Nat) :
    Scanned s (s.next i c) c ts m' := by
  cases m with
  | between =>
    have same : Json.feedBetween c = (ts,m') := Option.some.inj fed
    have outside := scannedOutside agree positive i c
    rw [same] at outside
    exact outside
  | atom read =>
    have outside := scannedOutside agree positive i c
    simp only [Json.feed] at fed
    split at fed
    · obtain ⟨ended,flushed,same⟩ := Option.map_eq_some_iff.mp fed
      cases same
      have total : weights (ended ++ (Json.feedBetween c).1) = weights (Json.feedBetween c).1 := by
        rw [weightsAppend,flushFlat flushed,Int.zero_add]
      exact ⟨outside.agree,by rw [total]; exact outside.depth,outside.start,by rw [total]; exact outside.closes⟩
    · rename_i inside
      cases fed
      have plain : c ≠ '{' ∧ c ≠ '}' ∧ c ≠ '"' := by
        refine ⟨?_,?_,?_⟩ <;> rintro rfl <;> exact inside rfl
      obtain ⟨opens,shuts,quote⟩ := plain
      have next : s.next i c = s := by
        rw [Braces.next,if_neg (by simp [agree.2]),if_neg (by simp [agree.1]),if_neg (fun both => quote both.1),
          if_neg opens,if_neg shuts]
      rw [next]
      refine ⟨agree,(Int.add_zero _).symm,rfl,?_⟩
      rw [Braces.closes,if_neg (fun all => shuts all.2.2.1),if_neg (by simp [weights]; omega)]
  | string units =>
    obtain ⟨inside,plain⟩ := agree
    have open_ : s.escape ≠ true := by simp [plain]
    simp only [Json.feed] at fed
    split at fed
    · rename_i quote
      cases fed
      have next : s.next i c = {s with inString := false} := by
        rw [Braces.next,if_neg open_,if_pos inside,quote]
        rfl
      rw [next]
      refine ⟨⟨rfl,plain⟩,(Int.add_zero _).symm,rfl,?_⟩
      rw [closesInside inside,if_neg (by simp [weights,weight]; omega)]
    · rename_i quote
      split at fed
      · rename_i slash
        cases fed
        have next : s.next i c = {s with escape := true} := by
          rw [Braces.next,if_neg open_,if_pos inside,if_pos slash]
        rw [next]
        exact scannedString inside positive ⟨rfl,rfl⟩ ⟨inside,rfl⟩
      · rename_i slash
        split at fed
        · cases fed
        · cases fed
          have next : s.next i c = s := by
            rw [Braces.next,if_neg open_,if_pos inside,if_neg slash,if_neg quote]
          rw [next]
          exact scannedString inside positive ⟨rfl,rfl⟩ ⟨inside,plain⟩
  | escape units =>
    obtain ⟨inside,escaped⟩ := agree
    have next : s.next i c = {s with escape := false} := by rw [Braces.next,if_pos escaped]
    have quiet (m' : Json.Mode) (agree : Agree {s with escape := false} m') : Scanned s (s.next i c) c [] m' := by
      rw [next]
      exact scannedString inside positive ⟨rfl,rfl⟩ agree
    simp only [Json.feed] at fed
    split at fed
    · cases fed
      exact quiet _ ⟨inside,rfl⟩
    · obtain ⟨u,-,same⟩ := Option.map_eq_some_iff.mp fed
      cases same
      exact quiet _ ⟨inside,rfl⟩
  | hex units digits value =>
    obtain ⟨inside,plain⟩ := agree
    obtain ⟨d,known,same⟩ := Option.map_eq_some_iff.mp fed
    obtain ⟨slash,quote⟩ := escapedPlain known
    have next : s.next i c = s := by
      rw [Braces.next,if_neg (by simp [plain]),if_pos inside,if_neg slash,if_neg quote]
    rw [next]
    split at same <;> cases same
    · exact scannedString inside positive ⟨rfl,rfl⟩ ⟨inside,plain⟩
    · exact scannedString inside positive ⟨rfl,rfl⟩ ⟨inside,plain⟩

theorem feedBrace (fed : Json.feed m '}' = some (ts,m')) {more : List Json.Token} (flushed : Json.flush m' = some more) :
    more = [] := by
  cases m with
  | between => cases fed; cases flushed; rfl
  | atom read =>
    obtain ⟨ended,-,same⟩ := Option.map_eq_some_iff.mp (show (Json.flush (.atom read)).map
      (fun ended => (ended ++ [.closeObject],Json.Mode.between)) = some (ts,m') from fed)
    cases same
    cases flushed
    rfl
  | string units => cases fed; cases flushed
  | escape units => cases fed
  | hex units digits value => cases fed

theorem scanCloses {text rest more : Text} {i start : Nat} (agree : Agree s m) (positive : 0 < s.depth)
    (started : s.start = some start) (lexed : Json.lexFrom m rest = some ts) (closes : Closes s.depth ts)
    (last : rest.getLast? = some '}') :
    countBraces text s i (rest ++ more) = some (slice text start (i + rest.length)) := by
  induction rest generalizing s m ts i with
  | nil => cases last
  | cons c rest ih =>
    rw [Json.lexFrom] at lexed
    split at lexed
    · cases lexed
    · rename_i ts₁ m' fed
      obtain ⟨ts₂,later,rfl⟩ := Option.map_eq_some_iff.mp lexed
      have scanned := feedScanned agree positive fed i
      have left := closesLater closes
      rw [List.cons_append,countBraces,scanned.closes]
      cases ts₂ with
      | nil =>
        -- nothing is left to read after the brace that closes the object
        have done : rest = [] := by
          cases rest with
          | nil => rfl
          | cons d rest =>
            have between : m' = .between := by
              by_contra inside
              exact Json.lexOpen inside later
            subst between
            rw [List.getLast?_cons_cons] at last
            exact absurd (Json.lexNothing later _ (List.mem_of_getLast? last)) (by decide)
        subst done
        rw [if_pos (show s.depth + weights ts₁ = 0 from left),started]
        rfl
      | cons t ts₂ =>
        have unfinished : rest ≠ [] := by
          rintro rfl
          cases last
          cases feedBrace fed later
        rw [if_neg (by have := left.1; omega)]
        dsimp only
        rw [ih scanned.agree (by rw [scanned.depth]; exact left.1) (scanned.start.trans started) later
          (by rw [scanned.depth]; exact left) (by rwa [List.getLast?_cons_of_ne_nil unfinished] at last),
          List.length_cons,Nat.add_right_comm,Nat.add_assoc]

end Lexer

structure SerializedObject (o : Text) : Prop where
  object : ∃ members, Json.parse o = some (.object members)
  opens : o.head? = some '{'
  shuts : o.getLast? = some '}'

theorem scanObject {text o more : Text} {i : Nat} (object : SerializedObject o) :
    countBraces text .first i (o ++ more) = some (slice text i (i + o.length)) := by
  obtain ⟨members,parsed⟩ := object.object
  obtain ⟨body,rfl⟩ := List.head?_eq_some_iff.mp object.opens
  obtain ⟨ts,same,closes⟩ := objectCloses members
  have lexed := Json.parseIff.mp parsed
  have fed : Json.feed .between '{' = some ([.openObject],.between) := rfl
  rw [Json.lex,Json.lexFrom,fed,same] at lexed
  obtain ⟨ts',later,tail⟩ := Option.map_eq_some_iff.mp lexed
  cases tail
  have nonempty : body ≠ [] := by
    rintro rfl
    exact absurd object.shuts (by decide)
  have last := object.shuts
  rw [List.getLast?_cons_of_ne_nil nonempty] at last
  have started : Braces.first.next i '{' = ⟨1,some i,false,false⟩ := rfl
  rw [List.cons_append,countBraces,show Braces.first.closes '{' = none from rfl]
  dsimp only
  have outside : Agree ⟨1,some i,false,false⟩ .between := ⟨rfl,rfl⟩
  have rest : countBraces text ⟨1,some i,false,false⟩ (i + 1) (body ++ more) =
      some (slice text i (i + 1 + body.length)) := scanCloses outside Int.one_pos rfl later closes last
  rw [started,rest,List.length_cons,Nat.add_right_comm,Nat.add_assoc]

def bump (c : Char) : Int := if c = '{' then 1 else if c = '}' then -1 else 0

/-- A text in whose end, and before none of whose opening braces, as many braces have
opened as closed, from `depth` on. -/
def FirstOpen : Int → Text → Prop
  | depth,[] => depth = 0
  | depth,c::a => ¬ (depth = 0 ∧ c = '{') ∧ FirstOpen (depth + bump c) a

theorem nextOutside {depth : Int} {i : Nat} {c : Char} (low : depth ≤ 0) :
    (depth = 0 ∧ c = '{') ∨ (Braces.next ⟨depth,none,false,false⟩ i c = ⟨depth + bump c,none,false,false⟩ ∧
      depth + bump c ≤ 0) := by
  by_cases opens : c = '{'
  · by_cases zero : depth = 0
    · exact .inl ⟨zero,opens⟩
    · refine .inr ⟨?_,by rw [bump,if_pos opens]; omega⟩
      simp [Braces.next,bump,opens,zero]
  · by_cases shuts : c = '}'
    · refine .inr ⟨?_,by rw [bump,if_neg opens,if_pos shuts]; omega⟩
      simp [Braces.next,bump,shuts,Int.sub_eq_add_neg]
    · refine .inr ⟨?_,by rw [bump,if_neg opens,if_neg shuts]; omega⟩
      have high : ¬ 0 < depth := by omega
      simp [Braces.next,bump,opens,shuts,high]

theorem closesOutside {depth : Int} {c : Char} : Braces.closes ⟨depth,none,false,false⟩ c = none := by
  rw [Braces.closes]
  split <;> rfl

theorem scanReaches {text a rest : Text} {depth : Int} {i : Nat} (low : depth ≤ 0) (reached : FirstOpen depth a) :
    countBraces text ⟨depth,none,false,false⟩ i (a ++ rest) = countBraces text .first (i + a.length) rest := by
  induction a generalizing depth i with
  | nil =>
    cases (show depth = 0 from reached)
    rfl
  | cons c a ih =>
    obtain ⟨next,low⟩ := (nextOutside (i := i) low).resolve_left reached.1
    rw [List.cons_append,countBraces,closesOutside]
    dsimp only
    rw [next,ih low reached.2,List.length_cons,Nat.add_right_comm,Nat.add_assoc]

theorem startedKeeps {s : Braces} {start : Nat} {c : Char} (i : Nat) (started : s.start = some start)
    (positive : 0 < s.depth) (stays : s.closes c = none) : (s.next i c).start = some start ∧ 0 < (s.next i c).depth := by
  obtain ⟨depth,_,inString,escape⟩ := s
  cases started
  dsimp only at positive
  unfold Braces.next
  split
  · exact ⟨rfl,positive⟩
  · rename_i plain
    split
    · split
      · exact ⟨rfl,positive⟩
      · split <;> exact ⟨rfl,positive⟩
    · rename_i outside
      split
      · exact ⟨rfl,positive⟩
      · split
        · exact ⟨if_neg (Int.ne_of_gt positive),by dsimp only; omega⟩
        · split
          · rename_i shuts
            refine ⟨rfl,?_⟩
            have more : depth - 1 ≠ 0 := by
              intro last
              rw [Braces.closes,if_pos ⟨by simpa using plain,by simpa using outside,shuts,last⟩] at stays
              cases stays
            dsimp only
            omega
          · exact ⟨rfl,positive⟩

theorem scanStarted {text rest r : Text} {s : Braces} {i start : Nat} (started : s.start = some start)
    (positive : 0 < s.depth) (found : countBraces text s i rest = some r) : ∃ stop, r = slice text start stop := by
  induction rest generalizing s i with
  | nil => cases found
  | cons c rest ih =>
    rw [countBraces] at found
    split at found
    · rename_i place closes
      cases found
      rw [Braces.closes] at closes
      split at closes
      · cases started.symm.trans closes
        exact ⟨_,rfl⟩
      · cases closes
    · rename_i stays
      have kept := startedKeeps i started positive stays
      exact ih kept.1 kept.2 found

theorem scanFound {text rest r : Text} {depth : Int} {i : Nat} (low : depth ≤ 0)
    (found : countBraces text ⟨depth,none,false,false⟩ i rest = some r) :
    ∃ a more stop, rest = a ++ '{'::more ∧ FirstOpen depth a ∧ r = slice text (i + a.length) stop := by
  induction rest generalizing depth i with
  | nil => cases found
  | cons c rest ih =>
    rw [countBraces,closesOutside] at found
    dsimp only at found
    rcases nextOutside (i := i) (c := c) low with ⟨rfl,rfl⟩ | ⟨next,low⟩
    -- from the first brace at depth 0 on the start stays where it is
    · have started : Braces.next ⟨0,none,false,false⟩ i '{' = ⟨1,some i,false,false⟩ := rfl
      rw [started] at found
      obtain ⟨stop,same⟩ := scanStarted rfl Int.one_pos found
      exact ⟨[],rest,stop,rfl,rfl,same⟩
    · rw [next] at found
      obtain ⟨a,more,stop,rfl,reached,same⟩ := ih low found
      have here : ¬ (depth = 0 ∧ c = '{') := by
        rintro ⟨rfl,rfl⟩
        exact absurd low (by decide)
      refine ⟨c::a,more,stop,rfl,⟨here,reached⟩,?_⟩
      rw [same,List.length_cons,Nat.add_right_comm,Nat.add_assoc]

theorem scanIff {text o : Text} (object : SerializedObject o) :
    countBraces text .first 0 text = some o ↔ ∃ a b, text = a ++ o ++ b ∧ FirstOpen 0 a := by
  constructor
  · intro found
    obtain ⟨a,more,stop,shape,reached,same⟩ := scanFound (Int.le_refl 0) found
    have front : o <+: text.drop a.length := by
      rw [same,slice,Nat.zero_add]
      exact List.take_prefix _ _
    obtain ⟨b,tail⟩ := front
    refine ⟨a,b,?_,reached⟩
    rw [List.append_assoc,tail,shape,List.drop_left]
  · rintro ⟨a,b,rfl,reached⟩
    have scanned : countBraces (a ++ o ++ b) .first 0 (a ++ (o ++ b)) = _ := scanReaches (Int.le_refl 0) reached
    rw [List.append_assoc] at scanned ⊢
    rw [scanned,Nat.zero_add,scanObject object,← List.append_assoc,← List.length_append,sliceAppend]

theorem plainReaches {a : Text} (opens : '{' ∉ a) (shuts : '}' ∉ a) : FirstOpen 0 a := by
  induction a with
  | nil => rfl
  | cons c a ih =>
    rw [List.mem_cons,not_or] at opens shuts
    have flat : bump c = 0 := by rw [bump,if_neg (Ne.symm opens.1),if_neg (Ne.symm shuts.1)]
    exact ⟨fun both => opens.1 both.2.symm,by rw [flat]; exact ih opens.2 shuts.2⟩

def Fenced (o : Text) : Prop := (∃ inner, jsonFence ++ inner ++ fence <:+: o) ∨
  ∃ front rest inner back, cut fence o = some (front,rest) ∧ cut fence rest = some (inner,back) ∧
    (trim inner).head? = some '{'

section Fences
variable {pre o suf word : Text}

theorem jsonBlockIff : jsonBlock o ≠ none ↔ ∃ inner, jsonFence ++ inner ++ fence <:+: o := by
  constructor
  · intro some_
    rw [jsonBlock] at some_
    split at some_
    · exact absurd rfl some_
    · rename_i x after marked
      cases closed : cut fence after with
      | none =>
        rw [closed] at some_
        exact absurd rfl some_
      | some p =>
        refine ⟨p.1,x,p.2,?_⟩
        have shape := cutSome marked
        rw [cutSome closed] at shape
        simpa using shape.symm
  · rintro ⟨inner,a,b,shape⟩
    have marked : jsonFence <:+: o := ⟨a,inner ++ fence ++ b,by simpa using shape⟩
    cases found : cut jsonFence o with
    | none => exact absurd marked (cutNone found)
    | some p =>
      have occurs : o = a ++ jsonFence ++ (inner ++ fence ++ b) := by simpa using shape.symm
      have early := cutFirst found occurs
      have first := cutSome found
      have whole : p.1 ++ jsonFence ++ p.2 = a ++ jsonFence ++ inner ++ (fence ++ b) := by
        rw [← first,← shape]
        simp
      -- the closing fence stands after the first mark as well
      have closed : fence <:+: p.2 := by
        rcases List.append_eq_append_iff.mp whole with ⟨k,-,rest⟩ | ⟨k,front,rest⟩
        · exact ⟨k,b,by rw [rest,List.append_assoc]⟩
        · have none_ : k = [] := by
            have := congrArg List.length front
            simp only [List.length_append] at this
            exact List.length_eq_zero_iff.mp (by omega)
          rw [none_,List.nil_append] at rest
          exact ⟨[],b,rest⟩
      intro none_
      rw [jsonBlock,found] at none_
      exact cutNone (Option.map_eq_none_iff.mp none_) closed

theorem plainBlockIff : plainBlock o ≠ none ↔ ∃ front rest inner back, cut fence o = some (front,rest) ∧
    cut fence rest = some (inner,back) ∧ (trim inner).head? = some '{' := by
  rw [plainBlock]
  constructor
  · intro some_
    split at some_
    · exact absurd rfl some_
    · rename_i front rest opened
      split at some_
      · exact absurd rfl some_
      · rename_i inner back closed
        split at some_
        · rename_i brace
          exact ⟨front,rest,inner,back,opened,closed,brace⟩
        · exact absurd rfl some_
  · rintro ⟨front,rest,inner,back,opened,closed,brace⟩
    rw [opened]
    dsimp only
    rw [closed]
    dsimp only
    rw [if_pos brace]
    exact Option.some_ne_none _

theorem trimLength (s : Text) : (trim s).length ≤ s.length := by
  obtain ⟨before,after,shape,-⟩ := trimSplit s
  have := congrArg List.length shape
  simp only [List.length_append] at this
  omega

theorem innerLength {front rest inner back : Text} (marked : cut word o = some (front,rest)) (long : word ≠ [])
    (closed : cut fence rest = some (inner,back)) : (trim inner).length < o.length := by
  have whole := congrArg List.length (cutSome marked)
  have part := congrArg List.length (cutSome closed)
  simp only [List.length_append] at whole part
  have := trimLength inner
  have := List.length_pos_of_ne_nil long
  omega

theorem jsonBlockShort {block : Text} (found : jsonBlock o = some block) : block.length < o.length := by
  rw [jsonBlock] at found
  split at found
  · cases found
  · rename_i front rest marked
    obtain ⟨p,closed,rfl⟩ := Option.map_eq_some_iff.mp found
    exact innerLength marked (by decide) closed

theorem plainBlockShort {block : Text} (found : plainBlock o = some block) : block.length < o.length := by
  rw [plainBlock] at found
  split at found
  · cases found
  · rename_i front rest marked
    split at found
    · cases found
    · rename_i inner back closed
      split at found
      · cases found
        exact innerLength marked (by decide) closed
      · cases found

theorem cutObject (opens : o.head? = some '{') (shuts : o.getLast? = some '}') (marks : '{' ∉ word ∧ '}' ∉ word)
    (nonempty : word ≠ []) (before : ¬ word <:+: pre) (after : ¬ word <:+: suf) :
    cut word (pre ++ o ++ suf) = (cut word o).map fun p => (pre ++ p.1,p.2 ++ suf) := by
  obtain ⟨front,rfl⟩ := List.getLast?_eq_some_iff.mp shuts
  obtain ⟨back,same⟩ := List.head?_eq_some_iff.mp opens
  rw [List.append_assoc pre,same,List.cons_append,cutPrepend marks.1 before,← List.cons_append,← same,
    cutExtend marks.2 nonempty after,Option.map_map]
  rfl

theorem cutRest {front rest : Text} (shuts : o.getLast? = some '}') (mark : '}' ∉ word) (nonempty : word ≠ [])
    (found : cut word o = some (front,rest)) : rest.getLast? = some '}' := by
  rw [cutSome found] at shuts
  cases rest with
  | nil =>
    rw [List.append_nil,List.getLast?_append,List.getLast?_eq_some_getLast nonempty] at shuts
    exact absurd (Option.some.inj shuts ▸ List.getLast_mem nonempty) mark
  | cons c rest => rwa [List.getLast?_append_cons] at shuts

theorem fenceMarks : ('{' ∉ fence ∧ '}' ∉ fence) ∧ '{' ∉ jsonFence ∧ '}' ∉ jsonFence := by decide

theorem jsonFenceAbsent {s : Text} (absent : ¬ fence <:+: s) : ¬ jsonFence <:+: s :=
  fun marked => absent (List.IsInfix.trans (by decide) marked)

theorem cutAfter {front rest : Text} (shuts : o.getLast? = some '}') (mark : '}' ∉ word) (nonempty : word ≠ [])
    (found : cut word o = some (front,rest)) (after : ¬ fence <:+: suf) :
    cut fence (rest ++ suf) = (cut fence rest).map fun p => (p.1,p.2 ++ suf) := by
  obtain ⟨inner,rfl⟩ := List.getLast?_eq_some_iff.mp (cutRest shuts mark nonempty found)
  exact cutExtend fenceMarks.1.2 (by decide) after

theorem jsonBlockObject (opens : o.head? = some '{') (shuts : o.getLast? = some '}') (before : ¬ fence <:+: pre)
    (after : ¬ fence <:+: suf) : jsonBlock (pre ++ o ++ suf) = jsonBlock o := by
  rw [jsonBlock,cutObject opens shuts fenceMarks.2 (by decide) (jsonFenceAbsent before) (jsonFenceAbsent after),jsonBlock]
  cases found : cut jsonFence o with
  | none => rfl
  | some p =>
    rw [Option.map_some]
    dsimp only
    rw [cutAfter shuts fenceMarks.2.2 (by decide) found after,Option.map_map]
    rfl

theorem plainBlockObject (opens : o.head? = some '{') (shuts : o.getLast? = some '}') (before : ¬ fence <:+: pre)
    (after : ¬ fence <:+: suf) : plainBlock (pre ++ o ++ suf) = plainBlock o := by
  rw [plainBlock,cutObject opens shuts fenceMarks.1 (by decide) before after,plainBlock]
  cases found : cut fence o with
  | none => rfl
  | some p =>
    rw [Option.map_some]
    dsimp only
    rw [cutAfter shuts fenceMarks.1.2 (by decide) found after]
    cases cut fence p.2 <;> rfl

end Fences

theorem objectRecovered (pre o suf : Text) (object : SerializedObject o) (before : ¬ fence <:+: pre)
    (after : ¬ fence <:+: suf) (few : braces (pre ++ o ++ suf) < 2^31) : extractJson (pre ++ o ++ suf) = some o ↔
      ¬ Fenced o ∧ ∃ a b, pre ++ o ++ suf = a ++ o ++ b ∧ FirstOpen 0 a := by
  rw [Fenced,← jsonBlockIff,← plainBlockIff,extractJson,jsonBlockObject object.opens object.shuts before after,
    plainBlockObject object.opens object.shuts before after]
  cases marked : jsonBlock o with
  | some block =>
    have short := jsonBlockShort marked
    refine iff_of_false (fun same => ?_) (fun both => both.1 (.inl (Option.some_ne_none block)))
    cases same
    exact Nat.lt_irrefl _ short
  | none =>
    cases plain : plainBlock o with
    | some block =>
      have short := plainBlockShort plain
      refine iff_of_false (fun same => ?_) (fun both => both.1 (.inr (Option.some_ne_none block)))
      cases same
      exact Nat.lt_irrefl _ short
    | none =>
      have bare : ¬ ((none : Option Text) ≠ none ∨ (none : Option Text) ≠ none) := by simp
      dsimp only
      have counted : scanBraces (pre ++ o ++ suf) .first 0 (pre ++ o ++ suf) = countBraces (pre ++ o ++ suf) .first 0
          (pre ++ o ++ suf) := scanCounts (by rwa [show Braces.first.depth.natAbs = 0 from rfl,Nat.zero_add])
      rw [counted,scanIff object]
      exact ⟨fun reached => ⟨bare,reached⟩,And.right⟩

def braceInString : Text := "\x7b\"a\": \"\x7d\\\"\"\x7d".toList

theorem braceInStringObject : SerializedObject braceInString := ⟨⟨_,rfl⟩,rfl,rfl⟩

theorem braceInStringRecovered :
    extractJson ("Found it: ".toList ++ braceInString ++ ", \"done\"".toList) = some braceInString := by
  have bare : ¬ Fenced braceInString := fun fenced =>
    fenced.elim (fun marked => jsonBlockIff.mpr marked rfl) (fun plain => plainBlockIff.mpr plain rfl)
  exact (objectRecovered "Found it: ".toList braceInString ", \"done\"".toList braceInStringObject (by decide)
    (by decide) (by decide)).mpr ⟨bare,_,_,rfl,plainReaches (by decide) (by decide)⟩

theorem strayBraceHides : ¬ ∀ pre o suf : Text, SerializedObject o → '{' ∉ pre → ¬ fence <:+: pre →
    ¬ fence <:+: suf → extractJson (pre ++ o ++ suf) = some o := by
  intro recovered
  have empty : SerializedObject ['{','}'] := ⟨⟨_,rfl⟩,rfl,rfl⟩
  have none : extractJson (['}'] ++ ['{','}'] ++ []) = none := by decide
  have found := recovered ['}'] ['{','}'] [] empty (by decide) (by decide) (by decide)
  rw [none] at found
  cases found

end Vscreen.Vision
