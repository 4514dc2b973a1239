import Vscreen.Text
import Vscreen.Utf8

/-! The token of a server that has one (middleware.rs), and how the test client hands it over
(client.ts): in the URL of the WebSocket that it signals on, and in a header of its requests.
The middleware compares the text of the query as it stands there. -/
namespace Vscreen.Auth

structure Request where
  path : Text
  query : Option Text
  authorization : Option (List Byte)

def visible (b : Byte) : Bool := (32 ≤ b && b < 127) || b == 9

def toStr (value : List Byte) : Option Text :=
  if value.all visible then some (value.map fun b => Char.ofNat b.toNat) else none

def authMiddleware (authToken : Option Text) (request : Request) : Bool := match authToken with
  | none => true
  | some token =>
    if request.path = "/health".toList ∨ request.path = "/metrics".toList then true
    else if "/signal/".toList.isPrefixOf request.path then
      match request.query with
      | none => false
      | some query => (Text.split '&' query).any fun param => Text.stripPrefix "token=".toList param == some token
    else match request.authorization.bind toStr with
      | none => false
      | some auth => Text.stripPrefix "Bearer ".toList auth == some token

def isJsSpace (c : Char) : Bool := (isWhitespace c && c.toNat != 0x85) || c.toNat == 0xFEFF

def jsTrim (s : Text) : Text := (s.rdropWhile isJsSpace).dropWhile isJsSpace

def unreserved (c : Char) : Bool := c.isAlphanum || [45,95,46,33,126,42,39,40,41].contains c.toNat

def hexDigit (n : Nat) : Char := if n < 10 then Char.ofNat (48 + n) else Char.ofNat (55 + n)

def percentByte (b : Byte) : Text := ['%',hexDigit (b.toNat / 16),hexDigit (b.toNat % 16)]

def percentChar (c : Char) : Text := (String.utf8EncodeChar c).flatMap percentByte

def encodeURIComponent (s : Text) : Text := s.flatMap fun c => if unreserved c then [c] else percentChar c

def signalUrl (origin raw : Text) : Text := if "/".toList.isPrefixOf raw then origin ++ raw else raw

def connectUrl (origin raw tokenInput : Text) : Text :=
  let url := signalUrl origin (jsTrim raw)
  let token := jsTrim tokenInput
  if token = [] then url
  else url ++ (if '?' ∈ url then ['&'] else ['?']) ++ "token=".toList ++ encodeURIComponent token

def navigateHeader (tokenInput : Text) : Option (Option (List Byte)) :=
  let token := jsTrim tokenInput
  if token = [] then some none
  else if token.all (fun c => c.toNat < 256 && !([0,10,13] : List Nat).contains c.toNat) then
    some (some (("Bearer ".toList ++ token).map fun c => UInt8.ofNat c.toNat))
  else none

def queryChar (c : Char) : Text :=
  if c.toNat ≤ 32 ∨ 126 < c.toNat ∨ c.toNat ∈ [34,35,39,60,62] then percentChar c else [c]

def cleaned (url : Text) : Text :=
  ((url.rdropWhile fun c => c.toNat ≤ 32).filter fun c => !([9,10,13] : List Nat).contains c.toNat).takeWhile (· != '#')

def sentQuery (url : Text) : Option Text := (Text.splitOnce '?' (cleaned url)).map fun parts => parts.2.flatMap queryChar

/-- A URL without spaces, control characters and a fragment. -/
def Plain (url : Text) : Prop := ∀ c ∈ url, 32 < c.toNat ∧ c ≠ '#'

def Tokenless (url : Text) : Prop :=
  ∀ query, sentQuery url = some query → ∀ param ∈ Text.split '&' query, ¬ "token=".toList <+: param

theorem hexDigitAscii {n : Nat} (small : n < 16) : 32 < (hexDigit n).toNat ∧ (hexDigit n).toNat ≤ 126 ∧
    (hexDigit n).toNat ∉ [34,35,38,39,60,62] := by
  have all : ∀ i : Fin 16, 32 < (hexDigit i).toNat ∧ (hexDigit i).toNat ≤ 126 ∧
      (hexDigit i).toNat ∉ [34,35,38,39,60,62] := by decide
  exact all ⟨n,small⟩

theorem percentAscii {c d : Char} (member : d ∈ percentChar c) : 32 < d.toNat ∧ d.toNat ≤ 126 ∧
    d.toNat ∉ [34,35,38,39,60,62] := by
  obtain ⟨b,-,inside⟩ := List.mem_flatMap.mp member
  have small := b.toNat_lt
  rcases List.mem_cons.mp inside with rfl | inside
  · decide
  · rcases List.mem_cons.mp inside with rfl | inside
    · exact hexDigitAscii (by omega)
    · rw [List.mem_singleton] at inside
      subst inside
      exact hexDigitAscii (by omega)

theorem unreservedAscii {c : Char} (plain : unreserved c = true) : 32 < c.toNat ∧ c.toNat ≤ 126 ∧
    c.toNat ∉ [34,35,38,60,62] := by
  have small : c.toNat < 128 := by
    have letters : c.isAlphanum = (decide ('A'.val ≤ c.val ∧ c.val ≤ 'Z'.val) ||
      (decide ('a'.val ≤ c.val) && decide (c.val ≤ 'z'.val)) || (decide ('0'.val ≤ c.val) && decide (c.val ≤ '9'.val))) := rfl
    rw [unreserved,letters] at plain
    simp only [Bool.or_eq_true,Bool.and_eq_true,decide_eq_true_eq,List.contains_eq_mem,UInt32.le_iff_toNat_le] at plain
    have value : c.val.toNat = c.toNat := rfl
    simp only [List.mem_cons,List.not_mem_nil,or_false] at plain
    rcases plain with ((upper | lower) | digit) | other
    · have : c.toNat ≤ 90 := upper.2
      omega
    · have : c.toNat ≤ 122 := lower.2
      omega
    · have : c.toNat ≤ 57 := digit.2
      omega
    · omega
  revert plain
  exact Text.forallAscii (p := fun c => unreserved c = true → 32 < c.toNat ∧ c.toNat ≤ 126 ∧
    c.toNat ∉ [34,35,38,60,62]) (by decide) c small

theorem querySame {c : Char} (plain : 32 < c.toNat ∧ c.toNat ≤ 126 ∧ c.toNat ∉ [34,35,39,60,62]) : queryChar c = [c] := by
  refine if_neg ?_
  rintro (low | high | listed)
  · omega
  · omega
  · exact plain.2.2 listed

def survives (c : Char) : Bool := unreserved c && c.toNat != 39

def wire (token : Text) : Text := (encodeURIComponent token).flatMap queryChar

theorem percentSame (c : Char) : (percentChar c).flatMap queryChar = percentChar c := by
  have each : ∀ d ∈ percentChar c, queryChar d = [d] := by
    intro d member
    obtain ⟨low,high,other⟩ := percentAscii member
    refine querySame ⟨low,high,fun listed => other ?_⟩
    simp only [List.mem_cons,List.not_mem_nil,or_false] at listed ⊢
    omega
  rw [List.flatMap_congr each,List.flatMap_singleton']

theorem wireChars (token : Text) : wire token = token.flatMap fun c => if survives c then [c] else percentChar c := by
  rw [wire,encodeURIComponent,List.flatMap_assoc]
  refine List.flatMap_congr fun c _ => ?_
  cases plain : unreserved c with
  | false =>
    rw [if_neg (by decide),percentSame]
    simp [survives,plain]
  | true =>
    obtain ⟨low,high,other⟩ := unreservedAscii plain
    rw [if_pos rfl,List.flatMap_singleton]
    by_cases quote : c.toNat = 39
    · rw [queryChar,if_pos (by simp [quote])]
      simp [survives,quote]
    · rw [querySame ⟨low,high,fun listed => other ?_⟩]
      · simp [survives,plain,quote]
      · simp only [List.mem_cons,List.not_mem_nil,or_false] at listed ⊢
        omega

theorem percentLength (c : Char) : 3 ≤ (percentChar c).length := by
  have bytes : 0 < (String.utf8EncodeChar c).length := by
    rw [String.length_utf8EncodeChar]
    exact Char.utf8Size_pos c
  cases encoded : String.utf8EncodeChar c with
  | nil => rw [encoded] at bytes; exact absurd bytes (by decide)
  | cons b rest =>
    rw [percentChar,encoded,List.flatMap_cons,List.length_append]
    exact Nat.le_add_right 3 _

theorem wireGrows (token : Text) : token.length ≤ (wire token).length := by
  rw [wireChars]
  induction token with
  | nil => exact Nat.le_refl _
  | cons c rest ih =>
    rw [List.flatMap_cons,List.length_append,List.length_cons]
    split
    · rw [List.length_singleton]
      omega
    · have long := percentLength c
      omega

theorem wireSame (token : Text) : wire token = token ↔ ∀ c ∈ token, survives c = true := by
  induction token with
  | nil => exact ⟨fun _ c absurd => (by cases absurd),fun _ => rfl⟩
  | cons c rest ih =>
    have parts : wire (c::rest) = (if survives c then [c] else percentChar c) ++ wire rest := by
      rw [wireChars,wireChars,List.flatMap_cons]
    rw [parts,List.forall_mem_cons]
    cases plain : survives c with
    | true =>
      rw [if_pos rfl,List.singleton_append,List.cons.injEq,ih]
      exact ⟨fun same => ⟨rfl,same.2⟩,fun same => ⟨rfl,same.2⟩⟩
    | false =>
      rw [if_neg (by decide)]
      refine ⟨fun same => ?_,fun absurd => (by cases absurd.1)⟩
      have lengths := congrArg List.length same
      have long := percentLength c
      have more := wireGrows rest
      rw [List.length_append,List.length_cons] at lengths
      omega

theorem wireUnsplit (token : Text) : '&' ∉ wire token := by
  rw [wireChars]
  intro member
  obtain ⟨c,-,inside⟩ := List.mem_flatMap.mp member
  split at inside
  · rename_i plain
    rw [List.mem_singleton] at inside
    subst inside
    revert plain
    decide
  · exact (percentAscii inside).2.2 (by decide)

theorem plainAppend {a b : Text} (first : Plain a) (second : Plain b) : Plain (a ++ b) := by
  intro c member
  rcases List.mem_append.mp member with left | right
  · exact first c left
  · exact second c right

theorem cleanedPlain {url : Text} (plain : Plain url) : cleaned url = url := by
  have ended : url.rdropWhile (fun c => c.toNat ≤ 32) = url := by
    refine List.rdropWhile_eq_self_iff.mpr fun nonempty => ?_
    have visible := (plain _ (List.getLast_mem nonempty)).1
    simpa using visible
  have unbroken : url.filter (fun c => !([9,10,13] : List Nat).contains c.toNat) = url := by
    refine List.filter_eq_self.mpr fun c member => ?_
    have visible := (plain c member).1
    simp
    omega
  rw [cleaned,ended,unbroken]
  refine List.takeWhile_eq_self_iff.mpr fun c member => ?_
  simpa using (plain c member).2

theorem tokenPlain (token : Text) : Plain ("token=".toList ++ encodeURIComponent token) := by
  intro c member
  have named : ∀ c ∈ "token=".toList, 32 < c.toNat ∧ c ≠ '#' := forallListed (by decide)
  rcases List.mem_append.mp member with name | value
  · exact named c name
  · obtain ⟨d,-,inside⟩ := List.mem_flatMap.mp value
    have ascii : 32 < c.toNat ∧ c.toNat ≠ 35 := by
      split at inside
      · rename_i plain
        rw [List.mem_singleton] at inside
        subst inside
        obtain ⟨low,-,other⟩ := unreservedAscii plain
        exact ⟨low,fun same => other (by rw [same]; decide)⟩
      · obtain ⟨low,-,other⟩ := percentAscii inside
        exact ⟨low,fun same => other (by rw [same]; decide)⟩
    exact ⟨ascii.1,fun same => ascii.2 (by rw [same]; rfl)⟩

theorem sentPlain {url rest : Text} (plain : Plain (url ++ '?'::rest)) (absent : '?' ∉ url) :
    sentQuery (url ++ '?'::rest) = some (rest.flatMap queryChar) := by
  rw [sentQuery,cleanedPlain plain,Text.splitOnceFirst rest absent]
  rfl

theorem sentMore {url rest query : Text} (first : Plain url) (plain : Plain (url ++ rest)) (sent : sentQuery url = some query) :
    sentQuery (url ++ rest) = some (query ++ rest.flatMap queryChar) := by
  rw [sentQuery,cleanedPlain first] at sent
  obtain ⟨parts,found,rfl⟩ := Option.map_eq_some_iff.mp sent
  rw [sentQuery,cleanedPlain plain,Text.splitOnceAppend rest found,Option.map_some,List.flatMap_append]

theorem tokenParam (token : Text) : ("token=".toList ++ encodeURIComponent token).flatMap queryChar =
    "token=".toList ++ wire token := by
  rw [List.flatMap_append]
  rfl

theorem sentParams {url : Text} (plain : Plain url) (token : Text) : ∃ query,
    sentQuery (url ++ (if '?' ∈ url then ['&'] else ['?']) ++ "token=".toList ++ encodeURIComponent token) = some query ∧
    Text.split '&' query = ((sentQuery url).elim [] (Text.split '&')) ++ ["token=".toList ++ wire token] := by
  have absent : '&' ∉ "token=".toList ++ wire token := by
    intro member
    rcases List.mem_append.mp member with name | value
    · revert name
      decide
    · exact wireUnsplit token value
  have single := List.splitOn_eq_singleton absent
  rw [List.append_assoc,List.append_assoc]
  by_cases asked : '?' ∈ url
  · obtain ⟨query,sent⟩ : ∃ query, sentQuery url = some query := by
      cases found : Text.splitOnce '?' url with
      | none => exact absurd asked (Text.splitOnceAbsent.mp found)
      | some parts => exact ⟨_,by rw [sentQuery,cleanedPlain plain,found]; rfl⟩
    have whole : Plain (url ++ (['&'] ++ ("token=".toList ++ encodeURIComponent token))) :=
      plainAppend plain (plainAppend (fun c member => by cases List.mem_singleton.mp member; decide) (tokenPlain token))
    rw [if_pos asked,sentMore plain whole sent,sent]
    refine ⟨_,rfl,?_⟩
    rw [List.singleton_append,List.flatMap_cons,tokenParam]
    have amp : queryChar '&' = ['&'] := by decide
    rw [amp,List.singleton_append,Text.split,List.splitOn_append_cons_self,single]
    rfl
  · have none : sentQuery url = none := by
      rw [sentQuery,cleanedPlain plain,Text.splitOnceAbsent.mpr asked]
      rfl
    have whole : Plain (url ++ '?'::("token=".toList ++ encodeURIComponent token)) :=
      plainAppend plain (plainAppend (a := ['?']) (fun c member => by cases List.mem_singleton.mp member; decide)
        (tokenPlain token))
    rw [if_neg asked,List.singleton_append,sentPlain whole asked,none,tokenParam]
    exact ⟨_,rfl,single⟩

theorem stripToken (token t : Text) :
    (Text.stripPrefix "token=".toList ("token=".toList ++ token) == some t) = true ↔ token = t := by
  rw [Text.stripPrefix,if_pos (List.prefix_append _ _),List.drop_left,beq_iff_eq,Option.some.injEq]

theorem stripOther {param : Text} (t : Text) (other : ¬ "token=".toList <+: param) :
    (Text.stripPrefix "token=".toList param == some t) = false := by
  rw [Text.stripPrefix,if_neg other]
  rfl

theorem signalGuard (t rest : Text) (query : Option Text) (authorization : Option (List Byte)) :
    authMiddleware (some t) ⟨"/signal/".toList ++ rest,query,authorization⟩ =
      ((query.map (Text.split '&')).getD []).any fun param => Text.stripPrefix "token=".toList param == some t := by
  have inside : "/signal/".toList.isPrefixOf ("/signal/".toList ++ rest) = true :=
    List.isPrefixOf_iff_prefix.mpr (List.prefix_append _ _)
  have health : ¬ ("/signal/".toList ++ rest = "/health".toList ∨ "/signal/".toList ++ rest = "/metrics".toList) := by
    simp
  simp only [authMiddleware,if_neg health,inside,if_true]
  cases query <;> rfl

theorem signalAccepted {t rest origin raw tokenInput : Text} (plain : Plain (signalUrl origin (jsTrim raw)))
    (tokenless : Tokenless (signalUrl origin (jsTrim raw))) :
    authMiddleware (some t) ⟨"/signal/".toList ++ rest,sentQuery (connectUrl origin raw tokenInput),none⟩ = true ↔
      jsTrim tokenInput ≠ [] ∧ wire (jsTrim tokenInput) = t := by
  rw [signalGuard,connectUrl]
  have own : ∀ param ∈ (sentQuery (signalUrl origin (jsTrim raw))).elim [] (Text.split '&'),
      (Text.stripPrefix "token=".toList param == some t) = false := by
    intro param member
    cases sent : sentQuery (signalUrl origin (jsTrim raw)) with
    | none => rw [sent] at member; cases member
    | some query =>
      rw [sent] at member
      exact stripOther t (tokenless query sent param member)
  by_cases empty : jsTrim tokenInput = []
  · simp only [empty,if_true]
    refine ⟨fun accepted => absurd accepted ?_,fun absurd => (absurd.1 rfl).elim⟩
    rw [Bool.not_eq_true,List.any_eq_false]
    intro param member
    rw [own param (by cases sent : sentQuery (signalUrl origin (jsTrim raw)) <;> rw [sent] at member <;> exact member)]
    decide
  · simp only [if_neg empty]
    obtain ⟨query,sent,params⟩ := sentParams plain (jsTrim tokenInput)
    rw [sent,Option.map_some,Option.getD_some,params,List.any_append,List.any_cons,List.any_nil,Bool.or_false,
      List.any_eq_false.mpr (fun param member => by rw [own param member]; decide),Bool.false_or,stripToken]
    exact ⟨fun same => ⟨empty,same⟩,fun both => both.2⟩

def visibleChar (c : Char) : Prop := 32 ≤ c.toNat ∧ c.toNat < 127 ∨ c.toNat = 9

theorem byteBack {c : Char} (small : c.toNat < 256) : Char.ofNat (UInt8.ofNat c.toNat).toNat = c := by
  rw [UInt8.toNat_ofNat_of_lt' small,Char.ofNat_toNat]

theorem visibleByte {c : Char} (small : c.toNat < 256) : visible (UInt8.ofNat c.toNat) = true ↔ visibleChar c := by
  have value := UInt8.toNat_ofNat_of_lt' small
  rw [visible,visibleChar,Bool.or_eq_true,Bool.and_eq_true,decide_eq_true_eq,decide_eq_true_eq,beq_iff_eq,
    UInt8.le_iff_toNat_le,UInt8.lt_iff_toNat_lt,← UInt8.toNat_inj,value]
  exact Iff.rfl

theorem toStrBytes {s : Text} (small : ∀ c ∈ s, c.toNat < 256) :
    toStr (s.map fun c => UInt8.ofNat c.toNat) = some s ∧ (∀ c ∈ s, visibleChar c) ∨
    toStr (s.map fun c => UInt8.ofNat c.toNat) = none ∧ ¬ ∀ c ∈ s, visibleChar c := by
  have back : (s.map fun c => UInt8.ofNat c.toNat).map (fun b => Char.ofNat b.toNat) = s := by
    rw [List.map_map]
    exact (List.map_congr_left fun c member => byteBack (small c member)).trans (List.map_id' s)
  by_cases all : ∀ c ∈ s, visibleChar c
  · refine .inl ⟨?_,all⟩
    rw [toStr,if_pos,back]
    refine List.all_eq_true.mpr fun b member => ?_
    obtain ⟨c,inside,rfl⟩ := List.mem_map.mp member
    exact (visibleByte (small c inside)).mpr (all c inside)
  · refine .inr ⟨?_,all⟩
    rw [toStr,if_neg]
    intro visible
    refine all fun c inside => (visibleByte (small c inside)).mp ?_
    exact List.all_eq_true.mp visible _ (List.mem_map.mpr ⟨c,inside,rfl⟩)

theorem apiGuard (t rest : Text) (query : Option Text) (authorization : Option (List Byte)) :
    authMiddleware (some t) ⟨"/instances/".toList ++ rest,query,authorization⟩ =
      ((authorization.bind toStr).elim false fun auth => Text.stripPrefix "Bearer ".toList auth == some t) := by
  have outside : "/signal/".toList.isPrefixOf ("/instances/".toList ++ rest) = false := rfl
  have health : ¬ ("/instances/".toList ++ rest = "/health".toList ∨ "/instances/".toList ++ rest = "/metrics".toList) := by
    simp
  simp only [authMiddleware,if_neg health,outside,Bool.false_eq_true,if_false]
  cases authorization.bind toStr <;> rfl

theorem navigateAccepted {t rest tokenInput : Text} :
    ((navigateHeader tokenInput).elim false fun authorization =>
      authMiddleware (some t) ⟨"/instances/".toList ++ rest,none,authorization⟩) = true ↔
      jsTrim tokenInput ≠ [] ∧ jsTrim tokenInput = t ∧ ∀ c ∈ jsTrim tokenInput, visibleChar c := by
  rw [navigateHeader]
  generalize jsTrim tokenInput = token
  by_cases empty : token = []
  · simp only [if_pos empty,Option.elim_some,apiGuard]
    exact ⟨fun absurd => (by cases absurd),fun absurd => (absurd.1 empty).elim⟩
  · simp only [if_neg empty]
    split
    · rename_i plain
      have named : ∀ c ∈ "Bearer ".toList, c.toNat < 256 := forallListed (by decide)
      have bytes : ∀ c ∈ "Bearer ".toList ++ token, c.toNat < 256 := by
        intro c member
        rcases List.mem_append.mp member with name | value
        · exact named c name
        · have both := List.all_eq_true.mp plain c value
          rw [Bool.and_eq_true,decide_eq_true_eq] at both
          exact both.1
      have name : ∀ c ∈ "Bearer ".toList, visibleChar c := by
        unfold visibleChar
        exact forallListed (by decide)
      rw [Option.elim_some,apiGuard,Option.bind_some]
      rcases toStrBytes bytes with ⟨read,all⟩ | ⟨unread,notAll⟩
      · rw [read,Option.elim_some,Text.stripPrefix,if_pos (List.prefix_append _ _),List.drop_left,beq_iff_eq,
          Option.some.injEq]
        exact ⟨fun same => ⟨empty,same,(List.forall_mem_append.mp all).2⟩,fun both => both.2.1⟩
      · rw [unread]
        refine ⟨fun absurd => (by cases absurd),fun both => (notAll ?_).elim⟩
        exact List.forall_mem_append.mpr ⟨name,both.2.2⟩
    · rename_i thrown
      refine ⟨fun absurd => (by cases absurd),fun both => (thrown ?_).elim⟩
      refine List.all_eq_true.mpr fun c member => ?_
      have seen := both.2.2 c member
      rw [visibleChar] at seen
      simp only [Bool.and_eq_true,decide_eq_true_eq,Bool.not_eq_true',List.contains_eq_mem,decide_eq_false_iff_not,
        List.mem_cons,List.not_mem_nil,or_false]
      omega

theorem tokenAccepted {t rest origin raw tokenInput : Text} (plain : Plain (signalUrl origin (jsTrim raw)))
    (tokenless : Tokenless (signalUrl origin (jsTrim raw))) :
    (authMiddleware (some t) ⟨"/signal/".toList ++ rest,sentQuery (connectUrl origin raw tokenInput),none⟩ = true ↔
      jsTrim tokenInput ≠ [] ∧ wire (jsTrim tokenInput) = t) ∧
    (((navigateHeader tokenInput).elim false fun authorization =>
      authMiddleware (some t) ⟨"/instances/".toList ++ rest,none,authorization⟩) = true ↔
      jsTrim tokenInput ≠ [] ∧ jsTrim tokenInput = t ∧ ∀ c ∈ jsTrim tokenInput, visibleChar c) ∧
    (jsTrim tokenInput = t →
      (authMiddleware (some t) ⟨"/signal/".toList ++ rest,sentQuery (connectUrl origin raw tokenInput),none⟩ = true ↔
        t ≠ [] ∧ ∀ c ∈ t, survives c = true)) := by
  have signal := @signalAccepted t rest origin raw tokenInput plain tokenless
  refine ⟨signal,navigateAccepted,fun typed => ?_⟩
  rw [signal,typed,wireSame]

theorem plusRefused : (navigateHeader ['a','+','b']).elim false (fun authorization =>
      authMiddleware (some ['a','+','b']) ⟨"/instances/".toList ++ ['x'],none,authorization⟩) = true ∧
    ¬ authMiddleware (some ['a','+','b'])
      ⟨"/signal/".toList ++ ['x'],sentQuery (connectUrl [] "ws://h/signal/x".toList ['a','+','b']),none⟩ = true := by
  have plain : Plain (signalUrl [] (jsTrim "ws://h/signal/x".toList)) := by
    unfold Plain
    exact forallListed (by decide)
  have tokenless : Tokenless (signalUrl [] (jsTrim "ws://h/signal/x".toList)) := by
    intro query sent
    have none : sentQuery (signalUrl [] (jsTrim "ws://h/signal/x".toList)) = none := by decide
    rw [none] at sent
    cases sent
  obtain ⟨-,-,typed⟩ := @tokenAccepted ['a','+','b'] ['x'] _ _ ['a','+','b'] plain tokenless
  refine ⟨by decide,fun accepted => ?_⟩
  have survive := ((typed (by decide)).mp accepted).2 '+' (by decide)
  revert survive
  decide

end Vscreen.Auth
