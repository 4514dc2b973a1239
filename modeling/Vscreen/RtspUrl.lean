import Vscreen.RtspHandler

/-! What becomes of a URL when a client appends a track to it: the path, the
instance, the track id and the query parameters of the longer URL, each in terms
of the shorter. -/
namespace Vscreen.Rtsp
open Text

section Append

theorem splitAppend {sep : Char} {t : Text} (s : Text) (absent : sep ∉ t) :
    ∃ pieces last, split sep s = pieces ++ [last] ∧ split sep (s ++ t) = pieces ++ [last ++ t] := by
  induction s with
  | nil => exact ⟨[],[],rfl,List.splitOn_eq_singleton absent⟩
  | cons c s ih =>
    obtain ⟨pieces,last,short,long⟩ := ih
    rw [split] at short long
    rw [split,split,List.cons_append,List.splitOn_cons_eq_if_modifyHead,List.splitOn_cons_eq_if_modifyHead,short,long]
    split
    · exact ⟨[]::pieces,last,rfl,rfl⟩
    · cases pieces with
      | nil => exact ⟨[],c::last,rfl,rfl⟩
      | cons piece pieces => exact ⟨(c::piece)::pieces,last,rfl,rfl⟩

theorem splitHead (sep : Char) (s : Text) : (split sep s).headD s = s.takeWhile (· ≠ sep) := by
  by_cases member : sep ∈ s
  · obtain ⟨a,b,rfl,absent⟩ := List.eq_append_cons_of_mem member
    have all : ∀ c ∈ a, decide (c ≠ sep) = true := fun c inside => by
      simp only [decide_eq_true_eq]
      rintro rfl
      exact absent inside
    rw [split,List.splitOn_append_cons_self_of_not_mem absent,List.takeWhile_append_of_pos all]
    simp
  · have all : ∀ c ∈ s, decide (c ≠ sep) = true := fun c inside => by
      simp only [decide_eq_true_eq]
      rintro rfl
      exact member inside
    rw [split,List.splitOn_eq_singleton member,List.takeWhile_eq_self_iff.mpr all]
    rfl

theorem cutAppend {pat s before after : Text} (t : Text) (found : cut pat s = some (before,after)) :
    cut pat (s ++ t) = some (before,after ++ t) := by
  have shape := cutSome found
  have occurs : s ++ t = before ++ pat ++ (after ++ t) := by
    rw [shape,List.append_assoc]
  cases longer : cut pat (s ++ t) with
  | none => exact (cutNone longer ⟨before,after ++ t,occurs.symm⟩).elim
  | some parts =>
    obtain ⟨before',after'⟩ := parts
    have shape' := cutSome longer
    have early := cutFirst longer occurs
    have inside : before' ++ pat <+: s := by
      refine List.prefix_of_prefix_length_le ⟨after',shape'.symm⟩ (List.prefix_append s t) ?_
      rw [shape,List.length_append,List.length_append,List.length_append]
      omega
    obtain ⟨more,inside⟩ := inside
    have late := cutFirst found inside.symm
    rw [occurs,List.append_assoc,List.append_assoc] at shape'
    obtain ⟨same,rest⟩ := List.append_inj shape' (by omega)
    rw [same,List.append_cancel_left rest]

end Append

def slashFor (url : Text) : Text := if url.getLast? = some '/' then [] else ['/']

def controlUrl (base control : Text) : Text := base ++ (slashFor base ++ control)

def trackControl (n : Nat) : Text := trackPrefix ++ decimal n

section Suffix

theorem decimalDigits (n : Nat) : ∀ c ∈ decimal n, isNumeral c = true := by
  intro c member
  have digit := Nat.isDigit_of_mem_toDigits (by decide) (by decide) member
  simp only [Char.isDigit,Bool.and_eq_true,decide_eq_true_eq] at digit
  simp only [isNumeral,Bool.or_eq_true,Bool.and_eq_true,decide_eq_true_eq]
  exact .inr digit

def suffixChars : Text := "/trackID=+0123456789".toList

theorem numeralSuffix {c : Char} (numeral : isNumeral c = true) : c ∈ suffixChars :=
  forallAscii (p := fun c => isNumeral c = true → c ∈ suffixChars) (by decide +kernel) c
    (numeralPlain numeral).1 numeral

def trackSuffix (url : Text) (n : Nat) : Text := slashFor url ++ trackControl n

theorem trackControlCons (n : Nat) : trackControl n = 't'::("rackID=".toList ++ decimal n) := rfl

theorem suffixPlain (url : Text) (n : Nat) : ∀ c ∈ trackSuffix url n, c ∈ suffixChars := by
  intro c member
  rcases List.mem_append.mp member with slash | control
  · unfold slashFor at slash
    split at slash
    · contradiction
    · rw [List.mem_singleton.mp slash]; decide
  · rcases List.mem_append.mp control with name | number
    · exact forallListed (p := fun c => c ∈ suffixChars) (by decide) c name
    · exact numeralSuffix (decimalDigits n c number)

theorem suffixWithout (url : Text) (n : Nat) {c : Char} (other : c ∉ suffixChars) : c ∉ trackSuffix url n :=
  fun member => other (suffixPlain url n c member)

theorem slashForSlash {url : Text} (ends : url.getLast? = some '/') : slashFor url = [] := if_pos ends

theorem slashForOther {url : Text} (ends : url.getLast? ≠ some '/') : slashFor url = ['/'] := if_neg ends

theorem noNewScheme {url : Text} (n : Nat) (absent : cut schemeEnd url = none) :
    cut schemeEnd (url ++ trackSuffix url n) = none := by
  cases found : cut schemeEnd (url ++ trackSuffix url n) with
  | none => rfl
  | some parts =>
    obtain ⟨before,after⟩ := parts
    have noColon : ':' ∉ trackSuffix url n := suffixWithout url n (by decide)
    have shape : url ++ trackSuffix url n = before ++ (':' :: '/' :: '/' :: after) := by
      rw [cutSome found,List.append_assoc]
      rfl
    rcases List.append_eq_append_iff.mp shape with ⟨gap,-,tail⟩ | ⟨gap,front,tail⟩
    · exact (noColon (by rw [tail]; simp)).elim
    · match gap,tail with
      | [],tail => exact (noColon (by rw [show trackSuffix url n = _ from tail.symm]; simp)).elim
      | [c],tail =>
        have colon := (List.cons_eq_cons.mp tail).1
        have next : '/' :: '/' :: after = trackSuffix url n := (List.cons_eq_cons.mp tail).2
        have ends : url.getLast? ≠ some '/' := by rw [front,← colon]; simp
        rw [trackSuffix,slashForOther ends,trackControlCons] at next
        exact absurd (List.cons_eq_cons.mp (List.cons_eq_cons.mp next).2).1 (by decide)
      | [c,d],tail =>
        have slash := (List.cons_eq_cons.mp (List.cons_eq_cons.mp tail).2).1
        have next : '/'::after = trackSuffix url n := (List.cons_eq_cons.mp (List.cons_eq_cons.mp tail).2).2
        have ends : url.getLast? = some '/' := by rw [front,← slash]; simp
        rw [trackSuffix,slashForSlash ends,trackControlCons] at next
        exact absurd (List.cons_eq_cons.mp next).1 (by decide)
      | c::d::e::gap,tail =>
        have first := (List.cons_eq_cons.mp tail).1
        have second := (List.cons_eq_cons.mp (List.cons_eq_cons.mp tail).2).1
        have third := (List.cons_eq_cons.mp (List.cons_eq_cons.mp (List.cons_eq_cons.mp tail).2).2).1
        exact (cutNone absent ⟨before,gap,by rw [front,← first,← second,← third]; simp [schemeEnd]⟩).elim

def afterScheme (url : Text) : Text := match cut schemeEnd url with
  | none => url
  | some (_,rest) => rest

theorem afterSchemeAppend (url : Text) (n : Nat) :
    afterScheme (url ++ trackSuffix url n) = afterScheme url ++ trackSuffix url n := by
  unfold afterScheme
  cases found : cut schemeEnd url with
  | none => rw [noNewScheme n found]
  | some parts => rw [cutAppend _ found]

theorem afterHostCons {url : Text} (nonempty : afterHost url ≠ []) : ∃ h, afterHost url = '/'::h := by
  cases shape : afterHost url with
  | nil => exact (nonempty shape).elim
  | cons c h =>
    have slash := List.head?_dropWhile_not (· ≠ '/') (afterScheme url)
    rw [show (afterScheme url).dropWhile (· ≠ '/') = c::h from shape] at slash
    simp only [List.head?_cons,decide_eq_false_iff_not,not_not] at slash
    exact ⟨h,by rw [slash]⟩

theorem afterHostAppend {url : Text} (n : Nat) (nonempty : afterHost url ≠ []) :
    afterHost (url ++ trackSuffix url n) = afterHost url ++ trackSuffix url n := by
  have longer : afterHost (url ++ trackSuffix url n) =
      (afterScheme url ++ trackSuffix url n).dropWhile (· ≠ '/') := by
    rw [← afterSchemeAppend]
    rfl
  rw [longer,List.dropWhile_append]
  exact if_neg (by rw [List.isEmpty_iff]; exact nonempty)

theorem pathTakeWhile (url : Text) : extractUrlPath url = (afterHost url).takeWhile (· ≠ '?') := splitHead '?' _

theorem acceptedSegments {url id : Text} (accepted : extractInstanceId url = some id) :
    ∃ first more, split '/' (relativePath url) = first::id::more ∧
      (first = "stream".toList ∨ first = "audio".toList) ∧ id ≠ [] := by
  unfold extractInstanceId at accepted
  split at accepted
  · rename_i first second more segments
    split at accepted
    · rename_i known
      cases accepted
      exact ⟨first,more,segments,known⟩
    · contradiction
  · contradiction

theorem acceptedPath {url id : Text} (accepted : extractInstanceId url = some id) : afterHost url ≠ [] := by
  intro empty
  obtain ⟨first,more,segments,-⟩ := acceptedSegments accepted
  have none : relativePath url = [] := by rw [relativePath,pathTakeWhile,empty]; rfl
  rw [none,split,List.splitOn_nil] at segments
  simp at segments

theorem relativeOfPath {url h : Text} (path : afterHost url = '/'::h) :
    relativePath url = h.takeWhile (· ≠ '?') := by
  rw [relativePath,pathTakeWhile,path]
  rfl

theorem lastOfPath {url h : Text} (path : afterHost url = '/'::h) (nonempty : h ≠ []) :
    url.getLast? = h.getLast? := by
  have suffix : h <:+ url := by
    have tail : h <:+ afterHost url := path ▸ List.suffix_cons '/' h
    refine tail.trans ((List.dropWhile_suffix _).trans ?_)
    cases found : cut schemeEnd url with
    | none => exact List.suffix_refl url
    | some parts => exact ⟨_,(cutSome found).symm⟩
  obtain ⟨front,rfl⟩ := suffix
  rw [List.getLast?_append,List.getLast?_eq_some_getLast nonempty]
  rfl

end Suffix

section Kept
variable {u : CaseMapping} {url id : Text}

theorem queryPath (n : Nat) (accepted : extractInstanceId url = some id) (query : '?' ∈ afterHost url) :
    relativePath (url ++ trackSuffix url n) = relativePath url := by
  rw [relativePath,relativePath,pathTakeWhile,pathTakeWhile,afterHostAppend n (acceptedPath accepted)]
  obtain ⟨a,b,shape,absent⟩ := List.eq_append_cons_of_mem query
  have all : ∀ c ∈ a, decide (c ≠ '?') = true := fun c inside => by
    simp only [decide_eq_true_eq]
    rintro rfl
    exact absent inside
  rw [shape,List.append_assoc,List.takeWhile_append_of_pos all,List.takeWhile_append_of_pos all]
  simp

theorem plainPath (n : Nat) (accepted : extractInstanceId url = some id) (plain : '?' ∉ afterHost url) :
    ∃ segments, split '/' (relativePath (url ++ trackSuffix url n)) = segments ++ [trackControl n] ∧
      (split '/' (relativePath url) = segments ∨ split '/' (relativePath url) = segments ++ [[]]) := by
  obtain ⟨h,path⟩ := afterHostCons (acceptedPath accepted)
  have all : ∀ c ∈ h, decide (c ≠ '?') = true := fun c inside => by
    simp only [decide_eq_true_eq]
    rintro rfl
    exact plain (by rw [path]; exact List.mem_cons_of_mem _ inside)
  have short : relativePath url = h := by
    rw [relativeOfPath path,List.takeWhile_eq_self_iff.mpr all]
  have suffixAll : ∀ c ∈ h ++ trackSuffix url n, decide (c ≠ '?') = true := by
    intro c member
    rcases List.mem_append.mp member with inside | added
    · exact all c inside
    · simp only [decide_eq_true_eq]
      rintro rfl
      exact suffixWithout url n (by decide) added
  have long : relativePath (url ++ trackSuffix url n) = h ++ trackSuffix url n := by
    have longPath : afterHost (url ++ trackSuffix url n) = '/'::(h ++ trackSuffix url n) := by
      rw [afterHostAppend n (acceptedPath accepted),path]
      rfl
    rw [relativeOfPath longPath,List.takeWhile_eq_self_iff.mpr suffixAll]
  have nonempty : h ≠ [] := by
    rintro rfl
    obtain ⟨first,more,segments,-⟩ := acceptedSegments accepted
    rw [short,split,List.splitOn_nil] at segments
    simp at segments
  have noSlash : '/' ∉ trackControl n := by
    intro member
    rcases List.mem_append.mp member with name | number
    · revert name; decide
    · have := decimalDigits n _ number
      revert this; decide
  rw [short,long,trackSuffix]
  by_cases ends : url.getLast? = some '/'
  · rw [slashForSlash ends,List.nil_append]
    rw [lastOfPath path nonempty] at ends
    obtain ⟨front,rfl⟩ := List.getLast?_eq_some_iff.mp ends
    refine ⟨split '/' front,?_,.inr ?_⟩
    · rw [List.append_assoc,List.singleton_append,split,List.splitOn_append_cons_self,
        List.splitOn_eq_singleton noSlash]
      rfl
    · rw [split,List.splitOn_append_cons_self]
      rfl
  · rw [slashForOther ends]
    refine ⟨split '/' h,?_,.inl rfl⟩
    rw [List.singleton_append,split,List.splitOn_append_cons_self,List.splitOn_eq_singleton noSlash]
    rfl

theorem queryTrack (n : Nat) (accepted : extractInstanceId url = some id) (query : '?' ∈ afterHost url) :
    extractInstanceId (url ++ trackSuffix url n) = some id ∧
      extractTrackId (url ++ trackSuffix url n) = extractTrackId url ∧
      isAudioOnlyUrl (url ++ trackSuffix url n) = isAudioOnlyUrl url := by
  have path := queryPath n accepted query
  refine ⟨?_,?_,?_⟩
  · rw [← accepted,extractInstanceId,extractInstanceId,path]
  · rw [extractTrackId,extractTrackId,path]
  · rw [isAudioOnlyUrl,isAudioOnlyUrl,path]

theorem audioOnlySegment {first second : Text} {more : List Text}
    (segments : split '/' (relativePath url) = first::second::more)
    (known : first = "stream".toList ∨ first = "audio".toList) :
    isAudioOnlyUrl url = decide (first = "audio".toList) := by
  by_cases slash : '/' ∈ relativePath url
  · obtain ⟨a,b,shape,absent⟩ := List.eq_append_cons_of_mem slash
    rw [shape,split,List.splitOn_append_cons_self_of_not_mem absent] at segments
    cases (List.cons_eq_cons.mp segments).1
    rw [isAudioOnlyUrl,shape]
    rcases known with rfl | rfl
    · rfl
    · rfl
  · rw [split,List.splitOn_eq_singleton slash] at segments
    simp at segments

theorem plainTrack (n : Nat) (accepted : extractInstanceId url = some id) (plain : '?' ∉ afterHost url) :
    extractInstanceId (url ++ trackSuffix url n) = some id ∧
      extractTrackId (url ++ trackSuffix url n) = TransportHeader.parseU8 (decimal n) ∧
      isAudioOnlyUrl (url ++ trackSuffix url n) = isAudioOnlyUrl url := by
  obtain ⟨segments,long,short⟩ := plainPath n accepted plain
  obtain ⟨first,more,shape,known,nonempty⟩ := acceptedSegments accepted
  have front : ∃ more', segments = first::id::more' := by
    rw [shape] at short
    rcases short with same | ends
    · exact ⟨more,same.symm⟩
    · match segments,ends with
      | [],ends => simp at ends
      | [a],ends =>
        have last := (List.cons_eq_cons.mp (List.cons_eq_cons.mp ends).2).1
        exact (nonempty last).elim
      | a::b::more',ends =>
        have one := (List.cons_eq_cons.mp ends).1
        have two := (List.cons_eq_cons.mp (List.cons_eq_cons.mp ends).2).1
        exact ⟨more',by rw [one,two]⟩
  obtain ⟨more',rfl⟩ := front
  refine ⟨?_,?_,?_⟩
  · rw [extractInstanceId,long]
    exact if_pos ⟨known,nonempty⟩
  · rw [extractTrackId,long,List.getLast?_concat]
    have control : stripPrefix trackPrefix (trackControl n) = some (decimal n) := by
      rw [stripPrefix,trackControl,if_pos (List.prefix_append _ _),List.drop_left]
    rw [Option.bind_some,control]
    rfl
  · rw [audioOnlySegment shape known,audioOnlySegment long known]

end Kept

section Query
variable {u : CaseMapping} {url : Text}

structure SameReading (u : CaseMapping) (params params' : Table Text Text) : Prop where
  tier : resolveQualityTier u params = resolveQualityTier u params'
  video : enabled params "video".toList = enabled params' "video".toList
  audio : enabled params "audio".toList = enabled params' "audio".toList

theorem sameReading {params params' : Table Text Text}
    (tier : (params.get "tier".toList).bind (QualityTier.fromName u) = (params'.get "tier".toList).bind (QualityTier.fromName u))
    (kbps : (params.get "kbps".toList).bind (parseUnsigned (2^32)) = (params'.get "kbps".toList).bind (parseUnsigned (2^32)))
    (channels : (params.get "channels".toList).bind TransportHeader.parseU16 =
      (params'.get "channels".toList).bind TransportHeader.parseU16)
    (video : enabled params "video".toList = enabled params' "video".toList)
    (audio : enabled params "audio".toList = enabled params' "audio".toList) : SameReading u params params' := by
  refine ⟨?_,video,audio⟩
  rw [resolveQualityTier,resolveQualityTier,tier,kbps,channels]

structure Meaningless (u : CaseMapping) (value : Text) : Prop where
  tier : QualityTier.fromName u value = none
  number : ∀ bound, parseUnsigned bound value = none
  flag : notDisabled value = true

theorem meaninglessOf {value : Text} (equals : '=' ∈ value) : Meaningless u value := by
  refine ⟨?_,?_,?_⟩
  · have member : '=' ∈ u.toLowercase value := (u.lowered value).member equals (by decide)
    have other : ∀ name : Text, '=' ∉ name → u.toLowercase value ≠ name := fun name absent same =>
      absent (same ▸ member)
    rw [QualityTier.fromName]
    simp only [other _ (by decide : '=' ∉ "low".toList),other _ (by decide : '=' ∉ "medium".toList),
      other _ (by decide : '=' ∉ "med".toList),other _ (by decide : '=' ∉ "standard".toList),
      other _ (by decide : '=' ∉ "std".toList),other _ (by decide : '=' ∉ "high".toList),
      other _ (by decide : '=' ∉ "hq".toList),if_false,or_false]
  · intro bound
    cases found : parseUnsigned bound value with
    | none => rfl
    | some m => exact absurd (parsedPlain found '=' equals) (by decide)
  · have other : ∀ name : Text, '=' ∉ name → value ≠ name := fun name absent same => absent (same ▸ equals)
    simp only [notDisabled,other _ (by decide : '=' ∉ "false".toList),other _ (by decide : '=' ∉ "0".toList),
      other _ (by decide : '=' ∉ "no".toList),or_self,not_false_eq_true,decide_true]

theorem meaninglessPut {base : Table Text Text} {key value value' : Text} (spoiled : Meaningless u value') :
    SameReading u (base.put key value') ((base.put key value).del key) := by
  have reads : ∀ {β : Type} (f : Text → Option β) (_ : f value' = none) (k : Text),
      ((base.put key value').get k).bind f = (((base.put key value).del key).get k).bind f := by
    intro β f none k
    rw [Table.getPut,Table.getDel,Table.getPut]
    split
    · exact none
    · rfl
  have flags : ∀ k, enabled (base.put key value') k = enabled ((base.put key value).del key) k := by
    intro k
    rw [enabled,enabled,Table.getPut,Table.getDel,Table.getPut]
    split
    · exact spoiled.flag
    · rfl
  refine sameReading (reads _ spoiled.tier _) (reads _ (spoiled.number _) _) (reads _ ?_ _) (flags _) (flags _)
  rw [TransportHeader.parseU16,spoiled.number]
  rfl

theorem otherKeyPut {base : Table Text Text} {key value : Text} (first : 'd' ∈ key) (second : 'k' ∈ key) :
    SameReading u (base.put key value) base := by
  have other : ∀ name : Text, 'd' ∉ name ∨ 'k' ∉ name → (base.put key value).get name = base.get name := by
    intro name absent
    rw [Table.getPut,if_neg]
    rintro rfl
    exact absent.elim (· first) (· second)
  have tier := other "tier".toList (by decide)
  have kbps := other "kbps".toList (by decide)
  have channels := other "channels".toList (by decide)
  have video := other "video".toList (by decide)
  have audio := other "audio".toList (by decide)
  exact sameReading (by rw [tier]) (by rw [kbps]) (by rw [channels]) (by rw [enabled,video,enabled])
    (by rw [enabled,audio,enabled])

def lastKey (u : CaseMapping) (url : Text) : Option Text := match splitOnce '?' url with
  | none => none
  | some (_,query) => (split '&' query).getLast?.bind fun pair => (splitOnce '=' pair).map fun p => u.toLowercase p.1

def withoutLast (u : CaseMapping) (url : Text) : Table Text Text := match lastKey u url with
  | none => extractQueryParams u url
  | some key => (extractQueryParams u url).del key

theorem suffixParams (url : Text) (n : Nat) :
    SameReading u (extractQueryParams u (url ++ trackSuffix url n)) (withoutLast u url) := by
  cases found : splitOnce '?' url with
  | none =>
    have none : splitOnce '?' (url ++ trackSuffix url n) = none := by
      rw [splitOnceAbsent,List.mem_append,not_or]
      exact ⟨splitOnceAbsent.mp found,suffixWithout url n (by decide)⟩
    rw [withoutLast,lastKey,extractQueryParams,extractQueryParams,found,none]
    exact ⟨rfl,rfl,rfl⟩
  | some parts =>
    obtain ⟨before,query⟩ := parts
    obtain ⟨pieces,last,short,long⟩ := splitAppend query (suffixWithout url n (by decide : '&' ∉ suffixChars))
    have params : extractQueryParams u url = insertPair u (pieces.foldl (insertPair u) ∅) last := by
      rw [extractQueryParams,found]
      dsimp only
      rw [short,List.foldl_append]
      rfl
    have params' : extractQueryParams u (url ++ trackSuffix url n) =
        insertPair u (pieces.foldl (insertPair u) ∅) (last ++ trackSuffix url n) := by
      rw [extractQueryParams,splitOnceAppend _ found]
      dsimp only
      rw [long,List.foldl_append]
      rfl
    have key : lastKey u url = (splitOnce '=' last).map fun p => u.toLowercase p.1 := by
      rw [lastKey,found]
      dsimp only
      rw [short,List.getLast?_concat]
      rfl
    have equals : '=' ∈ trackSuffix url n :=
      List.mem_append_right _ (List.mem_append_left _ (by decide : '=' ∈ trackPrefix))
    rw [withoutLast,key,params,params']
    cases pair : splitOnce '=' last with
    | some p =>
      rw [insertPair,insertPair,splitOnceAppend _ pair,pair]
      exact meaninglessPut (meaninglessOf (List.mem_append_right _ equals))
    | none =>
      -- the last piece was no pair and becomes one under a key of its own
      have absent : '=' ∉ last ++ (slashFor url ++ "trackID".toList) := by
        rw [List.mem_append,List.mem_append,not_or,not_or]
        refine ⟨splitOnceAbsent.mp pair,?_,by decide⟩
        unfold slashFor
        split <;> decide
      have shape : last ++ trackSuffix url n = (last ++ (slashFor url ++ "trackID".toList)) ++ '='::decimal n := by
        rw [trackSuffix,trackControl,show trackPrefix = "trackID".toList ++ ['='] from rfl]
        simp only [List.append_assoc,List.singleton_append]
      rw [insertPair,insertPair,shape,splitOnceFirst _ absent,pair]
      have inside : ∀ c ∈ "trackID".toList, c.toLower ∈ u.toLowercase (last ++ (slashFor url ++ "trackID".toList)) :=
        fun c member => (u.lowered _).member (List.mem_append_right _ (List.mem_append_right _ member))
          (forallListed (p := fun c => c.toNat < 128) (by decide) c member)
      exact otherKeyPut (inside 'D' (by decide)) (inside 'k' (by decide))

end Query
end Vscreen.Rtsp
