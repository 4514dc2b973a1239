import Vscreen.TextParts

/-! `str::replace`: every occurrence of a text from left to right, and the templates that
are filled with it. -/
namespace Vscreen.Text

def replaceFrom (pat new : Text) : Nat → Text → Text
  | _,[] => []
  | skip + 1,_::rest => replaceFrom pat new skip rest
  | 0,c::rest =>
    if pat <+: c::rest then new ++ replaceFrom pat new (pat.length - 1) rest else c::replaceFrom pat new 0 rest

def replaceAll (pat new s : Text) : Text := replaceFrom pat new 0 s

theorem firstOther {p : Char → Prop} [DecidablePred p] {s : Text} (mixed : ¬ ∀ c ∈ s, p c) :
    ∃ a c b, s = a ++ c::b ∧ ¬ p c ∧ ∀ d ∈ a, p d := by
  induction s with
  | nil => exact absurd (fun c absent => nomatch absent) mixed
  | cons c rest ih =>
    by_cases first : p c
    · obtain ⟨a,d,b,rfl,other,before⟩ := ih fun all => mixed (List.forall_mem_cons.mpr ⟨first,all⟩)
      exact ⟨c::a,d,b,rfl,other,List.forall_mem_cons.mpr ⟨first,before⟩⟩
    · exact ⟨[],c,rest,rfl,first,fun d absent => nomatch absent⟩

section Replace
variable {pat new : Text}

theorem replaceFree {s : Text} (absent : ¬ pat <:+: s) : replaceAll pat new s = s := by
  induction s with
  | nil => rfl
  | cons c rest ih =>
    have first : ¬ pat <+: c::rest := fun leads => absent leads.isInfix
    have later : ¬ pat <:+: rest := fun inside => absent (List.infix_cons inside)
    rw [replaceAll,replaceFrom,if_neg first,← replaceAll,ih later]

theorem skipAll (s : Text) : replaceFrom pat new s.length s = [] := by
  induction s with
  | nil => rfl
  | cons c rest ih => exact ih

theorem replaceSame (some : pat ≠ []) : replaceAll pat new pat = new := by
  obtain ⟨p,rest,rfl⟩ := List.exists_cons_of_ne_nil some
  rw [replaceAll,replaceFrom,if_pos (List.prefix_refl _),List.length_cons,Nat.add_sub_cancel,skipAll,List.append_nil]

theorem notLeading {c : Char} {rest : Text} (some : pat ≠ []) (other : c ∉ pat) : ¬ pat <+: c::rest := by
  obtain ⟨p,ps,rfl⟩ := List.exists_cons_of_ne_nil some
  intro leads
  obtain ⟨rfl,-⟩ := List.cons_prefix_cons.mp leads
  exact other List.mem_cons_self

theorem skipApart (some : pat ≠ []) {c : Char} (other : c ∉ pat) (a b : Text) {skip : Nat} (short : skip ≤ a.length) :
    replaceFrom pat new skip (a ++ c::b) = replaceFrom pat new skip a ++ c::replaceFrom pat new 0 b := by
  induction a generalizing skip with
  | nil =>
    obtain rfl : skip = 0 := Nat.le_zero.mp short
    exact if_neg (notLeading some other)
  | cons d a ih =>
    cases skip with
    | succ skip => exact ih (Nat.le_of_succ_le_succ short)
    | zero =>
      have same : pat <+: d::(a ++ c::b) ↔ pat <+: d::a := prefixApart (a := d::a) other
      rw [List.cons_append,replaceFrom,replaceFrom]
      by_cases leads : pat <+: d::a
      · have length := leads.length_le
        rw [List.length_cons] at length
        rw [if_pos (same.mpr leads),if_pos leads,ih (by omega),List.append_assoc]
      · rw [if_neg fun other => leads (same.mp other),if_neg leads,ih (Nat.zero_le _)]
        rfl

theorem replaceApart (some : pat ≠ []) {c : Char} (other : c ∉ pat) (a b : Text) :
    replaceAll pat new (a ++ c::b) = replaceAll pat new a ++ c::replaceAll pat new b :=
  skipApart some other a b (Nat.zero_le _)

theorem replaceHead (some : pat ≠ []) {c : Char} (other : c ∉ pat) (a b : Text) :
    replaceAll pat new (a ++ c::b) = replaceAll pat new a ++ replaceAll pat new (c::b) := by
  have head : replaceAll pat new (c::b) = c::replaceAll pat new b := replaceApart some other [] b
  rw [replaceApart some other,head]

theorem replaceLast (some : pat ≠ []) {d : Char} (other : d ∉ pat) (a b : Text) :
    replaceAll pat new ((a ++ [d]) ++ b) = replaceAll pat new (a ++ [d]) ++ replaceAll pat new b := by
  have last : replaceAll pat new (a ++ [d]) = replaceAll pat new a ++ [d] := replaceApart some other a []
  rw [List.append_assoc,List.singleton_append,replaceApart some other,last,List.append_assoc]
  rfl

theorem skipSubset {c : Char} {skip : Nat} {s : Text} (member : c ∈ replaceFrom pat new skip s) : c ∈ new ∨ c ∈ s := by
  induction s generalizing skip with
  | nil => cases skip <;> cases member
  | cons d rest ih =>
    cases skip with
    | succ skip => exact (ih member).imp_right (List.mem_cons_of_mem d)
    | zero =>
      rw [replaceFrom] at member
      split at member
      · rcases List.mem_append.mp member with put | later
        · exact .inl put
        · exact (ih later).imp_right (List.mem_cons_of_mem d)
      · rcases List.mem_cons.mp member with rfl | later
        · exact .inr List.mem_cons_self
        · exact (ih later).imp_right (List.mem_cons_of_mem d)

theorem skipLength (shorter : new.length ≤ pat.length) (some : pat ≠ []) (skip : Nat) (s : Text) :
    (replaceFrom pat new skip s).length ≤ s.length - skip := by
  have one := List.length_pos_of_ne_nil some
  induction s generalizing skip with
  | nil => exact Nat.zero_le _
  | cons c rest ih =>
    cases skip with
    | succ skip =>
      rw [replaceFrom,List.length_cons,Nat.add_sub_add_right]
      exact ih skip
    | zero =>
      rw [replaceFrom]
      split
      · rename_i leads
        have length := leads.length_le
        have later := ih (pat.length - 1)
        rw [List.length_cons] at length
        rw [List.length_append,List.length_cons]
        omega
      · have later := ih 0
        rw [List.length_cons,List.length_cons]
        omega

theorem replaceShorter (shorter : new.length < pat.length) {s : Text} (inside : pat <:+: s) :
    (replaceAll pat new s).length < s.length := by
  have some : pat ≠ [] := List.length_pos_iff.mp (Nat.zero_lt_of_lt shorter)
  induction s with
  | nil =>
    rw [List.infix_nil] at inside
    exact absurd inside some
  | cons c rest ih =>
    rw [replaceAll,replaceFrom]
    split
    · rename_i leads
      have length := leads.length_le
      have later := skipLength (Nat.le_of_lt shorter) some (pat.length - 1) rest
      rw [List.length_cons] at length
      rw [List.length_append,List.length_cons]
      omega
    · rename_i other
      have later := ih ((List.infix_cons_iff.mp inside).resolve_left other)
      rw [List.length_cons,List.length_cons]
      exact Nat.succ_lt_succ later

structure Fixes (pat new : Text) (write : Char → Text) : Prop where
  sought : ∀ c ∈ pat, write c = [c]
  put : ∀ c ∈ new, write c = [c]
  others : ∀ c, write c ≠ [c] → write c ≠ [] ∧ ∀ d ∈ write c, d ∉ pat

theorem flatMapFixed {write : Char → Text} {s : Text} (fixed : ∀ c ∈ s, write c = [c]) : s.flatMap write = s := by
  induction s with
  | nil => rfl
  | cons c rest ih =>
    obtain ⟨first,later⟩ := List.forall_mem_cons.mp fixed
    rw [List.flatMap_cons,first,ih later]
    rfl

theorem leadsWritten {write : Char → Text} (fixes : Fixes pat new write) {word : Text} (sub : ∀ c ∈ word, c ∈ pat)
    (s : Text) : word <+: s.flatMap write ↔ word <+: s := by
  induction word generalizing s with
  | nil => exact iff_of_true List.nil_prefix List.nil_prefix
  | cons p word ih =>
    obtain ⟨first,later⟩ := List.forall_mem_cons.mp sub
    cases s with
    | nil => exact Iff.rfl
    | cons c rest =>
      rw [List.flatMap_cons]
      by_cases fixed : write c = [c]
      · rw [fixed,List.singleton_append,List.cons_prefix_cons,List.cons_prefix_cons,ih later]
      · obtain ⟨some,apart⟩ := fixes.others c fixed
        obtain ⟨x,xs,written⟩ := List.exists_cons_of_ne_nil some
        refine iff_of_false (fun leads => ?_) (fun leads => ?_)
        · rw [written,List.cons_append] at leads
          obtain ⟨rfl,-⟩ := List.cons_prefix_cons.mp leads
          exact apart p (by rw [written]; exact List.mem_cons_self) first
        · obtain ⟨rfl,-⟩ := List.cons_prefix_cons.mp leads
          exact fixed (fixes.sought p first)

theorem replaceNone (some : pat ≠ []) {w : Text} (apart : ∀ d ∈ w, d ∉ pat) (t : Text) :
    replaceFrom pat new 0 (w ++ t) = w ++ replaceFrom pat new 0 t := by
  induction w with
  | nil => rfl
  | cons d w ih =>
    obtain ⟨first,later⟩ := List.forall_mem_cons.mp apart
    rw [List.cons_append,replaceFrom,if_neg (notLeading some first),ih later]
    rfl

theorem skipWritten (some : pat ≠ []) {write : Char → Text} (fixes : Fixes pat new write) {skip : Nat} {s : Text}
    (leading : ∀ c ∈ s.take skip, write c = [c]) :
    replaceFrom pat new skip (s.flatMap write) = (replaceFrom pat new skip s).flatMap write := by
  induction s generalizing skip with
  | nil => cases skip <;> rfl
  | cons c rest ih =>
    cases skip with
    | succ skip =>
      rw [List.take_succ_cons] at leading
      obtain ⟨first,later⟩ := List.forall_mem_cons.mp leading
      rw [List.flatMap_cons,first]
      exact ih later
    | zero =>
      rw [List.flatMap_cons]
      have none : ∀ c ∈ rest.take 0, write c = [c] := fun _ absent => nomatch absent
      by_cases fixed : write c = [c]
      · have same : pat <+: c::rest.flatMap write ↔ pat <+: c::rest := by
          have whole : pat <+: (c::rest).flatMap write ↔ pat <+: c::rest := leadsWritten fixes (fun c member => member) _
          rwa [List.flatMap_cons,fixed,List.singleton_append] at whole
        rw [fixed,List.singleton_append,replaceFrom,replaceFrom]
        by_cases leads : pat <+: c::rest
        · rw [if_pos (same.mpr leads),if_pos leads,List.flatMap_append,flatMapFixed fixes.put,ih]
          intro d member
          refine fixes.sought d ?_
          obtain ⟨p,ps,rfl⟩ := List.exists_cons_of_ne_nil some
          obtain ⟨-,later⟩ := List.cons_prefix_cons.mp leads
          rw [List.length_cons,Nat.add_sub_cancel,← List.prefix_iff_eq_take.mp later] at member
          exact List.mem_cons_of_mem _ member
        · rw [if_neg fun other => leads (same.mp other),if_neg leads,List.flatMap_cons,fixed,ih none]
          rfl
      · obtain ⟨some',apart⟩ := fixes.others c fixed
        have other : c ∉ pat := fun member => fixed (fixes.sought c member)
        rw [replaceNone some apart,ih none,replaceFrom,if_neg (notLeading some other),List.flatMap_cons]

theorem replaceWritten (some : pat ≠ []) {write : Char → Text} (fixes : Fixes pat new write) (s : Text) :
    replaceAll pat new (s.flatMap write) = (replaceAll pat new s).flatMap write :=
  skipWritten some fixes fun _ absent => nomatch absent

end Replace

section Templates
variable {μ : Type} {pat new : Text}

structure Between (pat t : Text) : Prop where
  free : ¬ pat <:+: t
  head : ∃ c ∉ pat, t.head? = some c
  last : ∃ d ∉ pat, t.getLast? = some d

def render (fill : μ → Text) (places : List (μ × Text)) : Text := places.flatMap fun (m,t) => fill m ++ t

theorem replaceRest (some : pat ≠ []) {fill : μ → Text} {places : List (μ × Text)}
    (between : ∀ p ∈ places, Between pat p.2) :
    replaceAll pat new (render fill places) = render (fun m => replaceAll pat new (fill m)) places := by
  induction places with
  | nil => rfl
  | cons p places ih =>
    obtain ⟨m,t⟩ := p
    obtain ⟨first,later⟩ := List.forall_mem_cons.mp between
    replace first : Between pat t := first
    have front : replaceAll pat new (fill m ++ t) = replaceAll pat new (fill m) ++ t := by
      obtain ⟨c,other,leads⟩ := first.head
      obtain ⟨u,head⟩ := List.head?_eq_some_iff.mp leads
      have free : replaceAll pat new t = t := replaceFree first.free
      rw [head] at free ⊢
      rw [replaceHead some other,free]
    have back : replaceAll pat new ((fill m ++ t) ++ render fill places) =
        replaceAll pat new (fill m ++ t) ++ replaceAll pat new (render fill places) := by
      obtain ⟨d,other,ends⟩ := first.last
      obtain ⟨v,last⟩ := List.getLast?_eq_some_iff.mp ends
      rw [last,← List.append_assoc,replaceLast some other]
    change replaceAll pat new ((fill m ++ t) ++ render fill places) =
      (replaceAll pat new (fill m) ++ t) ++ render (fun m => replaceAll pat new (fill m)) places
    rw [back,front,ih later]

theorem replaceRender (some : pat ≠ []) {fill : μ → Text} {first : Text} {places : List (μ × Text)}
    (start : Between pat first) (between : ∀ p ∈ places, Between pat p.2) :
    replaceAll pat new (first ++ render fill places) =
      first ++ render (fun m => replaceAll pat new (fill m)) places := by
  obtain ⟨d,other,ends⟩ := start.last
  obtain ⟨v,last⟩ := List.getLast?_eq_some_iff.mp ends
  have free : replaceAll pat new first = first := replaceFree start.free
  rw [last] at free ⊢
  rw [replaceLast some other,free,replaceRest some between]

end Templates

end Vscreen.Text
