import Mathlib.Data.List.Nodup
import Vscreen.CdpClient

/-! Responses reach the command they answer, and nobody else, as long as `NEXT_ID` has
not wrapped: ids are drawn from one counter, an entry of the table belongs to the call
with that id, and a call takes its entry out before it ends. -/
namespace Vscreen.Cdp
open CdpClient

variable {Value : Type} {s : CdpClient Value}

def Call.entered (x : Call Value) : Prop := x.phase ≠ .drawn ∧ ∀ r, x.phase ≠ .resolved r

structure Call.Sound (x : Call Value) : Prop where
  early : x.phase = .drawn → x.reply = .awaited
  reply : ∀ msg, x.reply = .message msg → msg.id = some x.id
  answer : ∀ msg, x.phase = .resolved (.answered msg) → msg.id = some x.id

structure Correlated (s : CdpClient Value) : Prop where
  counter : s.nextId = .ofNat (s.drawn + 1)
  past : ∀ c x, s.calls.get c = some x → ∃ k < s.drawn, x.id = .ofNat (k + 1)
  apart : ∀ c c' x x', s.calls.get c = some x → s.calls.get c' = some x' → x.id = x'.id → c = c'
  entries : ∀ id c, s.pendingRequests.get id = some c → ∃ x, s.calls.get c = some x ∧ x.id = id ∧ x.entered ∧
    x.reply = .awaited
  sound : ∀ c x, s.calls.get c = some x → x.Sound

theorem idsApart {k l : Nat} (first : k < 2^64) (second : l < 2^64) (same : UInt64.ofNat (k + 1) = .ofNat (l + 1)) :
    k = l := by
  have numbers := congrArg UInt64.toNat same
  simp only [UInt64.toNat_ofNat'] at numbers
  omega

namespace Correlated

theorem start : Correlated (CdpClient.start : CdpClient Value) where
  counter := rfl
  past c x found := by simp [CdpClient.start] at found
  apart c c' x x' found := by simp [CdpClient.start] at found
  entries id c found := by simp [CdpClient.start] at found
  sound c x found := by simp [CdpClient.start] at found

theorem rewrite {s' : CdpClient Value} {c : CallerId} {x x' : Call Value} (ok : Correlated s)
    (found : s.calls.get c = some x) (calls : s'.calls = s.calls.put c x') (same : x'.id = x.id)
    (counters : s'.nextId = s.nextId ∧ s'.drawn = s.drawn) (sound : x'.Sound)
    (entries : ∀ id c', s'.pendingRequests.get id = some c' → (c' ≠ c ∧ s.pendingRequests.get id = some c') ∨
      (c' = c ∧ id = x.id ∧ x'.entered ∧ x'.reply = .awaited)) : Correlated s' where
  counter := by rw [counters.1,counters.2,ok.counter]
  past c₁ x₁ there := by
    rw [calls,Table.getPut] at there
    rw [counters.2]
    split at there
    · cases there
      rw [same]
      exact ok.past c x found
    · exact ok.past c₁ x₁ there
  apart c₁ c₂ x₁ x₂ first second equal := by
    rw [calls,Table.getPut] at first second
    split at first <;> split at second
    · rename_i here here'
      exact here.trans here'.symm
    · rename_i here _
      cases first
      exact here ▸ ok.apart c c₂ x x₂ found second (same ▸ equal)
    · rename_i _ here
      cases second
      exact here ▸ ok.apart c₁ c x₁ x first found (same ▸ equal)
    · exact ok.apart c₁ c₂ x₁ x₂ first second equal
  entries id c' there := by
    rw [calls]
    rcases entries id c' there with ⟨other,before⟩ | ⟨rfl,rfl,entered,awaited⟩
    · obtain ⟨x₁,known,facts⟩ := ok.entries id c' before
      exact ⟨x₁,by rw [Table.getPut,if_neg other,known],facts⟩
    · exact ⟨x',by simp,same,entered,awaited⟩
  sound c₁ x₁ there := by
    rw [calls,Table.getPut] at there
    split at there
    · cases there
      exact sound
    · exact ok.sound c₁ x₁ there

theorem shrink {s' : CdpClient Value} (ok : Correlated s) (calls : s'.calls = s.calls)
    (counters : s'.nextId = s.nextId ∧ s'.drawn = s.drawn)
    (entries : ∀ id c, s'.pendingRequests.get id = some c → s.pendingRequests.get id = some c) : Correlated s' where
  counter := by rw [counters.1,counters.2,ok.counter]
  past := by
    rw [calls,counters.2]
    exact ok.past
  apart := by
    rw [calls]
    exact ok.apart
  entries id c there := by
    rw [calls]
    exact ok.entries id c (entries id c there)
  sound := by
    rw [calls]
    exact ok.sound

theorem ownEntry (ok : Correlated s) {c : CallerId} {x : Call Value} {id : MessageId} (found : s.calls.get c = some x)
    (entry : s.pendingRequests.get id = some c) : id = x.id ∧ x.entered ∧ x.reply = .awaited := by
  obtain ⟨x',found',same,facts⟩ := ok.entries id c entry
  cases found.symm.trans found'
  exact ⟨same.symm,facts⟩

theorem entryOwner (ok : Correlated s) {c c' : CallerId} {x : Call Value} (found : s.calls.get c = some x)
    (entry : s.pendingRequests.get x.id = some c') : c' = c := by
  obtain ⟨x',found',same,-⟩ := ok.entries x.id c' entry
  exact ok.apart c' c x' x found' found same

theorem noEntry (ok : Correlated s) {c : CallerId} {x : Call Value} (found : s.calls.get c = some x)
    (outside : ¬ (x.entered ∧ x.reply = .awaited)) : s.pendingRequests.get x.id = none := by
  cases entry : s.pendingRequests.get x.id with
  | none => rfl
  | some c' =>
    cases ok.entryOwner found entry
    exact (outside (ok.ownEntry found entry).2).elim

theorem remove (ok : Correlated s) (id : MessageId) :
    Correlated {s with pendingRequests := s.pendingRequests.del id} := by
  refine ok.shrink rfl ⟨rfl,rfl⟩ ?_
  intro id' c' there
  rw [Table.getDel] at there
  split at there
  · contradiction
  · exact there

theorem answer (ok : Correlated s) (reply : Reply Value) (id : MessageId)
    (addressed : ∀ msg, reply = .message msg → msg.id = some id) : Correlated (s.answer reply id) := by
  unfold CdpClient.answer
  split
  · exact ok
  · rename_i c entry
    obtain ⟨x,found,same,entered,awaited⟩ := ok.entries id c entry
    have gone := ok.remove id
    unfold CdpClient.deliver
    rw [show CdpClient.calls {s with pendingRequests := s.pendingRequests.del id} = s.calls from rfl,found]
    dsimp only
    split
    · refine gone.rewrite found rfl rfl ⟨rfl,rfl⟩ ⟨?_,?_,(ok.sound c x found).answer⟩ ?_
      · intro early
        exact (entered.1 early).elim
      · intro msg equal
        rw [same]
        exact addressed msg equal
      · intro id' c' there
        -- the entry of this call was the one that was taken out
        refine .inl ⟨?_,there⟩
        rintro rfl
        have here := (gone.ownEntry found there).1
        rw [Table.getDel,if_pos (here.trans same)] at there
        contradiction
    · exact gone

theorem counted (ok : Correlated s) : s.nextId + 1 = .ofNat (s.drawn + 1 + 1) := by
  rw [ok.counter,UInt64.ofNat_add (s.drawn + 1)]
  rfl

theorem draw (ok : Correlated s) (room : s.drawn < 2^64) (c : CallerId) (new : s.calls.get c = none) :
    Correlated (s.drawId.setCall c ⟨s.nextId,.drawn,.awaited⟩) := by
  have fresh : ∀ c' x', s.calls.get c' = some x' → x'.id ≠ s.nextId := by
    intro c' x' found same
    obtain ⟨k,before,id⟩ := ok.past c' x' found
    rw [id,ok.counter] at same
    have := idsApart (by omega) room same
    omega
  constructor
  · exact ok.counted
  · intro c₁ x₁ there
    simp only [setCall,drawId,Table.getPut] at there ⊢
    split at there
    · cases there
      exact ⟨s.drawn,Nat.lt_succ_self _,ok.counter⟩
    · obtain ⟨k,before,id⟩ := ok.past c₁ x₁ there
      exact ⟨k,Nat.lt_succ_of_lt before,id⟩
  · intro c₁ c₂ x₁ x₂ first second same
    simp only [setCall,drawId,Table.getPut] at first second
    split at first <;> split at second
    · rename_i here here'
      exact here.trans here'.symm
    · cases first
      exact (fresh c₂ x₂ second same.symm).elim
    · cases second
      exact (fresh c₁ x₁ first same).elim
    · exact ok.apart c₁ c₂ x₁ x₂ first second same
  · intro id c₁ there
    obtain ⟨x₁,found,facts⟩ := ok.entries id c₁ there
    refine ⟨x₁,?_,facts⟩
    simp only [setCall,drawId,Table.getPut]
    split
    · rename_i here
      rw [here,new] at found
      contradiction
    · exact found
  · intro c₁ x₁ there
    simp only [setCall,drawId,Table.getPut] at there
    split at there
    · cases there
      exact ⟨fun _ => rfl,by simp,by simp⟩
    · exact ok.sound c₁ x₁ there

theorem drawOther (ok : Correlated s) : Correlated s.drawId where
  counter := ok.counted
  past c x found := by
    obtain ⟨k,before,id⟩ := ok.past c x found
    exact ⟨k,Nat.lt_succ_of_lt before,id⟩
  apart := ok.apart
  entries := ok.entries
  sound := ok.sound

theorem advance (ok : Correlated s) {c : CallerId} {x : Call Value} (found : s.calls.get c = some x) (phase : Phase Value)
    (entered : ({x with phase := phase} : Call Value).entered) : Correlated (s.setCall c {x with phase := phase}) := by
  have sound := ok.sound c x found
  refine ok.rewrite found rfl rfl ⟨rfl,rfl⟩ ⟨fun early => (entered.1 early).elim,sound.reply,fun msg done => ?_⟩ ?_
  · exact (entered.2 _ done).elim
  · intro id c' there
    by_cases here : c' = c
    · subst here
      obtain ⟨same,-,awaited⟩ := ok.ownEntry found there
      exact .inr ⟨rfl,same,entered,awaited⟩
    · exact .inl ⟨here,there⟩

theorem resolve (ok : Correlated s) {c : CallerId} {x : Call Value} (found : s.calls.get c = some x)
    (absent : s.pendingRequests.get x.id = none) (r : Resolution Value)
    (answered : ∀ msg, r = .answered msg → msg.id = some x.id) :
    Correlated (s.setCall c {x with phase := .resolved r}) := by
  have sound := ok.sound c x found
  refine ok.rewrite found rfl rfl ⟨rfl,rfl⟩ ⟨by simp,sound.reply,?_⟩ ?_
  · intro msg done
    exact answered msg (by simpa using done)
  · intro id c' there
    have entry : s.pendingRequests.get id = some c' := there
    refine .inl ⟨?_,entry⟩
    rintro rfl
    rw [(ok.ownEntry found entry).1,absent] at entry
    contradiction

theorem callStep {s' : CdpClient Value} {c : CallerId} {x : Call Value} {e : Event Value} {out : List (Resolved Value)}
    (ok : Correlated s) (found : s.calls.get c = some x) (taken : s.callStep c x e = some (s',out)) : Correlated s' := by
  have sound := ok.sound c x found
  cases e <;> simp only [CdpClient.callStep] at taken <;> try contradiction
  case insert =>
    split at taken
    · rename_i early
      have absent := ok.noEntry found fun entry => entry.1.1 early
      cases taken
      have unused : s.answer .dropped x.id = s := by rw [CdpClient.answer,absent]
      have calls : (s.insertEntry c x).calls = s.calls.put c {x with phase := .sending} := by
        simp only [insertEntry,unused,setCall]
      refine ok.rewrite found calls rfl ?_ ⟨by simp,sound.reply,by simp⟩ ?_
      · simp only [insertEntry,unused,setCall,and_self]
      · intro id c' there
        simp only [insertEntry,unused,setCall,Table.getPut] at there
        split at there
        · rename_i here
          cases there
          exact .inr ⟨rfl,here,⟨by simp,by simp⟩,sound.early early⟩
        · refine .inl ⟨?_,there⟩
          rintro rfl
          exact (ok.ownEntry found there).2.1.1 early
    · contradiction
  case sent | sendFailed | timeout =>
    split at taken
    · cases taken
      exact ok.advance found _ ⟨by simp,by simp⟩
    · contradiction
  case leave =>
    split at taken
    · cases taken
      exact (ok.remove x.id).resolve found (by simp) _ (by simp)
    · contradiction
  case wake =>
    split at taken
    · rename_i msg _ reply
      cases taken
      refine ok.resolve found (ok.noEntry found (by simp [reply])) _ ?_
      intro msg' equal
      cases equal
      exact sound.reply _ reply
    · rename_i reply
      cases taken
      exact ok.resolve found (ok.noEntry found (by simp [reply])) _ (by simp)
    · contradiction

theorem foldAnswer (ok : Correlated s) (ids : List MessageId) : Correlated (ids.foldl (CdpClient.answer · .dropped) s) := by
  induction ids generalizing s with
  | nil => exact ok
  | cons id ids ih => exact ih (ok.answer .dropped id (by simp))

theorem step {s' : CdpClient Value} {e : Event Value} {out : List (Resolved Value)} (ok : Correlated s)
    (room : s'.drawn ≤ 2^64) (taken : s.step e = some (s',out)) : Correlated s' := by
  cases e
  case draw c =>
    simp only [CdpClient.step] at taken
    split at taken
    · rename_i new
      cases taken
      exact ok.draw room c new
    · contradiction
  case drawOther => cases taken; exact ok.drawOther
  case message msg =>
    cases taken
    unfold handleMessage
    split
    · exact ok
    · rename_i id addressed
      exact ok.answer (.message msg) id fun msg' equal => by cases equal; exact addressed
  case clear ids => cases taken; exact ok.foldAnswer ids
  all_goals
    simp only [CdpClient.step,callerOf] at taken
    split at taken
    · contradiction
    · rename_i x found
      exact ok.callStep found taken

end Correlated

structure Stepped (s s' : CdpClient Value) (out : List (Resolved Value)) : Prop where
  ended : ∀ c x r, s.calls.get c = some x → x.phase = .resolved r → s'.calls.get c = some x
  resolves : out = [] ∨ ∃ c x x' r, out = [⟨c,r⟩] ∧ s.calls.get c = some x ∧ (∀ r', x.phase ≠ .resolved r') ∧
    s'.calls.get c = some x' ∧ x'.phase = .resolved r

theorem answerKeeps (reply : Reply Value) (id : MessageId) {c : CallerId} {x : Call Value} {r : Resolution Value}
    (found : s.calls.get c = some x) (done : x.phase = .resolved r) : (s.answer reply id).calls.get c = some x := by
  unfold CdpClient.answer
  split
  · exact found
  · rename_i c' entry
    unfold CdpClient.deliver
    split
    · exact found
    · rename_i x' found'
      split
      · rename_i listens
        rw [Table.getPut]
        split
        · rename_i here
          cases (here ▸ found).symm.trans found'
          rw [done] at listens
          contradiction
        · exact found
      · exact found

theorem setCallKeeps {c c' : CallerId} {x x' y : Call Value} {r : Resolution Value} (there : s.calls.get c' = some y)
    (going : ∀ r, y.phase ≠ .resolved r) (found : s.calls.get c = some x) (done : x.phase = .resolved r) :
    (s.setCall c' x').calls.get c = some x := by
  rw [setCall,Table.getPut]
  split
  · rename_i here
    cases (here ▸ found).symm.trans there
    exact (going r done).elim
  · exact found

theorem callStepped {s' : CdpClient Value} {c : CallerId} {x : Call Value} {e : Event Value} {out : List (Resolved Value)}
    (found : s.calls.get c = some x) (taken : s.callStep c x e = some (s',out)) : Stepped s s' out := by
  cases e <;> simp only [CdpClient.callStep] at taken <;> try contradiction
  case insert =>
    split at taken <;> cases taken
    rename_i early
    refine ⟨fun c' y r there done => ?_,.inl rfl⟩
    have other : c' ≠ c := by
      rintro rfl
      cases found.symm.trans there
      rw [early] at done
      contradiction
    simp only [insertEntry,setCall,Table.getPut,if_neg other]
    exact answerKeeps .dropped x.id there done
  case sent | sendFailed | timeout =>
    split at taken <;> cases taken
    exact ⟨fun _ _ _ => setCallKeeps found (by simp [*]),.inl rfl⟩
  case leave =>
    split at taken <;> cases taken
    rename_i error going
    refine ⟨fun c' y r there done => ?_,.inr ⟨c,x,_,_,rfl,found,by simp [going],by simp [setCall]; rfl,rfl⟩⟩
    exact setCallKeeps (s := {s with pendingRequests := s.pendingRequests.del x.id}) found (by simp [going]) there done
  case wake =>
    split at taken <;> cases taken
    all_goals
      rename_i going _
      exact ⟨fun _ _ _ => setCallKeeps found (by simp [going]),
        .inr ⟨c,x,_,_,rfl,found,by simp [going],by simp [setCall]; rfl,rfl⟩⟩

theorem stepStepped {s' : CdpClient Value} {e : Event Value} {out : List (Resolved Value)}
    (taken : s.step e = some (s',out)) : Stepped s s' out := by
  cases e
  case draw c =>
    simp only [CdpClient.step] at taken
    split at taken <;> cases taken
    rename_i new
    refine ⟨fun c' x r there done => ?_,.inl rfl⟩
    rw [setCall,Table.getPut]
    split
    · rename_i here
      rw [here,new] at there
      contradiction
    · exact there
  case drawOther => cases taken; exact ⟨fun _ _ _ there _ => there,.inl rfl⟩
  case message msg =>
    cases taken
    refine ⟨fun c x r there done => ?_,.inl rfl⟩
    unfold handleMessage
    split
    · exact there
    · exact answerKeeps _ _ there done
  case clear ids =>
    cases taken
    refine ⟨fun c x r there done => ?_,.inl rfl⟩
    induction ids generalizing s with
    | nil => exact there
    | cons id ids ih => exact ih (answerKeeps .dropped id there done)
  all_goals
    simp only [CdpClient.step,callerOf] at taken
    split at taken
    · contradiction
    · rename_i x found
      exact callStepped found taken

structure Traced (s : CdpClient Value) (trace : List (Resolved Value)) : Prop where
  once : (trace.map Resolved.caller).Nodup
  ended : ∀ r ∈ trace, ∃ x, s.calls.get r.caller = some x ∧ x.phase = .resolved r.resolution

theorem runTraced {trace : List (Resolved Value)} (run : (machine Value).Reaches s trace) : Traced s trace := by
  refine Machine.runInvariant Traced ⟨List.nodup_nil,by simp⟩ ?_ run
  intro s trace e s' out traced _ taken
  have stepped := stepStepped taken
  have kept : ∀ r ∈ trace, ∃ x, s'.calls.get r.caller = some x ∧ x.phase = .resolved r.resolution := by
    intro r member
    obtain ⟨x,found,done⟩ := traced.ended r member
    exact ⟨x,stepped.ended r.caller x r.resolution found done,done⟩
  rcases stepped.resolves with rfl | ⟨c,x,x',r,rfl,before,going,after,done⟩
  · rw [List.append_nil]
    exact ⟨traced.once,kept⟩
  · refine ⟨?_,?_⟩
    · rw [List.map_append,List.map_singleton]
      -- the call that ends now had not ended before
      refine List.nodup_append.mpr ⟨traced.once,List.nodup_singleton _,?_⟩
      intro a member b last same
      rw [List.mem_singleton.mp last] at same
      obtain ⟨r',listed,here⟩ := List.mem_map.mp member
      obtain ⟨y,found,ended⟩ := traced.ended r' listed
      rw [here,same,before] at found
      cases found
      exact going _ ended
    · intro r' member
      rcases List.mem_append.mp member with earlier | last
      · exact kept r' earlier
      · cases List.mem_singleton.mp last
        exact ⟨x',after,done⟩

theorem deliverDrawn (c : CallerId) (reply : Reply Value) : (s.deliver c reply).drawn = s.drawn := by
  unfold CdpClient.deliver
  split
  · rfl
  · split <;> rfl

theorem answerDrawn (reply : Reply Value) (id : MessageId) : (s.answer reply id).drawn = s.drawn := by
  unfold CdpClient.answer
  split
  · rfl
  · exact deliverDrawn _ reply

theorem drawnGrows {s' : CdpClient Value} {e : Event Value} {out : List (Resolved Value)}
    (taken : s.step e = some (s',out)) : s.drawn ≤ s'.drawn := by
  cases e
  case draw c =>
    simp only [CdpClient.step] at taken
    split at taken <;> cases taken
    exact Nat.le_succ _
  case drawOther => cases taken; exact Nat.le_succ _
  case message msg =>
    cases taken
    unfold handleMessage
    split
    · exact Nat.le_refl _
    · exact Nat.le_of_eq (answerDrawn _ _).symm
  case clear ids =>
    cases taken
    induction ids generalizing s with
    | nil => exact Nat.le_refl _
    | cons id ids ih => exact (answerDrawn (s := s) .dropped id) ▸ ih
  all_goals
    simp only [CdpClient.step,callerOf] at taken
    split at taken
    · contradiction
    · simp only [CdpClient.callStep] at taken
      split at taken <;> cases taken
      all_goals first
        | exact Nat.le_refl _
        | exact Nat.le_of_eq (answerDrawn (s := s) .dropped _).symm

theorem runCorrelated {trace : List (Resolved Value)} (run : (machine Value).Reaches s trace)
    (unwrapped : s.drawn ≤ 2^64) : Correlated s := by
  refine Machine.runInvariant (fun s _ => s.drawn ≤ 2^64 → Correlated s) (fun _ => .start) ?_ run unwrapped
  intro s trace e s' out ok _ taken room
  exact (ok (Nat.le_trans (drawnGrows taken) room)).step room taken

def Call.Outstanding (x : Call Value) : Prop := ∀ r, x.phase ≠ .resolved r

theorem requestsCorrelate {trace : List (Resolved Value)} (run : (machine Value).Reaches s trace)
    (unwrapped : s.drawn ≤ 2^64) :
    (trace.map Resolved.caller).Nodup ∧
    (∀ r ∈ trace, ∃ x, s.calls.get r.caller = some x ∧ s.pendingRequests.get x.id = none ∧
      (∀ msg, r.resolution = .answered msg → msg.id = some x.id) ∧
      ∀ msg, msg.id = some x.id → s.step (.message msg) = some (s,[])) ∧
    (∀ c c' x x', s.calls.get c = some x → s.calls.get c' = some x' → x.Outstanding → x'.Outstanding → c ≠ c' →
      x.id ≠ x'.id) := by
  have traced := runTraced run
  have ok := runCorrelated run unwrapped
  refine ⟨traced.once,?_,?_⟩
  · intro r member
    obtain ⟨x,found,done⟩ := traced.ended r member
    have absent := ok.noEntry found fun entry => entry.1.2 _ done
    refine ⟨x,found,absent,?_,?_⟩
    · intro msg answered
      exact (ok.sound r.caller x found).answer msg (answered ▸ done)
    · intro msg late
      simp only [CdpClient.step,handleMessage,late,CdpClient.answer,absent]
  · intro c c' x x' found found' _ _ other same
    exact other (ok.apart c c' x x' found found' same)

section Run
open Machine

def responseTo (id : MessageId) : CdpMessage Unit := ⟨some id,none,some (),none,none⟩

def crossed : List (Event Unit) :=
  [.draw 0,.draw 1,.insert 0,.insert 1,.sent 0,.sent 1,.message (responseTo 2),.message (responseTo 1),
    .message (responseTo 2),.wake 0,.wake 1]

theorem requestsCorrelateRun : ∃ (s : CdpClient Unit) (trace : List (Resolved Unit)),
    trace.map Resolved.caller = [0,1] ∧ (trace.map Resolved.caller).Nodup ∧
      ∀ r ∈ trace, ∃ x, s.calls.get r.caller = some x ∧ s.pendingRequests.get x.id = none := by
  obtain ⟨s,trace,run,both⟩ := execWitness (machine Unit) crossed
    (fun s trace => decide (s.drawn ≤ 2^64 ∧ trace.map Resolved.caller = [0,1])) (by decide +kernel)
  obtain ⟨room,callers⟩ := of_decide_eq_true both
  obtain ⟨once,ended,-⟩ := requestsCorrelate run room
  refine ⟨s,trace,callers,once,fun r member => ?_⟩
  obtain ⟨x,found,absent,-⟩ := ended r member
  exact ⟨x,found,absent⟩

theorem otherDraws (n : Nat) : ∃ s : CdpClient Unit, (machine Unit).Reaches s [] ∧
    s.calls.get 0 = some ⟨1,.waiting,.awaited⟩ ∧ s.calls.get 1 = none ∧ s.nextId = .ofNat (n + 2) := by
  induction n with
  | zero =>
    obtain ⟨s,trace,run,waits⟩ := execWitness (machine Unit) [.draw 0,.insert 0,.sent 0]
      (fun s trace => decide (trace = [] ∧ s.calls.get 0 = some ⟨1,.waiting,.awaited⟩ ∧ s.calls.get 1 = none ∧
        s.nextId = 2)) (by decide +kernel)
    obtain ⟨rfl,first,second,next⟩ := of_decide_eq_true waits
    exact ⟨s,run,first,second,next⟩
  | succ n ih =>
    obtain ⟨s,run,first,second,next⟩ := ih
    refine ⟨s.drawId,.step (a := Event.drawOther) run trivial rfl,first,second,?_⟩
    rw [show n + 1 + 2 = n + 2 + 1 from rfl,UInt64.ofNat_add (n + 2),← next]
    rfl

theorem wrappedIdTaken : ¬ ∀ (s : CdpClient Unit) (trace : List (Resolved Unit)), (machine Unit).Reaches s trace →
    ∀ c c' x x', s.calls.get c = some x → s.calls.get c' = some x' → x.Outstanding → x'.Outstanding → c ≠ c' →
      x.id ≠ x'.id := by
  intro distinct
  obtain ⟨s,run,first,second,next⟩ := otherDraws (2^64 - 1)
  have again : s.step (.draw 1) = some (s.drawId.setCall 1 ⟨s.nextId,.drawn,.awaited⟩,[]) := by
    simp only [CdpClient.step,second]
  refine distinct _ _ (.step (a := Event.draw 1) run trivial again) 0 1 ⟨1,.waiting,.awaited⟩ ⟨s.nextId,.drawn,.awaited⟩
    ?_ ?_ (by simp [Call.Outstanding]) (by simp [Call.Outstanding]) (by decide) ?_
  · simpa [setCall,drawId] using first
  · simp [setCall]
  · rw [next]
    rfl

end Run
end Vscreen.Cdp
