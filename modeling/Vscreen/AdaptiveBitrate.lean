import Mathlib.Algebra.Order.Ring.Unbundled.Rat
import Vscreen.Machine

/-! The bitrate that a viewer asks for (test-client, client.ts): `adaptBitrate` on the
loss of each second. What `Math.round` makes of a product with a step is a parameter. -/
namespace Vscreen.Viewer

def abrMinKbps : Int := 1000
def abrMaxKbps : Int := 6000
def abrDefaultKbps : Int := 4000
def abrLossHighPct : ℚ := 5
def abrLossLowPct : ℚ := 1
def abrGoodStreakNeeded : Nat := 10

structure Rounding where
  down : Int → Int
  up : Int → Int
  lower : ∀ kbps, 0 ≤ kbps → down kbps ≤ kbps

structure Abr where
  currentBitrateKbps : Int
  goodStreak : Nat
  lastSentBitrate : Int
  deriving DecidableEq, Repr

namespace Abr

def init : Abr := ⟨abrDefaultKbps,0,0⟩

def asked (r : Rounding) (a : Abr) (lossPercent : ℚ) : Int × Nat :=
  if abrLossHighPct < lossPercent then (r.down a.currentBitrateKbps,0)
  else if lossPercent < abrLossLowPct then
    if abrGoodStreakNeeded ≤ a.goodStreak + 1 then (r.up a.currentBitrateKbps,0)
    else (a.currentBitrateKbps,a.goodStreak + 1)
  else (a.currentBitrateKbps,0)

def clamped (kbps : Int) : Int := max abrMinKbps (min abrMaxKbps kbps)

def adaptBitrate (r : Rounding) (a : Abr) (lossPercent : ℚ) : Abr × Option Int :=
  let newBitrate := clamped (a.asked r lossPercent).1
  if newBitrate ≠ a.lastSentBitrate then (⟨newBitrate,(a.asked r lossPercent).2,newBitrate⟩,some newBitrate)
  else (⟨newBitrate,(a.asked r lossPercent).2,a.lastSentBitrate⟩,none)

end Abr

structure Adapted where
  loss : ℚ
  before : Int
  after : Int
  sent : Option Int
  deriving DecidableEq

def viewer (r : Rounding) : Machine Abr ℚ Adapted where
  init := .init
  step a lossPercent :=
    let adapted := a.adaptBitrate r lossPercent
    some (adapted.1,[⟨lossPercent,a.currentBitrateKbps,adapted.1.currentBitrateKbps,adapted.2⟩])

structure Abr.Within (a : Abr) : Prop where
  least : abrMinKbps ≤ a.currentBitrateKbps
  most : a.currentBitrateKbps ≤ abrMaxKbps

def Adapted.Calm (a : Adapted) : Prop := a.loss < abrLossLowPct ∧ a.after = a.before

def Earned (trace : List Adapted) : Prop := ∀ earlier a later, trace = earlier ++ a::later → a.before < a.after →
  a.loss < abrLossLowPct ∧ ∃ first nine, earlier = first ++ nine ∧ nine.length = 9 ∧ ∀ o ∈ nine, o.Calm

def lastSent (trace : List Adapted) : Option Int := (trace.filterMap (·.sent)).getLast?

def Sent (trace : List Adapted) : Prop := ∀ earlier a later kbps, trace = earlier ++ a::later → a.sent = some kbps →
  kbps = a.after ∧ abrMinKbps ≤ kbps ∧ kbps ≤ abrMaxKbps ∧ lastSent earlier ≠ some kbps

theorem clampedWithin (kbps : Int) : abrMinKbps ≤ Abr.clamped kbps ∧ Abr.clamped kbps ≤ abrMaxKbps := by
  simp only [Abr.clamped,abrMinKbps,abrMaxKbps]
  omega

theorem clampedSame {a : Abr} (within : a.Within) : Abr.clamped a.currentBitrateKbps = a.currentBitrateKbps := by
  have least := within.least
  have most := within.most
  simp only [Abr.clamped,abrMinKbps,abrMaxKbps] at *
  omega

theorem clampedLower {a : Abr} {kbps : Int} (within : a.Within) (lower : kbps ≤ a.currentBitrateKbps) :
    Abr.clamped kbps ≤ a.currentBitrateKbps := by
  have least := within.least
  simp only [Abr.clamped,abrMinKbps,abrMaxKbps] at *
  omega

inductive Abr.Moved (a : Abr) (loss : ℚ) : Int → Nat → Prop where
  | cut {kbps : Int} (lossy : abrLossHighPct < loss) (lower : kbps ≤ a.currentBitrateKbps) : Moved a loss kbps 0
  | raised {kbps : Int} (good : loss < abrLossLowPct) (last : a.goodStreak + 1 = abrGoodStreakNeeded ∨
      abrGoodStreakNeeded < a.goodStreak + 1) : Moved a loss kbps 0
  | calm (good : loss < abrLossLowPct) (short : a.goodStreak + 1 < abrGoodStreakNeeded) :
      Moved a loss a.currentBitrateKbps (a.goodStreak + 1)
  | held : Moved a loss a.currentBitrateKbps 0

theorem askedMoved (r : Rounding) {a : Abr} (loss : ℚ) (within : a.Within) :
    a.Moved loss (Abr.clamped (a.asked r loss).1) (a.asked r loss).2 := by
  simp only [Abr.asked]
  split
  · rename_i lossy
    have positive : 0 ≤ a.currentBitrateKbps := (by decide : (0 : Int) ≤ abrMinKbps).trans within.least
    exact .cut lossy (clampedLower within (r.lower _ positive))
  · split
    · rename_i good
      split
      · rename_i enough
        exact .raised good (by omega)
      · rename_i short
        rw [clampedSame within]
        exact .calm good (by omega)
    · rw [clampedSame within]
      exact .held
structure Adapting (a : Abr) (trace : List Adapted) : Prop where
  within : a.Within
  short : a.goodStreak < abrGoodStreakNeeded
  streak : ∃ first calm, trace = first ++ calm ∧ calm.length = a.goodStreak ∧ ∀ o ∈ calm, o.Calm
  last : a.lastSentBitrate = (lastSent trace).getD 0
  known : trace ≠ [] → lastSent trace = some a.currentBitrateKbps
  earned : Earned trace
  sent : Sent trace

theorem abrStart : Adapting .init [] where
  within := ⟨by decide,by decide⟩
  short := by decide
  streak := ⟨[],[],rfl,rfl,fun o absent => by cases absent⟩
  last := rfl
  known := fun absent => absurd rfl absent
  earned := fun earlier a later split => by simp at split
  sent := fun earlier a later kbps split => by simp at split

theorem eachSecond {P : List Adapted → Adapted → Prop} {trace : List Adapted} {now : Adapted}
    (before : ∀ earlier a later, trace = earlier ++ a::later → P earlier a) (here : P trace now)
    {earlier : List Adapted} {a : Adapted} {later : List Adapted} (split : trace ++ [now] = earlier ++ a::later) : P earlier a := by
  rcases List.eq_nil_or_concat later with rfl | ⟨rest,final,rfl⟩
  · obtain ⟨rfl,same⟩ := List.append_inj' split rfl
    cases same
    exact here
  · rw [List.concat_eq_append,← List.cons_append,← List.append_assoc] at split
    obtain ⟨whole,-⟩ := List.append_inj' split rfl
    exact before earlier a rest whole

theorem lastSentAppend (trace : List Adapted) (now : Adapted) :
    lastSent (trace ++ [now]) = now.sent.or (lastSent trace) := by
  simp only [lastSent,List.filterMap_append,List.getLast?_append]
  cases now with
  | mk loss before after sent =>
    cases sent with
    | none => rfl
    | some kbps => rfl

section Seconds
variable {r : Rounding} {a : Abr} {trace : List Adapted}

theorem earnedNext {loss : ℚ} {kbps : Int} {streak : Nat} {sent : Option Int} (inv : Adapting a trace)
    (moved : a.Moved loss kbps streak) : Earned (trace ++ [⟨loss,a.currentBitrateKbps,kbps,sent⟩]) := by
  intro earlier o later split
  refine eachSecond (P := fun earlier o => o.before < o.after →
    o.loss < abrLossLowPct ∧ ∃ first nine, earlier = first ++ nine ∧ nine.length = 9 ∧ ∀ o ∈ nine, o.Calm)
    inv.earned ?_ split
  intro raise
  cases moved with
  | cut lossy lower => exact absurd raise (not_lt.mpr lower)
  | raised good last =>
    obtain ⟨first,calm,whole,length,each⟩ := inv.streak
    have short := inv.short
    refine ⟨good,first,calm,whole,?_,each⟩
    rw [length]
    simp only [abrGoodStreakNeeded] at short last
    omega
  | calm good short => exact absurd raise (lt_irrefl _)
  | held => exact absurd raise (lt_irrefl _)

theorem streakNext {loss : ℚ} {kbps : Int} {streak : Nat} (sent : Option Int) (inv : Adapting a trace)
    (moved : a.Moved loss kbps streak) : streak < abrGoodStreakNeeded ∧ ∃ first calm,
      trace ++ [⟨loss,a.currentBitrateKbps,kbps,sent⟩] = first ++ calm ∧ calm.length = streak ∧ ∀ o ∈ calm, o.Calm := by
  have fresh : ∃ first calm, trace ++ [⟨loss,a.currentBitrateKbps,kbps,sent⟩] = first ++ calm ∧
      calm.length = 0 ∧ ∀ o ∈ calm, o.Calm := ⟨_,[],(List.append_nil _).symm,rfl,fun o absent => by cases absent⟩
  cases moved with
  | cut lossy lower => exact ⟨by decide,fresh⟩
  | raised good last => exact ⟨by decide,fresh⟩
  | held => exact ⟨by decide,fresh⟩
  | calm good short =>
    obtain ⟨first,calm,whole,length,each⟩ := inv.streak
    refine ⟨short,first,calm ++ [⟨loss,a.currentBitrateKbps,a.currentBitrateKbps,sent⟩],?_,?_,?_⟩
    · rw [whole,List.append_assoc]
    · rw [List.length_append,length,List.length_singleton]
    · intro o member
      rcases List.mem_append.mp member with old | new
      · exact each o old
      · rw [List.mem_singleton.mp new]
        exact ⟨good,rfl⟩

theorem sentNext {loss : ℚ} {kbps : Int} {sent : Option Int} (inv : Adapting a trace) (least : abrMinKbps ≤ kbps)
    (most : kbps ≤ abrMaxKbps) (changed : ∀ k, sent = some k → k = kbps ∧ kbps ≠ a.lastSentBitrate) :
    Sent (trace ++ [⟨loss,a.currentBitrateKbps,kbps,sent⟩]) := by
  intro earlier o later k split
  refine eachSecond (P := fun earlier o => o.sent = some k →
    k = o.after ∧ abrMinKbps ≤ k ∧ k ≤ abrMaxKbps ∧ lastSent earlier ≠ some k) ?_ ?_ split
  · exact fun earlier o later split given => inv.sent earlier o later k split given
  · intro given
    obtain ⟨rfl,other⟩ := changed k given
    refine ⟨rfl,least,most,fun before => other ?_⟩
    rw [inv.last,before,Option.getD_some]

theorem abrNext {loss : ℚ} {a' : Abr} {out : List Adapted} (inv : Adapting a trace)
    (taken : (viewer r).step a loss = some (a',out)) : Adapting a' (trace ++ out) := by
  cases taken
  have moved := askedMoved r loss inv.within
  obtain ⟨least,most⟩ := clampedWithin (a.asked r loss).1
  simp only [Abr.adaptBitrate]
  generalize Abr.clamped (a.asked r loss).1 = kbps at moved least most ⊢
  generalize (a.asked r loss).2 = streak at moved ⊢
  split
  · rename_i changed
    obtain ⟨short,calm⟩ := streakNext (some kbps) inv moved
    have final : lastSent (trace ++ [⟨loss,a.currentBitrateKbps,kbps,some kbps⟩]) = some kbps := by
      rw [lastSentAppend]
      rfl
    refine ⟨⟨least,most⟩,short,calm,?_,fun _ => final,earnedNext inv moved,sentNext inv least most ?_⟩
    · rw [final]
      rfl
    · intro k same
      cases same
      exact ⟨rfl,changed⟩
  · rename_i same
    have same : kbps = a.lastSentBitrate := not_not.mp same
    obtain ⟨short,calm⟩ := streakNext none inv moved
    have final : lastSent (trace ++ [⟨loss,a.currentBitrateKbps,kbps,none⟩]) = lastSent trace := by
      rw [lastSentAppend]
      rfl
    refine ⟨⟨least,most⟩,short,calm,?_,fun _ => ?_,earnedNext inv moved,sentNext inv least most ?_⟩
    · rw [final]
      exact inv.last
    · -- nothing was sent only if the last one sent is still the bitrate
      rw [final,same,inv.last]
      cases before : lastSent trace with
      | some k => rfl
      | none =>
        rw [inv.last,before] at same
        rw [same] at least
        exact absurd least (by decide)
    · intro k absurd
      cases absurd

theorem bitrateAdapted (run : Machine.Reaches (viewer r) a trace) : a.Within ∧ Earned trace ∧ Sent trace ∧
    (trace ≠ [] → lastSent trace = some a.currentBitrateKbps) := by
  have inv : Adapting a trace := Machine.runInvariant Adapting abrStart (fun inv _ taken => abrNext inv taken) run
  exact ⟨inv.within,inv.earned,inv.sent,inv.known⟩

end Seconds

def exactly : Rounding where
  down kbps := (7 * kbps + 5) / 10
  up kbps := (21 * kbps + 10) / 20
  lower := by intro kbps positive; omega

theorem bitrateRecovers : ∃ a trace, Machine.Reaches (viewer exactly) a trace ∧ a.currentBitrateKbps = 2940 ∧
    (a.Within ∧ Earned trace ∧ Sent trace ∧ (trace ≠ [] → lastSent trace = some a.currentBitrateKbps)) := by
  obtain ⟨a,trace,run,raised⟩ := Machine.execWitness (viewer exactly) (8::List.replicate 10 0)
    (fun a _ => a.currentBitrateKbps == 2940) (by decide +kernel)
  exact ⟨a,trace,run,by simpa using raised,bitrateAdapted run⟩

end Vscreen.Viewer
