import Mathlib.Algebra.GroupWithZero.Nat

/-! The delay before a reconnection attempt (client.rs, `backoff_delay`). `none` is an
overflow or a division by zero. -/
namespace Vscreen.Cdp

def durationMax : Nat := (2^64 - 1) * 10^9 + 999999999

structure StdDuration where
  nanos : Nat
  fits : nanos ≤ durationMax
  deriving DecidableEq, Repr

namespace StdDuration

def saturatingMul (d : StdDuration) (n : UInt32) : StdDuration :=
  if fits : d.nanos * n.toNat ≤ durationMax then ⟨d.nanos * n.toNat,fits⟩ else ⟨durationMax,Nat.le_refl _⟩

def min (d e : StdDuration) : StdDuration := if e.nanos < d.nanos then e else d

def asMillis (d : StdDuration) : Nat := d.nanos / 10^6

theorem millisFit (ms : UInt64) : ms.toNat * 10^6 ≤ durationMax := by
  have := ms.toNat_lt
  rw [durationMax]
  omega

def fromMillis (ms : UInt64) : StdDuration := ⟨ms.toNat * 10^6,millisFit ms⟩

end StdDuration

structure RetryConfig where
  initialDelay : StdDuration
  maxDelay : StdDuration
  jitter : Bool
  deriving DecidableEq, Repr

def checkedShl (n attempt : UInt32) : Option UInt32 := if attempt < 32 then some (n <<< attempt) else none

def addU64 (a b : UInt64) : Option UInt64 := if a.toNat + b.toNat < 2^64 then some (a + b) else none

def remU64 (a b : UInt64) : Option UInt64 := if b = 0 then none else some (a % b)

def jittered (ms : UInt64) (attempt : UInt32) : Option UInt64 :=
  (addU64 attempt.toUInt64 1).bind fun n => (addU64 (ms / 2) 1).bind fun modulus =>
    (remU64 (ms / 2 * n) modulus).bind fun rest => addU64 (ms / 2) rest

def backoffDelay (attempt : UInt32) (config : RetryConfig) : Option StdDuration :=
  let base := config.initialDelay.saturatingMul ((checkedShl 1 attempt).getD 0xFFFFFFFF)
  let delay := base.min config.maxDelay
  if config.jitter then
    let ms := UInt64.ofNat delay.asMillis
    (jittered ms attempt).map .fromMillis
  else some delay

theorem minNanos (d e : StdDuration) : (d.min e).nanos = min d.nanos e.nanos := by
  rw [StdDuration.min]
  split
  · rename_i smaller
    exact (Nat.min_eq_right (Nat.le_of_lt smaller)).symm
  · rename_i larger
    exact (Nat.min_eq_left (Nat.not_lt.mp larger)).symm

theorem mulNanos (d : StdDuration) (n : UInt32) :
    (d.saturatingMul n).nanos = min (d.nanos * n.toNat) durationMax := by
  rw [StdDuration.saturatingMul]
  split
  · rename_i fits
    exact (Nat.min_eq_left fits).symm
  · rename_i large
    exact (Nat.min_eq_right (Nat.le_of_not_le large)).symm

theorem shiftedPower (attempt : UInt32) :
    ((checkedShl 1 attempt).getD 0xFFFFFFFF).toNat = min (2^attempt.toNat) (2^32 - 1) := by
  rw [checkedShl]
  split
  · rename_i below
    have small : attempt.toNat < 32 := UInt32.lt_iff_toNat_lt.mp below
    have power : 2^attempt.toNat ≤ 2^31 := Nat.pow_le_pow_right (by decide) (by omega)
    rw [Option.getD_some,UInt32.toNat_shiftLeft,Nat.mod_eq_of_lt small,Nat.shiftLeft_eq]
    show 1 * 2^attempt.toNat % 2^32 = _
    rw [Nat.one_mul,Nat.mod_eq_of_lt (by omega)]
    exact (Nat.min_eq_left (by omega)).symm
  · rename_i beyond
    have large : 32 ≤ attempt.toNat := Nat.not_lt.mp (fun small => beyond (UInt32.lt_iff_toNat_lt.mpr small))
    have power : 2^32 ≤ 2^attempt.toNat := Nat.pow_le_pow_right (by decide) large
    exact (Nat.min_eq_right (Nat.le_trans (by decide) power)).symm

def plainDelay (attempt : UInt32) (config : RetryConfig) : Nat :=
  min (min (config.initialDelay.nanos * min (2^attempt.toNat) (2^32 - 1)) durationMax) config.maxDelay.nanos

theorem plainGrows (config : RetryConfig) {attempt later : UInt32} (after : attempt ≤ later) :
    plainDelay attempt config ≤ plainDelay later config := by
  have power : 2^attempt.toNat ≤ 2^later.toNat :=
    Nat.pow_le_pow_right (by decide) (UInt32.le_iff_toNat_le.mp after)
  have factor : min (2^attempt.toNat) (2^32 - 1) ≤ min (2^later.toNat) (2^32 - 1) := by omega
  have product := Nat.mul_le_mul_left config.initialDelay.nanos factor
  rw [plainDelay,plainDelay]
  omega

theorem addFits {a b : UInt64} (fits : a.toNat + b.toNat < 2^64) :
    ∃ c, addU64 a b = some c ∧ c.toNat = a.toNat + b.toNat :=
  ⟨a + b,if_pos fits,by rw [UInt64.toNat_add,Nat.mod_eq_of_lt fits]⟩

theorem jitteredBetween (ms : UInt64) (attempt : UInt32) : ∃ chosen, jittered ms attempt = some chosen ∧
    ms.toNat / 2 ≤ chosen.toNat ∧ chosen.toNat ≤ ms.toNat := by
  have half : (ms / 2).toNat = ms.toNat / 2 := UInt64.toNat_div ms 2
  have one : (1 : UInt64).toNat = 1 := rfl
  have bound := ms.toNat_lt
  have tries := attempt.toNat_lt
  have wide : attempt.toUInt64.toNat = attempt.toNat := UInt32.toNat_toUInt64 attempt
  obtain ⟨n,counted,-⟩ := @addFits attempt.toUInt64 1 (by omega)
  obtain ⟨modulus,added,value⟩ := @addFits (ms / 2) 1 (by omega)
  have positive : modulus ≠ 0 := by
    intro zero
    rw [zero,one] at value
    exact absurd value (Nat.succ_ne_zero _).symm
  have rest : (ms / 2 * n % modulus).toNat ≤ ms.toNat / 2 := by
    rw [UInt64.toNat_mod,value,one,half]
    exact Nat.le_of_lt_succ (Nat.mod_lt _ (Nat.succ_pos _))
  obtain ⟨chosen,sum,total⟩ := @addFits (ms / 2) (ms / 2 * n % modulus) (by omega)
  refine ⟨chosen,?_,by omega,by omega⟩
  rw [jittered,counted,Option.bind_some,added,Option.bind_some,remU64,if_neg positive,Option.bind_some,sum]

def unjittered (attempt : UInt32) (config : RetryConfig) : Option StdDuration :=
  backoffDelay attempt {config with jitter := false}

theorem unjitteredPlain (attempt : UInt32) (config : RetryConfig) :
    ∃ plain, unjittered attempt config = some plain ∧ plain.nanos = plainDelay attempt config := by
  refine ⟨_,rfl,?_⟩
  rw [minNanos,mulNanos,shiftedPower,plainDelay]

structure DelayBounded (attempt : UInt32) (config : RetryConfig) : Prop where
  plain : ∃ plain, unjittered attempt config = some plain ∧ plain.nanos = plainDelay attempt config
  grows : ∀ later plain plain', attempt ≤ later → unjittered attempt config = some plain →
    unjittered later config = some plain' → plain.nanos ≤ plain'.nanos
  delay : ∃ delay, backoffDelay attempt config = some delay ∧ delay.nanos ≤ config.maxDelay.nanos
  jitter : config.jitter = true → ∀ plain delay, unjittered attempt config = some plain →
    backoffDelay attempt config = some delay → plain.nanos / 2 / 10^6 * 10^6 ≤ delay.nanos ∧ delay.nanos ≤ plain.nanos

theorem jitteredDelay (attempt : UInt32) (config : RetryConfig) (jitter : config.jitter = true)
    (fits : config.maxDelay.asMillis < 2^64) : ∃ delay, backoffDelay attempt config = some delay ∧
      plainDelay attempt config / 2 / 10^6 * 10^6 ≤ delay.nanos ∧ delay.nanos ≤ plainDelay attempt config := by
  obtain ⟨plain,same,nanos⟩ := unjitteredPlain attempt config
  have base : (config.initialDelay.saturatingMul ((checkedShl 1 attempt).getD 0xFFFFFFFF)).min config.maxDelay = plain :=
    Option.some.inj same
  have most : plain.nanos ≤ config.maxDelay.nanos := by
    rw [nanos,plainDelay]
    exact Nat.min_le_right _ _
  obtain ⟨chosen,drawn,low,high⟩ := jitteredBetween (UInt64.ofNat plain.asMillis) attempt
  have millis : (UInt64.ofNat plain.asMillis).toNat = plain.nanos / 10^6 := by
    rw [UInt64.toNat_ofNat']
    exact Nat.mod_eq_of_lt (Nat.lt_of_le_of_lt (Nat.div_le_div_right most) fits)
  rw [millis] at low high
  refine ⟨.fromMillis chosen,?_,?_,?_⟩
  · simp only [backoffDelay,base,if_pos jitter,drawn,Option.map_some]
  · rw [← nanos]
    show _ ≤ chosen.toNat * 10^6
    omega
  · rw [← nanos]
    show chosen.toNat * 10^6 ≤ _
    omega

theorem backoffBounded (attempt : UInt32) (config : RetryConfig) (fits : config.maxDelay.asMillis < 2^64) :
    DelayBounded attempt config where
  plain := unjitteredPlain attempt config
  grows := by
    intro later plain plain' after first second
    obtain ⟨d,same,nanos⟩ := unjitteredPlain attempt config
    obtain ⟨d',same',nanos'⟩ := unjitteredPlain later config
    cases first.symm.trans same
    cases second.symm.trans same'
    rw [nanos,nanos']
    exact plainGrows config after
  delay := by
    have most : plainDelay attempt config ≤ config.maxDelay.nanos := Nat.min_le_right _ _
    by_cases jitter : config.jitter = true
    · obtain ⟨delay,same,-,high⟩ := jitteredDelay attempt config jitter fits
      exact ⟨delay,same,Nat.le_trans high most⟩
    · obtain ⟨plain,same,nanos⟩ := unjitteredPlain attempt config
      have off : {config with jitter := false} = config := by
        cases config
        simp_all
      rw [unjittered,off] at same
      exact ⟨plain,same,nanos ▸ most⟩
  jitter := by
    intro jitter plain delay first second
    obtain ⟨d,same,nanos⟩ := unjitteredPlain attempt config
    obtain ⟨d',same',low,high⟩ := jitteredDelay attempt config jitter fits
    cases first.symm.trans same
    cases second.symm.trans same'
    rw [nanos]
    exact ⟨low,high⟩

def defaultRetry : RetryConfig := ⟨⟨100 * 10^6,by decide⟩,⟨5 * 10^9,by decide⟩,true⟩

theorem backoffBoundedLate : DelayBounded 40 defaultRetry := backoffBounded 40 defaultRetry (by decide)

end Vscreen.Cdp
