import Mathlib.Data.List.Prime
import Mathlib.Order.Interval.Finset.Nat
import Mathlib.Tactic.NormNum.Prime
import Polku.Data.XorPower
import Polku.Data.Xorshift

/-!
# The period of the 64-bit generator

The step of the generator respects xor, and a polynomial of degree 64 comes to zero in its
place. Modulo that polynomial its 2^64-th power is the step itself, while for each prime
divisor of 2^64 - 1 the power by that part of it less one has an inverse. So from any state
but zero the generator passes through all the other words before it comes back.
-/

namespace Polku.Data

/-- The number of words which are not zero. -/
def xorshiftPeriod : Nat := 2 ^ 64 - 1

/-- The step of the generator on bit vectors. -/
def xorshiftBits (x : BitVec 64) : BitVec 64 := (xorshift64 (UInt64.ofBitVec x)).toBitVec

/-- The polynomial of degree 64 which is zero in the step. -/
def xorshiftModulus : Nat := 0x1013ed4a358913201

/-- Repetitions of the step, on words and on bit vectors. -/
theorem toBitVec_iterate (times : Nat) (state : UInt64) :
    (xorshift64^[times] state).toBitVec = xorshiftBits^[times] state.toBitVec := by
  have steps : Function.Semiconj UInt64.toBitVec xorshift64 xorshiftBits := fun _ => rfl
  exact steps.iterate_right times state

/-- The step respects xor. -/
theorem xorshiftBits_linear : XorLinear xorshiftBits := by
  have left : XorLinear fun x : BitVec 64 => x ^^^ x <<< 13 :=
    XorLinear.xorImage (Vanishing.shiftLeft (by omega)).xor
  have right : XorLinear fun x : BitVec 64 => x ^^^ x >>> 7 :=
    XorLinear.xorImage (Vanishing.shiftRight (by omega)).xor
  have again : XorLinear fun x : BitVec 64 => x ^^^ x <<< 17 :=
    XorLinear.xorImage (Vanishing.shiftLeft (by omega)).xor
  have composed := (left.comp right).comp again
  intro x y
  simpa [xorshiftBits, xorshift64] using composed x y

/-- The polynomial is zero in the step, as the words with a single bit tell. -/
theorem xorshiftBits_annihilates : Annihilates xorshiftBits 64 xorshiftModulus where
  linear := xorshiftBits_linear
  leading := by decide
  zero := by
    apply (xorshiftBits_linear.applyPoly 65 xorshiftModulus).eq_zero_of_twoPow
    decide +kernel

/-- As many steps as there are words are one step. -/
theorem xorshiftBits_iterate_words : xorshiftBits^[2 ^ 64] = xorshiftBits := by
  have one : powPoly 64 xorshiftModulus 1 2 1 = 2 := by decide +kernel
  have words : powPoly 64 xorshiftModulus 65 2 (2 ^ 64) = 2 := by decide +kernel
  have once := xorshiftBits_annihilates.iterate_eq (by omega) 1 (by omega : 1 < 2 ^ 1)
  have often := xorshiftBits_annihilates.iterate_eq (by omega) 65 (by omega : 2 ^ 64 < 2 ^ 65)
  rw [one] at once
  rw [words, once] at often
  exact often.symm

/-- Every state comes back after one step less. -/
theorem xorshift64_iterate_period (state : UInt64) : xorshift64^[xorshiftPeriod] state = state := by
  apply xorshift64_injective
  rw [← Function.iterate_succ_apply' xorshift64]
  apply UInt64.toBitVec_inj.mp
  have words := congrFun xorshiftBits_iterate_words state.toBitVec
  rw [toBitVec_iterate]
  exact words

/-- An inverse of the power by the part of the period which a prime leaves, less one. -/
def periodInverse : Nat → Nat
  | 3 => 0xd742ca58f5d785e2
  | 5 => 0xa3f64d1fb612f669
  | 17 => 0x63f43995a1b49645
  | 257 => 0x7d573a75b5260c4d
  | 641 => 0x1ead61508d13286
  | 65537 => 0xed7248a2317d33b1
  | 6700417 => 0x483b08aa5d3741b5
  | _ => 0

/-- The primes which divide the period. -/
def periodPrimes : List Nat := [3, 5, 17, 257, 641, 65537, 6700417]

/-- There are no others. -/
theorem mem_periodPrimes {prime : Nat} (isPrime : prime.Prime)
    (divides : prime ∣ xorshiftPeriod) : prime ∈ periodPrimes := by
  have product : xorshiftPeriod = periodPrimes.prod := by decide +kernel
  have primes : ∀ factor ∈ periodPrimes, factor.Prime := by
    simp only [periodPrimes, List.forall_mem_cons]
    norm_num
  rw [product] at divides
  obtain ⟨factor, member, factorDivides⟩ := (Prime.dvd_prod_iff isPrime.prime).mp divides
  rwa [(Nat.prime_dvd_prime_iff_eq isPrime (primes factor member)).mp factorDivides]

/-- Nothing but zero comes back after a proper part of the period. -/
theorem eq_zero_of_fixed_part {prime : Nat} (member : prime ∈ periodPrimes) {state : UInt64}
    (fixed : xorshift64^[xorshiftPeriod / prime] state = state) : state = 0 := by
  have inverts : ∀ prime ∈ periodPrimes, mulPoly 64 xorshiftModulus 64
      (powPoly 64 xorshiftModulus 64 2 (xorshiftPeriod / prime) ^^^ 1) (periodInverse prime) = 1 := by
    decide +kernel
  have part : xorshiftPeriod / prime < 2 ^ 64 :=
    Nat.lt_of_le_of_lt (Nat.div_le_self _ _) (by decide)
  apply UInt64.toBitVec_inj.mp
  apply xorshiftBits_annihilates.eq_zero_of_fixed (by omega) 64 part (inverts prime member)
  rw [← toBitVec_iterate, fixed]

/-- A number of repetitions which returns to a point is the least one if no part of it by
a prime does. -/
theorem minimalPeriod_eq_of_primes {α : Type*} {step : α → α} {x : α} {period : Nat}
    (returns : Function.IsPeriodicPt step period x)
    (shorter : ∀ prime : Nat, prime.Prime → prime ∣ period → step^[period / prime] x ≠ x) :
    Function.minimalPeriod step x = period := by
  obtain ⟨times, whole⟩ := returns.minimalPeriod_dvd
  by_cases single : times = 1
  · rw [whole, single, Nat.mul_one]
  · obtain ⟨prime, isPrime, rest, rfl⟩ := Nat.exists_prime_and_dvd single
    have part : period / prime = Function.minimalPeriod step x * rest := by
      rw [whole, Nat.mul_left_comm, Nat.mul_div_cancel_left _ isPrime.pos]
    have divides : prime ∣ period := ⟨Function.minimalPeriod step x * rest, by
      rw [whole, Nat.mul_left_comm]⟩
    apply absurd _ (shorter prime isPrime divides)
    rw [part]
    exact (Function.isPeriodicPt_minimalPeriod step x).mul_const rest

/-- Every state but zero comes back after 2^64 - 1 steps and not before. -/
theorem minimalPeriod_xorshift64 {state : UInt64} (nonzero : state ≠ 0) :
    Function.minimalPeriod xorshift64 state = xorshiftPeriod := by
  apply minimalPeriod_eq_of_primes (xorshift64_iterate_period state)
  intro prime isPrime divides fixed
  exact nonzero (eq_zero_of_fixed_part (mem_periodPrimes isPrime divides) fixed)

/-- No step leads from another word to zero. -/
theorem xorshift64_iterate_ne_zero {state : UInt64} (nonzero : state ≠ 0) (times : Nat) :
    xorshift64^[times] state ≠ 0 := by
  induction times with
  | zero => exact nonzero
  | succ times inductionHypothesis =>
      rw [Function.iterate_succ_apply']
      exact mt xorshift64_eq_zero.mp inductionHypothesis

/-- The words which a period draws, as numbers. -/
def drawn (state : UInt64) : Finset Nat :=
  (Finset.range xorshiftPeriod).image fun times => (xorshift64^[times] state).toNat

/-- Different steps of one period draw different words. -/
theorem toNat_iterate_injOn {state : UInt64} (nonzero : state ≠ 0) :
    Set.InjOn (fun times => (xorshift64^[times] state).toNat) (Finset.range xorshiftPeriod) := by
  have different := @Function.iterate_injOn_Iio_minimalPeriod _ xorshift64 state
  rw [minimalPeriod_xorshift64 nonzero, ← Finset.coe_range] at different
  intro earlier earlierIn later laterIn same
  exact different earlierIn laterIn (UInt64.toNat_inj.mp same)

/-- A period draws every word but zero. -/
theorem drawn_eq {state : UInt64} (nonzero : state ≠ 0) :
    drawn state = Finset.Ico 1 (2 ^ 64) := by
  apply Finset.eq_of_subset_of_card_le
  · intro word member
    obtain ⟨times, _, rfl⟩ := Finset.mem_image.mp member
    have positive : (xorshift64^[times] state).toNat ≠ 0 := fun zero =>
      xorshift64_iterate_ne_zero nonzero times (UInt64.toNat_inj.mp zero)
    exact Finset.mem_Ico.mpr ⟨Nat.one_le_iff_ne_zero.mpr positive, UInt64.toNat_lt _⟩
  · rw [drawn, Finset.card_image_of_injOn (toNat_iterate_injOn nonzero), Finset.card_range,
      Nat.card_Ico]
    rfl

/-- Of the words of a period as many are at most some bound as there are positive numbers up
to it. -/
theorem card_drawn_le {state : UInt64} (nonzero : state ≠ 0) (bound : UInt64) :
    ((Finset.range xorshiftPeriod).filter fun times => xorshift64^[times] state ≤ bound).card =
      bound.toNat := by
  have images : ((Finset.range xorshiftPeriod).filter
      fun times => xorshift64^[times] state ≤ bound).image
        (fun times => (xorshift64^[times] state).toNat) = Finset.Ico 1 (bound.toNat + 1) := by
    have upTo : Finset.Ico 1 (bound.toNat + 1) = (drawn state).filter (· ≤ bound.toNat) := by
      rw [drawn_eq nonzero]
      ext word
      have limit := bound.toNat_lt
      simp only [Finset.mem_Ico, Finset.mem_filter]
      omega
    rw [upTo, drawn, Finset.filter_image]
    rfl
  rw [← Finset.card_image_of_injOn (f := fun times => (xorshift64^[times] state).toNat), images,
    Nat.card_Ico, Nat.add_sub_cancel]
  exact (toNat_iterate_injOn nonzero).mono (Finset.coe_subset.mpr (Finset.filter_subset _ _))

/-- The generator has the full period: from any state but zero it comes back after 2^64 - 1
steps and not before, and on the way it takes every value but zero at exactly one step. -/
theorem xorshift64_full_period {state : UInt64} (nonzero : state ≠ 0) :
    Function.minimalPeriod xorshift64 state = 2 ^ 64 - 1 ∧
      ∀ word, word ≠ 0 → ∃! times, times < 2 ^ 64 - 1 ∧ xorshift64^[times] state = word := by
  refine ⟨minimalPeriod_xorshift64 nonzero, fun word notZero => ?_⟩
  have positive : word.toNat ≠ 0 := fun zero => notZero (UInt64.toNat_inj.mp zero)
  have member : word.toNat ∈ drawn state := by
    rw [drawn_eq nonzero]
    exact Finset.mem_Ico.mpr ⟨Nat.one_le_iff_ne_zero.mpr positive, word.toNat_lt⟩
  obtain ⟨times, inPeriod, reached⟩ := Finset.mem_image.mp member
  refine ⟨times, ⟨Finset.mem_range.mp inPeriod, UInt64.toNat_inj.mp reached⟩, ?_⟩
  rintro other ⟨otherIn, otherReached⟩
  apply toNat_iterate_injOn nonzero (Finset.mem_coe.mpr (Finset.mem_range.mpr otherIn)) inPeriod
  exact (congrArg UInt64.toNat otherReached).trans reached.symm

/-- The least seed has the full period. -/
theorem xorshift64_full_period_one : Function.minimalPeriod xorshift64 1 = 2 ^ 64 - 1 :=
  (@xorshift64_full_period 1 (by decide)).1

end Polku.Data
