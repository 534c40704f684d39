import Mathlib.Dynamics.PeriodicPts.Lemmas
import Mathlib.Data.Nat.Bitwise

/-!
# Powers of a xor-linear map

A natural number stands for a polynomial over the field of two elements: its bits are the
coefficients. A map of words which respects xor can take the place of the variable. If a
polynomial comes to zero there, products may be reduced by it, so few operations on numbers
compute what any number of repetitions of the map does to all words at once, and a reduced
inverse of `X ^ n + 1` shows that `n` repetitions return to no word but zero.
-/

namespace Polku.Data

variable {width : Nat}

/-- A map of words which respects xor. -/
def XorLinear (step : BitVec width → BitVec width) : Prop :=
  ∀ x y, step (x ^^^ y) = step x ^^^ step y

/-- A polynomial, of which the lowest `terms` coefficients count, with a map in the place of
the variable. -/
def applyPoly (step : BitVec width → BitVec width) : Nat → Nat → BitVec width → BitVec width
  | 0, _, _ => 0
  | terms + 1, poly, x =>
      (if poly.testBit 0 then x else 0) ^^^ step (applyPoly step terms (poly / 2) x)

/-- The product of the variable and a polynomial, modulo one of some degree. -/
def mulX (degree modulus poly : Nat) : Nat :=
  let shifted := 2 * poly
  if shifted.testBit degree then shifted ^^^ modulus else shifted

/-- The product of two polynomials, modulo one of some degree. -/
def mulPoly (degree modulus : Nat) : Nat → Nat → Nat → Nat
  | 0, _, _ => 0
  | terms + 1, left, right =>
      let rest := mulX degree modulus (mulPoly degree modulus terms left (right / 2))
      if right.testBit 0 then left ^^^ rest else rest

/-- A power of a polynomial, modulo one of some degree. -/
def powPoly (degree modulus : Nat) : Nat → Nat → Nat → Nat
  | 0, _, _ => 1
  | digits + 1, base, exponent =>
      let rest := powPoly degree modulus digits
        (mulPoly degree modulus degree base base) (exponent / 2)
      if exponent.testBit 0 then mulPoly degree modulus degree rest base else rest

section Linear

variable {step : BitVec width → BitVec width} (linear : XorLinear step)
include linear

/-- A linear map keeps zero. -/
theorem XorLinear.map_zero : step 0 = 0 := by
  have doubled := linear 0 0
  rw [BitVec.xor_self, BitVec.xor_self] at doubled
  exact doubled

/-- A linear map which sends every word with a single bit to zero sends every word to zero. -/
theorem XorLinear.eq_zero_of_twoPow
    (bits : ∀ place < width, step (BitVec.twoPow width place) = 0) (x : BitVec width) :
    step x = 0 := by
  have below : ∀ count (y : BitVec width), (∀ place, count ≤ place → y.getLsbD place = false) →
      step y = 0 := by
    intro count
    induction count with
    | zero =>
        intro y none
        have zero : y = 0 := BitVec.eq_of_getLsbD_eq fun place _ => by
          simp [none place (Nat.zero_le _)]
        rw [zero, linear.map_zero]
    | succ count inductionHypothesis =>
        intro y high
        cases top : y.getLsbD count with
        | false =>
            apply inductionHypothesis
            intro place least
            rcases Nat.eq_or_lt_of_le least with rfl | more
            · exact top
            · exact high place more
        | true =>
            have inWidth : count < width := BitVec.lt_of_getLsbD top
            have rest : step (y ^^^ BitVec.twoPow width count) = 0 := by
              apply inductionHypothesis
              intro place least
              rw [BitVec.getLsbD_xor, BitVec.getLsbD_twoPow]
              rcases Nat.eq_or_lt_of_le least with rfl | more
              · simp [top, inWidth]
              · simp [high place more, Nat.ne_of_lt more]
            rw [linear, bits count inWidth] at rest
            simpa using rest
  exact below width x fun place least => BitVec.getLsbD_of_ge x place least

/-- Linear maps compose. -/
theorem XorLinear.comp {next : BitVec width → BitVec width} (nextLinear : XorLinear next) :
    XorLinear (next ∘ step) := by
  intro x y
  exact (congrArg next (linear x y)).trans (nextLinear (step x) (step y))

/-- Xor with the image of a linear map is linear. -/
theorem XorLinear.xorImage : XorLinear fun x => x ^^^ step x := by
  intro x y
  simp only [linear x y]
  ac_rfl

/-! ### What polynomials do -/

/-- The zero polynomial sends every word to zero. -/
theorem applyPoly_zero (terms : Nat) (x : BitVec width) : applyPoly step terms 0 x = 0 := by
  induction terms with
  | zero => rfl
  | succ terms inductionHypothesis =>
      rw [applyPoly, Nat.zero_div, inductionHypothesis, linear.map_zero]
      simp

/-- The constant one leaves a word as it is. -/
theorem applyPoly_one {terms : Nat} (some : 0 < terms) (x : BitVec width) :
    applyPoly step terms 1 x = x := by
  obtain ⟨terms, rfl⟩ := Nat.exists_eq_succ_of_ne_zero (Nat.ne_of_gt some)
  have half : 1 / 2 = 0 := rfl
  rw [applyPoly, half, applyPoly_zero linear, linear.map_zero]
  simp

/-- A sum of polynomials. -/
theorem applyPoly_xor (terms left right : Nat) (x : BitVec width) :
    applyPoly step terms (left ^^^ right) x =
      applyPoly step terms left x ^^^ applyPoly step terms right x := by
  induction terms generalizing left right with
  | zero => simp [applyPoly]
  | succ terms inductionHypothesis =>
      have lowest : (if (left ^^^ right).testBit 0 then x else 0) =
          (if left.testBit 0 then x else 0) ^^^ (if right.testBit 0 then x else 0) := by
        rw [Nat.testBit_xor]
        cases left.testBit 0 <;> cases right.testBit 0 <;> simp
      rw [applyPoly, applyPoly, applyPoly, Nat.xor_div_two, inductionHypothesis, linear, lowest]
      ac_rfl

/-- A coefficient which is zero does not count. -/
theorem applyPoly_top {terms poly : Nat} (top : poly.testBit terms = false)
    (x : BitVec width) : applyPoly step (terms + 1) poly x = applyPoly step terms poly x := by
  induction terms generalizing poly with
  | zero =>
      rw [applyPoly, applyPoly, applyPoly, top, linear.map_zero]
      simp
  | succ terms inductionHypothesis =>
      rw [applyPoly, inductionHypothesis, applyPoly]
      rwa [← Nat.testBit_succ]

/-- A polynomial in a linear map is linear. -/
theorem XorLinear.applyPoly (terms poly : Nat) : XorLinear (applyPoly step terms poly) := by
  intro x y
  induction terms generalizing poly with
  | zero => simp [Data.applyPoly]
  | succ terms inductionHypothesis =>
      rw [Data.applyPoly, Data.applyPoly, Data.applyPoly, inductionHypothesis, linear]
      split
      · ac_rfl
      · simp

end Linear

/-- Doubling a polynomial is one more repetition of the map. -/
theorem applyPoly_double (step : BitVec width → BitVec width) (terms poly : Nat)
    (x : BitVec width) :
    applyPoly step (terms + 1) (2 * poly) x = step (applyPoly step terms poly x) := by
  rw [applyPoly, Nat.mul_div_cancel_left _ Nat.zero_lt_two]
  simp

/-- A polynomial of some degree which is zero with a linear map in the place of the
variable. -/
structure Annihilates (step : BitVec width → BitVec width) (degree modulus : Nat) : Prop where
  linear : XorLinear step
  leading : modulus.testBit degree = true
  zero : ∀ x, applyPoly step (degree + 1) modulus x = 0

namespace Annihilates

variable {step : BitVec width → BitVec width} {degree modulus : Nat}

/-- Multiplication by the variable is one more repetition. -/
theorem applyPoly_mulX (annihilates : Annihilates step degree modulus) (poly : Nat)
    (x : BitVec width) :
    applyPoly step degree (mulX degree modulus poly) x = step (applyPoly step degree poly x) := by
  rw [← applyPoly_double step, mulX]
  cases top : (2 * poly).testBit degree with
  | false =>
      simp only [Bool.false_eq_true, if_false]
      exact (applyPoly_top annihilates.linear top x).symm
  | true =>
      have reduced : (2 * poly ^^^ modulus).testBit degree = false := by
        rw [Nat.testBit_xor, top, annihilates.leading]
        rfl
      simp only [if_true]
      rw [← applyPoly_top annihilates.linear reduced, applyPoly_xor annihilates.linear,
        annihilates.zero]
      exact BitVec.xor_zero

/-- Multiplication is composition. -/
theorem applyPoly_mulPoly (annihilates : Annihilates step degree modulus)
    (terms left right : Nat) (x : BitVec width) :
    applyPoly step degree (mulPoly degree modulus terms left right) x =
      applyPoly step terms right (applyPoly step degree left x) := by
  induction terms generalizing right with
  | zero => exact applyPoly_zero annihilates.linear degree x
  | succ terms inductionHypothesis =>
      rw [mulPoly, applyPoly]
      split
      · rw [applyPoly_xor annihilates.linear, annihilates.applyPoly_mulX, inductionHypothesis]
      · rw [annihilates.applyPoly_mulX, inductionHypothesis]
        exact BitVec.zero_xor.symm

/-- A power is a repetition. -/
theorem applyPoly_powPoly (annihilates : Annihilates step degree modulus)
    (some : 0 < degree) {base : Nat} {map : BitVec width → BitVec width}
    (isMap : applyPoly step degree base = map) (digits : Nat) {exponent : Nat}
    (fits : exponent < 2 ^ digits) :
    applyPoly step degree (powPoly degree modulus digits base exponent) = map^[exponent] := by
  induction digits generalizing base map exponent with
  | zero =>
      obtain rfl : exponent = 0 := by omega
      funext x
      exact applyPoly_one annihilates.linear some x
  | succ digits inductionHypothesis =>
      have square : applyPoly step degree (mulPoly degree modulus degree base base) = map ∘ map := by
        funext x
        rw [annihilates.applyPoly_mulPoly, isMap]
        rfl
      have half := inductionHypothesis square (by omega : exponent / 2 < 2 ^ digits)
      have twice : (map ∘ map)^[exponent / 2] = map^[2 * (exponent / 2)] := by
        rw [Function.iterate_mul]
        rfl
      rw [twice] at half
      have whole := Nat.mod_add_div exponent 2
      rw [powPoly, Nat.testBit_zero]
      split
      case isTrue odd =>
          rw [decide_eq_true_iff] at odd
          funext x
          rw [annihilates.applyPoly_mulPoly, half, isMap,
            ← Function.iterate_succ_apply' map (2 * (exponent / 2)) x]
          congr 2
          omega
      case isFalse even =>
          rw [decide_eq_true_iff] at even
          rw [half]
          congr 2
          omega

/-- A number of repetitions. -/
theorem iterate_eq (annihilates : Annihilates step degree modulus) (some : 1 < degree)
    (digits : Nat) {times : Nat} (fits : times < 2 ^ digits) :
    applyPoly step degree (powPoly degree modulus digits 2 times) = step^[times] := by
  apply annihilates.applyPoly_powPoly (by omega) ?_ digits fits
  obtain ⟨terms, rfl⟩ : ∃ terms, degree = terms + 1 := ⟨degree - 1, by omega⟩
  funext x
  have double := applyPoly_double step terms 1 x
  rw [applyPoly_one annihilates.linear (by omega)] at double
  exact double

/-- If one more than a power of the variable has an inverse, that many repetitions return
to no word but zero. -/
theorem eq_zero_of_fixed (annihilates : Annihilates step degree modulus) (some : 1 < degree)
    (digits : Nat) {times inverse : Nat} (fits : times < 2 ^ digits)
    (inverts : mulPoly degree modulus degree
      (powPoly degree modulus digits 2 times ^^^ 1) inverse = 1)
    {x : BitVec width} (fixed : step^[times] x = x) : x = 0 := by
  have differs : applyPoly step degree (powPoly degree modulus digits 2 times ^^^ 1) x = 0 := by
    rw [applyPoly_xor annihilates.linear, annihilates.iterate_eq some digits fits, fixed,
      applyPoly_one annihilates.linear (by omega), BitVec.xor_self]
    rfl
  have returned := annihilates.applyPoly_mulPoly degree
    (powPoly degree modulus digits 2 times ^^^ 1) inverse x
  rw [inverts, differs, applyPoly_one annihilates.linear (by omega),
    (annihilates.linear.applyPoly degree inverse).map_zero] at returned
  exact returned

end Annihilates

end Polku.Data
