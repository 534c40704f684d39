import Mathlib.Data.Fintype.EquivFin
import Mathlib.Dynamics.FixedPoints.Basic

/-!
# Xor with a shift

The map `x ↦ x ^^^ shift x` loses nothing when `shift` respects xor and comes to zero
after enough repetitions: where two words have one image, `shift` fixes their difference,
so the difference is zero. Shifting a word by a positive number of bits, to the left or to
the right, is such a map. A xorshift generator takes three of these steps.
-/

namespace Polku.Data

variable {width : Nat}

/-- A map of words which respects xor, and which comes to zero when it is repeated. -/
structure Vanishing (shift : BitVec width → BitVec width) : Prop where
  xor : ∀ x y, shift (x ^^^ y) = shift x ^^^ shift y
  vanishes : ∃ times, ∀ x, shift^[times] x = 0

namespace Vanishing

variable {shift : BitVec width → BitVec width}

/-- Such a map fixes nothing but zero. -/
theorem eq_zero_of_fixed (vanishing : Vanishing shift) {x : BitVec width}
    (fixed : Function.IsFixedPt shift x) : x = 0 := by
  obtain ⟨times, vanishes⟩ := vanishing.vanishes
  rw [← vanishes x]
  exact (fixed.iterate times).symm

/-- Xor with the image of such a map is injective. -/
theorem injective_xor (vanishing : Vanishing shift) :
    Function.Injective fun x => x ^^^ shift x := by
  intro x y same
  have images : shift x ^^^ shift y = x ^^^ y := by
    apply BitVec.xor_eq_zero_iff.mp
    calc shift x ^^^ shift y ^^^ (x ^^^ y)
        = x ^^^ shift x ^^^ (y ^^^ shift y) := by ac_rfl
      _ = 0 := BitVec.xor_eq_zero_iff.mpr same
  apply BitVec.xor_eq_zero_iff.mp
  exact vanishing.eq_zero_of_fixed ((vanishing.xor x y).trans images)

/-- A shift by a number of bits is one when no bits are left after as many as there are,
and shifts add up. -/
theorem of_shiftBy (shiftBy : BitVec width → Nat → BitVec width)
    (xor : ∀ x y bits, shiftBy (x ^^^ y) bits = shiftBy x bits ^^^ shiftBy y bits)
    (none : ∀ x, shiftBy x 0 = x)
    (add : ∀ x more bits, shiftBy x (more + bits) = shiftBy (shiftBy x more) bits)
    (all : ∀ x bits, width ≤ bits → shiftBy x bits = 0) {bits : Nat} (positive : 0 < bits) :
    Vanishing fun x => shiftBy x bits where
  xor x y := xor x y bits
  vanishes := by
    have repeated : ∀ times x, (fun x => shiftBy x bits)^[times] x = shiftBy x (times * bits) := by
      intro times x
      induction times with
      | zero => simp [none]
      | succ times inductionHypothesis =>
          rw [Function.iterate_succ_apply', inductionHypothesis, Nat.succ_mul, add]
    refine ⟨width, fun x => ?_⟩
    rw [repeated]
    exact all x _ (Nat.le_mul_of_pos_right width positive)

/-- A left shift by a positive number of bits moves every bit out in the end. -/
theorem shiftLeft {bits : Nat} (positive : 0 < bits) :
    Vanishing fun x : BitVec width => x <<< bits :=
  of_shiftBy (fun x bits => x <<< bits) BitVec.shiftLeft_xor_distrib BitVec.shiftLeft_zero
    BitVec.shiftLeft_add (fun _ _ => BitVec.shiftLeft_eq_zero) positive

/-- So does a right shift. -/
theorem shiftRight {bits : Nat} (positive : 0 < bits) :
    Vanishing fun x : BitVec width => x >>> bits :=
  of_shiftBy (fun x bits => x >>> bits) BitVec.ushiftRight_xor_distrib BitVec.ushiftRight_zero
    BitVec.shiftRight_add (fun _ _ => BitVec.ushiftRight_eq_zero) positive

end Vanishing

/-! ### The 64-bit generator -/

/-- One step of the xorshift generator of 64 bits with the shifts 13, 7 and 17. -/
def xorshift64 (state : UInt64) : UInt64 :=
  let x := state
  let x := x ^^^ (x <<< 13)
  let x := x ^^^ (x >>> 7)
  let x := x ^^^ (x <<< 17)
  x

/-- Different states have different successors. -/
theorem xorshift64_injective : Function.Injective xorshift64 := by
  have left : Function.Injective fun x : BitVec 64 => x ^^^ x <<< 13 :=
    (Vanishing.shiftLeft (by omega)).injective_xor
  have right : Function.Injective fun x : BitVec 64 => x ^^^ x >>> 7 :=
    (Vanishing.shiftRight (by omega)).injective_xor
  have again : Function.Injective fun x : BitVec 64 => x ^^^ x <<< 17 :=
    (Vanishing.shiftLeft (by omega)).injective_xor
  intro x y same
  apply UInt64.toBitVec_inj.mp
  apply again.comp (right.comp left)
  simpa [xorshift64] using congrArg UInt64.toBitVec same

/-- Every state is the successor of one. -/
theorem xorshift64_surjective : Function.Surjective xorshift64 := by
  have finite : Finite UInt64 :=
    Finite.of_injective UInt64.toFin fun _ _ same => UInt64.toFin_inj.mp same
  exact Finite.surjective_of_injective xorshift64_injective

/-- Zero is its own successor, so it is no other state's. -/
theorem xorshift64_eq_zero {state : UInt64} : xorshift64 state = 0 ↔ state = 0 := by
  have zero : xorshift64 0 = 0 := by decide
  constructor
  · intro degenerate
    exact xorshift64_injective (degenerate.trans zero.symm)
  · rintro rfl
    exact zero

end Polku.Data
