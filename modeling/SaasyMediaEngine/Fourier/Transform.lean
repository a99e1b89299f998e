import Mathlib.Algebra.BigOperators.Intervals
import Mathlib.Algebra.BigOperators.Ring.Finset
import Mathlib.Analysis.Complex.Circle
import Mathlib.Analysis.SpecialFunctions.Trigonometric.Basic
import Mathlib.Tactic.FieldSimp
import Mathlib.Tactic.Ring

/-!
# The discrete Fourier transform and its halves

The transform of a sequence over any commutative ring, with any element `ω` in place of the
root of unity.  What the algebra asks of `ω` is a hypothesis of the lemma that needs it.

* `transform_two_mul` — the transform of even length from those of the even and of the odd
  places (decimation in time).
* `transform_two_mul_add` — the same for the upper half of the frequencies, where `ω ^ h = -1`
  turns the sign of the odd part.
* `root` — the root of unity in `ℂ` that makes it the discrete Fourier transform.

An implementation by decimation in time computes these equations bottom up; which `ω` it uses is
decided by its tables of sines and cosines, and that these are the values of `root` is proved where
the tables are.
-/

namespace Fourier

open Finset

universe u

variable {R : Type u} [CommRing R] {x : ℕ → R} {N : ℕ}

/-- The transform of length `N`. -/
def transform (ω : R) (N : ℕ) (x : ℕ → R) (k : ℕ) : R :=
  ∑ n ∈ range N, x n * ω ^ (k * n)

@[simp] theorem transform_one (ω : R) (x : ℕ → R) (k : ℕ) : transform ω 1 x k = x 0 := by
  simp [transform]

/-- The transform of silence. -/
theorem transform_eq_zero (ω : R) (silent : ∀ n < N, x n = 0) (k : ℕ) :
    transform ω N x k = 0 :=
  sum_eq_zero fun n inside => by rw [silent n (mem_range.mp inside), zero_mul]

/-- A sum over the even and the odd places, which is all that decimation does to the places. -/
theorem sum_range_two_mul (h : ℕ) (f : ℕ → R) :
    ∑ n ∈ range (2 * h), f n = ∑ n ∈ range h, f (2 * n) + ∑ n ∈ range h, f (2 * n + 1) := by
  induction h with
  | zero => simp
  | succ h ih =>
      rw [Nat.mul_succ, sum_range_succ, sum_range_succ, ih, sum_range_succ, sum_range_succ]
      ring

/-- **Decimation in time.** The even places and the odd places make a transform of half the length
each, and the odd part comes in turned by the frequency. -/
theorem transform_two_mul (ω : R) (h : ℕ) (x : ℕ → R) (k : ℕ) :
    transform ω (2 * h) x k =
      transform (ω ^ 2) h (fun n => x (2 * n)) k +
        ω ^ k * transform (ω ^ 2) h (fun n => x (2 * n + 1)) k := by
  rw [transform, sum_range_two_mul, transform, transform, mul_sum]
  congr 1
  · refine sum_congr rfl fun n _ => ?_
    rw [← pow_mul]
    congr 2
    ring
  · refine sum_congr rfl fun n _ => ?_
    rw [← pow_mul, mul_left_comm, ← pow_add]
    congr 2
    ring

/-- The frequencies repeat after the length. -/
theorem transform_add_length {ω : R} (root : ω ^ N = 1) (x : ℕ → R) (k : ℕ) :
    transform ω N x (k + N) = transform ω N x k := by
  refine sum_congr rfl fun n _ => ?_
  rw [add_mul, pow_add, pow_mul ω N n, root, one_pow, mul_one]

/-- **The upper half** of the frequencies needs no transforms of its own: the halves are those of
the lower one, and the odd part changes its sign. -/
theorem transform_two_mul_add {ω : R} {h : ℕ} (root : ω ^ h = -1) (x : ℕ → R) (k : ℕ) :
    transform ω (2 * h) x (k + h) =
      transform (ω ^ 2) h (fun n => x (2 * n)) k -
        ω ^ k * transform (ω ^ 2) h (fun n => x (2 * n + 1)) k := by
  have square : (ω ^ 2) ^ h = 1 := by rw [← pow_mul, mul_comm, pow_mul, root, neg_one_sq]
  rw [transform_two_mul, transform_add_length square, transform_add_length square, pow_add, root]
  ring

/-! ### The root of unity -/

/-- The root of unity of the transform of length `N`. -/
noncomputable def root (N : ℕ) : ℂ := Real.fourierChar (-(N : ℝ)⁻¹)

theorem root_pow (N k : ℕ) : root N ^ k = Complex.exp (-(2 * Real.pi * Complex.I * k / N)) := by
  rw [root, Real.fourierChar_apply, ← Complex.exp_nat_mul]
  congr 1
  push_cast
  ring

/-- **The discrete Fourier transform**, written out as the sum that textbooks start from, with its
sign in the exponent. -/
theorem transform_root (N : ℕ) (x : ℕ → ℂ) (k : ℕ) :
    transform (root N) N x k =
      ∑ n ∈ range N, x n * Complex.exp (-(2 * Real.pi * Complex.I * k * n / N)) := by
  refine sum_congr rfl fun n _ => ?_
  rw [root_pow, Nat.cast_mul, ← mul_assoc (2 * (Real.pi : ℂ) * Complex.I)]

/-- Its powers run through the circle, clockwise, which is what tables of sines and cosines hold.
-/
theorem root_pow_eq_cos_sub_sin (N k : ℕ) :
    root N ^ k = (Real.cos (2 * Real.pi * k / N) : ℂ) -
      (Real.sin (2 * Real.pi * k / N) : ℂ) * Complex.I := by
  have angle : -(2 * Real.pi * Complex.I * k / N) =
      ((-(2 * Real.pi * k / N) : ℝ) : ℂ) * Complex.I := by
    push_cast
    ring
  rw [root_pow, angle, Complex.exp_mul_I, ← Complex.ofReal_cos, ← Complex.ofReal_sin,
    Real.cos_neg, Real.sin_neg, Complex.ofReal_neg]
  ring

theorem root_pow_self {N : ℕ} (positive : 0 < N) : root N ^ N = 1 := by
  have nonzero : (N : ℂ) ≠ 0 := Nat.cast_ne_zero.mpr (Nat.pos_iff_ne_zero.mp positive)
  rw [root_pow, mul_div_assoc, div_self nonzero, mul_one, Complex.exp_neg, Complex.exp_two_pi_mul_I,
    inv_one]

/-- Half a turn. -/
theorem root_two_mul_pow {h : ℕ} (positive : 0 < h) : root (2 * h) ^ h = -1 := by
  have nonzero : (h : ℂ) ≠ 0 := Nat.cast_ne_zero.mpr (Nat.pos_iff_ne_zero.mp positive)
  have turn : 2 * Real.pi * Complex.I * h / (2 * h : ℕ) = Real.pi * Complex.I := by
    push_cast
    field_simp
  rw [root_pow, turn, Complex.exp_neg, Complex.exp_pi_mul_I]
  norm_num

/-- The root of a shorter transform is a power of that of a longer one, so one table serves all
lengths that divide it. -/
theorem root_mul_pow (N : ℕ) {c : ℕ} (positive : 0 < c) : root (N * c) ^ c = root N := by
  have nonzero : (c : ℂ) ≠ 0 := Nat.cast_ne_zero.mpr (Nat.pos_iff_ne_zero.mp positive)
  rw [root_pow, ← pow_one (root N), root_pow, Nat.cast_mul, mul_div_mul_right _ _ nonzero,
    Nat.cast_one, mul_one]

end Fourier
