import Mathlib.Algebra.Module.Basic
import Mathlib.Algebra.Field.Basic
import Mathlib.Algebra.Module.Torsion.Field

/-! # Proofs that two discrete logarithms are equal

The sigma protocol of Chaum and Pedersen over a vector space: for bases `g` and `h` and
claimed images `y` and `z`, one response answers one challenge in both equations. Two
answers to different challenges reveal a common logarithm, so against a false claim at
most one challenge can be answered.
-/

namespace EqualityProof
set_option autoImplicit false

variable {F P : Type*} [Field F] [AddCommGroup P] [Module F P] {g h y z a b : P} {c c' s s' : F}

/-- The response `s` answers the challenge `c` after the commitments `a` and `b`. -/
structure Accepts (g h y z a b : P) (c s : F) : Prop where
  base : s • g = a + c • y
  hash : s • h = b + c • z

theorem smul_sub_eq {p q t : P} (hEq : s • p = t + c • q) (hEq' : s' • p = t + c' • q) :
    (s - s') • p = (c - c') • q := by
  rw [sub_smul, sub_smul, hEq, hEq', add_sub_add_left_eq_sub]

/-- Two challenges answered after the same commitments have a common logarithm behind them. -/
theorem Accepts.extract (hAccepts : Accepts g h y z a b c s) (hAccepts' : Accepts g h y z a b c' s')
    (hne : c ≠ c') : ∃ x : F, y = x • g ∧ z = x • h := by
  have hUnit : c - c' ≠ 0 := sub_ne_zero.mpr hne
  refine ⟨(c - c')⁻¹ * (s - s'), ?_, ?_⟩
  · rw [mul_smul, smul_sub_eq hAccepts.base hAccepts'.base, inv_smul_smul₀ hUnit]
  · rw [mul_smul, smul_sub_eq hAccepts.hash hAccepts'.hash, inv_smul_smul₀ hUnit]

/-- Against a false claim only one challenge can be answered. -/
theorem Accepts.challenge_unique {x : F} (hg : g ≠ 0) (hFalse : z ≠ x • h)
    (hAccepts : Accepts g h (x • g) z a b c s) (hAccepts' : Accepts g h (x • g) z a b c' s') : c = c' := by
  by_contra hne
  obtain ⟨w, hy, hz⟩ := hAccepts.extract hAccepts' hne
  have hSame : x = w := smul_left_injective F hg hy
  exact hFalse (by rw [hz, hSame])

end EqualityProof
