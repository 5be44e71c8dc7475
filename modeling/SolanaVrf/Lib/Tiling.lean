import SolanaVrf.Lib.Slices
import Mathlib.Algebra.GroupWithZero.Nat

/-! # Records laid end to end in a store

A shape says how many cells a record reserves (`span`), which cells it writes (`image`)
and what it requires of its position (`fits`). Records are tiled when each image is
present at the running sum of the spans before it; cells between an image and the next
record are unconstrained.
-/

namespace Tiling
set_option autoImplicit false

open Slices

structure Shape (ρ α : Type) where
  span : ρ → Nat
  image : ρ → List α
  fits : ρ → Nat → Prop
  image_pos : ∀ r, 0 < (image r).length
  image_le : ∀ r, (image r).length ≤ span r

namespace Shape

variable {ρ α : Type} (T : Shape ρ α)

def endAfter (pos : Nat) (recs : List ρ) : Nat := pos + (recs.map T.span).sum

@[simp] theorem endAfter_nil (pos : Nat) : T.endAfter pos [] = pos := by simp [endAfter]

@[simp] theorem endAfter_cons (pos : Nat) (r : ρ) (recs : List ρ) :
    T.endAfter pos (r :: recs) = T.endAfter (pos + T.span r) recs := by
  simp only [endAfter, List.map_cons, List.sum_cons]
  omega

@[simp] theorem endAfter_append (pos : Nat) (xs ys : List ρ) :
    T.endAfter pos (xs ++ ys) = T.endAfter (T.endAfter pos xs) ys := by
  simp only [endAfter, List.map_append, List.sum_append]
  omega

theorem le_endAfter (pos : Nat) (recs : List ρ) : pos ≤ T.endAfter pos recs := by
  simp only [endAfter]
  omega

def Tiled (store : List α) : Nat → List ρ → Prop
  | _, [] => True
  | pos, r :: recs =>
    T.fits r pos ∧ slice store pos (T.image r).length = T.image r ∧ Tiled store (pos + T.span r) recs

variable {T} {store store' : List α}

theorem tiled_append {pos : Nat} {xs ys : List ρ} :
    T.Tiled store pos (xs ++ ys) ↔ T.Tiled store pos xs ∧ T.Tiled store (T.endAfter pos xs) ys := by
  induction xs generalizing pos with
  | nil => simp [Tiled]
  | cons r xs ih => simp only [List.cons_append, Tiled, ih, endAfter_cons, and_assoc]

theorem Tiled.take {pos : Nat} {xs ys : List ρ} (h : T.Tiled store pos (xs ++ ys)) :
    T.Tiled store pos xs := (tiled_append.mp h).1

theorem Tiled.at {pos : Nat} {xs ys : List ρ} {r : ρ} (h : T.Tiled store pos (xs ++ r :: ys)) :
    T.fits r (T.endAfter pos xs) ∧
      slice store (T.endAfter pos xs) (T.image r).length = T.image r := by
  obtain ⟨_, hFits, hImage, _⟩ := tiled_append.mp h
  exact ⟨hFits, hImage⟩

theorem Tiled.image_le_length {pos : Nat} {xs ys : List ρ} {r : ρ}
    (h : T.Tiled store pos (xs ++ r :: ys)) :
    T.endAfter pos xs + (T.image r).length ≤ store.length :=
  le_length_of_slice (T.image_pos r) h.at.2 rfl

theorem Tiled.congr_images {pos : Nat} {recs : List ρ} (h : T.Tiled store pos recs)
    (hSame : ∀ xs r ys, recs = xs ++ r :: ys → slice store' (T.endAfter pos xs) (T.image r).length =
      slice store (T.endAfter pos xs) (T.image r).length) : T.Tiled store' pos recs := by
  induction recs generalizing pos with
  | nil => trivial
  | cons r recs ih =>
    obtain ⟨hFits, hImage, hRest⟩ := h
    refine ⟨hFits, ?_, ih hRest ?_⟩
    · have hHead := hSame [] r recs rfl
      rw [endAfter_nil] at hHead
      rw [hHead, hImage]
    · rintro xs r' ys rfl
      simpa using hSame (r :: xs) r' ys rfl

theorem Tiled.congr {pos : Nat} {recs : List ρ} (h : T.Tiled store pos recs)
    (hSame : ∀ start count, pos ≤ start → start + count ≤ T.endAfter pos recs →
      slice store' start count = slice store start count) : T.Tiled store' pos recs := by
  apply h.congr_images
  rintro xs r ys rfl
  have hEnd := T.le_endAfter (T.endAfter pos xs + T.span r) ys
  have hLe := T.image_le r
  apply hSame _ _ (T.le_endAfter pos xs)
  rw [endAfter_append, endAfter_cons]
  omega

/-- A write inside the span of one record replaces that record and keeps all others. -/
theorem Tiled.replace {pos : Nat} {xs ys : List ρ} {r r' : ρ}
    (h : T.Tiled store pos (xs ++ r :: ys)) (hSpan : T.span r' = T.span r)
    (hFits : T.fits r' (T.endAfter pos xs))
    (hRoom : T.endAfter pos xs + (T.image r').length ≤ store.length) :
    T.Tiled (splice store (T.endAfter pos xs) (T.image r')) pos (xs ++ r' :: ys) := by
  obtain ⟨hBefore, _, _, hAfter⟩ := tiled_append.mp h
  have hLe := T.image_le r'
  refine tiled_append.mpr ⟨?_, hFits, slice_splice_self hRoom, ?_⟩
  · apply hBefore.congr
    intro start count _ hCount
    exact slice_splice_disjoint hRoom (Or.inl hCount)
  · rw [hSpan]
    apply hAfter.congr
    intro start count hStart _
    exact slice_splice_disjoint hRoom (Or.inr (by omega))

/-- A write past the last span adds a record. -/
theorem Tiled.snoc {pos : Nat} {xs : List ρ} {r : ρ} (h : T.Tiled store pos xs)
    (hFits : T.fits r (T.endAfter pos xs))
    (hRoom : T.endAfter pos xs + (T.image r).length ≤ store.length) :
    T.Tiled (splice store (T.endAfter pos xs) (T.image r)) pos (xs ++ [r]) := by
  refine tiled_append.mpr ⟨?_, hFits, slice_splice_self hRoom, trivial⟩
  apply h.congr
  intro start count _ hCount
  exact slice_splice_disjoint hRoom (Or.inl hCount)

end Shape

end Tiling
