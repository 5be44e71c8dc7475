import Mathlib.Data.List.Basic

/-! # Windows of a byte store

`slice` reads a window and `splice` overwrites one. The checked forms fail, as an
out-of-range index does, when the window does not fit. The frame lemmas say that a
write is seen by a read of the same window and by no read of a disjoint one.
-/

namespace Slices
set_option autoImplicit false

variable {α : Type}

def slice (store : List α) (start count : Nat) : List α := (store.drop start).take count

def splice (store : List α) (start : Nat) (src : List α) : List α :=
  store.take start ++ src ++ store.drop (start + src.length)

def read? (store : List α) (start count : Nat) : Option (List α) :=
  if start + count ≤ store.length then some (slice store start count) else none

theorem read?_eq_some {store : List α} {start count : Nat} (h : start + count ≤ store.length) :
    read? store start count = some (slice store start count) := if_pos h

theorem length_slice {store : List α} {start count : Nat} (h : start + count ≤ store.length) :
    (slice store start count).length = count := by
  simp only [slice, List.length_take, List.length_drop]
  omega

theorem le_length_of_slice {store window : List α} {start count : Nat} (hPos : 0 < count)
    (h : slice store start count = window) (hLength : window.length = count) :
    start + count ≤ store.length := by
  have h' := congrArg List.length h
  simp only [slice, List.length_take, List.length_drop] at h'
  omega

theorem length_splice {store src : List α} {start : Nat} (h : start + src.length ≤ store.length) :
    (splice store start src).length = store.length := by
  simp only [splice, List.length_append, List.length_take, List.length_drop]
  omega

theorem slice_eq_iff {store store' : List α} {start start' count : Nat} :
    slice store start count = slice store' start' count ↔
      ∀ i < count, store[start + i]? = store'[start' + i]? := by
  constructor
  · intro h i hi
    have h' := congrArg (fun l => l[i]?) h
    simpa [slice, List.getElem?_take, List.getElem?_drop, hi] using h'
  · intro h
    apply List.ext_getElem?
    intro i
    simp only [slice, List.getElem?_take, List.getElem?_drop]
    split
    · rename_i hi
      exact h i hi
    · rfl

theorem getElem?_splice {store src : List α} {start : Nat} (h : start + src.length ≤ store.length)
    (i : Nat) : (splice store start src)[i]? =
      if i < start then store[i]? else
        if i < start + src.length then src[i - start]? else store[i]? := by
  have hTake : (store.take start).length = start := by rw [List.length_take]; omega
  unfold splice
  rw [List.append_assoc]
  by_cases hBefore : i < start
  · rw [if_pos hBefore, List.getElem?_append_left (by omega), List.getElem?_take, if_pos hBefore]
  · rw [if_neg hBefore, List.getElem?_append_right (by omega), hTake]
    by_cases hInside : i < start + src.length
    · rw [if_pos hInside, List.getElem?_append_left (by omega)]
    · rw [if_neg hInside, List.getElem?_append_right (by omega), List.getElem?_drop]
      congr 1
      omega

/-! ## Frame rules -/

theorem slice_splice_self {store src : List α} {start : Nat}
    (h : start + src.length ≤ store.length) :
    slice (splice store start src) start src.length = src := by
  apply List.ext_getElem?
  intro i
  simp only [slice, List.getElem?_take, List.getElem?_drop, getElem?_splice h]
  by_cases hi : i < src.length
  · rw [if_pos hi, if_neg (by omega), if_pos (by omega), Nat.add_sub_cancel_left]
  · rw [if_neg hi, List.getElem?_eq_none (by omega)]

theorem slice_splice_disjoint {store src : List α} {start other count : Nat}
    (h : start + src.length ≤ store.length)
    (hDisjoint : other + count ≤ start ∨ start + src.length ≤ other) :
    slice (splice store start src) other count = slice store other count := by
  rw [slice_eq_iff]
  intro i hi
  rw [getElem?_splice h]
  rcases hDisjoint with hBefore | hAfter
  · rw [if_pos (by omega)]
  · rw [if_neg (by omega), if_neg (by omega)]

theorem slice_add (store : List α) (start m n : Nat) :
    slice store start (m + n) = slice store start m ++ slice store (start + m) n := by
  simp only [slice, List.take_add, List.drop_drop]

theorem slice_slice (store : List α) (start : Nat) {count inner width : Nat} (h : inner + width ≤ count) :
    slice (slice store start count) inner width = slice store (start + inner) width := by
  apply List.ext_getElem?
  intro i
  simp only [slice, List.getElem?_take, List.getElem?_drop]
  by_cases hi : i < width
  · rw [if_pos hi, if_pos hi, if_pos (by omega), Nat.add_assoc]
  · rw [if_neg hi, if_neg hi]

theorem splice_splice_adjacent {store left right : List α} {start : Nat}
    (h : start + (left ++ right).length ≤ store.length) :
    splice (splice store (start + left.length) right) start left =
      splice store start (left ++ right) := by
  rw [List.length_append] at h
  have hRight : start + left.length + right.length ≤ store.length := by omega
  apply List.ext_getElem?
  intro i
  rw [getElem?_splice (by rw [length_splice hRight]; omega), getElem?_splice hRight,
    getElem?_splice (by rw [List.length_append]; omega)]
  by_cases hBefore : i < start
  · simp [hBefore, show i < start + left.length by omega]
  · by_cases hLeft : i < start + left.length
    · rw [if_neg hBefore, if_pos hLeft, if_neg hBefore, if_pos (by rw [List.length_append]; omega),
        List.getElem?_append_left (by omega)]
    · rw [if_neg hBefore, if_neg hLeft, if_neg hLeft, if_neg hBefore]
      by_cases hInside : i < start + left.length + right.length
      · rw [if_pos hInside, if_pos (by rw [List.length_append]; omega),
          List.getElem?_append_right (by omega)]
        congr 1
        omega
      · rw [if_neg hInside, if_neg (by rw [List.length_append]; omega)]

theorem splice_splice_append {store left right : List α} {start : Nat}
    (h : start + (left ++ right).length ≤ store.length) :
    splice (splice store start left) (start + left.length) right =
      splice store start (left ++ right) := by
  rw [← splice_splice_adjacent h]
  rw [List.length_append] at h
  have hLeft : start + left.length ≤ store.length := by omega
  have hRight : start + left.length + right.length ≤ store.length := by omega
  apply List.ext_getElem?
  intro i
  rw [getElem?_splice (by rw [length_splice hLeft]; exact hRight), getElem?_splice hLeft,
    getElem?_splice (by rw [length_splice hRight]; exact hLeft), getElem?_splice hRight]
  by_cases hBefore : i < start
  · simp [hBefore, show i < start + left.length by omega]
  · by_cases hInside : i < start + left.length <;> simp [hBefore, hInside]

theorem splice_eq_self {store src : List α} {start : Nat} (h : start + src.length ≤ store.length)
    (hSame : slice store start src.length = src) : splice store start src = store := by
  apply List.ext_getElem?
  intro i
  rw [getElem?_splice h]
  split
  · rfl
  · split
    · rename_i hAfter hBefore
      rw [← hSame, slice, List.getElem?_take, List.getElem?_drop, if_pos (by omega)]
      congr 1
      omega
    · rfl

theorem drop_splice_of_le {store src : List α} {start n : Nat}
    (h : start + src.length ≤ store.length) (hn : start + src.length ≤ n) :
    (splice store start src).drop n = store.drop n := by
  apply List.ext_getElem?
  intro i
  rw [List.getElem?_drop, List.getElem?_drop, getElem?_splice h, if_neg (by omega), if_neg (by omega)]

theorem slice_of_drop_eq {store store' : List α} {bound start count : Nat}
    (h : store.drop bound = store'.drop bound) (hStart : bound ≤ start) :
    slice store start count = slice store' start count := by
  have hDrop : store.drop start = store'.drop start := by
    have h' := congrArg (List.drop (start - bound)) h
    rwa [List.drop_drop, List.drop_drop, Nat.add_sub_cancel' hStart] at h'
  rw [slice, slice, hDrop]

end Slices
