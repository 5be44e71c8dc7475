import Mathlib.Data.List.AList
import Mathlib.Logic.Function.Basic

/-! # Maps of maps

A table is a map from keys to maps, in which a key that was never entered reads as the
empty map. One entry is addressed by a pair; writing one leaves every other as it was.
-/

namespace Nested
set_option autoImplicit false

structure Table (K I V : Type) where
  inner : K → AList fun _ : I => V

namespace Table

variable {K I V : Type}

def empty : Table K I V := ⟨fun _ => ∅⟩

def keys (m : Table K I V) (k : K) : List I := (m.inner k).keys

variable [DecidableEq I]

def lookup (m : Table K I V) (k : K) (i : I) : Option V := (m.inner k).lookup i

theorem mem_keys {m : Table K I V} {k : K} {i : I} : i ∈ m.keys k ↔ ∃ v, m.lookup k i = some v := by
  rw [keys, ← AList.mem_keys, ← AList.lookup_isSome, Option.isSome_iff_exists]
  rfl

variable [DecidableEq K]

def insert (m : Table K I V) (k : K) (i : I) (v : V) : Table K I V := ⟨Function.update m.inner k ((m.inner k).insert i v)⟩

def erase (m : Table K I V) (k : K) (i : I) : Table K I V := ⟨Function.update m.inner k ((m.inner k).erase i)⟩

variable {m : Table K I V} {k k' : K} {i i' : I} {v : V}

@[simp] theorem lookup_insert_self : (m.insert k i v).lookup k i = some v := by
  simp only [lookup, insert, Function.update_self, AList.lookup_insert]

@[simp] theorem lookup_erase_self : (m.erase k i).lookup k i = none := by
  simp only [lookup, erase, Function.update_self, AList.lookup_erase]

theorem lookup_insert_of_ne (h : ¬(k' = k ∧ i' = i)) : (m.insert k i v).lookup k' i' = m.lookup k' i' := by
  by_cases hKey : k' = k
  · subst hKey
    have hne : i' ≠ i := fun hSame => h ⟨rfl, hSame⟩
    simp only [lookup, insert, Function.update_self, AList.lookup_insert_ne hne]
  · simp only [lookup, insert, Function.update_of_ne hKey]

theorem lookup_erase_of_ne (h : ¬(k' = k ∧ i' = i)) : (m.erase k i).lookup k' i' = m.lookup k' i' := by
  by_cases hKey : k' = k
  · subst hKey
    have hne : i' ≠ i := fun hSame => h ⟨rfl, hSame⟩
    simp only [lookup, erase, Function.update_self, AList.lookup_erase_ne hne]
  · simp only [lookup, erase, Function.update_of_ne hKey]

theorem of_lookup_erase (h : (m.erase k i).lookup k' i' = some v) :
    ¬(k' = k ∧ i' = i) ∧ m.lookup k' i' = some v := by
  by_cases hSame : k' = k ∧ i' = i
  · obtain ⟨rfl, rfl⟩ := hSame
    rw [lookup_erase_self] at h
    cases h
  · rw [lookup_erase_of_ne hSame] at h
    exact ⟨hSame, h⟩

theorem of_lookup_insert {w : V} (h : (m.insert k i v).lookup k' i' = some w) :
    k' = k ∧ i' = i ∧ w = v ∨ ¬(k' = k ∧ i' = i) ∧ m.lookup k' i' = some w := by
  by_cases hSame : k' = k ∧ i' = i
  · obtain ⟨rfl, rfl⟩ := hSame
    rw [lookup_insert_self] at h
    exact Or.inl ⟨rfl, rfl, (Option.some.inj h).symm⟩
  · rw [lookup_insert_of_ne hSame] at h
    exact Or.inr ⟨hSame, h⟩

end Table

end Nested
