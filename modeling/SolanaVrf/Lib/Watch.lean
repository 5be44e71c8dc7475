import Mathlib.Logic.Basic

/-! # Watched values

A cell counts the changes of its value. A receiver keeps the count it last saw and is woken
whenever the counts differ; it does not keep the value. The rules say when it is enough to
look at the value only after being woken: as long as every sender that changes the value
also counts the change.
-/

namespace Watch
set_option autoImplicit false

structure Cell (α : Type) where
  value : α
  version : Nat
deriving DecidableEq

namespace Cell

variable {α : Type} {c : Cell α} {seen : Nat} {v : α}

def sendModify (c : Cell α) (modify : α → α) : Cell α := ⟨modify c.value, c.version + 1⟩

/-- The change is counted only if the sender reports one. -/
def sendIfModified (c : Cell α) (modify : α → α × Bool) : Cell α :=
  ⟨(modify c.value).1, if (modify c.value).2 then c.version + 1 else c.version⟩

/-- A receiver that has seen this count has seen this value, unless a change is waiting for it. -/
structure Saw (c : Cell α) (seen : Nat) (v : α) : Prop where
  le : seen ≤ c.version
  value : seen = c.version → c.value = v

theorem saw_self (c : Cell α) : c.Saw c.version c.value := ⟨Nat.le_refl _, fun _ => rfl⟩

theorem Saw.counted (h : c.Saw seen v) (w : α) : (Cell.mk w (c.version + 1)).Saw seen v where
  le := Nat.le_succ_of_le h.le
  value hSame := by
    have hLe := h.le
    rw [show seen = c.version + 1 from hSame] at hLe
    exact absurd hLe (Nat.not_succ_le_self _)

theorem Saw.sendModify (h : c.Saw seen v) (modify : α → α) : (c.sendModify modify).Saw seen v := h.counted _

theorem Saw.sendIfModified {modify : α → α × Bool} (h : c.Saw seen v)
    (hHonest : (modify c.value).2 = false → (modify c.value).1 = c.value) :
    (c.sendIfModified modify).Saw seen v := by
  unfold Cell.sendIfModified
  cases hReport : (modify c.value).2 with
  | true => exact h.counted _
  | false => exact ⟨h.le, fun hSame => (hHonest hReport).trans (h.value hSame)⟩

/-- A value other than the one seen means that a change is waiting. -/
theorem Saw.pending (h : c.Saw seen v) (hOther : c.value ≠ v) : seen ≠ c.version :=
  fun hSame => hOther (h.value hSame)

end Cell

end Watch
