import Mathlib.Logic.Basic

/-! # Inverting fallible computations

A successful sequence of fallible steps is peeled step by step: each lemma turns
"this computation returned" into what had to hold for it to return. `Avoids` says which
error a sequence cannot end in.
-/

namespace Fallible
set_option autoImplicit false

variable {ε α β : Type}

def require (condition : Prop) [Decidable condition] (error : ε) : Except ε Unit :=
  if condition then .ok () else .error error

def okOr (value : Option α) (error : ε) : Except ε α :=
  match value with
  | some a => .ok a
  | none => .error error

theorem bind_eq_ok {x : Except ε α} {f : α → Except ε β} {b : β} :
    x >>= f = .ok b ↔ ∃ a, x = .ok a ∧ f a = .ok b := by
  cases x with
  | error e => simp [bind, Except.bind]
  | ok a => simp [bind, Except.bind]

@[simp] theorem bind_ok (a : α) (f : α → Except ε β) : (Except.ok a >>= f) = f a := rfl

@[simp] theorem bind_error (e : ε) (f : α → Except ε β) : (Except.error e >>= f) = .error e := rfl

@[simp] theorem pure_eq_ok {a b : α} : (pure a : Except ε α) = .ok b ↔ a = b :=
  ⟨Except.ok.inj, congrArg Except.ok⟩

theorem require_of {condition : Prop} [Decidable condition] {error : ε} (h : condition) :
    require condition error = .ok () := if_pos h

theorem require_of_not {condition : Prop} [Decidable condition] {error : ε} (h : ¬condition) :
    require condition error = .error error := if_neg h

@[simp] theorem okOr_some (a : α) (error : ε) : okOr (some a) error = .ok a := rfl

@[simp] theorem require_eq_ok {condition : Prop} [Decidable condition] {error : ε} {u : Unit} :
    require condition error = .ok u ↔ condition := by
  unfold require
  split
  · simpa
  · simpa

theorem require_bind_eq_ok {condition : Prop} [Decidable condition] {error : ε} {f : Unit → Except ε β}
    {b : β} : require condition error >>= f = .ok b ↔ condition ∧ f () = .ok b := by
  rw [bind_eq_ok]
  constructor
  · rintro ⟨u, hGuard, hRest⟩
    exact ⟨require_eq_ok.mp hGuard, hRest⟩
  · rintro ⟨hGuard, hRest⟩
    exact ⟨(), require_eq_ok.mpr hGuard, hRest⟩

@[simp] theorem okOr_eq_ok {value : Option α} {error : ε} {a : α} :
    okOr value error = .ok a ↔ value = some a := by
  cases value with
  | none => simp [okOr]
  | some b => simp [okOr]

theorem exists_eq_ok_of_snd {x : Except ε (α × β)} {b : β} (h : x.toOption.map Prod.snd = some b) :
    ∃ a, x = .ok (a, b) := by
  cases x with
  | error e => cases h
  | ok result =>
    obtain ⟨a, b'⟩ := result
    obtain rfl : b' = b := Option.some.inj h
    exact ⟨a, rfl⟩

theorem exists_eq_ok_of_map {x : Except ε α} {f : α → β} {b : β} (h : x.toOption.map f = some b) :
    ∃ a, x = .ok a ∧ f a = b := by
  cases x with
  | error e => cases h
  | ok a => exact ⟨a, rfl, Option.some.inj h⟩

def Avoids (error : ε) (x : Except ε α) : Prop := x ≠ .error error

variable {error error' : ε}

theorem avoids_ok (a : α) : Avoids error (.ok a : Except ε α) := nofun

theorem avoids_error (h : error' ≠ error) : Avoids error (.error error' : Except ε α) :=
  fun hEq => h (Except.error.inj hEq)

theorem avoids_require {condition : Prop} [Decidable condition] (h : error' ≠ error) :
    Avoids error (require condition error') := by
  unfold require
  split
  · exact avoids_ok ()
  · exact avoids_error h

theorem avoids_okOr {value : Option α} (h : error' ≠ error) : Avoids error (okOr value error') := by
  cases value with
  | some a => exact avoids_ok a
  | none => exact avoids_error h

theorem Avoids.bind {x : Except ε α} {f : α → Except ε β} (h : Avoids error x)
    (hRest : ∀ a, x = .ok a → Avoids error (f a)) : Avoids error (x >>= f) := by
  cases x with
  | ok a => exact hRest a rfl
  | error e => exact avoids_error fun hEq => h (congrArg Except.error hEq)

theorem avoids_require_bind {condition : Prop} [Decidable condition] {f : Unit → Except ε β} (h : error' ≠ error)
    (hRest : condition → Avoids error (f ())) : Avoids error (require condition error' >>= f) :=
  (avoids_require h).bind fun _ hGuard => hRest (require_eq_ok.mp hGuard)

theorem bind_eq_error {x : Except ε α} {f : α → Except ε β} :
    x >>= f = .error error ↔ x = .error error ∨ ∃ a, x = .ok a ∧ f a = .error error := by
  cases x with
  | ok a => simp
  | error e => simp

/-- If the rest cannot end in an error, the first step did. -/
theorem bind_eq_error_iff {x : Except ε α} {f : α → Except ε β} (hRest : ∀ a, x = .ok a → Avoids error (f a)) :
    x >>= f = .error error ↔ x = .error error := by
  rw [bind_eq_error, or_iff_left]
  rintro ⟨a, hFirst, hEnd⟩
  exact hRest a hFirst hEnd

end Fallible
