import Mathlib.Data.List.Count
import Mathlib.Data.List.GetD
import Mathlib.Data.Nat.Init

/-! # Event-driven machines and their runs

A machine says which states it may start in, which events are allowed in a state and
where each event leads. A run is an unbounded sequence of allowed events; a finite one
continues with any event that is always allowed. The rules turn one-step facts into facts
about every state of a run: invariants, and simulation by an abstract sequence of states.
-/

namespace Transition
set_option autoImplicit false

structure Machine (σ ε : Type) where
  initial : σ → Prop
  allowed : σ → ε → Prop
  next : σ → ε → σ

namespace Machine

variable {σ ε β : Type} {M : Machine σ ε}

def trace (M : Machine σ ε) (start : σ) (event : Nat → ε) : Nat → σ
  | 0 => start
  | n + 1 => M.next (M.trace start event n) (event n)

structure Run (M : Machine σ ε) where
  start : σ
  event : Nat → ε
  initial : M.initial start
  allowed : ∀ n, M.allowed (M.trace start event n) (event n)

namespace Run

variable (run : M.Run)

def state (n : Nat) : σ := M.trace run.start run.event n

theorem allowed_at (n : Nat) : M.allowed (run.state n) (run.event n) := run.allowed n

/-- What holds initially and survives every allowed event holds throughout. -/
theorem invariant {P : σ → Prop} (hInitial : ∀ s, M.initial s → P s)
    (hStep : ∀ s e, M.allowed s e → P s → P (M.next s e)) (n : Nat) : P (run.state n) := by
  induction n with
  | zero => exact hInitial _ run.initial
  | succ n ih => exact hStep _ _ (run.allowed_at n) ih

/-- Forward simulation: if every step from a related pair can be matched, the whole run is. -/
theorem simulate (R : σ → β → Prop) (A : Nat → β → β → Prop) {b₀ : β} (hStart : R run.start b₀)
    (hStep : ∀ n b, R (run.state n) b → ∃ b', A n b b' ∧ R (run.state (n + 1)) b') :
    ∃ b : Nat → β, b 0 = b₀ ∧ ∀ n, R (run.state n) (b n) ∧ A n (b n) (b (n + 1)) := by
  classical
  let follow (n : Nat) (b : β) : β := if h : ∃ b', A n b b' ∧ R (run.state (n + 1)) b' then h.choose else b
  let b : Nat → β := fun n => Nat.rec b₀ follow n
  have hNext {n : Nat} (hRel : R (run.state n) (b n)) :
      A n (b n) (b (n + 1)) ∧ R (run.state (n + 1)) (b (n + 1)) := by
    have hMatch := hStep n (b n) hRel
    have hFollow : b (n + 1) = hMatch.choose := dif_pos hMatch
    rw [hFollow]
    exact hMatch.choose_spec
  have hRel : ∀ n, R (run.state n) (b n) := by
    intro n
    induction n with
    | zero => exact hStart
    | succ n ih => exact (hNext ih).2
  exact ⟨b, rfl, fun n => ⟨hRel n, (hNext (hRel n)).1⟩⟩

/-- Where an entry of a log comes from, if events append to the log and never rewrite it: the state
it was appended in had the entries before it. -/
theorem appended {α : Type} (log : σ → List α) {Q : σ → ε → α → Prop} (hStart : log run.start = [])
    (hStep : ∀ n, log (run.state (n + 1)) = log (run.state n) ∨
      ∃ a, log (run.state (n + 1)) = log (run.state n) ++ [a] ∧ Q (run.state n) (run.event n) a)
    {n i : Nat} {a : α} (h : (log (run.state n))[i]? = some a) :
    ∃ k < n, log (run.state k) = (log (run.state n)).take i ∧
      log (run.state (k + 1)) = (log (run.state n)).take (i + 1) ∧ Q (run.state k) (run.event k) a := by
  induction n with
  | zero =>
    change (log run.start)[i]? = some a at h
    rw [hStart] at h
    cases h
  | succ n ih =>
    obtain hSame | ⟨b, hNew, hb⟩ := hStep n
    · rw [hSame] at h ⊢
      obtain ⟨k, hk, hMade⟩ := ih h
      exact ⟨k, Nat.lt_succ_of_lt hk, hMade⟩
    · obtain hOld | hLast := Nat.lt_or_ge i (log (run.state n)).length
      · rw [hNew, List.getElem?_append_left hOld] at h
        obtain ⟨k, hk, hMade⟩ := ih h
        rw [hNew, List.take_append_of_le_length (Nat.le_of_lt hOld), List.take_append_of_le_length hOld]
        exact ⟨k, Nat.lt_succ_of_lt hk, hMade⟩
      · rw [hNew, List.getElem?_append_right hLast, List.getElem?_singleton] at h
        split at h
        · cases h
          refine ⟨n, Nat.lt_succ_self n, ?_, ?_, hb⟩
          · rw [hNew, List.take_append_of_le_length (by omega), List.take_of_length_le hLast]
          · rw [hNew, List.take_of_length_le]
            rw [List.length_append, List.length_singleton]
            omega
        · cases h

end Run

/-- A finite sequence of events goes on with an event that leaves its last state as it is. -/
theorem trace_still {start : σ} {events : List ε} {idle : ε}
    (hStill : M.next (M.trace start (fun n => events.getD n idle) events.length) idle =
      M.trace start (fun n => events.getD n idle) events.length) (n : Nat) (hn : events.length ≤ n) :
    M.trace start (fun n => events.getD n idle) n = M.trace start (fun n => events.getD n idle) events.length := by
  induction n, hn using Nat.le_induction with
  | base => rfl
  | succ n hn ih => rw [trace, ih, List.getD_eq_default _ _ hn, hStill]

def Run.ofList (M : Machine σ ε) (start : σ) (events : List ε) (idle : ε) (hInitial : M.initial start)
    (hAllowed : ∀ n ≤ events.length,
      M.allowed (M.trace start (fun n => events.getD n idle) n) (events.getD n idle))
    (hStill : M.next (M.trace start (fun n => events.getD n idle) events.length) idle =
      M.trace start (fun n => events.getD n idle) events.length) : M.Run where
  start := start
  event n := events.getD n idle
  initial := hInitial
  allowed n := by
    obtain hn | hn := Nat.le_total n events.length
    · exact hAllowed n hn
    · have hLast := hAllowed events.length (Nat.le_refl _)
      rw [List.getD_eq_default _ _ (Nat.le_refl _)] at hLast
      rw [trace_still hStill n hn, List.getD_eq_default _ _ hn]
      exact hLast

end Machine

/-! ## Counting parties

A machine whose parties stand in a list moves one of them by setting its place. -/

section

variable {α : Type} {l : List α} {i : Nat} {a : α}

theorem countP_set (p : α → Bool) (b : α) (h : l[i]? = some a) :
    (l.set i b).countP p + (p a).toNat = l.countP p + (p b).toNat := by
  obtain ⟨hi, rfl⟩ := List.getElem?_eq_some_iff.mp h
  have hIn := List.boole_getElem_le_countP (p := p) hi
  rw [List.countP_set hi]
  generalize p l[i] = before at hIn ⊢
  generalize p b = after
  cases before <;> cases after <;>
    simp only [Bool.toNat_true, Bool.toNat_false, if_true, Bool.false_eq_true, if_false] at hIn ⊢ <;> omega

theorem countP_set_same (p : α → Bool) (b : α) (h : l[i]? = some a) (hSame : p b = p a) :
    (l.set i b).countP p = l.countP p := by
  have hSet := countP_set p b h
  rw [hSame] at hSet
  exact Nat.add_right_cancel hSet

end

end Transition
