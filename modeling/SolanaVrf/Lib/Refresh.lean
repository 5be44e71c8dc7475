import SolanaVrf.Lib.Transition

/-! # A cache refreshed under a lock

Callers that find a shared value too old for their purpose refresh it one at a time: a caller
takes the lock, looks again, and only then fetches; whoever waited for the lock finds the new
value. A caller may be dropped at any point, which frees its lock. Results may also be pushed
into the cache by others. The history keeps what was stored and what callers found.
-/

namespace Refresh
set_option autoImplicit false

open Transition

/-- When a caller of some kind is content with the cache, how a result is stored at a time, whether
callers look before they take the lock, and which results may be pushed. -/
structure Policy (σ κ ρ : Type) where
  fresh : σ → κ → Int → Bool
  store : σ → ρ → Int → σ
  quick : Bool
  pushed : ρ → Bool

inductive Caller (κ : Type)
  | waiting (kind : κ)
  | holding (kind : κ)
  | fetching (kind : κ)
  | done
deriving DecidableEq

namespace Caller

variable {κ : Type}

def waits : Caller κ → Bool
  | waiting _ => true
  | _ => false

def holds : Caller κ → Bool
  | holding _ => true
  | _ => false

def fetches : Caller κ → Bool
  | fetching _ => true
  | _ => false

/-- With the lock. -/
def busy : Caller κ → Bool
  | holding _ => true
  | fetching _ => true
  | _ => false

end Caller

/-- A caller that was content with the cache, one that began to fetch, and a result that was stored. -/
inductive Mark (σ κ ρ : Type)
  | content (kind : κ) (now : Int) (cache : σ)
  | begun (kind : κ) (now : Int) (cache : σ)
  | stored (result : ρ) (now : Int)
deriving DecidableEq

def Mark.time {σ κ ρ : Type} : Mark σ κ ρ → Int
  | content _ now _ => now
  | begun _ now _ => now
  | stored _ now => now

inductive Event (κ ρ : Type)
  | arrive (kind : κ)
  | lock (caller : Nat)
  | check (caller : Nat)
  | finish (caller : Nat) (result : ρ)
  | cancel (caller : Nat)
  | push (result : ρ)
  | advance (now : Int)
deriving DecidableEq

/-- The history is kept latest first. -/
structure State (σ κ ρ : Type) where
  cache : σ
  locked : Bool
  callers : List (Caller κ)
  clock : Int
  history : List (Mark σ κ ρ)
deriving DecidableEq

variable {σ κ ρ : Type} (p : Policy σ κ ρ)

namespace State

variable (s : State σ κ ρ)

def arrive (kind : κ) : State σ κ ρ :=
  if (p.quick && p.fresh s.cache kind s.clock) = true then
    { s with history := .content kind s.clock s.cache :: s.history }
  else { s with callers := s.callers ++ [.waiting kind] }

def lock (caller : Nat) : State σ κ ρ :=
  match s.callers[caller]? with
  | some (.waiting kind) => { s with locked := true, callers := s.callers.set caller (.holding kind) }
  | _ => s

def check (caller : Nat) : State σ κ ρ :=
  match s.callers[caller]? with
  | some (.holding kind) =>
    if p.fresh s.cache kind s.clock = true then
      { s with
        locked := false
        callers := s.callers.set caller .done
        history := .content kind s.clock s.cache :: s.history }
    else
      { s with
        callers := s.callers.set caller (.fetching kind)
        history := .begun kind s.clock s.cache :: s.history }
  | _ => s

def save (result : ρ) : State σ κ ρ :=
  { s with cache := p.store s.cache result s.clock, history := .stored result s.clock :: s.history }

/-- The caller's part is over, and its lock free. -/
def leave (caller : Nat) : State σ κ ρ :=
  match s.callers[caller]? with
  | some c => { s with locked := s.locked && !c.busy, callers := s.callers.set caller .done }
  | none => s

def next (s : State σ κ ρ) : Event κ ρ → State σ κ ρ
  | .arrive kind => s.arrive p kind
  | .lock caller => s.lock caller
  | .check caller => s.check p caller
  | .finish caller result => (s.save p result).leave caller
  | .cancel caller => s.leave caller
  | .push result => s.save p result
  | .advance now => { s with clock := now }

def Allowed (s : State σ κ ρ) : Event κ ρ → Prop
  | .arrive _ => True
  | .lock caller => (s.callers[caller]?).any Caller.waits = true ∧ s.locked = false
  | .check caller => (s.callers[caller]?).any Caller.holds = true
  | .finish caller _ => (s.callers[caller]?).any Caller.fetches = true
  | .cancel _ => True
  | .push result => p.pushed result = true
  | .advance now => s.clock ≤ now

instance decidableAllowed (s : State σ κ ρ) : ∀ e, Decidable (s.Allowed p e)
  | .arrive _ => isTrue trivial
  | .lock _ => inferInstanceAs (Decidable (_ ∧ _))
  | .check _ => inferInstanceAs (Decidable (_ = _))
  | .finish _ _ => inferInstanceAs (Decidable (_ = _))
  | .cancel _ => isTrue trivial
  | .push _ => inferInstanceAs (Decidable (_ = _))
  | .advance _ => inferInstanceAs (Decidable (_ ≤ _))

/-- Nobody has called yet. -/
def begin (cache : σ) (clock : Int) : State σ κ ρ := ⟨cache, false, [], clock, []⟩

end State

def machine (start : σ) : Machine (State σ κ ρ) (Event κ ρ) where
  initial s := ∃ clock, s = .begin start clock
  allowed s e := s.Allowed p e
  next s e := s.next p e

/-! ## One fetch at a time -/

section

variable {p} {s : State σ κ ρ}

/-- The lock is held by the one caller that looks again or fetches. -/
def State.Held (s : State σ κ ρ) : Prop := s.callers.countP Caller.busy = s.locked.toNat

theorem State.Held.arrive (h : s.Held) (kind : κ) : (s.arrive p kind).Held := by
  unfold State.arrive
  split
  · exact h
  · change (s.callers ++ [Caller.waiting kind]).countP Caller.busy = s.locked.toNat
    rw [List.countP_append]
    exact h

theorem State.Held.lock (h : s.Held) {caller : Nat} (hFree : s.locked = false) : (s.lock caller).Held := by
  unfold State.lock
  split
  · rename_i kind hCaller
    have hSet := countP_set Caller.busy (.holding kind) hCaller
    change (s.callers.set caller (.holding kind)).countP Caller.busy = 1
    rw [State.Held, hFree] at h
    change _ + 0 = _ + 1 at hSet
    change _ = 0 at h
    omega
  · exact h

theorem State.Held.leave (h : s.Held) (caller : Nat) : (s.leave caller).Held := by
  unfold State.leave
  split
  · rename_i c hCaller
    have hSet := countP_set Caller.busy .done hCaller
    change (s.callers.set caller .done).countP Caller.busy = (s.locked && !c.busy).toNat
    change _ + _ = _ + 0 at hSet
    unfold State.Held at h
    cases hBusy : c.busy with
    | false =>
      rw [hBusy, Bool.toNat_false] at hSet
      rw [Bool.not_false, Bool.and_true]
      omega
    | true =>
      rw [hBusy, Bool.toNat_true] at hSet
      have hLocked := s.locked.toNat_le
      rw [Bool.not_true, Bool.and_false, Bool.toNat_false]
      omega
  · exact h

theorem State.Held.check (h : s.Held) (caller : Nat) : (s.check p caller).Held := by
  unfold State.check
  split
  · rename_i kind hCaller
    split
    · -- a content caller leaves with the lock it holds
      have hLeft := h.leave caller
      unfold State.leave at hLeft
      rw [hCaller] at hLeft
      change (s.callers.set caller .done).countP Caller.busy = (s.locked && false).toNat at hLeft
      rw [Bool.and_false] at hLeft
      exact hLeft
    · change (s.callers.set caller (.fetching kind)).countP Caller.busy = s.locked.toNat
      rw [countP_set_same Caller.busy (.fetching kind) hCaller rfl]
      exact h
  · exact h

theorem State.Held.next (h : s.Held) {e : Event κ ρ} (hAllowed : s.Allowed p e) : (s.next p e).Held := by
  cases e with
  | arrive kind => exact h.arrive kind
  | lock caller => exact h.lock hAllowed.2
  | check caller => exact h.check caller
  | finish caller result =>
    have hSaved : (s.save p result).Held := h
    exact hSaved.leave caller
  | cancel caller => exact h.leave caller
  | push result => exact h
  | advance now => exact h

end

/-! ## What the history says -/

variable (start : σ)

/-- The cache after the results of a history. -/
def replay : List (Mark σ κ ρ) → σ
  | [] => start
  | .stored result now :: earlier => p.store (replay earlier) result now
  | .content _ _ _ :: earlier => replay earlier
  | .begun _ _ _ :: earlier => replay earlier

/-- A mark is right about the history before it. -/
def Mark.Says (m : Mark σ κ ρ) (earlier : List (Mark σ κ ρ)) : Prop :=
  match m with
  | .content kind now cache => cache = replay p start earlier ∧ p.fresh cache kind now = true
  | .begun kind now cache => cache = replay p start earlier ∧ p.fresh cache kind now = false
  | .stored _ _ => True

def Sound : List (Mark σ κ ρ) → Prop
  | [] => True
  | m :: earlier => m.Says p start earlier ∧ (∀ m' ∈ earlier, m'.time ≤ m.time) ∧ Sound earlier

variable {p start}

theorem Sound.split {later : List (Mark σ κ ρ)} {m : Mark σ κ ρ} {earlier : List (Mark σ κ ρ)}
    (h : Sound p start (later ++ m :: earlier)) :
    m.Says p start earlier ∧ (∀ m' ∈ earlier, m'.time ≤ m.time) ∧ Sound p start earlier := by
  induction later with
  | nil => exact h
  | cons _ later ih => exact ih h.2.2

variable (p start)

structure State.Told (s : State σ κ ρ) : Prop where
  cache : s.cache = replay p start s.history
  sound : Sound p start s.history
  past : ∀ m ∈ s.history, m.time ≤ s.clock

variable {p start} {s : State σ κ ρ}

/-- A new mark, at the present time. -/
theorem State.Told.mark (h : s.Told p start) {cache : σ} {m : Mark σ κ ρ} (locked : Bool) (callers : List (Caller κ))
    (hCache : cache = replay p start (m :: s.history)) (hSays : m.Says p start s.history) (hNow : m.time = s.clock) :
    State.Told p start ⟨cache, locked, callers, s.clock, m :: s.history⟩ where
  cache := hCache
  sound := ⟨hSays, fun m' hm' => hNow ▸ h.past m' hm', h.sound⟩
  past := by
    intro m' hm'
    obtain rfl | hOld := List.mem_cons.mp hm'
    · exact Int.le_of_eq hNow
    · exact h.past m' hOld

theorem State.Told.save (h : s.Told p start) (result : ρ) : (s.save p result).Told p start := by
  refine h.mark s.locked s.callers ?_ trivial rfl
  change p.store s.cache result s.clock = p.store (replay p start s.history) result s.clock
  rw [h.cache]

theorem State.Told.leave (h : s.Told p start) (caller : Nat) : (s.leave caller).Told p start := by
  unfold State.leave
  split
  · exact ⟨h.cache, h.sound, h.past⟩
  · exact h

theorem State.Told.check (h : s.Told p start) (caller : Nat) : (s.check p caller).Told p start := by
  unfold State.check
  split
  · rename_i kind hCaller
    split
    · rename_i hFresh
      exact h.mark _ _ h.cache ⟨h.cache, hFresh⟩ rfl
    · rename_i hOld
      exact h.mark _ _ h.cache ⟨h.cache, Bool.not_eq_true _ ▸ hOld⟩ rfl
  · exact h

theorem State.Told.next (h : s.Told p start) {e : Event κ ρ} (hAllowed : s.Allowed p e) :
    (s.next p e).Told p start := by
  cases e with
  | arrive kind =>
    change (s.arrive p kind).Told p start
    unfold State.arrive
    split
    · rename_i hQuick
      exact h.mark _ _ h.cache ⟨h.cache, (Bool.and_eq_true_iff.mp hQuick).2⟩ rfl
    · exact ⟨h.cache, h.sound, h.past⟩
  | lock caller =>
    change (s.lock caller).Told p start
    unfold State.lock
    split
    · exact ⟨h.cache, h.sound, h.past⟩
    · exact h
  | check caller => exact h.check caller
  | finish caller result => exact (h.save result).leave caller
  | cancel caller => exact h.leave caller
  | push result => exact h.save result
  | advance now => exact ⟨h.cache, h.sound, fun m hm => Int.le_trans (h.past m hm) hAllowed⟩

/-! ## Over whole runs -/

section

variable (run : (machine p start).Run) (n : Nat)

theorem held : (run.state n).Held := by
  refine run.invariant ?_ (fun s e hAllowed h => State.Held.next h hAllowed) n
  rintro _ ⟨clock, rfl⟩
  rfl

theorem told : (run.state n).Told p start := by
  refine run.invariant ?_ (fun s e hAllowed h => State.Told.next h hAllowed) n
  rintro _ ⟨clock, rfl⟩
  exact ⟨rfl, trivial, by rintro _ ⟨⟩⟩

/-- No two callers fetch at the same time. -/
theorem one_fetch : (run.state n).callers.countP Caller.fetches ≤ 1 := by
  have hBusy : (run.state n).callers.countP Caller.fetches ≤ (run.state n).callers.countP Caller.busy := by
    refine List.countP_mono_left fun c _ hFetches => ?_
    cases c with
    | fetching kind => rfl
    | waiting kind => cases hFetches
    | holding kind => cases hFetches
    | done => cases hFetches
  have hHeld := held run n
  have hLocked := (run.state n).locked.toNat_le
  unfold State.Held at hHeld
  omega

end

end Refresh
