import SolanaVrf.Lib.Transition
import SolanaVrf.Lib.Watch
import Mathlib.Order.Lattice
import Mathlib.Data.Nat.Init
import Mathlib.Tactic.Linarith

/-! # The slot tracker and those who wait for it

`SlotTracker` keeps the highest slot seen in a watch channel and, under a mutex, what it knows
about the timing of slots. Sources report slots while tasks wait for one; a first attempt may
be let through shortly before its slot is expected. Times are nanoseconds of one clock.
-/

namespace SolanaVrf
set_option autoImplicit false

open Transition Watch

namespace SlotTracker

def EARLY_SEND_DIVISOR : Nat := 20
def EARLY_SEND_MAX : Nat := 20000000
def NON_ER_EARLY_SEND_BONUS : Nat := 400000000
def NON_ER_MIN_SLOT_DURATION : Nat := 200000000
def MIN_SLOT_SAMPLE : Nat := 1000000
def MIN_SLOT_SAMPLES : Nat := 3

structure SlotTiming where
  lastBoundary : Option (Nat × Int)
  slotDuration : Option Nat
  samples : Nat
  predictiveLeadBonus : Nat
deriving DecidableEq

def earlySendLead (slotDuration : Nat) : Nat := min (slotDuration / EARLY_SEND_DIVISOR) EARLY_SEND_MAX

/-- One slot's length, as measured from one boundary to a later one; a clock that ran backwards reads 0. -/
def sampleBetween (previous boundary : Nat × Int) : Nat :=
  (boundary.2 - previous.2).toNat / min (boundary.1 - previous.1) (2 ^ 32 - 1)

/-- `checked_sub`, then `u32::try_from`. -/
def slotsAhead (slot target : Nat) : Option Nat :=
  if slot ≤ target ∧ target - slot < 2 ^ 32 then some (target - slot) else none

/-- A `Duration` holds less than 2 ^ 64 seconds. -/
def checkedMul (duration slots : Nat) : Option Nat :=
  if duration * slots < 2 ^ 64 * 1000000000 then some (duration * slots) else none

theorem slotsAhead_eq_some {slot target slots : Nat} (h : slotsAhead slot target = some slots) :
    slot ≤ target ∧ slots = target - slot := by
  unfold slotsAhead at h
  split at h
  · rename_i hTarget
    cases h
    exact ⟨hTarget.1, rfl⟩
  · cases h

theorem checkedMul_eq_some {duration slots ahead : Nat} (h : checkedMul duration slots = some ahead) :
    ahead = duration * slots := by
  unfold checkedMul at h
  split at h
  · cases h
    rfl
  · cases h

namespace SlotTiming

variable (t : SlotTiming)

/-- A new sample moves the average by a quarter; one that is too short drops it. -/
def take (sample : Nat) : SlotTiming :=
  if sample ≥ MIN_SLOT_SAMPLE then
    { t with
      slotDuration := some (match t.slotDuration with
        | some duration => (duration * 3 + sample) / 4
        | none => sample)
      samples := min (t.samples + 1) 255 }
  else { t with slotDuration := none, samples := 0 }

/-- What `observe_slot_at` does while it holds the mutex, and whether it changed anything. -/
def observe (boundary : Nat × Int) : SlotTiming × Bool :=
  match t.lastBoundary with
  | none => ({ t with lastBoundary := some boundary }, true)
  | some previous =>
    if boundary.1 > previous.1 then
      ({ t.take (sampleBetween previous boundary) with lastBoundary := some boundary }, true)
    else (t, false)

/-- From when a send for the target may go out, and until when it counts as early. -/
def earlyWindow (target : Nat) : Option (Int × Int) :=
  if t.samples < MIN_SLOT_SAMPLES then none else do
    let (slot, observedAt) ← t.lastBoundary
    let slotDuration ← t.slotDuration
    let slots ← slotsAhead slot target
    let ahead ← checkedMul slotDuration slots
    let predicted := observedAt + ahead
    let lead := earlySendLead slotDuration
    let predictiveLead := lead +
      if slotDuration ≥ NON_ER_MIN_SLOT_DURATION then t.predictiveLeadBonus else 0
    return (predicted - predictiveLead, predicted + lead)

variable {t}

theorem earlyWindow_eq_some {target : Nat} {window : Int × Int} (h : t.earlyWindow target = some window) :
    ∃ slot observedAt slotDuration, t.lastBoundary = some (slot, observedAt) ∧ t.slotDuration = some slotDuration ∧
      slot ≤ target ∧
      window.1 = observedAt + (slotDuration * (target - slot) : Nat) - ((earlySendLead slotDuration +
        if slotDuration ≥ NON_ER_MIN_SLOT_DURATION then t.predictiveLeadBonus else 0 : Nat) : Int) := by
  unfold earlyWindow at h
  split at h
  · cases h
  · obtain ⟨⟨slot, observedAt⟩, hBoundary, h⟩ := Option.bind_eq_some_iff.mp h
    obtain ⟨slotDuration, hDuration, h⟩ := Option.bind_eq_some_iff.mp h
    obtain ⟨slots, hSlots, h⟩ := Option.bind_eq_some_iff.mp h
    obtain ⟨ahead, hAhead, h⟩ := Option.bind_eq_some_iff.mp h
    obtain ⟨hTarget, rfl⟩ := slotsAhead_eq_some hSlots
    obtain rfl := checkedMul_eq_some hAhead
    cases h
    exact ⟨slot, observedAt, slotDuration, hBoundary, hDuration, hTarget, rfl⟩

/-- The boundary is one of this slot or a later one. -/
def Reaches (t : SlotTiming) (slot : Nat) : Prop := ∃ boundary, t.lastBoundary = some boundary ∧ slot ≤ boundary.1

theorem reaches_observe (t : SlotTiming) (boundary : Nat × Int) : (t.observe boundary).1.Reaches boundary.1 := by
  unfold observe
  split
  · exact ⟨boundary, rfl, Nat.le_refl _⟩
  · rename_i previous hPrevious
    split
    · exact ⟨boundary, rfl, Nat.le_refl _⟩
    · rename_i hOld
      exact ⟨previous, hPrevious, Nat.not_lt.mp hOld⟩

theorem Reaches.observe {slot : Nat} (h : t.Reaches slot) (boundary : Nat × Int) :
    (t.observe boundary).1.Reaches slot := by
  obtain ⟨previous, hPrevious, hSlot⟩ := h
  unfold SlotTiming.observe
  rw [hPrevious]
  dsimp only
  split
  · rename_i hLater
    exact ⟨boundary, rfl, hSlot.trans (Nat.le_of_lt hLater)⟩
  · exact ⟨previous, hPrevious, hSlot⟩

/-- Two slots of 400 ms ahead, off a rollup: the window opens 420 ms before the predicted start. -/
example : earlyWindow ⟨some (7, 0), some 400000000, 3, NON_ER_EARLY_SEND_BONUS⟩ 9 = some (380000000, 820000000) := by
  decide +kernel

end SlotTiming

end SlotTracker

open SlotTracker

structure SlotTracker where
  sender : Cell Nat
  timing : SlotTiming
deriving DecidableEq

namespace SlotTracker

/-- A new tracker, after `set_is_er`. -/
def new (isEr : Bool) : SlotTracker := ⟨⟨0, 0⟩, ⟨none, none, 0, if isEr then 0 else NON_ER_EARLY_SEND_BONUS⟩⟩

variable (s : SlotTracker)

def current : Nat := s.sender.value

/-- The closure of `update`. -/
def raise (slot current : Nat) : Nat × Bool := if slot > current then (slot, true) else (current, false)

def update (slot : Nat) : SlotTracker := { s with sender := s.sender.sendIfModified (raise slot) }

/-- The last section of `observe_slot_at`. -/
def announce (slot : Nat) (timingChanged : Bool) : SlotTracker :=
  if timingChanged then { s with sender := s.sender.sendModify fun current => max current slot } else s.update slot

variable {s} {seen v : Nat}

theorem current_update (slot : Nat) : (s.update slot).current = max s.current slot := by
  change (raise slot s.sender.value).1 = max s.sender.value slot
  unfold raise
  split
  · exact (Nat.max_eq_right (Nat.le_of_lt ‹_›)).symm
  · exact (Nat.max_eq_left (Nat.not_lt.mp ‹_›)).symm

theorem saw_update (h : s.sender.Saw seen v) (slot : Nat) : (s.update slot).sender.Saw seen v := by
  have hHonest : (raise slot s.sender.value).2 = false → (raise slot s.sender.value).1 = s.sender.value := by
    unfold raise
    split
    · rintro ⟨⟩
    · exact fun _ => rfl
  have hSent := h.sendIfModified hHonest
  exact hSent

theorem current_announce (slot : Nat) (timingChanged : Bool) :
    (s.announce slot timingChanged).current = max s.current slot := by
  unfold announce
  split
  · rfl
  · exact current_update slot

theorem timing_announce (slot : Nat) (timingChanged : Bool) : (s.announce slot timingChanged).timing = s.timing := by
  unfold announce
  split <;> rfl

theorem saw_announce (h : s.sender.Saw seen v) (slot : Nat) (timingChanged : Bool) :
    (s.announce slot timingChanged).sender.Saw seen v := by
  unfold announce
  split
  · have hSent := h.sendModify fun current => max current slot
    exact hSent
  · exact saw_update h slot

end SlotTracker

/-! ## Reports and waits, interleaved -/

namespace Slots

/-- A call of `observe_slot_at` past its first comparison, past its use of the mutex, and over. -/
inductive Observer
  | checked (boundary : Nat × Int)
  | timed (slot : Nat) (timingChanged : Bool)
  | done
deriving DecidableEq

/-- Where a waiting task is. What it reads of the timing stays fixed until it looks again. -/
inductive Phase
  | idle
  | checking
  | windowing
  | deciding (timing : SlotTiming)
  | blocked
  | armed (timing : SlotTiming)
  | reached
  | early (timing : SlotTiming)
deriving DecidableEq

namespace Phase

/-- The value last seen fell short of the target. -/
def short : Phase → Bool
  | windowing => true
  | deciding _ => true
  | blocked => true
  | armed _ => true
  | _ => false

/-- At an await of `changed`. -/
def awaiting : Phase → Bool
  | blocked => true
  | armed _ => true
  | _ => false

/-- The timing that the task goes by. -/
def reading : Phase → Option SlotTiming
  | deciding timing => some timing
  | armed timing => some timing
  | _ => none

theorem short_of_awaiting {p : Phase} (h : p.awaiting = true) : p.short = true := by
  cases p <;> first | rfl | cases h

end Phase

inductive Event
  | update (slot : Nat)
  | observe (slot : Nat) (now : Int)
  | time (observer : Nat)
  | announce (observer : Nat)
  | advance (now : Int)
  | wait (target : Nat) (mayBeEarly : Bool)
  | check
  | window
  | arm
  | wake
  | fire
deriving DecidableEq

end Slots

open Slots

/-- The tracker, the calls under way, one task that waits, the clock, and the slots whose report is over.
Tasks that wait do not change the tracker, so one stands for all. -/
structure Slots where
  tracker : SlotTracker
  observers : List Observer
  target : Nat
  mayBeEarly : Bool
  seen : Nat
  phase : Phase
  clock : Int
  slots : List Nat
deriving DecidableEq

namespace Slots

def begin (isEr : Bool) (now : Int) : Slots := ⟨.new isEr, [], 0, false, 0, .idle, now, []⟩

variable (s : Slots)

/-- `observe_slot_at` up to its use of the mutex. -/
def observe (slot : Nat) (now : Int) : Slots :=
  if slot < s.tracker.current then { s with slots := slot :: s.slots }
  else { s with observers := s.observers ++ [.checked (slot, now)] }

def time (observer : Nat) : Slots :=
  match s.observers[observer]? with
  | some (.checked boundary) =>
    { s with
      tracker := { s.tracker with timing := (s.tracker.timing.observe boundary).1 }
      observers := s.observers.set observer (.timed boundary.1 (s.tracker.timing.observe boundary).2) }
  | _ => s

def announce (observer : Nat) : Slots :=
  match s.observers[observer]? with
  | some (.timed slot timingChanged) =>
    { s with
      tracker := s.tracker.announce slot timingChanged
      observers := s.observers.set observer .done
      slots := slot :: s.slots }
  | _ => s

/-- `borrow_and_update` and the comparison with the target. -/
def check : Slots :=
  { s with
    seen := s.tracker.sender.version
    phase := if s.tracker.current < s.target then (if s.mayBeEarly then .windowing else .blocked) else .reached }

def window : Slots :=
  { s with phase := if (s.tracker.timing.earlyWindow s.target).isSome then .deciding s.tracker.timing else .blocked }

/-- The comparison of the clock with the window; past its end only a new slot helps. -/
def arm : Slots :=
  match s.phase with
  | .deciding timing =>
    if (timing.earlyWindow s.target).any fun window => s.clock > window.2 then { s with phase := .blocked }
    else { s with phase := .armed timing }
  | _ => s

/-- `sleep_until` returns first. -/
def fire : Slots :=
  match s.phase with
  | .armed timing => { s with phase := .early timing }
  | _ => s

def next (s : Slots) : Event → Slots
  | .update slot => { s with tracker := s.tracker.update slot, slots := slot :: s.slots }
  | .observe slot now => s.observe slot now
  | .time observer => s.time observer
  | .announce observer => s.announce observer
  | .advance now => { s with clock := now }
  -- `subscribe` has seen the current count
  | .wait target mayBeEarly =>
    { s with target := target, mayBeEarly := mayBeEarly, seen := s.tracker.sender.version, phase := .checking }
  | .check => s.check
  | .window => s.window
  | .arm => s.arm
  | .wake => { s with seen := s.tracker.sender.version, phase := .checking }
  | .fire => s.fire

/-- The deadline of an armed window has passed. -/
def due : Bool :=
  match s.phase with
  | .armed timing => (timing.earlyWindow s.target).any fun window => window.1 ≤ s.clock
  | _ => false

def returned : Bool :=
  match s.phase with
  | .idle => true
  | .reached => true
  | .early _ => true
  | _ => false

def Allowed (s : Slots) : Event → Prop
  | .update _ => True
  | .observe _ now => now ≤ s.clock
  | .time _ => True
  | .announce _ => True
  | .advance now => s.clock ≤ now
  | .wait _ _ => s.returned = true
  | .check => s.phase = .checking
  | .window => s.phase = .windowing
  | .arm => True
  | .wake => s.phase.awaiting = true ∧ s.seen ≠ s.tracker.sender.version
  | .fire => s.due = true

instance decidableAllowed (s : Slots) : ∀ e, Decidable (s.Allowed e)
  | .update _ => isTrue trivial
  | .observe _ _ => inferInstanceAs (Decidable (_ ≤ _))
  | .time _ => isTrue trivial
  | .announce _ => isTrue trivial
  | .advance _ => inferInstanceAs (Decidable (_ ≤ _))
  | .wait _ _ => inferInstanceAs (Decidable (_ = _))
  | .check => inferInstanceAs (Decidable (_ = _))
  | .window => inferInstanceAs (Decidable (_ = _))
  | .arm => isTrue trivial
  | .wake => inferInstanceAs (Decidable (_ ∧ _))
  | .fire => inferInstanceAs (Decidable (_ = _))

def machine : Machine Slots Event where
  initial s := ∃ isEr now, s = .begin isEr now
  allowed := Allowed
  next := next

/-! ## No report is missed -/

/-- The current slot is the highest report, a task past its comparison has seen too low a slot or has a
change waiting for it, and a task that has returned without an early window has its slot. -/
structure Watched (s : Slots) : Prop where
  above : ∀ slot ∈ s.slots, slot ≤ s.tracker.current
  known : s.tracker.current = 0 ∨ s.tracker.current ∈ s.slots
  short : s.phase.short = true → ∃ v < s.target, s.tracker.sender.Saw s.seen v
  reached : s.phase = .reached → s.target ≤ s.tracker.current

variable {s}

/-- A report that is over. -/
theorem Watched.report (h : s.Watched) {tracker : SlotTracker} {slot : Nat} (observers : List Observer)
    (hCurrent : tracker.current = max s.tracker.current slot)
    (hSaw : ∀ v, s.tracker.sender.Saw s.seen v → tracker.sender.Saw s.seen v) :
    Watched { s with tracker := tracker, observers := observers, slots := slot :: s.slots } where
  above := by
    intro other hOther
    change other ≤ tracker.current
    rw [hCurrent]
    obtain rfl | hOld := List.mem_cons.mp hOther
    · exact Nat.le_max_right _ _
    · exact (h.above other hOld).trans (Nat.le_max_left _ _)
  known := by
    change tracker.current = 0 ∨ tracker.current ∈ slot :: s.slots
    rw [hCurrent]
    obtain hHigh | hLow := Nat.le_total s.tracker.current slot
    · rw [Nat.max_eq_right hHigh]
      exact Or.inr List.mem_cons_self
    · rw [Nat.max_eq_left hLow]
      exact h.known.imp_right (List.mem_cons_of_mem _)
  short := fun hShort => (h.short hShort).imp fun v hv => ⟨hv.1, hSaw v hv.2⟩
  reached := by
    intro hReached
    change s.target ≤ tracker.current
    rw [hCurrent]
    exact (h.reached hReached).trans (Nat.le_max_left _ _)

/-- The waiting task moves on. -/
theorem Watched.move (h : s.Watched) {target seen : Nat} {mayBeEarly : Bool} {phase : Phase}
    (hShort : phase.short = true → ∃ v < target, s.tracker.sender.Saw seen v)
    (hReached : phase = .reached → target ≤ s.tracker.current) :
    Watched { s with target := target, mayBeEarly := mayBeEarly, seen := seen, phase := phase } :=
  ⟨h.above, h.known, hShort, hReached⟩

theorem Watched.check (h : s.Watched) : s.check.Watched := by
  refine h.move ?_ ?_
  · intro hShort
    refine ⟨s.tracker.current, ?_, s.tracker.sender.saw_self⟩
    by_contra hHigh
    rw [if_neg hHigh] at hShort
    cases hShort
  · intro hReached
    by_contra hLow
    rw [if_pos (Nat.not_le.mp hLow)] at hReached
    split at hReached
    · cases hReached
    · cases hReached

theorem Watched.observe (h : s.Watched) (slot : Nat) (now : Int) : (s.observe slot now).Watched := by
  unfold Slots.observe
  split
  · rename_i hOld
    exact h.report s.observers (Nat.max_eq_left (Nat.le_of_lt hOld)).symm fun _ hSaw => hSaw
  · exact ⟨h.above, h.known, h.short, h.reached⟩

theorem Watched.time (h : s.Watched) (observer : Nat) : (s.time observer).Watched := by
  unfold Slots.time
  split
  · exact ⟨h.above, h.known, h.short, h.reached⟩
  · exact h

theorem Watched.announce (h : s.Watched) (observer : Nat) : (s.announce observer).Watched := by
  unfold Slots.announce
  split
  · rename_i slot timingChanged _
    exact h.report _ (current_announce slot timingChanged) fun _ hSaw => saw_announce hSaw slot timingChanged
  · exact h

theorem Watched.arm (h : s.Watched) : s.arm.Watched := by
  unfold Slots.arm
  split
  · rename_i timing hPhase
    have hShort := h.short (by rw [hPhase]; rfl)
    split
    · exact h.move (fun _ => hShort) (by rintro ⟨⟩)
    · exact h.move (fun _ => hShort) (by rintro ⟨⟩)
  · exact h

theorem Watched.fire (h : s.Watched) : s.fire.Watched := by
  unfold Slots.fire
  split
  · exact h.move (by rintro ⟨⟩) (by rintro ⟨⟩)
  · exact h

theorem Watched.next (h : s.Watched) {e : Event} (hAllowed : s.Allowed e) : (s.next e).Watched := by
  cases e with
  | update slot => exact h.report s.observers (current_update slot) fun _ hSaw => saw_update hSaw slot
  | observe slot now => exact h.observe slot now
  | time observer => exact h.time observer
  | announce observer => exact h.announce observer
  | advance now => exact ⟨h.above, h.known, h.short, h.reached⟩
  | wait target mayBeEarly => exact h.move (by rintro ⟨⟩) (by rintro ⟨⟩)
  | check => exact h.check
  | window =>
    have hPhase : s.phase = .windowing := hAllowed
    refine h.move (fun _ => h.short (by rw [hPhase]; rfl)) ?_
    intro hReached
    split at hReached
    · cases hReached
    · cases hReached
  | arm => exact h.arm
  | wake => exact h.move (by rintro ⟨⟩) (by rintro ⟨⟩)
  | fire => exact h.fire

theorem watched (run : machine.Run) (n : Nat) : (run.state n).Watched := by
  refine run.invariant ?_ (fun s e hAllowed h => h.next hAllowed) n
  rintro _ ⟨isEr, now, rfl⟩
  exact ⟨by rintro _ ⟨⟩, Or.inl rfl, by rintro ⟨⟩, by rintro ⟨⟩⟩

end Slots

/-- In every interleaving the tracker holds the highest slot that was reported, a task is never left
asleep once its slot is there, and a task that returns without an early window has its slot. -/
theorem slot_waits_miss_nothing (run : Slots.machine.Run) (n : Nat) :
    (∀ slot ∈ (run.state n).slots, slot ≤ (run.state n).tracker.current) ∧
    ((run.state n).tracker.current = 0 ∨ (run.state n).tracker.current ∈ (run.state n).slots) ∧
    ((run.state n).phase.awaiting = true → (run.state n).target ≤ (run.state n).tracker.current →
      (run.state n).Allowed .wake) ∧
    ((run.state n).phase = .reached → (run.state n).target ≤ (run.state n).tracker.current) := by
  obtain ⟨hAbove, hKnown, hShort, hReached⟩ := Slots.watched run n
  refine ⟨hAbove, hKnown, ?_, hReached⟩
  intro hAwaiting hThere
  obtain ⟨v, hLow, hSaw⟩ := hShort (Slots.Phase.short_of_awaiting hAwaiting)
  exact ⟨hAwaiting, hSaw.pending (Nat.ne_of_gt (Nat.lt_of_lt_of_le hLow hThere))⟩

/-! ## What a step does to the timing and to the calls under way -/

namespace Slots

section

variable (s : Slots) (e : Event)

/-- Only a call that holds the mutex changes the timing. -/
theorem timing_next : (s.next e).tracker.timing = s.tracker.timing ∨
    ∃ observer boundary, e = .time observer ∧ s.observers[observer]? = some (.checked boundary) ∧
      (s.next e).tracker.timing = (s.tracker.timing.observe boundary).1 := by
  cases e with
  | observe slot now =>
    dsimp only [next, observe]
    split <;> exact Or.inl rfl
  | time observer =>
    dsimp only [next, time]
    split
    · rename_i boundary hChecked
      exact Or.inr ⟨observer, boundary, rfl, hChecked, rfl⟩
    · exact Or.inl rfl
  | announce observer =>
    dsimp only [next, announce]
    split
    · exact Or.inl (timing_announce _ _)
    · exact Or.inl rfl
  | arm =>
    dsimp only [next, arm]
    split
    · split <;> exact Or.inl rfl
    · exact Or.inl rfl
  | fire =>
    dsimp only [next, fire]
    split <;> exact Or.inl rfl
  | _ => exact Or.inl rfl

/-- A call under way was so before, or it begins. -/
theorem checked_next {boundary : Nat × Int} (h : Observer.checked boundary ∈ (s.next e).observers) :
    Observer.checked boundary ∈ s.observers ∨ e = .observe boundary.1 boundary.2 := by
  cases e with
  | observe slot now =>
    dsimp only [next, observe] at h
    split at h
    · exact Or.inl h
    · obtain hOld | hNew := List.mem_append.mp h
      · exact Or.inl hOld
      · cases List.mem_singleton.mp hNew
        exact Or.inr rfl
  | time observer =>
    dsimp only [next, time] at h
    split at h
    · exact Or.inl ((List.mem_or_eq_of_mem_set h).resolve_right (by rintro ⟨⟩))
    · exact Or.inl h
  | announce observer =>
    dsimp only [next, announce] at h
    split at h
    · exact Or.inl ((List.mem_or_eq_of_mem_set h).resolve_right (by rintro ⟨⟩))
    · exact Or.inl h
  | arm =>
    dsimp only [next, arm] at h
    split at h
    · split at h <;> exact Or.inl h
    · exact Or.inl h
  | fire =>
    dsimp only [next, fire] at h
    split at h <;> exact Or.inl h
  | _ => exact Or.inl h

/-- The task goes by the timing that it reads, and by no other until it reads again. -/
theorem reading_next {t : SlotTiming} (h : (s.next e).phase.reading = some t) :
    e = .window ∧ t = s.tracker.timing ∨ e ≠ .window ∧ s.phase.reading = some t := by
  cases e with
  | observe slot now =>
    dsimp only [next, observe] at h
    split at h <;> exact Or.inr ⟨by rintro ⟨⟩, h⟩
  | time observer =>
    dsimp only [next, time] at h
    split at h <;> exact Or.inr ⟨by rintro ⟨⟩, h⟩
  | announce observer =>
    dsimp only [next, announce] at h
    split at h <;> exact Or.inr ⟨by rintro ⟨⟩, h⟩
  | wait target mayBeEarly => cases h
  | check =>
    dsimp only [next, check] at h
    split at h
    · split at h <;> cases h
    · cases h
  | window =>
    dsimp only [next, window] at h
    split at h
    · cases h
      exact Or.inl ⟨rfl, rfl⟩
    · cases h
  | arm =>
    refine Or.inr ⟨by rintro ⟨⟩, ?_⟩
    dsimp only [next, arm] at h
    split at h
    · rename_i timing hPhase
      rw [hPhase]
      split at h
      · cases h
      · exact h
    · exact h
  | wake => cases h
  | fire =>
    dsimp only [next, fire] at h
    split at h
    · cases h
    · exact Or.inr ⟨by rintro ⟨⟩, h⟩
  | _ => exact Or.inr ⟨by rintro ⟨⟩, h⟩

theorem target_next (hWait : ∀ target mayBeEarly, e ≠ .wait target mayBeEarly) : (s.next e).target = s.target := by
  cases e with
  | wait target mayBeEarly => exact absurd rfl (hWait target mayBeEarly)
  | observe slot now =>
    dsimp only [next, observe]
    split <;> rfl
  | time observer =>
    dsimp only [next, time]
    split <;> rfl
  | announce observer =>
    dsimp only [next, announce]
    split <;> rfl
  | arm =>
    dsimp only [next, arm]
    split
    · split <;> rfl
    · rfl
  | fire =>
    dsimp only [next, fire]
    split <;> rfl
  | _ => rfl

end

/-- The timing reaches every slot recorded before. -/
theorem reaches_of_time (run : machine.Run) {m n : Nat} (hmn : m < n) {observer : Nat} {boundary : Nat × Int}
    (hTime : run.event m = .time observer) (hChecked : (run.state m).observers[observer]? = some (.checked boundary)) :
    (run.state n).tracker.timing.Reaches boundary.1 := by
  induction n, hmn using Nat.le_induction with
  | base =>
    change ((run.state m).next (run.event m)).tracker.timing.Reaches _
    rw [hTime]
    dsimp only [next, time]
    rw [hChecked]
    exact SlotTiming.reaches_observe _ _
  | succ n hmn ih =>
    change ((run.state n).next (run.event n)).tracker.timing.Reaches _
    obtain hSame | ⟨_, boundary', -, -, hTaken⟩ := (run.state n).timing_next (run.event n)
    · rw [hSame]
      exact ih
    · rw [hTaken]
      exact ih.observe boundary'

/-- The timing that a task goes by is that of the tracker when it last read one. -/
theorem read_at (run : machine.Run) {n : Nat} {t : SlotTiming} (h : (run.state n).phase.reading = some t) :
    ∃ w < n, run.event w = .window ∧ (∀ j, w < j → j < n → run.event j ≠ .window) ∧
      (run.state w).target = (run.state n).target ∧ (run.state w).tracker.timing = t := by
  induction n with
  | zero =>
    obtain ⟨isEr, now, hStart⟩ := run.initial
    change run.start.phase.reading = some t at h
    rw [hStart] at h
    cases h
  | succ n ih =>
    have hTarget : (run.state (n + 1)).target = (run.state n).target := by
      refine target_next _ _ fun target mayBeEarly hWait => ?_
      change ((run.state n).next (run.event n)).phase.reading = some t at h
      rw [hWait] at h
      cases h
    obtain ⟨hEvent, rfl⟩ | ⟨hEvent, hReading⟩ := reading_next (run.state n) (run.event n) h
    · exact ⟨n, Nat.lt_succ_self n, hEvent, fun j hLow hHigh => by omega, hTarget.symm, rfl⟩
    · obtain ⟨w, hw, hWindow, hLast, hTarget', hTiming⟩ := ih hReading
      refine ⟨w, Nat.lt_succ_of_lt hw, hWindow, fun j hLow hHigh => ?_, hTarget'.trans hTarget.symm, hTiming⟩
      obtain hlt | rfl := Nat.lt_succ_iff_lt_or_eq.mp hHigh
      · exact hLast j hLow hlt
      · exact hEvent

/-! ## How early a send can be -/

/-- Slot `s` begins at `begins s`; the slots' lengths lie between two bounds, reports of a new slot come
at most `delay` late, and the slots reported lie within the range of a `u32`. -/
structure Cadence (begins : Nat → Int) (shortest longest delay : Nat) (run : machine.Run) : Prop where
  shortest_le : ∀ slot, begins slot + shortest ≤ begins (slot + 1)
  le_longest : ∀ slot, begins (slot + 1) ≤ begins slot + longest
  reported : ∀ n slot now, run.event n = .observe slot now → begins slot ≤ now ∧ now ≤ begins slot + delay
  ranged : ∀ n slot now n' slot' now', run.event n = .observe slot now → run.event n' = .observe slot' now' →
    slot' < slot + 2 ^ 32

variable {begins : Nat → Int} {shortest longest delay : Nat} {run : machine.Run} {n : Nat}

/-- A boundary that a call has reported before. -/
def Reported (run : machine.Run) (n : Nat) (boundary : Nat × Int) : Prop :=
  ∃ m < n, run.event m = .observe boundary.1 boundary.2

theorem Reported.succ {boundary : Nat × Int} (h : Reported run n boundary) : Reported run (n + 1) boundary := by
  obtain ⟨m, hm, hEvent⟩ := h
  exact ⟨m, Nat.lt_succ_of_lt hm, hEvent⟩

theorem reported_of_checked (run : machine.Run) {n : Nat} {boundary : Nat × Int}
    (h : Observer.checked boundary ∈ (run.state n).observers) : Reported run n boundary := by
  induction n with
  | zero =>
    obtain ⟨isEr, now, hStart⟩ := run.initial
    change _ ∈ run.start.observers at h
    rw [hStart] at h
    cases h
  | succ n ih =>
    obtain hOld | hEvent := checked_next (run.state n) (run.event n) h
    · exact (ih hOld).succ
    · exact ⟨n, Nat.lt_succ_self n, hEvent⟩

namespace Cadence

theorem begins_add (h : Cadence begins shortest longest delay run) (slot k : Nat) :
    begins slot + shortest * k ≤ begins (slot + k) ∧ begins (slot + k) ≤ begins slot + longest * k := by
  induction k with
  | zero => simp
  | succ k ih =>
    have hLow := h.shortest_le (slot + k)
    have hHigh := h.le_longest (slot + k)
    rw [← Nat.add_assoc, Nat.cast_succ]
    constructor <;> linarith

theorem sample_bounds (h : Cadence begins shortest longest delay run) {previous boundary : Nat × Int}
    (hPrevious : Reported run n previous) (hBoundary : Reported run n boundary) (hLater : boundary.1 > previous.1) :
    shortest ≤ sampleBetween previous boundary + delay ∧ sampleBetween previous boundary ≤ longest + delay := by
  obtain ⟨m, -, hm⟩ := hPrevious
  obtain ⟨m', -, hm'⟩ := hBoundary
  obtain ⟨k, hk⟩ := Nat.exists_eq_add_of_lt hLater
  have hRange := h.ranged m _ _ m' _ _ hm hm'
  have hDelta : min (boundary.1 - previous.1) (2 ^ 32 - 1) = k + 1 := by omega
  obtain ⟨hLow, hHigh⟩ := h.begins_add previous.1 (k + 1)
  rw [← Nat.add_assoc, ← hk] at hLow hHigh
  have hFrom := h.reported m _ _ hm
  have hTo := h.reported m' _ _ hm'
  unfold sampleBetween
  rw [hDelta]
  push_cast at hLow hHigh
  have hExtra : (0 : Int) ≤ delay * k := by positivity
  constructor
  · suffices hLe : shortest - delay ≤ (boundary.2 - previous.2).toNat / (k + 1) by omega
    rw [Nat.le_div_iff_mul_le (by omega : 0 < k + 1)]
    obtain hShort | hLong := Nat.le_total shortest delay
    · rw [Nat.sub_eq_zero_of_le hShort, Nat.zero_mul]
      exact Nat.zero_le _
    · obtain ⟨rest, rfl⟩ := Nat.exists_eq_add_of_le hLong
      rw [Nat.add_sub_cancel_left]
      have hBetween : ((rest * (k + 1) : Nat) : Int) ≤ boundary.2 - previous.2 := by
        push_cast at hLow ⊢
        linarith
      omega
  · refine Nat.div_le_of_le_mul ?_
    have hBetween : boundary.2 - previous.2 ≤ (((k + 1) * (longest + delay) : Nat) : Int) := by
      push_cast
      linarith
    omega

/-- A timing whose parts come from reports. -/
structure Timely (shortest longest delay : Nat) (run : machine.Run) (n : Nat) (t : SlotTiming) : Prop where
  boundary : ∀ boundary, t.lastBoundary = some boundary → Reported run n boundary
  duration : ∀ duration, t.slotDuration = some duration → shortest ≤ duration + delay ∧ duration ≤ longest + delay
  bonus : t.predictiveLeadBonus = run.start.tracker.timing.predictiveLeadBonus

variable {t : SlotTiming} {boundary : Nat × Int}

/-- An average of bounded samples is bounded: rounding down does not leave the bounds. -/
theorem Timely.take (h : Timely shortest longest delay run n t) {sample : Nat}
    (hSample : shortest ≤ sample + delay ∧ sample ≤ longest + delay) :
    Timely shortest longest delay run n (t.take sample) := by
  unfold SlotTiming.take
  split
  · refine ⟨h.boundary, ?_, h.bonus⟩
    intro duration hDuration
    cases hOld : t.slotDuration with
    | none =>
      rw [hOld] at hDuration
      cases hDuration
      exact hSample
    | some old =>
      rw [hOld] at hDuration
      cases hDuration
      have hBefore := h.duration old hOld
      change shortest ≤ (old * 3 + sample) / 4 + delay ∧ (old * 3 + sample) / 4 ≤ longest + delay
      omega
  · exact ⟨h.boundary, by rintro _ ⟨⟩, h.bonus⟩

theorem Timely.observe (hCadence : Cadence begins shortest longest delay run)
    (h : Timely shortest longest delay run n t) (hBoundary : Reported run n boundary) :
    Timely shortest longest delay run n (t.observe boundary).1 := by
  have hReported : ∀ other, some boundary = some other → Reported run n other := by
    rintro _ ⟨⟩
    exact hBoundary
  unfold SlotTiming.observe
  split
  · exact ⟨hReported, h.duration, h.bonus⟩
  · rename_i previous hPrevious
    split
    · rename_i hLater
      have hTaken := h.take (hCadence.sample_bounds (h.boundary _ hPrevious) hBoundary hLater)
      exact ⟨hReported, hTaken.duration, hTaken.bonus⟩
    · exact h

/-- The window opens at most this long before the slot begins. -/
theorem Timely.earlyWindow (hCadence : Cadence begins shortest longest delay run)
    (h : Timely shortest longest delay run n t) {target : Nat} {deadline expires : Int}
    (hWindow : t.earlyWindow target = some (deadline, expires)) :
    ∃ slot now, t.lastBoundary = some (slot, now) ∧ slot ≤ target ∧
      begins target ≤ deadline + EARLY_SEND_MAX + run.start.tracker.timing.predictiveLeadBonus +
        (longest - shortest + delay) * (target - slot) := by
  obtain ⟨slot, now, duration, hBoundary, hDuration, hTarget, hDeadline⟩ := SlotTiming.earlyWindow_eq_some hWindow
  refine ⟨slot, now, hBoundary, hTarget, ?_⟩
  obtain ⟨m, -, hm⟩ := h.boundary _ hBoundary
  have hSeen : begins slot ≤ now := (hCadence.reported m slot now hm).1
  obtain ⟨k, rfl⟩ := Nat.exists_eq_add_of_le hTarget
  have hBegins := (hCadence.begins_add slot k).2
  have hShortest := (h.duration duration hDuration).1
  have hLead : earlySendLead duration ≤ EARLY_SEND_MAX := Nat.min_le_right _ _
  have hBonus : (if duration ≥ NON_ER_MIN_SLOT_DURATION then t.predictiveLeadBonus else 0) ≤
      run.start.tracker.timing.predictiveLeadBonus := by
    rw [← h.bonus]
    split
    · exact Nat.le_refl _
    · exact Nat.zero_le _
  -- the predicted beginning is too early by the error of one slot for each slot ahead
  have hAhead : (longest : Int) * k ≤ duration * k + (longest - shortest + delay) * k := by
    have hStep : (0 : Int) ≤ (duration + delay - shortest) * k := by
      refine mul_nonneg ?_ (Nat.cast_nonneg k)
      omega
    linarith
  change deadline = _ at hDeadline
  generalize (if duration ≥ NON_ER_MIN_SLOT_DURATION then t.predictiveLeadBonus else 0) = bonus at hBonus hDeadline
  rw [Nat.add_sub_cancel_left] at hDeadline
  push_cast at hDeadline ⊢
  rw [add_sub_cancel_left (slot : Int) k, hDeadline]
  omega

theorem timely (hCadence : Cadence begins shortest longest delay run) (n : Nat) :
    Timely shortest longest delay run n (run.state n).tracker.timing := by
  induction n with
  | zero =>
    obtain ⟨isEr, now, hStart⟩ := run.initial
    refine ⟨?_, ?_, rfl⟩
    · change ∀ boundary, run.start.tracker.timing.lastBoundary = _ → _
      rw [hStart]
      rintro _ ⟨⟩
    · change ∀ duration, run.start.tracker.timing.slotDuration = _ → _
      rw [hStart]
      rintro _ ⟨⟩
  | succ n ih =>
    have hLater : Timely shortest longest delay run (n + 1) (run.state n).tracker.timing :=
      ⟨fun boundary hBoundary => (ih.boundary boundary hBoundary).succ, ih.duration, ih.bonus⟩
    change Timely shortest longest delay run (n + 1) ((run.state n).next (run.event n)).tracker.timing
    obtain hSame | ⟨_, boundary, -, hChecked, hTaken⟩ := (run.state n).timing_next (run.event n)
    · rw [hSame]
      exact hLater
    · rw [hTaken]
      exact hLater.observe hCadence (reported_of_checked run (List.mem_of_getElem? hChecked)).succ

end Cadence

end Slots

/-- If slots have lengths between two bounds, reports of a new slot are at most `delay` late and the slots
reported lie within the range of a `u32`, then a task that is let through before its slot is early by at
most 20 ms, the bonus of the base layer (0 on a rollup, else 400 ms), and the error of the estimate for
each slot since the boundary that it read its window from. That boundary is the highest one recorded
until then. -/
theorem early_send_bounded {begins : Nat → Int} {shortest longest delay : Nat} (run : Slots.machine.Run)
    (hCadence : Slots.Cadence begins shortest longest delay run) {n : Nat} (hFire : run.event n = .fire) :
    ∃ w < n, run.event w = .window ∧ (∀ j, w < j → j < n → run.event j ≠ .window) ∧
      (run.state w).target = (run.state n).target ∧
      ∃ slot now, (run.state w).tracker.timing.lastBoundary = some (slot, now) ∧
        (∃ m < w, run.event m = .observe slot now) ∧
        (∀ m < w, ∀ observer boundary, run.event m = .time observer →
          (run.state m).observers[observer]? = some (.checked boundary) → boundary.1 ≤ slot) ∧
        slot ≤ (run.state n).target ∧
        begins (run.state n).target ≤ (run.state n).clock + 20000000 + run.start.tracker.timing.predictiveLeadBonus +
          (longest - shortest + delay) * ((run.state n).target - slot) := by
  have hDue : (run.state n).due = true := by
    have hAllowed := run.allowed_at n
    rw [hFire] at hAllowed
    exact hAllowed
  unfold Slots.due at hDue
  split at hDue
  · rename_i timing hPhase
    cases hWindow : timing.earlyWindow (run.state n).target with
    | none =>
      rw [hWindow] at hDue
      cases hDue
    | some window =>
      rw [hWindow] at hDue
      have hPassed : window.1 ≤ (run.state n).clock := of_decide_eq_true hDue
      obtain ⟨w, hw, hEvent, hLast, hTarget, rfl⟩ := Slots.read_at run (t := timing) (by rw [hPhase]; rfl)
      have hTimely := Slots.Cadence.timely hCadence w
      obtain ⟨slot, now, hBoundary, hSlot, hBound⟩ := hTimely.earlyWindow hCadence hWindow
      refine ⟨w, hw, hEvent, hLast, hTarget, slot, now, hBoundary, hTimely.boundary _ hBoundary, ?_, hSlot, ?_⟩
      · intro m hmw observer boundary hTime hChecked
        obtain ⟨highest, hHighest, hLe⟩ := Slots.reaches_of_time run hmw hTime hChecked
        rw [hBoundary] at hHighest
        cases hHighest
        exact hLe
      · change _ ≤ window.1 + (20000000 : Nat) + _ + _ at hBound
        push_cast at hBound
        linarith
  · cases hDue

namespace Slots

/-- Four slots of 400 ms are reported on time; the task for slot 5 is let through at once. -/
def regular : List Event :=
  [.advance 400000000, .observe 1 400000000, .time 0, .announce 0, .advance 800000000, .observe 2 800000000, .time 1,
    .announce 1, .advance 1200000000, .observe 3 1200000000, .time 2, .announce 2, .advance 1600000000,
    .observe 4 1600000000, .time 3, .announce 3, .wait 5 true, .check, .window, .arm, .fire]

theorem regular_allowed : ∀ n ≤ regular.length,
    Allowed (machine.trace (.begin false 0) (fun n => regular.getD n (.advance 1600000000)) n)
      (regular.getD n (.advance 1600000000)) := by
  decide +kernel

theorem regular_still :
    machine.next (machine.trace (.begin false 0) (fun n => regular.getD n (.advance 1600000000)) regular.length)
      (.advance 1600000000) =
    machine.trace (.begin false 0) (fun n => regular.getD n (.advance 1600000000)) regular.length := by
  decide +kernel

def regularly : machine.Run :=
  .ofList _ (.begin false 0) regular (.advance 1600000000) ⟨false, 0, rfl⟩ regular_allowed regular_still

def punctual : Event → Bool
  | .observe slot now => now = 400000000 * slot ∧ slot < 2 ^ 32
  | _ => true

theorem regularly_reports {n slot : Nat} {now : Int} (h : regularly.event n = .observe slot now) :
    now = 400000000 * slot ∧ slot < 2 ^ 32 := by
  have hAll : ∀ e ∈ regular, punctual e = true := by decide +kernel
  have hPunctual : punctual (regular.getD n (.advance 1600000000)) = true := by
    rw [List.getD_eq_getElem?_getD]
    cases hEvent : regular[n]? with
    | none => rfl
    | some e => exact hAll e (List.mem_of_getElem? hEvent)
  rw [show regular.getD n (.advance 1600000000) = .observe slot now from h] at hPunctual
  exact of_decide_eq_true hPunctual

theorem regularly_cadence : Cadence (fun slot => 400000000 * slot) 400000000 400000000 10000000 regularly where
  shortest_le slot := by
    push_cast
    linarith
  le_longest slot := by
    push_cast
    linarith
  reported n slot now h := by
    obtain ⟨rfl, -⟩ := regularly_reports h
    exact ⟨le_refl _, by simp⟩
  ranged n slot now n' slot' now' _ h' := by
    obtain ⟨-, hRange⟩ := regularly_reports h'
    omega

end Slots

/-- The first attempt for slot 5 goes out 400 ms before the slot, in the bonus of the base layer. The
window was read after the report of slot 4, so the delay allowed for a report counts once. -/
theorem early_send_bounded_regular : Slots.regularly.event 20 = .fire ∧ (Slots.regularly.state 20).clock = 1600000000 ∧
    (Slots.regularly.state 18).tracker.timing.lastBoundary = some (4, 1600000000) ∧
    400000000 * ((Slots.regularly.state 20).target : Int) ≤ (Slots.regularly.state 20).clock + 20000000 +
      NON_ER_EARLY_SEND_BONUS + 10000000 * ((Slots.regularly.state 20).target - 4) := by
  have hRun : (Slots.regularly.state 20).clock = 1600000000 ∧
      (Slots.regularly.state 18).tracker.timing.lastBoundary = some (4, 1600000000) ∧
      ∀ w < 20, Slots.regularly.event w = .window → w = 18 := by decide +kernel
  obtain ⟨hClock, hLast, hOnce⟩ := hRun
  obtain ⟨w, hw, hWindow, -, -, slot, now, hBoundary, -, -, -, hBound⟩ :=
    early_send_bounded Slots.regularly Slots.regularly_cadence (n := 20) rfl
  obtain rfl := hOnce w hw hWindow
  rw [hLast] at hBoundary
  cases hBoundary
  exact ⟨rfl, hClock, hLast, hBound⟩

end SolanaVrf
