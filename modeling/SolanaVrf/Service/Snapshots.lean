import SolanaVrf.Lib.Transition
import Mathlib.Data.List.Count

/-! # Snapshots after a connection

`OracleClient::run` starts three kinds of parties that share the flag `scan_queued` and the
mutex `scan_lock`: the loop that connects the update source, the snapshot tasks this loop
spawns, and the periodic scan. Every access to the flag or the mutex and every begin of a
fetch is one event; in between the parties interleave freely. The scan at startup is over
before any of them exists.
-/

namespace SolanaVrf
set_option autoImplicit false

open Transition

namespace Snapshots

/-- The loop that connects the update source: before the source is there, with a new source, after a
swap that found the flag down, and at its stream. -/
inductive Loop
  | connecting
  | connected
  | claimed
  | streaming
deriving DecidableEq

/-- The connection last made still has its swap or its spawn to come. -/
def Loop.handling : Loop → Bool
  | connected => true
  | claimed => true
  | _ => false

/-- The swap has put the flag up for a task that is not spawned yet. -/
def Loop.spawning : Loop → Bool
  | claimed => true
  | _ => false

/-- A snapshot task, from its spawn to the drop of its guard. -/
inductive Task
  | waiting
  | locked
  | cleared
  | fetching
  | finished
deriving DecidableEq

namespace Task

def flagged : Task → Bool
  | waiting => true
  | locked => true
  | _ => false

def pending : Task → Bool
  | waiting => true
  | locked => true
  | cleared => true
  | _ => false

def running : Task → Bool
  | locked => true
  | cleared => true
  | fetching => true
  | _ => false

end Task

inductive Periodic
  | ticking
  | waiting
  | locked
  | fetching
deriving DecidableEq

def Periodic.running : Periodic → Bool
  | locked => true
  | fetching => true
  | _ => false

/-- What the history records: a source that has connected, a scan whose fetch begins. -/
inductive Mark
  | connected
  | fetched
deriving DecidableEq

inductive Event
  | fail
  | connect
  | swap
  | spawn
  | update
  | disconnect
  | tick
  | lockPeriodic
  | fetchPeriodic
  | finishPeriodic
  | lock (task : Nat)
  | clear (task : Nat)
  | fetch (task : Nat)
  | finish (task : Nat)

end Snapshots

open Snapshots

/-- The shared flag and mutex, where each party is, and the history, latest first. -/
structure Snapshots where
  scanQueued : Bool
  scanLocked : Bool
  loop : Loop
  periodic : Periodic
  tasks : List Task
  history : List Mark
deriving DecidableEq

namespace Snapshots

def next (s : Snapshots) : Event → Snapshots
  -- `create_update_source` returns
  | .fail => s
  | .connect => { s with loop := .connected, history := .connected :: s.history }
  -- `scan_queued.swap(true)`
  | .swap => { s with scanQueued := true, loop := if s.scanQueued then .streaming else .claimed }
  | .spawn => { s with loop := .streaming, tasks := s.tasks ++ [.waiting] }
  | .update => s
  | .disconnect => { s with loop := .connecting }
  | .tick => { s with periodic := .waiting }
  | .lockPeriodic => { s with scanLocked := true, periodic := .locked }
  | .fetchPeriodic => { s with periodic := .fetching, history := .fetched :: s.history }
  | .finishPeriodic => { s with scanLocked := false, periodic := .ticking }
  | .lock task => { s with scanLocked := true, tasks := s.tasks.set task .locked }
  -- `scan_queued.store(false)`
  | .clear task => { s with scanQueued := false, tasks := s.tasks.set task .cleared }
  | .fetch task => { s with tasks := s.tasks.set task .fetching, history := .fetched :: s.history }
  | .finish task => { s with scanLocked := false, tasks := s.tasks.set task .finished }

/-- Each party goes through its code in order; whoever locks the mutex finds it free. -/
def Allowed (s : Snapshots) : Event → Prop
  | .fail => s.loop = .connecting
  | .connect => s.loop = .connecting
  | .swap => s.loop = .connected
  | .spawn => s.loop = .claimed
  | .update => s.loop = .streaming
  | .disconnect => s.loop = .streaming
  | .tick => s.periodic = .ticking
  | .lockPeriodic => s.periodic = .waiting ∧ s.scanLocked = false
  | .fetchPeriodic => s.periodic = .locked
  | .finishPeriodic => s.periodic = .fetching
  | .lock task => s.tasks[task]? = some .waiting ∧ s.scanLocked = false
  | .clear task => s.tasks[task]? = some .locked
  | .fetch task => s.tasks[task]? = some .cleared
  | .finish task => s.tasks[task]? = some .fetching

instance decidableAllowed (s : Snapshots) : (e : Event) → Decidable (s.Allowed e)
  | .fail | .connect | .swap | .spawn | .update | .disconnect => inferInstanceAs (Decidable (_ = _))
  | .tick | .fetchPeriodic | .finishPeriodic => inferInstanceAs (Decidable (_ = _))
  | .clear _ | .fetch _ | .finish _ => inferInstanceAs (Decidable (_ = _))
  | .lockPeriodic | .lock _ => inferInstanceAs (Decidable (_ ∧ _))

def initial : Snapshots := ⟨false, false, .connecting, .ticking, [], []⟩

def machine : Machine Snapshots Event where
  initial s := s = initial
  allowed := Allowed
  next := next

/-! ## Flag and mutex -/

/-- The flag is up for the task that has yet to lower it, or for the one about to be spawned. -/
def Flagged (s : Snapshots) : Prop :=
  s.tasks.countP Task.flagged + s.loop.spawning.toNat = s.scanQueued.toNat

/-- The mutex is held by the scan that runs. -/
def Locked (s : Snapshots) : Prop :=
  s.tasks.countP Task.running + s.periodic.running.toNat = s.scanLocked.toNat

theorem Flagged.next {s : Snapshots} {e : Event} (h : s.Flagged) (hAllowed : s.Allowed e) : (s.next e).Flagged := by
  unfold Flagged at h ⊢
  cases e with
  | swap =>
    rw [show s.loop = .connected from hAllowed] at h
    cases hQueued : s.scanQueued
    · simpa [Snapshots.next, hQueued, Loop.spawning] using h
    · simpa [Snapshots.next, hQueued, Loop.spawning] using h
  | spawn =>
    rw [show s.loop = .claimed from hAllowed] at h
    simpa [Snapshots.next, List.countP_append, Task.flagged, Loop.spawning] using h
  | clear task =>
    have hSet : (s.tasks.set task .cleared).countP Task.flagged + 1 = s.tasks.countP Task.flagged :=
      countP_set _ _ hAllowed
    have hUp := s.scanQueued.toNat_le
    dsimp only [Snapshots.next, Bool.toNat_false]
    omega
  | lock task =>
    dsimp only [Snapshots.next]
    rw [countP_set_same Task.flagged .locked hAllowed.1 rfl]
    exact h
  | fetch task =>
    dsimp only [Snapshots.next]
    rw [countP_set_same Task.flagged .fetching hAllowed rfl]
    exact h
  | finish task =>
    dsimp only [Snapshots.next]
    rw [countP_set_same Task.flagged .finished hAllowed rfl]
    exact h
  | connect =>
    rw [show s.loop = .connecting from hAllowed] at h
    exact h
  | disconnect =>
    rw [show s.loop = .streaming from hAllowed] at h
    exact h
  | fail | update | tick | lockPeriodic | fetchPeriodic | finishPeriodic => exact h

theorem Locked.next {s : Snapshots} {e : Event} (h : s.Locked) (hAllowed : s.Allowed e) : (s.next e).Locked := by
  unfold Locked at h ⊢
  cases e with
  | spawn => simpa [Snapshots.next, List.countP_append, Task.running] using h
  | lock task =>
    have hSet : (s.tasks.set task .locked).countP Task.running + 0 =
      s.tasks.countP Task.running + 1 := countP_set _ _ hAllowed.1
    rw [hAllowed.2] at h
    dsimp only [Snapshots.next, Bool.toNat_false, Bool.toNat_true] at h ⊢
    omega
  | clear task =>
    dsimp only [Snapshots.next]
    rw [countP_set_same Task.running .cleared hAllowed rfl]
    exact h
  | fetch task =>
    dsimp only [Snapshots.next]
    rw [countP_set_same Task.running .fetching hAllowed rfl]
    exact h
  | finish task =>
    have hSet : (s.tasks.set task .finished).countP Task.running + 1 =
      s.tasks.countP Task.running := countP_set _ _ hAllowed
    have hHeld := s.scanLocked.toNat_le
    dsimp only [Snapshots.next, Bool.toNat_false]
    omega
  | tick =>
    rw [show s.periodic = .ticking from hAllowed] at h
    exact h
  | lockPeriodic =>
    rw [hAllowed.1, hAllowed.2] at h
    exact congrArg Nat.succ h
  | fetchPeriodic =>
    rw [show s.periodic = .locked from hAllowed] at h
    exact h
  | finishPeriodic =>
    have hHeld := s.scanLocked.toNat_le
    rw [show s.periodic = .fetching from hAllowed] at h
    change _ + 1 = _ at h
    change s.tasks.countP Task.running + 0 = 0
    omega
  | fail | connect | swap | update | disconnect => exact h

/-! ## Connections and the scans after them -/

/-- The loop is done with the connection that these marks came after: it has moved on to the stream,
or there has been a connection since. -/
def Past (s : Snapshots) (later : List Mark) : Prop :=
  s.loop.handling = true → Mark.connected ∈ later

/-- Every past connection has a fetch that began after it, or a task with its fetch to come. -/
def Covered (s : Snapshots) : Prop :=
  ∀ later earlier, s.history = later ++ .connected :: earlier → s.Past later →
    Mark.fetched ∈ later ∨ 0 < s.tasks.countP Task.pending

theorem Covered.of_fetched {s : Snapshots} {history : List Mark} (h : s.history = .fetched :: history) : s.Covered := by
  intro later earlier hHistory _
  rw [h] at hHistory
  cases later with
  | nil => cases hHistory
  | cons m later =>
    obtain ⟨rfl, -⟩ := List.cons.inj hHistory
    exact Or.inl List.mem_cons_self

theorem Covered.of_pending {s : Snapshots} (h : 0 < s.tasks.countP Task.pending) : s.Covered :=
  fun _ _ _ _ => Or.inr h

theorem Covered.congr {s s' : Snapshots} (h : s.Covered) (hHistory : s'.history = s.history)
    (hLoop : s'.loop.handling = s.loop.handling)
    (hCount : s'.tasks.countP Task.pending = s.tasks.countP Task.pending) : s'.Covered := by
  intro later earlier hSplit hPast
  unfold Past at hPast
  rw [hLoop] at hPast
  rw [hCount]
  exact h later earlier (hHistory.symm.trans hSplit) hPast

theorem pending_of_flagged {tasks : List Task} (h : 0 < tasks.countP Task.flagged) :
    0 < tasks.countP Task.pending := by
  refine Nat.lt_of_lt_of_le h (List.countP_mono_left fun t _ hFlagged => ?_)
  cases t with
  | waiting | locked => rfl
  | cleared | fetching | finished => cases hFlagged

theorem Covered.next {s : Snapshots} {e : Event} (h : s.Covered) (hFlagged : s.Flagged) (hAllowed : s.Allowed e) :
    (s.next e).Covered := by
  cases e with
  | connect =>
    -- the new connection is not past yet, and every older one was
    have hLoop : s.loop = .connecting := hAllowed
    intro later earlier hHistory hPast
    cases later with
    | nil => cases hPast rfl
    | cons m later =>
      obtain ⟨rfl, hOlder⟩ := List.cons.inj hHistory
      have hOld : s.Past later := by
        intro hHandling
        rw [hLoop] at hHandling
        cases hHandling
      exact (h later earlier hOlder hOld).imp_left (List.mem_cons_of_mem _)
  | swap =>
    have hLoop : s.loop = .connected := hAllowed
    unfold Flagged at hFlagged
    rw [hLoop] at hFlagged
    cases hQueued : s.scanQueued with
    | false =>
      refine h.congr rfl ?_ rfl
      simp [Snapshots.next, hQueued, hLoop, Loop.handling]
    | true =>
      -- the flag was up for a task that has not lowered it, so its fetch is to come
      rw [hQueued] at hFlagged
      exact Covered.of_pending (pending_of_flagged (Nat.lt_of_lt_of_eq Nat.one_pos hFlagged.symm))
  | spawn =>
    refine Covered.of_pending ?_
    simp [Snapshots.next, List.countP_append, Task.pending]
  | disconnect =>
    have hLoop : s.loop = .streaming := hAllowed
    refine h.congr rfl ?_ rfl
    rw [hLoop]
    rfl
  | fetchPeriodic => exact Covered.of_fetched rfl
  | fetch task => exact Covered.of_fetched rfl
  | lock task => exact h.congr rfl rfl (countP_set_same _ _ hAllowed.1 rfl)
  | clear task => exact h.congr rfl rfl (countP_set_same _ _ hAllowed rfl)
  | finish task => exact h.congr rfl rfl (countP_set_same _ _ hAllowed rfl)
  | fail | update | tick | lockPeriodic | finishPeriodic => exact h

theorem invariants (run : machine.Run) (n : Nat) :
    (run.state n).Flagged ∧ (run.state n).Locked ∧ (run.state n).Covered := by
  refine run.invariant (P := fun s => s.Flagged ∧ s.Locked ∧ s.Covered) ?_ ?_ n
  · rintro s rfl
    refine ⟨rfl, rfl, ?_⟩
    intro later earlier hHistory _
    cases later <;> cases hHistory
  · rintro s e hAllowed ⟨hFlagged, hLocked, hCovered⟩
    exact ⟨hFlagged.next hAllowed, hLocked.next hAllowed, hCovered.next hFlagged hAllowed⟩

end Snapshots

/-- In every state of every run: each past connection is followed by a scan whose fetch began after it
or a spawned task has its fetch to come; at most one task has yet to lower the flag, which is then up;
and at most one scan runs. -/
theorem every_connection_gets_snapshot (run : Snapshots.machine.Run) (n : Nat) :
    (∀ later earlier, (run.state n).history = later ++ .connected :: earlier → (run.state n).Past later →
      Mark.fetched ∈ later ∨ ∃ t ∈ (run.state n).tasks, t.pending = true) ∧
    (run.state n).tasks.countP Task.flagged ≤ 1 ∧
    (∀ t ∈ (run.state n).tasks, t.flagged = true → (run.state n).scanQueued = true) ∧
    (run.state n).tasks.countP Task.running + (run.state n).periodic.running.toNat ≤ 1 := by
  obtain ⟨hFlagged, hLocked, hCovered⟩ := Snapshots.invariants run n
  unfold Flagged at hFlagged
  have hUp := (run.state n).scanQueued.toNat_le
  refine ⟨?_, ?_, ?_, ?_⟩
  · intro later earlier hHistory hPast
    exact (hCovered later earlier hHistory hPast).imp_right List.countP_pos_iff.mp
  · omega
  · intro t ht hFlag
    have hSome : 0 < (run.state n).tasks.countP Task.flagged := List.countP_pos_iff.mpr ⟨t, ht, hFlag⟩
    cases hQueued : (run.state n).scanQueued with
    | true => rfl
    | false =>
      rw [hQueued, Bool.toNat_false] at hFlagged
      omega
  · exact Nat.le_trans (Nat.le_of_eq hLocked) (Bool.toNat_le _)

namespace Snapshots

/-- The source drops while the first snapshot fetches, and the periodic scan waits for the lock too. -/
def reconnects : List Event :=
  [.connect, .swap, .spawn, .lock 0, .clear 0, .fetch 0, .disconnect, .fail, .connect, .swap, .spawn, .tick]

theorem reconnects_allowed : ∀ n ≤ reconnects.length,
    Allowed (machine.trace initial (fun n => reconnects.getD n .update) n) (reconnects.getD n .update) := by
  decide

def reconnecting : machine.Run := .ofList _ initial reconnects .update rfl reconnects_allowed rfl

end Snapshots

/-- The second connection is not covered by the fetch that began before it, and so a second task waits. -/
theorem every_connection_gets_snapshot_again :
    (Snapshots.reconnecting.state 12).history = [.connected, .fetched, .connected] ∧
    (Snapshots.reconnecting.state 12).Past [] ∧
    ∃ t ∈ (Snapshots.reconnecting.state 12).tasks, t.pending = true := by
  have hHistory : (Snapshots.reconnecting.state 12).history = [.connected, .fetched, .connected] := by decide
  have hPast : (Snapshots.reconnecting.state 12).Past [] := by
    unfold Past
    decide
  obtain ⟨hConnections, -⟩ := every_connection_gets_snapshot Snapshots.reconnecting 12
  obtain hFetched | hPending := hConnections [] _ hHistory hPast
  · cases hFetched
  · exact ⟨hHistory, hPast, hPending⟩

end SolanaVrf
