import SolanaVrf.Service.Scheduler
import SolanaVrf.Chain.World

/-! # What the scheduler keeps track of

A reservation always has a task working on it: the sections that end a task also drop the
reservation of its id. The converse, that a task in its send loop keeps its handle and its
reservation, is lost when a cleanup meets a newer task of the same id, and only then.
-/

namespace SolanaVrf
set_option autoImplicit false

open Pod Nested Transition

namespace Scheduler

def Task.Serves (t : Task) (queue : Pubkey) (id : Bytes 32) : Prop := t.queue = queue ∧ t.item.id = id

namespace Tracking

variable {b : Tracking} {handle i : Nat} {t : Task} {queue : Pubkey} {id : Bytes 32} {v : View}
  {currentIds : List (Bytes 32)} {item : QueueItem}

/-! ## One section -/

theorem abort_of_ne (h : i ≠ handle) : (b.abort handle).tasks[i]? = b.tasks[i]? := by
  unfold abort
  exact List.getElem?_modify_ne _ _ h.symm

theorem abort_self (h : b.tasks[handle]? = some t) :
    (b.abort handle).tasks[handle]? = some (if t.progress.live then { t with progress := .aborted } else t) := by
  rw [abort, List.getElem?_modify_eq, h]
  rfl

/-- What cancelling one id amounts to: nothing, or its entries go and the listed task is aborted. -/
theorem cancel_cases (v : View) (currentIds : List (Bytes 32)) (b : Tracking) (id : Bytes 32) :
    b.cancel v currentIds id = b ∧
        (id ∈ currentIds ∨ v.predates (b.inflightRequests.lookup v.queue id) = true) ∨
      id ∉ currentIds ∧ v.predates (b.inflightRequests.lookup v.queue id) = false ∧
      (b.cancel v currentIds id).inflightRequests = b.inflightRequests.erase v.queue id ∧
      (b.activeTasks.lookup v.queue id = none ∧ (b.cancel v currentIds id).activeTasks = b.activeTasks ∧
          (b.cancel v currentIds id).tasks = b.tasks ∨
        ∃ handle, b.activeTasks.lookup v.queue id = some handle ∧
          (b.cancel v currentIds id).activeTasks = b.activeTasks.erase v.queue id ∧
          (b.cancel v currentIds id).tasks = (b.abort handle).tasks) := by
  unfold cancel
  split
  · rename_i hCurrent
    exact Or.inl ⟨rfl, Or.inl hCurrent⟩
  · rename_i hAbsent
    split
    · rename_i hPredates
      exact Or.inl ⟨rfl, Or.inr hPredates⟩
    · rename_i hLater
      refine Or.inr ⟨hAbsent, Bool.not_eq_true _ ▸ hLater, ?_⟩
      unfold abortActive
      split
      · rename_i handle hListed
        exact ⟨rfl, Or.inr ⟨handle, hListed, rfl, rfl⟩⟩
      · rename_i hUnlisted
        exact ⟨rfl, Or.inl ⟨hUnlisted, rfl, rfl⟩⟩

theorem cancel_task (v : View) (currentIds : List (Bytes 32)) (id : Bytes 32) (h : b.tasks[i]? = some t) :
    (b.cancel v currentIds id).tasks[i]? = some t ∨
      t.progress.live = true ∧ id ∉ currentIds ∧ v.predates (b.inflightRequests.lookup v.queue id) = false ∧
        b.activeTasks.lookup v.queue id = some i ∧
        (b.cancel v currentIds id).tasks[i]? = some { t with progress := .aborted } := by
  obtain ⟨hSame, -⟩ | ⟨hAbsent, hLater, -, ⟨-, -, hTasks⟩ | ⟨handle, hListed, -, hTasks⟩⟩ :=
    cancel_cases v currentIds b id
  · rw [hSame]
    exact Or.inl h
  · rw [hTasks]
    exact Or.inl h
  · rw [hTasks]
    by_cases hi : i = handle
    · subst hi
      rw [abort_self h]
      cases hLive : t.progress.live with
      | false => exact Or.inl rfl
      | true => exact Or.inr ⟨rfl, hAbsent, hLater, hListed, rfl⟩
    · rw [abort_of_ne hi]
      exact Or.inl h

theorem cancel_active {queue : Pubkey} {id' : Bytes 32}
    (h : (b.cancel v currentIds id).activeTasks.lookup queue id' = some handle) :
    b.activeTasks.lookup queue id' = some handle := by
  obtain ⟨hSame, -⟩ | ⟨-, -, -, ⟨-, hActive, -⟩ | ⟨_, -, hActive, -⟩⟩ := cancel_cases v currentIds b id
  · rwa [hSame] at h
  · rwa [hActive] at h
  · rw [hActive] at h
    exact (Table.of_lookup_erase h).2

theorem diff_preserves {items : List QueueItem} {P : Tracking → Prop}
    (hCancel : ∀ b id, P b → P (b.cancel v (items.map QueueItem.id) id)) (h : P b) : P (b.diff v items) := by
  unfold diff
  generalize b.inflightRequests.keys v.queue = ids
  induction ids generalizing b with
  | nil => exact h
  | cons id ids ih => exact ih (hCancel b id h)

theorem reserve_of_some {slot : UInt64} (h : b.inflightRequests.lookup queue item.id = some slot) :
    b.reserve queue item = b := by
  rw [reserve, h]
  rfl

theorem reserve_of_none (h : b.inflightRequests.lookup queue item.id = none) :
    b.reserve queue item =
      ⟨b.inflightRequests.insert queue item.id item.slot, b.activeTasks.insert queue item.id b.tasks.length,
        b.tasks ++ [⟨queue, item, .running⟩]⟩ := by
  rw [reserve, h]
  rfl

theorem lt_of_task (h : b.tasks[i]? = some t) : i < b.tasks.length := by
  by_contra hGe
  rw [List.getElem?_eq_none (Nat.le_of_not_lt hGe)] at h
  cases h

theorem task_set (h : b.tasks[handle]? = some t) (t' : Task) :
    (b.tasks.set handle t')[i]? = if i = handle then some t' else b.tasks[i]? := by
  split
  · rename_i hi
    rw [hi, List.getElem?_set_self (lt_of_task h)]
  · rename_i hi
    rw [List.getElem?_set_ne (Ne.symm hi)]

theorem task_moved (h : b.tasks[handle]? = some t) (progress : Progress) {u : Task} (hTask : b.tasks[i]? = some u) :
    ∃ u', (b.tasks.set handle { t with progress := progress })[i]? = some u' ∧
      u'.queue = u.queue ∧ u'.item = u.item ∧ (i ≠ handle → u' = u) ∧ (i = handle → u'.progress = progress) := by
  rw [task_set h]
  split
  · rename_i hi
    subst hi
    rw [h] at hTask
    cases hTask
    exact ⟨_, rfl, rfl, rfl, fun hne => absurd rfl hne, fun _ => rfl⟩
  · rename_i hi
    exact ⟨u, hTask, rfl, rfl, fun _ => rfl, fun hi' => absurd hi' hi⟩

end Tracking

theorem Guard.of_isDiffing {g : Guard} (h : g.isDiffing = true) : ∃ v items, g = .diffing v items := by
  cases g with
  | diffing v items => exact ⟨v, items, rfl⟩
  | _ => cases h

theorem Guard.of_isHandling {g : Guard} (h : g.isHandling = true) : ∃ v rest, g = .handling v rest := by
  cases g with
  | handling v rest => exact ⟨v, rest, rfl⟩
  | _ => cases h

theorem receive_tracking (env : Environment) (oracle : Pubkey) (v : View) (s : Scheduler) :
    (s.receive env oracle v).tracking = s.tracking := by
  unfold receive
  split
  · split
    · rfl
    · dsimp only
      split <;> rfl
  · rfl

theorem next_tracking {env : Environment} {oracle : Pubkey} {s : Scheduler} {e : Event}
    {P : Tracking → Prop} (hAllowed : s.Allowed e)
    (hCancel : ∀ v items, s.guard = .diffing v items → ∀ b id, P b → P (b.cancel v (items.map QueueItem.id) id))
    (hReserve : ∀ v item rest, s.guard = .handling v (item :: rest) → P s.tracking →
      P (s.tracking.reserve v.queue item))
    (hUnlist : ∀ handle t, e = .unlist handle → s.tracking.tasks[handle]? = some t → t.progress = .running →
      P s.tracking → P (s.tracking.unlist handle t))
    (hClear : ∀ handle t, e = .clear handle → s.tracking.tasks[handle]? = some t → t.progress = .unlisted →
      P s.tracking → P (s.tracking.clear handle t))
    (h : P s.tracking) : P (s.next env oracle e).tracking := by
  cases e with
  | receive v =>
    rw [next, receive_tracking]
    exact h
  | diff =>
    obtain ⟨v, items, hGuard⟩ := Guard.of_isDiffing hAllowed
    simp only [next, hGuard]
    exact Tracking.diff_preserves (hCancel v items hGuard) h
  | handle =>
    obtain ⟨v, rest, hGuard⟩ := Guard.of_isHandling hAllowed
    cases rest with
    | nil =>
      simp only [next, hGuard]
      exact h
    | cons item rest =>
      simp only [next, hGuard]
      exact hReserve v item rest hGuard h
  | attempt handle => exact h
  | unlist handle =>
    obtain ⟨t, hTask, hRunning⟩ := Option.map_eq_some_iff.mp hAllowed
    simp only [next, hTask]
    exact hUnlist handle t rfl hTask hRunning h
  | clear handle =>
    obtain ⟨t, hTask, hUnlisted⟩ := Option.map_eq_some_iff.mp hAllowed
    simp only [next, hTask]
    exact hClear handle t rfl hTask hUnlisted h

/-! ## Every reservation is attended -/

structure Attended (b : Tracking) : Prop where
  listed : ∀ queue id handle, b.activeTasks.lookup queue id = some handle →
    ∃ t, b.tasks[handle]? = some t ∧ t.Serves queue id
  reserved : ∀ queue id slot, b.inflightRequests.lookup queue id = some slot →
    ∃ (handle : Nat) (t : Task), b.tasks[handle]? = some t ∧ t.Serves queue id ∧ t.progress.live = true

namespace Attended

variable {b : Tracking} {handle : Nat} {t : Task}

theorem cancel (h : Attended b) (v : View) (currentIds : List (Bytes 32)) (id : Bytes 32) :
    Attended (b.cancel v currentIds id) := by
  constructor
  · intro queue id' handle hLookup
    obtain ⟨t, hTask, hServes⟩ := h.listed queue id' handle (Tracking.cancel_active hLookup)
    obtain hSame | ⟨-, -, -, -, hAborted⟩ := Tracking.cancel_task v currentIds id hTask
    · exact ⟨t, hSame, hServes⟩
    · exact ⟨_, hAborted, hServes⟩
  · intro queue id' slot hLookup
    obtain ⟨hSame, -⟩ | ⟨-, -, hInflight, -⟩ := Tracking.cancel_cases v currentIds b id
    · rw [hSame] at hLookup ⊢
      exact h.reserved queue id' slot hLookup
    · rw [hInflight] at hLookup
      obtain ⟨hOther, hLookup⟩ := Table.of_lookup_erase hLookup
      obtain ⟨handle, t, hTask, hServes, hLive⟩ := h.reserved queue id' slot hLookup
      obtain hSame | ⟨-, -, -, hListed, -⟩ := Tracking.cancel_task v currentIds id hTask
      · exact ⟨handle, t, hSame, hServes, hLive⟩
      · -- the aborted task is listed under the cancelled id, so it serves no other
        obtain ⟨t', hTask', hServes'⟩ := h.listed _ _ _ hListed
        rw [hTask] at hTask'
        cases hTask'
        exact absurd ⟨hServes.1.symm.trans hServes'.1, hServes.2.symm.trans hServes'.2⟩ hOther

theorem reserve (h : Attended b) (queue : Pubkey) (item : QueueItem) : Attended (b.reserve queue item) := by
  cases hLookup : b.inflightRequests.lookup queue item.id with
  | some slot =>
    rw [Tracking.reserve_of_some hLookup]
    exact h
  | none =>
    rw [Tracking.reserve_of_none hLookup]
    have hNew : (b.tasks ++ [⟨queue, item, .running⟩])[b.tasks.length]? = some ⟨queue, item, .running⟩ :=
      List.getElem?_concat_length
    have hOld {i : Nat} {t : Task} (hTask : b.tasks[i]? = some t) :
        (b.tasks ++ [⟨queue, item, .running⟩])[i]? = some t := by
      rw [List.getElem?_append_left (Tracking.lt_of_task hTask), hTask]
    constructor
    · intro queue' id handle hActive
      obtain ⟨rfl, rfl, rfl⟩ | ⟨-, hActive⟩ := Table.of_lookup_insert hActive
      · exact ⟨_, hNew, rfl, rfl⟩
      · obtain ⟨t, hTask, hServes⟩ := h.listed queue' id handle hActive
        exact ⟨t, hOld hTask, hServes⟩
    · intro queue' id slot hInflight
      obtain ⟨rfl, rfl, -⟩ | ⟨-, hInflight⟩ := Table.of_lookup_insert hInflight
      · exact ⟨_, _, hNew, ⟨rfl, rfl⟩, rfl⟩
      · obtain ⟨handle, t, hTask, hServes, hLive⟩ := h.reserved queue' id slot hInflight
        exact ⟨handle, t, hOld hTask, hServes, hLive⟩

theorem unlist (h : Attended b) (hTask : b.tasks[handle]? = some t) : Attended (b.unlist handle t) := by
  constructor
  · intro queue id i hActive
    obtain ⟨-, hActive⟩ := Table.of_lookup_erase hActive
    obtain ⟨u, hu, hServes⟩ := h.listed queue id i hActive
    obtain ⟨u', hu', hQueue, hItem, -⟩ := Tracking.task_moved hTask .unlisted hu
    exact ⟨u', hu', hQueue.trans hServes.1, by rw [hItem, hServes.2]⟩
  · intro queue id slot hInflight
    obtain ⟨i, u, hu, hServes, hLive⟩ := h.reserved queue id slot hInflight
    obtain ⟨u', hu', hQueue, hItem, hOther, hMoved⟩ := Tracking.task_moved hTask .unlisted hu
    refine ⟨i, u', hu', ⟨hQueue.trans hServes.1, by rw [hItem, hServes.2]⟩, ?_⟩
    by_cases hi : i = handle
    · rw [hMoved hi]
      rfl
    · rw [hOther hi, hLive]

theorem clear (h : Attended b) (hTask : b.tasks[handle]? = some t) : Attended (b.clear handle t) := by
  constructor
  · intro queue id i hActive
    obtain ⟨u, hu, hServes⟩ := h.listed queue id i hActive
    obtain ⟨u', hu', hQueue, hItem, -⟩ := Tracking.task_moved hTask .finished hu
    exact ⟨u', hu', hQueue.trans hServes.1, by rw [hItem, hServes.2]⟩
  · intro queue id slot hInflight
    obtain ⟨hOther, hInflight⟩ := Table.of_lookup_erase hInflight
    obtain ⟨i, u, hu, hServes, hLive⟩ := h.reserved queue id slot hInflight
    obtain ⟨u', hu', -, -, hSame, -⟩ := Tracking.task_moved hTask .finished hu
    -- the task that ends dropped the reservation of its own id
    have hi : i ≠ handle := by
      rintro rfl
      rw [hTask] at hu
      cases hu
      exact hOther ⟨hServes.1.symm, hServes.2.symm⟩
    obtain rfl := hSame hi
    exact ⟨i, u', hu', hServes, hLive⟩

end Attended

variable {env : Environment} {oracle : Pubkey}

theorem state_next (run : SchedulerRun env oracle) (n : Nat) :
    run.state (n + 1) = (run.state n).next env oracle (run.event n) := rfl

theorem attended (run : SchedulerRun env oracle) (n : Nat) : Attended (run.state n).tracking := by
  refine run.invariant (P := fun s => Attended s.tracking) (fun s hs => ?_) (fun s e hAllowed h => ?_) n
  · obtain rfl : s = initial := hs
    constructor
    · intro queue id handle hActive
      cases hActive
    · intro queue id slot hInflight
      cases hInflight
  · exact next_tracking (P := Attended) hAllowed (fun v items _ b id hb => hb.cancel v _ id)
      (fun v item _ _ hb => hb.reserve v.queue item) (fun _ _ _ hTask _ hb => hb.unlist hTask)
      (fun _ _ _ hTask _ hb => hb.clear hTask) h

theorem reserve_lookup (b : Tracking) (queue : Pubkey) (item : QueueItem) :
    ∃ slot, (b.reserve queue item).inflightRequests.lookup queue item.id = some slot := by
  cases hLookup : b.inflightRequests.lookup queue item.id with
  | some slot =>
    rw [Tracking.reserve_of_some hLookup]
    exact ⟨slot, hLookup⟩
  | none =>
    rw [Tracking.reserve_of_none hLookup]
    exact ⟨item.slot, Table.lookup_insert_self⟩

/-- Every reservation has a live task, and so has every item at the moment a view handles it. -/
theorem no_request_lost (run : SchedulerRun env oracle) (n : Nat) :
    (∀ queue id, ((run.state n).tracking.inflightRequests.lookup queue id).isSome = true →
      ∃ (handle : Nat) (t : Task), (run.state n).tracking.tasks[handle]? = some t ∧ t.Serves queue id ∧
        t.progress.live = true) ∧
    ∀ v item rest, (run.state n).guard = .handling v (item :: rest) → run.event n = .handle →
      ∃ (handle : Nat) (t : Task), (run.state (n + 1)).tracking.tasks[handle]? = some t ∧
        t.Serves v.queue item.id ∧ t.progress.live = true := by
  constructor
  · intro queue id hSome
    obtain ⟨slot, hLookup⟩ := Option.isSome_iff_exists.mp hSome
    exact (attended run n).reserved queue id slot hLookup
  · intro v item rest hGuard hEvent
    have hNext : (run.state (n + 1)).tracking = (run.state n).tracking.reserve v.queue item := by
      simp only [state_next, hEvent, next, hGuard]
    obtain ⟨slot, hLookup⟩ := reserve_lookup (run.state n).tracking v.queue item
    rw [← hNext] at hLookup
    exact (attended run (n + 1)).reserved v.queue item.id slot hLookup

/-! ## Tasks in their send loop -/

/-- One task at most per request, listed under its own handle and reserved. -/
structure Tracks (b : Tracking) : Prop where
  single : ∀ (i j : Nat) (t u : Task), b.tasks[i]? = some t → b.tasks[j]? = some u → t.progress = .running →
    u.progress = .running → u.Serves t.queue t.item.id → i = j
  listed : ∀ (i : Nat) (t : Task), b.tasks[i]? = some t → t.progress = .running →
    b.activeTasks.lookup t.queue t.item.id = some i
  reserved : ∀ (i : Nat) (t : Task), b.tasks[i]? = some t → t.progress = .running →
    (b.inflightRequests.lookup t.queue t.item.id).isSome = true

/-- What the sections preserve: the reservation is the task's own, at the slot of its item. -/
structure Paired (b : Tracking) (i : Nat) (t : Task) : Prop where
  listed : b.activeTasks.lookup t.queue t.item.id = some i
  reserved : b.inflightRequests.lookup t.queue t.item.id = some t.item.slot

def AllPaired (b : Tracking) : Prop :=
  ∀ (i : Nat) (t : Task), b.tasks[i]? = some t → t.progress = .running → Paired b i t

namespace AllPaired

variable {b : Tracking} {handle : Nat} {t : Task}

theorem tracks (h : AllPaired b) : Tracks b where
  single i j t u ht hu hRunning hRunning' hServes := by
    have hListed := (h j u hu hRunning').listed
    rw [hServes.1, hServes.2, (h i t ht hRunning).listed] at hListed
    exact Option.some.inj hListed
  listed i t ht hRunning := (h i t ht hRunning).listed
  reserved i t ht hRunning := by
    rw [(h i t ht hRunning).reserved]
    rfl

theorem eq_of_serves (h : AllPaired b) {i : Nat} {u : Task} (hTask : b.tasks[handle]? = some t)
    (hRunning : t.progress = .running) (hu : b.tasks[i]? = some u) (hRunning' : u.progress = .running)
    (hServes : u.Serves t.queue t.item.id) : handle = i :=
  h.tracks.single handle i t u hTask hu hRunning hRunning' hServes

theorem cancel (h : AllPaired b) (v : View) (currentIds : List (Bytes 32)) (id : Bytes 32) :
    AllPaired (b.cancel v currentIds id) := by
  obtain ⟨hSame, -⟩ | ⟨-, -, hInflight, hCases⟩ := Tracking.cancel_cases v currentIds b id
  · rw [hSame]
    exact h
  · intro i t hTask hRunning
    obtain ⟨hNone, hActive, hTasks⟩ | ⟨handle, hSome, hActive, hTasks⟩ := hCases
    · rw [hTasks] at hTask
      have hPaired := h i t hTask hRunning
      have hOther : ¬(t.queue = v.queue ∧ t.item.id = id) := by
        rintro ⟨hQueue, hId⟩
        have hListed := hPaired.listed
        rw [hQueue, hId, hNone] at hListed
        cases hListed
      constructor
      · rw [hActive, hPaired.listed]
      · rw [hInflight, Table.lookup_erase_of_ne hOther, hPaired.reserved]
    · rw [hTasks] at hTask
      have hi : i ≠ handle := by
        rintro rfl
        cases hOld : b.tasks[i]? with
        | none =>
          rw [Tracking.abort, List.getElem?_modify_eq, hOld] at hTask
          cases hTask
        | some u =>
          rw [Tracking.abort_self hOld] at hTask
          cases hTask
          split at hRunning
          · cases hRunning
          · rename_i hEnded
            rw [hRunning] at hEnded
            exact hEnded rfl
      rw [Tracking.abort_of_ne hi] at hTask
      have hPaired := h i t hTask hRunning
      have hOther : ¬(t.queue = v.queue ∧ t.item.id = id) := by
        rintro ⟨hQueue, hId⟩
        have hListed := hPaired.listed
        rw [hQueue, hId, hSome] at hListed
        exact hi (Option.some.inj hListed).symm
      constructor
      · rw [hActive, Table.lookup_erase_of_ne hOther, hPaired.listed]
      · rw [hInflight, Table.lookup_erase_of_ne hOther, hPaired.reserved]

theorem reserve (h : AllPaired b) (queue : Pubkey) (item : QueueItem) : AllPaired (b.reserve queue item) := by
  cases hLookup : b.inflightRequests.lookup queue item.id with
  | some slot =>
    rw [Tracking.reserve_of_some hLookup]
    exact h
  | none =>
    rw [Tracking.reserve_of_none hLookup]
    intro i t hTask hRunning
    obtain hi | hi := Nat.lt_or_ge i b.tasks.length
    · rw [List.getElem?_append_left hi] at hTask
      have hPaired := h i t hTask hRunning
      have hOther : ¬(t.queue = queue ∧ t.item.id = item.id) := by
        rintro ⟨hQueue, hId⟩
        have hReserved := hPaired.reserved
        rw [hQueue, hId, hLookup] at hReserved
        cases hReserved
      constructor
      · exact (Table.lookup_insert_of_ne hOther).trans hPaired.listed
      · exact (Table.lookup_insert_of_ne hOther).trans hPaired.reserved
    · rw [List.getElem?_append_right hi] at hTask
      obtain hZero : i - b.tasks.length = 0 := by
        by_contra hPos
        rw [List.getElem?_eq_none (by rw [List.length_singleton]; omega)] at hTask
        cases hTask
      rw [hZero] at hTask
      cases hTask
      obtain rfl : i = b.tasks.length := by omega
      exact ⟨Table.lookup_insert_self, Table.lookup_insert_self⟩

theorem unlist (h : AllPaired b) (hTask : b.tasks[handle]? = some t) (hRunning : t.progress = .running) :
    AllPaired (b.unlist handle t) := by
  intro i u hu hRunning'
  rw [Tracking.unlist, Tracking.task_set hTask] at hu
  split at hu
  · cases hu
    cases hRunning'
  · rename_i hi
    have hPaired := h i u hu hRunning'
    have hOther : ¬(u.queue = t.queue ∧ u.item.id = t.item.id) := by
      intro hServes
      exact hi (h.eq_of_serves hTask hRunning hu hRunning' hServes).symm
    constructor
    · exact (Table.lookup_erase_of_ne hOther).trans hPaired.listed
    · exact hPaired.reserved

theorem clear (h : AllPaired b) (hTask : b.tasks[handle]? = some t)
    (hAlone : ∀ (i : Nat) (u : Task), b.tasks[i]? = some u → u.progress = .running →
      ¬u.Serves t.queue t.item.id) : AllPaired (b.clear handle t) := by
  intro i u hu hRunning
  rw [Tracking.clear, Tracking.task_set hTask] at hu
  split at hu
  · cases hu
    cases hRunning
  · have hPaired := h i u hu hRunning
    constructor
    · exact hPaired.listed
    · exact (Table.lookup_erase_of_ne (hAlone i u hu hRunning)).trans hPaired.reserved

theorem cancel_aborts {v : View} {currentIds : List (Bytes 32)} {i : Nat} (h : AllPaired b)
    (hTask : b.tasks[i]? = some t) (hRunning : t.progress = .running) (hQueue : t.queue = v.queue)
    (hGone : t.item.id ∉ currentIds) (hLater : ∀ slot, v.notificationSlot = some slot → t.item.slot < slot) :
    (b.cancel v currentIds t.item.id).tasks[i]? = some { t with progress := .aborted } := by
  obtain ⟨hListed, hReserved⟩ := h i t hTask hRunning
  rw [hQueue] at hListed hReserved
  have hNewer : v.predates (some t.item.slot) = false := by
    unfold View.predates
    cases hSlot : v.notificationSlot with
    | none => rfl
    | some slot => exact decide_eq_false (UInt64.not_le.mpr (hLater slot hSlot))
  obtain ⟨-, hCurrent | hPredates⟩ | ⟨-, -, -, ⟨hNone, -, -⟩ | ⟨handle, hSome, -, hTasks⟩⟩ :=
    Tracking.cancel_cases v currentIds b t.item.id
  · exact absurd hCurrent hGone
  · rw [hReserved, hNewer] at hPredates
    cases hPredates
  · rw [hListed] at hNone
    cases hNone
  · rw [hListed] at hSome
    cases hSome
    rw [hTasks, Tracking.abort_self hTask, hRunning]
    rfl

/-- A diff in which the request is gone, at a later slot, aborts its task. -/
theorem diff_aborts {v : View} {items : List QueueItem} {i : Nat} (h : AllPaired b) (hTask : b.tasks[i]? = some t)
    (hRunning : t.progress = .running) (hQueue : t.queue = v.queue)
    (hGone : t.item.id ∉ items.map QueueItem.id)
    (hLater : ∀ slot, v.notificationSlot = some slot → t.item.slot < slot) :
    (b.diff v items).tasks[i]? = some { t with progress := .aborted } := by
  have hTracked : t.item.id ∈ b.inflightRequests.keys v.queue :=
    Table.mem_keys.mpr ⟨_, hQueue ▸ (h i t hTask hRunning).reserved⟩
  unfold Tracking.diff
  revert hTracked
  generalize b.inflightRequests.keys v.queue = ids
  -- an aborted task stays so, and the task runs at least until its own id comes up
  have hStays (ids : List (Bytes 32)) (b : Tracking) (hAborted : b.tasks[i]? = some { t with progress := .aborted }) :
      (ids.foldl (Tracking.cancel v (items.map QueueItem.id)) b).tasks[i]? = some { t with progress := .aborted } := by
    induction ids generalizing b with
    | nil => exact hAborted
    | cons id ids ih =>
      refine ih _ ?_
      obtain hSame | ⟨hLive, -⟩ := Tracking.cancel_task v (items.map QueueItem.id) id hAborted
      · exact hSame
      · cases hLive
  induction ids generalizing b with
  | nil => exact fun hMem => absurd hMem List.not_mem_nil
  | cons id ids ih =>
    intro hMem
    obtain rfl | hRest := List.mem_cons.mp hMem
    · exact hStays ids _ (h.cancel_aborts hTask hRunning hQueue hGone hLater)
    · obtain hSame | ⟨-, -, -, -, hAborted⟩ := Tracking.cancel_task v (items.map QueueItem.id) id hTask
      · exact ih (h.cancel v _ id) hSame hRest
      · exact hStays ids _ hAborted

end AllPaired

/-- A second cleanup section finds no other task of its request in the send loop. -/
def ClearsAlone (s : Scheduler) (e : Event) : Prop :=
  ∀ (handle : Nat) (t : Task), e = .clear handle → s.tracking.tasks[handle]? = some t →
    ∀ (i : Nat) (u : Task), s.tracking.tasks[i]? = some u → u.progress = .running → ¬u.Serves t.queue t.item.id

theorem all_paired (run : SchedulerRun env oracle) (hAlone : ∀ n, ClearsAlone (run.state n) (run.event n)) (n : Nat) :
    AllPaired (run.state n).tracking := by
  induction n with
  | zero =>
    obtain hStart : run.start = initial := run.initial
    intro i t hTask
    rw [show run.state 0 = initial from hStart] at hTask
    cases hTask
  | succ n ih =>
    rw [state_next]
    exact next_tracking (P := AllPaired) (run.allowed_at n) (fun v _ _ b id hb => hb.cancel v _ id)
      (fun v item _ _ hb => hb.reserve v.queue item) (fun _ _ _ hTask hRunning hb => hb.unlist hTask hRunning)
      (fun handle t hEvent hTask _ hb => hb.clear hTask (hAlone n handle t hEvent hTask)) ih

/-- A cleanup that does not find itself alone takes away the reservation of another task. -/
theorem clears_alone_of_tracks (run : SchedulerRun env oracle) (hTracks : ∀ n, Tracks (run.state n).tracking)
    (n : Nat) : ClearsAlone (run.state n) (run.event n) := by
  intro handle t hEvent hTask i u hu hRunning hServes
  have hUnlisted : t.progress = .unlisted := by
    have hAllowed := run.allowed_at n
    rw [hEvent] at hAllowed
    obtain ⟨t', hTask', hProgress⟩ := Option.map_eq_some_iff.mp hAllowed
    rw [hTask] at hTask'
    cases hTask'
    exact hProgress
  have hNext : (run.state (n + 1)).tracking = (run.state n).tracking.clear handle t := by
    simp only [state_next, hEvent, next, hTask]
  have hi : i ≠ handle := by
    rintro rfl
    rw [hTask] at hu
    cases hu
    rw [hUnlisted] at hRunning
    cases hRunning
  have hReserved := (hTracks (n + 1)).reserved i u
  rw [hNext, Tracking.clear, Tracking.task_set hTask, if_neg hi, hServes.1, hServes.2,
    Table.lookup_erase_self] at hReserved
  cases hReserved hu hRunning

/-- Exactly in the runs in which every second cleanup section finds no other task of its request
in the send loop, there is one task at most per request, each is listed and reserved, and a view
without the request, later than its slot, aborts its task. -/
theorem tasks_tracked_iff (run : SchedulerRun env oracle) :
    (∀ n, ClearsAlone (run.state n) (run.event n)) ↔
      (∀ n, Tracks (run.state n).tracking) ∧
      ∀ n v items (i : Nat) (t : Task), (run.state n).guard = .diffing v items → run.event n = .diff →
        (run.state n).tracking.tasks[i]? = some t → t.progress = .running → t.queue = v.queue →
        t.item.id ∉ items.map QueueItem.id → (∀ slot, v.notificationSlot = some slot → t.item.slot < slot) →
        (run.state (n + 1)).tracking.tasks[i]? = some { t with progress := .aborted } := by
  constructor
  · intro hAlone
    refine ⟨fun n => (all_paired run hAlone n).tracks, ?_⟩
    intro n v items i t hGuard hEvent hTask hRunning hQueue hGone hLater
    have hNext : (run.state (n + 1)).tracking = (run.state n).tracking.diff v items := by
      simp only [state_next, hEvent, next, hGuard]
    rw [hNext]
    exact (all_paired run hAlone n).diff_aborts hTask hRunning hQueue hGone hLater
  · rintro ⟨hTracks, -⟩
    exact clears_alone_of_tracks run hTracks

/-! ### A cleanup that meets a newer task

Account data of a queue that holds the given records, as views of it at given slots. The
request is dropped by one view and brought back by the next while its first task stands
between its two cleanup sections.
-/

namespace Race

def accountBytes (recs : List Record) : List UInt8 :=
  AccountDiscriminator.queue.toBytes ++
    Queue.layout.encode ⟨UInt32.ofNat (recs.countP Record.live), UInt32.ofNat (lastEnd 16 recs), 0, 0, ⟨[0, 0], rfl⟩⟩ ++
    [0, 0, 0, 0] ++ recs.flatMap fun r => r.bytes ++ List.replicate (QueueAccount.alignUp r.size - r.size) 0

def view (recs : List Record) (slot : UInt64) (isSnapshot : Bool) : View :=
  ⟨Sample.queueKey, accountBytes recs, some slot, isSnapshot, true⟩

def request : Record := Sample.accepted.record Sample.environment

def deliver (recs : List Record) (slot : UInt64) (isSnapshot : Bool) : List Event :=
  [.receive (view recs slot isSnapshot), .diff] ++ List.replicate (recs.countP Record.live + 1) .handle

def ignored (recs : List Record) (slot : UInt64) : View := { view recs slot false with shouldProcess := false }

theorem next_ignored (recs : List Record) (slot : UInt64) (s : Scheduler) :
    (machine Sample.environment Sample.oracle).next s (.receive (ignored recs slot)) = s := by
  change s.receive Sample.environment Sample.oracle (ignored recs slot) = s
  have hIgnored : (ignored recs slot).isOurs Sample.environment Sample.oracle = false := by
    unfold View.isOurs
    split
    · exact Bool.and_false _
    · rfl
  rw [receive, if_neg (by rw [hIgnored]; exact Bool.false_ne_true)]

def events : List Event :=
  deliver [request] 100 false ++ [.unlist 0] ++ deliver [] 101 false ++ deliver [request] 102 false ++ [.clear 0] ++
    deliver [request] 103 false ++ deliver [] 104 false

theorem allowed : ∀ n ≤ events.length,
    Allowed ((machine Sample.environment Sample.oracle).trace initial
      (fun n => events.getD n (.receive (ignored [] 104))) n) (events.getD n (.receive (ignored [] 104))) := by
  decide +kernel

def run : SchedulerRun Sample.environment Sample.oracle :=
  .ofList _ initial events (.receive (ignored [] 104)) rfl allowed (next_ignored _ _ _)

end Race

/-- Two tasks in the send loop on one request; only the newer is listed, and the view in which
the request is gone leaves the older one running. -/
theorem race_loses_track :
    ¬Tracks (Race.run.state 17).tracking ∧
    (Race.run.state 17).tracking.tasks =
      [⟨Sample.queueKey, Race.request.item, .finished⟩, ⟨Sample.queueKey, Race.request.item, .running⟩,
        ⟨Sample.queueKey, Race.request.item, .running⟩] ∧
    (Race.run.state 17).tracking.activeTasks.lookup Sample.queueKey Race.request.item.id = some 2 ∧
    (Race.run.state 20).tracking.tasks[1]? = some ⟨Sample.queueKey, Race.request.item, .running⟩ := by
  have hTasks : (Race.run.state 17).tracking.tasks =
      [⟨Sample.queueKey, Race.request.item, .finished⟩, ⟨Sample.queueKey, Race.request.item, .running⟩,
        ⟨Sample.queueKey, Race.request.item, .running⟩] := by decide +kernel
  refine ⟨?_, hTasks, ?_, ?_⟩
  · intro hTracks
    have hSame := hTracks.single 1 2 _ _ (by rw [hTasks]; rfl) (by rw [hTasks]; rfl) rfl rfl ⟨rfl, rfl⟩
    cases hSame
  · decide +kernel
  · decide +kernel

/-! ### A task that ends alone -/

namespace Retry

def events : List Event := Race.deliver [Race.request] 100 false ++ [.unlist 0, .clear 0]

theorem allowed : ∀ n ≤ events.length,
    Allowed ((machine Sample.environment Sample.oracle).trace initial
      (fun n => events.getD n (.receive (Race.ignored [] 104))) n) (events.getD n (.receive (Race.ignored [] 104))) := by
  decide +kernel

def run : SchedulerRun Sample.environment Sample.oracle :=
  .ofList _ initial events (.receive (Race.ignored [] 104)) rfl allowed (Race.next_ignored _ _ _)

theorem clear_at {n handle : Nat} (h : run.event n = .clear handle) : n = 5 := by
  rcases n with _ | _ | _ | _ | _ | _ | n
  · cases h
  · cases h
  · cases h
  · cases h
  · cases h
  · rfl
  · cases h

theorem clears_alone (n : Nat) : ClearsAlone (run.state n) (run.event n) := by
  intro handle t hEvent _ i u hu hRunning
  obtain rfl := clear_at hEvent
  have hTasks : (run.state 5).tracking.tasks = [⟨Sample.queueKey, Race.request.item, .unlisted⟩] := by decide +kernel
  rw [hTasks] at hu
  obtain rfl := List.mem_singleton.mp (List.mem_of_getElem? hu)
  cases hRunning

end Retry

theorem tasks_tracked_retry :
    (∀ n, ClearsAlone (Retry.run.state n) (Retry.run.event n)) ∧ ∀ n, Tracks (Retry.run.state n).tracking :=
  ⟨Retry.clears_alone, ((tasks_tracked_iff Retry.run).mp Retry.clears_alone).1⟩

end Scheduler

end SolanaVrf
