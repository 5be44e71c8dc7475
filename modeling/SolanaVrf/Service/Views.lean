import SolanaVrf.Service.Tracking

/-! # Views of a chain

The chain gives each queue a sequence of states with non-decreasing slots. A view is one of
them, from a snapshot or a notification. Views may come late, twice or never: a request is
cancelled only when the view's state no longer has it. A removed request is not taken up
again as long as no notification comes behind a snapshot of its own slot.
-/

namespace SolanaVrf
set_option autoImplicit false

open Pod Nested Transition

/-- The states of one queue; a request that has gone stays away. -/
structure History where
  accountBytes : Nat → List UInt8
  slot : Nat → UInt64
  slot_mono : ∀ i j, i ≤ j → slot i ≤ slot j
  stays : ∀ a i b id, a ≤ i → i ≤ b →
    (∃ items, itemsOf (accountBytes a) = some items ∧ id ∈ items.map QueueItem.id) →
    (∃ items, itemsOf (accountBytes b) = some items ∧ id ∈ items.map QueueItem.id) →
    ∃ items, itemsOf (accountBytes i) = some items ∧ id ∈ items.map QueueItem.id

namespace History

variable {c : History} {i j : Nat} {id : Bytes 32} {v : View}

def Present (c : History) (i : Nat) (id : Bytes 32) : Prop :=
  ∃ items, itemsOf (c.accountBytes i) = some items ∧ id ∈ items.map QueueItem.id

def Removed (c : History) (i : Nat) (id : Bytes 32) : Prop := (∃ a ≤ i, c.Present a id) ∧ ¬c.Present i id

/-- Every request is enqueued in a state of its own slot. -/
def Dated (c : History) : Prop :=
  ∀ i items item, itemsOf (c.accountBytes i) = some items → item ∈ items →
    ∃ a ≤ i, c.slot a = item.slot ∧ c.Present a item.id

def Shows (c : History) (i : Nat) (v : View) : Prop :=
  v.accountBytes = c.accountBytes i ∧ v.notificationSlot = some (c.slot i)

theorem Shows.present_iff (h : c.Shows i v) {items : List QueueItem} (hItems : v.items = some items) :
    c.Present i id ↔ id ∈ items.map QueueItem.id := by
  have hState : itemsOf (c.accountBytes i) = some items := by
    rw [← h.1]
    exact hItems
  constructor
  · rintro ⟨items', hItems', hMem⟩
    rw [hState] at hItems'
    cases hItems'
    exact hMem
  · intro hMem
    exact ⟨items, hState, hMem⟩

theorem lt_of_slot_lt (h : c.slot i < c.slot j) : i < j := by
  apply Nat.lt_of_not_le
  intro hle
  exact absurd (c.slot_mono j i hle) (UInt64.not_le.mpr h)

theorem Removed.not_present (h : c.Removed i id) (hle : i ≤ j) : ¬c.Present j id := by
  obtain ⟨⟨a, ha, hPresent⟩, hGone⟩ := h
  intro hBack
  exact hGone (c.stays a i j id ha hle hPresent hBack)

end History

namespace Scheduler

variable {env : Environment} {oracle : Pubkey}

/-! ## Whose view holds the guard -/

def Accepts (env : Environment) (oracle : Pubkey) (s : Scheduler) (v : View) : Prop :=
  v.isOurs env oracle = true ∧ v.stale (s.latestViewSlots v.queue) = false

theorem receive_guard (env : Environment) (oracle : Pubkey) (v : View) {s : Scheduler} (hFree : s.guard = .free) :
    (s.receive env oracle v).guard = .free ∨
      Accepts env oracle s v ∧ ∃ items, v.items = some items ∧ (s.receive env oracle v).guard = .diffing v items := by
  unfold receive
  split
  · rename_i hOurs
    split
    · exact Or.inl hFree
    · rename_i hFresh
      dsimp only
      split
      · rename_i items hItems
        exact Or.inr ⟨⟨hOurs, Bool.not_eq_true _ ▸ hFresh⟩, items, hItems, rfl⟩
      · exact Or.inl hFree
  · exact Or.inl hFree

inductive GuardStep (env : Environment) (oracle : Pubkey) (s : Scheduler) (e : Event) : Guard → Guard → Prop
  | same (g : Guard) : GuardStep env oracle s e g g
  | taken (v : View) (items : List QueueItem) (hEvent : e = .receive v) (hAccepts : Accepts env oracle s v)
      (hItems : v.items = some items) : GuardStep env oracle s e .free (.diffing v items)
  | diffed (v : View) (items : List QueueItem) : GuardStep env oracle s e (.diffing v items) (.handling v items)
  | handled (v : View) (item : QueueItem) (rest : List QueueItem) :
      GuardStep env oracle s e (.handling v (item :: rest)) (.handling v rest)
  | released (v : View) : GuardStep env oracle s e (.handling v []) .free

theorem next_guard {s : Scheduler} {e : Event} (hAllowed : s.Allowed e) :
    GuardStep env oracle s e s.guard (s.next env oracle e).guard := by
  cases e with
  | receive v =>
    rw [show s.guard = .free from hAllowed]
    obtain hGuard | ⟨hAccepts, items, hItems, hGuard⟩ := receive_guard env oracle v hAllowed
    · rw [next, hGuard]
      exact .same _
    · rw [next, hGuard]
      exact .taken v items rfl hAccepts hItems
  | diff =>
    obtain ⟨v, items, hGuard⟩ := Guard.of_isDiffing hAllowed
    simp only [next, hGuard]
    exact .diffed v items
  | handle =>
    obtain ⟨v, rest, hGuard⟩ := Guard.of_isHandling hAllowed
    cases rest with
    | nil =>
      simp only [next, hGuard]
      exact .released v
    | cons item rest =>
      simp only [next, hGuard]
      exact .handled v item rest
  | attempt handle => exact .same _
  | unlist handle =>
    obtain ⟨t, hTask, -⟩ := Option.map_eq_some_iff.mp hAllowed
    simp only [next, hTask]
    exact .same _
  | clear handle =>
    obtain ⟨t, hTask, -⟩ := Option.map_eq_some_iff.mp hAllowed
    simp only [next, hTask]
    exact .same _

/-- The view was accepted at `m`, and the guard has been held since. -/
structure Origin (run : SchedulerRun env oracle) (m n : Nat) (v : View) (items : List QueueItem) : Prop where
  before : m < n
  event : run.event m = .receive v
  accepts : Accepts env oracle (run.state m) v
  items : v.items = some items
  held : ∀ p, m < p → p ≤ n → (run.state p).guard ≠ .free

theorem Origin.extend {run : SchedulerRun env oracle} {m n : Nat} {v : View} {items : List QueueItem}
    (h : Origin run m n v items) (hBusy : (run.state (n + 1)).guard ≠ .free) : Origin run m (n + 1) v items := by
  refine ⟨Nat.lt_succ_of_lt h.before, h.event, h.accepts, h.items, ?_⟩
  intro p hLow hHigh
  obtain rfl | hEarlier := Nat.eq_or_lt_of_le hHigh
  · exact hBusy
  · exact h.held p hLow (Nat.le_of_lt_succ hEarlier)

/-- Whoever holds the guard came by it as an accepted view. -/
def Accounted (run : SchedulerRun env oracle) (n : Nat) : Guard → Prop
  | .free => True
  | .diffing v items => ∃ m, Origin run m n v items
  | .handling v rest => ∃ m items, Origin run m n v items ∧ rest ⊆ items

theorem accounted (run : SchedulerRun env oracle) (n : Nat) : Accounted run n (run.state n).guard := by
  induction n with
  | zero =>
    obtain hStart : run.start = initial := run.initial
    rw [show run.state 0 = initial from hStart]
    trivial
  | succ n ih =>
    have hStep : GuardStep env oracle (run.state n) (run.event n) (run.state n).guard (run.state (n + 1)).guard :=
      next_guard (run.allowed_at n)
    generalize hBefore : (run.state n).guard = g at hStep ih
    generalize hAfter : (run.state (n + 1)).guard = g' at hStep
    cases hStep with
    | same =>
      cases g with
      | free => trivial
      | diffing v items =>
        obtain ⟨m, hOrigin⟩ := ih
        exact ⟨m, hOrigin.extend (by rw [hAfter]; nofun)⟩
      | handling v rest =>
        obtain ⟨m, items, hOrigin, hSubset⟩ := ih
        exact ⟨m, items, hOrigin.extend (by rw [hAfter]; nofun), hSubset⟩
    | taken v items hEvent hAccepts hItems =>
      refine ⟨n, Nat.lt_succ_self n, hEvent, hAccepts, hItems, ?_⟩
      intro p hLow hHigh
      obtain rfl : p = n + 1 := Nat.le_antisymm hHigh hLow
      rw [hAfter]
      nofun
    | diffed v items =>
      obtain ⟨m, hOrigin⟩ := ih
      exact ⟨m, items, hOrigin.extend (by rw [hAfter]; nofun), fun _ hMem => hMem⟩
    | handled v item rest =>
      obtain ⟨m, items, hOrigin, hSubset⟩ := ih
      exact ⟨m, items, hOrigin.extend (by rw [hAfter]; nofun), fun _ hMem => hSubset (List.mem_cons_of_mem _ hMem)⟩
    | released v => trivial

theorem exists_origin (run : SchedulerRun env oracle) {n : Nat} {v : View} {rest : List QueueItem}
    (h : (run.state n).guard = .handling v rest) : ∃ m items, Origin run m n v items ∧ rest ⊆ items := by
  have hAccounted := accounted run n
  rw [h] at hAccounted
  exact hAccounted

/-! ## A view cancels only what it no longer has -/

namespace Tracking

variable {b : Tracking} {v : View} {currentIds : List (Bytes 32)} {i : Nat} {t u : Task}

theorem cancel_inflight_of_ne {id id' : Bytes 32} (h : id' ≠ id) :
    (b.cancel v currentIds id).inflightRequests.lookup v.queue id' = b.inflightRequests.lookup v.queue id' := by
  obtain ⟨hSame, -⟩ | ⟨-, -, hInflight, -⟩ := cancel_cases v currentIds b id
  · rw [hSame]
  · rw [hInflight, Table.lookup_erase_of_ne fun hSame => h hSame.2]

theorem fold_aborts {ids : List (Bytes 32)} (hNodup : ids.Nodup) (hTask : b.tasks[i]? = some t)
    (hAlive : t.progress ≠ .aborted) (hAfter : (ids.foldl (cancel v currentIds) b).tasks[i]? = some u)
    (hAborted : u.progress = .aborted) :
    ∃ id ∈ ids, id ∉ currentIds ∧ b.activeTasks.lookup v.queue id = some i ∧
      v.predates (b.inflightRequests.lookup v.queue id) = false := by
  induction ids generalizing b with
  | nil =>
    rw [List.foldl_nil, hTask] at hAfter
    cases hAfter
    exact absurd hAborted hAlive
  | cons id ids ih =>
    obtain ⟨hFresh, hNodup⟩ := List.nodup_cons.mp hNodup
    obtain hSame | ⟨-, hAbsent, hLater, hListed, -⟩ := cancel_task v currentIds id hTask
    · obtain ⟨id', hMem, hAbsent, hListed, hLater⟩ := ih hNodup hSame hAfter
      have hne : id' ≠ id := by
        rintro rfl
        exact hFresh hMem
      rw [cancel_inflight_of_ne hne] at hLater
      exact ⟨id', List.mem_cons_of_mem _ hMem, hAbsent, cancel_active hListed, hLater⟩
    · exact ⟨id, List.mem_cons_self, hAbsent, hListed, hLater⟩

end Tracking

/-- Only a diff aborts tasks. -/
theorem diff_of_aborted {s : Scheduler} {e : Event} {i : Nat} {t u : Task} (hAllowed : s.Allowed e)
    (hTask : s.tracking.tasks[i]? = some t) (hAlive : t.progress ≠ .aborted)
    (hAfter : (s.next env oracle e).tracking.tasks[i]? = some u) (hAborted : u.progress = .aborted) :
    e = .diff ∧ ∃ v items, s.guard = .diffing v items := by
  have hSame (h : s.tracking.tasks[i]? = some u) : False := by
    rw [hTask] at h
    cases h
    exact hAlive hAborted
  have hMoved {handle : Nat} {w : Task} {progress : Progress} (hHandle : s.tracking.tasks[handle]? = some w)
      (hProgress : progress ≠ .aborted)
      (h : (s.tracking.tasks.set handle { w with progress := progress })[i]? = some u) : False := by
    rw [Tracking.task_set hHandle] at h
    split at h
    · cases h
      exact hProgress hAborted
    · exact hSame h
  cases e with
  | receive v =>
    rw [next, receive_tracking] at hAfter
    exact (hSame hAfter).elim
  | diff =>
    obtain ⟨v, items, hGuard⟩ := Guard.of_isDiffing hAllowed
    exact ⟨rfl, v, items, hGuard⟩
  | handle =>
    exfalso
    obtain ⟨v, rest, hGuard⟩ := Guard.of_isHandling hAllowed
    cases rest with
    | nil =>
      simp only [next, hGuard] at hAfter
      exact hSame hAfter
    | cons item rest =>
      simp only [next, hGuard] at hAfter
      cases hLookup : s.tracking.inflightRequests.lookup v.queue item.id with
      | some slot =>
        rw [Tracking.reserve_of_some hLookup] at hAfter
        exact hSame hAfter
      | none =>
        rw [Tracking.reserve_of_none hLookup,
          List.getElem?_append_left (Tracking.lt_of_task hTask)] at hAfter
        exact hSame hAfter
  | attempt handle => exact (hSame hAfter).elim
  | unlist handle =>
    obtain ⟨w, hHandle, -⟩ := Option.map_eq_some_iff.mp hAllowed
    simp only [next, hHandle] at hAfter
    exact (hMoved hHandle (by decide) hAfter).elim
  | clear handle =>
    obtain ⟨w, hHandle, -⟩ := Option.map_eq_some_iff.mp hAllowed
    simp only [next, hHandle] at hAfter
    exact (hMoved hHandle (by decide) hAfter).elim

section

variable {history : Pubkey → History}

/-- A reservation carries the slot of a state that has the request. -/
def ReservedAt (history : Pubkey → History) (b : Tracking) : Prop :=
  ∀ queue id slot, b.inflightRequests.lookup queue id = some slot →
    ∃ a, (history queue).slot a = slot ∧ (history queue).Present a id

theorem reservedAt (hDated : ∀ queue, (history queue).Dated) (run : SchedulerRun env oracle)
    (hViews : ∀ n v, run.event n = .receive v → ∃ i, (history v.queue).Shows i v) (n : Nat) :
    ReservedAt history (run.state n).tracking := by
  induction n with
  | zero =>
    obtain hStart : run.start = initial := run.initial
    intro queue id slot hLookup
    rw [show run.state 0 = initial from hStart] at hLookup
    cases hLookup
  | succ n ih =>
    rw [state_next]
    refine next_tracking (P := ReservedAt history) (run.allowed_at n) ?_ ?_ ?_ ?_ ih
    · intro v items _ b id hb queue id' slot hLookup
      obtain ⟨hSame, -⟩ | ⟨-, -, hInflight, -⟩ := Tracking.cancel_cases v (items.map QueueItem.id) b id
      · rw [hSame] at hLookup
        exact hb queue id' slot hLookup
      · rw [hInflight] at hLookup
        exact hb queue id' slot (Table.of_lookup_erase hLookup).2
    · intro v item rest hGuard hb queue id slot hLookup
      cases hOld : (run.state n).tracking.inflightRequests.lookup v.queue item.id with
      | some _ =>
        rw [Tracking.reserve_of_some hOld] at hLookup
        exact hb queue id slot hLookup
      | none =>
        rw [Tracking.reserve_of_none hOld] at hLookup
        obtain ⟨rfl, rfl, rfl⟩ | ⟨-, hLookup⟩ := Table.of_lookup_insert hLookup
        · -- the item comes from a state of the chain, which dates it
          obtain ⟨m, items, hOrigin, hSubset⟩ := exists_origin run hGuard
          obtain ⟨i, hShows⟩ := hViews m v hOrigin.event
          have hItems : itemsOf ((history v.queue).accountBytes i) = some items := by
            rw [← hShows.1]
            exact hOrigin.items
          obtain ⟨a, -, hSlot, hPresent⟩ := hDated v.queue i items item hItems (hSubset List.mem_cons_self)
          exact ⟨a, hSlot, hPresent⟩
        · exact hb queue id slot hLookup
    · intro handle t _ _ _ hb queue id slot hLookup
      exact hb queue id slot hLookup
    · intro handle t _ _ _ hb queue id slot hLookup
      exact hb queue id slot (Table.of_lookup_erase hLookup).2

theorem slot_lt_of_not_predates {v : View} {enqueueSlot viewSlot : UInt64} (hSlot : v.notificationSlot = some viewSlot)
    (h : v.predates (some enqueueSlot) = false) : enqueueSlot < viewSlot := by
  unfold View.predates at h
  rw [hSlot] at h
  exact UInt64.not_le.mp (of_decide_eq_false h)

/-- Whatever the order of the views, a task is aborted only by a view whose state has lost the
request after having had it. -/
theorem aborts_only_removed (hDated : ∀ queue, (history queue).Dated) (run : SchedulerRun env oracle)
    (hViews : ∀ n v, run.event n = .receive v → ∃ i, (history v.queue).Shows i v) {n i : Nat} {t u : Task}
    (hTask : (run.state n).tracking.tasks[i]? = some t) (hAlive : t.progress ≠ .aborted)
    (hAfter : (run.state (n + 1)).tracking.tasks[i]? = some u) (hAborted : u.progress = .aborted) :
    ∃ v items, run.event n = .diff ∧ (run.state n).guard = .diffing v items ∧ t.queue = v.queue ∧
      t.item.id ∉ items.map QueueItem.id ∧
      ∀ j, (history v.queue).Shows j v → (history v.queue).Removed j t.item.id := by
  obtain ⟨hEvent, v, items, hGuard⟩ := diff_of_aborted (run.allowed_at n) hTask hAlive hAfter hAborted
  have hNext : (run.state (n + 1)).tracking = (run.state n).tracking.diff v items := by
    simp only [state_next, hEvent, next, hGuard]
  rw [hNext] at hAfter
  obtain ⟨id, hTracked, hAbsent, hListed, hLater⟩ :=
    Tracking.fold_aborts (AList.keys_nodup _) hTask hAlive hAfter hAborted
  obtain ⟨t', hTask', hServes⟩ := (attended run n).listed _ _ _ hListed
  rw [hTask] at hTask'
  cases hTask'
  obtain ⟨hQueue, rfl⟩ := hServes
  refine ⟨v, items, hEvent, hGuard, hQueue, hAbsent, ?_⟩
  intro j hShows
  obtain ⟨slot, hLookup⟩ := Table.mem_keys.mp hTracked
  obtain ⟨a, hSlot, hPresent⟩ := reservedAt hDated run hViews n _ _ _ hLookup
  rw [hLookup, ← hSlot] at hLater
  have hBefore := History.lt_of_slot_lt (slot_lt_of_not_predates hShows.2 hLater)
  have hAccounted := accounted run n
  rw [hGuard] at hAccounted
  obtain ⟨m, hOrigin⟩ := hAccounted
  exact ⟨⟨a, Nat.le_of_lt hBefore, hPresent⟩, fun hBack => hAbsent ((hShows.present_iff hOrigin.items).mp hBack)⟩

end

/-! ### One request, seen and gone -/

namespace Seen

def accountBytes : Nat → List UInt8
  | 0 => Race.accountBytes [Race.request]
  | _ + 1 => Race.accountBytes []

def slot : Nat → UInt64
  | 0 => 100
  | _ + 1 => 101

theorem itemsOf_zero : itemsOf (Race.accountBytes [Race.request]) = some [Race.request.item] := by decide +kernel

theorem itemsOf_succ : itemsOf (Race.accountBytes []) = some [] := by decide +kernel

def history : History where
  accountBytes := accountBytes
  slot := slot
  slot_mono
    | 0, 0, _ => UInt64.le_refl 100
    | 0, _ + 1, _ => show (100 : UInt64) ≤ 101 by decide
    | _ + 1, _ + 1, _ => UInt64.le_refl 101
    | _ + 1, 0, h => nomatch h
  stays a i b id ha hb hPresent hPresent' := by
    cases b with
    | zero =>
      obtain rfl := Nat.le_zero.mp hb
      exact hPresent'
    | succ b =>
      obtain ⟨items, hItems, hMem⟩ := hPresent'
      rw [accountBytes, itemsOf_succ] at hItems
      cases hItems
      cases hMem

theorem dated : history.Dated := by
  intro i items item hItems hMem
  cases i with
  | zero =>
    change itemsOf (Race.accountBytes [Race.request]) = some items at hItems
    rw [itemsOf_zero] at hItems
    cases hItems
    obtain rfl := List.mem_singleton.mp hMem
    exact ⟨0, Nat.le_refl 0, by decide +kernel, [Race.request.item], itemsOf_zero, by simp⟩
  | succ i =>
    change itemsOf (Race.accountBytes []) = some items at hItems
    rw [itemsOf_succ] at hItems
    cases hItems
    cases hMem

def events : List Event := Race.deliver [Race.request] 100 false ++ Race.deliver [] 101 false

theorem allowed : ∀ n ≤ events.length,
    Allowed ((machine Sample.environment Sample.oracle).trace initial
      (fun n => events.getD n (.receive (Race.ignored [] 101))) n) (events.getD n (.receive (Race.ignored [] 101))) := by
  decide +kernel

def run : SchedulerRun Sample.environment Sample.oracle :=
  .ofList _ initial events (.receive (Race.ignored [] 101)) rfl allowed (Race.next_ignored _ _ _)

def index (n : Nat) : Nat := if n = 0 then 0 else 1

theorem received {n : Nat} {v : View} (h : run.event n = .receive v) :
    n = 0 ∧ v = Race.view [Race.request] 100 false ∨ n = 4 ∧ v = Race.view [] 101 false ∨
      7 ≤ n ∧ v = Race.ignored [] 101 := by
  rcases n with _ | _ | _ | _ | _ | _ | _ | n
  · exact Or.inl ⟨rfl, (Event.receive.inj h).symm⟩
  · cases h
  · cases h
  · cases h
  · exact Or.inr (Or.inl ⟨rfl, (Event.receive.inj h).symm⟩)
  · cases h
  · cases h
  · exact Or.inr (Or.inr ⟨by omega, (Event.receive.inj h).symm⟩)

theorem shows (n : Nat) (v : View) (h : run.event n = .receive v) : history.Shows (index n) v := by
  obtain ⟨rfl, rfl⟩ | ⟨rfl, rfl⟩ | ⟨hn, rfl⟩ := received h
  · exact ⟨rfl, rfl⟩
  · exact ⟨rfl, rfl⟩
  · rw [index, if_neg (by omega)]
    exact ⟨rfl, rfl⟩

end Seen

theorem aborts_only_removed_seen :
    ∃ v items, Seen.run.event 5 = .diff ∧ (Seen.run.state 5).guard = .diffing v items ∧
      Sample.queueKey = v.queue ∧ Race.request.item.id ∉ items.map QueueItem.id ∧
      ∀ j, Seen.history.Shows j v → Seen.history.Removed j Race.request.item.id :=
  aborts_only_removed (fun _ => Seen.dated) Seen.run
    (fun n v h => ⟨_, Seen.shows n v h⟩) (n := 5) (i := 0)
    (t := ⟨Sample.queueKey, Race.request.item, .running⟩) (u := ⟨Sample.queueKey, Race.request.item, .aborted⟩)
    (by decide +kernel) (by decide) (by decide +kernel) rfl

/-! ## A removed request does not come back -/

section

variable {history : Pubkey → History}

theorem noted_self {v : View} {slot : UInt64} (h : v.notificationSlot = some slot) (latest : Pubkey → UInt64) :
    v.noted latest v.queue = slot := by
  rw [View.noted, h]
  exact Function.update_self ..

theorem latest_le_of_fresh {v : View} {slot latest : UInt64} (hSlot : v.notificationSlot = some slot)
    (hFresh : v.stale latest = false) : latest ≤ slot ∧ (v.isSnapshot = true → latest < slot) := by
  unfold View.stale at hFresh
  rw [hSlot] at hFresh
  dsimp only at hFresh
  cases hKind : v.isSnapshot with
  | true =>
    rw [hKind, if_pos rfl] at hFresh
    have hLt : latest < slot := UInt64.not_le.mp (of_decide_eq_false hFresh)
    exact ⟨UInt64.le_of_lt hLt, fun _ => hLt⟩
  | false =>
    rw [hKind, if_neg Bool.false_ne_true] at hFresh
    exact ⟨UInt64.not_lt.mp (of_decide_eq_false hFresh), nofun⟩

theorem le_noted {v : View} {latest : Pubkey → UInt64} (hFresh : v.stale (latest v.queue) = false) (queue : Pubkey) :
    latest queue ≤ v.noted latest queue := by
  cases hSlot : v.notificationSlot with
  | none =>
    rw [View.noted, hSlot]
    exact UInt64.le_refl _
  | some slot =>
    rw [View.noted, hSlot]
    by_cases hQueue : queue = v.queue
    · subst hQueue
      dsimp only
      rw [Function.update_self]
      exact (latest_le_of_fresh hSlot hFresh).1
    · dsimp only
      rw [Function.update_of_ne hQueue]
      exact UInt64.le_refl _

theorem next_latest (s : Scheduler) (e : Event) :
    (s.next env oracle e).latestViewSlots = s.latestViewSlots ∨
      ∃ v, e = .receive v ∧ Accepts env oracle s v ∧
        (s.next env oracle e).latestViewSlots = v.noted s.latestViewSlots := by
  cases e with
  | receive v =>
    simp only [next, receive]
    split
    · rename_i hOurs
      split
      · exact Or.inl rfl
      · rename_i hFresh
        refine Or.inr ⟨v, rfl, ⟨hOurs, Bool.not_eq_true _ ▸ hFresh⟩, ?_⟩
        split <;> rfl
    · exact Or.inl rfl
  | attempt handle => exact Or.inl rfl
  | _ =>
    left
    simp only [next]
    split <;> rfl

theorem latest_mono (run : SchedulerRun env oracle) (queue : Pubkey) {m n : Nat} (h : m ≤ n) :
    (run.state m).latestViewSlots queue ≤ (run.state n).latestViewSlots queue := by
  induction n, h using Nat.le_induction with
  | base => exact UInt64.le_refl _
  | succ n hle ih =>
    refine UInt64.le_trans ih ?_
    rw [state_next]
    obtain hSame | ⟨v, -, hAccepts, hNoted⟩ := next_latest (run.state n) (run.event n)
    · rw [hSame]
      exact UInt64.le_refl _
    · rw [hNoted]
      exact le_noted hAccepts.2 queue

theorem latest_of_accepts (run : SchedulerRun env oracle) {n : Nat} {v : View} {slot : UInt64}
    (hEvent : run.event n = .receive v) (hAccepts : Accepts env oracle (run.state n) v)
    (hSlot : v.notificationSlot = some slot) : (run.state (n + 1)).latestViewSlots v.queue = slot := by
  rw [state_next, hEvent, next, receive, if_pos hAccepts.1, if_neg (by rw [hAccepts.2]; exact Bool.false_ne_true)]
  dsimp only
  split <;> exact noted_self hSlot _

def Spawns (s : Scheduler) (e : Event) (queue : Pubkey) (id : Bytes 32) : Prop :=
  ∃ v item rest, e = .handle ∧ s.guard = .handling v (item :: rest) ∧ v.queue = queue ∧ item.id = id ∧
    s.tracking.inflightRequests.lookup queue id = none

/-- Every view received at event `n` is the state `index n` of its queue, and notifications come
in the order of the chain. -/
structure Delivers (history : Pubkey → History) (run : SchedulerRun env oracle) (index : Nat → Nat) : Prop where
  shows : ∀ n v, run.event n = .receive v → (history v.queue).Shows (index n) v
  ordered : ∀ m n v w, m < n → run.event m = .receive v → run.event n = .receive w → v.queue = w.queue →
    v.isSnapshot = false → w.isSnapshot = false → index m ≤ index n

/-- No notification of a state before that of an accepted snapshot of its own slot is accepted. -/
def InStep (history : Pubkey → History) (run : SchedulerRun env oracle) (index : Nat → Nat) : Prop :=
  ∀ m n v w, m < n → run.event m = .receive v → run.event n = .receive w → v.queue = w.queue →
    v.isSnapshot = true → w.isSnapshot = false → Accepts env oracle (run.state m) v →
    Accepts env oracle (run.state n) w → (history v.queue).slot (index m) = (history v.queue).slot (index n) →
    index m ≤ index n

/-- Accepted views follow the chain: none is an earlier state than one accepted before. -/
theorem accepted_in_order {run : SchedulerRun env oracle} {index : Nat → Nat} (hDelivers : Delivers history run index)
    (hInStep : InStep history run index) {m n : Nat} {v w : View} (hlt : m < n) (hv : run.event m = .receive v)
    (hw : run.event n = .receive w) (hQueue : w.queue = v.queue) (hAccepts : Accepts env oracle (run.state m) v)
    (hAccepts' : Accepts env oracle (run.state n) w) : index m ≤ index n := by
  have hShows := hDelivers.shows m v hv
  have hShows' := hDelivers.shows n w hw
  rw [hQueue] at hShows'
  -- the slot of the earlier view is a lower bound for the later one
  have hFloor : (history v.queue).slot (index m) ≤ (run.state n).latestViewSlots v.queue := by
    rw [← latest_of_accepts run hv hAccepts hShows.2]
    exact latest_mono run v.queue hlt
  have hFresh := hAccepts'.2
  rw [hQueue] at hFresh
  obtain ⟨hLe, hLt⟩ := latest_le_of_fresh hShows'.2 hFresh
  by_contra hBack
  have hSame : (history v.queue).slot (index m) = (history v.queue).slot (index n) :=
    UInt64.le_antisymm (UInt64.le_trans hFloor hLe)
      ((history v.queue).slot_mono _ _ (Nat.le_of_lt (Nat.lt_of_not_le hBack)))
  cases hKind : w.isSnapshot with
  | true =>
    rw [hSame] at hFloor
    exact absurd (hLt hKind) (UInt64.not_lt.mpr hFloor)
  | false =>
    cases hKind' : v.isSnapshot with
    | true => exact hBack (hInStep m n v w hlt hv hw hQueue.symm hKind' hKind hAccepts hAccepts' hSame)
    | false => exact hBack (hDelivers.ordered m n v w hlt hv hw hQueue.symm hKind' hKind)

/-- Once a view at or after the removal of a request has been accepted, no task is spawned for it. -/
theorem no_resurrection {run : SchedulerRun env oracle} {index : Nat → Nat} (hDelivers : Delivers history run index)
    (hInStep : InStep history run index) {m n : Nat} {v : View} {id : Bytes 32} (hEvent : run.event m = .receive v)
    (hAccepts : Accepts env oracle (run.state m) v) (hRemoved : (history v.queue).Removed (index m) id) (hle : m ≤ n) :
    ¬Spawns (run.state n) (run.event n) v.queue id := by
  rintro ⟨w, item, rest, hHandle, hGuard, hQueue, rfl, -⟩
  obtain ⟨p, items, hOrigin, hSubset⟩ := exists_origin run hGuard
  have hShows := hDelivers.shows p w hOrigin.event
  have hPresent : (history v.queue).Present (index p) item.id := by
    rw [← hQueue]
    exact (hShows.present_iff hOrigin.items).mpr (List.mem_map_of_mem (hSubset List.mem_cons_self))
  -- the guard is free when a view is received, so the view in hand is no older
  have hLate : m ≤ p := by
    by_contra hEarlier
    have hFree := run.allowed_at m
    rw [hEvent] at hFree
    exact hOrigin.held m (Nat.lt_of_not_le hEarlier) hle hFree
  obtain rfl | hlt := Nat.eq_or_lt_of_le hLate
  · exact hRemoved.2 hPresent
  · have hOrder := accepted_in_order hDelivers hInStep hlt hEvent hOrigin.event hQueue hAccepts hOrigin.accepts
    exact hRemoved.not_present hOrder hPresent

end

namespace Seen

theorem delivers : Delivers (fun _ => history) run index where
  shows := shows
  ordered m n v w hlt hv hw _ _ _ := by
    obtain ⟨rfl, -⟩ | ⟨rfl, -⟩ | ⟨hm, -⟩ := received hv
    · exact Nat.zero_le _
    · rw [index, index, if_neg (by omega), if_neg (by omega)]
    · rw [index, index, if_neg (by omega), if_neg (by omega)]

theorem no_snapshots {n : Nat} {v : View} (h : run.event n = .receive v) : v.isSnapshot = false := by
  obtain ⟨-, rfl⟩ | ⟨-, rfl⟩ | ⟨-, rfl⟩ := received h
  · rfl
  · rfl
  · rfl

theorem inStep : InStep (fun _ => history) run index := by
  intro m n v w _ hv _ _ hSnapshot
  rw [no_snapshots hv] at hSnapshot
  cases hSnapshot

theorem removed : history.Removed (index 4) Race.request.item.id := by
  refine ⟨⟨0, Nat.zero_le _, [Race.request.item], itemsOf_zero, by simp⟩, ?_⟩
  rintro ⟨items, hItems, hMem⟩
  change itemsOf (Race.accountBytes []) = some items at hItems
  rw [itemsOf_succ] at hItems
  cases hItems
  cases hMem

end Seen

theorem no_resurrection_seen :
    Delivers (fun _ => Seen.history) Seen.run Seen.index ∧ InStep (fun _ => Seen.history) Seen.run Seen.index ∧
    Seen.history.Removed (Seen.index 4) Race.request.item.id ∧
    ∀ n, 4 ≤ n → ¬Spawns (Seen.run.state n) (Seen.run.event n) Sample.queueKey Race.request.item.id :=
  ⟨Seen.delivers, Seen.inStep, Seen.removed, fun _ hn =>
    no_resurrection Seen.delivers Seen.inStep (v := Race.view [] 101 false) (m := 4) rfl
      ⟨by decide +kernel, by decide +kernel⟩ Seen.removed hn⟩

/-! ### A notification behind a snapshot of its slot

In slot 101 a second request comes in and the first is removed. The snapshot after both
changes arrives before the notification of the first of them.
-/

namespace Overtaken

def other : Record :=
  .written 160 { Race.request.item with slot := 101, id := leBytes 32 1 } Race.request.discriminator
    Race.request.metas Race.request.args

def accountBytes : Nat → List UInt8
  | 0 => Race.accountBytes [Race.request]
  | 1 => Race.accountBytes [Race.request, other]
  | _ + 2 => Race.accountBytes [Race.request.free, other]

def slot : Nat → UInt64
  | 0 => 100
  | _ + 1 => 101

theorem itemsOf_zero : itemsOf (accountBytes 0) = some [Race.request.item] := by decide +kernel

theorem itemsOf_one : itemsOf (accountBytes 1) = some [Race.request.item, other.item] := by decide +kernel

theorem itemsOf_two : itemsOf (accountBytes 2) = some [other.item] := by decide +kernel

theorem present_one {b : Nat} {items : List QueueItem} {id : Bytes 32} (hItems : itemsOf (accountBytes b) = some items)
    (hMem : id ∈ items.map QueueItem.id) : id ∈ [Race.request.item, other.item].map QueueItem.id := by
  rcases b with _ | _ | b
  · rw [itemsOf_zero] at hItems
    cases hItems
    exact List.mem_append_left [other.item.id] hMem
  · rw [itemsOf_one] at hItems
    cases hItems
    exact hMem
  · change itemsOf (accountBytes 2) = some items at hItems
    rw [itemsOf_two] at hItems
    cases hItems
    exact List.mem_cons_of_mem _ hMem

def history : History where
  accountBytes := accountBytes
  slot := slot
  slot_mono
    | 0, 0, _ => UInt64.le_refl 100
    | 0, _ + 1, _ => show (100 : UInt64) ≤ 101 by decide
    | _ + 1, _ + 1, _ => UInt64.le_refl 101
    | _ + 1, 0, h => nomatch h
  stays a i b id ha hb hPresent hPresent' := by
    obtain ⟨items, hItems, hMem⟩ := hPresent'
    rcases i with _ | _ | i
    · obtain rfl := Nat.le_zero.mp ha
      exact hPresent
    · exact ⟨_, itemsOf_one, present_one hItems hMem⟩
    · obtain ⟨b, rfl⟩ : ∃ b', b = b' + 2 := ⟨b - 2, by omega⟩
      exact ⟨items, hItems, hMem⟩

def events : List Event :=
  Race.deliver [Race.request] 100 false ++ Race.deliver [Race.request.free, other] 101 true ++
    Race.deliver [Race.request, other] 101 false

theorem allowed : ∀ n ≤ events.length,
    Allowed ((machine Sample.environment Sample.oracle).trace initial
      (fun n => events.getD n (.receive (Race.ignored [Race.request.free, other] 101))) n)
      (events.getD n (.receive (Race.ignored [Race.request.free, other] 101))) := by
  decide +kernel

def run : SchedulerRun Sample.environment Sample.oracle :=
  .ofList _ initial events (.receive (Race.ignored [Race.request.free, other] 101)) rfl allowed (Race.next_ignored _ _ _)

def index (n : Nat) : Nat := if n = 0 then 0 else if n = 8 then 1 else 2

theorem received {n : Nat} {v : View} (h : run.event n = .receive v) :
    n = 0 ∧ v = Race.view [Race.request] 100 false ∨ n = 4 ∧ v = Race.view [Race.request.free, other] 101 true ∨
      n = 8 ∧ v = Race.view [Race.request, other] 101 false ∨
      13 ≤ n ∧ v = Race.ignored [Race.request.free, other] 101 := by
  rcases n with _ | _ | _ | _ | _ | _ | _ | _ | _ | _ | _ | _ | _ | n
  · exact Or.inl ⟨rfl, (Event.receive.inj h).symm⟩
  · cases h
  · cases h
  · cases h
  · exact Or.inr (Or.inl ⟨rfl, (Event.receive.inj h).symm⟩)
  · cases h
  · cases h
  · cases h
  · exact Or.inr (Or.inr (Or.inl ⟨rfl, (Event.receive.inj h).symm⟩))
  · cases h
  · cases h
  · cases h
  · cases h
  · exact Or.inr (Or.inr (Or.inr ⟨by omega, (Event.receive.inj h).symm⟩))

theorem delivers : Delivers (fun _ => history) run index where
  shows n v h := by
    obtain ⟨rfl, rfl⟩ | ⟨rfl, rfl⟩ | ⟨rfl, rfl⟩ | ⟨hn, rfl⟩ := received h
    · exact ⟨rfl, rfl⟩
    · exact ⟨rfl, rfl⟩
    · exact ⟨rfl, rfl⟩
    · rw [index, if_neg (by omega), if_neg (by omega)]
      exact ⟨rfl, rfl⟩
  ordered m n v w hlt hv hw _ hNotified _ := by
    obtain ⟨rfl, -⟩ | ⟨rfl, rfl⟩ | ⟨rfl, -⟩ | ⟨hm, -⟩ := received hv
    · exact Nat.zero_le _
    · cases hNotified
    · rw [index, index, if_neg (by omega), if_pos rfl, if_neg (by omega)]
      split <;> omega
    · rw [index, index, if_neg (by omega), if_neg (by omega), if_neg (by omega), if_neg (by omega)]

theorem removed : history.Removed 2 Race.request.item.id := by
  refine ⟨⟨0, Nat.zero_le _, [Race.request.item], itemsOf_zero, by simp⟩, ?_⟩
  rintro ⟨items, hItems, hMem⟩
  change itemsOf (accountBytes 2) = some items at hItems
  rw [itemsOf_two] at hItems
  cases hItems
  revert hMem
  decide +kernel

end Overtaken

/-- The snapshot of the state without the request is accepted at event 4, and the task spawned
at event 10 works on it again. -/
theorem overtaken_notification_resurrects :
    Delivers (fun _ => Overtaken.history) Overtaken.run Overtaken.index ∧
    Overtaken.run.event 4 = .receive (Race.view [Race.request.free, Overtaken.other] 101 true) ∧
    Accepts Sample.environment Sample.oracle (Overtaken.run.state 4)
      (Race.view [Race.request.free, Overtaken.other] 101 true) ∧
    Overtaken.history.Removed (Overtaken.index 4) Race.request.item.id ∧
    Spawns (Overtaken.run.state 10) (Overtaken.run.event 10) Sample.queueKey Race.request.item.id := by
  refine ⟨Overtaken.delivers, rfl, ⟨by decide +kernel, by decide +kernel⟩, Overtaken.removed, ?_⟩
  exact ⟨Race.view [Race.request, Overtaken.other] 101 false, Race.request.item, [Overtaken.other.item], rfl,
    by decide +kernel, rfl, rfl, by decide +kernel⟩

end Scheduler

end SolanaVrf
