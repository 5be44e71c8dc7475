import SolanaVrf.Platform.Ledger
import SolanaVrf.Lib.Transition

/-! # The filter of delegated queues

On a rollup the service handles a queue only if the node says that it is delegated.
`should_process_queue` asks the node once and remembers its word in `delegated_queue_statuses`;
calls for one queue run side by side, and none of them holds the map while it waits for the
node. `initialize_delegated_queue_filter` empties the map whenever `run` starts anew, while
calls of the run before may still be under way.
-/

namespace SolanaVrf
set_option autoImplicit false

open Transition

namespace Delegation

/-- A call of `should_process_queue`: before it reads the map, while it waits for the node, with the
node's word in hand, and at its end. -/
inductive Caller
  | looking (queue : Pubkey)
  | asking (queue : Pubkey)
  | storing (queue : Pubkey) (isDelegated : Bool)
  | returned (queue : Pubkey) (answer : Bool)
deriving DecidableEq

/-- The call may still write the queue's status. -/
def Caller.queries (queue : Pubkey) : Caller → Bool
  | asking q => q == queue
  | storing q _ => q == queue
  | _ => false

inductive Event
  | connect (isEr : Bool)
  | call (queue : Pubkey)
  | look (caller : Nat)
  | reply (caller : Nat) (status : Option Bool)
  | store (caller : Nat)
deriving DecidableEq

structure Filter where
  delegatedQueueStatuses : Option (Pubkey → Option Bool)
  callers : List Caller

namespace Filter

variable (s : Filter)

/-- The end of `initialize_delegated_queue_filter`; a node of the base layer leaves the map as it is. -/
def connect (isEr : Bool) : Filter := if isEr then { s with delegatedQueueStatuses := some fun _ => none } else s

/-- What a call makes of the map. -/
def lookup (queue : Pubkey) : Caller :=
  match s.delegatedQueueStatuses with
  | none => .returned queue true
  | some statuses =>
    match statuses queue with
    | some isDelegated => .returned queue isDelegated
    | none => .asking queue

def look (caller : Nat) : Filter :=
  match s.callers[caller]? with
  | some (.looking queue) => { s with callers := s.callers.set caller (s.lookup queue) }
  | _ => s

/-- The answer of `get_delegation_status`; an error turns the queue down this once. -/
def reply (caller : Nat) (status : Option Bool) : Filter :=
  match s.callers[caller]? with
  | some (.asking queue) =>
    { s with callers := s.callers.set caller ((status.map (Caller.storing queue)).getD (.returned queue false)) }
  | _ => s

def store (caller : Nat) : Filter :=
  match s.callers[caller]? with
  | some (.storing queue isDelegated) =>
    ⟨s.delegatedQueueStatuses.map fun statuses => Function.update statuses queue (some isDelegated),
      s.callers.set caller (.returned queue isDelegated)⟩
  | _ => s

def next (s : Filter) : Event → Filter
  | .connect isEr => s.connect isEr
  | .call queue => { s with callers := s.callers ++ [.looking queue] }
  | .look caller => s.look caller
  | .reply caller status => s.reply caller status
  | .store caller => s.store caller

end Filter

/-- A call can take a step of another phase only in vain, so every event is allowed; but nobody calls
before `run` has initialised the filter. -/
def machine : Machine Filter Event where
  initial s := ∃ isEr, s = Filter.connect ⟨none, []⟩ isEr
  allowed _ _ := True
  next := Filter.next

/-! ## What is known stays known -/

/-- The map has the queue's status, and no call is under way that could write it. -/
structure Settled (queue : Pubkey) (status : Bool) (s : Filter) : Prop where
  known : ∃ statuses, s.delegatedQueueStatuses = some statuses ∧ statuses queue = some status
  quiet : ∀ c ∈ s.callers, c.queries queue = false

namespace Settled

variable {queue : Pubkey} {status : Bool} {s : Filter}

theorem lookup_eq (h : Settled queue status s) : s.lookup queue = .returned queue status := by
  obtain ⟨statuses, hMap, hStatus⟩ := h.known
  simp only [Filter.lookup, hMap, hStatus]

theorem quiet_lookup (h : Settled queue status s) (q : Pubkey) : (s.lookup q).queries queue = false := by
  by_cases hq : q = queue
  · subst hq
    rw [h.lookup_eq]
    rfl
  · obtain ⟨statuses, hMap, -⟩ := h.known
    simp only [Filter.lookup, hMap]
    cases statuses q with
    | some isDelegated => rfl
    | none => exact beq_eq_false_iff_ne.mpr hq

theorem quiet_set (h : Settled queue status s) {c : Caller} (hc : c.queries queue = false) (i : Nat) :
    ∀ c' ∈ s.callers.set i c, c'.queries queue = false := by
  intro c' hc'
  obtain hOld | rfl := List.mem_or_eq_of_mem_set hc'
  · exact h.quiet c' hOld
  · exact hc

theorem look (h : Settled queue status s) (caller : Nat) : Settled queue status (s.look caller) := by
  unfold Filter.look
  split
  · exact ⟨h.known, h.quiet_set (h.quiet_lookup _) caller⟩
  · exact h

theorem reply (h : Settled queue status s) (caller : Nat) (word : Option Bool) :
    Settled queue status (s.reply caller word) := by
  unfold Filter.reply
  split
  · rename_i q hCaller
    have hOther : (q == queue) = false := h.quiet _ (List.mem_of_getElem? hCaller)
    refine ⟨h.known, h.quiet_set ?_ caller⟩
    cases word with
    | some isDelegated => exact hOther
    | none => rfl
  · exact h

theorem store (h : Settled queue status s) (caller : Nat) : Settled queue status (s.store caller) := by
  unfold Filter.store
  split
  · rename_i q isDelegated hCaller
    have hOther : (q == queue) = false := h.quiet _ (List.mem_of_getElem? hCaller)
    obtain ⟨statuses, hMap, hStatus⟩ := h.known
    refine ⟨⟨_, by rw [hMap]; rfl, ?_⟩, h.quiet_set rfl caller⟩
    dsimp only
    rw [Function.update_of_ne (beq_eq_false_iff_ne.mp hOther).symm, hStatus]
  · exact h

theorem next (h : Settled queue status s) {e : Event} (hRun : e ≠ .connect true) : Settled queue status (s.next e) := by
  cases e with
  | connect isEr =>
    cases isEr with
    | true => exact absurd rfl hRun
    | false => exact h
  | call q =>
    refine ⟨h.known, fun c hc => ?_⟩
    obtain hOld | hNew := List.mem_append.mp hc
    · exact h.quiet c hOld
    · obtain rfl := List.mem_singleton.mp hNew
      rfl
  | look caller => exact h.look caller
  | reply caller word => exact h.reply caller word
  | store caller => exact h.store caller

end Settled

/-- Once the filter has a queue's status and no query for the queue is under way, it keeps that status
until `run` starts anew: no call asks the node again, and each returns the old word, whatever has become
of the queue. -/
theorem delegation_status_sticks (run : machine.Run) (queue : Pubkey) (status : Bool) {m n : Nat} (hmn : m ≤ n)
    (hSettled : Settled queue status (run.state m)) (hRun : ∀ k, m ≤ k → k < n → run.event k ≠ .connect true) :
    Settled queue status (run.state n) ∧
      ∀ i, (run.state n).callers[i]? = some (.looking queue) →
        ((run.state n).look i).callers[i]? = some (.returned queue status) := by
  have hNow : Settled queue status (run.state n) := by
    induction n, hmn using Nat.le_induction with
    | base => exact hSettled
    | succ n hmn ih =>
      exact (ih fun k hk hn => hRun k hk (Nat.lt_succ_of_lt hn)).next (hRun n hmn (Nat.lt_succ_self n))
  refine ⟨hNow, fun i hi => ?_⟩
  have hLength := (List.getElem?_eq_some_iff.mp hi).1
  simp only [Filter.look, hi, hNow.lookup_eq]
  rw [List.getElem?_set_self hLength]

/-- The node calls the queue undelegated when it is first seen. -/
def ignoring : machine.Run :=
  .ofList machine (Filter.connect ⟨none, []⟩ true)
    [.call systemProgramId, .look 0, .reply 0 (some false), .store 0, .call systemProgramId] (.connect false)
    ⟨true, rfl⟩ (fun _ _ => trivial) rfl

theorem delegation_status_sticks_ignoring :
    Settled systemProgramId false (ignoring.state 5) ∧
      ((ignoring.state 5).look 1).callers[1]? = some (.returned systemProgramId false) := by
  have hSettled : Settled systemProgramId false (ignoring.state 4) :=
    ⟨⟨_, rfl, by decide +kernel⟩, by decide +kernel⟩
  have hRun : ∀ k, 4 ≤ k → k < 5 → ignoring.event k ≠ .connect true := by
    intro k hk hk'
    obtain rfl : k = 4 := by omega
    decide +kernel
  obtain ⟨hStays, hAnswers⟩ := delegation_status_sticks ignoring systemProgramId false (by decide) hSettled hRun
  exact ⟨hStays, hAnswers 1 (by decide +kernel)⟩

/-! ## Where a yes comes from -/

variable {run : machine.Run}

/-- The node has called the queue delegated before this step. -/
def Said (run : machine.Run) (queue : Pubkey) (n : Nat) : Prop :=
  ∃ k < n, ∃ j, run.event k = .reply j (some true) ∧ (run.state k).callers[j]? = some (.asking queue)

theorem Said.succ {queue : Pubkey} {n : Nat} (h : Said run queue n) : Said run queue (n + 1) := by
  obtain ⟨k, hk, hSaid⟩ := h
  exact ⟨k, Nat.lt_succ_of_lt hk, hSaid⟩

/-- The caller has a yes, in hand or returned. -/
def Caller.yes (queue : Pubkey) : Caller → Bool
  | storing q isDelegated => q == queue && isDelegated
  | returned q answer => q == queue && answer
  | _ => false

/-- Every yes of the map and of the callers is the node's. -/
structure Backed (run : machine.Run) (queue : Pubkey) (n : Nat) (s : Filter) : Prop where
  map : ∃ statuses, s.delegatedQueueStatuses = some statuses ∧ (statuses queue = some true → Said run queue n)
  callers : ∀ c ∈ s.callers, c.yes queue = true → Said run queue n

namespace Backed

variable {queue : Pubkey} {n : Nat} {s : Filter}

theorem later (h : Backed run queue n s) : Backed run queue (n + 1) s := by
  obtain ⟨⟨statuses, hMap, hYes⟩, hCallers⟩ := h
  exact ⟨⟨statuses, hMap, fun hTrue => (hYes hTrue).succ⟩, fun c hc hTrue => (hCallers c hc hTrue).succ⟩

theorem set (h : Backed run queue n s) {c : Caller} (hc : c.yes queue = true → Said run queue n) (i : Nat) :
    ∀ c' ∈ s.callers.set i c, c'.yes queue = true → Said run queue n := by
  intro c' hc' hYes
  obtain hOld | rfl := List.mem_or_eq_of_mem_set hc'
  · exact h.callers c' hOld hYes
  · exact hc hYes

theorem lookup (h : Backed run queue n s) (q : Pubkey) (hYes : (s.lookup q).yes queue = true) : Said run queue n := by
  obtain ⟨statuses, hMap, hSaid⟩ := h.map
  cases hStatus : statuses q with
  | none =>
    simp only [Filter.lookup, hMap, hStatus] at hYes
    cases hYes
  | some isDelegated =>
    simp only [Filter.lookup, hMap, hStatus, Caller.yes, Bool.and_eq_true, beq_iff_eq] at hYes
    obtain ⟨rfl, rfl⟩ := hYes
    exact hSaid hStatus

theorem look (h : Backed run queue n s) (caller : Nat) : Backed run queue n (s.look caller) := by
  unfold Filter.look
  split
  · exact ⟨h.map, h.set (h.lookup _) caller⟩
  · exact h

theorem store (h : Backed run queue n s) (caller : Nat) : Backed run queue n (s.store caller) := by
  unfold Filter.store
  split
  · rename_i q isDelegated hCaller
    have hOwn := h.callers _ (List.mem_of_getElem? hCaller)
    obtain ⟨statuses, hMap, hSaid⟩ := h.map
    refine ⟨⟨_, by rw [hMap]; rfl, fun hTrue => ?_⟩, h.set (c := .returned q isDelegated) hOwn caller⟩
    dsimp only at hTrue
    by_cases hq : queue = q
    · subst hq
      rw [Function.update_self] at hTrue
      cases hTrue
      exact hOwn (by simp [Caller.yes])
    · rw [Function.update_of_ne hq] at hTrue
      exact hSaid hTrue
  · exact h

/-- The only step that brings a new yes is a reply of the node. -/
theorem reply (h : Backed run queue n (run.state n)) {caller : Nat} {word : Option Bool}
    (hEvent : run.event n = .reply caller word) : Backed run queue (n + 1) ((run.state n).reply caller word) := by
  unfold Filter.reply
  split
  · rename_i q hCaller
    refine ⟨h.later.map, h.later.set (fun hYes => ?_) caller⟩
    cases word with
    | none => simp [Caller.yes] at hYes
    | some isDelegated =>
      simp only [Option.map_some, Option.getD_some, Caller.yes, Bool.and_eq_true, beq_iff_eq] at hYes
      obtain ⟨rfl, rfl⟩ := hYes
      exact ⟨n, Nat.lt_succ_self n, caller, hEvent, hCaller⟩
  · exact h.later

theorem next (h : Backed run queue n (run.state n)) : Backed run queue (n + 1) (run.state (n + 1)) := by
  change Backed run queue (n + 1) ((run.state n).next (run.event n))
  cases hEvent : run.event n with
  | connect isEr =>
    cases isEr with
    | true => exact ⟨⟨_, rfl, fun hTrue => by cases hTrue⟩, h.later.callers⟩
    | false => exact h.later
  | call q =>
    refine ⟨h.later.map, fun c hc hYes => ?_⟩
    obtain hOld | hNew := List.mem_append.mp hc
    · exact h.later.callers c hOld hYes
    · obtain rfl := List.mem_singleton.mp hNew
      cases hYes
  | look caller => exact h.later.look caller
  | reply caller word => exact h.reply hEvent
  | store caller => exact h.later.store caller

end Backed

/-- With a rollup's node, a queue is handled only if the node has called it delegated: errors and races
between calls never let one through. -/
theorem handled_only_if_delegated (run : machine.Run) (hRollup : run.start = Filter.connect ⟨none, []⟩ true)
    (queue : Pubkey) {n i : Nat} (hAnswer : (run.state n).callers[i]? = some (.returned queue true)) :
    ∃ k < n, ∃ j, run.event k = .reply j (some true) ∧ (run.state k).callers[j]? = some (.asking queue) := by
  have hBacked : ∀ n, Backed run queue n (run.state n) := by
    intro n
    induction n with
    | zero =>
      change Backed run queue 0 run.start
      rw [hRollup]
      exact ⟨⟨_, rfl, fun hTrue => by cases hTrue⟩, fun c hc => by cases hc⟩
    | succ n ih => exact ih.next
  exact (hBacked n).callers _ (List.mem_of_getElem? hAnswer) (by simp [Caller.yes])

/-- Two calls race, one of them in vain. -/
def racing : machine.Run :=
  .ofList machine (Filter.connect ⟨none, []⟩ true)
    [.call systemProgramId, .call systemProgramId, .look 0, .look 1, .reply 1 none, .reply 0 (some true), .store 0]
    (.connect false) ⟨true, rfl⟩ (fun _ _ => trivial) rfl

theorem handled_only_if_delegated_racing :
    (racing.state 7).callers = [.returned systemProgramId true, .returned systemProgramId false] ∧
      ∃ k < 7, ∃ j, racing.event k = .reply j (some true) ∧
        (racing.state k).callers[j]? = some (.asking systemProgramId) := by
  have hCallers : (racing.state 7).callers = [.returned systemProgramId true, .returned systemProgramId false] := by
    decide +kernel
  refine ⟨hCallers, @handled_only_if_delegated racing rfl systemProgramId 7 0 ?_⟩
  rw [hCallers]
  rfl

end Delegation

end SolanaVrf
