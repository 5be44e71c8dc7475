import SolanaVrf.Api.QueueAccount
import SolanaVrf.Platform.Runtime
import SolanaVrf.Lib.Nested
import SolanaVrf.Lib.Transition

/-! # The oracle's scheduler

`process_oracle_queue` and the tasks it spawns share three locked maps. A view of a queue
is applied under the guard on `latest_view_slots`: first the diff against the tracked
requests, then one reserve-and-publish section per item. A task that leaves its send loop
removes itself from `active_tasks` and, in a second section, from `inflight_requests`.
Every lock-protected section is one event; between them the parties interleave freely. A
handle is the number of its task. The statistics maps are written only, and left out.
-/

namespace SolanaVrf
set_option autoImplicit false

open Pod Nested Transition

def itemsOf (accountBytes : List UInt8) : Option (List QueueItem) :=
  match QueueAccount.load accountBytes with
  | .ok queueAccount => queueAccount.iterItems
  | .error _ => none

/-- Account data handed to `process_oracle_queue`, with what `should_process_queue` answered. -/
structure View where
  queue : Pubkey
  accountBytes : List UInt8
  notificationSlot : Option UInt64
  isSnapshot : Bool
  shouldProcess : Bool
deriving DecidableEq

namespace View

def isOurs (env : Environment) (oracle : Pubkey) (v : View) : Bool :=
  match Queue.tryFromBytes v.accountBytes with
  | .ok oracleQueue => (env.oracleQueuePda oracle oracleQueue.index).1 == v.queue && v.shouldProcess
  | .error _ => false

def stale (v : View) (latest : UInt64) : Bool :=
  match v.notificationSlot with
  | some viewSlot => if v.isSnapshot then viewSlot ≤ latest else viewSlot < latest
  | none => false

def noted (v : View) (latestViews : Pubkey → UInt64) : Pubkey → UInt64 :=
  match v.notificationSlot with
  | some viewSlot => Function.update latestViews v.queue viewSlot
  | none => latestViews

def items (v : View) : Option (List QueueItem) := itemsOf v.accountBytes

/-- The view is no newer than the slot of a request, so its absence says nothing. -/
def predates (v : View) (enqueueSlot : Option UInt64) : Bool :=
  match enqueueSlot, v.notificationSlot with
  | some enqueueSlot, some viewSlot => viewSlot ≤ enqueueSlot
  | _, _ => false

end View

namespace Scheduler

/-- Where a task is: in its send loop, past the first or the second section of its cleanup. -/
inductive Progress
  | running
  | unlisted
  | finished
  | aborted
deriving DecidableEq

def Progress.live : Progress → Bool
  | running => true
  | unlisted => true
  | finished => false
  | aborted => false

structure Task where
  queue : Pubkey
  item : QueueItem
  progress : Progress
deriving DecidableEq

/-- The maps under their locks, and every task spawned so far. -/
structure Tracking where
  inflightRequests : Table Pubkey (Bytes 32) UInt64
  activeTasks : Table Pubkey (Bytes 32) Nat
  tasks : List Task

namespace Tracking

/-- `handle.abort()`; a task that has ended stays as it is. -/
def abort (b : Tracking) (handle : Nat) : Tracking :=
  { b with tasks := b.tasks.modify handle fun t => if t.progress.live then { t with progress := .aborted } else t }

/-- `tasks_for_queue.remove(id)` and, if a handle was there, its abort. -/
def abortActive (b : Tracking) (queue : Pubkey) (id : Bytes 32) : Tracking :=
  match b.activeTasks.lookup queue id with
  | some handle => { b.abort handle with activeTasks := b.activeTasks.erase queue id }
  | none => b

/-- The body of the diff's loop for one tracked id. -/
def cancel (v : View) (currentIds : List (Bytes 32)) (b : Tracking) (trackedId : Bytes 32) : Tracking :=
  if trackedId ∈ currentIds then b
  else if v.predates (b.inflightRequests.lookup v.queue trackedId) then b
  else
    let b := b.abortActive v.queue trackedId
    { b with inflightRequests := b.inflightRequests.erase v.queue trackedId }

def diff (v : View) (items : List QueueItem) (b : Tracking) : Tracking :=
  (b.inflightRequests.keys v.queue).foldl (cancel v (items.map QueueItem.id)) b

/-- Reserves the item and publishes a task for it, unless it is reserved already. -/
def reserve (queue : Pubkey) (item : QueueItem) (b : Tracking) : Tracking :=
  if (b.inflightRequests.lookup queue item.id).isSome then b
  else
    { inflightRequests := b.inflightRequests.insert queue item.id item.slot
      activeTasks := b.activeTasks.insert queue item.id b.tasks.length
      tasks := b.tasks ++ [⟨queue, item, .running⟩] }

/-- First section of a cleanup: out of `active_tasks`, by id. -/
def unlist (handle : Nat) (t : Task) (b : Tracking) : Tracking :=
  { b with
    activeTasks := b.activeTasks.erase t.queue t.item.id
    tasks := b.tasks.set handle { t with progress := .unlisted } }

/-- Second section of a cleanup: out of `inflight_requests`, by id. -/
def clear (handle : Nat) (t : Task) (b : Tracking) : Tracking :=
  { b with
    inflightRequests := b.inflightRequests.erase t.queue t.item.id
    tasks := b.tasks.set handle { t with progress := .finished } }

end Tracking

/-- Who holds the guard on `latest_view_slots`: nobody, a view before its diff, or a view that
has these items left to handle. -/
inductive Guard
  | free
  | diffing (view : View) (items : List QueueItem)
  | handling (view : View) (rest : List QueueItem)
deriving DecidableEq

def Guard.isDiffing : Guard → Bool
  | diffing _ _ => true
  | _ => false

def Guard.isHandling : Guard → Bool
  | handling _ _ => true
  | _ => false

inductive Event
  | receive (view : View)
  | diff
  | handle
  | attempt (handle : Nat)
  | unlist (handle : Nat)
  | clear (handle : Nat)

end Scheduler

open Scheduler

structure Scheduler where
  guard : Guard
  latestViewSlots : Pubkey → UInt64
  tracking : Tracking

namespace Scheduler

/-- The guard's section: drops a stale view, else notes its slot and loads the account. -/
def receive (env : Environment) (oracle : Pubkey) (v : View) (s : Scheduler) : Scheduler :=
  if v.isOurs env oracle then
    if v.stale (s.latestViewSlots v.queue) then s
    else
      let s := { s with latestViewSlots := v.noted s.latestViewSlots }
      match v.items with
      | some items => { s with guard := .diffing v items }
      | none => s
  else s

def next (env : Environment) (oracle : Pubkey) (s : Scheduler) : Event → Scheduler
  | .receive v => s.receive env oracle v
  | .diff =>
    match s.guard with
    | .diffing v items => { s with guard := .handling v items, tracking := s.tracking.diff v items }
    | _ => s
  | .handle =>
    match s.guard with
    | .handling v (item :: rest) =>
      { s with guard := .handling v rest, tracking := s.tracking.reserve v.queue item }
    | .handling _ [] => { s with guard := .free }
    | _ => s
  -- a send attempt takes none of the locks
  | .attempt _ => s
  | .unlist handle =>
    match s.tracking.tasks[handle]? with
    | some t => { s with tracking := s.tracking.unlist handle t }
    | none => s
  | .clear handle =>
    match s.tracking.tasks[handle]? with
    | some t => { s with tracking := s.tracking.clear handle t }
    | none => s

/-- A view needs the guard; a task acts in the order of its code and never after an abort. -/
def Allowed (s : Scheduler) : Event → Prop
  | .receive _ => s.guard = .free
  | .diff => s.guard.isDiffing = true
  | .handle => s.guard.isHandling = true
  | .attempt handle => s.tracking.tasks[handle]?.map Task.progress = some .running
  | .unlist handle => s.tracking.tasks[handle]?.map Task.progress = some .running
  | .clear handle => s.tracking.tasks[handle]?.map Task.progress = some .unlisted

instance decidableAllowed (s : Scheduler) : (e : Event) → Decidable (s.Allowed e)
  | .receive _ => inferInstanceAs (Decidable (_ = _))
  | .diff => inferInstanceAs (Decidable (_ = _))
  | .handle => inferInstanceAs (Decidable (_ = _))
  | .attempt _ => inferInstanceAs (Decidable (_ = _))
  | .unlist _ => inferInstanceAs (Decidable (_ = _))
  | .clear _ => inferInstanceAs (Decidable (_ = _))

def initial : Scheduler := ⟨.free, fun _ => 0, ⟨.empty, .empty, []⟩⟩

def machine (env : Environment) (oracle : Pubkey) : Machine Scheduler Event where
  initial s := s = initial
  allowed := Allowed
  next := next env oracle

end Scheduler

abbrev SchedulerRun (env : Environment) (oracle : Pubkey) := (Scheduler.machine env oracle).Run

end SolanaVrf
