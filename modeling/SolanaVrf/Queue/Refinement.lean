import SolanaVrf.Queue.Remove
import Mathlib.Data.List.InsertIdx

/-! # The queue account refines a list of entries

The abstract queue is a list of entries in logical order, each tagged with the number of
the call that added it. Insertion puts one entry at the index the call returns, removal
erases one index, and removal by predicate retains what the predicate rejects; nothing
else changes an entry. Every sequence of calls on a zeroed account runs without a panic
and is matched, call by call, by the abstract queue.
-/

namespace SolanaVrf
set_option autoImplicit false

open Pod Slices Tiling QueueAccount

/-! ## Calls -/

/-- What an insertion is asked to store; `idAt` is the id its closure gives for a position. -/
structure Insertion where
  base : QueueItem
  discriminator : List UInt8
  metas : List CompactAccountMeta
  args : List UInt8
  idAt : UInt32 → Bytes 32

namespace Insertion

def tooLarge (req : Insertion) : Prop :=
  req.metas.length > MAX_CALLBACK_ACCOUNTS ∨ req.args.length > 512

/-- The record stored at an offset: the base item with its id, its payload and its descriptor. -/
def storedAt (req : Insertion) (pos : Nat) : Record :=
  .written pos { req.base with id := req.idAt (UInt32.ofNat pos) } req.discriminator req.metas req.args

end Insertion

inductive Call : Type 1
  | addItem (base : QueueItem) (discriminator : List UInt8) (metas : List CompactAccountMeta)
      (args : List UInt8)
  | addItemWithId {τ : Type} (base : QueueItem) (discriminator : List UInt8)
      (metas : List CompactAccountMeta) (args : List UInt8) (idFromPos : τ → UInt32 → Bytes 32 × τ) (s : τ)
  | removeItem (index : Nat)
  | removeItemsMatching {τ : Type} (pred : τ → QueueItem → Bool × τ) (onRemoved : τ → QueueItem → τ) (s : τ)

inductive Outcome
  | index (k : Nat)
  | removed (item : QueueItem)
  | done
  | error (e : ProgramError)
deriving DecidableEq

namespace Call

def insertion? : Call → Option Insertion
  | addItem base discriminator metas args => some ⟨base, discriminator, metas, args, fun _ => base.id⟩
  | addItemWithId base discriminator metas args idFromPos s =>
    some ⟨base, discriminator, metas, args, fun pos => (idFromPos s pos).1⟩
  | removeItem _ => none
  | removeItemsMatching _ _ _ => none

def ofIndex : Except ProgramError Nat → Outcome
  | .ok k => .index k
  | .error e => .error e

def ofItem : Except ProgramError QueueItem → Outcome
  | .ok item => .removed item
  | .error e => .error e

def apply (q : QueueAccount) : Call → Option (Outcome × QueueAccount)
  | addItem base discriminator metas args =>
    (q.addItem base discriminator metas args).map fun x => (ofIndex x.1, x.2)
  | addItemWithId base discriminator metas args idFromPos s =>
    (q.addItemWithId base discriminator metas args idFromPos s).map fun x => (ofIndex x.1, x.2.1)
  | removeItem index => (q.removeItem index).map fun x => (ofItem x.1, x.2)
  | removeItemsMatching pred onRemoved s =>
    (q.removeItemsMatching pred onRemoved s).map fun x => (.done, x.1)

def run (q : QueueAccount) : List Call → Option (List Outcome × QueueAccount)
  | [] => some ([], q)
  | call :: calls => do
    let (outcome, q) ← apply q call
    let (outcomes, q) ← run q calls
    return (outcome :: outcomes, q)

end Call

/-! ## The abstract queue -/

structure Entry where
  serial : Nat
  record : Record
deriving DecidableEq

namespace Entry

def item (e : Entry) : QueueItem := e.record.item

inductive Step (n : Nat) : List Entry → Call → Outcome → List Entry → Prop
  | added {L : List Entry} {call : Call} (req : Insertion) (k pos : Nat)
      (hCall : call.insertion? = some req) (hLimits : ¬req.tooLarge) (hIndex : k ≤ L.length) :
      Step n L call (.index k) (L.insertIdx k ⟨n, req.storedAt pos⟩)
  | tooLarge {L : List Entry} {call : Call} {req : Insertion} (hCall : call.insertion? = some req)
      (hLimits : req.tooLarge) :
      Step n L call (.error SolanaVrfError.argumentSizeTooLarge.toProgramError) L
  | full {L : List Entry} {call : Call} {req : Insertion} (hCall : call.insertion? = some req)
      (hLimits : ¬req.tooLarge) : Step n L call (.error .accountDataTooSmall) L
  | removed {L : List Entry} {e : Entry} {i : Nat} (hEntry : L[i]? = some e) :
      Step n L (.removeItem i) (.removed { e.item with used := 0 }) (L.eraseIdx i)
  | absent {L : List Entry} {i : Nat} (hIndex : L.length ≤ i) :
      Step n L (.removeItem i) (.error SolanaVrfError.invalidQueueIndex.toProgramError) L
  | matched {L : List Entry} {τ : Type} (pred : τ → QueueItem → Bool × τ) (onRemoved : τ → QueueItem → τ)
      (s : τ) : Step n L (.removeItemsMatching pred onRemoved s) .done (retain pred onRemoved item s L).1

inductive Run : Nat → List Entry → List Call → List Outcome → List Entry → Prop
  | nil (n : Nat) (L : List Entry) : Run n L [] [] L
  | cons {n : Nat} {L L₁ L₂ : List Entry} {call : Call} {calls : List Call} {outcome : Outcome}
      {outcomes : List Outcome} (hStep : Step n L call outcome L₁) (hRun : Run (n + 1) L₁ calls outcomes L₂) :
      Run n L (call :: calls) (outcome :: outcomes) L₂

end Entry

/-! ## Simulation -/

theorem insertIdx_append_length {α : Type} (xs ys : List α) (a : α) :
    (xs ++ ys).insertIdx xs.length a = xs ++ a :: ys := by
  induction xs with
  | nil => rfl
  | cons x xs ih => exact congrArg (x :: ·) ih

theorem Inserts.filter_live {new : Record} {recs recs' : List Record} {pos k : Nat}
    (h : Inserts new recs recs' pos k) (hNew : new.live = true) :
    recs'.filter Record.live = (recs.filter Record.live).insertIdx k new ∧
      k ≤ (recs.filter Record.live).length := by
  cases h with
  | reuse xs hole ys hHole hSpan =>
    rw [List.filter_append, List.filter_append, List.filter_cons_of_pos hNew,
      List.filter_cons_of_neg (by simp [hHole]), ← length_filter_live, insertIdx_append_length]
    exact ⟨rfl, by simp⟩
  | append xs hNone =>
    rw [List.filter_append, List.filter_cons_of_pos hNew, ← length_filter_live,
      List.insertIdx_length_self]
    exact ⟨rfl, Nat.le_refl _⟩

/-- The body holds the entries' records, in order, possibly with holes between them. -/
def Holds (q : QueueAccount) (L : List Entry) : Prop :=
  ∃ recs, Represents q recs ∧ recs.filter Record.live = L.map Entry.record

theorem Holds.count {q : QueueAccount} {L : List Entry} (h : Holds q L) :
    q.header.itemCount.toNat = L.length := by
  obtain ⟨recs, hRep, hLive⟩ := h
  rw [hRep.count, ← length_filter_live, hLive, List.length_map]

theorem Holds.iterItems {q : QueueAccount} {L : List Entry} (h : Holds q L) :
    q.iterItems = some (L.map Entry.item) := by
  obtain ⟨recs, hRep, hLive⟩ := h
  rw [hRep.iterItems_eq, hLive, List.map_map]
  rfl

theorem Holds.payload {q : QueueAccount} {L : List Entry} (h : Holds q L) {e : Entry} (he : e ∈ L) :
    e.item.callbackDiscriminator q.acc = some e.record.discriminator ∧
      e.item.accountMetas q.acc = some e.record.metas ∧ e.item.callbackArgs q.acc = some e.record.args := by
  obtain ⟨recs, hRep, hLive⟩ := h
  have hMem : e.record ∈ recs.filter Record.live := by
    rw [hLive]
    exact List.mem_map_of_mem he
  obtain ⟨xs, ys, rfl⟩ := List.append_of_mem (List.mem_of_mem_filter hMem)
  exact payload_eq hRep.tiled

section

variable {q : QueueAccount} {L : List Entry}

theorem Holds.insert (h : Holds q L) (n : Nat) (call : Call) {τ : Type} (base : QueueItem)
    (disc : List UInt8) (metas : List CompactAccountMeta) (args : List UInt8)
    (idFromPos : τ → UInt32 → Bytes 32 × τ) (s : τ)
    (hCall : call.insertion? = some ⟨base, disc, metas, args, fun pos => (idFromPos s pos).1⟩)
    (hDisc : disc.length ≤ 8) :
    ∃ result q' s' L', q.addItemWithId base disc metas args idFromPos s = some (result, q', s') ∧
      Entry.Step n L call (Call.ofIndex result) L' ∧ Holds q' L' := by
  obtain ⟨recs, hRep, hLive⟩ := h
  by_cases hLarge : metas.length > MAX_CALLBACK_ACCOUNTS ∨ args.length > 512
  · exact ⟨.error _, q, s, L, addItemWithId_tooLarge hLarge, .tooLarge hCall hLarge, recs, hRep, hLive⟩
  · have hDisc : disc.length < 2 ^ 16 := by omega
    obtain ⟨pos, k, recs', q', hEq, hInserts, hRep', -⟩ | ⟨hEq, -, -⟩ :=
      addItemWithId_eq base idFromPos s hRep hDisc hLarge
    · obtain ⟨hFilter, hIndex⟩ := hInserts.filter_live rfl
      rw [hLive] at hFilter hIndex
      rw [List.length_map] at hIndex
      refine ⟨.ok k, q', _, _, hEq, .added _ k pos hCall hLarge hIndex, recs', hRep', ?_⟩
      rw [hFilter, List.map_insertIdx]
      rfl
    · exact ⟨.error _, q, s, L, hEq, .full hCall hLarge, recs, hRep, hLive⟩

theorem Holds.remove (h : Holds q L) (n i : Nat) :
    ∃ result q' L', q.removeItem i = some (result, q') ∧
      Entry.Step n L (.removeItem i) (Call.ofItem result) L' ∧ Holds q' L' := by
  obtain ⟨recs, hRep, hLive⟩ := h
  obtain ⟨hAbsent, hEq⟩ | ⟨xs, r, ys, q', rfl, hUsed, hIndex, hEq, hRep', -, -, -⟩ := hRep.removeItem_eq i
  · refine ⟨_, q, L, hEq, .absent ?_, recs, hRep, hLive⟩
    rwa [← length_filter_live, hLive, List.length_map] at hAbsent
  · rw [List.filter_append, List.filter_cons_of_pos hUsed] at hLive
    rw [← length_filter_live] at hIndex
    have hAt : (L.map Entry.record)[i]? = some r := by
      rw [← hLive, ← hIndex]
      simp
    obtain ⟨e, hEntry, hRecord⟩ : ∃ e, L[i]? = some e ∧ e.record = r := by
      simpa using hAt
    subst hRecord
    refine ⟨_, q', L.eraseIdx i, hEq, .removed hEntry, _, hRep', ?_⟩
    rw [filter_live_trim, List.filter_append, List.filter_cons_of_neg (by simp), ← List.eraseIdx_map,
      ← hLive, ← hIndex, List.eraseIdx_append_of_length_le (Nat.le_refl _)]
    simp

theorem Holds.removeMatching (h : Holds q L) (n : Nat) {τ : Type} (pred : τ → QueueItem → Bool × τ)
    (onRemoved : τ → QueueItem → τ) (s : τ) :
    ∃ q' s' L', q.removeItemsMatching pred onRemoved s = some (q', s') ∧
      Entry.Step n L (.removeItemsMatching pred onRemoved s) .done L' ∧ Holds q' L' := by
  obtain ⟨recs, hRep, hLive⟩ := h
  obtain ⟨q', hEq, hRep', -, -, -⟩ := hRep.removeItemsMatching_eq pred onRemoved s
  refine ⟨q', _, _, hEq, .matched pred onRemoved s, _, hRep', ?_⟩
  have hSweep := sweep_live pred onRemoved s recs
  rw [hLive, retain_map] at hSweep
  rw [filter_live_trim]
  exact congrArg Prod.fst hSweep

def Call.discriminatorLength (call : Call) : Nat :=
  match call.insertion? with
  | some req => req.discriminator.length
  | none => 0

/-- Every call on a held queue returns and is a step of the abstract queue. -/
theorem Holds.apply (h : Holds q L) (n : Nat) (call : Call) (hDisc : call.discriminatorLength ≤ 8) :
    ∃ outcome q' L', call.apply q = some (outcome, q') ∧ Entry.Step n L call outcome L' ∧ Holds q' L' := by
  cases call with
  | addItem base disc metas args =>
    obtain ⟨result, q', s', L', hEq, hStep, hHolds⟩ := h.insert n (.addItem base disc metas args) base disc metas args
      (fun (_ : Unit) _ => (base.id, ())) () rfl hDisc
    refine ⟨_, q', L', ?_, hStep, hHolds⟩
    rw [Call.apply, addItem, hEq]
    rfl
  | addItemWithId base disc metas args idFromPos s =>
    obtain ⟨result, q', s', L', hEq, hStep, hHolds⟩ := h.insert n
      (.addItemWithId base disc metas args idFromPos s) base disc metas args idFromPos s rfl hDisc
    refine ⟨_, q', L', ?_, hStep, hHolds⟩
    rw [Call.apply, hEq]
    rfl
  | removeItem i =>
    obtain ⟨result, q', L', hEq, hStep, hHolds⟩ := h.remove n i
    refine ⟨_, q', L', ?_, hStep, hHolds⟩
    rw [Call.apply, hEq]
    rfl
  | removeItemsMatching pred onRemoved s =>
    obtain ⟨q', s', L', hEq, hStep, hHolds⟩ := h.removeMatching n pred onRemoved s
    refine ⟨_, q', L', ?_, hStep, hHolds⟩
    rw [Call.apply, hEq]
    rfl

theorem Holds.run (h : Holds q L) (n : Nat) (calls : List Call)
    (hDisc : ∀ call ∈ calls, call.discriminatorLength ≤ 8) :
    ∃ outcomes q' L', Call.run q calls = some (outcomes, q') ∧ Entry.Run n L calls outcomes L' ∧
      Holds q' L' := by
  induction calls generalizing q L n with
  | nil => exact ⟨[], q, L, rfl, .nil n L, h⟩
  | cons call calls ih =>
    obtain ⟨outcome, q₁, L₁, hApply, hStep, hHolds⟩ := h.apply n call (hDisc call List.mem_cons_self)
    obtain ⟨outcomes, q₂, L₂, hRun, hSteps, hHolds⟩ := ih hHolds (n + 1)
      fun call hCall => hDisc call (List.mem_cons_of_mem _ hCall)
    refine ⟨outcome :: outcomes, q₂, L₂, ?_, .cons hStep hSteps, hHolds⟩
    simp only [Call.run, hApply, Option.bind_eq_bind, Option.bind_some, hRun, Option.pure_def]

end

/-! ## Provenance of entries -/

namespace Entry

variable {n : Nat} {L L' : List Entry} {call : Call} {outcome : Outcome}

def AddedBy (calls : List Call) (outcomes : List Outcome) (e : Entry) : Prop :=
  ∃ call req k pos, calls[e.serial]? = some call ∧ outcomes[e.serial]? = some (.index k) ∧
    call.insertion? = some req ∧ e.record = req.storedAt pos

theorem Step.mem (h : Step n L call outcome L') {e : Entry} (he : e ∈ L') :
    e ∈ L ∨ ∃ req k pos, outcome = .index k ∧ call.insertion? = some req ∧ e = ⟨n, req.storedAt pos⟩ := by
  cases h with
  | added req k pos hCall hLimits hIndex =>
    rw [List.mem_insertIdx hIndex] at he
    obtain rfl | he := he
    · exact Or.inr ⟨_, k, pos, rfl, hCall, rfl⟩
    · exact Or.inl he
  | tooLarge hCall hLimits => exact Or.inl he
  | full hCall hLimits => exact Or.inl he
  | removed hEntry => exact Or.inl ((List.eraseIdx_sublist _ _).subset he)
  | absent hIndex => exact Or.inl he
  | matched pred onRemoved s => exact Or.inl ((retain_sublist pred onRemoved item s L).subset he)

theorem Step.nodup (h : Step n L call outcome L') (hBelow : ∀ e ∈ L, e.serial < n)
    (hNodup : (L.map serial).Nodup) : (L'.map serial).Nodup := by
  cases h with
  | added req k pos hCall hLimits hIndex =>
    have hPerm := (List.perm_insertIdx ⟨n, req.storedAt pos⟩ L hIndex).map serial
    refine hPerm.nodup_iff.mpr (List.nodup_cons.mpr ⟨?_, hNodup⟩)
    rintro hMem
    obtain ⟨e, he, hSerial⟩ := List.mem_map.mp hMem
    exact absurd hSerial (Nat.ne_of_lt (hBelow e he))
  | tooLarge hCall hLimits => exact hNodup
  | full hCall hLimits => exact hNodup
  | removed hEntry => exact hNodup.sublist ((List.eraseIdx_sublist _ _).map serial)
  | absent hIndex => exact hNodup
  | matched pred onRemoved s =>
    exact hNodup.sublist ((retain_sublist pred onRemoved item s L).map serial)

/-- Over a run, after `before` calls with their results, serial numbers stay distinct and every
entry is the work of the call it names. -/
theorem Run.provenance {calls : List Call} {outcomes : List Outcome} (h : Run n L calls outcomes L')
    (before : List Call) (results : List Outcome) (hBefore : before.length = n)
    (hResults : results.length = n) (hNodup : (L.map serial).Nodup)
    (hAdded : ∀ e ∈ L, AddedBy before results e) :
    (L'.map serial).Nodup ∧ ∀ e ∈ L', AddedBy (before ++ calls) (results ++ outcomes) e := by
  induction h generalizing before results with
  | nil n L => simpa using ⟨hNodup, hAdded⟩
  | @cons n L L₁ L₂ call calls outcome outcomes hStep hRun ih =>
    have hBelow : ∀ e ∈ L, e.serial < n := by
      intro e he
      obtain ⟨call, req, k, pos, hAt, -⟩ := hAdded e he
      rw [← hBefore]
      exact (List.getElem?_eq_some_iff.mp hAt).1
    have hStepAdded : ∀ e ∈ L₁, AddedBy (before ++ [call]) (results ++ [outcome]) e := by
      intro e he
      obtain he | ⟨req, k, pos, rfl, hCall, rfl⟩ := hStep.mem he
      · obtain ⟨call, req, k, pos, hAt, hOutcome, hCall, hRecord⟩ := hAdded e he
        have hLt := hBelow e he
        refine ⟨call, req, k, pos, ?_, ?_, hCall, hRecord⟩
        · rw [List.getElem?_append_left (by omega), hAt]
        · rw [List.getElem?_append_left (by omega), hOutcome]
      · refine ⟨call, req, k, pos, ?_, ?_, hCall, rfl⟩
        · simp [← hBefore]
        · simp [← hResults]
    have hRest := ih (before ++ [call]) (results ++ [outcome]) (by simp [hBefore]) (by simp [hResults])
      (hStep.nodup hBelow hNodup) hStepAdded
    simpa using hRest

/-- Everything the caller supplied is in the item, and the rest of it only describes the payload. -/
structure Carries (e : Entry) (req : Insertion) : Prop where
  slot : e.item.slot = req.base.slot
  id : ∃ pos, e.item.id = req.idAt pos
  callbackProgramId : e.item.callbackProgramId = req.base.callbackProgramId
  priorityRequest : e.item.priorityRequest = req.base.priorityRequest
  identityMode : e.item.identityMode = req.base.identityMode
  identityBump : e.item.identityBump = req.base.identityBump
  createdAt : e.item.createdAt = req.base.createdAt
  used : e.item.used = 1

end Entry

/-- From a zeroed account, any calls in any order leave exactly the entries of the abstract queue:
each listed once and counted, with the fields and the payload its insertion supplied. -/
theorem queue_content_integrity (n : Nat) (hLow : 8 + 16 ≤ 8 + n) (hHigh : 8 + n ≤ 512 * 1024)
    (calls : List Call) (hDisc : ∀ call ∈ calls, call.discriminatorLength ≤ 8) :
    ∃ q₀ outcomes q L,
      load (AccountDiscriminator.queue.toBytes ++ List.replicate n 0) = .ok q₀ ∧
      Call.run q₀ calls = some (outcomes, q) ∧
      Entry.Run 0 [] calls outcomes L ∧
      q.iterItems = some (L.map Entry.item) ∧
      (L.map Entry.serial).Nodup ∧
      q.header.itemCount.toNat = L.length ∧
      ∀ e ∈ L, ∃ call req k, calls[e.serial]? = some call ∧ call.insertion? = some req ∧
        outcomes[e.serial]? = some (.index k) ∧ e.Carries req ∧
        e.item.callbackDiscriminator q.acc = some req.discriminator ∧
        e.item.accountMetas q.acc = some req.metas ∧
        e.item.callbackArgs q.acc = some req.args := by
  obtain ⟨q₀, hLoad, hRep, -⟩ := load_zeroed (n := n) (by omega) (by omega)
  have hHolds : Holds q₀ [] := ⟨[], hRep, rfl⟩
  obtain ⟨outcomes, q, L, hRun, hSpec, hHolds⟩ := hHolds.run 0 calls hDisc
  obtain ⟨hNodup, hAdded⟩ := hSpec.provenance [] [] rfl rfl List.nodup_nil (by simp)
  refine ⟨q₀, outcomes, q, L, hLoad, hRun, hSpec, hHolds.iterItems, hNodup, hHolds.count, ?_⟩
  intro e he
  obtain ⟨call, req, k, pos, hCall, hOutcome, hReq, hRecord⟩ := hAdded e he
  obtain ⟨hDiscriminator, hMetas, hArgs⟩ := hHolds.payload he
  rw [hRecord] at hDiscriminator hMetas hArgs
  refine ⟨call, req, k, hCall, hReq, hOutcome, ?_, hDiscriminator, hMetas, hArgs⟩
  have hItem : e.item = (req.storedAt pos).item := by rw [← hRecord]; rfl
  constructor
  · rw [hItem]; rfl
  · exact ⟨UInt32.ofNat pos, by rw [hItem]; rfl⟩
  all_goals rw [hItem]; rfl

def reuseCalls : List Call :=
  let base : QueueItem := QueueItem.layout.decode (List.replicate 96 0)
  [.addItem base [1, 2, 3] [] [4, 5], .addItem { base with slot := 7 } [6] [⟨ID, 1⟩] [],
    .removeItem 0, .addItemWithId base [9] [] [8, 8, 8] (fun (_ : Unit) pos => (⟨toLe 32 pos.toNat, by simp [length_toLe]⟩, ())) ()]

theorem queue_content_integrity_reuse :
    (∀ call ∈ reuseCalls, call.discriminatorLength ≤ 8) ∧
    ∃ q₀ outcomes q L,
      load (AccountDiscriminator.queue.toBytes ++ List.replicate 400 0) = .ok q₀ ∧
      Call.run q₀ reuseCalls = some (outcomes, q) ∧ Entry.Run 0 [] reuseCalls outcomes L ∧
      q.iterItems = some (L.map Entry.item) ∧ q.header.itemCount.toNat = L.length := by
  have hDisc : ∀ call ∈ reuseCalls, call.discriminatorLength ≤ 8 := by decide
  obtain ⟨q₀, outcomes, q, L, hLoad, hRun, hSpec, hItems, -, hCount, -⟩ :=
    queue_content_integrity 400 (by decide) (by decide) reuseCalls hDisc
  exact ⟨hDisc, q₀, outcomes, q, L, hLoad, hRun, hSpec, hItems, hCount⟩

end SolanaVrf
