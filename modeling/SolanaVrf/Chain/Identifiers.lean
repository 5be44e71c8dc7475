import SolanaVrf.Chain.Books
import Mathlib.Data.Set.Function

/-! # Request ids

The id of a request hashes, among other things, the slot and the position it is stored at.
Within a slot no position is freed: a fulfilment needs a later slot and a purge needs age.
So two requests of one slot are stored apart, and their ids differ unless the hash
collides.
-/

namespace SolanaVrf
set_option autoImplicit false

open Pod Transition

section

variable {rt : Runtime} {run : ChainRun rt} {k : Pubkey} {book : Nat → List Entry}

/-! ## Preimages -/

namespace Accepted

def preimage (acc : Accepted) : List UInt8 :=
  (idPreimage acc.args acc.slothash acc.clock acc.position).flatten

def id (env : Environment) (acc : Accepted) : Bytes 32 := env.hash acc.preimage

theorem record_id (env : Environment) (acc : Accepted) : (acc.record env).item.id = acc.id env := rfl

/-- Two requests agree in everything their ids are made of. -/
structure SameInputs (acc acc' : Accepted) : Prop where
  callerSeed : acc.args.callerSeed = acc'.args.callerSeed
  slot : acc.clock.slot = acc'.clock.slot
  slothash : acc.slothash = acc'.slothash
  callbackDiscriminator : acc.args.callbackDiscriminator = acc'.args.callbackDiscriminator
  callbackProgramId : acc.args.callbackProgramId = acc'.args.callbackProgramId
  unixTimestamp : acc.clock.unixTimestamp = acc'.clock.unixTimestamp
  position : acc.position = acc'.position

/-- The discriminator has no length prefix, but the other slices have fixed lengths. -/
theorem preimage_eq_iff {acc acc' : Accepted} : acc.preimage = acc'.preimage ↔ acc.SameInputs acc' := by
  constructor
  · intro h
    have hSeed (a : Accepted) : a.args.callerSeed.toList.length = 32 := a.args.callerSeed.2
    have hHash (a : Accepted) : a.slothash.toList.length = 32 := a.slothash.2
    have hProgram (a : Accepted) : a.args.callbackProgramId.toList.length = 32 := a.args.callbackProgramId.2
    simp only [preimage, idPreimage, List.flatten_cons, List.flatten_nil, List.append_nil] at h
    obtain ⟨hCallerSeed, h⟩ := List.append_inj h (by rw [hSeed, hSeed])
    obtain ⟨hSlot, h⟩ := List.append_inj h (by simp only [length_toLe])
    obtain ⟨hSlothash, h⟩ := List.append_inj h (by rw [hHash, hHash])
    simp only [← List.append_assoc] at h
    obtain ⟨h, hPosition⟩ := List.append_inj' h (by simp only [length_toLe])
    obtain ⟨h, hTime⟩ := List.append_inj' h (by simp only [length_toLe])
    obtain ⟨hDiscriminator, hProgramId⟩ := List.append_inj' h (by rw [hProgram, hProgram])
    constructor
    · exact Subtype.ext hCallerSeed
    · exact UInt64.toNat_inj.mp (toLe_inj acc.clock.slot.toNat_lt acc'.clock.slot.toNat_lt hSlot)
    · exact Subtype.ext hSlothash
    · exact hDiscriminator
    · exact Subtype.ext hProgramId
    · exact congrArg Int64.ofUInt64 (UInt64.toNat_inj.mp (toLe_inj (UInt64.toNat_lt _) (UInt64.toNat_lt _) hTime))
    · exact UInt32.toNat_inj.mp (toLe_inj acc.position.toNat_lt acc'.position.toNat_lt hPosition)
  · intro h
    rw [preimage, preimage, idPreimage, idPreimage, h.callerSeed, h.slot, h.slothash, h.callbackDiscriminator,
      h.callbackProgramId, h.unixTimestamp, h.position]

end Accepted

def ChainRun.preimages (run : ChainRun rt) (k : Pubkey) : Set (List UInt8) :=
  { bytes | ∃ n acc, run.receipt n = some (.requested acc) ∧ acc.queue = k ∧ bytes = acc.preimage }

def ChainRun.allPreimages (run : ChainRun rt) : Set (List UInt8) :=
  { bytes | ∃ n acc, run.receipt n = some (.requested acc) ∧ bytes = acc.preimage }

/-- Slots never decrease; the timestamp is fixed within a slot and never decreases. -/
structure ClockAdvances (clock : Nat → Clock) : Prop where
  slot : ∀ s t, s ≤ t → (clock s).slot ≤ (clock t).slot
  stamp : ∀ s t, (clock s).slot = (clock t).slot → (clock s).unixTimestamp = (clock t).unixTimestamp
  time : ∀ s t, s ≤ t → (clock s).unixTimestamp ≤ (clock t).unixTimestamp

/-! ## No position is freed within a slot -/

theorem not_stale_of_stamp {env : Environment} {acc : Accepted} {clock : Clock}
    (h : acc.clock.unixTimestamp = clock.unixTimestamp) : (acc.record env).stale clock = false := by
  have hCreated : (acc.record env).item.createdAt = QueueItem.createdAtFrom clock.unixTimestamp := by
    rw [← h]
    rfl
  rw [Record.stale, expired, QueueItem.ageSecs, hCreated, UInt16.sub_self]
  decide

theorem Follows.stays_in_slot (h : Follows run k book) (hClock : ClockAdvances run.clock) {s t : Nat}
    {acc : Accepted} (hReceipt : run.receipt s = some (.requested acc)) (hk : acc.queue = k) (hst : s < t)
    (hSlot : (run.clock s).slot = (run.clock t).slot) :
    (⟨s, acc.record rt.toEnvironment⟩ : Entry) ∈ book t := by
  have hEntered := h.entered hReceipt hk
  obtain ⟨-, acc', hBy⟩ := (h.provenance _).2 _ hEntered
  obtain rfl : acc = acc' := by
    have hSame := hBy.receipt
    rw [hReceipt] at hSame
    cases hSame
    rfl
  have hAccepted : acc.clock = run.clock s := hBy.clock
  -- the claim holds right after `s` and survives every step before `t`
  suffices hAll : ∀ n, s + 1 ≤ n → n ≤ t → (⟨s, acc.record rt.toEnvironment⟩ : Entry) ∈ book n from
    hAll t hst (Nat.le_refl t)
  intro n hn
  induction n, hn using Nat.le_induction with
  | base => exact fun _ => hEntered
  | succ n hsn ih =>
    intro hnt
    have hHere := ih (Nat.le_of_succ_le hnt)
    have hLow := hClock.slot s n (by omega)
    have hHigh := hClock.slot n t (by omega)
    have hSame : (run.clock s).slot = (run.clock n).slot :=
      UInt64.le_antisymm hLow (by rw [hSlot]; exact hHigh)
    by_contra hGone
    obtain ⟨p, paid, -, hFulfils, -⟩ | ⟨oracle, paid, -, hStale⟩ := (h.steps n).leaves hHere hGone
    · have hLater := hFulfils.later
      change acc.clock.slot < _ at hLater
      rw [hAccepted, hSame] at hLater
      exact absurd hLater (UInt64.lt_irrefl _)
    · have hFresh : (acc.record rt.toEnvironment).stale (run.clock n) = false :=
        not_stale_of_stamp (by rw [hAccepted]; exact hClock.stamp s n hSame)
      rw [hFresh] at hStale
      cases hStale

/-- Two requests of one slot are stored at different positions. -/
theorem Follows.positions_differ (h : Follows run k book) (hClock : ClockAdvances run.clock) {s t : Nat}
    {acc acc' : Accepted} (hReceipt : run.receipt s = some (.requested acc)) (hk : acc.queue = k)
    (hReceipt' : run.receipt t = some (.requested acc')) (hk' : acc'.queue = k) (hst : s < t)
    (hSlot : (run.clock s).slot = (run.clock t).slot) : acc.position ≠ acc'.position := by
  intro hPosition
  have hOld := h.stays_in_slot hClock hReceipt hk hst hSlot
  have hNew := h.entered hReceipt' hk'
  have hKept : (⟨s, acc.record rt.toEnvironment⟩ : Entry) ∈ book (t + 1) := by
    by_contra hGone
    obtain ⟨p, paid, hOther, -⟩ | ⟨oracle, paid, hOther, -⟩ := (h.steps t).leaves hOld hGone
    · rw [hReceipt'] at hOther
      cases hOther
    · rw [hReceipt'] at hOther
      cases hOther
  have hNodup := (h.pending_of_mem hNew).offsets_nodup
  rw [List.map_map] at hNodup
  have hSame := List.inj_on_of_nodup_map hNodup hKept hNew
    (congrArg (fun position : UInt32 => UInt32.ofNat (position.toNat + 96)) hPosition)
  exact absurd (congrArg Entry.serial hSame) (Nat.ne_of_lt hst)

/-! ## Uniqueness -/

theorem Follows.id_inj (h : Follows run k book) (hClock : ClockAdvances run.clock)
    (hHash : Set.InjOn rt.hash (run.preimages k)) {s t : Nat} {acc acc' : Accepted}
    (hReceipt : run.receipt s = some (.requested acc)) (hk : acc.queue = k)
    (hReceipt' : run.receipt t = some (.requested acc')) (hk' : acc'.queue = k)
    (hId : acc.id rt.toEnvironment = acc'.id rt.toEnvironment) : s = t := by
  have hPreimage := hHash ⟨s, acc, hReceipt, hk, rfl⟩ ⟨t, acc', hReceipt', hk', rfl⟩ hId
  obtain ⟨-, hSlot, -, -, -, -, hPosition⟩ := Accepted.preimage_eq_iff.mp hPreimage
  have hClockOf {n : Nat} {a : Accepted} (hReceipt : run.receipt n = some (.requested a)) :
      a.clock = run.clock n := by
    cases run.effect hReceipt with
    | requested hRequested => exact hRequested.clock
  rw [hClockOf hReceipt, hClockOf hReceipt'] at hSlot
  obtain hst | hEq | hts := Nat.lt_trichotomy s t
  · exact absurd hPosition (h.positions_differ hClock hReceipt hk hReceipt' hk' hst hSlot)
  · exact hEq
  · exact absurd hPosition.symm (h.positions_differ hClock hReceipt' hk' hReceipt hk hts hSlot.symm)

theorem Follows.ids_nodup (h : Follows run k book) (hClock : ClockAdvances run.clock)
    (hHash : Set.InjOn rt.hash (run.preimages k)) (n : Nat) :
    ((book n).map fun e => e.record.item.id).Nodup := by
  obtain ⟨hNodup, hEntered⟩ := h.provenance n
  refine (List.nodup_map_iff_inj_on (List.Nodup.of_map _ hNodup)).mpr ?_
  intro e he e' he' hId
  obtain ⟨-, acc, hBy⟩ := hEntered e he
  obtain ⟨-, acc', hBy'⟩ := hEntered e' he'
  rw [hBy.record, hBy'.record, Accepted.record_id, Accepted.record_id] at hId
  have hSerial := h.id_inj hClock hHash hBy.receipt hBy.queue hBy'.receipt hBy'.queue hId
  exact List.inj_on_of_nodup_map hNodup he he' hSerial

theorem Pending.findItemById_eq {l : Ledger} {L : List Record} (h : Pending (l k) L)
    (hIds : (L.map fun r => r.item.id).Nodup) :
    ∃ q, openQueue l k = .ok q ∧
      ∀ i r, L[i]? = some r → q.findItemById r.item.id = some (some (i, r.item)) := by
  obtain ⟨q, recs, hHosts, rfl⟩ := h
  refine ⟨q, hHosts.openQueue_eq, fun i r hAt => ?_⟩
  have hMem := List.mem_of_getElem? hAt
  obtain ⟨-, hNone⟩ | ⟨xs, r', ys, rfl, hLive, hId, hFound, -⟩ := hHosts.represents.findItemById_eq r.item.id
  · obtain ⟨hIn, hLive⟩ := List.mem_filter.mp hMem
    exact absurd rfl (hNone r hIn hLive)
  · obtain ⟨hAt', -⟩ := live_split_at xs ys hLive
    have hSame := List.inj_on_of_nodup_map hIds (List.mem_of_getElem? hAt') hMem hId
    subst hSame
    obtain ⟨hLt, hGet⟩ := List.getElem?_eq_some_iff.mp hAt
    obtain ⟨hLt', hGet'⟩ := List.getElem?_eq_some_iff.mp hAt'
    have hIndex := (List.Nodup.of_map _ hIds).getElem_inj_iff.mp (hGet.trans hGet'.symm)
    rw [hFound, hIndex]

/-- No two requests ever accepted on a queue get the same id, so the pending ones have distinct ids
and a lookup by id finds exactly the request it names. -/
theorem request_ids_never_repeat (rt : Runtime) (run : ChainRun rt) (k : Pubkey)
    (hClock : ClockAdvances run.clock) (hHash : Set.InjOn rt.hash (run.preimages k)) :
    (∀ s t acc acc', run.receipt s = some (.requested acc) → acc.queue = k →
      run.receipt t = some (.requested acc') → acc'.queue = k →
      acc.id rt.toEnvironment = acc'.id rt.toEnvironment → s = t) ∧
    (∀ s acc, run.receipt s = some (.requested acc) → acc.queue = k →
      ∃ L, Lists (run.ledger (s + 1) k) L ∧ ∃ r ∈ L, r.item.id = acc.id rt.toEnvironment) ∧
    ∀ n, IsQueue (run.ledger n k) → ∃ L, Lists (run.ledger n k) L ∧ (L.map fun r => r.item.id).Nodup ∧
      ∃ q, openQueue (run.ledger n) k = .ok q ∧
        ∀ i r, L[i]? = some r → q.findItemById r.item.id = some (some (i, r.item)) := by
  obtain ⟨book, hBook⟩ := run.exists_book k
  refine ⟨fun s t acc acc' => hBook.id_inj hClock hHash, ?_, ?_⟩
  · intro s acc hReceipt hk
    have hEntered := hBook.entered hReceipt hk
    have hPending := hBook.pending_of_mem hEntered
    exact ⟨_, hPending.lists, _, List.mem_map_of_mem hEntered, rfl⟩
  intro n hQueue
  have hPending := (hBook.booked n).pending hQueue
  have hIds : (((book n).map Entry.record).map fun r => r.item.id).Nodup := by
    rw [List.map_map]
    exact hBook.ids_nodup hClock hHash n
  exact ⟨_, hPending.lists, hIds, hPending.findItemById_eq hIds⟩

end

theorem Sample.clockAdvances_of_switch {clock : Nat → Clock} (last : Nat) (hEarly : ∀ n ≤ last, clock n = Sample.clock)
    (hLate : ∀ n, clock (n + (last + 1)) = Sample.laterClock) : ClockAdvances clock := by
  have hCases (n : Nat) : n ≤ last ∧ clock n = Sample.clock ∨ last < n ∧ clock n = Sample.laterClock := by
    obtain hn | hn := Nat.lt_or_ge last n
    · obtain ⟨m, rfl⟩ := Nat.exists_eq_add_of_le' hn
      exact Or.inr ⟨hn, hLate m⟩
    · exact Or.inl ⟨hn, hEarly n hn⟩
  constructor
  · intro s t hst
    obtain ⟨hs, hClock⟩ | ⟨hs, hClock⟩ := hCases s <;> obtain ⟨ht, hClock'⟩ | ⟨ht, hClock'⟩ := hCases t <;>
      rw [hClock, hClock'] <;> first | decide | omega
  · intro s t hSlot
    obtain ⟨-, hClock⟩ | ⟨-, hClock⟩ := hCases s <;> obtain ⟨-, hClock'⟩ | ⟨-, hClock'⟩ := hCases t <;>
      rw [hClock, hClock'] <;> rfl
  · intro s t hst
    obtain ⟨-, hClock⟩ | ⟨-, hClock⟩ := hCases s <;> obtain ⟨-, hClock'⟩ | ⟨-, hClock'⟩ := hCases t <;>
      rw [hClock, hClock'] <;> decide

theorem Sample.clock_advances : ClockAdvances Sample.run.clock :=
  clockAdvances_of_switch 4 clock_early clock_late

theorem Sample.hash_injOn : Set.InjOn Sample.runtime.hash (Sample.run.preimages Sample.queueKey) := by
  rintro x ⟨n, acc, hReceipt, -, rfl⟩ y ⟨n', acc', hReceipt', -, rfl⟩ -
  rw [(requested_eq hReceipt).2, (requested_eq hReceipt').2]

namespace Twins

/-! One oracle with two queues: the same request on both in one slot, then once more on the
second, and one proof that fulfils the first request of each queue. -/

def queueKey : Bytes 32 := leBytes 32 0xc3141b769d8ece4c9eee7770ea100340ebe104475d2f33b75a00e80abc493fbf
def secondId : Bytes 32 := leBytes 32 0x910488f6538f87a6bed662cbb36cbd035c26e78359d0695cc92b47f4a3efea0f

def addresses : List ((List (List UInt8) × Pubkey) × Pubkey × UInt8) :=
  [(([QUEUE, Sample.oracle.toList, [1]], ID), queueKey, 255)]

def hashed : List (List UInt8 × Bytes 32) :=
  [((idPreimage Sample.request Sample.slothash Sample.clock 160).flatten, secondId)]

def requestOn (queue : Pubkey) : Event :=
  .call [Sample.signer Sample.payer, Sample.signer Sample.programIdentity, Sample.writable queue,
    Sample.writable systemProgramId, Sample.writable slotHashesId]
    (Sample.instructionData .requestRandomnessScoped (RequestRandomness.codec.encode Sample.request))

def provideOn (queue : Pubkey) : Event :=
  .call [Sample.signer Sample.oracle, Sample.writable Sample.scopedIdentity, Sample.writable Sample.oracleDataKey,
    Sample.writable queue, Sample.writable Sample.callbackProgram, Sample.writable Sample.payer]
    (Sample.instructionData .provideRandomness Sample.provideData)

def events : List Event :=
  Sample.events.take 3 ++
    [.call [Sample.signer Sample.payer, Sample.signer Sample.oracle, Sample.writable Sample.oracleDataKey,
      Sample.writable queueKey, Sample.writable systemProgramId] (Sample.instructionData .initializeOracleQueue
        (InitializeOracleQueue.layout.encode ⟨400, 1, leBytes 3 0⟩)),
    requestOn Sample.queueKey, requestOn queueKey, requestOn queueKey, .tick Sample.laterClock,
    provideOn Sample.queueKey, provideOn queueKey]

def runtime : Runtime := Sample.runtimeWith addresses hashed

def run : ChainRun runtime :=
  Sample.runWith (by decide +kernel) events Sample.laterClock (by decide +kernel)

def accepted (queue : Pubkey) (position : UInt32) : Accepted :=
  ⟨queue, Sample.request, false, true, Sample.slothash, Sample.clock, position, 500000⟩

def prepared (queue : Pubkey) : Prepared := { Sample.prepared with queue := ⟨queue, false, true⟩ }

def receipts : List (Option Receipt) :=
  [some .other, some (.registered Sample.oracle Sample.vrfPubkey), some (.opened Sample.oracle 0),
    some (.opened Sample.oracle 1), some (.requested (accepted Sample.queueKey 16)),
    some (.requested (accepted queueKey 16)), some (.requested (accepted queueKey 160)), none,
    some (.provided (prepared Sample.queueKey) 500000), some (.provided (prepared queueKey) 500000)]

theorem receipt_eq : ∀ n, run.receipt n = (receipts[n]?).join
  | 0 => by decide +kernel
  | 1 => by decide +kernel
  | 2 => by decide +kernel
  | 3 => by decide +kernel
  | 4 => by decide +kernel
  | 5 => by decide +kernel
  | 6 => by decide +kernel
  | 7 => by decide +kernel
  | 8 => by decide +kernel
  | 9 => by decide +kernel
  | _ + 10 => rfl

def requests : List Accepted := [accepted Sample.queueKey 16, accepted queueKey 16, accepted queueKey 160]

theorem requested_mem {n : Nat} {acc : Accepted} (h : run.receipt n = some (.requested acc)) : acc ∈ requests := by
  rw [receipt_eq, Option.join_eq_some_iff] at h
  have hMem := List.mem_of_getElem? h
  simpa [receipts, requests] using hMem

theorem hash_injOn : Set.InjOn runtime.hash run.allPreimages := by
  have hTable : ∀ acc ∈ requests, ∀ acc' ∈ requests,
      runtime.hash acc.preimage = runtime.hash acc'.preimage → acc.preimage = acc'.preimage := by decide +kernel
  rintro x ⟨n, acc, hReceipt, rfl⟩ y ⟨n', acc', hReceipt', rfl⟩ hDigest
  exact hTable acc (requested_mem hReceipt) acc' (requested_mem hReceipt') hDigest

theorem hash_injOn_queue : Set.InjOn runtime.hash (run.preimages queueKey) := by
  refine hash_injOn.mono ?_
  rintro bytes ⟨n, acc, hReceipt, -, rfl⟩
  exact ⟨n, acc, hReceipt, rfl⟩

theorem clock_early : ∀ n ≤ 7, run.clock n = Sample.clock := by
  simp only [ChainRun.clock_eq]
  decide +kernel

theorem clock_late : ∀ n, run.clock (n + 8) = Sample.laterClock
  | 0 => rfl
  | 1 => (run.clock_eq 9).trans rfl
  | 2 => (run.clock_eq 10).trans rfl
  | _ + 3 => rfl

theorem clock_advances : ClockAdvances run.clock := Sample.clockAdvances_of_switch 7 clock_early clock_late

end Twins

/-- Two requests on one queue in one slot. -/
theorem request_ids_never_repeat_twins : ClockAdvances Twins.run.clock ∧
    Set.InjOn Twins.runtime.hash (Twins.run.preimages Twins.queueKey) ∧
    (Twins.accepted Twins.queueKey 16).id Twins.runtime.toEnvironment ≠
      (Twins.accepted Twins.queueKey 160).id Twins.runtime.toEnvironment ∧
    (∃ L, Lists (Twins.run.ledger 7 Twins.queueKey) L ∧ ∃ r ∈ L, r.item.id = Twins.secondId) ∧
    ∃ L, Lists (Twins.run.ledger 7 Twins.queueKey) L ∧ (L.map fun r => r.item.id).Nodup := by
  obtain ⟨hInj, hListed, hDistinct⟩ := request_ids_never_repeat Twins.runtime Twins.run Twins.queueKey
    Twins.clock_advances Twins.hash_injOn_queue
  have hRead : IsQueue (Twins.run.ledger 7 Twins.queueKey) ∧
      (Twins.accepted Twins.queueKey 160).id Twins.runtime.toEnvironment = Twins.secondId := by
    unfold IsQueue
    decide +kernel
  obtain ⟨hQueue, hSecond⟩ := hRead
  refine ⟨Twins.clock_advances, Twins.hash_injOn_queue, ?_, ?_, ?_⟩
  · intro hId
    exact absurd (hInj 5 6 _ _ (Twins.receipt_eq 5) rfl (Twins.receipt_eq 6) rfl hId) (by decide)
  · obtain ⟨L, hLists, r, hr, hId⟩ := hListed 6 _ (Twins.receipt_eq 6) rfl
    exact ⟨L, hLists, r, hr, hId.trans hSecond⟩
  · obtain ⟨L, hLists, hNodup, -⟩ := hDistinct 7 hQueue
    exact ⟨L, hLists, hNodup⟩

/-! ## Across queues

The queue is not among the inputs of an id. Requests on two queues of one oracle are told
apart by the other inputs or not at all, and in the latter case one proof serves both.
-/

/-- The ids of two requests, whatever queues they are on, differ exactly if one of their inputs does,
and so does the randomness made from the ids by a function that keeps the two apart. -/
theorem ids_differ_across_queues_iff (rt : Runtime) (run : ChainRun rt)
    (hHash : Set.InjOn rt.hash run.allPreimages) (s t : Nat) (acc acc' : Accepted)
    (hReceipt : run.receipt s = some (.requested acc)) (hReceipt' : run.receipt t = some (.requested acc')) :
    (acc.id rt.toEnvironment ≠ acc'.id rt.toEnvironment ↔ ¬acc.SameInputs acc') ∧
    ∀ vrf : Bytes 32 → Bytes 32,
      Set.InjOn (fun id => rt.hash (vrf id).toList) {acc.id rt.toEnvironment, acc'.id rt.toEnvironment} →
      (rt.hash (vrf (acc.id rt.toEnvironment)).toList ≠ rt.hash (vrf (acc'.id rt.toEnvironment)).toList ↔
        ¬acc.SameInputs acc') := by
  have hIds : acc.id rt.toEnvironment = acc'.id rt.toEnvironment ↔ acc.SameInputs acc' := by
    rw [← Accepted.preimage_eq_iff]
    constructor
    · intro hId
      exact hHash ⟨s, acc, hReceipt, rfl⟩ ⟨t, acc', hReceipt', rfl⟩ hId
    · intro hPreimage
      rw [Accepted.id, Accepted.id, hPreimage]
  refine ⟨not_congr hIds, fun vrf hVrf => not_congr ?_⟩
  rw [← hIds]
  constructor
  · intro hRandomness
    exact hVrf (Set.mem_insert _ _) (Set.mem_insert_of_mem _ rfl) hRandomness
  · intro hId
    rw [hId]

theorem ids_differ_across_queues_twins : Set.InjOn Twins.runtime.hash Twins.run.allPreimages ∧
    (Twins.accepted Sample.queueKey 16).id Twins.runtime.toEnvironment ≠
      (Twins.accepted Twins.queueKey 160).id Twins.runtime.toEnvironment := by
  refine ⟨Twins.hash_injOn, ?_⟩
  refine (ids_differ_across_queues_iff Twins.runtime Twins.run Twins.hash_injOn 4 6 _ _ (Twins.receipt_eq 4)
    (Twins.receipt_eq 6)).1.mpr ?_
  intro hSame
  exact absurd hSame.position (by decide)

/-- The first requests on the two queues of one oracle get one id, one proof fulfils both and both
callbacks receive the same randomness. -/
theorem twin_requests_share_randomness : Set.InjOn Twins.runtime.hash Twins.run.allPreimages ∧
    ∃ acc acc' p p' paid paid', acc.queue = (Twins.runtime.oracleQueuePda Sample.oracle 0).1 ∧
      acc'.queue = (Twins.runtime.oracleQueuePda Sample.oracle 1).1 ∧ acc.queue ≠ acc'.queue ∧
      Twins.run.receipt 4 = some (.requested acc) ∧ Twins.run.receipt 5 = some (.requested acc') ∧
      acc.id Twins.runtime.toEnvironment = acc'.id Twins.runtime.toEnvironment ∧
      Twins.run.receipt 8 = some (.provided p paid) ∧ Twins.run.receipt 9 = some (.provided p' paid') ∧
      p.queue.key = acc.queue ∧ p'.queue.key = acc'.queue ∧ p.args = p'.args ∧
      p.invocation.instruction.data = p'.invocation.instruction.data := by
  refine ⟨Twins.hash_injOn, Twins.accepted Sample.queueKey 16, Twins.accepted Twins.queueKey 16,
    Twins.prepared Sample.queueKey, Twins.prepared Twins.queueKey, 500000, 500000, ?_⟩
  exact ⟨by decide +kernel, by decide +kernel, by decide, Twins.receipt_eq 4, Twins.receipt_eq 5,
    by decide +kernel, Twins.receipt_eq 8, Twins.receipt_eq 9, rfl, rfl, rfl, rfl⟩

end SolanaVrf
