import SolanaVrf.Service.Sending
import SolanaVrf.Chain.Draining

/-! # Old bytes and the program's answers

A task of the service works from the account bytes it was started with, while the queue moves
on. As long as its request is pending, those bytes give the same instruction as the current
ones. Once the request has left, the program answers that it is not found, and the task may
stop there, because a request that has left does not come back. The error of a callback is
passed on, though, so a callback program can give that answer for a pending request. A purge
that the service sends for an expired request is always accepted.
-/

namespace SolanaVrf
set_option autoImplicit false

open Pod Slices Fallible Transition AccountInfoValidation QueueAccount

/-! ## One request in two states -/

namespace Follows

variable {rt : Runtime} {run : ChainRun rt} {k : Pubkey} {book : Nat → List Entry}

/-- Entries of one id are one entry, whenever they are pending. -/
theorem entry_inj (h : Follows run k book) (hClock : ClockAdvances run.clock)
    (hHash : Set.InjOn rt.hash (run.preimages k)) {m n : Nat} {e e' : Entry} (he : e ∈ book m) (he' : e' ∈ book n)
    (hId : e.record.item.id = e'.record.item.id) : e = e' := by
  obtain ⟨-, acc, hBy⟩ := (h.provenance m).2 e he
  obtain ⟨-, acc', hBy'⟩ := (h.provenance n).2 e' he'
  have hIds : acc.id rt.toEnvironment = acc'.id rt.toEnvironment := by
    rw [← Accepted.record_id, ← Accepted.record_id, ← hBy.record, ← hBy'.record, hId]
  have hSerial : e.serial = e'.serial :=
    h.id_inj hClock hHash hBy.receipt hBy.queue hBy'.receipt hBy'.queue hIds
  have hReceipt := hBy.receipt
  rw [hSerial, hBy'.receipt] at hReceipt
  cases hReceipt
  cases e
  cases e'
  cases hSerial
  exact congrArg _ (hBy.record.trans hBy'.record.symm)

/-- The items that the service reads from the bytes are those of the entries, with their payloads. -/
theorem itemsOf_eq (h : Follows run k book) {n : Nat} (hQueue : IsQueue (run.ledger n k)) :
    itemsOf (run.ledger n k).data = some ((book n).map fun e => e.record.item) ∧
      8 ≤ (run.ledger n k).data.length ∧
      ∀ e ∈ book n, e.record.item.accountMetas ((run.ledger n k).data.drop 8) = some e.record.metas := by
  obtain ⟨q, recs, hHosts, hLive⟩ := (h.booked n).pending hQueue
  obtain ⟨hLong, hBody⟩ := hHosts.drop_data
  refine ⟨?_, hLong, fun e he => ?_⟩
  · rw [hHosts.itemsOf_eq, hLive, List.map_map]
    rfl
  · have hMem : e.record ∈ recs.filter Record.live := by
      rw [hLive]
      exact List.mem_map_of_mem he
    obtain ⟨xs, ys, hSplit⟩ := List.append_of_mem (List.mem_of_mem_filter hMem)
    rw [hBody]
    exact (payload_eq (hSplit ▸ hHosts.represents.tiled)).2.1

/-- An entry that is pending in two states has not left in between. -/
theorem mem_between (h : Follows run k book) {m t n : Nat} {e : Entry} (hLow : m ≤ t) (hHigh : t ≤ n) (he : e ∈ book m)
    (he' : e ∈ book n) : e ∈ book t := by
  by_contra hGone
  have hSerial := ((h.provenance m).2 e he).1
  exact h.gone (Nat.lt_of_lt_of_le hSerial hLow) hGone hHigh he'

/-- The index of the queue is the same in two states in which one entry is pending. -/
theorem header_index_eq (h : Follows run k book) {m n : Nat} (hmn : m ≤ n) {e : Entry} (he : e ∈ book m)
    (he' : e ∈ book n) {header header' : Queue} (hHeader : Queue.tryFromBytes (run.ledger m k).data = .ok header)
    (hHeader' : Queue.tryFromBytes (run.ledger n k).data = .ok header') : header'.index = header.index := by
  -- the queue was neither closed nor delegated in between
  have hQueue (t : Nat) (hLow : m ≤ t) (hHigh : t ≤ n) : IsQueue (run.ledger t k) :=
    (h.pending_of_mem (h.mem_between hLow hHigh he he')).isQueue
  obtain ⟨q, recs, hHosts, -⟩ := (h.booked m).pending (hQueue m (Nat.le_refl m) hmn)
  obtain ⟨q', recs', hHosts', hIndex⟩ := run.index_stays hmn hHosts hQueue
  rw [hHosts.tryFromBytes_eq] at hHeader
  rw [hHosts'.tryFromBytes_eq] at hHeader'
  cases hHeader
  cases hHeader'
  exact hIndex

end Follows

/-- What the service prepares for a request does not depend on which state of the queue it read the
request and the header from: items do not move, payloads are not rewritten, ids are not used again
and the index of a queue in use does not change. -/
theorem prepared_never_stale {ℓ : ℕ} {P : Type} [AddCommGroup P] [Module (ZMod ℓ) P] {C : Ristretto ℓ P}
    (rt : Runtime) (run : ChainRun rt) (client : OracleClient C) (k : Pubkey) (hClock : ClockAdvances run.clock)
    (hHash : Set.InjOn rt.hash (run.preimages k)) {m n : Nat} (hQueue : IsQueue (run.ledger m k))
    (hQueue' : IsQueue (run.ledger n k)) {items items' : List QueueItem}
    (hItems : itemsOf (run.ledger m k).data = some items) (hItems' : itemsOf (run.ledger n k).data = some items')
    {header header' : Queue} (hHeader : Queue.tryFromBytes (run.ledger m k).data = .ok header)
    (hHeader' : Queue.tryFromBytes (run.ledger n k).data = .ok header')
    {item item' : QueueItem} (hItem : item ∈ items) (hItem' : item' ∈ items') (hId : item.id = item'.id) :
    item = item' ∧ ∀ now vrf,
      (prepareInstruction rt.toEnvironment client now item item.id vrf k header (run.ledger m k).data).isSome ∧
      prepareInstruction rt.toEnvironment client now item item.id vrf k header (run.ledger m k).data =
        prepareInstruction rt.toEnvironment client now item' item'.id vrf k header' (run.ledger n k).data := by
  obtain ⟨book, hBook⟩ := run.exists_book k
  obtain ⟨hRead, hLong, hMetas⟩ := hBook.itemsOf_eq hQueue
  obtain ⟨hRead', hLong', hMetas'⟩ := hBook.itemsOf_eq hQueue'
  obtain rfl := Option.some.inj (hItems.symm.trans hRead)
  obtain rfl := Option.some.inj (hItems'.symm.trans hRead')
  obtain ⟨e, he, rfl⟩ := List.mem_map.mp hItem
  obtain ⟨e', he', rfl⟩ := List.mem_map.mp hItem'
  obtain rfl := hBook.entry_inj hClock hHash he he' hId
  have hIndex : header.index = header'.index := by
    obtain hmn | hnm := Nat.le_total m n
    · exact (hBook.header_index_eq hmn he he' hHeader hHeader').symm
    · exact hBook.header_index_eq hnm he' he hHeader' hHeader
  refine ⟨rfl, fun now vrf => ?_⟩
  by_cases hFresh : hostAgeSecs now e.record.item ≤ QUEUE_TTL_SECONDS
  · rw [prepareInstruction_eq hFresh hLong (hMetas e he), prepareInstruction_eq hFresh hLong' (hMetas' e he')]
    exact ⟨rfl, rfl⟩
  · have hOld : hostAgeSecs now e.record.item > QUEUE_TTL_SECONDS := Nat.lt_of_not_le hFresh
    rw [prepareInstruction, prepareInstruction, if_pos hOld, if_pos hOld, hIndex]
    exact ⟨rfl, rfl⟩

namespace Twins

def secondItem : QueueItem :=
  { Sample.item with id := secondId, callbackDiscriminatorOffset := 256, metasOffset := 264, argsOffset := 297 }

def firstHeader : Queue := ⟨1, 154, 1, 0, leBytes 2 0⟩

def secondHeader : Queue := ⟨2, 298, 1, 0, leBytes 2 0⟩

end Twins

/-- A second request arrives on the queue between the two readings. -/
theorem prepared_never_stale_twins :
    (Twins.run.ledger 6 Twins.queueKey).data ≠ (Twins.run.ledger 7 Twins.queueKey).data ∧
      ∀ now, prepareInstruction Twins.runtime.toEnvironment Sample.client now Sample.item Sample.item.id Sample.vrf
          Twins.queueKey Twins.firstHeader (Twins.run.ledger 6 Twins.queueKey).data =
        prepareInstruction Twins.runtime.toEnvironment Sample.client now Sample.item Sample.item.id Sample.vrf
          Twins.queueKey Twins.secondHeader (Twins.run.ledger 7 Twins.queueKey).data := by
  -- one evaluation of the run for all the facts
  have hRead : (IsQueue (Twins.run.ledger 6 Twins.queueKey) ∧ IsQueue (Twins.run.ledger 7 Twins.queueKey)) ∧
      itemsOf (Twins.run.ledger 6 Twins.queueKey).data = some [Sample.item] ∧
      itemsOf (Twins.run.ledger 7 Twins.queueKey).data = some [Sample.item, Twins.secondItem] ∧
      Queue.tryFromBytes (Twins.run.ledger 6 Twins.queueKey).data = .ok Twins.firstHeader ∧
      Queue.tryFromBytes (Twins.run.ledger 7 Twins.queueKey).data = .ok Twins.secondHeader ∧
      (Twins.run.ledger 6 Twins.queueKey).data ≠ (Twins.run.ledger 7 Twins.queueKey).data := by
    unfold IsQueue
    decide +kernel
  obtain ⟨⟨hQueue, hQueue'⟩, hBefore, hAfter, hHeader, hHeader', hChanged⟩ := hRead
  have hSame := prepared_never_stale Twins.runtime Twins.run Sample.client Twins.queueKey Twins.clock_advances
    Twins.hash_injOn_queue hQueue hQueue' hBefore hAfter hHeader hHeader' List.mem_cons_self List.mem_cons_self rfl
  exact ⟨hChanged, fun now => (hSame.2 now Sample.vrf).2⟩

/-! ## The answer for a request that has left -/

section

variable {rt : Runtime} {clock : Clock} {l : Ledger} {q : QueueAccount} {recs : List Record}

theorem takeRequest_notFound_iff (h : Represents q recs) {oracle : Pubkey} {vrfPubkey : Bytes 32}
    {args : ProvideRandomness} :
    takeRequest rt clock oracle vrfPubkey args q = .error ↑SolanaVrfError.randomnessRequestNotFound ↔
      ∀ r ∈ recs.filter Record.live, r.item.id ≠ args.input := by
  obtain ⟨hFind, hNone⟩ | ⟨xs, r, ys, rfl, hLive, hId, hFind, -⟩ := h.findItemById_eq args.input
  · rw [takeRequest, hFind, okOr_some, bind_ok]
    refine iff_of_true rfl fun r hr => ?_
    obtain ⟨hMem, hLive⟩ := List.mem_filter.mp hr
    exact hNone r hMem hLive
  · have hPending : r ∈ (xs ++ r :: ys).filter Record.live := List.mem_filter.mpr ⟨by simp, hLive⟩
    refine iff_of_false ?_ fun hNone => hNone r hPending hId
    rw [takeRequest, hFind, okOr_some, bind_ok, okOr_some, bind_ok]
    refine Avoids.bind (avoids_okOr (by decide)) fun named _ => ?_
    refine avoids_require_bind (by decide) fun _ => avoids_require_bind (by decide) fun _ => ?_
    refine avoids_require_bind (by decide) fun _ => Avoids.bind (avoids_okOr (by decide)) fun removed hRemoved => ?_
    refine Avoids.bind ?_ fun item _ => Avoids.bind (avoids_okOr (by decide)) fun _ _ =>
      Avoids.bind (avoids_okOr (by decide)) fun _ _ => Avoids.bind (avoids_okOr (by decide)) fun _ _ => avoids_ok _
    -- the removal itself only complains about an index
    obtain ⟨-, hFailed⟩ | ⟨_, _, _, q', -, -, -, hDone, -⟩ := h.removeItem_eq (xs.countP Record.live)
    · obtain rfl := Option.some.inj ((okOr_eq_ok.mp hRemoved).symm.trans hFailed)
      exact avoids_error (by decide)
    · obtain rfl := Option.some.inj ((okOr_eq_ok.mp hRemoved).symm.trans hDone)
      exact avoids_ok _

theorem callbackSeeds_avoids {identity : AccountInfo} {remaining : List AccountInfo} {item : QueueItem} :
    Avoids ↑SolanaVrfError.randomnessRequestNotFound (callbackSeeds rt l identity remaining item) := by
  unfold callbackSeeds
  split
  · exact Avoids.bind (avoids_okOr (by decide)) fun _ _ => avoids_require_bind (by decide) fun _ => avoids_ok _
  · exact avoids_require_bind (by decide) fun _ => avoids_require_bind (by decide) fun _ => avoids_ok _

theorem collectFee_avoids {queue oracle : Pubkey} {item : QueueItem} :
    Avoids ↑SolanaVrfError.randomnessRequestNotFound (collectFee queue oracle item l) := by
  unfold collectFee
  split
  · exact avoids_ok _
  · exact avoids_require_bind (by decide) fun _ => avoids_require_bind (by decide) fun _ =>
      avoids_require_bind (by decide) fun _ => avoids_ok _

/-- With the accounts of its oracle and its queue, a fulfilment is answered so exactly if no request
of that id is pending or the callback program fails so. -/
theorem processProvideRandomness_notFound_iff {oracle identity oracleData queue program : AccountInfo}
    {remaining : List AccountInfo} {args : ProvideRandomness} {o : Oracle} (hHosts : Hosts (l queue.key) q recs)
    (hOracle : IsOracle (l oracleData.key) o) (hSigner : oracle.isSigner = true)
    (hData : oracleData.key = (rt.oracleDataPda oracle.key).1) (hWritable : queue.isWritable = true)
    (hKey : queue.key = (rt.oracleQueuePda oracle.key q.header.index).1) :
    processProvideRandomness rt clock (oracle :: identity :: oracleData :: queue :: program :: remaining)
        (ProvideRandomness.layout.encode args) l = .error ↑SolanaVrfError.randomnessRequestNotFound ↔
      (∀ r ∈ recs.filter Record.live, r.item.id ≠ args.input) ∨
        ∃ l₁ p, prepareCallback rt clock (oracle :: identity :: oracleData :: queue :: program :: remaining)
            (ProvideRandomness.layout.encode args) l = .ok (l₁, p) ∧
          rt.invokeSigned p.invocation l₁ = .error ↑SolanaVrfError.randomnessRequestNotFound := by
  have hSeeds : queue.key = (rt.findProgramAddress [QUEUE, oracle.key.toList, [q.header.index]] ID).1 := hKey
  have hDataSeeds : oracleData.key = (rt.findProgramAddress [ORACLE_DATA, oracle.key.toList] ID).1 := hData
  rw [processProvideRandomness, bind_eq_error, Prod.exists]
  refine or_congr ?_ (exists_congr fun l₁ => exists_congr fun p => and_congr_right fun _ => ?_)
  · rw [prepareCallback, parseArgs, Layout.tryFromBytes_encode, okOr_some, bind_ok]
    simp only [isSigner, isWritable, hasOwner, hasSeeds, require_of hSigner, require_of hDataSeeds,
      require_of hWritable, require_of hHosts.owner, require_of hSeeds, bind_ok, hOracle.asAccount_eq,
      hHosts.queueHeader_eq, hHosts.openQueue_eq]
    rw [bind_eq_error_iff, takeRequest_notFound_iff hHosts.represents]
    rintro ⟨index, item, payload, q'⟩ -
    exact avoids_require_bind (by decide) fun _ => callbackSeeds_avoids.bind fun _ _ => avoids_ok _
  · exact bind_eq_error_iff fun _ _ => collectFee_avoids.bind fun _ _ => avoids_ok _

end

namespace Follows

variable {rt : Runtime} {run : ChainRun rt} {k : Pubkey} {book : Nat → List Entry} {m n : Nat} {e : Entry}

theorem not_mem_iff (h : Follows run k book) (hClock : ClockAdvances run.clock)
    (hHash : Set.InjOn rt.hash (run.preimages k)) (he : e ∈ book m) :
    e ∉ book n ↔ ∀ e' ∈ book n, e'.record.item.id ≠ e.record.item.id := by
  constructor
  · intro hGone e' he' hId
    obtain rfl := h.entry_inj hClock hHash he' he hId
    exact hGone he'
  · intro hNone he'
    exact hNone e he' rfl

/-- An entry is pending, or its id is listed in no later state. -/
theorem not_mem_iff_never_listed (h : Follows run k book) (hClock : ClockAdvances run.clock)
    (hHash : Set.InjOn rt.hash (run.preimages k)) (hmn : m ≤ n) (he : e ∈ book m) :
    e ∉ book n ↔ ∀ t items, n ≤ t → IsQueue (run.ledger t k) → itemsOf (run.ledger t k).data = some items →
      ∀ item ∈ items, item.id ≠ e.record.item.id := by
  constructor
  · intro hGone t items hnt hQueue hItems item hItem hId
    obtain rfl := Option.some.inj (hItems.symm.trans (h.itemsOf_eq hQueue).1)
    obtain ⟨e', he', rfl⟩ := List.mem_map.mp hItem
    obtain rfl := h.entry_inj hClock hHash he' he hId
    exact hGone (h.mem_between hmn hnt he he')
  · intro hNever he'
    have hQueue := (h.pending_of_mem he').isQueue
    exact hNever n _ (Nat.le_refl n) hQueue (h.itemsOf_eq hQueue).1 _ (List.mem_map_of_mem he') rfl

end Follows

/-- The answer to a fulfilment prepared from any earlier state of the queue ends the send loop exactly in
two cases: the request has left, and then for good; or it is pending and passes every check, but its
callback program fails with the code of `RandomnessRequestNotFound`, which the program passes on. -/
theorem loop_ends_iff_gone_or_callback {ℓ : ℕ} {P : Type} [AddCommGroup P] [Module (ZMod ℓ) P] {C : Ristretto ℓ P}
    (rt : Runtime) (run : ChainRun rt) (client : OracleClient C) (k : Pubkey) (index : UInt8)
    (hk : k = (rt.oracleQueuePda client.pubkey index).1) (hClock : ClockAdvances run.clock)
    (hHash : Set.InjOn rt.hash (run.preimages k)) {s m n : Nat}
    (hOpened : run.receipt s = some (.opened client.pubkey index)) (hsm : s < m) (hmn : m ≤ n)
    (hQueue : ∀ t, s < t → t ≤ n → IsQueue (run.ledger t k)) {o : Oracle}
    (hOracle : IsOracle (run.ledger n (rt.oracleDataPda client.pubkey).1) o) {items : List QueueItem}
    (hItems : itemsOf (run.ledger m k).data = some items) {item : QueueItem} (hItem : item ∈ items) {now : Int64}
    (hFresh : hostAgeSecs now item ≤ QUEUE_TTL_SECONDS) {vrf : PreparedVrf} {queueMeta : Queue} {ix : Instruction}
    (hPrepared : prepareInstruction rt.toEnvironment client now item item.id vrf k queueMeta (run.ledger m k).data =
      some ix) (clock : Clock) {readonly : Set Pubkey} {infos : List AccountInfo} (hFree : k ∉ readonly)
    (hPasses : Passes readonly ix.accounts infos) :
    (Sender.Answer.of (processInstruction rt clock ix.programId infos ix.data (run.ledger n))).gone = true ↔
      (∀ t items', n ≤ t → IsQueue (run.ledger t k) → itemsOf (run.ledger t k).data = some items' →
        ∀ item' ∈ items', item'.id ≠ item.id) ∨
      ∃ items' args l₁ p, itemsOf (run.ledger n k).data = some items' ∧ item ∈ items' ∧
        parseInstruction8 ix.programId ix.data = .ok (.provideRandomness, args) ∧
        prepareCallback rt clock infos args (run.ledger n) = .ok (l₁, p) ∧
        rt.invokeSigned p.invocation l₁ = .error ↑SolanaVrfError.randomnessRequestNotFound := by
  subst hk
  obtain ⟨book, hBook⟩ := run.exists_book (rt.oracleQueuePda client.pubkey index).1
  obtain ⟨hRead, hLong, hMetas⟩ := hBook.itemsOf_eq (hQueue m hsm hmn)
  obtain rfl := Option.some.inj (hItems.symm.trans hRead)
  obtain ⟨e, he, rfl⟩ := List.mem_map.mp hItem
  rw [prepareInstruction_eq hFresh hLong (hMetas e he)] at hPrepared
  obtain rfl := Option.some.inj hPrepared
  obtain ⟨oracle, _, rfl, hOracleKey, hSigner, -, hPasses⟩ := hPasses.cons
  obtain ⟨identity, _, rfl, -, -, -, hPasses⟩ := hPasses.cons
  obtain ⟨oracleData, _, rfl, hDataKey, -, -, hPasses⟩ := hPasses.cons
  obtain ⟨queue, _, rfl, hQueueKey, -, hWritable, hPasses⟩ := hPasses.cons
  obtain ⟨program, remaining, rfl, -, -, -, -⟩ := hPasses.cons
  dsimp only at hOracleKey hDataKey hQueueKey
  -- the queue at the time of the answer
  have hNow := hQueue n (Nat.lt_of_lt_of_le hsm hmn) (Nat.le_refl n)
  obtain ⟨q, _, hHosts', hIndex⟩ := run.index_of_opened hOpened (Nat.lt_of_lt_of_le hsm hmn) hQueue
  obtain ⟨q', recs, hHosts, hLive⟩ := (hBook.booked n).pending hNow
  obtain rfl : q = q' := Except.ok.inj (hHosts'.openQueue_eq.symm.trans hHosts.openQueue_eq)
  rw [← hQueueKey] at hHosts
  rw [← hDataKey] at hOracle
  rw [Sender.Answer.gone_of_iff, processInstruction, parseInstruction8_toBytes, bind_ok]
  dsimp only
  rw [processProvideRandomness_notFound_iff hHosts hOracle (hSigner rfl) (by rw [hDataKey, hOracleKey])
    (hWritable rfl hFree) (by rw [hQueueKey, hOracleKey, hIndex])]
  rw [hLive, List.forall_mem_map, ← hBook.not_mem_iff hClock hHash he]
  have hLeft := hBook.not_mem_iff_never_listed hClock hHash hmn he
  by_cases hStill : e ∈ book n
  · rw [or_iff_right (not_not.mpr hStill), or_iff_right fun hNever => hLeft.mpr hNever hStill]
    constructor
    · rintro ⟨l₁, p, hPrepare, hInvoke⟩
      exact ⟨_, _, l₁, p, (hBook.itemsOf_eq hNow).1, List.mem_map_of_mem hStill, rfl, hPrepare, hInvoke⟩
    · rintro ⟨items', args, l₁, p, -, -, hParse, hPrepare, hInvoke⟩
      cases hParse
      exact ⟨l₁, p, hPrepare, hInvoke⟩
  · exact iff_of_true (.inl hStill) (.inl (hLeft.mp hStill))

theorem Sample.run_still {t : Nat} (ht : 6 ≤ t) : Sample.run.ledger t = Sample.run.ledger 6 := by
  induction t, ht using Nat.le_induction with
  | base => rfl
  | succ t ht ih =>
    obtain ⟨m, rfl⟩ := Nat.exists_eq_add_of_le' ht
    exact ih

/-- A second fulfilment of the request of the sample run. -/
theorem loop_ends_iff_gone_or_callback_again :
    (Sender.Answer.of (processInstruction Sample.runtime Sample.laterClock Sample.fulfilment.programId
      Sample.fulfilmentAccounts Sample.fulfilment.data (Sample.run.ledger 6))).gone = true := by
  have hAll : ∀ t ≤ 6, 2 < t → (Sample.run.ledger t Sample.queueKey).owner = ID ∧
      (Sample.run.ledger t Sample.queueKey).data.take 8 = AccountDiscriminator.queue.toBytes := by decide +kernel
  have hRead : itemsOf (Sample.run.ledger 6 Sample.queueKey).data = some [] ∧
      itemsOf (Sample.run.ledger 4 Sample.queueKey).data = some [Sample.item] ∧
      prepareInstruction Sample.runtime.toEnvironment Sample.client 1700000000 Sample.item Sample.item.id Sample.vrf
        Sample.queueKey Sample.header (Sample.run.ledger 4 Sample.queueKey).data = some Sample.fulfilment ∧
      (Sample.run.ledger 6 Sample.oracleDataKey).owner = ID ∧
      (Sample.run.ledger 6 Sample.oracleDataKey).data.headD 0 = 1 ∧
      8 ≤ (Sample.run.ledger 6 Sample.oracleDataKey).data.length ∧
      (Sample.run.ledger 6 Sample.oracleDataKey).data.drop 8 =
        Oracle.layout.encode ⟨Sample.vrfPubkey, 100, 1⟩ := by decide +kernel
  obtain ⟨hEmpty, hItems, hPrepared, hOwner, hTag, hLength, hData⟩ := hRead
  refine (loop_ends_iff_gone_or_callback Sample.runtime Sample.run Sample.client Sample.queueKey 0 (by decide +kernel)
    Sample.clock_advances Sample.hash_injOn (Sample.receipt_eq 2) (by decide : 2 < 4) (by decide)
    (fun t hLow hHigh => hAll t hHigh hLow) ⟨hOwner, hTag, hLength, hData⟩ hItems List.mem_cons_self
    (by decide +kernel) hPrepared Sample.laterClock (Set.notMem_empty _)
    Sample.passes_fulfilmentAccounts).mpr (.inl ?_)
  intro t items' ht _ hRead item' hItem'
  rw [Sample.run_still ht] at hRead
  obtain rfl := Option.some.inj (hRead.symm.trans hEmpty)
  cases hItem'

/-- The chain of the sample with a callback program that fails with code 1. -/
def Sample.failing : Runtime :=
  { Sample.curveRuntime with
    invokeSigned := fun _ _ => .error ↑SolanaVrfError.randomnessRequestNotFound
    external_of_invokeSigned := fun _ _ _ h => by cases h }

/-- The first fulfilment of a pending request ends the loop, if its callback fails so. -/
example : itemsOf (Sample.requesting.ledger 4 Sample.queueKey).data = some [Sample.item] ∧
    (Sender.Answer.of (processInstruction Sample.failing Sample.laterClock Sample.fulfilment.programId
      Sample.fulfilmentAccounts Sample.fulfilment.data (Sample.requesting.ledger 4))).gone = true := by
  decide +kernel

/-! ## The answer to a purge -/

theorem Passes.pair {readonly : Set Pubkey} {m m' : AccountMeta} {infos : List AccountInfo}
    (h : Passes readonly [m, m'] infos) :
    ∃ a a', infos = [a, a'] ∧ a.key = m.pubkey ∧ a'.key = m'.pubkey ∧
      (m'.isWritable = true → m'.pubkey ∉ readonly → a'.isWritable = true) := by
  obtain ⟨a, _, rfl, hKey, -, -, h⟩ := h.cons
  obtain ⟨a', rest, rfl, hKey', -, hWritable, h⟩ := h.cons
  obtain rfl := List.map_eq_nil_iff.mp h.keys
  exact ⟨a, a', rfl, hKey, hKey', hWritable⟩

theorem ChainRun.header_index {rt : Runtime} (run : ChainRun rt) {s m : Nat} {identity : Pubkey} {index : UInt8}
    (hOpened : run.receipt s = some (.opened identity index)) (hsm : s < m)
    (hQueue : ∀ t, s < t → t ≤ m → IsQueue (run.ledger t (rt.oracleQueuePda identity index).1)) {header : Queue}
    (hHeader : Queue.tryFromBytes (run.ledger m (rt.oracleQueuePda identity index).1).data = .ok header) :
    header.index = index := by
  obtain ⟨q, recs, hHosts, hIndex⟩ := run.index_of_opened hOpened hsm hQueue
  rw [hHosts.tryFromBytes_eq] at hHeader
  cases hHeader
  exact hIndex

/-- The purge that the service prepares from any earlier state of the queue, once its clock reads the
request as expired, is accepted by a cluster at most a minute ahead. It takes the request off the
queue, if it is still there, and on a queue that pays fees the oracle gets at least its cost. -/
theorem expired_request_purged {ℓ : ℕ} {P : Type} [AddCommGroup P] [Module (ZMod ℓ) P] {C : Ristretto ℓ P} (rt : Runtime)
    (run : ChainRun rt) (client : OracleClient C) (k : Pubkey) (index : UInt8)
    (hk : k = (rt.oracleQueuePda client.pubkey index).1) {s m n : Nat}
    (hOpened : run.receipt s = some (.opened client.pubkey index)) (hsm : s < m) (hmn : m ≤ n)
    (hQueue : ∀ t, s < t → t ≤ n → IsQueue (run.ledger t k)) {queueMeta : Queue}
    (hHeader : Queue.tryFromBytes (run.ledger m k).data = .ok queueMeta) {item : QueueItem} {t h : Int64}
    (hHost : 0 ≤ h.toInt) (hTrails : h.toInt ≤ t.toInt) (hSkew : t.toInt - 60 ≤ h.toInt)
    (hOld : hostAgeSecs h item > QUEUE_TTL_SECONDS) {vrf : PreparedVrf} {ix : Instruction}
    (hPrepared : prepareInstruction rt.toEnvironment client h item item.id vrf k queueMeta (run.ledger m k).data =
      some ix) (slot : UInt64) {readonly : Set Pubkey} {infos : List AccountInfo} (hFree : k ∉ readonly)
    (hPasses : Passes readonly ix.accounts infos)
    (hRoom : (run.ledger n client.pubkey).lamports + (run.ledger n k).lamports < u64Limit) :
    ∃ l' paid items items', itemsOf (run.ledger n k).data = some items ∧
      processInstruction rt ⟨slot, t⟩ ix.programId infos ix.data (run.ledger n) =
        .ok (l', .purged k client.pubkey paid) ∧
      (l' client.pubkey).lamports = (run.ledger n client.pubkey).lamports + paid ∧
      itemsOf (l' k).data = some items' ∧ item ∉ items' ∧
      (item ∈ items → isFeeExemptEphemeralQueue k = false → item.cost ≤ paid) := by
  subst hk
  have hLast := hQueue n (Nat.lt_of_lt_of_le hsm hmn) (Nat.le_refl n)
  have hIndex : queueMeta.index = index :=
    run.header_index hOpened hsm (fun t hst htm => hQueue t hst (htm.trans hmn)) hHeader
  rw [prepareInstruction, if_pos hOld, hIndex] at hPrepared
  obtain rfl := Option.some.inj hPrepared
  obtain ⟨oracle, queue, rfl, hOracleKey, hQueueKey, hWritable⟩ := hPasses.pair
  dsimp only at hOracleKey hQueueKey
  have hExpired : expired (QueueItem.createdAtFrom t) item = true :=
    decide_eq_true (Nat.lt_of_lt_of_le hOld (hostAgeSecs_le hHost hTrails hSkew))
  obtain ⟨book, hBook⟩ := run.exists_book (rt.oracleQueuePda client.pubkey index).1
  have hPending := (hBook.booked n).pending hLast
  obtain ⟨q, recs, hHosts, hLive⟩ := id hPending
  have hne : queue.key ≠ oracle.key := by
    intro hEq
    rw [hQueueKey, hOracleKey] at hEq
    exact run.not_derived_of_opened hOpened ⟨_, hEq.symm⟩
  obtain ⟨l', paid, hPurge⟩ := processPurgeExpiredRequests_ok rt ⟨slot, t⟩ oracle queue index (hQueueKey ▸ hHosts)
    (hWritable rfl hFree) (by rw [hQueueKey, hOracleKey]) hne (by rw [hQueueKey, hLive]; exact hBook.sum_cost_le hLast)
    (by rw [hQueueKey, hOracleKey]; exact hRoom)
  obtain ⟨_, _, _, hReceipt, hPurged⟩ := processPurgeExpiredRequests_effect hPurge
  cases hReceipt
  rw [hQueueKey, hOracleKey] at hPurged hPurge
  obtain ⟨hPending', hPaid, -⟩ := hPurged.pending _ hPending
  obtain ⟨q', recs', hHosts', hLive'⟩ := hPending'
  refine ⟨l', paid, _, _, hHosts.itemsOf_eq, ?_, hPurged.credited, hHosts'.itemsOf_eq, ?_, fun hItem hPaying => ?_⟩
  · change processInstruction rt _ ID _ (SolanaVrfInstruction.purgeExpiredRequests.toBytes _) _ = _
    rw [processInstruction, parseInstruction8_toBytes, bind_ok]
    exact hPurge
  · rw [hLive']
    intro hMem
    obtain ⟨r, hr, rfl⟩ := List.mem_map.mp hMem
    have hKept := (List.mem_filter.mp hr).2
    rw [hExpired] at hKept
    cases hKept
  · rw [hLive] at hItem
    obtain ⟨r, hr, rfl⟩ := List.mem_map.mp hItem
    rw [hPaid, purgePaid, hPaying, if_neg Bool.false_ne_true]
    exact List.single_le_sum (fun _ _ => Nat.zero_le _) _
      (List.mem_map_of_mem (List.mem_filter.mpr ⟨hr, hExpired⟩))

/-- The request of the sample, purged 200 seconds after it was made by a host 50 seconds behind. -/
theorem expired_request_purged_sample :
    ∃ l' paid, processInstruction Sample.curveRuntime ⟨600, 1700000200⟩ ID
        [Sample.writable Sample.oracle, Sample.writable Sample.queueKey]
        (SolanaVrfInstruction.purgeExpiredRequests.toBytes (queueIndexLayout.encode 0)) (Sample.requesting.ledger 4) =
        .ok (l', .purged Sample.queueKey Sample.oracle paid) ∧
      500000 ≤ paid ∧ ∃ items', itemsOf (l' Sample.queueKey).data = some items' ∧ Sample.item ∉ items' := by
  let ix := Sdk.purgeExpiredRequests Sample.curveRuntime.toEnvironment Sample.oracle 0
  have hPasses : Passes ∅ ix.accounts [Sample.writable Sample.oracle, Sample.writable Sample.queueKey] := by
    refine ⟨by decide +kernel, by decide +kernel, fun m hm hWritable _ => ?_⟩
    have hAll : ∀ m ∈ ix.accounts, m.isWritable = true →
        ∀ a ∈ [Sample.writable Sample.oracle, Sample.writable Sample.queueKey],
          a.key = m.pubkey → a.isWritable = true := by decide +kernel
    exact hAll m hm hWritable
  have hRead : Queue.tryFromBytes (Sample.requesting.ledger 4 Sample.queueKey).data = .ok Sample.header ∧
      prepareInstruction Sample.curveRuntime.toEnvironment Sample.client 1700000150 Sample.item Sample.item.id
        Sample.vrf Sample.queueKey Sample.header (Sample.requesting.ledger 4 Sample.queueKey).data = some ix ∧
      (Sample.requesting.ledger 4 Sample.client.pubkey).lamports +
        (Sample.requesting.ledger 4 Sample.queueKey).lamports < u64Limit := by decide +kernel
  obtain ⟨hHeader, hPrepared, hRoom⟩ := hRead
  obtain ⟨l', paid, items, items', hItems, hPurge, -, hItems', hGone, hPaid⟩ :=
    expired_request_purged Sample.curveRuntime Sample.requesting Sample.client Sample.queueKey 0 (by decide +kernel)
      (Sample.requesting_receipt 2) (by decide : 2 < 4) (Nat.le_refl 4) Sample.requesting_isQueue hHeader
      (t := 1700000200) (h := 1700000150) (by decide) (by decide) (by decide) (by decide +kernel) hPrepared 600
      (Set.notMem_empty _) hPasses hRoom
  obtain rfl := Option.some.inj (Sample.requesting_items.symm.trans hItems)
  exact ⟨l', paid, hPurge, hPaid List.mem_cons_self (by decide +kernel), items', hItems', hGone⟩

end SolanaVrf
