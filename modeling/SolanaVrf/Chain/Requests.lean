import SolanaVrf.Chain.Effects

/-! # What the request instructions do to the ledger

A request, a fulfilment, a purge and a pause each rewrite one queue account. What they do
to its pending requests is stated for whatever list the account holds.
-/

namespace SolanaVrf
set_option autoImplicit false

open Pod Slices Tiling Fallible AccountInfoValidation QueueAccount

variable {rt : Runtime} {clock : Clock} {l l' : Ledger} {accounts : List AccountInfo} {data : List UInt8}
  {receipt : Receipt}

/-! ## Requests -/

structure Requested (rt : Runtime) (clock : Clock) (acc : Accepted) (l l' : Ledger) : Prop where
  isQueue : IsQueue (l acc.queue)
  isQueue' : IsQueue (l' acc.queue)
  clock : acc.clock = clock
  charged : acc.charged = SolanaVrf.charged acc.queue acc.highPriority
  discriminator : acc.args.callbackDiscriminator.length ≤ 8
  pending : ∀ L, Pending (l acc.queue) L → ∃ i, i ≤ L.length ∧
    Pending (l' acc.queue) (L.insertIdx i (acc.record rt.toEnvironment)) ∧
    (l' acc.queue).data.length = (l acc.queue).data.length
  lamports : (l' acc.queue).lamports = (l acc.queue).lamports + acc.charged
  others : ∀ k, k ≠ acc.queue → ExternalAt rt.toEnvironment k (l k) (l' k)

theorem enqueue_frame {args : RequestRandomness} {slothash : Bytes 32} {highPriority isScoped : Bool} {bump : UInt8}
    {queue : Pubkey} {position : UInt32}
    (h : enqueue rt clock args slothash highPriority isScoped bump queue l = .ok (l', position)) :
    (∃ header, queueHeader l queue = .ok header) ∧ args.callbackDiscriminator.length ≤ 8 ∧
      ∃ q, l' = storeQueue l queue q := by
  obtain ⟨header, hHeader, h⟩ := bind_eq_ok.mp h
  obtain ⟨q, _, h⟩ := bind_eq_ok.mp h
  obtain ⟨_, h⟩ := require_bind_eq_ok.mp h
  obtain ⟨hDisc, h⟩ := require_bind_eq_ok.mp h
  refine ⟨⟨header, hHeader⟩, hDisc, ?_⟩
  dsimp only at h
  split at h
  · cases h
  · cases h
  · cases h
    exact ⟨_, rfl⟩

theorem Framed.stored_length {q q' : QueueAccount} (h : Framed q q') {k : Pubkey} {recs : List Record}
    (hHosts : Hosts (l k) q recs) : (storeQueue l k q' k).data.length = (l k).data.length := by
  rw [hHosts.storeQueue_eq, Ledger.setData_self, hHosts.data]
  simp only [List.length_append, h.length]

theorem charge_effect (env : Environment) {queue signer systemProgram : AccountInfo} {highPriority : Bool}
    (h : charge queue highPriority signer systemProgram l = .ok l') (hOwner : (l queue.key).owner = ID) :
    l' queue.key = { l queue.key with lamports := (l queue.key).lamports + charged queue.key highPriority } ∧
      External env l l' := by
  unfold charge at h
  unfold charged
  split at h
  · rename_i hExempt
    cases h
    rw [if_pos hExempt]
    exact ⟨rfl, External.refl _ _⟩
  · rename_i hPays
    obtain ⟨-, hPayer, -⟩ := System.transfer_eq_ok h
    -- a payer is owned by the system program, so it is not the queue
    have hne : queue.key ≠ signer.key := by
      intro hEq
      rw [hEq, hPayer] at hOwner
      exact absurd hOwner (by decide)
    rw [if_neg hPays]
    exact ⟨System.transfer_target h hne, System.transfer_external h⟩

theorem processRequestRandomness_eq_ok {highPriority isScoped : Bool}
    (h : processRequestRandomness rt clock accounts data highPriority isScoped l = .ok (l', receipt)) :
    ∃ signer queue systemProgram args slothash position l₁, (l queue.key).owner = ID ∧
      enqueue rt clock args slothash highPriority isScoped
        (if isScoped then (rt.scopedIdentityPda args.callbackProgramId).2 else 0) queue.key l = .ok (l₁, position) ∧
      charge queue highPriority signer systemProgram l₁ = .ok l' ∧
      receipt = .requested ⟨queue.key, args, highPriority, isScoped, slothash, clock, position,
        charged queue.key highPriority⟩ := by
  obtain ⟨args, _, h⟩ := bind_eq_ok.mp h
  dsimp only at h
  split at h
  · rename_i signerInfo programIdentityInfo oracleQueueInfo systemProgramInfo slothashesInfo _
    obtain ⟨_, h⟩ := require_bind_eq_ok.mp h
    obtain ⟨_, h⟩ := require_bind_eq_ok.mp h
    obtain ⟨_, h⟩ := require_bind_eq_ok.mp h
    obtain ⟨_, h⟩ := require_bind_eq_ok.mp h
    obtain ⟨hOwner, h⟩ := require_bind_eq_ok.mp h
    obtain ⟨_, _, h⟩ := bind_eq_ok.mp h
    obtain ⟨slothash, _, h⟩ := bind_eq_ok.mp h
    obtain ⟨⟨l₁, position⟩, hEnqueue, h⟩ := bind_eq_ok.mp h
    dsimp only at h
    obtain ⟨l₂, hCharge, h⟩ := bind_eq_ok.mp h
    cases h
    exact ⟨signerInfo, oracleQueueInfo, systemProgramInfo, args, _, position, l₁, hOwner, hEnqueue, hCharge, rfl⟩
  · cases h

theorem processRequestRandomness_effect {highPriority isScoped : Bool}
    (h : processRequestRandomness rt clock accounts data highPriority isScoped l = .ok (l', receipt)) :
    ∃ acc, receipt = .requested acc ∧ acc.highPriority = highPriority ∧ acc.isScoped = isScoped ∧
      Requested rt clock acc l l' := by
  obtain ⟨signer, queue, systemProgram, args, slothash, position, l₁, hOwner, hEnqueue, hCharge, rfl⟩ :=
    processRequestRandomness_eq_ok h
  obtain ⟨⟨header, hHeader⟩, hDisc, q', hStore⟩ := enqueue_frame hEnqueue
  have hOwner₁ : (l₁ queue.key).owner = ID := by
    rw [hStore, storeQueue, Ledger.setData_self]
    exact hOwner
  obtain ⟨hPaid, hExternal⟩ := charge_effect rt.toEnvironment hCharge hOwner₁
  have hQueue := isQueue_of_header hOwner hHeader
  have hQueue' : IsQueue (l' queue.key) := by
    rw [(hExternal _).isQueue_iff, hStore]
    exact hQueue.storeQueue q'
  refine ⟨_, rfl, rfl, rfl, hQueue, hQueue', rfl, rfl, hDisc, ?_, ?_, ?_⟩
  · rintro L ⟨q, recs, hHosts, rfl⟩
    obtain ⟨-, -, i, q₁, recs', hInserts, hRep, hFramed, rfl⟩ := enqueue_effect hHosts hEnqueue
    obtain ⟨hLive, hIndex⟩ := hInserts.filter_live rfl
    refine ⟨i, hIndex, ?_, ?_⟩
    · exact (hExternal _).pending ⟨q₁, recs', hHosts.store hRep, hLive⟩
    · rw [hPaid]
      exact hFramed.stored_length hHosts
  · rw [hPaid, hStore, storeQueue, Ledger.setData_self]
  · intro k hk
    have hOther := hExternal k
    rwa [hStore, storeQueue_of_ne q' (by exact hk)] at hOther

/-! ## Fulfilments -/

/-- The invocation is the callback of this request, signed as its mode demands. -/
def Issues (rt : Runtime) (l : Ledger) (output : Bytes 32) (r : Record) (invocation : Invocation) : Prop :=
  ∃ program identity remaining seeds, program.key = r.item.callbackProgramId ∧
    callbackSeeds rt l identity remaining r.free.item = .ok seeds ∧
    invocation = ⟨callbackInstruction rt identity.key output r.free.item ⟨r.metas, r.discriminator, r.args⟩,
      program :: identity :: remaining, seeds⟩

structure Prepares (rt : Runtime) (clock : Clock) (p : Prepared) (l l' : Ledger) : Prop where
  signed : p.oracle.isSigner = true
  derives : ∃ index, p.queue.key = (rt.oracleQueuePda p.oracle.key index).1
  registered : ∃ o, IsOracle (l (rt.oracleDataPda p.oracle.key).1) o ∧ o.vrfPubkey = p.vrfPubkey
  isQueue : IsQueue (l p.queue.key)
  stored : ∃ q, l' = storeQueue l p.queue.key q
  pending : ∀ L, Pending (l p.queue.key) L → ∃ r, L[p.index]? = some r ∧
    Taken rt clock p.oracle.key p.vrfPubkey p.args r ∧ p.item = r.free.item ∧
    Issues rt l' p.args.output r p.invocation ∧ Pending (l' p.queue.key) (L.eraseIdx p.index) ∧
    (l' p.queue.key).data.length = (l p.queue.key).data.length

theorem live_split_at (xs ys : List Record) {r : Record} (hLive : r.live = true) :
    ((xs ++ r :: ys).filter Record.live)[xs.countP Record.live]? = some r ∧
      ((xs ++ r.free :: ys).filter Record.live) =
        ((xs ++ r :: ys).filter Record.live).eraseIdx (xs.countP Record.live) := by
  rw [List.filter_append, List.filter_append, List.filter_cons_of_pos hLive,
    List.filter_cons_of_neg (by simp), ← length_filter_live,
    List.eraseIdx_append_of_length_le (Nat.le_refl _)]
  simp

theorem prepareCallback_eq_ok {p : Prepared} (h : prepareCallback rt clock accounts data l = .ok (l', p)) :
    ∃ oracle identity oracleData queue program remaining args o header q index item payload q' seeds,
      oracle ∈ accounts ∧ oracle.isSigner = true ∧ oracleData.key = (rt.oracleDataPda oracle.key).1 ∧
      Oracle.account.asAccount l oracleData ID = .ok o ∧ queueHeader l queue.key = .ok header ∧
      (l queue.key).owner = ID ∧ queue.key = (rt.oracleQueuePda oracle.key header.index).1 ∧
      openQueue l queue.key = .ok q ∧
      takeRequest rt clock oracle.key o.vrfPubkey args q = .ok (index, item, payload, q') ∧
      program.key = item.callbackProgramId ∧ callbackSeeds rt l' identity remaining item = .ok seeds ∧
      l' = storeQueue l queue.key q' ∧
      p = ⟨oracle, oracleData, queue, args, o.vrfPubkey, index, item,
        ⟨callbackInstruction rt identity.key args.output item payload, program :: identity :: remaining, seeds⟩⟩ := by
  obtain ⟨args, _, h⟩ := bind_eq_ok.mp h
  split at h
  · rename_i oracleInfo programIdentityInfo oracleDataInfo oracleQueueInfo callbackProgramInfo remaining _
    obtain ⟨hSigned, h⟩ := require_bind_eq_ok.mp h
    obtain ⟨hDataKey, h⟩ := require_bind_eq_ok.mp h
    obtain ⟨o, hOracle, h⟩ := bind_eq_ok.mp h
    obtain ⟨header, hHeader, h⟩ := bind_eq_ok.mp h
    obtain ⟨_, h⟩ := require_bind_eq_ok.mp h
    obtain ⟨hOwner, h⟩ := require_bind_eq_ok.mp h
    obtain ⟨hKey, h⟩ := require_bind_eq_ok.mp h
    obtain ⟨q, hOpen, h⟩ := bind_eq_ok.mp h
    obtain ⟨⟨index, item, payload, q'⟩, hTake, h⟩ := bind_eq_ok.mp h
    dsimp only at h
    obtain ⟨hProgram, h⟩ := require_bind_eq_ok.mp h
    obtain ⟨seeds, hSeeds, h⟩ := bind_eq_ok.mp h
    cases h
    exact ⟨oracleInfo, programIdentityInfo, oracleDataInfo, oracleQueueInfo, callbackProgramInfo, remaining, args, o,
      header, q, index, item, payload, q', seeds, by simp, hSigned, hDataKey, hOracle, hHeader, hOwner, hKey, hOpen,
      hTake, hProgram, hSeeds, rfl, rfl⟩
  · cases h

theorem prepareCallback_effect {p : Prepared} (h : prepareCallback rt clock accounts data l = .ok (l', p)) :
    Prepares rt clock p l l' ∧ p.oracle ∈ accounts := by
  obtain ⟨oracle, identity, oracleData, queue, program, remaining, args, o, header, q, index, item, payload, q', seeds,
    hMem, hSigned, hDataKey, hOracle, hHeader, hOwner, hKey, hOpen, hTake, hProgram, hSeeds, rfl, rfl⟩ :=
    prepareCallback_eq_ok h
  have hIs := Oracle.isOracle_of_asAccount hOracle
  rw [hDataKey] at hIs
  refine ⟨⟨hSigned, ⟨header.index, hKey⟩, ⟨o, hIs, rfl⟩, isQueue_of_header hOwner hHeader, ⟨q', rfl⟩, ?_⟩, hMem⟩
  rintro L ⟨q₀, recs, hHosts, rfl⟩
  rw [hHosts.openQueue_eq] at hOpen
  cases hOpen
  obtain ⟨xs, r, ys, rfl, hLive, rfl, hTaken, rfl, rfl, hRep, hFramed, -⟩ :=
    takeRequest_effect hHosts.represents hTake
  obtain ⟨hAt, hErase⟩ := live_split_at xs ys hLive
  refine ⟨r, hAt, hTaken, rfl, ⟨program, identity, remaining, seeds, hProgram, hSeeds, rfl⟩,
    ⟨q', _, hHosts.store hRep, ?_⟩, hFramed.stored_length hHosts⟩
  rw [filter_live_trim, hErase]

structure Provided (rt : Runtime) (clock : Clock) (p : Prepared) (paid : Nat) (l l' : Ledger) : Prop where
  callback : ∃ l₁ l₂, Prepares rt clock p l l₁ ∧ rt.invokeSigned p.invocation l₁ = .ok l₂ ∧
    collectFee p.queue.key p.oracle.key p.item l₂ = .ok l'
  paid : paid = feeFor p.queue.key p.item

theorem processProvideRandomness_effect
    (h : processProvideRandomness rt clock accounts data l = .ok (l', receipt)) :
    ∃ p paid, receipt = .provided p paid ∧ Provided rt clock p paid l l' := by
  obtain ⟨⟨l₁, p⟩, hPrepare, h⟩ := bind_eq_ok.mp h
  obtain ⟨l₂, hInvoke, h⟩ := bind_eq_ok.mp h
  obtain ⟨l₃, hCollect, h⟩ := bind_eq_ok.mp h
  cases h
  exact ⟨p, _, rfl, ⟨l₁, l₂, (prepareCallback_effect hPrepare).1, hInvoke, hCollect⟩, rfl⟩

theorem collectFee_effect {queue oracle : Pubkey} {item : QueueItem} (h : collectFee queue oracle item l = .ok l') :
    (l' queue).owner = (l queue).owner ∧ (l' queue).data = (l queue).data ∧
      (l' queue).lamports + feeFor queue item = (l queue).lamports ∧
      (l' oracle).lamports = (l oracle).lamports + feeFor queue item ∧
      ∀ k, k ≠ queue → ∀ env, ExternalAt env k (l k) (l' k) := by
  unfold collectFee at h
  unfold feeFor
  split at h
  · rename_i hExempt
    cases h
    rw [if_pos hExempt]
    exact ⟨rfl, rfl, rfl, rfl, fun k _ env => .refl _⟩
  · rename_i hPays
    obtain ⟨_, hFunds, hQueue, hOracle, -⟩ := transferFee_effect h
    rw [if_neg hPays]
    refine ⟨by rw [hQueue], by rw [hQueue], ?_, by rw [hOracle], fun k hk env => transferFee_others h hk⟩
    rw [hQueue]
    exact Nat.sub_add_cancel hFunds

namespace Provided

variable {p : Prepared} {paid : Nat}

theorem isQueue (h : Provided rt clock p paid l l') : IsQueue (l p.queue.key) := by
  obtain ⟨l₁, l₂, hPrepares, -⟩ := h.callback
  exact hPrepares.isQueue

theorem isQueue' (h : Provided rt clock p paid l l') : IsQueue (l' p.queue.key) := by
  obtain ⟨l₁, l₂, hPrepares, hInvoke, hCollect⟩ := h.callback
  obtain ⟨q, rfl⟩ := hPrepares.stored
  have hQueue := (rt.external_of_invokeSigned _ _ _ hInvoke _).isQueue_iff.mpr (hPrepares.isQueue.storeQueue q)
  obtain ⟨hOwner, hData, -⟩ := collectFee_effect hCollect
  exact ⟨hOwner.trans hQueue.1, by rw [hData, hQueue.2]⟩

theorem pending (h : Provided rt clock p paid l l') {L : List Record} (hPending : Pending (l p.queue.key) L) :
    ∃ r, L[p.index]? = some r ∧ Taken rt clock p.oracle.key p.vrfPubkey p.args r ∧ p.item = r.free.item ∧
      Pending (l' p.queue.key) (L.eraseIdx p.index) ∧
      (l' p.queue.key).data.length = (l p.queue.key).data.length ∧
      (l p.queue.key).lamports ≤ (l' p.queue.key).lamports + paid := by
  obtain ⟨l₁, l₂, hPrepares, hInvoke, hCollect⟩ := h.callback
  obtain ⟨r, hAt, hTaken, hItem, -, hPending₁, hLength⟩ := hPrepares.pending L hPending
  have hExternal := rt.external_of_invokeSigned _ _ _ hInvoke p.queue.key
  obtain ⟨hOwner₂, hData₂, hLamports₂⟩ := hExternal.owned hPending₁.isQueue.1
  obtain ⟨hOwner, hData, hPaid, -⟩ := collectFee_effect hCollect
  refine ⟨r, hAt, hTaken, hItem, (hExternal.pending hPending₁).congr hOwner hData, ?_, ?_⟩
  · rw [hData, hData₂, hLength]
  · obtain ⟨q, rfl⟩ := hPrepares.stored
    rw [storeQueue_lamports] at hLamports₂
    rw [h.paid]
    omega

theorem others (h : Provided rt clock p paid l l') {k : Pubkey} (hk : k ≠ p.queue.key) :
    ExternalAt rt.toEnvironment k (l k) (l' k) := by
  obtain ⟨l₁, l₂, hPrepares, hInvoke, hCollect⟩ := h.callback
  obtain ⟨-, -, -, -, hOthers⟩ := collectFee_effect hCollect
  obtain ⟨q, rfl⟩ := hPrepares.stored
  have hExternal := rt.external_of_invokeSigned _ _ _ hInvoke k
  rw [storeQueue_of_ne q hk] at hExternal
  exact hExternal.trans (hOthers k hk _)

end Provided

/-! ## Purges and pauses -/

structure Purged (rt : Runtime) (clock : Clock) (queue oracle : Pubkey) (paid : Nat) (l l' : Ledger) : Prop where
  derives : ∃ index, queue = (rt.oracleQueuePda oracle index).1
  isQueue : IsQueue (l queue)
  isQueue' : IsQueue (l' queue)
  pending : ∀ L, Pending (l queue) L →
    Pending (l' queue) (L.filter fun r => !expired (QueueItem.createdAtFrom clock.unixTimestamp) r.item) ∧
    paid = purgePaid queue
      ((L.filter fun r => expired (QueueItem.createdAtFrom clock.unixTimestamp) r.item).map Record.cost).sum ∧
    (l' queue).data.length = (l queue).data.length
  lamports : (l' queue).lamports + paid = (l queue).lamports
  credited : (l' oracle).lamports = (l oracle).lamports + paid
  others : ∀ k, k ≠ queue → ExternalAt rt.toEnvironment k (l k) (l' k)

theorem payPurge_effect {queue oracle : Pubkey} {total : Nat} (h : payPurge queue oracle total l = .ok l') :
    (l' queue).owner = (l queue).owner ∧ (l' queue).data = (l queue).data ∧
      (l' queue).lamports + purgePaid queue total = (l queue).lamports ∧
      (l' oracle).lamports = (l oracle).lamports + purgePaid queue total ∧
      ∀ k, k ≠ queue → ∀ env, ExternalAt env k (l k) (l' k) := by
  unfold payPurge at h
  unfold purgePaid
  split at h
  · rename_i hPays
    obtain ⟨_, hFunds, hQueue, hOracle, -⟩ := transferFee_effect h
    rw [hPays.2, if_neg Bool.false_ne_true]
    refine ⟨by rw [hQueue], by rw [hQueue], ?_, by rw [hOracle], fun k hk env => transferFee_others h hk⟩
    rw [hQueue]
    exact Nat.sub_add_cancel hFunds
  · rename_i hFree
    cases h
    have hNothing : (if isFeeExemptEphemeralQueue queue = true then 0 else total) = 0 := by
      split
      · rfl
      · rename_i hPays
        by_contra hTotal
        exact hFree ⟨Nat.pos_of_ne_zero hTotal, Bool.not_eq_true _ ▸ hPays⟩
    rw [hNothing]
    exact ⟨rfl, rfl, rfl, rfl, fun k _ env => .refl _⟩

theorem processPurgeExpiredRequests_eq_ok
    (h : processPurgeExpiredRequests rt clock accounts data l = .ok (l', receipt)) :
    ∃ oracle queue : AccountInfo, ∃ index header q q' total, (l queue.key).owner = ID ∧
      queue.key = (rt.oracleQueuePda oracle.key index).1 ∧ queueHeader l queue.key = .ok header ∧
      openQueue l queue.key = .ok q ∧
      purgeQueue (QueueItem.createdAtFrom clock.unixTimestamp) q = .ok (q', total) ∧
      payPurge queue.key oracle.key total (storeQueue l queue.key q') = .ok l' ∧
      receipt = .purged queue.key oracle.key (purgePaid queue.key total) := by
  obtain ⟨index, _, h⟩ := bind_eq_ok.mp h
  split at h
  · rename_i oracleInfo oracleQueueInfo _
    obtain ⟨_, h⟩ := require_bind_eq_ok.mp h
    obtain ⟨hOwner, h⟩ := require_bind_eq_ok.mp h
    obtain ⟨hKey, h⟩ := require_bind_eq_ok.mp h
    dsimp only at h
    obtain ⟨header, hHeader, h⟩ := bind_eq_ok.mp h
    obtain ⟨q, hOpen, h⟩ := bind_eq_ok.mp h
    obtain ⟨⟨q', total⟩, hPurge, h⟩ := bind_eq_ok.mp h
    dsimp only at h
    obtain ⟨l₁, hPay, h⟩ := bind_eq_ok.mp h
    cases h
    exact ⟨oracleInfo, oracleQueueInfo, index, header, q, q', total, hOwner, hKey, hHeader, hOpen, hPurge, hPay, rfl⟩
  · cases h

theorem processPurgeExpiredRequests_effect
    (h : processPurgeExpiredRequests rt clock accounts data l = .ok (l', receipt)) :
    ∃ queue oracle paid, receipt = .purged queue oracle paid ∧ Purged rt clock queue oracle paid l l' := by
  obtain ⟨oracle, queue, index, header, q, q', total, hOwner, hKey, hHeader, hOpen, hPurge, hPay, rfl⟩ :=
    processPurgeExpiredRequests_eq_ok h
  obtain ⟨hOwner', hData, hPaid, hCredited, hOthers⟩ := payPurge_effect hPay
  have hQueue := isQueue_of_header hOwner hHeader
  have hQueue' := hQueue.storeQueue q'
  refine ⟨_, _, _, rfl, ⟨index, hKey⟩, hQueue, ⟨hOwner'.trans hQueue'.1, by rw [hData, hQueue'.2]⟩, ?_, ?_, ?_, ?_⟩
  · rintro L ⟨q₀, recs, hHosts, rfl⟩
    rw [hHosts.openQueue_eq] at hOpen
    cases hOpen
    obtain ⟨q₁, recs', hEq, hRep, hLive, hFramed⟩ :=
      purgeQueue_eq hHosts.represents (QueueItem.createdAtFrom clock.unixTimestamp)
    rw [hEq] at hPurge
    cases hPurge
    refine ⟨Pending.congr ⟨q', recs', hHosts.store hRep, hLive⟩ hOwner' hData, rfl, ?_⟩
    rw [hData]
    exact hFramed.stored_length hHosts
  · rw [hPaid, storeQueue_lamports]
  · rw [hCredited]
    by_cases hne : oracle.key = queue.key
    · rw [hne, storeQueue_lamports]
    · rw [storeQueue_of_ne q' hne]
  · intro k hk
    have hOther := hOthers k hk rt.toEnvironment
    rwa [storeQueue_of_ne q' hk] at hOther

structure Paused (rt : Runtime) (queue : Pubkey) (l l' : Ledger) : Prop where
  isQueue : IsQueue (l queue)
  isQueue' : IsQueue (l' queue)
  pending : ∀ L, Pending (l queue) L → Pending (l' queue) L ∧
    (l' queue).data.length = (l queue).data.length
  lamports : (l' queue).lamports = (l queue).lamports
  others : ∀ k, k ≠ queue → l' k = l k

theorem processSetQueuePaused_eq_ok (h : processSetQueuePaused rt accounts data l = .ok (l', receipt)) :
    ∃ args, ∃ oracle ∈ accounts, ∃ queue : AccountInfo, ∃ header q, parseArgs SetQueuePaused.layout data = .ok args ∧
      args.paused ≤ 1 ∧ oracle.isSigner = true ∧ (l queue.key).owner = ID ∧
      queue.key = (rt.oracleQueuePda oracle.key args.index).1 ∧ queueHeader l queue.key = .ok header ∧
      openQueue l queue.key = .ok q ∧ l' = storeQueue l queue.key (q.setPaused args.paused) ∧ receipt = .other := by
  obtain ⟨args, hArgs, h⟩ := bind_eq_ok.mp h
  obtain ⟨hFlag, h⟩ := require_bind_eq_ok.mp h
  split at h
  · rename_i oracleInfo oracleQueueInfo _ _
    obtain ⟨hSigner, h⟩ := require_bind_eq_ok.mp h
    obtain ⟨_, h⟩ := require_bind_eq_ok.mp h
    obtain ⟨hOwner, h⟩ := require_bind_eq_ok.mp h
    obtain ⟨hKey, h⟩ := require_bind_eq_ok.mp h
    obtain ⟨header, hHeader, h⟩ := bind_eq_ok.mp h
    obtain ⟨q, hOpen, h⟩ := bind_eq_ok.mp h
    cases h
    exact ⟨args, oracleInfo, by simp, oracleQueueInfo, header, q, hArgs, hFlag, hSigner, hOwner, hKey, hHeader, hOpen,
      rfl, rfl⟩
  · cases h

theorem processSetQueuePaused_effect (h : processSetQueuePaused rt accounts data l = .ok (l', receipt)) :
    receipt = .other ∧ ∃ queue, Paused rt queue l l' := by
  obtain ⟨args, oracle, -, queue, header, q, -, -, -, hOwner, -, hHeader, hOpen, rfl, rfl⟩ :=
    processSetQueuePaused_eq_ok h
  have hQueue := isQueue_of_header hOwner hHeader
  refine ⟨rfl, queue.key, hQueue, hQueue.storeQueue _, ?_, storeQueue_lamports _, fun k hk => storeQueue_of_ne _ hk⟩
  rintro L ⟨q₀, recs, hHosts, rfl⟩
  rw [hHosts.openQueue_eq] at hOpen
  cases hOpen
  refine ⟨⟨_, recs, hHosts.store (hHosts.represents.withHeader _ rfl rfl), rfl⟩, ?_⟩
  rw [hHosts.storeQueue_eq, Ledger.setData_self, hHosts.data]
  simp only [List.length_append, setPaused, length_withHeader]

/-! ## Every instruction -/

inductive Effect (rt : Runtime) (clock : Clock) (l : Ledger) : Receipt → Ledger → Prop
  | initialized {l' : Ledger} (h : Initialized rt l l') : Effect rt clock l .other l'
  | registered {l' : Ledger} {args : ModifyOracle} (h : Registered rt clock args l l') :
      Effect rt clock l (.registered args.identity args.oraclePubkey) l'
  | unregistered {l' : Ledger} {args : ModifyOracle} (h : Unregistered rt args l l') :
      Effect rt clock l (.unregistered args.identity) l'
  | grown {l' : Ledger} {identity : Pubkey} {index : UInt8} (h : Grown rt identity index l l') :
      Effect rt clock l .other l'
  | opened {l' : Ledger} {identity : Pubkey} {index : UInt8} (h : Opened rt identity index l l') :
      Effect rt clock l (.opened identity index) l'
  | requested {l' : Ledger} {acc : Accepted} (h : Requested rt clock acc l l') :
      Effect rt clock l (.requested acc) l'
  | provided {l' : Ledger} {p : Prepared} {paid : Nat} (h : Provided rt clock p paid l l') :
      Effect rt clock l (.provided p paid) l'
  | purged {l' : Ledger} {queue oracle : Pubkey} {paid : Nat} (h : Purged rt clock queue oracle paid l l') :
      Effect rt clock l (.purged queue oracle paid) l'
  | paused {l' : Ledger} {queue : Pubkey} (h : Paused rt queue l l') : Effect rt clock l .other l'
  | closed {l' : Ledger} {identity : Pubkey} {index : UInt8} (h : QueueClosed rt identity index l l') :
      Effect rt clock l (.closed identity index (rt.oracleQueuePda identity index).1) l'
  | delegated {l' : Ledger} {identity : Pubkey} {index : UInt8} (h : QueueDelegated rt identity index l l') :
      Effect rt clock l (.delegated identity index (rt.oracleQueuePda identity index).1) l'

theorem processInstruction_effect {programId : Pubkey}
    (h : processInstruction rt clock programId accounts data l = .ok (l', receipt))
    (hSigners : Unforged rt.toEnvironment accounts) : Effect rt clock l receipt l' := by
  obtain ⟨⟨ix, rest⟩, _, h⟩ := bind_eq_ok.mp h
  -- every request variant leads here
  have hRequest {highPriority isScoped : Bool}
      (h : processRequestRandomness rt clock accounts rest highPriority isScoped l = .ok (l', receipt)) :
      Effect rt clock l receipt l' := by
    obtain ⟨acc, rfl, -, -, hRequested⟩ := processRequestRandomness_effect h
    exact .requested hRequested
  cases ix with
  | initializeProgram =>
    obtain ⟨hInitialized, rfl⟩ := processInitialize_effect h hSigners
    exact .initialized hInitialized
  | modifyOracle =>
    obtain ⟨args, ⟨rfl, hRegistered⟩ | ⟨rfl, hUnregistered⟩⟩ := processModifyOracles_effect h hSigners
    · exact .registered hRegistered
    · exact .unregistered hUnregistered
  | initializeOracleQueue =>
    obtain ⟨identity, index, -, ⟨rfl, hGrown⟩ | ⟨rfl, hOpened, -⟩⟩ := processInitializeOracleQueue_effect h hSigners
    · exact .grown hGrown
    · exact .opened hOpened
  | requestHighPriorityRandomness => exact hRequest h
  | requestRandomness => exact hRequest h
  | requestHighPriorityRandomnessScoped => exact hRequest h
  | requestRandomnessScoped => exact hRequest h
  | provideRandomness =>
    obtain ⟨p, paid, rfl, hProvided⟩ := processProvideRandomness_effect h
    exact .provided hProvided
  | delegateOracleQueue =>
    obtain ⟨identity, index, hDelegated, rfl⟩ := processDelegateOracleQueue_effect h
    exact .delegated hDelegated
  | closeOracleQueue =>
    obtain ⟨identity, index, hClosed, rfl⟩ := processCloseOracleQueue_effect h
    exact .closed hClosed
  | purgeExpiredRequests =>
    obtain ⟨queue, oracle, paid, rfl, hPurged⟩ := processPurgeExpiredRequests_effect h
    exact .purged hPurged
  | setQueuePaused =>
    obtain ⟨rfl, queue, hPaused⟩ := processSetQueuePaused_effect h
    exact .paused hPaused

/-! ## One queue -/

def Receipt.queue? : Receipt → Option Pubkey
  | requested acc => some acc.queue
  | provided p _ => some p.queue.key
  | purged queue _ _ => some queue
  | closed _ _ queue => some queue
  | delegated _ _ queue => some queue
  | _ => none

theorem RegistryChange.not_queue {rt : Runtime} {oracleData : Pubkey} {l l' : Ledger}
    (h : RegistryChange rt oracleData l l') :
    ¬IsQueue (l rt.oraclesPda.1) ∧ ¬IsQueue (l' rt.oraclesPda.1) := by
  constructor
  · intro hQueue
    have hTag := hQueue.head
    rw [headD_of_take h.before] at hTag
    cases hTag
  · intro hQueue
    have hTag := hQueue.head
    rw [headD_of_take h.after] at hTag
    cases hTag

theorem Unborn.not_queue {a : Account} (h : Unborn a) : ¬IsQueue a :=
  Blank.not_queue (Or.inr h)

inductive QueueEffect (rt : Runtime) (clock : Clock) (l : Ledger) (k : Pubkey) : Receipt → Ledger → Prop
  | external {receipt : Receipt} {l' : Ledger} (hOther : receipt.queue? ≠ some k)
      (h : ExternalAt rt.toEnvironment k (l k) (l' k)) : QueueEffect rt clock l k receipt l'
  | requested {l' : Ledger} {acc : Accepted} (h : Requested rt clock acc l l') (hk : acc.queue = k) :
      QueueEffect rt clock l k (.requested acc) l'
  | provided {l' : Ledger} {p : Prepared} {paid : Nat} (h : Provided rt clock p paid l l') (hk : p.queue.key = k) :
      QueueEffect rt clock l k (.provided p paid) l'
  | purged {l' : Ledger} {oracle : Pubkey} {paid : Nat} (h : Purged rt clock k oracle paid l l') :
      QueueEffect rt clock l k (.purged k oracle paid) l'
  | paused {l' : Ledger} (h : Paused rt k l l') : QueueEffect rt clock l k .other l'
  | closed {l' : Ledger} (hEmptied : ∀ L, Pending (l k) L → L = []) (hNot : ¬IsQueue (l' k))
      (identity : Pubkey) (index : UInt8) : QueueEffect rt clock l k (.closed identity index k) l'
  | delegated {l' : Ledger} (hEmptied : ∀ L, Pending (l k) L → L = []) (hNot : ¬IsQueue (l' k))
      (identity : Pubkey) (index : UInt8) : QueueEffect rt clock l k (.delegated identity index k) l'

namespace Effect

variable {k : Pubkey}

theorem isQueue (h : Effect rt clock l receipt l') (hk : receipt.queue? = some k) : IsQueue (l k) := by
  cases h with
  | requested h => cases hk; exact h.isQueue
  | provided h => cases hk; exact h.isQueue
  | purged h => cases hk; exact h.isQueue
  | closed h => cases hk; exact h.isQueue
  | delegated h => cases hk; exact h.isQueue
  | _ => cases hk

theorem at_queue (h : Effect rt clock l receipt l') (hQueue : IsQueue (l k)) :
    QueueEffect rt clock l k receipt l' := by
  -- the other accounts an instruction touches are no queues
  have hne {k' : Pubkey} (hNot : ¬IsQueue (l k')) : k ≠ k' := by
    rintro rfl
    exact hNot hQueue
  cases h with
  | initialized h => exact .external nofun (h.others k (hne h.before.not_queue))
  | registered h => exact .external nofun (h.others k (hne h.not_queue.1) (hne h.absent.not_queue))
  | unregistered h =>
    obtain ⟨o, hIs, -⟩ := h.drained
    exact .external nofun (h.others k (hne h.not_queue.1) (hne hIs.not_queue))
  | grown h => exact .external nofun (h.others k (hne h.blank.not_queue))
  | opened h =>
    obtain ⟨o, hIs, -⟩ := h.counted
    exact .external nofun (h.others k (hne h.blank.not_queue) (hne hIs.not_queue))
  | @requested _ acc h =>
    by_cases hk : acc.queue = k
    · exact .requested h hk
    · exact .external (fun hSome => hk (Option.some.inj hSome)) (h.others k (Ne.symm hk))
  | @provided _ p paid h =>
    by_cases hk : p.queue.key = k
    · exact .provided h hk
    · exact .external (fun hSome => hk (Option.some.inj hSome)) (h.others (Ne.symm hk))
  | @purged _ queue oracle paid h =>
    by_cases hk : queue = k
    · subst hk
      exact .purged h
    · exact .external (fun hSome => hk (Option.some.inj hSome)) (h.others k (Ne.symm hk))
  | @paused _ queue h =>
    by_cases hk : k = queue
    · subst hk
      exact .paused h
    · refine .external nofun ?_
      rw [h.others k hk]
      exact .refl _
  | @closed _ identity index h =>
    by_cases hk : (rt.oracleQueuePda identity index).1 = k
    · subst hk
      exact .closed h.emptied h.unborn.not_queue identity index
    · obtain ⟨o, hIs, -⟩ := h.counted
      exact .external (fun hSome => hk (Option.some.inj hSome)) (h.others k (Ne.symm hk) (hne hIs.not_queue))
  | @delegated _ identity index h =>
    by_cases hk : (rt.oracleQueuePda identity index).1 = k
    · subst hk
      refine .delegated h.emptied (fun hQueue' => ?_) identity index
      exact absurd (hQueue'.1.symm.trans h.delegates.owner) (by decide)
    · exact .external (fun hSome => hk (Option.some.inj hSome)) (h.delegates.others k (Ne.symm hk))

theorem born (h : Effect rt clock l receipt l') (hNot : ¬IsQueue (l k)) (hQueue : IsQueue (l' k)) :
    ∃ identity index, k = (rt.oracleQueuePda identity index).1 ∧ Opened rt identity index l l' := by
  have hne {k' : Pubkey} (hNot : ¬IsQueue (l' k')) : k ≠ k' := by
    rintro rfl
    exact hNot hQueue
  have hne' {k' : Pubkey} (hIs : IsQueue (l k')) : k ≠ k' := by
    rintro rfl
    exact hNot hIs
  have hForeign (h : ExternalAt rt.toEnvironment k (l k) (l' k)) : False := hNot (h.isQueue_iff.mp hQueue)
  cases h with
  | initialized h => exact (hForeign (h.others k (hne (not_queue_of_zero h.zeroed)))).elim
  | registered h => exact (hForeign (h.others k (hne h.not_queue.2) (hne h.present.not_queue))).elim
  | unregistered h => exact (hForeign (h.others k (hne h.not_queue.2) (hne h.absent.not_queue))).elim
  | grown h => exact (hForeign (h.others k (hne (not_queue_of_zero h.zeroed)))).elim
  | @opened _ identity index h =>
    by_cases hk : k = (rt.oracleQueuePda identity index).1
    · exact ⟨identity, index, hk, h⟩
    · obtain ⟨o, -, hIs⟩ := h.counted
      exact (hForeign (h.others k hk (hne hIs.not_queue))).elim
  | requested h => exact (hForeign (h.others k (hne' h.isQueue))).elim
  | provided h => exact (hForeign (h.others (hne' h.isQueue))).elim
  | purged h => exact (hForeign (h.others k (hne' h.isQueue))).elim
  | paused h =>
    rw [h.others k (hne' h.isQueue)] at hQueue
    exact absurd hQueue hNot
  | closed h =>
    obtain ⟨o, -, hIs⟩ := h.counted
    exact (hForeign (h.others k (hne' h.isQueue) (hne hIs.not_queue))).elim
  | delegated h => exact (hForeign (h.delegates.others k (hne' h.isQueue))).elim

end Effect

end SolanaVrf
