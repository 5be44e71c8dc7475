import SolanaVrf.Service.Commands

/-! # A queue that is opened and closed again

The instructions that open a queue take rent from the payer chunk by chunk and count the queue in
the oracle's account; the one that closes it pays the rent out and counts it off. They are written
independently of each other. Together they leave no trace but a payment: every other account of
the ledger is what it was.
-/

namespace SolanaVrf
set_option autoImplicit false

open Pod Fallible AccountInfoValidation QueueAccount

section

variable {rt : Runtime} {l l' l₁ l₂ : Ledger}

/-! ## Opening -/

/-- Opening touches the payer and the queue, and then counts the queue if it is finished. -/
theorem processInitializeOracleQueue_steps {signer oracle oracleData queue systemProgram : AccountInfo}
    {data : List UInt8} {receipt : Receipt} (h : processInitializeOracleQueue rt
      [signer, oracle, oracleData, queue, systemProgram] data l = .ok (l', receipt)) :
    ∃ l₁, Among rt [signer.key, queue.key] l l₁ ∧
      (receipt = .other → l' = l₁) ∧ (receipt ≠ .other → updateOpenQueues saturatingIncr oracleData l₁ = .ok l') := by
  obtain ⟨_, _, _, _, _, args, size, l₁, hAccounts, -, -, -, hKey, -, hCreate, hCases⟩ :=
    processInitializeOracleQueue_eq_ok h
  cases hAccounts
  have hReserved : rt.alone.Reserved queue.key := Environment.reserved_queue hKey
  have hSized : Moves rt.alone [signer, queue] l l₁ := createOrResize_moves hCreate (by simp) (by simp) hReserved
  obtain ⟨rfl, rfl⟩ | ⟨-, rfl, l₂, hWrite, hCount⟩ := hCases
  · exact ⟨l', hSized.among (by simp), fun _ => rfl, fun h => absurd rfl h⟩
  · have hWritten : Moves rt.alone [signer, queue] l₁ l₂ := writeQueueHeader_moves hWrite (by simp) hReserved
    refine ⟨l₂, (hSized.trans hWritten).among (by simp), fun hOther => ?_, fun _ => hCount⟩
    cases hOther

/-! ## The oracle's account -/

/-- The account with this content. -/
def Oracle.stored (a : Account) (o : Oracle) : Account := { a with data := a.data.take 8 ++ Oracle.layout.encode o }

theorem Oracle.stored_stored {a : Account} (h : 8 ≤ a.data.length) (o o' : Oracle) :
    Oracle.stored (Oracle.stored a o) o' = Oracle.stored a o' := by
  have hTake : (a.data.take 8 ++ Oracle.layout.encode o).take 8 = a.data.take 8 :=
    List.take_left' (by rw [List.length_take, Nat.min_eq_left h])
  unfold Oracle.stored
  dsimp only
  rw [hTake]

theorem IsOracle.stored_eq {a : Account} {o : Oracle} (h : IsOracle a o) : Oracle.stored a o = a := by
  unfold Oracle.stored
  rw [← h.data, List.take_append_drop]

theorem updateOpenQueues_stored {update : UInt64 → UInt64} {a : AccountInfo} {o : Oracle}
    (h : updateOpenQueues update a l = .ok l') (hOracle : IsOracle (l a.key) o) :
    l' a.key = Oracle.stored (l a.key) { o with openQueues := update o.openQueues } ∧
      IsOracle (l' a.key) { o with openQueues := update o.openQueues } ∧ ∀ k, k ≠ a.key → l' k = l k := by
  obtain ⟨o', hRead, h⟩ := bind_eq_ok.mp h
  obtain rfl : o = o' := hOracle.unique (Oracle.isOracle_of_asAccountMut hRead)
  cases h
  exact ⟨Ledger.setData_self _ _, hOracle.store _, fun k hk => Ledger.setData_of_ne _ hk⟩

theorem saturatingDecr_saturatingIncr {n : UInt64} (h : n.toNat ≤ 256) : saturatingDecr (saturatingIncr n) = n := by
  have hIncr := saturatingIncr_toNat h
  have hDecr := saturatingDecr_toNat (n := saturatingIncr n) (by omega)
  exact UInt64.toNat_inj.mp (by omega)

/-! ## Both together -/

theorem Ledger.pay_source {source target : Pubkey} (h : source ≠ target) (amount : Nat) :
    l.pay source target amount source = { l source with lamports := (l source).lamports - amount } := by
  rw [Ledger.pay, Ledger.setLamports_of_ne _ h, Ledger.setLamports_self]

theorem Ledger.pay_target {source target : Pubkey} (h : source ≠ target) (amount : Nat) :
    l.pay source target amount target = { l target with lamports := (l target).lamports + amount } := by
  rw [Ledger.pay, Ledger.setLamports_self, Ledger.setLamports_of_ne _ h.symm]

theorem Ledger.pay_self {k : Pubkey} {amount : Nat} (h : amount ≤ (l k).lamports) : l.pay k k amount = l := by
  funext k'
  by_cases hk : k' = k
  · subst hk
    rw [Ledger.pay, Ledger.setLamports_self, Ledger.setLamports_self]
    refine Account.eq_of_fields ?_ rfl rfl rfl
    dsimp only
    omega
  · exact Ledger.pay_of_ne hk hk

theorem Among.sum {a b : Pubkey} (h : Among rt [a, b] l l') (hne : a ≠ b) :
    (l' a).lamports + (l' b).lamports = (l a).lamports + (l b).lamports := by
  have hTotal := h.balanced.total
  simpa [Ledger.total, hne] using hTotal

/-- Counting the queue and counting it off cancel, and leave what closing the account does. -/
theorem close_undoes_count {oracle oracleData oracleData' queue : AccountInfo} {o : Oracle} {data : List UInt8}
    {receipt : Receipt} (hOpened : updateOpenQueues saturatingIncr oracleData l = .ok l₁)
    (hClosed : processCloseOracleQueue rt [oracle, oracleData', queue] data l₁ = .ok (l₂, receipt))
    (hDataKey : oracleData'.key = oracleData.key) (hOracle : IsOracle (l oracleData.key) o)
    (hFew : o.openQueues.toNat ≤ 256) (hQueue : oracleData.key ≠ queue.key) (hne : oracle.key ≠ queue.key) :
    l₂ queue.key = { l queue.key with lamports := 0, owner := systemProgramId, data := [] } ∧
    l₂ oracle.key = { l oracle.key with lamports := (l oracle.key).lamports + (l queue.key).lamports } ∧
    ∀ k, k ≠ queue.key → k ≠ oracle.key → l₂ k = l k := by
  obtain ⟨hIncr, hCounts, hRest⟩ := updateOpenQueues_stored hOpened hOracle
  obtain ⟨_, q, l', -, -, hDecr, hClose⟩ := processCloseOracleQueue_steps hClosed
  have hStored : storeQueue l₁ queue.key q oracleData'.key = l₁ oracleData.key := by
    rw [hDataKey, storeQueue_of_ne q hQueue]
  obtain ⟨hCounted, -, hKept⟩ := updateOpenQueues_stored hDecr (hStored ▸ hCounts)
  rw [hStored, hDataKey] at hCounted
  rw [hDataKey] at hKept
  have hBack : l' oracleData.key = l oracleData.key := by
    rw [hCounted, hIncr, Oracle.stored_stored hOracle.length]
    dsimp only
    rw [saturatingDecr_saturatingIncr hFew]
    exact hOracle.stored_eq
  have hSame (k : Pubkey) (hk : k ≠ queue.key) : l' k = l k := by
    by_cases hData : k = oracleData.key
    · rw [hData, hBack]
    · rw [hKept k hData, storeQueue_of_ne q hk, hRest k hData]
  have hHeld : l' queue.key = { l queue.key with data := (l' queue.key).data } := by
    rw [hKept _ hQueue.symm, storeQueue, Ledger.setData_self, hRest _ hQueue.symm]
  obtain ⟨hGone, hPaid, hOthers⟩ := closeAccount_accounts hClose
  refine ⟨?_, ?_, fun k hk hk' => ?_⟩
  · rw [hGone, hHeld]
  · rw [hPaid, hSame _ hne, hHeld]
  · rw [hOthers k hk hk', hSame k hk]

/-- The payer has given the recipient what the queue held, and nothing else has changed. -/
theorem close_undoes_open {signer : Pubkey} {oracle oracleData oracleData' queue : AccountInfo} {o : Oracle}
    {data : List UInt8} {receipt : Receipt} {l₃ : Ledger} (hGrown : Among rt [signer, queue.key] l l₁)
    (hOpened : updateOpenQueues saturatingIncr oracleData l₁ = .ok l₂)
    (hClosed : processCloseOracleQueue rt [oracle, oracleData', queue] data l₂ = .ok (l₃, receipt))
    (hDataKey : oracleData'.key = oracleData.key) (hOracle : IsOracle (l oracleData.key) o)
    (hFew : o.openQueues.toNat ≤ 256) (hUnborn : Unborn (l queue.key)) (hEmpty : (l queue.key).lamports = 0)
    (hWallet : Unborn (l signer)) (hSigner : ¬rt.Derived signer) (hIdentity : ¬rt.Derived oracle.key)
    (hQueue : rt.Derived queue.key) (hData : rt.Derived oracleData.key) :
    (l₂ queue.key).lamports ≤ (l signer).lamports ∧ l₃ = l.pay signer oracle.key (l₂ queue.key).lamports := by
  have ne_of {k k' : Pubkey} (h : ¬rt.Derived k) (h' : rt.Derived k') : k ≠ k' := fun hSame => h (hSame ▸ h')
  have hApart : oracleData.key ≠ queue.key := by
    intro hSame
    rw [hSame] at hOracle
    exact hOracle.not_zero (by simp [hUnborn.2])
  have hPayer : signer ≠ queue.key := ne_of hSigner hQueue
  have hReceiver : oracle.key ≠ queue.key := ne_of hIdentity hQueue
  have hSame : l₁ oracleData.key = l oracleData.key := hGrown.frame (by simp [(ne_of hSigner hData).symm, hApart])
  obtain ⟨hGone, hPaid, hOthers⟩ :=
    close_undoes_count hOpened hClosed hDataKey (hSame ▸ hOracle) hFew hApart hReceiver
  have hSum := hGrown.sum hPayer
  obtain ⟨hOwner, hNoData⟩ := hGrown.wallet (fun h => hSigner h.derived) (by rw [hWallet.1]; decide)
  rw [updateOpenQueues_lamports hOpened]
  refine ⟨by omega, funext fun k => ?_⟩
  by_cases hk : k = queue.key
  · -- the queue is unborn again
    subst hk
    rw [hGone, Ledger.pay_of_ne hPayer.symm hReceiver.symm]
    exact Account.eq_of_fields hEmpty.symm hUnborn.2.symm hUnborn.1.symm (hGrown.executable _)
  by_cases hTarget : k = oracle.key
  · subst hTarget
    rw [hPaid]
    by_cases hSelf : signer = oracle.key
    · subst hSelf
      rw [Ledger.pay_self (by omega)]
      refine Account.eq_of_fields ?_ hNoData hOwner (hGrown.executable _)
      dsimp only
      omega
    · rw [Ledger.pay_target hSelf, hGrown.frame (by simp [Ne.symm hSelf, hk])]
  rw [hOthers k hk hTarget]
  by_cases hSource : k = signer
  · subst hSource
    rw [Ledger.pay_source hTarget]
    refine Account.eq_of_fields ?_ hNoData hOwner (hGrown.executable _)
    dsimp only
    omega
  · rw [Ledger.pay_of_ne hSource hTarget, hGrown.frame (by simp [hSource, hk])]

end

/-! ## The calls of a run -/

section

variable {rt : Runtime} {run : ChainRun rt} {signer identity : Pubkey} {index : UInt8} {n : Nat}

theorem Calls.left {ixs ixs' : List Instruction} (h : Calls run n (ixs ++ ixs')) : Calls run n ixs := by
  intro i ix hix
  refine h i ix ?_
  rw [List.getElem?_append_left (List.getElem?_eq_some_iff.mp hix).1, hix]

theorem Calls.last {ixs : List Instruction} {ix : Instruction} (h : Calls run n (ixs ++ [ix])) :
    ∃ infos, Passes ∅ ix.accounts infos ∧ run.event (n + ixs.length) = .call infos ix.data :=
  h ixs.length ix (by simp)

theorem ChainRun.step_of_call {m : Nat} {infos : List AccountInfo} {data : List UInt8} {l' : Ledger} {receipt : Receipt}
    (hEvent : run.event m = .call infos data)
    (hOk : processInstruction rt (run.clock m) ID infos data (run.ledger m) = .ok (l', receipt)) :
    run.receipt m = some receipt ∧ run.ledger (m + 1) = l' := by
  have hExecute : (run.state m).execute rt infos data = .ok (l', receipt) := hOk
  constructor
  · rw [ChainRun.receipt, hEvent, World.receipt, hExecute]
  · change (World.next rt (run.state m) (run.event m)).ledger = l'
    rw [hEvent, World.next, hExecute]

/-- While the account grows, lamports go from the payer to it and nothing else happens. -/
theorem Calls.grown {bytesToAllocate : Option UInt32} {o : Oracle} {total : Nat}
    (h : Calls run n (Sdk.initializeOracleQueue rt.toEnvironment signer identity index bytesToAllocate))
    (hMax : bytesToAllocate.getD 9500 ≤ MAX_QUEUE_ACCOUNT_SIZE) (hMonotone : Monotone rt.minimumBalance)
    (hRent : rt.minimumBalance (bytesToAllocate.getD 9500).toNat ≤ total)
    (hStart : Growing rt signer identity index o total 0 (run.ledger n)) (i : Nat)
    (hi : 10240 * i < (bytesToAllocate.getD 9500).toNat) :
    Among rt [signer, (rt.oracleQueuePda identity index).1] (run.ledger n) (run.ledger (n + i)) := by
  induction i with
  | zero => exact .refl _ _ _
  | succ i ih =>
    refine (ih (by omega)).trans ?_
    have hPos : 0 < (bytesToAllocate.getD 9500).toNat := Nat.lt_of_le_of_lt (Nat.zero_le _) hi
    obtain ⟨-, hCeil⟩ := divCeil_bounds hPos (b := 10240) (by decide)
    obtain ⟨-, hReceipts⟩ := h.growing hMax hMonotone hRent hStart (i + 1) hi
    obtain ⟨signerInfo, oracleInfo, oracleDataInfo, oracleQueueInfo, systemProgram, hEvent, hSent⟩ :=
      h.sent (i := i) (by omega)
    obtain ⟨infos, data, hCall, -, hOk⟩ := run.call_of_receipt (hReceipts i (Nat.lt_succ_self i))
    rw [hEvent] at hCall
    cases hCall
    rw [processInstruction, parseInstruction8_toBytes, bind_ok] at hOk
    obtain ⟨l₁, hAmong, hOther, -⟩ := processInitializeOracleQueue_steps hOk
    rw [hSent.payer, hSent.queueKey, ← hOther rfl] at hAmong
    exact hAmong

/-- What stands at the end of the calls that open a queue. -/
structure Finished (rt : Runtime) (signer identity : Pubkey) (index : UInt8) (o : Oracle) (size : Nat)
    (l l' : Ledger) : Prop where
  counted : ∃ oracleData l₁, oracleData.key = (rt.oracleDataPda identity).1 ∧
    Among rt [signer, (rt.oracleQueuePda identity index).1] l l₁ ∧
    updateOpenQueues saturatingIncr oracleData l₁ = .ok l'
  empty : ∃ q, Hosts (l' (rt.oracleQueuePda identity index).1) q []
  oracle : IsOracle (l' (rt.oracleDataPda identity).1) { o with openQueues := saturatingIncr o.openQueues }
  rent : rt.minimumBalance size ≤ (l' (rt.oracleQueuePda identity index).1).lamports
  wallet : ¬rt.Derived signer

/-- The oracle can hold what the queue holds besides its own. -/
theorem Finished.room {o : Oracle} {size : Nat} {l l' : Ledger} (h : Finished rt signer identity index o size l l')
    (hIdentity : ¬rt.Derived identity) (hEmpty : (l (rt.oracleQueuePda identity index).1).lamports = 0)
    (hSupply : (l signer).lamports + (l identity).lamports < u64Limit) :
    (l' identity).lamports + (l' (rt.oracleQueuePda identity index).1).lamports < u64Limit := by
  obtain ⟨oracleData, l₁, -, hGrown, hCounted⟩ := h.counted
  have hQueue : rt.Derived (rt.oracleQueuePda identity index).1 := ⟨_, rfl⟩
  have hSum := hGrown.sum fun hSame => h.wallet (hSame ▸ hQueue)
  rw [updateOpenQueues_lamports hCounted, updateOpenQueues_lamports hCounted]
  by_cases hSelf : identity = signer
  · rw [← hSelf] at hSum hSupply
    omega
  · have hOther : identity ≠ (rt.oracleQueuePda identity index).1 := fun hSame => hIdentity (hSame ▸ hQueue)
    rw [hGrown.frame (k := identity) (by simp [hSelf, hOther])]
    omega

theorem Hosts.isEmpty {a : Account} {q : QueueAccount} (h : Hosts a q []) : q.isEmpty = true := by
  have hZero : q.header.itemCount = 0 := UInt32.toNat_inj.mp h.represents.count
  rw [QueueAccount.isEmpty, hZero]
  rfl

theorem Calls.finished {bytesToAllocate : Option UInt32} {o : Oracle} {total : Nat}
    (h : Calls run n (Sdk.initializeOracleQueue rt.toEnvironment signer identity index bytesToAllocate))
    (hMin : 20 ≤ (bytesToAllocate.getD 9500).toNat) (hMax : bytesToAllocate.getD 9500 ≤ MAX_QUEUE_ACCOUNT_SIZE)
    (hMonotone : Monotone rt.minimumBalance)
    (hRent : rt.minimumBalance (bytesToAllocate.getD 9500).toNat ≤ total)
    (hStart : Growing rt signer identity index o total 0 (run.ledger n)) :
    (∀ i < divCeil (bytesToAllocate.getD 9500).toNat 10240, (run.receipt (n + i)).isSome = true) ∧
    Finished rt signer identity index o (bytesToAllocate.getD 9500).toNat (run.ledger n)
      (run.ledger (n + divCeil (bytesToAllocate.getD 9500).toNat 10240)) := by
  obtain ⟨hLess, hEnough⟩ := divCeil_bounds (Nat.lt_of_lt_of_le (by decide) hMin) (b := 10240) (by decide)
  obtain ⟨last, hLast⟩ : ∃ last, divCeil (bytesToAllocate.getD 9500).toNat 10240 = last + 1 :=
    Nat.exists_eq_succ_of_ne_zero (by omega)
  rw [hLast, Nat.add_sub_cancel] at hLess
  obtain ⟨signerInfo, oracleInfo, oracleDataInfo, oracleQueueInfo, systemProgram, hEvent, hSent⟩ :=
    h.sent (i := last) (by omega)
  rw [hLast] at hEnough ⊢
  have hGrown := h.grown hMax hMonotone hRent hStart last hLess
  obtain ⟨hBefore, hReceipts⟩ := h.growing hMax hMonotone hRent hStart last hLess
  obtain ⟨l', hOk, ⟨q, hHosts, -⟩, -, hLamports, hCounted⟩ := hBefore.finish hSent hMax hMin hEnough hRent
  obtain ⟨hReceipt, rfl⟩ := run.initializes hEvent hOk
  obtain ⟨l₁, hAmong, -, hCount⟩ := processInitializeOracleQueue_steps hOk
  rw [hSent.payer, hSent.queueKey] at hAmong
  have hAllowed := run.allowed_at (n + last)
  rw [hEvent] at hAllowed
  refine ⟨fun i hi => ?_, ⟨oracleDataInfo, l₁, hSent.dataKey, hGrown.trans hAmong, hCount ?_⟩, ⟨q, hHosts⟩, hCounted,
    hLamports, ?_⟩
  · obtain hi | rfl := Nat.lt_succ_iff_lt_or_eq.mp hi
    · rw [hReceipts i hi]
      rfl
    · rw [hReceipt]
      rfl
  · intro hOther
    cases hOther
  · rw [← hSent.payer]
    exact hAllowed signerInfo List.mem_cons_self hSent.signs.signer

end

/-- A registered oracle's queue of 20 to 524288 bytes is opened at an unused address by the calls of the SDK,
paid by a plain wallet that holds the rent, and closed by the next call. All calls succeed, and the ledger is
the one from before, except that the rent went from the one who paid for the queue to the oracle. If the
oracle itself paid, nothing has changed at all. -/
theorem open_close_restores (rt : Runtime) (hMonotone : Monotone rt.minimumBalance) (run : ChainRun rt)
    (hApart : DerivesApart rt.toEnvironment run.identities) (signer identity k : Pubkey) (index : UInt8)
    (hk : k = (rt.oracleQueuePda identity index).1) (bytesToAllocate : Option UInt32) (size : Nat)
    (hSize : size = (bytesToAllocate.getD 9500).toNat) (hMin : 20 ≤ size) (hMax : size ≤ 524288) (n : Nat)
    (o : Oracle) (hKnown : identity ∈ run.identities)
    (hOracle : IsOracle (run.ledger n (rt.oracleDataPda identity).1) o) (hUnborn : Unborn (run.ledger n k))
    (hEmpty : (run.ledger n k).lamports = 0) (hWallet : Unborn (run.ledger n signer))
    (hFunds : rt.minimumBalance size ≤ (run.ledger n signer).lamports)
    (hSupply : (run.ledger n signer).lamports + (run.ledger n identity).lamports < u64Limit) (ixs : List Instruction)
    (hIxs : ixs = Sdk.initializeOracleQueue rt.toEnvironment signer identity index bytesToAllocate ++
      [Sdk.closeOracleQueue rt.toEnvironment identity index])
    (hCalls : Calls run n ixs) :
    (∀ i < ixs.length, (run.receipt (n + i)).isSome = true) ∧
    ∃ rent, rt.minimumBalance size ≤ rent ∧ rent ≤ (run.ledger n signer).lamports ∧
      run.ledger (n + ixs.length) = (run.ledger n).pay signer identity rent ∧
      (signer = identity → run.ledger (n + ixs.length) = run.ledger n) := by
  subst hk hSize hIxs
  have hCap : bytesToAllocate.getD 9500 ≤ MAX_QUEUE_ACCOUNT_SIZE := UInt32.le_iff_toNat_le.mpr hMax
  have hStart : Growing rt signer identity index o (run.ledger n signer).lamports 0 (run.ledger n) :=
    ⟨⟨by omega, hWallet.1, hWallet.2, by rw [hEmpty, Nat.add_zero]⟩, Or.inr hUnborn, hUnborn.2, hOracle⟩
  have hLength : (Sdk.initializeOracleQueue rt.toEnvironment signer identity index bytesToAllocate).length =
      divCeil (bytesToAllocate.getD 9500).toNat 10240 := List.length_replicate
  obtain ⟨hReceipts, hFinished⟩ := hCalls.left.finished hMin hCap hMonotone hFunds hStart
  obtain ⟨infos, hPasses, hEvent⟩ := hCalls.last
  rw [List.length_append, List.length_singleton, ← Nat.add_assoc, hLength]
  rw [hLength] at hEvent
  have hAllowed := run.allowed_at (n + divCeil (bytesToAllocate.getD 9500).toNat 10240)
  rw [hEvent] at hAllowed
  -- the call that closes the queue
  obtain ⟨oracle, _, rfl, hOracleKey, hSigns, -, hPasses⟩ := hPasses.cons
  obtain ⟨oracleData, _, rfl, hDataKey, -, hDataWritable, hPasses⟩ := hPasses.cons
  obtain ⟨queue, _, rfl, hQueueKey, -, hWritable, hPasses⟩ := hPasses.cons
  obtain rfl := hPasses.nil_of
  dsimp only at hOracleKey hDataKey hQueueKey
  obtain rfl := hOracleKey
  have hIdentity : ¬rt.Derived oracle.key := hAllowed oracle List.mem_cons_self (hSigns rfl)
  obtain ⟨oracleData', l₁, hDataKey', hGrown, hCounted⟩ := hFinished.counted
  obtain ⟨q, hHosts⟩ := hFinished.empty
  have hRoom := hFinished.room hIdentity hEmpty hSupply
  have hIsOracle := hFinished.oracle
  have hRent := hFinished.rent
  rw [← hQueueKey] at hGrown hHosts hRent hUnborn hEmpty hRoom
  rw [← hDataKey] at hIsOracle
  have hQueue : rt.Derived queue.key := ⟨_, hQueueKey⟩
  obtain ⟨l', hClose, -⟩ := processCloseOracleQueue_ok rt oracle oracleData queue index hHosts hHosts.isEmpty hIsOracle
    (hSigns rfl) hDataKey (hDataWritable rfl (Set.notMem_empty _)) hQueueKey (hWritable rfl (Set.notMem_empty _))
    (fun hSame => hIdentity (hSame ▸ hQueue)) hRoom
  have hOk : processInstruction rt (run.clock (n + divCeil (bytesToAllocate.getD 9500).toNat 10240)) ID
      [oracle, oracleData, queue] (SolanaVrfInstruction.closeOracleQueue.toBytes (queueIndexLayout.encode index))
      (run.ledger (n + divCeil (bytesToAllocate.getD 9500).toNat 10240)) =
        .ok (l', .closed oracle.key index queue.key) := by
    rw [processInstruction, parseInstruction8_toBytes, bind_ok]
    exact hClose
  obtain ⟨hReceipt, hNext⟩ := run.step_of_call hEvent hOk
  obtain ⟨enrolment, hEnrols⟩ := run.exists_enrolment hApart hKnown
  have hCount := ((hEnrols.enrolled n).key_of_oracle hOracle).2
  have hFew := card_le_256 (enrolment n).queues
  rw [← hDataKey'] at hOracle
  obtain ⟨hPaid, hResult⟩ := close_undoes_open hGrown hCounted hClose (hDataKey.trans hDataKey'.symm) hOracle (by omega)
    hUnborn hEmpty hWallet hFinished.wallet hIdentity hQueue ⟨_, hDataKey'⟩
  rw [hNext]
  refine ⟨fun i hi => ?_, _, hRent, hPaid, hResult, fun hSelf => ?_⟩
  · obtain hi | rfl := Nat.lt_succ_iff_lt_or_eq.mp hi
    · exact hReceipts i hi
    · rw [hReceipt]
      rfl
  · rw [hResult, hSelf]
    exact Ledger.pay_self (hSelf ▸ hPaid)

namespace Sample

def closing : Event :=
  .call [signer oracle, writable oracleDataKey, writable queueKey]
    (SolanaVrfInstruction.closeOracleQueue.toBytes (queueIndexLayout.encode 0))

/-- A queue of 10300 bytes is opened by two calls and closed by a third. -/
def roundTrip : ChainRun (runtimeWith [] []) :=
  runWith table_nil (events.take 2 ++ [opening, opening, closing]) Sample.clock (by decide +kernel)

theorem closing_identity {w : World} {receipt : Receipt} {o : Pubkey}
    (hReceipt : w.receipt (runtimeWith [] []) closing = some receipt) (hIdentity : receipt.identity? = some o) :
    o = oracle := by
  rw [closing, World.receipt, World.execute, processInstruction, parseInstruction8_toBytes, bind_ok] at hReceipt
  split at hReceipt
  · rename_i hOk
    cases hReceipt
    obtain ⟨_, _, _, -, hClosed, -, -⟩ := processCloseOracleQueue_steps hOk
    rw [hClosed] at hIdentity
    exact (Option.some.inj hIdentity).symm
  · cases hReceipt

theorem roundTrip_identities : roundTrip.identities ⊆ {oracle} := by
  rintro o ⟨n, receipt, hReceipt, hIdentity⟩
  have hFirst : roundTrip.receipt 0 = some .other ∧ roundTrip.receipt 1 = some (.registered oracle vrfPubkey) := by
    decide +kernel
  rcases n with _ | _ | _ | _ | _ | n
  · rw [hFirst.1] at hReceipt
    cases hReceipt
    cases hIdentity
  · rw [hFirst.2] at hReceipt
    cases hReceipt
    exact (Option.some.inj hIdentity).symm
  · exact opening_identity hReceipt hIdentity
  · exact opening_identity hReceipt hIdentity
  · exact closing_identity hReceipt hIdentity
  · cases hReceipt

theorem closing_passes :
    Passes ∅ (Sdk.closeOracleQueue (runtimeWith [] []).toEnvironment oracle 0).accounts
      [signer oracle, writable oracleDataKey, writable queueKey] where
  keys := by decide +kernel
  signers := by decide +kernel
  writable := by
    have hAll : ∀ a ∈ [signer oracle, writable oracleDataKey, writable queueKey], a.isWritable = true := by
      decide +kernel
    exact fun _ _ _ _ a ha _ => hAll a ha

theorem roundTrip_calls :
    Calls roundTrip 2 (Sdk.initializeOracleQueue (runtimeWith [] []).toEnvironment payer oracle 0 (some 10300) ++
      [Sdk.closeOracleQueue (runtimeWith [] []).toEnvironment oracle 0]) := by
  intro i ix hix
  rcases i with _ | _ | _ | i
  · cases hix
    exact ⟨_, opening_passes, rfl⟩
  · cases hix
    exact ⟨_, opening_passes, rfl⟩
  · cases hix
    exact ⟨_, closing_passes, rfl⟩
  · cases hix

end Sample

/-- The payer's rent ends up with the oracle. -/
theorem open_close_restores_two :
    (Sample.roundTrip.receipt 4).isSome = true ∧ ∃ rent, 72578880 ≤ rent ∧
      Sample.roundTrip.ledger 5 = (Sample.roundTrip.ledger 2).pay Sample.payer Sample.oracle rent := by
  have hApart := Sample.derivesApart_of Sample.findProgramAddress_with_nil Sample.roundTrip_identities
  have hMonotone : Monotone (Sample.runtimeWith [] []).minimumBalance := by
    intro a b hab
    exact Nat.mul_le_mul_right 6960 (Nat.add_le_add_left hab 128)
  have hKnown : Sample.oracle ∈ Sample.roundTrip.identities :=
    ⟨1, .registered Sample.oracle Sample.vrfPubkey, by decide +kernel, rfl⟩
  have hOracle : IsOracle (Sample.roundTrip.ledger 2 ((Sample.runtimeWith [] []).oracleDataPda Sample.oracle).1)
      ⟨Sample.vrfPubkey, 100, 0⟩ := Sample.openings_isOracle
  have hBefore : Unborn (Sample.roundTrip.ledger 2 Sample.queueKey) ∧
      (Sample.roundTrip.ledger 2 Sample.queueKey).lamports = 0 ∧ Unborn (Sample.roundTrip.ledger 2 Sample.payer) ∧
      (Sample.runtimeWith [] []).minimumBalance 10300 ≤ (Sample.roundTrip.ledger 2 Sample.payer).lamports ∧
      (Sample.roundTrip.ledger 2 Sample.payer).lamports + (Sample.roundTrip.ledger 2 Sample.oracle).lamports <
        u64Limit := by
    unfold Unborn
    decide +kernel
  obtain ⟨hUnborn, hEmpty, hWallet, hFunds, hSupply⟩ := hBefore
  obtain ⟨hReceipts, rent, hRent, -, hLedger, -⟩ := open_close_restores (Sample.runtimeWith [] []) hMonotone
    Sample.roundTrip hApart Sample.payer Sample.oracle Sample.queueKey 0 Sample.queueKey_with_nil (some 10300) 10300 rfl
    (by decide) (by decide) 2 _ hKnown hOracle hUnborn hEmpty hWallet hFunds hSupply _ rfl Sample.roundTrip_calls
  exact ⟨hReceipts 2 (by decide), rent, hRent, hLedger⟩

end SolanaVrf
