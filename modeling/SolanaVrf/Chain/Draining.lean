import SolanaVrf.Chain.Registry
import SolanaVrf.Chain.Solvency
import SolanaVrf.Chain.Bodies
import SolanaVrf.Chain.Expiry

/-! # Draining and closing a paused queue

A paused queue accepts no request. Once its pending requests are old enough one purge by
anyone removes them all, and the oracle can then close the queue: the counter in the header
is the number of live items, the queue holds what the purge pays out, and the oracle's own
account is still there to be updated.
-/

namespace SolanaVrf
set_option autoImplicit false

open Pod Fallible Transition AccountInfoValidation QueueAccount QueueItem

variable {rt : Runtime} {clock : Clock} {l l' : Ledger} {k : Pubkey} {q : QueueAccount} {recs : List Record}

/-! ## Pausing -/

def QueuePaused (a : Account) : Prop := IsQueue a ∧ ∃ q, load a.data = .ok q ∧ q.header.paused = 1

def Unpauses (env : Environment) (k : Pubkey) : Event → Prop
  | .call accounts data => ∃ args, SetsPaused data args ∧ args.paused = 0 ∧
      ∃ oracle ∈ accounts, oracle.isSigner = true ∧ k = (env.oracleQueuePda oracle.key args.index).1
  | .outside _ => False
  | .tick _ => False

theorem Hosts.queuePaused_iff {a : Account} (h : Hosts a q recs) : QueuePaused a ↔ q.header.paused = 1 := by
  have hLoad : load a.data = .ok q := by
    rw [h.data]
    exact h.represents.load_eq
  rw [QueuePaused, and_iff_right h.isQueue, hLoad]
  simp

/-- A call leaves the flag set, unless the oracle takes it back. -/
theorem BodyStep.paused_one {accounts : List AccountInfo} {data : List UInt8} {receipt : Receipt}
    {q' : QueueAccount} {recs' : List Record} (h : BodyStep rt clock accounts data k q recs receipt q' recs')
    (hRep : Represents q recs) (hPaused : q.header.paused = 1)
    (hKept : ¬Unpauses rt.toEnvironment k (.call accounts data)) : q'.header.paused = 1 := by
  cases h with
  | still _ => exact hPaused
  | requested _ _ _ _ hFramed => exact hFramed.paused.trans hPaused
  | provided _ _ _ _ hFramed _ => exact hFramed.paused.trans hPaused
  | purged _ _ => exact (hRep.after_pass _).2.1.paused.trans hPaused
  | @paused args oracle hCall hFlag hMem hSigner hk =>
    have hNot : args.paused ≠ 0 := fun hZero => hKept ⟨args, hCall, hZero, oracle, hMem, hSigner, hk⟩
    have hOne : args.paused = 1 := by
      rw [UInt8.le_iff_toNat_le] at hFlag
      rw [ne_eq, ← UInt8.toNat_inj] at hNot
      apply UInt8.toNat_inj.mp
      change args.paused.toNat ≤ 1 at hFlag
      change args.paused.toNat ≠ 0 at hNot
      change args.paused.toNat = 1
      omega
    rw [setPaused, header_withHeader]
    exact hOne

namespace Follows

variable {run : ChainRun rt} {book : Nat → List Entry} {n : Nat}

theorem paused_succ (h : Follows run k book) (hPaused : QueuePaused (run.ledger n k))
    (hKept : ¬Unpauses rt.toEnvironment k (run.event n)) (hQueue : IsQueue (run.ledger (n + 1) k)) :
    QueuePaused (run.ledger (n + 1) k) := by
  obtain ⟨q, recs, hHosts, -⟩ := (h.booked n).pending hPaused.1
  have hFlag := hHosts.queuePaused_iff.mp hPaused
  obtain ⟨accounts, data, receipt, q', recs', hEvent, -, hStep, hHosts'⟩ | ⟨-, hHosts'⟩ := run.body_step hHosts hQueue
  · rw [hEvent] at hKept
    exact hHosts'.queuePaused_iff.mpr (hStep.paused_one hHosts.represents hFlag hKept)
  · exact hHosts'.queuePaused_iff.mpr hFlag

theorem paused_refuses (h : Follows run k book) (hPaused : QueuePaused (run.ledger n k)) {acc : Accepted}
    (hReceipt : run.receipt n = some (.requested acc)) : acc.queue ≠ k := by
  rintro rfl
  obtain ⟨q, recs, hHosts, -⟩ := (h.booked n).pending hPaused.1
  have hFlag := hHosts.queuePaused_iff.mp hPaused
  have hQueue : IsQueue (run.ledger (n + 1) acc.queue) := by
    cases run.effect hReceipt with
    | requested hRequested => exact hRequested.isQueue'
  obtain ⟨accounts, data, receipt, q', recs', -, hReceipt', hStep, -⟩ | ⟨hNone, -⟩ := run.body_step hHosts hQueue
  · rw [hReceipt] at hReceipt'
    cases hReceipt'
    cases hStep with
    | still hOther => exact hOther rfl
    | requested _ hOpen _ _ _ =>
      rw [hFlag] at hOpen
      cases hOpen
  · rw [hReceipt] at hNone
    cases hNone

theorem subset_of_paused (h : Follows run k book) (hPaused : QueuePaused (run.ledger n k)) :
    ∀ e ∈ book (n + 1), e ∈ book n := by
  intro e he
  obtain he | ⟨acc, hReceipt, hQueue, -⟩ := (h.steps n).mem he
  · exact he
  · exact absurd hQueue (h.paused_refuses hPaused hReceipt)

theorem paused_while (h : Follows run k book) (hPaused : QueuePaused (run.ledger n k)) {m : Nat} (hm : n ≤ m)
    (hKept : ∀ t, n ≤ t → t < m → ¬Unpauses rt.toEnvironment k (run.event t) ∧ IsQueue (run.ledger (t + 1) k)) :
    QueuePaused (run.ledger m k) ∧ ∀ e ∈ book m, e ∈ book n := by
  induction m, hm using Nat.le_induction with
  | base => exact ⟨hPaused, fun e he => he⟩
  | succ m hm ih =>
    obtain ⟨hStill, hSubset⟩ := ih fun t hLow hHigh => hKept t hLow (by omega)
    obtain ⟨hQuiet, hQueue⟩ := hKept m hm (by omega)
    exact ⟨h.paused_succ hStill hQuiet hQueue, fun e he => hSubset e (h.subset_of_paused hStill e he)⟩

end Follows

/-! ## The two calls -/

theorem payPurge_ok {oracle queue : AccountInfo} {total : Nat} (hne : queue.key ≠ oracle.key)
    (hFunds : isFeeExemptEphemeralQueue queue.key = false → total ≤ (l queue.key).lamports)
    (hRoom : (l oracle.key).lamports + (l queue.key).lamports < u64Limit) :
    ∃ l', payPurge queue.key oracle.key total l = .ok l' := by
  unfold payPurge
  split
  · rename_i hPays
    have hCovered := hFunds hPays.2
    have hFits : (l.setLamports queue.key ((l queue.key).lamports - total) oracle.key).lamports + total < u64Limit := by
      rw [Ledger.setLamports_of_ne _ hne.symm]
      omega
    rw [transferFee, require_of hne, bind_ok, require_of hCovered, bind_ok]
    dsimp only
    rw [require_of hFits, bind_ok]
    exact ⟨_, rfl⟩
  · exact ⟨l, rfl⟩

theorem processPurgeExpiredRequests_ok (rt : Runtime) (clock : Clock) (oracle queue : AccountInfo) (index : UInt8)
    (hHosts : Hosts (l queue.key) q recs)
    (hWritable : queue.isWritable = true) (hKey : queue.key = (rt.oracleQueuePda oracle.key index).1)
    (hne : queue.key ≠ oracle.key)
    (hFunds : isFeeExemptEphemeralQueue queue.key = false →
      ((recs.filter Record.live).map Record.cost).sum ≤ (l queue.key).lamports)
    (hRoom : (l oracle.key).lamports + (l queue.key).lamports < u64Limit) :
    ∃ l' paid, processPurgeExpiredRequests rt clock [oracle, queue] (queueIndexLayout.encode index) l =
      .ok (l', .purged queue.key oracle.key paid) := by
  have hSeeds : queue.key = (rt.findProgramAddress [QUEUE, oracle.key.toList, [index]] ID).1 := hKey
  obtain ⟨q', recs', hPurge, -⟩ := purgeQueue_eq hHosts.represents (createdAtFrom clock.unixTimestamp)
  have hLe := sum_filter_le (fun r => expired (createdAtFrom clock.unixTimestamp) r.item) (recs.filter Record.live)
  obtain ⟨l', hPay⟩ := payPurge_ok (l := storeQueue l queue.key q') hne
    (fun hPaying => (hLe.trans (hFunds hPaying)).trans_eq (storeQueue_lamports q').symm)
    (by rw [storeQueue_lamports, storeQueue_of_ne q' hne.symm]; exact hRoom)
  rw [processPurgeExpiredRequests, parseArgs, Layout.tryFromBytes_encode, okOr_some, bind_ok]
  simp only [isWritable, hasOwner, hasSeeds, require_of hWritable, require_of hHosts.owner, require_of hSeeds,
    bind_ok, hHosts.queueHeader_eq, hHosts.openQueue_eq, hPurge, hPay]
  exact ⟨l', _, rfl⟩

theorem Ledger.setData_lamports (k' : Pubkey) (bytes : List UInt8) :
    (l.setData k bytes k').lamports = (l k').lamports := by
  by_cases hk : k' = k
  · rw [hk, Ledger.setData_self]
  · rw [Ledger.setData_of_ne _ hk]

theorem closeAccount_ok (oracle queue : AccountInfo) (hne : oracle.key ≠ queue.key)
    (hRoom : (l oracle.key).lamports + (l queue.key).lamports < u64Limit) :
    ∃ l', closeAccount queue oracle l = .ok l' ∧
      (l' oracle.key).lamports = (l oracle.key).lamports + (l queue.key).lamports ∧ (l' queue.key).lamports = 0 := by
  have hShort {l : Ledger} : 0 ≤ (l queue.key).data.length + MAX_PERMITTED_DATA_INCREASE := Nat.zero_le _
  rw [closeAccount, require_of hne, bind_ok, Ledger.credit, require_of hRoom, bind_ok]
  simp only [pure_bind, Ledger.resize, require_of hShort, bind_ok]
  refine ⟨_, rfl, ?_, ?_⟩
  · rw [Ledger.setData_lamports, Ledger.setOwner_of_ne _ hne, Ledger.setLamports_of_ne _ hne, Ledger.setLamports_self]
  · rw [Ledger.setData_lamports, Ledger.setOwner_self, Ledger.setLamports_self]

theorem processCloseOracleQueue_ok (rt : Runtime) (oracle oracleData queue : AccountInfo) (index : UInt8) {o : Oracle}
    (hHosts : Hosts (l queue.key) q recs) (hEmpty : q.isEmpty = true)
    (hOracle : IsOracle (l oracleData.key) o) (hSigner : oracle.isSigner = true)
    (hData : oracleData.key = (rt.oracleDataPda oracle.key).1) (hDataWritable : oracleData.isWritable = true)
    (hKey : queue.key = (rt.oracleQueuePda oracle.key index).1) (hWritable : queue.isWritable = true)
    (hne : oracle.key ≠ queue.key) (hRoom : (l oracle.key).lamports + (l queue.key).lamports < u64Limit) :
    ∃ l', processCloseOracleQueue rt [oracle, oracleData, queue] (queueIndexLayout.encode index) l =
        .ok (l', .closed oracle.key index queue.key) ∧
      (l' oracle.key).lamports = (l oracle.key).lamports + (l queue.key).lamports ∧ (l' queue.key).lamports = 0 := by
  have hSeeds : queue.key = (rt.findProgramAddress [QUEUE, oracle.key.toList, [index]] ID).1 := hKey
  have hDataSeeds : oracleData.key = (rt.findProgramAddress [ORACLE_DATA, oracle.key.toList] ID).1 := hData
  have hDistinct : oracleData.key ≠ queue.key := by
    intro hEq
    rw [hEq] at hOracle
    exact hOracle.not_queue hHosts.isQueue
  have hStored : IsOracle (storeQueue l queue.key q oracleData.key) o := by rwa [storeQueue_of_ne q hDistinct]
  obtain ⟨l', hClose, hPaid, hZero⟩ := closeAccount_ok oracle queue
    (l := Oracle.account.store (storeQueue l queue.key q) oracleData
      { o with openQueues := saturatingDecr o.openQueues }) hne (by
      simp only [PodAccount.store, storeQueue, Ledger.setData_lamports]
      exact hRoom)
  simp only [PodAccount.store, storeQueue, Ledger.setData_lamports] at hPaid
  refine ⟨l', ?_, hPaid, hZero⟩
  rw [processCloseOracleQueue, parseArgs, Layout.tryFromBytes_encode, okOr_some, bind_ok]
  simp only [isSigner, isWritable, hasOwner, hasSeeds, require_of hSigner, require_of hDataWritable,
    require_of hOracle.owner, require_of hDataSeeds, require_of hWritable, require_of hHosts.owner, require_of hSeeds,
    bind_ok, hHosts.queueHeader_eq, hHosts.openQueue_eq, require_of hEmpty, updateOpenQueues,
    hStored.asAccountMut_eq hDataWritable, pure_bind, hClose]
  rfl

/-! ## The queue's whole way -/

namespace Follows

variable {run : ChainRun rt} {book : Nat → List Entry} {n : Nat}

/-- Entries of the true age that the stamps can tell are all expired. -/
theorem expired_of_ages (h : Follows run k book) (hEpoch : ∀ m, 0 ≤ (run.clock m).unixTimestamp.toInt)
    (hAges : ∀ e ∈ book n, 124 ≤ clock.unixTimestamp.toInt - (run.clock e.serial).unixTimestamp.toInt ∧
      clock.unixTimestamp.toInt - (run.clock e.serial).unixTimestamp.toInt < 262140) :
    ∀ r ∈ (book n).map Entry.record, expired (createdAtFrom clock.unixTimestamp) r.item = true := by
  intro r hr
  obtain ⟨e, he, rfl⟩ := List.mem_map.mp hr
  exact expired_of_age (h.stamp he) (hEpoch e.serial) (hAges e he).1 (hAges e he).2

theorem sum_cost_le (h : Follows run k book) (hQueue : IsQueue (run.ledger n k))
    (hPaying : isFeeExemptEphemeralQueue k = false) :
    (((book n).map Entry.record).map Record.cost).sum ≤ (run.ledger n k).lamports := by
  have hSolvent := h.solvent n hQueue
  rw [totalDue, List.map_congr_left fun e _ => due_of_paying hPaying e.record] at hSolvent
  rw [List.map_map]
  exact (Nat.le_add_left _ _).trans hSolvent

end Follows

theorem ChainRun.isOracle_of_queue (run : ChainRun rt) (hApart : DerivesApart rt.toEnvironment run.identities)
    {identity : Pubkey} {index : UInt8} (ho : identity ∈ run.identities) {n : Nat}
    (hQueue : IsQueue (run.ledger n (rt.oracleQueuePda identity index).1)) :
    ∃ o, IsOracle (run.ledger n (rt.oracleDataPda identity).1) o := by
  obtain ⟨enrolment, hEnrols⟩ := run.exists_enrolment hApart ho
  have hEnrolled := hEnrols.enrolled n
  have hMem := (hEnrolled.inUse index).mpr hQueue.inUse
  cases hKey : (enrolment n).key with
  | none =>
    rw [(hEnrolled.absent hKey).2] at hMem
    exact absurd hMem (Finset.notMem_empty index)
  | some key =>
    obtain ⟨o, hIs, -⟩ := hEnrolled.present key hKey
    exact ⟨o, hIs⟩

/-- A paused queue gains no request until its oracle unpauses it. As soon as every pending request is
old enough, one purge by anyone empties it, pays the oracle what the requests cost, and lets the
oracle close it and collect the rest. -/
theorem paused_queue_drains_and_closes (rt : Runtime) (run : ChainRun rt)
    (hApart : DerivesApart rt.toEnvironment run.identities)
    (hEpoch : ∀ m, 0 ≤ (run.clock m).unixTimestamp.toInt) (identity k : Pubkey) (index : UInt8) (s n : Nat)
    (hk : k = (rt.oracleQueuePda identity index).1) (hOpened : run.receipt s = some (.opened identity index))
    (hPaused : QueuePaused (run.ledger n k)) :
    ∃ book, Follows run k book ∧ Lists (run.ledger n k) ((book n).map Entry.record) ∧
      (∀ e ∈ book (n + 1), e ∈ book n) ∧
      (∀ m, n ≤ m →
        (∀ t, n ≤ t → t < m →
          ¬Unpauses rt.toEnvironment k (run.event t) ∧ IsQueue (run.ledger (t + 1) k)) →
        QueuePaused (run.ledger m k) ∧ ∀ e ∈ book m, e ∈ book n) ∧
      ∀ (clock : Clock) (signed : Bool),
        (∀ e ∈ book n, 124 ≤ clock.unixTimestamp.toInt - (run.clock e.serial).unixTimestamp.toInt ∧
          clock.unixTimestamp.toInt - (run.clock e.serial).unixTimestamp.toInt < 262140) →
        (run.ledger n identity).lamports + (run.ledger n k).lamports < u64Limit →
        ∃ l' l'' paid,
          processPurgeExpiredRequests rt clock [⟨identity, signed, true⟩, ⟨k, false, true⟩]
            (queueIndexLayout.encode index) (run.ledger n) = .ok (l', .purged k identity paid) ∧
          Lists (l' k) [] ∧
          (isFeeExemptEphemeralQueue k = false → (l' identity).lamports =
            (run.ledger n identity).lamports + ((book n).map fun e => e.item.cost).sum) ∧
          processCloseOracleQueue rt
            [⟨identity, true, true⟩, ⟨(rt.oracleDataPda identity).1, false, true⟩, ⟨k, false, true⟩]
            (queueIndexLayout.encode index) l' = .ok (l'', .closed identity index k) ∧
          (l'' identity).lamports = (l' identity).lamports + (l' k).lamports ∧ (l'' k).lamports = 0 := by
  have hne : identity ≠ k := fun hEq => run.not_derived_of_opened hOpened ⟨_, hEq.trans hk⟩
  obtain ⟨o, hOracle⟩ := run.isOracle_of_queue hApart ⟨s, _, hOpened, rfl⟩ (hk ▸ hPaused.1)
  obtain ⟨book, hBook⟩ := run.exists_book k
  have hPending := (hBook.booked n).pending hPaused.1
  refine ⟨book, hBook, hPending.lists, hBook.subset_of_paused hPaused, ?_, ?_⟩
  · intro m hm hKept
    exact hBook.paused_while hPaused hm hKept
  · intro clock signed hAges hRoom
    have hExpired := hBook.expired_of_ages hEpoch hAges
    obtain ⟨q, recs, hHosts, hLive⟩ := hPending
    obtain ⟨l', paid, hPurge⟩ := processPurgeExpiredRequests_ok rt clock ⟨identity, signed, true⟩
      ⟨k, false, true⟩ index hHosts rfl hk hne.symm
      (by rw [hLive]; exact hBook.sum_cost_le hPaused.1) hRoom
    obtain ⟨_, _, _, hReceipt, hPurged⟩ := processPurgeExpiredRequests_effect hPurge
    cases hReceipt
    -- every request is expired, so the purge leaves none and pays for all
    obtain ⟨hPending', hPaid, -⟩ := hPurged.pending _ ⟨q, recs, hHosts, hLive⟩
    have hNone : ((book n).map Entry.record).filter
        (fun r => !expired (createdAtFrom clock.unixTimestamp) r.item) = [] :=
      List.filter_eq_nil_iff.mpr fun r hr => by simp [hExpired r hr]
    rw [hNone] at hPending'
    rw [List.filter_eq_self.mpr hExpired, List.map_map] at hPaid
    have hLists := hPending'.lists
    obtain ⟨q', recs', hHosts', hEmpty⟩ := hPending'
    have hCount : q'.isEmpty = true := by
      have hLength := hHosts'.represents.count
      rw [← length_filter_live, hEmpty] at hLength
      have hZero : q'.header.itemCount = 0 := UInt32.toNat_inj.mp hLength
      rw [QueueAccount.isEmpty, hZero]
      rfl
    have hOracle' : IsOracle (l' (rt.oracleDataPda identity).1) o := by
      refine (hPurged.others _ ?_).isOracle_iff.mpr hOracle
      rintro rfl
      exact hOracle.not_queue hPaused.1
    have hSpent := hPurged.lamports
    have hEarned := hPurged.credited
    dsimp only at hSpent hEarned
    obtain ⟨l'', hClose, hCollected, hZero⟩ := processCloseOracleQueue_ok rt ⟨identity, true, true⟩
      ⟨(rt.oracleDataPda identity).1, false, true⟩ ⟨k, false, true⟩ index hHosts' hCount hOracle' rfl rfl rfl hk rfl hne (by dsimp only; omega)
    refine ⟨l', l'', paid, hPurge, hLists, fun hPaying => ?_, hClose, hCollected, hZero⟩
    rw [hEarned, hPaid, purgePaid, hPaying, if_neg Bool.false_ne_true]
    rfl

namespace Sample

theorem findProgramAddress_with_nil : (runtimeWith [] []).findProgramAddress = findProgramAddress := by
  funext seeds program
  change ((derivations ++ []).lookup (seeds, program)).getD _ = (derivations.lookup (seeds, program)).getD _
  rw [List.append_nil]

theorem queueKey_with_nil : queueKey = ((runtimeWith [] []).oracleQueuePda oracle 0).1 := by decide +kernel

def pausing : ChainRun (runtimeWith [] []) :=
  runWith table_nil
    (events.take 4 ++ [.call [signer oracle, writable queueKey]
      (instructionData .setQueuePaused (SetQueuePaused.layout.encode ⟨0, 1⟩))]) Sample.clock (by decide +kernel)

theorem pausing_receipt : ∀ n, pausing.receipt n = ((receipts.take 4 ++ [some .other])[n]?).join
  | 0 => by decide +kernel
  | 1 => by decide +kernel
  | 2 => by decide +kernel
  | 3 => by decide +kernel
  | 4 => by decide +kernel
  | _ + 5 => rfl

theorem pausing_clock (n : Nat) : pausing.clock n = Sample.clock := by
  have hFirst : ∀ m < 6, pausing.clock m = Sample.clock := by decide +kernel
  by_cases hn : n < 6
  · exact hFirst n hn
  · obtain ⟨m, rfl⟩ := Nat.exists_eq_add_of_le' (Nat.le_of_not_lt hn)
    rfl

theorem pausing_identities : pausing.identities ⊆ {oracle} :=
  ChainRun.identities_subset pausing_receipt (by decide +kernel)

theorem pausing_paused : QueuePaused (pausing.ledger 5 queueKey) := by
  refine ⟨by decide +kernel, ?_⟩
  have hFlag : (load (pausing.ledger 5 queueKey).data).toOption.map (fun q => q.header.paused) = some 1 := by
    decide +kernel
  exact exists_eq_ok_of_map hFlag

end Sample

/-- Two hundred seconds after the request the paused queue is purged and closed. -/
theorem paused_queue_drains_and_closes_pausing :
    ∃ l' l'' paid,
      processPurgeExpiredRequests (Sample.runtimeWith [] []) ⟨600, 1700000200⟩
        [⟨Sample.oracle, false, true⟩, ⟨Sample.queueKey, false, true⟩] (queueIndexLayout.encode 0)
        (Sample.pausing.ledger 5) = .ok (l', .purged Sample.queueKey Sample.oracle paid) ∧
      processCloseOracleQueue (Sample.runtimeWith [] [])
        [⟨Sample.oracle, true, true⟩, ⟨((Sample.runtimeWith [] []).oracleDataPda Sample.oracle).1, false, true⟩,
          ⟨Sample.queueKey, false, true⟩] (queueIndexLayout.encode 0) l' =
        .ok (l'', .closed Sample.oracle 0 Sample.queueKey) ∧
      (l'' Sample.queueKey).lamports = 0 := by
  have hApart := Sample.derivesApart_of Sample.findProgramAddress_with_nil Sample.pausing_identities
  have hEpoch (m : Nat) : 0 ≤ (Sample.pausing.clock m).unixTimestamp.toInt := by
    rw [Sample.pausing_clock]
    decide
  obtain ⟨book, -, -, -, -, hDrains⟩ := paused_queue_drains_and_closes (Sample.runtimeWith [] []) Sample.pausing hApart
    hEpoch Sample.oracle Sample.queueKey 0 2 5 Sample.queueKey_with_nil (Sample.pausing_receipt 2) Sample.pausing_paused
  obtain ⟨l', l'', paid, hPurge, -, -, hClose, -, hZero⟩ := hDrains ⟨600, 1700000200⟩ false
    (fun e _ => by rw [Sample.pausing_clock]; decide) (by decide +kernel)
  exact ⟨l', l'', paid, hPurge, hClose, hZero⟩

end SolanaVrf
