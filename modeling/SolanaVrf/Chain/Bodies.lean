import SolanaVrf.Chain.World
import SolanaVrf.Queue.OneByOne

/-! # What a call does to the body of a queue

As long as an account stays a queue, every step of the chain is one operation on the body it
hosts: an insertion, a removal, a purge, a write of the paused flag, or nothing. Bytes behind
the cursor and header fields that the pending requests do not show are followed here.
-/

namespace SolanaVrf
set_option autoImplicit false

open Pod Slices Tiling Fallible Transition AccountInfoValidation QueueAccount

variable {rt : Runtime} {clock : Clock} {l l' : Ledger} {accounts : List AccountInfo} {data : List UInt8}
  {receipt : Receipt} {k : Pubkey} {q : QueueAccount} {recs : List Record}

def SetsPaused (data : List UInt8) (args : SetQueuePaused) : Prop :=
  ∃ rest, parseInstruction8 ID data = .ok (.setQueuePaused, rest) ∧ parseArgs SetQueuePaused.layout rest = .ok args

/-- One call, seen from the body of the queue at `k`. -/
inductive BodyStep (rt : Runtime) (clock : Clock) (accounts : List AccountInfo) (data : List UInt8) (k : Pubkey)
    (q : QueueAccount) (recs : List Record) : Receipt → QueueAccount → List Record → Prop
  | still {receipt : Receipt} (hOther : receipt.queue? ≠ some k) :
      BodyStep rt clock accounts data k q recs receipt q recs
  | requested {acc : Accepted} {q' : QueueAccount} {recs' : List Record} {i : Nat} (hk : acc.queue = k)
      (hOpen : q.header.paused = 0)
      (hInserts : Inserts (acc.record rt.toEnvironment) recs recs' acc.position.toNat i)
      (hRep : Represents q' recs') (hFramed : Framed q q') :
      BodyStep rt clock accounts data k q recs (.requested acc) q' recs'
  | provided {p : Prepared} {paid : Nat} {q' : QueueAccount} {xs ys : List Record} {r : Record}
      (hk : p.queue.key = k) (hRecs : recs = xs ++ r :: ys) (hLive : r.live = true)
      (hRep : Represents q' (trim (xs ++ r.free :: ys))) (hFramed : Framed q q')
      (hTiled : slots.Tiled q'.acc itemsStart (xs ++ r.free :: ys)) :
      BodyStep rt clock accounts data k q recs (.provided p paid) q' (trim (xs ++ r.free :: ys))
  | purged (oracle : Pubkey) (paid : Nat) :
      BodyStep rt clock accounts data k q recs (.purged k oracle paid)
        (passed (expired (QueueItem.createdAtFrom clock.unixTimestamp)) q recs)
        (trim (cleared (expired (QueueItem.createdAtFrom clock.unixTimestamp)) recs))
  | paused {args : SetQueuePaused} {oracle : AccountInfo} (hCall : SetsPaused data args) (hFlag : args.paused ≤ 1)
      (hMem : oracle ∈ accounts) (hSigner : oracle.isSigner = true)
      (hk : k = (rt.oracleQueuePda oracle.key args.index).1) :
      BodyStep rt clock accounts data k q recs .other (q.setPaused args.paused) recs

theorem ExternalAt.hosts {env : Environment} {a a' : Account} (h : ExternalAt env k a a') (hHosts : Hosts a q recs) :
    Hosts a' q recs := by
  obtain ⟨hOwner, hData, -⟩ := h.owned hHosts.owner
  exact ⟨hOwner, hData.trans hHosts.data, hHosts.represents⟩

theorem Hosts.congr {a a' : Account} (h : Hosts a q recs) (hOwner : a'.owner = a.owner) (hData : a'.data = a.data) :
    Hosts a' q recs :=
  ⟨hOwner.trans h.owner, hData.trans h.data, h.represents⟩

/-! ## The four instructions on their queue -/

theorem processRequestRandomness_body {acc : Accepted} {highPriority isScoped : Bool}
    (h : processRequestRandomness rt clock accounts data highPriority isScoped l = .ok (l', .requested acc))
    (hHosts : Hosts (l acc.queue) q recs) :
    ∃ q' recs' i, q.header.paused = 0 ∧
      Inserts (acc.record rt.toEnvironment) recs recs' acc.position.toNat i ∧ Represents q' recs' ∧
      Framed q q' ∧ Hosts (l' acc.queue) q' recs' := by
  obtain ⟨signer, queue, systemProgram, args, slothash, position, l₁, -, hEnqueue, hCharge, hReceipt⟩ :=
    processRequestRandomness_eq_ok h
  cases hReceipt
  obtain ⟨hOpen, -, i, q', recs', hInserts, hRep, hFramed, rfl⟩ := enqueue_effect hHosts hEnqueue
  have hStored := hHosts.store hRep
  obtain ⟨-, hExternal⟩ := charge_effect rt.toEnvironment hCharge hStored.owner
  exact ⟨q', recs', i, hOpen, hInserts, hRep, hFramed, (hExternal _).hosts hStored⟩

theorem processProvideRandomness_body {p : Prepared} {paid : Nat}
    (h : processProvideRandomness rt clock accounts data l = .ok (l', .provided p paid))
    (hHosts : Hosts (l p.queue.key) q recs) :
    ∃ q' xs r ys, recs = xs ++ r :: ys ∧ r.live = true ∧ Represents q' (trim (xs ++ r.free :: ys)) ∧
      Framed q q' ∧ slots.Tiled q'.acc itemsStart (xs ++ r.free :: ys) ∧
      Hosts (l' p.queue.key) q' (trim (xs ++ r.free :: ys)) := by
  obtain ⟨⟨l₁, p⟩, hPrepare, h⟩ := bind_eq_ok.mp h
  obtain ⟨l₂, hInvoke, h⟩ := bind_eq_ok.mp h
  obtain ⟨l₃, hCollect, h⟩ := bind_eq_ok.mp h
  cases h
  obtain ⟨_, _, _, _, _, _, _, _, _, q₀, _, _, _, q', _, -, -, -, -, -, -, -, hOpen, hTake, -, -, rfl, rfl⟩ :=
    prepareCallback_eq_ok hPrepare
  rw [hHosts.openQueue_eq] at hOpen
  cases hOpen
  obtain ⟨xs, r, ys, rfl, hLive, -, -, -, -, hRep, hFramed, hTiled⟩ := takeRequest_effect hHosts.represents hTake
  have hStored := (rt.external_of_invokeSigned _ _ _ hInvoke _).hosts (hHosts.store hRep)
  obtain ⟨hOwner, hData, -⟩ := collectFee_effect hCollect
  exact ⟨q', xs, r, ys, rfl, hLive, hRep, hFramed, hTiled, hStored.congr hOwner hData⟩

theorem processPurgeExpiredRequests_body {oracle : Pubkey} {paid : Nat}
    (h : processPurgeExpiredRequests rt clock accounts data l = .ok (l', .purged k oracle paid))
    (hHosts : Hosts (l k) q recs) :
    Hosts (l' k) (passed (expired (QueueItem.createdAtFrom clock.unixTimestamp)) q recs)
      (trim (cleared (expired (QueueItem.createdAtFrom clock.unixTimestamp)) recs)) := by
  obtain ⟨_, queue, _, _, q₀, q', total, -, -, -, hOpen, hPurge, hPay, hReceipt⟩ := processPurgeExpiredRequests_eq_ok h
  cases hReceipt
  rw [hHosts.openQueue_eq] at hOpen
  cases hOpen
  rw [purgeQueue, hHosts.represents.removeItemsMatching_pure] at hPurge
  cases hPurge
  obtain ⟨hOwner, hData, -⟩ := payPurge_effect hPay
  exact (hHosts.store (hHosts.represents.after_pass _).1).congr hOwner hData

theorem processSetQueuePaused_body (h : processSetQueuePaused rt accounts data l = .ok (l', receipt))
    (hHosts : Hosts (l k) q recs) :
    Hosts (l' k) q recs ∨ ∃ args oracle, parseArgs SetQueuePaused.layout data = .ok args ∧ args.paused ≤ 1 ∧
      oracle ∈ accounts ∧
      oracle.isSigner = true ∧ k = (rt.oracleQueuePda oracle.key args.index).1 ∧
      Hosts (l' k) (q.setPaused args.paused) recs := by
  obtain ⟨args, oracle, hMem, queue, _, q₀, hArgs, hFlag, hSigner, -, hKey, -, hOpen, rfl, -⟩ :=
    processSetQueuePaused_eq_ok h
  by_cases hk : k = queue.key
  · subst hk
    rw [hHosts.openQueue_eq] at hOpen
    cases hOpen
    exact Or.inr ⟨args, oracle, hArgs, hFlag, hMem, hSigner, hKey,
      hHosts.store (hHosts.represents.withHeader _ rfl rfl)⟩
  · rw [storeQueue_of_ne _ hk]
    exact Or.inl hHosts

/-! ## Every instruction -/

theorem processInstruction_body (h : processInstruction rt clock ID accounts data l = .ok (l', receipt))
    (hSigners : Unforged rt.toEnvironment accounts) (hHosts : Hosts (l k) q recs) (hQueue' : IsQueue (l' k)) :
    ∃ q' recs', BodyStep rt clock accounts data k q recs receipt q' recs' ∧ Hosts (l' k) q' recs' := by
  obtain ⟨⟨ix, rest⟩, hParse, h⟩ := bind_eq_ok.mp h
  have hStill (hOther : receipt.queue? ≠ some k) (hForeign : ExternalAt rt.toEnvironment k (l k) (l' k)) :
      ∃ q' recs', BodyStep rt clock accounts data k q recs receipt q' recs' ∧ Hosts (l' k) q' recs' :=
    ⟨q, recs, .still hOther, hForeign.hosts hHosts⟩
  -- the registry and the oracle data accounts are no queues
  have hne {k' : Pubkey} (hNot : ¬IsQueue (l k')) : k ≠ k' := by
    rintro rfl
    exact hNot hHosts.isQueue
  have hRequest {highPriority isScoped : Bool}
      (h : processRequestRandomness rt clock accounts rest highPriority isScoped l = .ok (l', receipt)) :
      ∃ q' recs', BodyStep rt clock accounts data k q recs receipt q' recs' ∧ Hosts (l' k) q' recs' := by
    obtain ⟨acc, rfl, -, -, hRequested⟩ := processRequestRandomness_effect h
    by_cases hk : acc.queue = k
    · subst hk
      obtain ⟨q', recs', i, hOpen, hInserts, hRep, hFramed, hHosts'⟩ := processRequestRandomness_body h hHosts
      exact ⟨q', recs', .requested rfl hOpen hInserts hRep hFramed, hHosts'⟩
    · exact hStill (fun hSome => hk (Option.some.inj hSome)) (hRequested.others k (Ne.symm hk))
  cases ix with
  | initializeProgram =>
    obtain ⟨hInitialized, rfl⟩ := processInitialize_effect h hSigners
    exact hStill nofun (hInitialized.others k (hne hInitialized.before.not_queue))
  | modifyOracle =>
    obtain ⟨args, ⟨rfl, hRegistered⟩ | ⟨rfl, hUnregistered⟩⟩ := processModifyOracles_effect h hSigners
    · exact hStill nofun (hRegistered.others k (hne hRegistered.not_queue.1) (hne hRegistered.absent.not_queue))
    · obtain ⟨o, hIs, -⟩ := hUnregistered.drained
      exact hStill nofun (hUnregistered.others k (hne hUnregistered.not_queue.1) (hne hIs.not_queue))
  | initializeOracleQueue =>
    obtain ⟨identity, index, -, ⟨rfl, hGrown⟩ | ⟨rfl, hOpened, -⟩⟩ := processInitializeOracleQueue_effect h hSigners
    · exact hStill nofun (hGrown.others k (hne hGrown.blank.not_queue))
    · obtain ⟨o, hIs, -⟩ := hOpened.counted
      exact hStill nofun (hOpened.others k (hne hOpened.blank.not_queue) (hne hIs.not_queue))
  | requestHighPriorityRandomness => exact hRequest h
  | requestRandomness => exact hRequest h
  | requestHighPriorityRandomnessScoped => exact hRequest h
  | requestRandomnessScoped => exact hRequest h
  | provideRandomness =>
    obtain ⟨p, paid, rfl, hProvided⟩ := processProvideRandomness_effect h
    by_cases hk : p.queue.key = k
    · subst hk
      obtain ⟨q', xs, r, ys, hRecs, hLive, hRep, hFramed, hTiled, hHosts'⟩ := processProvideRandomness_body h hHosts
      exact ⟨q', _, .provided rfl hRecs hLive hRep hFramed hTiled, hHosts'⟩
    · exact hStill (fun hSome => hk (Option.some.inj hSome)) (hProvided.others (Ne.symm hk))
  | delegateOracleQueue =>
    obtain ⟨identity, index, hDelegated, rfl⟩ := processDelegateOracleQueue_effect h
    by_cases hk : (rt.oracleQueuePda identity index).1 = k
    · subst hk
      exact absurd (hQueue'.1.symm.trans hDelegated.delegates.owner) (by decide)
    · exact hStill (fun hSome => hk (Option.some.inj hSome)) (hDelegated.delegates.others k (Ne.symm hk))
  | closeOracleQueue =>
    obtain ⟨identity, index, hClosed, rfl⟩ := processCloseOracleQueue_effect h
    by_cases hk : (rt.oracleQueuePda identity index).1 = k
    · subst hk
      exact absurd hQueue' hClosed.unborn.not_queue
    · obtain ⟨o, hIs, -⟩ := hClosed.counted
      exact hStill (fun hSome => hk (Option.some.inj hSome)) (hClosed.others k (Ne.symm hk) (hne hIs.not_queue))
  | purgeExpiredRequests =>
    obtain ⟨queue, oracle, paid, rfl, hPurged⟩ := processPurgeExpiredRequests_effect h
    by_cases hk : queue = k
    · subst hk
      exact ⟨_, _, .purged oracle paid, processPurgeExpiredRequests_body h hHosts⟩
    · exact hStill (fun hSome => hk (Option.some.inj hSome)) (hPurged.others k (Ne.symm hk))
  | setQueuePaused =>
    obtain ⟨rfl, -⟩ := processSetQueuePaused_effect h
    obtain hHosts' | ⟨args, oracle, hArgs, hFlag, hMem, hSigner, hk, hHosts'⟩ := processSetQueuePaused_body h hHosts
    · exact ⟨q, recs, .still nofun, hHosts'⟩
    · exact ⟨_, recs, .paused ⟨rest, hParse, hArgs⟩ hFlag hMem hSigner hk, hHosts'⟩

theorem processInstruction_opened {identity : Pubkey} {index : UInt8}
    (h : processInstruction rt clock ID accounts data l = .ok (l', .opened identity index))
    (hSigners : Unforged rt.toEnvironment accounts) :
    (∃ a ∈ accounts, a.isSigner = true ∧ a.key = identity) ∧
      ∃ q, Hosts (l' (rt.oracleQueuePda identity index).1) q [] ∧ Pristine q index := by
  obtain ⟨⟨ix, rest⟩, -, h⟩ := bind_eq_ok.mp h
  -- every other instruction writes another receipt
  have hRequest {highPriority isScoped : Bool}
      (h : processRequestRandomness rt clock accounts rest highPriority isScoped l =
        .ok (l', .opened identity index)) : False := by
    obtain ⟨acc, hReceipt, -⟩ := processRequestRandomness_effect h
    cases hReceipt
  cases ix with
  | initializeOracleQueue =>
    obtain ⟨identity', index', hSigner, ⟨hReceipt, -⟩ | ⟨hReceipt, -, hBody⟩⟩ :=
      processInitializeOracleQueue_effect h hSigners
    · cases hReceipt
    · cases hReceipt
      exact ⟨hSigner, hBody⟩
  | initializeProgram => cases (processInitialize_effect h hSigners).2
  | modifyOracle =>
    obtain ⟨args, ⟨hReceipt, -⟩ | ⟨hReceipt, -⟩⟩ := processModifyOracles_effect h hSigners
    · cases hReceipt
    · cases hReceipt
  | requestHighPriorityRandomness => exact (hRequest h).elim
  | requestRandomness => exact (hRequest h).elim
  | requestHighPriorityRandomnessScoped => exact (hRequest h).elim
  | requestRandomnessScoped => exact (hRequest h).elim
  | provideRandomness =>
    obtain ⟨p, paid, hReceipt, -⟩ := processProvideRandomness_effect h
    cases hReceipt
  | delegateOracleQueue =>
    obtain ⟨identity, index, -, hReceipt⟩ := processDelegateOracleQueue_effect h
    cases hReceipt
  | closeOracleQueue =>
    obtain ⟨identity, index, -, hReceipt⟩ := processCloseOracleQueue_effect h
    cases hReceipt
  | purgeExpiredRequests =>
    obtain ⟨queue, oracle, paid, hReceipt, -⟩ := processPurgeExpiredRequests_effect h
    cases hReceipt
  | setQueuePaused => cases (processSetQueuePaused_effect h).1

namespace ChainRun

variable (run : ChainRun rt)

theorem call_of_receipt {n : Nat} {receipt : Receipt} (h : run.receipt n = some receipt) :
    ∃ accounts data, run.event n = .call accounts data ∧ Unforged rt.toEnvironment accounts ∧
      processInstruction rt (run.clock n) ID accounts data (run.ledger n) = .ok (run.ledger (n + 1), receipt) := by
  have hAllowed := run.allowed_at n
  have hNext : run.state (n + 1) = (run.state n).next rt (run.event n) := rfl
  unfold ChainRun.receipt at h
  unfold ledger
  rw [hNext]
  cases hEvent : run.event n with
  | call accounts data =>
    rw [hEvent] at hAllowed h
    simp only [World.receipt, World.next] at h ⊢
    cases hCall : (run.state n).execute rt accounts data with
    | ok result =>
      rw [hCall] at h
      cases h
      exact ⟨accounts, data, rfl, hAllowed, hCall⟩
    | error e =>
      rw [hCall] at h
      cases h
  | outside l => rw [hEvent] at h; cases h
  | tick clock => rw [hEvent] at h; cases h

theorem opened_body {n : Nat} {identity : Pubkey} {index : UInt8}
    (h : run.receipt n = some (.opened identity index)) :
    ∃ q, Hosts (run.ledger (n + 1) (rt.oracleQueuePda identity index).1) q [] ∧ Pristine q index := by
  obtain ⟨accounts, data, -, hSigners, hCall⟩ := run.call_of_receipt h
  exact (processInstruction_opened hCall hSigners).2

/-- The oracle of an initialised queue has signed, so it is no address of the program. -/
theorem not_derived_of_opened {n : Nat} {identity : Pubkey} {index : UInt8}
    (h : run.receipt n = some (.opened identity index)) : ¬rt.Derived identity := by
  obtain ⟨accounts, data, -, hSigners, hCall⟩ := run.call_of_receipt h
  obtain ⟨⟨a, hMem, hSigner, rfl⟩, -⟩ := processInstruction_opened hCall hSigners
  exact hSigners a hMem hSigner

/-- A step that leaves the account a queue is a call that does one thing to its body, or foreign. -/
theorem body_step {n : Nat} (hHosts : Hosts (run.ledger n k) q recs) (hQueue' : IsQueue (run.ledger (n + 1) k)) :
    (∃ accounts data receipt q' recs', run.event n = .call accounts data ∧ run.receipt n = some receipt ∧
      BodyStep rt (run.clock n) accounts data k q recs receipt q' recs' ∧ Hosts (run.ledger (n + 1) k) q' recs') ∨
    run.receipt n = none ∧ Hosts (run.ledger (n + 1) k) q recs := by
  have hAllowed := run.allowed_at n
  have hNext : run.state (n + 1) = (run.state n).next rt (run.event n) := rfl
  unfold ledger at hHosts hQueue' ⊢
  unfold receipt
  rw [hNext] at hQueue' ⊢
  cases hEvent : run.event n with
  | call accounts data =>
    rw [hEvent] at hAllowed hQueue'
    simp only [World.receipt, World.next] at hQueue' ⊢
    cases hCall : (run.state n).execute rt accounts data with
    | ok result =>
      rw [hCall] at hQueue'
      obtain ⟨q', recs', hStep, hHosts'⟩ := processInstruction_body hCall hAllowed hHosts hQueue'
      exact Or.inl ⟨accounts, data, result.2, q', recs', rfl, rfl, hStep, hHosts'⟩
    | error e => exact Or.inr ⟨rfl, hHosts⟩
  | outside l =>
    rw [hEvent] at hAllowed
    exact Or.inr ⟨rfl, ExternalAt.hosts (hAllowed k) hHosts⟩
  | tick clock => exact Or.inr ⟨rfl, hHosts⟩

end ChainRun

/-! ## The index of a queue -/

theorem BodyStep.index_eq {q' : QueueAccount} {recs' : List Record}
    (h : BodyStep rt clock accounts data k q recs receipt q' recs') (hRep : Represents q recs) :
    q'.header.index = q.header.index := by
  cases h with
  | still _ => rfl
  | requested _ _ _ _ hFramed => exact hFramed.index
  | provided _ _ _ _ hFramed _ => exact hFramed.index
  | purged _ _ => exact (hRep.after_pass _).2.1.index
  | paused _ _ _ _ _ => rw [setPaused, header_withHeader]

theorem ChainRun.index_stays (run : ChainRun rt) {m n : Nat} (hmn : m ≤ n) (hHosts : Hosts (run.ledger m k) q recs)
    (hQueue : ∀ t, m ≤ t → t ≤ n → IsQueue (run.ledger t k)) :
    ∃ q' recs', Hosts (run.ledger n k) q' recs' ∧ q'.header.index = q.header.index := by
  induction n, hmn using Nat.le_induction with
  | base => exact ⟨q, recs, hHosts, rfl⟩
  | succ n hmn ih =>
    obtain ⟨q', recs', hHosts', hIndex⟩ := ih fun t hLow hHigh => hQueue t hLow (Nat.le_succ_of_le hHigh)
    have hNext := hQueue (n + 1) (Nat.le_succ_of_le hmn) (Nat.le_refl _)
    obtain ⟨_, _, _, q'', recs'', -, -, hStep, hHosts''⟩ | ⟨-, hHosts''⟩ := run.body_step hHosts' hNext
    · exact ⟨q'', recs'', hHosts'', (hStep.index_eq hHosts'.represents).trans hIndex⟩
    · exact ⟨q', recs', hHosts'', hIndex⟩

theorem ChainRun.index_of_opened (run : ChainRun rt) {s n : Nat} {identity : Pubkey} {index : UInt8}
    (hOpened : run.receipt s = some (.opened identity index)) (hsn : s < n)
    (hQueue : ∀ m, s < m → m ≤ n → IsQueue (run.ledger m (rt.oracleQueuePda identity index).1)) :
    ∃ q recs, Hosts (run.ledger n (rt.oracleQueuePda identity index).1) q recs ∧ q.header.index = index := by
  obtain ⟨q, hHosts, hPristine⟩ := run.opened_body hOpened
  obtain ⟨q', recs', hHosts', hIndex⟩ := run.index_stays hsn hHosts hQueue
  exact ⟨q', recs', hHosts', hIndex.trans hPristine.index⟩

end SolanaVrf
