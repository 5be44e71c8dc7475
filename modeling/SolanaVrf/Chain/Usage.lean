import SolanaVrf.Chain.Bodies

/-! # Used and unused queues

`delegate_oracle_queue` takes a queue for unused if it counts no item and every byte behind
its header is zero. A stored record never consists of zeros only, since it names the offset
of its own payload, and removal leaves all of it but the flag. So the check passes exactly
for queues on which no request was ever accepted.
-/

namespace SolanaVrf
set_option autoImplicit false

open Pod Slices Tiling Fallible Transition AccountInfoValidation QueueAccount

/-! ## Residue -/

def Zeroed (q : QueueAccount) : Prop := ∀ b ∈ q.acc.drop 12, b = 0

theorem eq_replicate_of_zeroed {acc : List UInt8} {pos count : Nat} (hZero : ∀ b ∈ acc.drop 12, b = 0)
    (hPos : 12 ≤ pos) (hRoom : pos + count ≤ acc.length) : slice acc pos count = List.replicate count 0 := by
  apply List.eq_replicate_iff.mpr
  refine ⟨length_slice hRoom, ?_⟩
  intro b hMem
  apply hZero
  rw [slice, ← Nat.sub_add_cancel hPos, Nat.add_comm, ← List.drop_drop] at hMem
  exact List.mem_of_mem_drop (List.mem_of_mem_take hMem)

/-- A record names the offset of its payload, which is not zero. -/
theorem nil_of_zeroed {acc : List UInt8} {recs : List Record} (h : slots.Tiled acc itemsStart recs)
    (hZero : ∀ b ∈ acc.drop 12, b = 0) : recs = [] := by
  cases recs with
  | nil => rfl
  | cons r recs =>
    exfalso
    obtain ⟨hPlaced, hImage, -⟩ := h
    have hOffset : r.item.callbackDiscriminatorOffset.toNat = itemsStart + 96 := hPlaced.discOffset
    have hItem := slice_item hImage
    unfold read? at hItem
    split at hItem
    · rename_i hRoom
      rw [eq_replicate_of_zeroed hZero (by decide) hRoom] at hItem
      have hDecoded := congrArg QueueItem.layout.decode (Option.some.inj hItem)
      rw [QueueItem.layout.decode_encode] at hDecoded
      rw [← hDecoded] at hOffset
      exact absurd hOffset (by decide)
    · cases hItem

/-! ## One call -/

section

variable {rt : Runtime} {clock : Clock} {accounts : List AccountInfo} {data : List UInt8} {k : Pubkey}
  {q q' : QueueAccount} {recs recs' : List Record} {receipt : Receipt}

theorem zeroed_congr (h : q'.acc.drop 12 = q.acc.drop 12) : Zeroed q' ↔ Zeroed q := by
  rw [Zeroed, Zeroed, h]

theorem passed_drop_nil (p : QueueItem → Bool) : (passed p q []).acc.drop 12 = q.acc.drop 12 := by
  change (q.trimTo _).acc.drop 12 = _
  unfold trimTo
  split
  · exact drop_withHeader _ _
  · rfl

/-- No call but a request takes a queue from unused to used, and none back. -/
theorem BodyStep.zeroed_iff (h : BodyStep rt clock accounts data k q recs receipt q' recs')
    (hRep : Represents q recs) (hNot : ∀ acc, receipt = .requested acc → acc.queue ≠ k) :
    Zeroed q' ↔ Zeroed q := by
  cases h with
  | still hOther => rfl
  | requested hk => exact absurd hk (hNot _ rfl)
  | @provided p paid q' xs ys r hk hRecs hLive hRep' hFramed hTiled =>
    constructor
    · intro hZero
      exact absurd (nil_of_zeroed hTiled hZero) (by simp)
    · intro hZero
      have hNil := nil_of_zeroed hRep.tiled hZero
      rw [hRecs] at hNil
      exact absurd hNil (by simp)
  | purged oracle paid =>
    cases recs with
    | nil => exact zeroed_congr (passed_drop_nil _)
    | cons r recs =>
      have hTiled := (hRep.after_pass (expired (QueueItem.createdAtFrom clock.unixTimestamp))).2.2
      constructor
      · intro hZero
        cases nil_of_zeroed hTiled hZero
      · intro hZero
        cases nil_of_zeroed hRep.tiled hZero
  | paused hCall hFlag hMem hSigner hk => exact zeroed_congr (drop_withHeader _ _)

theorem Inserts.ne_nil {new : Record} {pos i : Nat} (h : Inserts new recs recs' pos i) : recs' ≠ [] := by
  cases h with
  | reuse xs hole ys _ _ => simp
  | append xs _ => simp

theorem BodyStep.not_zeroed {acc : Accepted} (h : BodyStep rt clock accounts data k q recs (.requested acc) q' recs')
    (hk : acc.queue = k) : ¬Zeroed q' := by
  intro hZero
  cases h with
  | still hOther => exact hOther (congrArg some hk)
  | requested _ _ hInserts hRep _ => exact hInserts.ne_nil (nil_of_zeroed hRep.tiled hZero)

end

/-! ## The check -/

/-- What `delegate_oracle_queue` asks of the bytes of a queue. -/
def UsageCheck (a : Account) : Prop :=
  ∃ header, Queue.tryFromBytes a.data = .ok header ∧ header.itemCount = 0 ∧
    ((a.data.drop (8 + Queue.layout.size)).any fun b => b != 0) = false

theorem Hosts.usageCheck_iff {a : Account} {q : QueueAccount} {recs : List Record} (h : Hosts a q recs) :
    UsageCheck a ↔ Zeroed q := by
  have hLength : AccountDiscriminator.queue.toBytes.length = 8 := AccountDiscriminator.length_toBytes _
  have hRegion : a.data.drop (8 + Queue.layout.size) = q.acc.drop 12 := by
    rw [h.data, ← List.drop_drop, List.drop_left' hLength, Queue.layout_size]
  have hAny : ((q.acc.drop 12).any fun b => b != 0) = false ↔ Zeroed q := by
    rw [List.any_eq_false]
    simp [Zeroed]
  rw [UsageCheck, hRegion, hAny, h.tryFromBytes_eq]
  constructor
  · rintro ⟨-, -, -, hZero⟩
    exact hZero
  · intro hZero
    have hNil := nil_of_zeroed h.represents.tiled hZero
    refine ⟨q.header, rfl, ?_, hZero⟩
    have hCount := h.represents.count
    rw [hNil] at hCount
    exact UInt32.toNat_inj.mp hCount

theorem processDelegateOracleQueue_refused_iff {rt : Runtime} {l : Ledger} {index : UInt8}
    {authority queue b₁ b₂ b₃ b₄ ownerProgram b₅ : AccountInfo} {q : QueueAccount} {recs : List Record}
    (hSigner : authority.isSigner = true) (hProgram : ownerProgram.key = ID) (hWritable : queue.isWritable = true)
    (hKey : queue.key = (rt.oracleQueuePda authority.key index).1) (hHosts : Hosts (l queue.key) q recs) :
    processDelegateOracleQueue rt [authority, queue, b₁, b₂, b₃, b₄, ownerProgram, b₅]
        (queueIndexLayout.encode index) l = .error ↑SolanaVrfError.queueAlreadyInUse ↔
      ¬UsageCheck (l queue.key) ∨
        rt.delegateAccountWithAnyValidator [authority, queue, b₁, b₂, b₃, b₄, ownerProgram, b₅]
          [QUEUE, authority.key.toList, [index]] queue.key l = .error ↑SolanaVrfError.queueAlreadyInUse := by
  have hChecked : UsageCheck (l queue.key) ↔ q.header.itemCount = 0 ∧
      (((l queue.key).data.drop (8 + Queue.layout.size)).any fun b => b != 0) = false := by
    rw [UsageCheck, hHosts.tryFromBytes_eq]
    simp
  have hSeeds : queue.key = (rt.findProgramAddress [QUEUE, authority.key.toList, [index]] ID).1 := hKey
  rw [processDelegateOracleQueue, parseArgs, Layout.tryFromBytes_encode, okOr_some, bind_ok]
  simp only [isSigner, hasAddress, isWritable, hasOwner, hasSeeds, require_of hSigner, require_of hProgram,
    require_of hWritable, require_of hHosts.owner, require_of hSeeds, bind_ok, hHosts.queueHeader_eq]
  rw [hChecked]
  by_cases hUnused : q.header.itemCount = 0 ∧
      (((l queue.key).data.drop (8 + Queue.layout.size)).any fun b => b != 0) = false
  · rw [require_of hUnused, bind_ok, or_iff_right (not_not.mpr hUnused)]
    exact bind_eq_error_iff fun l' _ => avoids_ok _
  · rw [require_of_not hUnused, bind_error]
    exact iff_of_true rfl (.inl hUnused)

/-! ## Whole lives -/

theorem ChainRun.zeroed_iff {rt : Runtime} (run : ChainRun rt) {k identity : Pubkey} {index : UInt8} {s n : Nat}
    (hOpened : run.receipt s = some (.opened identity index)) (hk : k = (rt.oracleQueuePda identity index).1)
    (hn : s < n) (hQueue : ∀ m, s < m → m ≤ n → IsQueue (run.ledger m k)) :
    ∃ q recs, Hosts (run.ledger n k) q recs ∧
      (Zeroed q ↔ ∀ m acc, s < m → m < n → run.receipt m = some (.requested acc) → acc.queue ≠ k) := by
  induction n, hn using Nat.le_induction with
  | base =>
    obtain ⟨q, hHosts, hPristine⟩ := run.opened_body hOpened
    rw [← hk] at hHosts
    refine ⟨q, [], hHosts, ?_⟩
    constructor
    · intro _ m acc hLow hHigh
      omega
    · intro _
      exact hPristine.zero
  | succ n hn ih =>
    obtain ⟨q, recs, hHosts, hIff⟩ := ih fun m hLow hHigh => hQueue m hLow (by omega)
    -- the requests before `n + 1` are those before `n` and possibly one at `n`
    have hSplit : (∀ m acc, s < m → m < n + 1 → run.receipt m = some (.requested acc) → acc.queue ≠ k) ↔
        (∀ m acc, s < m → m < n → run.receipt m = some (.requested acc) → acc.queue ≠ k) ∧
          ∀ acc, run.receipt n = some (.requested acc) → acc.queue ≠ k := by
      constructor
      · intro h
        exact ⟨fun m acc hLow hHigh => h m acc hLow (by omega), fun acc => h n acc hn (by omega)⟩
      · rintro ⟨hBefore, hNow⟩ m acc hLow hHigh
        obtain hlt | rfl := Nat.lt_succ_iff_lt_or_eq.mp hHigh
        · exact hBefore m acc hLow hlt
        · exact hNow acc
    rw [hSplit, ← hIff]
    obtain ⟨accounts, data, receipt, q', recs', -, hReceipt, hStep, hHosts'⟩ | ⟨hReceipt, hHosts'⟩ :=
      run.body_step hHosts (hQueue (n + 1) (by omega) (Nat.le_refl _))
    · refine ⟨q', recs', hHosts', ?_⟩
      by_cases hNow : ∀ acc, run.receipt n = some (.requested acc) → acc.queue ≠ k
      · rw [hStep.zeroed_iff hHosts.represents fun acc hAcc => hNow acc (hAcc ▸ hReceipt)]
        exact (and_iff_left hNow).symm
      · push Not at hNow
        obtain ⟨acc, hRequested, hk⟩ := hNow
        rw [hReceipt] at hRequested
        cases hRequested
        constructor
        · intro hZero
          exact absurd hZero (hStep.not_zeroed hk)
        · rintro ⟨-, hNone⟩
          exact absurd hk (hNone acc hReceipt)
    · refine ⟨q, recs, hHosts', ?_⟩
      rw [hReceipt]
      simp

/-- From the initialisation of a queue until it is closed or delegated, the usage check passes exactly
if no request has been accepted on it, and a delegation by its oracle is refused as in use exactly
otherwise, or if the delegation program itself fails with that code. -/
theorem delegation_exactly_for_unused {rt : Runtime} (run : ChainRun rt) {identity : Pubkey} {index : UInt8}
    {s n : Nat} (hOpened : run.receipt s = some (.opened identity index)) (hn : s < n)
    (hQueue : ∀ m, s < m → m ≤ n → IsQueue (run.ledger m (rt.oracleQueuePda identity index).1)) :
    (UsageCheck (run.ledger n (rt.oracleQueuePda identity index).1) ↔
      ∀ m acc, s < m → m < n → run.receipt m = some (.requested acc) →
        acc.queue ≠ (rt.oracleQueuePda identity index).1) ∧
    ∀ authority queue b₁ b₂ b₃ b₄ ownerProgram b₅ : AccountInfo, authority.key = identity →
      authority.isSigner = true → queue.key = (rt.oracleQueuePda identity index).1 → queue.isWritable = true →
      ownerProgram.key = ID →
      (processDelegateOracleQueue rt [authority, queue, b₁, b₂, b₃, b₄, ownerProgram, b₅]
          (queueIndexLayout.encode index) (run.ledger n) = .error ↑SolanaVrfError.queueAlreadyInUse ↔
        (∃ m acc, s < m ∧ m < n ∧ run.receipt m = some (.requested acc) ∧
          acc.queue = (rt.oracleQueuePda identity index).1) ∨
        rt.delegateAccountWithAnyValidator [authority, queue, b₁, b₂, b₃, b₄, ownerProgram, b₅]
          [QUEUE, identity.toList, [index]] queue.key (run.ledger n) =
            .error ↑SolanaVrfError.queueAlreadyInUse) := by
  obtain ⟨q, recs, hHosts, hZeroed⟩ := run.zeroed_iff hOpened rfl hn hQueue
  have hCheck := hHosts.usageCheck_iff.trans hZeroed
  refine ⟨hCheck, ?_⟩
  rintro authority queue b₁ b₂ b₃ b₄ ownerProgram b₅ rfl hSigner hKey hWritable hProgram
  rw [← hKey] at hHosts
  have hUsed : ¬UsageCheck (run.ledger n queue.key) ↔ ∃ m acc, s < m ∧ m < n ∧
      run.receipt m = some (.requested acc) ∧ acc.queue = (rt.oracleQueuePda authority.key index).1 := by
    rw [hKey, hCheck]
    push Not
    rfl
  rw [processDelegateOracleQueue_refused_iff hSigner hProgram hWritable hKey hHosts, hUsed]

namespace Sample

/-- The accounts of a delegation by the oracle; the program looks at three of them. -/
def delegationAccounts : List AccountInfo :=
  [signer oracle, writable queueKey, writable systemProgramId, writable systemProgramId, writable systemProgramId,
    writable delegationProgramId, writable ID, writable systemProgramId]

end Sample

/-- A fulfilled request leaves an empty queue that can no longer be delegated. -/
theorem delegation_exactly_for_unused_drained :
    UsageCheck (Sample.run.ledger 3 Sample.queueKey) ∧ ¬UsageCheck (Sample.run.ledger 6 Sample.queueKey) ∧
    (load (Sample.run.ledger 6 Sample.queueKey).data).toOption.map (fun q => q.header.itemCount) = some 0 ∧
    processDelegateOracleQueue Sample.runtime Sample.delegationAccounts (queueIndexLayout.encode 0)
      (Sample.run.ledger 6) = .error ↑SolanaVrfError.queueAlreadyInUse := by
  have hKey : (Sample.runtime.oracleQueuePda Sample.oracle 0).1 = Sample.queueKey := by decide +kernel
  have hQueue : ∀ m ≤ 6, 2 < m → IsQueue (Sample.run.ledger m Sample.queueKey) := by decide +kernel
  rw [← hKey] at hQueue ⊢
  obtain ⟨hFirst, -⟩ := delegation_exactly_for_unused Sample.run (Sample.receipt_eq 2) (n := 3) (by decide)
    fun m hLow hHigh => hQueue m (by omega) hLow
  obtain ⟨hLast, hRefused⟩ := delegation_exactly_for_unused Sample.run (Sample.receipt_eq 2) (n := 6) (by decide)
    fun m hLow hHigh => hQueue m hHigh hLow
  refine ⟨hFirst.mpr ?_, ?_, by decide +kernel, ?_⟩
  · intro m acc hLow hHigh
    omega
  · intro hUnused
    exact hLast.mp hUnused 3 Sample.accepted (by decide) (by decide) (Sample.receipt_eq 3) hKey.symm
  · exact (hRefused _ _ _ _ _ _ _ _ rfl rfl hKey.symm rfl rfl).mpr
      (.inl ⟨3, Sample.accepted, by decide, by decide, Sample.receipt_eq 3, hKey.symm⟩)

end SolanaVrf
