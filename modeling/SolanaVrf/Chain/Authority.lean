import SolanaVrf.Chain.Coherence
import SolanaVrf.Chain.Draining

/-! # Who must have signed

The registry and the oracles' keys belong to the upgrade authority that the loader records for
the program, a queue to the oracle that derives it. A run in which the one or the other does
not sign leaves what is theirs as it was, whatever everyone else calls.
-/

namespace SolanaVrf
set_option autoImplicit false

open Pod Fallible Transition AccountInfoValidation QueueAccount

variable {rt : Runtime} {clock : Clock} {l l' : Ledger} {accounts : List AccountInfo} {data : List UInt8}
  {receipt : Receipt} {k : Pubkey}

def Signed (accounts : List AccountInfo) (k : Pubkey) : Prop := ∃ a ∈ accounts, a.isSigner = true ∧ a.key = k

/-- The authority in the loader's program-data account. -/
def upgradeAuthority (env : Environment) (l : Ledger) : Option Pubkey :=
  match env.loaderState (l (env.findProgramAddress [ID.toList] bpfLoaderUpgradeableId).1).data with
  | some (.programData authority) => authority
  | _ => none

/-- Whose signature an instruction with this receipt carries. -/
def Receipt.Licensed (env : Environment) (l : Ledger) (accounts : List AccountInfo) : Receipt → Prop
  | registered _ _ => ∃ admin, upgradeAuthority env l = some admin ∧ Signed accounts admin
  | unregistered _ => ∃ admin, upgradeAuthority env l = some admin ∧ Signed accounts admin
  | opened identity _ => Signed accounts identity
  | closed identity _ _ => Signed accounts identity
  | delegated identity _ _ => Signed accounts identity
  | _ => True

/-! ## The instructions -/

theorem checkAdmin_eq_ok {signer programData : AccountInfo} (h : checkAdmin rt signer programData l = .ok ()) :
    upgradeAuthority rt.toEnvironment l = some signer.key := by
  obtain ⟨authority, hLoad, h⟩ := bind_eq_ok.mp h
  obtain ⟨admin, hAdmin, h⟩ := bind_eq_ok.mp h
  have hSigner := require_eq_ok.mp h
  obtain ⟨hKey, hLoad⟩ := require_bind_eq_ok.mp hLoad
  obtain ⟨state, hState, hLoad⟩ := bind_eq_ok.mp hLoad
  rw [upgradeAuthority, hKey, okOr_eq_ok.mp hState]
  cases state with
  | programData upgradeAuthorityAddress =>
    cases hLoad
    rw [hSigner]
    exact okOr_eq_ok.mp hAdmin
  | other => cases hLoad

example : upgradeAuthority Sample.environment Sample.genesis.ledger = some Sample.payer := by decide +kernel

theorem processModifyOracles_signed (h : processModifyOracles rt clock accounts data l = .ok (l', receipt)) :
    ∃ admin, upgradeAuthority rt.toEnvironment l = some admin ∧ Signed accounts admin := by
  obtain ⟨args, -, h⟩ := bind_eq_ok.mp h
  obtain ⟨_, -, h⟩ := bind_eq_ok.mp h
  split at h
  · rename_i signerInfo _ _ programDataInfo _ _ _
    obtain ⟨hSigner, h⟩ := require_bind_eq_ok.mp h
    obtain ⟨_, hAdmin, -⟩ := bind_eq_ok.mp h
    exact ⟨signerInfo.key, checkAdmin_eq_ok hAdmin, signerInfo, by simp, hSigner, rfl⟩
  · cases h

theorem processCloseOracleQueue_signed (h : processCloseOracleQueue rt accounts data l = .ok (l', receipt)) :
    receipt.Licensed rt.toEnvironment l accounts := by
  obtain ⟨index, _, h⟩ := bind_eq_ok.mp h
  split at h
  · rename_i oracleInfo oracleDataInfo oracleQueueInfo _
    obtain ⟨hSigner, h⟩ := require_bind_eq_ok.mp h
    obtain ⟨_, h⟩ := require_bind_eq_ok.mp h
    obtain ⟨_, h⟩ := require_bind_eq_ok.mp h
    obtain ⟨_, h⟩ := require_bind_eq_ok.mp h
    obtain ⟨_, h⟩ := require_bind_eq_ok.mp h
    obtain ⟨_, h⟩ := require_bind_eq_ok.mp h
    obtain ⟨_, h⟩ := require_bind_eq_ok.mp h
    obtain ⟨_, -, h⟩ := bind_eq_ok.mp h
    obtain ⟨q, -, h⟩ := bind_eq_ok.mp h
    obtain ⟨_, h⟩ := require_bind_eq_ok.mp h
    obtain ⟨l₁, -, h⟩ := bind_eq_ok.mp h
    obtain ⟨l₂, -, h⟩ := bind_eq_ok.mp h
    cases h
    exact ⟨oracleInfo, by simp, hSigner, rfl⟩
  · cases h

theorem processDelegateOracleQueue_signed (h : processDelegateOracleQueue rt accounts data l = .ok (l', receipt)) :
    receipt.Licensed rt.toEnvironment l accounts := by
  obtain ⟨index, _, h⟩ := bind_eq_ok.mp h
  split at h
  · rename_i authorityInfo oracleQueueInfo _ _ _ _ ownerProgram _ _
    obtain ⟨hSigner, h⟩ := require_bind_eq_ok.mp h
    obtain ⟨_, h⟩ := require_bind_eq_ok.mp h
    obtain ⟨_, h⟩ := require_bind_eq_ok.mp h
    obtain ⟨_, h⟩ := require_bind_eq_ok.mp h
    obtain ⟨_, h⟩ := require_bind_eq_ok.mp h
    obtain ⟨header, -, h⟩ := bind_eq_ok.mp h
    obtain ⟨_, h⟩ := require_bind_eq_ok.mp h
    obtain ⟨l₁, -, h⟩ := bind_eq_ok.mp h
    cases h
    exact ⟨authorityInfo, by simp, hSigner, rfl⟩
  · cases h

theorem processInstruction_licensed (h : processInstruction rt clock ID accounts data l = .ok (l', receipt))
    (hSigners : Unforged rt.toEnvironment accounts) : receipt.Licensed rt.toEnvironment l accounts := by
  obtain ⟨⟨ix, rest⟩, _, h⟩ := bind_eq_ok.mp h
  have hRequest {highPriority isScoped : Bool}
      (h : processRequestRandomness rt clock accounts rest highPriority isScoped l = .ok (l', receipt)) :
      receipt.Licensed rt.toEnvironment l accounts := by
    obtain ⟨acc, rfl, -⟩ := processRequestRandomness_effect h
    trivial
  cases ix with
  | initializeProgram =>
    obtain ⟨-, rfl⟩ := processInitialize_effect h hSigners
    trivial
  | modifyOracle =>
    have hAdmin := processModifyOracles_signed h
    obtain ⟨args, ⟨rfl, -⟩ | ⟨rfl, -⟩⟩ := processModifyOracles_effect h hSigners
    · exact hAdmin
    · exact hAdmin
  | initializeOracleQueue =>
    obtain ⟨identity, index, hSigned, ⟨rfl, -⟩ | ⟨rfl, -⟩⟩ := processInitializeOracleQueue_effect h hSigners
    · trivial
    · exact hSigned
  | requestHighPriorityRandomness => exact hRequest h
  | requestRandomness => exact hRequest h
  | requestHighPriorityRandomnessScoped => exact hRequest h
  | requestRandomnessScoped => exact hRequest h
  | provideRandomness =>
    obtain ⟨p, paid, rfl, -⟩ := processProvideRandomness_effect h
    trivial
  | delegateOracleQueue => exact processDelegateOracleQueue_signed h
  | closeOracleQueue => exact processCloseOracleQueue_signed h
  | purgeExpiredRequests =>
    obtain ⟨queue, oracle, paid, rfl, -⟩ := processPurgeExpiredRequests_effect h
    trivial
  | setQueuePaused =>
    obtain ⟨rfl, -⟩ := processSetQueuePaused_effect h
    trivial

/-! ## Oracles and their keys -/

/-- The account of an oracle that is registered with this key. -/
def HoldsKey (a : Account) (key : Bytes 32) : Prop := ∃ o, IsOracle a o ∧ o.vrfPubkey = key

theorem ExternalAt.holdsKey_iff {env : Environment} {a a' : Account} (h : ExternalAt env k a a') (key : Bytes 32) :
    HoldsKey a' key ↔ HoldsKey a key :=
  exists_congr fun _ => and_congr_left' h.isOracle_iff

theorem holdsKey_iff_of_eq {a a' : Account} {o o' : Oracle} (h : IsOracle a o) (h' : IsOracle a' o')
    (hKey : o'.vrfPubkey = o.vrfPubkey) (key : Bytes 32) : HoldsKey a' key ↔ HoldsKey a key := by
  constructor
  · rintro ⟨other, hOther, rfl⟩
    obtain rfl := hOther.unique h'
    exact ⟨o, h, hKey.symm⟩
  · rintro ⟨other, hOther, rfl⟩
    obtain rfl := hOther.unique h
    exact ⟨o', h', hKey⟩

/-- Opening and closing queues changes the counter of an oracle and not its key. -/
theorem Effect.holdsKey_iff (h : Effect rt clock l receipt l') (hAdd : ∀ o key, receipt ≠ .registered o key)
    (hRemove : ∀ o, receipt ≠ .unregistered o) (k : Pubkey) (key : Bytes 32) :
    HoldsKey (l' k) key ↔ HoldsKey (l k) key := by
  by_cases hOther : ∀ o, receipt.identity? = some o → k ≠ (rt.oracleDataPda o).1
  · exact exists_congr fun o => and_congr_left' ((h.change k).isOracle_iff hOther o)
  · push Not at hOther
    obtain ⟨identity, hNamed, rfl⟩ := hOther
    cases h with
    | registered h => exact absurd rfl (hAdd _ _)
    | unregistered h => exact absurd rfl (hRemove _)
    | opened h =>
      cases hNamed
      obtain ⟨o, hIs, hIs'⟩ := h.counted
      exact holdsKey_iff_of_eq hIs hIs' rfl key
    | closed h =>
      cases hNamed
      obtain ⟨o, hIs, hIs'⟩ := h.counted
      exact holdsKey_iff_of_eq hIs hIs' rfl key
    | _ => cases hNamed

namespace ChainRun

variable (run : ChainRun rt)

/-- The upgrade authority signs no call in this step. -/
def AdminSilent (i : Nat) : Prop :=
  ∀ accounts data admin, run.event i = .call accounts data →
    upgradeAuthority rt.toEnvironment (run.ledger i) = some admin → ¬ Signed accounts admin

/-- No oracle that derives this queue signs a call in this step. -/
def OracleSilent (k : Pubkey) (i : Nat) : Prop :=
  ∀ accounts data identity index, run.event i = .call accounts data →
    k = (rt.oracleQueuePda identity index).1 → ¬ Signed accounts identity

theorem licensed {n : Nat} {receipt : Receipt} (h : run.receipt n = some receipt) :
    ∃ accounts data, run.event n = .call accounts data ∧ receipt.Licensed rt.toEnvironment (run.ledger n) accounts := by
  obtain ⟨accounts, data, hEvent, hSigners, hCall⟩ := run.call_of_receipt h
  exact ⟨accounts, data, hEvent, processInstruction_licensed hCall hSigners⟩

variable {run}

theorem AdminSilent.not_modified {n : Nat} (h : run.AdminSilent n) {receipt : Receipt}
    (hReceipt : run.receipt n = some receipt) :
    (∀ o key, receipt ≠ .registered o key) ∧ ∀ o, receipt ≠ .unregistered o := by
  obtain ⟨accounts, data, hEvent, hLicensed⟩ := run.licensed hReceipt
  constructor
  · rintro o key rfl
    obtain ⟨admin, hAdmin, hSigned⟩ := hLicensed
    exact h accounts data admin hEvent hAdmin hSigned
  · rintro o rfl
    obtain ⟨admin, hAdmin, hSigned⟩ := hLicensed
    exact h accounts data admin hEvent hAdmin hSigned

/-- What the list of oracles and the keys depend on is untouched by one step. -/
theorem AdminSilent.step {n : Nat} (h : run.AdminSilent n)
    (hQueues : ∀ n accounts data, run.event n = .call accounts data → QueuesApart rt.toEnvironment accounts data)
    {oracles : Oracles} (hOwner : (run.ledger n rt.oraclesPda.1).owner = ID)
    (hDecodes : Oracles.tryFromBytesWithDiscriminator (run.ledger n rt.oraclesPda.1).data = .ok oracles) :
    (run.ledger (n + 1) rt.oraclesPda.1).owner = ID ∧
      (run.ledger (n + 1) rt.oraclesPda.1).data = (run.ledger n rt.oraclesPda.1).data ∧
      ∀ k key, HoldsKey (run.ledger (n + 1) k) key ↔ HoldsKey (run.ledger n k) key := by
  obtain ⟨receipt, hReceipt, hEffect⟩ | ⟨-, hExternal⟩ := run.step_cases n
  · obtain ⟨hAdd, hRemove⟩ := h.not_modified hReceipt
    have hTag := (Oracles.tryFromBytes_take hDecodes).2
    have hQueue : ¬IsQueue (run.ledger n rt.oraclesPda.1) := fun hIs => not_inUse_of_registry hTag hIs.inUse
    have hKeys := hEffect.holdsKey_iff hAdd hRemove
    cases run.registry_step hQueues hReceipt hQueue (not_oracle_of_registry hTag) with
    | still _ _ hExternal =>
      obtain ⟨hOwner', hData, -⟩ := hExternal.owned hOwner
      exact ⟨hOwner', hData, hKeys⟩
    | initialized hBefore _ _ => exact absurd (hBefore.1.symm.trans hOwner) (by decide)
    | registered _ _ _ => exact absurd rfl (hAdd _ _)
    | unregistered _ _ _ => exact absurd rfl (hRemove _)
  · obtain ⟨hOwner', hData, -⟩ := (hExternal _).owned hOwner
    exact ⟨hOwner', hData, fun k key => (hExternal k).holdsKey_iff key⟩

end ChainRun

/-- While the upgrade authority signs nothing, the list of oracles stays as it is, and no account
becomes or ceases to be that of an oracle with a given key. -/
theorem registry_needs_authority (run : ChainRun rt)
    (hQueues : ∀ n accounts data, run.event n = .call accounts data → QueuesApart rt.toEnvironment accounts data)
    {m n : Nat} (hmn : m ≤ n) (hSilent : ∀ i, m ≤ i → i < n → run.AdminSilent i) {oracles : Oracles}
    (hOwner : (run.ledger m rt.oraclesPda.1).owner = ID)
    (hDecodes : Oracles.tryFromBytesWithDiscriminator (run.ledger m rt.oraclesPda.1).data = .ok oracles) :
    (run.ledger n rt.oraclesPda.1).owner = ID ∧
      Oracles.tryFromBytesWithDiscriminator (run.ledger n rt.oraclesPda.1).data = .ok oracles ∧
      ∀ k key, HoldsKey (run.ledger n k) key ↔ HoldsKey (run.ledger m k) key := by
  induction n, hmn using Nat.le_induction with
  | base => exact ⟨hOwner, hDecodes, fun _ _ => Iff.rfl⟩
  | succ n hmn ih =>
    obtain ⟨hOwner', hDecodes', hKeys⟩ := ih fun i hi hin => hSilent i hi (Nat.lt_succ_of_lt hin)
    obtain ⟨hOwner'', hData, hStep⟩ := (hSilent n hmn (Nat.lt_succ_self n)).step hQueues hOwner' hDecodes'
    exact ⟨hOwner'', by rw [hData, hDecodes'], fun k key => (hStep k key).trans (hKeys k key)⟩

/-- The oracle pauses its queue; the list of oracles and its key are as before. -/
theorem registry_needs_authority_pausing :
    Oracles.tryFromBytesWithDiscriminator (Sample.pausing.ledger 5 Sample.oraclesKey).data = .ok ⟨[Sample.oracle]⟩ ∧
      HoldsKey (Sample.pausing.ledger 5 Sample.oracleDataKey) Sample.vrfPubkey := by
  have hKey : (Sample.runtimeWith [] []).oraclesPda.1 = Sample.oraclesKey := by decide +kernel
  have hQueues (n : Nat) (accounts : List AccountInfo) (data : List UInt8)
      (_ : Sample.pausing.event n = .call accounts data) :
      QueuesApart (Sample.runtimeWith [] []).toEnvironment accounts data := by
    intro rest _ a _ _ i hEq
    cases Sample.seeds_of_oraclesKey (hEq.trans hKey)
  have hSilent (i : Nat) (hLow : 4 ≤ i) (hHigh : i < 5) : Sample.pausing.AdminSilent i := by
    obtain rfl : i = 4 := by omega
    rintro accounts data admin hEvent hAdmin ⟨a, hMem, hSigner, rfl⟩
    have hAuthority : upgradeAuthority (Sample.environmentWith [] []) (Sample.pausing.ledger 4) = some Sample.payer := by
      decide +kernel
    have hPayer : some Sample.payer = some a.key := hAuthority.symm.trans hAdmin
    cases hEvent
    have hOracle : ∀ a ∈ [Sample.signer Sample.oracle, Sample.writable Sample.queueKey],
        a.isSigner = true → Sample.payer ≠ a.key := by decide +kernel
    exact hOracle a hMem hSigner (Option.some.inj hPayer)
  have hBefore : Oracles.tryFromBytesWithDiscriminator
      (Sample.pausing.ledger 4 (Sample.runtimeWith [] []).oraclesPda.1).data = .ok ⟨[Sample.oracle]⟩ := by decide +kernel
  obtain ⟨-, hDecodes, hKeys⟩ := registry_needs_authority Sample.pausing hQueues (by decide : 4 ≤ 5) hSilent
    (by decide +kernel) hBefore
  rw [hKey] at hDecodes
  have hHeld : HoldsKey (Sample.pausing.ledger 4 Sample.oracleDataKey) Sample.vrfPubkey :=
    ⟨⟨Sample.vrfPubkey, 100, 1⟩, ⟨by decide +kernel, by decide +kernel, by decide +kernel, by decide +kernel⟩, rfl⟩
  exact ⟨hDecodes, (hKeys _ _).mpr hHeld⟩

/-! ## Queues and their settings -/

/-- An account becomes or ceases to be a queue only when the oracle that derives it opens, closes or
delegates it. -/
theorem Effect.isQueue_iff_of_unnamed (h : Effect rt clock l receipt l')
    (hOpened : ∀ o i, receipt = .opened o i → k ≠ (rt.oracleQueuePda o i).1)
    (hClosed : ∀ o i, receipt = .closed o i k → k ≠ (rt.oracleQueuePda o i).1)
    (hDelegated : ∀ o i, receipt = .delegated o i k → k ≠ (rt.oracleQueuePda o i).1) :
    IsQueue (l' k) ↔ IsQueue (l k) := by
  constructor
  · intro hQueue'
    cases h.change k with
    | external h => exact h.isQueue_iff.mp hQueue'
    | queue hBefore _ => exact hBefore
    | registry _ hAfter _ => exact absurd hQueue'.inUse (not_inUse_of_registry hAfter)
    | zeroed _ _ hAfter => exact absurd hQueue' (not_queue_of_zero hAfter)
    | opened hk _ _ => exact absurd hk (hOpened _ _ rfl)
    | closed _ hBefore _ => exact hBefore
    | delegated hBefore _ _ => exact hBefore
    | registered _ _ hAfter => exact absurd hQueue' hAfter.not_queue
    | unregistered _ _ _ hAfter => exact absurd hQueue' hAfter.not_queue
    | countedUp _ _ hAfter => exact absurd hQueue' hAfter.not_queue
    | countedDown _ _ hAfter => exact absurd hQueue' hAfter.not_queue
  · intro hQueue
    cases h.at_queue hQueue with
    | external _ h => exact h.isQueue_iff.mpr hQueue
    | requested h hk => exact hk ▸ h.isQueue'
    | provided h hk => exact hk ▸ h.isQueue'
    | purged h => exact h.isQueue'
    | paused h => exact h.isQueue'
    | closed _ _ identity index =>
      cases h with
      | closed h => exact absurd rfl (hClosed identity index rfl)
    | delegated _ _ identity index =>
      cases h with
      | delegated h => exact absurd rfl (hDelegated identity index rfl)

/-- Only a pause writes to the header fields that are not bookkeeping. -/
theorem BodyStep.framed {q q' : QueueAccount} {recs recs' : List Record}
    (h : BodyStep rt clock accounts data k q recs receipt q' recs') (hRep : Represents q recs)
    (hSilent : ∀ identity index, k = (rt.oracleQueuePda identity index).1 → ¬ Signed accounts identity) :
    Framed q q' := by
  cases h with
  | still _ => exact .refl q
  | requested _ _ _ _ hFramed => exact hFramed
  | provided _ _ _ _ hFramed _ => exact hFramed
  | purged _ _ => exact (hRep.after_pass _).2.1
  | @paused args oracle _ _ hMem hSigner hk => exact absurd ⟨oracle, hMem, hSigner, rfl⟩ (hSilent _ _ hk)

namespace ChainRun.OracleSilent

variable {run : ChainRun rt} {n : Nat}

theorem isQueue_iff (h : run.OracleSilent k n) : IsQueue (run.ledger (n + 1) k) ↔ IsQueue (run.ledger n k) := by
  obtain ⟨receipt, hReceipt, hEffect⟩ | ⟨-, hExternal⟩ := run.step_cases n
  · obtain ⟨accounts, data, hEvent, hLicensed⟩ := run.licensed hReceipt
    refine hEffect.isQueue_iff_of_unnamed ?_ ?_ ?_
    · rintro o i rfl hk
      exact h accounts data o i hEvent hk hLicensed
    · rintro o i rfl hk
      exact h accounts data o i hEvent hk hLicensed
    · rintro o i rfl hk
      exact h accounts data o i hEvent hk hLicensed
  · exact (hExternal k).isQueue_iff

theorem hosts (h : run.OracleSilent k n) {q : QueueAccount} {recs : List Record}
    (hHosts : Hosts (run.ledger n k) q recs) : ∃ q' recs', Hosts (run.ledger (n + 1) k) q' recs' ∧ Framed q q' := by
  obtain ⟨accounts, data, receipt, q', recs', hEvent, -, hStep, hHosts'⟩ | ⟨-, hHosts'⟩ :=
    run.body_step hHosts (h.isQueue_iff.mpr hHosts.isQueue)
  · exact ⟨q', recs', hHosts', hStep.framed hHosts.represents fun identity index hk =>
      h accounts data identity index hEvent hk⟩
  · exact ⟨q, recs, hHosts', .refl q⟩

end ChainRun.OracleSilent

/-- While no oracle that derives the address signs, a queue there is neither opened nor closed nor
delegated, and keeps its size, its index and its paused flag. -/
theorem queue_needs_oracle (run : ChainRun rt) (k : Pubkey) {m n : Nat} (hmn : m ≤ n)
    (hSilent : ∀ i, m ≤ i → i < n → run.OracleSilent k i) :
    (IsQueue (run.ledger n k) ↔ IsQueue (run.ledger m k)) ∧
      (IsQueue (run.ledger m k) → ∃ q q', openQueue (run.ledger m) k = .ok q ∧
        openQueue (run.ledger n) k = .ok q' ∧ Framed q q') := by
  have hSame : IsQueue (run.ledger n k) ↔ IsQueue (run.ledger m k) := by
    induction n, hmn using Nat.le_induction with
    | base => exact Iff.rfl
    | succ n hmn ih =>
      exact (hSilent n hmn (Nat.lt_succ_self n)).isQueue_iff.trans
        (ih fun i hi hin => hSilent i hi (Nat.lt_succ_of_lt hin))
  refine ⟨hSame, fun hQueue => ?_⟩
  obtain ⟨book, hFollows⟩ := run.exists_book k
  obtain ⟨q, recs, hHosts, -⟩ := (hFollows.booked m).pending hQueue
  suffices hLast : ∃ q' recs', Hosts (run.ledger n k) q' recs' ∧ Framed q q' by
    obtain ⟨q', recs', hHosts', hFramed⟩ := hLast
    exact ⟨q, q', hHosts.openQueue_eq, hHosts'.openQueue_eq, hFramed⟩
  clear hSame
  induction n, hmn using Nat.le_induction with
  | base => exact ⟨q, recs, hHosts, .refl q⟩
  | succ n hmn ih =>
    obtain ⟨q', recs', hHosts', hFramed⟩ := ih fun i hi hin => hSilent i hi (Nat.lt_succ_of_lt hin)
    obtain ⟨q'', recs'', hHosts'', hStep⟩ := (hSilent n hmn (Nat.lt_succ_self n)).hosts hHosts'
    exact ⟨q'', recs'', hHosts'', hFramed.trans hStep⟩

theorem Sample.seeds_of_queueKey {seeds : List (List UInt8)} (h : (runtime.findProgramAddress seeds ID).1 = queueKey) :
    seeds = [QUEUE, oracle.toList, [0]] := by
  change ((derivations.lookup (seeds, ID)).getD (elsewhere seeds, 255)).1 = queueKey at h
  cases hLookup : derivations.lookup (seeds, ID) with
  | some found =>
    rw [hLookup] at h
    have hTable : ∀ entry ∈ derivations, entry.2.1 = queueKey → entry.1.1 = [QUEUE, oracle.toList, [0]] := by
      decide +kernel
    exact hTable _ (mem_of_lookup hLookup) h
  | none =>
    rw [hLookup] at h
    have hTail : queueKey.toList.tail ≠ List.replicate 31 255 := by decide +kernel
    exact absurd (congrArg (fun k : Pubkey => k.toList.tail) h).symm hTail

/-- A request arrives and time passes. -/
theorem queue_needs_oracle_requesting :
    ∃ q q', openQueue (Sample.run.ledger 3) Sample.queueKey = .ok q ∧
      openQueue (Sample.run.ledger 5) Sample.queueKey = .ok q' ∧ Framed q q' := by
  have hSilent (i : Nat) (hLow : 3 ≤ i) (hHigh : i < 5) : Sample.run.OracleSilent Sample.queueKey i := by
    rintro accounts data identity index hEvent hk ⟨a, hMem, hSigner, rfl⟩
    have hSeeds := Sample.seeds_of_queueKey hk.symm
    have hOracle : a.key = Sample.oracle := Subtype.ext (List.cons.inj (List.cons.inj hSeeds).2).1
    obtain rfl | rfl : i = 3 ∨ i = 4 := by omega
    · cases hEvent
      have hOthers : ∀ a ∈ [Sample.signer Sample.payer, Sample.signer Sample.programIdentity,
          Sample.writable Sample.queueKey, Sample.writable systemProgramId, Sample.writable slotHashesId],
          a.isSigner = true → a.key ≠ Sample.oracle := by decide +kernel
      exact hOthers a hMem hSigner hOracle
    · cases hEvent
  exact (queue_needs_oracle Sample.run Sample.queueKey (by decide : 3 ≤ 5) hSilent).2
    ⟨by decide +kernel, by decide +kernel⟩

end SolanaVrf
