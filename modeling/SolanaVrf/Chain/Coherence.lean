import SolanaVrf.Chain.Registry
import SolanaVrf.Chain.Bodies

/-! # The registry and the oracles' accounts

The registry account lists the oracles, and each listed oracle has an account of its own.
Neither adding nor removing looks an identity up in the list: what keeps the two in step is
that an oracle's account cannot be created twice and is closed on removal.
-/

namespace SolanaVrf
set_option autoImplicit false

open Pod Slices Fallible Transition AccountInfoValidation

variable {rt : Runtime} {clock : Clock} {l l' : Ledger} {accounts : List AccountInfo} {data : List UInt8}
  {receipt : Receipt}

/-! ## One instruction on the registry -/

/-- The account holds exactly this list, in exactly the space it takes. -/
structure Records (env : Environment) (a : Account) (oracles : Oracles) : Prop where
  bytes : oracles.toBytesWithDiscriminator = .ok a.data
  length : a.data.length = oracles.sizeWithDiscriminator
  rent : a.lamports = env.minimumBalance oracles.sizeWithDiscriminator

inductive RegistryStep (rt : Runtime) (l l' : Ledger) : Receipt → Prop
  | still {receipt : Receipt} (hAdd : ∀ o key, receipt ≠ .registered o key) (hRemove : ∀ o, receipt ≠ .unregistered o)
      (h : ExternalAt rt.toEnvironment rt.oraclesPda.1 (l rt.oraclesPda.1) (l' rt.oraclesPda.1)) :
      RegistryStep rt l l' receipt
  | initialized (hBefore : Unborn (l rt.oraclesPda.1)) (hOwner : (l' rt.oraclesPda.1).owner = ID)
      (hBytes : Oracles.toBytesWithDiscriminator ⟨[]⟩ = .ok (l' rt.oraclesPda.1).data) : RegistryStep rt l l' .other
  | registered {o : Pubkey} {key : Bytes 32} {oracles : Oracles}
      (hBefore : Oracles.tryFromBytesWithDiscriminator (l rt.oraclesPda.1).data = .ok oracles)
      (hOwned : (l rt.oraclesPda.1).owner = ID → (l' rt.oraclesPda.1).owner = ID)
      (hAfter : Records rt.toEnvironment (l' rt.oraclesPda.1) ⟨oracles.oracles ++ [o]⟩) :
      RegistryStep rt l l' (.registered o key)
  | unregistered {o : Pubkey} {oracles : Oracles}
      (hBefore : Oracles.tryFromBytesWithDiscriminator (l rt.oraclesPda.1).data = .ok oracles)
      (hOwned : (l rt.oraclesPda.1).owner = ID → (l' rt.oraclesPda.1).owner = ID)
      (hAfter : Records rt.toEnvironment (l' rt.oraclesPda.1) ⟨oracles.oracles.filter (· ≠ o)⟩) :
      RegistryStep rt l l' (.unregistered o)

theorem processInitialize_registry (h : processInitialize rt accounts l = .ok (l', receipt))
    (hSigners : Unforged rt.toEnvironment accounts) : RegistryStep rt l l' receipt := by
  obtain ⟨hInitialized, rfl⟩ := processInitialize_effect h hSigners
  refine .initialized hInitialized.before hInitialized.owner ?_
  obtain ⟨_, -, oracles, _, bytes, l₁, -, hKey, hBytes, -, rfl, -⟩ := processInitialize_eq_ok h
  rw [hKey, Ledger.setData_self]
  exact hBytes

theorem processModifyOracles_registry (h : processModifyOracles rt clock accounts data l = .ok (l', receipt))
    (hSigners : Unforged rt.toEnvironment accounts) : RegistryStep rt l l' receipt := by
  have hOwned : (l rt.oraclesPda.1).owner = ID → (l' rt.oraclesPda.1).owner = ID := by
    obtain ⟨args, ⟨-, hRegistered⟩ | ⟨-, hUnregistered⟩⟩ := processModifyOracles_effect h hSigners
    · exact hRegistered.owned
    · exact hUnregistered.owned
  obtain ⟨args, signer, hMem, oraclesInfo, _, _, oracles, oracles', bytes, l₁, l₂, -, hSigner, hKey, -, hOracles, hApply,
    hResize, hBytes, hOverwrite, rfl⟩ := processModifyOracles_eq_ok h
  have hne : oraclesInfo.key ≠ signer.key := hSigners.ne hMem hSigner ⟨_, hKey⟩
  have hResized := resizePda_effect hResize hne
  obtain ⟨_, hOverwrite⟩ := require_bind_eq_ok.mp hOverwrite
  cases hOverwrite
  have hRecords : Records rt.toEnvironment (l₂.setData oraclesInfo.key bytes rt.oraclesPda.1) oracles' := by
    rw [← hKey, Ledger.setData_self]
    exact ⟨hBytes, Oracles.length_toBytes hBytes, hResized.rent⟩
  rw [hKey] at hOracles
  obtain ⟨hOperation, -, rfl⟩ | ⟨hOperation, -, rfl⟩ := applyOperation_eq_ok hApply
  · rw [if_pos hOperation]
    exact .registered hOracles hOwned hRecords
  · rw [if_neg hOperation]
    exact .unregistered hOracles hOwned hRecords

/-! ## No panic

Every helper reports its failures as errors; only the final copy could panic.
-/

section

variable {payer target systemProgram : AccountInfo} {space amount : Nat} {seeds : List (List UInt8)} {k : Pubkey}

theorem Ledger.credit_avoids : Avoids .panicked (l.credit k amount) :=
  avoids_require_bind nofun fun _ => avoids_ok _

theorem Ledger.resize_avoids : Avoids .panicked (l.resize k space) :=
  avoids_require_bind nofun fun _ => avoids_ok _

theorem System.transfer_avoids : Avoids .panicked (System.transfer payer target systemProgram amount l) :=
  avoids_require_bind nofun fun _ => avoids_require_bind nofun fun _ =>
    avoids_require_bind nofun fun _ => avoids_require_bind nofun fun _ => Ledger.credit_avoids

theorem System.allocate_avoids : Avoids .panicked (System.allocate rt target systemProgram space seeds l) :=
  avoids_require_bind nofun fun _ => avoids_require_bind nofun fun _ =>
    avoids_require_bind nofun fun _ => avoids_require_bind nofun fun _ => avoids_ok _

theorem System.assign_avoids {owner : Pubkey} :
    Avoids .panicked (System.assign rt target systemProgram owner seeds l) :=
  avoids_require_bind nofun fun _ => avoids_require_bind nofun fun _ =>
    avoids_require_bind nofun fun _ => avoids_ok _

theorem createOrAllocate_avoids : Avoids .panicked (createOrAllocate rt target space seeds systemProgram payer l) := by
  unfold createOrAllocate
  split
  · exact avoids_require_bind nofun fun _ => System.allocate_avoids.bind fun _ _ =>
      System.assign_avoids.bind fun _ _ => System.transfer_avoids
  · refine Avoids.bind ?_ fun _ _ => System.allocate_avoids.bind fun _ _ => System.assign_avoids
    unfold topUp
    dsimp only
    split
    · exact System.transfer_avoids
    · exact avoids_ok _

theorem resizePda_avoids : Avoids .panicked (resizePda rt payer target systemProgram space l) := by
  refine Avoids.bind ?_ fun _ _ => Ledger.resize_avoids
  unfold settleRent
  dsimp only
  split
  · exact System.transfer_avoids
  · exact Ledger.credit_avoids

theorem PodAccount.tryFromBytes_avoids {α : Type} (T : PodAccount α) : Avoids .panicked (T.tryFromBytes data) :=
  avoids_require_bind nofun fun _ => avoids_okOr nofun

theorem applyOperation_avoids {args : ModifyOracle} {oracleDataInfo signerInfo : AccountInfo} {oracles : Oracles} :
    Avoids .panicked (applyOperation rt clock args oracleDataInfo systemProgram signerInfo oracles l) := by
  unfold applyOperation
  split
  · refine Avoids.bind (Avoids.bind ?_ fun _ _ => ?_) fun _ _ => avoids_ok _
    · exact createOrAllocate_avoids.bind fun _ _ => avoids_ok _
    · refine Avoids.bind ?_ fun _ _ => avoids_ok _
      exact avoids_require_bind nofun fun _ => avoids_require_bind nofun fun _ =>
        avoids_require_bind nofun fun _ => Oracle.account.tryFromBytes_avoids
  · split
    · refine Avoids.bind (Avoids.bind ?_ fun _ _ => ?_) fun _ _ => avoids_ok _
      · exact avoids_require_bind nofun fun _ => avoids_require_bind nofun fun _ =>
          Oracle.account.tryFromBytes_avoids
      · exact avoids_require_bind nofun fun _ => avoids_require_bind nofun fun _ =>
          Ledger.credit_avoids.bind fun _ _ => Ledger.resize_avoids
    · exact avoids_error nofun

theorem checkAdmin_avoids {signerInfo programDataInfo : AccountInfo} :
    Avoids .panicked (checkAdmin rt signerInfo programDataInfo l) := by
  refine Avoids.bind ?_ fun _ _ => Avoids.bind (avoids_okOr nofun) fun _ _ => avoids_require nofun
  refine avoids_require_bind nofun fun _ => Avoids.bind (avoids_okOr nofun) fun state _ => ?_
  cases state with
  | programData authority => exact avoids_ok _
  | other => exact avoids_error nofun

theorem overwrite_avoids {oracles : Oracles} {bytes : List UInt8} {l₁ : Ledger} (hne : target.key ≠ payer.key)
    (hResize : resizePda rt payer target systemProgram oracles.sizeWithDiscriminator l = .ok l₁)
    (hBytes : oracles.toBytesWithDiscriminator = .ok bytes) : Avoids .panicked (overwrite l₁ target.key bytes) := by
  have hRoom : (l₁ target.key).data.length = bytes.length := by
    rw [(resizePda_effect hResize hne).data, List.length_append, List.length_take, List.length_replicate,
      Oracles.length_toBytes hBytes]
    omega
  rw [overwrite, require_of hRoom, bind_ok]
  exact avoids_ok _

end

theorem processModifyOracles_avoids (hSigners : Unforged rt.toEnvironment accounts) :
    Avoids .panicked (processModifyOracles rt clock accounts data l) := by
  refine Avoids.bind (avoids_okOr nofun) fun args _ => Avoids.bind ?_ fun _ _ => ?_
  · exact avoids_require_bind nofun fun _ => avoids_require nofun
  · split
    · rename_i signerInfo oraclesInfo oracleDataInfo programDataInfo systemProgram
      refine avoids_require_bind nofun fun hSigner => ?_
      refine checkAdmin_avoids.bind fun _ _ => avoids_require_bind nofun fun _ => ?_
      refine avoids_require_bind nofun fun hSeeds => ?_
      have hne : oraclesInfo.key ≠ signerInfo.key := hSigners.ne (by simp) hSigner ⟨_, hSeeds⟩
      refine avoids_require_bind nofun fun _ => avoids_require_bind nofun fun _ => Avoids.bind ?_ fun _ _ => ?_
      · exact avoids_require_bind nofun fun _ => avoids_require_bind nofun fun _ => avoids_okOr nofun
      · refine applyOperation_avoids.bind fun _ _ => resizePda_avoids.bind fun l₁ hResize => ?_
        refine Avoids.bind (avoids_require_bind nofun fun _ => avoids_ok _) fun bytes hBytes => ?_
        exact (overwrite_avoids hne hResize hBytes).bind fun _ _ => avoids_ok _
    · exact avoids_error nofun

/-! ## Every instruction -/

/-- A call that creates a queue is not signed by an oracle one of whose queues has the registry's address. -/
def QueuesApart (env : Environment) (accounts : List AccountInfo) (data : List UInt8) : Prop :=
  ∀ rest, parseInstruction8 ID data = .ok (.initializeOracleQueue, rest) →
    ∀ a ∈ accounts, a.isSigner = true → ∀ i, (env.oracleQueuePda a.key i).1 ≠ env.oraclesPda.1

theorem processInstruction_registry (h : processInstruction rt clock ID accounts data l = .ok (l', receipt))
    (hSigners : Unforged rt.toEnvironment accounts) (hQueues : QueuesApart rt.toEnvironment accounts data)
    (hQueue : ¬IsQueue (l rt.oraclesPda.1)) (hOracle : ∀ o, ¬IsOracle (l rt.oraclesPda.1) o) :
    RegistryStep rt l l' receipt := by
  obtain ⟨⟨ix, rest⟩, hParse, h⟩ := bind_eq_ok.mp h
  -- what is a queue or an oracle is not the registry
  have hne {k : Pubkey} (hIs : IsQueue (l k)) : rt.oraclesPda.1 ≠ k := by
    rintro rfl
    exact hQueue hIs
  have hne' {k : Pubkey} {o : Oracle} (hIs : IsOracle (l k) o) : rt.oraclesPda.1 ≠ k := by
    rintro rfl
    exact hOracle o hIs
  have hRequest {highPriority isScoped : Bool}
      (h : processRequestRandomness rt clock accounts rest highPriority isScoped l = .ok (l', receipt)) :
      RegistryStep rt l l' receipt := by
    obtain ⟨acc, rfl, -, -, hRequested⟩ := processRequestRandomness_effect h
    exact .still nofun nofun (hRequested.others _ (hne hRequested.isQueue))
  cases ix with
  | initializeProgram => exact processInitialize_registry h hSigners
  | modifyOracle => exact processModifyOracles_registry h hSigners
  | initializeOracleQueue =>
    obtain ⟨identity, index, ⟨a, hMem, hSigner, rfl⟩, ⟨rfl, hGrown⟩ | ⟨rfl, hOpened, -⟩⟩ :=
      processInitializeOracleQueue_effect h hSigners
    · exact .still nofun nofun (hGrown.others _ (hQueues rest hParse a hMem hSigner index).symm)
    · obtain ⟨o, hIs, -⟩ := hOpened.counted
      exact .still nofun nofun (hOpened.others _ (hQueues rest hParse a hMem hSigner index).symm (hne' hIs))
  | requestHighPriorityRandomness => exact hRequest h
  | requestRandomness => exact hRequest h
  | requestHighPriorityRandomnessScoped => exact hRequest h
  | requestRandomnessScoped => exact hRequest h
  | provideRandomness =>
    obtain ⟨p, paid, rfl, hProvided⟩ := processProvideRandomness_effect h
    exact .still nofun nofun (hProvided.others (hne hProvided.isQueue))
  | delegateOracleQueue =>
    obtain ⟨identity, index, hDelegated, rfl⟩ := processDelegateOracleQueue_effect h
    exact .still nofun nofun (hDelegated.delegates.others _ (hne hDelegated.isQueue))
  | closeOracleQueue =>
    obtain ⟨identity, index, hClosed, rfl⟩ := processCloseOracleQueue_effect h
    obtain ⟨o, hIs, -⟩ := hClosed.counted
    exact .still nofun nofun (hClosed.others _ (hne hClosed.isQueue) (hne' hIs))
  | purgeExpiredRequests =>
    obtain ⟨queue, oracle, paid, rfl, hPurged⟩ := processPurgeExpiredRequests_effect h
    exact .still nofun nofun (hPurged.others _ (hne hPurged.isQueue))
  | setQueuePaused =>
    obtain ⟨rfl, queue, hPaused⟩ := processSetQueuePaused_effect h
    refine .still nofun nofun ?_
    rw [hPaused.others _ (hne hPaused.isQueue)]
    exact .refl _

/-- An oracle's account comes and goes only with its registration. -/
theorem Effect.presence_iff (h : Effect rt clock l receipt l') {k : Pubkey}
    (hAdd : ∀ o key, receipt = .registered o key → k ≠ (rt.oracleDataPda o).1)
    (hRemove : ∀ o, receipt = .unregistered o → k ≠ (rt.oracleDataPda o).1) :
    (∃ orc, IsOracle (l' k) orc) ↔ ∃ orc, IsOracle (l k) orc := by
  by_cases hOther : ∀ o, receipt.identity? = some o → k ≠ (rt.oracleDataPda o).1
  · exact exists_congr ((h.change k).isOracle_iff hOther)
  · push Not at hOther
    obtain ⟨o, hNamed, rfl⟩ := hOther
    cases h with
    | registered h =>
      cases hNamed
      exact absurd rfl (hAdd _ _ rfl)
    | unregistered h =>
      cases hNamed
      exact absurd rfl (hRemove _ rfl)
    | opened h =>
      cases hNamed
      obtain ⟨orc, hIs, hIs'⟩ := h.counted
      exact iff_of_true ⟨_, hIs'⟩ ⟨_, hIs⟩
    | closed h =>
      cases hNamed
      obtain ⟨orc, hIs, hIs'⟩ := h.counted
      exact iff_of_true ⟨_, hIs'⟩ ⟨_, hIs⟩
    | _ => cases hNamed

/-! ## Coherence -/

structure Bare (env : Environment) (S : Set Pubkey) (l : Ledger) : Prop where
  unborn : Unborn (l env.oraclesPda.1)
  absent : ∀ o ∈ S, ¬∃ orc, IsOracle (l (env.oracleDataPda o).1) orc

/-- The list names each oracle of `S` that has an account, once. -/
structure Coherent (env : Environment) (S : Set Pubkey) (l : Ledger) (oracles : Oracles) : Prop where
  owner : (l env.oraclesPda.1).owner = ID
  bytes : oracles.toBytesWithDiscriminator = .ok (l env.oraclesPda.1).data
  nodup : oracles.oracles.Nodup
  mem_iff : ∀ o ∈ S, o ∈ oracles.oracles ↔ ∃ orc, IsOracle (l (env.oracleDataPda o).1) orc

section

variable {S : Set Pubkey} {oracles : Oracles}

theorem Coherent.decodes {env : Environment} (h : Coherent env S l oracles) :
    Oracles.tryFromBytesWithDiscriminator (l env.oraclesPda.1).data = .ok oracles :=
  Oracles.tryFromBytes_toBytes h.bytes

theorem Coherent.not_queue {env : Environment} (h : Coherent env S l oracles) : ¬IsQueue (l env.oraclesPda.1) := by
  intro hQueue
  have hTag := hQueue.head
  rw [headD_of_take (Oracles.tryFromBytes_take h.decodes).2] at hTag
  cases hTag

theorem Coherent.not_oracle {env : Environment} (h : Coherent env S l oracles) (o : Oracle) :
    ¬IsOracle (l env.oraclesPda.1) o :=
  not_oracle_of_registry (Oracles.tryFromBytes_take h.decodes).2 o

theorem Coherent.external {env : Environment} (h : Coherent env S l oracles) (hExternal : External env l l') :
    Coherent env S l' oracles := by
  obtain ⟨hOwner, hData, -⟩ := (hExternal _).owned h.owner
  refine ⟨hOwner, by rw [hData]; exact h.bytes, h.nodup, fun o ho => (h.mem_iff o ho).trans ?_⟩
  exact exists_congr fun _ => (hExternal _).isOracle_iff.symm

theorem Bare.external {env : Environment} (h : Bare env S l) (hExternal : External env l l') : Bare env S l' := by
  obtain ⟨hOwner, hData⟩ := (hExternal _).unborn (Or.inl rfl) h.unborn.1
  refine ⟨⟨hOwner, hData.trans h.unborn.2⟩, fun o ho => ?_⟩
  rw [exists_congr fun _ => (hExternal _).isOracle_iff]
  exact h.absent o ho

theorem Bare.step (h : Bare rt.toEnvironment S l) (hStep : RegistryStep rt l l' receipt)
    (hEffect : Effect rt clock l receipt l') :
    Bare rt.toEnvironment S l' ∨ Coherent rt.toEnvironment S l' ⟨[]⟩ := by
  have hUnread {oracles : Oracles} :
      Oracles.tryFromBytesWithDiscriminator (l rt.oraclesPda.1).data ≠ .ok oracles := by
    intro hDecode
    have hLength := (Oracles.tryFromBytes_take hDecode).1
    rw [h.unborn.2] at hLength
    cases hLength
  cases hStep with
  | still hAdd hRemove hExternal =>
    obtain ⟨hOwner, hData⟩ := hExternal.unborn (Or.inl rfl) h.unborn.1
    refine Or.inl ⟨⟨hOwner, hData.trans h.unborn.2⟩, fun o ho => ?_⟩
    rw [hEffect.presence_iff (fun o key hEq => absurd hEq (hAdd o key)) fun o hEq => absurd hEq (hRemove o)]
    exact h.absent o ho
  | initialized _ hOwner hBytes =>
    refine Or.inr ⟨hOwner, hBytes, List.nodup_nil, fun o ho => ?_⟩
    rw [hEffect.presence_iff nofun nofun]
    exact iff_of_false List.not_mem_nil (h.absent o ho)
  | registered hBefore _ _ => exact absurd hBefore hUnread
  | unregistered hBefore _ _ => exact absurd hBefore hUnread

theorem Coherent.step (h : Coherent rt.toEnvironment S l oracles) (hStep : RegistryStep rt l l' receipt)
    (hEffect : Effect rt clock l receipt l') (hApart : Set.InjOn (fun o => (rt.oracleDataPda o).1) S)
    (hNamed : ∀ o, receipt.identity? = some o → o ∈ S) : ∃ oracles', Coherent rt.toEnvironment S l' oracles' := by
  cases hStep with
  | still hAdd hRemove hExternal =>
    obtain ⟨hOwner, hData, -⟩ := hExternal.owned h.owner
    refine ⟨oracles, hOwner, by rw [hData]; exact h.bytes, h.nodup, fun o ho => (h.mem_iff o ho).trans ?_⟩
    exact (hEffect.presence_iff (fun o key hEq => absurd hEq (hAdd o key))
      fun o hEq => absurd hEq (hRemove o)).symm
  | initialized hBefore _ _ => exact absurd (h.owner.symm.trans hBefore.1) (by decide)
  | @registered o key _ hBefore hOwned hAfter =>
    obtain rfl := Except.ok.inj (h.decodes.symm.trans hBefore)
    have ho : o ∈ S := hNamed o rfl
    -- the account could not have been created had it existed
    have hNew : o ∉ oracles.oracles ∧ ∃ orc, IsOracle (l' (rt.oracleDataPda o).1) orc := by
      cases hEffect with
      | registered hRegistered =>
        refine ⟨fun hMem => ?_, _, hRegistered.present⟩
        obtain ⟨orc, hIs⟩ := (h.mem_iff _ ho).mp hMem
        exact not_oracle_of_zero hRegistered.absent.zeroed orc hIs
    refine ⟨_, hOwned h.owner, hAfter.bytes, List.nodup_append_comm.mp (List.nodup_cons.mpr ⟨hNew.1, h.nodup⟩),
      fun o' ho' => ?_⟩
    rw [List.mem_append, List.mem_singleton]
    by_cases hSame : o' = o
    · subst hSame
      exact iff_of_true (Or.inr rfl) hNew.2
    · rw [or_iff_left hSame, h.mem_iff o' ho']
      refine (hEffect.presence_iff (fun o₁ key₁ hEq => ?_) nofun).symm
      cases hEq
      exact fun hk => hSame (hApart ho' ho hk)
  | @unregistered o _ hBefore hOwned hAfter =>
    obtain rfl := Except.ok.inj (h.decodes.symm.trans hBefore)
    have ho : o ∈ S := hNamed o rfl
    have hGone : ¬∃ orc, IsOracle (l' (rt.oracleDataPda o).1) orc := by
      cases hEffect with
      | unregistered hUnregistered => exact fun ⟨orc, hIs⟩ => not_oracle_of_zero hUnregistered.absent.zeroed orc hIs
    refine ⟨_, hOwned h.owner, hAfter.bytes, h.nodup.filter _, fun o' ho' => ?_⟩
    rw [List.mem_filter, decide_eq_true_iff]
    by_cases hSame : o' = o
    · subst hSame
      exact iff_of_false (fun hMem => hMem.2 rfl) hGone
    · rw [and_iff_left hSame, h.mem_iff o' ho']
      refine (hEffect.presence_iff nofun fun o₁ hEq => ?_).symm
      cases hEq
      exact fun hk => hSame (hApart ho' ho hk)

end

/-! ## Along a run -/

namespace ChainRun

variable (run : ChainRun rt)

def Initializes (s : Nat) : Prop :=
  ∃ accounts data rest receipt, run.event s = .call accounts data ∧
    parseInstruction8 ID data = .ok (.initializeProgram, rest) ∧ run.receipt s = some receipt

theorem owner_of_initializes {s : Nat} (h : run.Initializes s) : (run.ledger (s + 1) rt.oraclesPda.1).owner = ID := by
  obtain ⟨accounts, data, rest, receipt, hEvent, hParse, hReceipt⟩ := h
  obtain ⟨accounts', data', hEvent', hSigners, hCall⟩ := run.call_of_receipt hReceipt
  rw [hEvent] at hEvent'
  cases hEvent'
  rw [processInstruction, hParse, bind_ok] at hCall
  exact (processInitialize_effect hCall hSigners).1.owner

theorem registry_step (hQueues : ∀ n accounts data, run.event n = .call accounts data →
      QueuesApart rt.toEnvironment accounts data) {n : Nat} {receipt : Receipt} (hReceipt : run.receipt n = some receipt)
    (hQueue : ¬IsQueue (run.ledger n rt.oraclesPda.1)) (hOracle : ∀ o, ¬IsOracle (run.ledger n rt.oraclesPda.1) o) :
    RegistryStep rt (run.ledger n) (run.ledger (n + 1)) receipt := by
  obtain ⟨accounts, data, hEvent, hSigners, hCall⟩ := run.call_of_receipt hReceipt
  exact processInstruction_registry hCall hSigners (hQueues n accounts data hEvent) hQueue hOracle

variable {S : Set Pubkey} (hNamed : run.identities ⊆ S) (hApart : Set.InjOn (fun o => (rt.oracleDataPda o).1) S)
  (hQueues : ∀ n accounts data, run.event n = .call accounts data → QueuesApart rt.toEnvironment accounts data)

include hNamed hApart hQueues

theorem coherent_succ {n : Nat} {oracles : Oracles} (h : Coherent rt.toEnvironment S (run.ledger n) oracles) :
    ∃ oracles', Coherent rt.toEnvironment S (run.ledger (n + 1)) oracles' := by
  obtain ⟨receipt, hReceipt, hEffect⟩ | ⟨-, hExternal⟩ := run.step_cases n
  · exact h.step (run.registry_step hQueues hReceipt h.not_queue h.not_oracle) hEffect hApart
      fun o ho => hNamed ⟨n, receipt, hReceipt, ho⟩
  · exact ⟨oracles, h.external hExternal⟩

theorem bare_or_coherent (n : Nat) : Bare rt.toEnvironment S (run.ledger n) ∨
    ∃ oracles, Coherent rt.toEnvironment S (run.ledger n) oracles := by
  induction n with
  | zero =>
    refine Or.inl ⟨run.initial.reserved _ (Or.inl rfl), fun o _ ⟨orc, hIs⟩ => ?_⟩
    exact not_oracle_of_zero (run.initial.reserved _ (Or.inr (Or.inl ⟨o, rfl⟩))).zeroed orc hIs
  | succ n ih =>
    obtain hBare | ⟨oracles, hCoherent⟩ := ih
    · obtain ⟨receipt, hReceipt, hEffect⟩ | ⟨-, hExternal⟩ := run.step_cases n
      · exact (hBare.step (run.registry_step hQueues hReceipt hBare.unborn.not_queue
          (not_oracle_of_zero hBare.unborn.zeroed)) hEffect).imp_right fun hCoherent => ⟨_, hCoherent⟩
      · exact Or.inl (hBare.external hExternal)
    · exact Or.inr (run.coherent_succ hNamed hApart hQueues hCoherent)

theorem coherent_of_initializes {s n : Nat} (hStart : run.Initializes s) (hn : s < n) :
    ∃ oracles, Coherent rt.toEnvironment S (run.ledger n) oracles := by
  induction n, hn using Nat.le_induction with
  | base =>
    have hOwner := run.owner_of_initializes hStart
    obtain hBare | hCoherent := run.bare_or_coherent hNamed hApart hQueues (s + 1)
    · exact absurd (hBare.unborn.1.symm.trans hOwner) (by decide)
    · exact hCoherent
  | succ n _ ih =>
    obtain ⟨oracles, hCoherent⟩ := ih
    exact run.coherent_succ hNamed hApart hQueues hCoherent

end ChainRun

/-- Once the program is initialised the registry decodes to a list without duplicates that names
exactly the oracles with an account. A registration appends to it, a removal takes out that one
identity, each leaves the account of the size and with the rent of the new list, and no call of
`modify_oracles` panics. -/
theorem registry_coherence (rt : Runtime) (run : ChainRun rt) (S : Set Pubkey) (hNamed : run.identities ⊆ S)
    (hApart : Set.InjOn (fun o => (rt.oracleDataPda o).1) S)
    (hQueues : ∀ n accounts data, run.event n = .call accounts data → QueuesApart rt.toEnvironment accounts data)
    (s n : Nat) (hStart : run.Initializes s) (hn : s < n) :
    ∃ oracles, Oracles.tryFromBytesWithDiscriminator (run.ledger n rt.oraclesPda.1).data = .ok oracles ∧
      oracles.oracles.Nodup ∧
      (∀ o ∈ S, o ∈ oracles.oracles ↔ ∃ orc, IsOracle (run.ledger n (rt.oracleDataPda o).1) orc) ∧
      (∀ o key, run.receipt n = some (.registered o key) →
        Records rt.toEnvironment (run.ledger (n + 1) rt.oraclesPda.1) ⟨oracles.oracles ++ [o]⟩ ∧
        Oracles.tryFromBytesWithDiscriminator (run.ledger (n + 1) rt.oraclesPda.1).data =
          .ok ⟨oracles.oracles ++ [o]⟩) ∧
      (∀ o, run.receipt n = some (.unregistered o) →
        Records rt.toEnvironment (run.ledger (n + 1) rt.oraclesPda.1) ⟨oracles.oracles.filter (· ≠ o)⟩ ∧
        Oracles.tryFromBytesWithDiscriminator (run.ledger (n + 1) rt.oraclesPda.1).data =
          .ok ⟨oracles.oracles.filter (· ≠ o)⟩) ∧
      ∀ clock accounts data, Unforged rt.toEnvironment accounts →
        processModifyOracles rt clock accounts data (run.ledger n) ≠ .error .panicked := by
  obtain ⟨oracles, hCoherent⟩ := run.coherent_of_initializes hNamed hApart hQueues hStart hn
  have hStep {receipt : Receipt} (hReceipt : run.receipt n = some receipt) :=
    run.registry_step hQueues hReceipt hCoherent.not_queue hCoherent.not_oracle
  refine ⟨oracles, hCoherent.decodes, hCoherent.nodup, hCoherent.mem_iff, ?_, ?_, ?_⟩
  · intro o key hReceipt
    cases hStep hReceipt with
    | still hAdd _ _ => exact absurd rfl (hAdd o key)
    | registered hBefore _ hAfter =>
      obtain rfl := Except.ok.inj (hCoherent.decodes.symm.trans hBefore)
      exact ⟨hAfter, Oracles.tryFromBytes_toBytes hAfter.bytes⟩
  · intro o hReceipt
    cases hStep hReceipt with
    | still _ hRemove _ => exact absurd rfl (hRemove o)
    | unregistered hBefore _ hAfter =>
      obtain rfl := Except.ok.inj (hCoherent.decodes.symm.trans hBefore)
      exact ⟨hAfter, Oracles.tryFromBytes_toBytes hAfter.bytes⟩
  · intro clock accounts data hSigners
    exact processModifyOracles_avoids hSigners

namespace Sample

theorem seeds_of_oraclesKey {seeds : List (List UInt8)}
    (h : ((runtimeWith [] []).findProgramAddress seeds ID).1 = oraclesKey) : seeds = [ORACLES] := by
  change (((derivations ++ []).lookup (seeds, ID)).getD (elsewhere seeds, 255)).1 = oraclesKey at h
  cases hLookup : (derivations ++ []).lookup (seeds, ID) with
  | some found =>
    rw [hLookup] at h
    have hTable : ∀ entry ∈ derivations ++ [], entry.2.1 = oraclesKey → entry.1.1 = [ORACLES] := by decide +kernel
    exact hTable _ (mem_of_lookup hLookup) h
  | none =>
    rw [hLookup] at h
    have hTail : oraclesKey.toList.tail ≠ List.replicate 31 255 := by decide +kernel
    exact absurd (congrArg (fun k : Pubkey => k.toList.tail) h).symm hTail

def modify (operation : UInt8) : Event :=
  .call [signer payer, writable oraclesKey, writable oracleDataKey, writable programData, writable systemProgramId]
    (instructionData .modifyOracle (ModifyOracle.layout.encode ⟨oracle, vrfPubkey, operation⟩))

/-- Repeated registrations and removals, some of them refused. -/
def registrations : ChainRun (runtimeWith [] []) :=
  runWith table_nil (events.take 1 ++ [modify 0, modify 0, modify 7, modify 1, modify 1, modify 0]) Sample.clock
    (by decide +kernel)

def registrationReceipts : List (Option Receipt) :=
  [some .other, some (.registered oracle vrfPubkey), none, none, some (.unregistered oracle), none,
    some (.registered oracle vrfPubkey)]

theorem registrations_receipt : ∀ n, registrations.receipt n = (registrationReceipts[n]?).join
  | 0 => by decide +kernel
  | 1 => by decide +kernel
  | 2 => by decide +kernel
  | 3 => by decide +kernel
  | 4 => by decide +kernel
  | 5 => by decide +kernel
  | 6 => by decide +kernel
  | _ + 7 => rfl

theorem registrations_identities : registrations.identities ⊆ {oracle} :=
  ChainRun.identities_subset registrations_receipt (by decide +kernel)

end Sample

theorem registry_coherence_registrations :
    ∃ oracles, Sample.oracle ∈ oracles.oracles ∧
      Oracles.tryFromBytesWithDiscriminator (Sample.registrations.ledger 4 Sample.oraclesKey).data = .ok oracles ∧
      Records (Sample.environmentWith [] []) (Sample.registrations.ledger 5 Sample.oraclesKey)
        ⟨oracles.oracles.filter (· ≠ Sample.oracle)⟩ := by
  have hKey : (Sample.runtimeWith [] []).oraclesPda.1 = Sample.oraclesKey := by decide +kernel
  have hStart : Sample.registrations.Initializes 0 :=
    ⟨_, _, [], .other, rfl, by decide +kernel, Sample.registrations_receipt 0⟩
  have hQueues (n : Nat) (accounts : List AccountInfo) (data : List UInt8)
      (_ : Sample.registrations.event n = .call accounts data) :
      QueuesApart (Sample.runtimeWith [] []).toEnvironment accounts data := by
    intro rest _ a _ _ i hEq
    cases Sample.seeds_of_oraclesKey (hEq.trans hKey)
  obtain ⟨oracles, hDecodes, -, hMem, -, hRemoved, -⟩ := registry_coherence (Sample.runtimeWith [] [])
    Sample.registrations {Sample.oracle} Sample.registrations_identities (Set.injOn_singleton _ _) hQueues 0 4 hStart
    (by decide)
  have hOracle : ∃ orc, IsOracle (Sample.registrations.ledger 4
      ((Sample.runtimeWith [] []).oracleDataPda Sample.oracle).1) orc :=
    ⟨⟨Sample.vrfPubkey, 100, 0⟩, by decide +kernel, by decide +kernel, by decide +kernel, by decide +kernel⟩
  rw [hKey] at hDecodes hRemoved
  exact ⟨oracles, (hMem _ rfl).mpr hOracle, hDecodes, (hRemoved _ (Sample.registrations_receipt 4)).1⟩

end SolanaVrf
