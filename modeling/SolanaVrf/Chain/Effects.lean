import SolanaVrf.Chain.Live

/-! # What one successful instruction does to the ledger

One structure per kind of instruction says which accounts it touches and how; every
other account changes only as foreign code could change it. `Effect` collects them, and
the invariants of later modules are proved from it without opening an instruction again.
-/

namespace SolanaVrf
set_option autoImplicit false

open Pod Slices Tiling Fallible AccountInfoValidation

variable {rt : Runtime} {clock : Clock} {l l' : Ledger}

structure IsOracle (a : Account) (o : Oracle) : Prop where
  owner : a.owner = ID
  tag : a.data.headD 0 = 1
  length : 8 ≤ a.data.length
  data : a.data.drop 8 = Oracle.layout.encode o

def Unborn (a : Account) : Prop := a.owner = systemProgramId ∧ a.data = []

/-- No signer of the instruction is an address of the program, which has no private key. -/
def Unforged (env : Environment) (accounts : List AccountInfo) : Prop :=
  ∀ a ∈ accounts, a.isSigner = true → ¬env.Derived a.key

theorem Unforged.ne {env : Environment} {accounts : List AccountInfo} (h : Unforged env accounts)
    {signer : AccountInfo} (hMem : signer ∈ accounts) (hSigner : signer.isSigner = true) {k : Pubkey}
    (hDerived : env.Derived k) : k ≠ signer.key := by
  rintro rfl
  exact h signer hMem hSigner hDerived

/-! ## Tags -/

theorem headD_of_take {data : List UInt8} {tag : AccountDiscriminator} (h : data.take 8 = tag.toBytes) :
    data.headD 0 = tag.toBytes.headD 0 := by
  cases data with
  | nil =>
    rw [← h]
    rfl
  | cons b rest =>
    rw [← h]
    rfl

theorem IsQueue.head {a : Account} (h : IsQueue a) : a.data.headD 0 = 3 := headD_of_take h.2

theorem headD_of_zero {data : List UInt8} (h : ∀ b ∈ data, b = 0) : data.headD 0 = 0 := by
  cases data with
  | nil => rfl
  | cons b rest => exact h b List.mem_cons_self

theorem IsOracle.not_queue {a : Account} {o : Oracle} (h : IsOracle a o) : ¬IsQueue a := by
  intro hQueue
  have hTag := hQueue.head
  rw [h.tag] at hTag
  cases hTag

theorem not_queue_of_zero {a : Account} (h : ∀ b ∈ a.data, b = 0) : ¬IsQueue a := by
  intro hQueue
  have hTag := hQueue.head
  rw [headD_of_zero h] at hTag
  cases hTag

theorem IsOracle.not_zero {a : Account} {o : Oracle} (h : IsOracle a o) : ¬∀ b ∈ a.data, b = 0 := by
  intro hZero
  have hTag := h.tag
  rw [headD_of_zero hZero] at hTag
  cases hTag

namespace ExternalAt

variable {env : Environment} {k : Pubkey} {a a' : Account}

theorem isQueue_iff (h : ExternalAt env k a a') : IsQueue a' ↔ IsQueue a := by
  constructor
  · intro hQueue
    by_cases hOwner : a.owner = ID
    · obtain ⟨-, hData, -⟩ := h.owned hOwner
      exact ⟨hOwner, by rw [← hData, hQueue.2]⟩
    · exact absurd hQueue (not_queue_of_zero (h.fresh hOwner hQueue.1))
  · intro hQueue
    obtain ⟨hOwner, hData, -⟩ := h.owned hQueue.1
    exact ⟨hOwner, by rw [hData, hQueue.2]⟩

theorem isOracle_iff (h : ExternalAt env k a a') {o : Oracle} : IsOracle a' o ↔ IsOracle a o := by
  constructor
  · intro hOracle
    by_cases hOwner : a.owner = ID
    · obtain ⟨-, hData, -⟩ := h.owned hOwner
      exact ⟨hOwner, by rw [← hData, hOracle.tag], by rw [← hData]; exact hOracle.length,
        by rw [← hData, hOracle.data]⟩
    · exact absurd (h.fresh hOwner hOracle.owner) hOracle.not_zero
  · intro hOracle
    obtain ⟨hOwner, hData, -⟩ := h.owned hOracle.owner
    exact ⟨hOwner, by rw [hData, hOracle.tag], by rw [hData]; exact hOracle.length, by rw [hData, hOracle.data]⟩

theorem pending (h : ExternalAt env k a a') {L : List Record} (hPending : Pending a L) : Pending a' L := by
  obtain ⟨hOwner, hData, -⟩ := h.owned hPending.isQueue.1
  exact hPending.congr (hOwner.trans hPending.isQueue.1.symm) hData

end ExternalAt

/-! ## The registry -/

structure Initialized (rt : Runtime) (l l' : Ledger) : Prop where
  before : Unborn (l rt.oraclesPda.1)
  owner : (l' rt.oraclesPda.1).owner = ID
  zeroed : ∀ b ∈ (l' rt.oraclesPda.1).data, b = 0
  others : ∀ k, k ≠ rt.oraclesPda.1 → ExternalAt rt.toEnvironment k (l k) (l' k)

theorem processInitialize_eq_ok {accounts : List AccountInfo} {receipt : Receipt}
    (h : processInitialize rt accounts l = .ok (l', receipt)) :
    ∃ signer ∈ accounts, ∃ oracles systemProgram bytes l₁, signer.isSigner = true ∧ oracles.key = rt.oraclesPda.1 ∧
      Oracles.toBytesWithDiscriminator ⟨[]⟩ = .ok bytes ∧
      createPda rt oracles bytes.length [ORACLES] rt.oraclesPda.2 systemProgram signer l = .ok l₁ ∧
      l' = l₁.setData oracles.key bytes ∧ receipt = .other := by
  unfold processInitialize at h
  split at h
  · rename_i signerInfo oraclesInfo systemProgram
    obtain ⟨hSigner, h⟩ := require_bind_eq_ok.mp h
    obtain ⟨_, h⟩ := require_bind_eq_ok.mp h
    obtain ⟨_, h⟩ := require_bind_eq_ok.mp h
    obtain ⟨hKey, h⟩ := require_bind_eq_ok.mp h
    obtain ⟨bytes, hBytes, h⟩ := bind_eq_ok.mp h
    obtain ⟨l₁, hCreate, h⟩ := bind_eq_ok.mp h
    obtain ⟨l₂, hOverwrite, h⟩ := bind_eq_ok.mp h
    cases h
    obtain ⟨_, hOverwrite⟩ := require_bind_eq_ok.mp hOverwrite
    cases hOverwrite
    exact ⟨signerInfo, by simp, oraclesInfo, systemProgram, bytes, l₁, hSigner, hKey, hBytes, hCreate, rfl, rfl⟩
  · cases h

theorem processInitialize_effect {accounts : List AccountInfo} {receipt : Receipt}
    (h : processInitialize rt accounts l = .ok (l', receipt)) (hSigners : Unforged rt.toEnvironment accounts) :
    Initialized rt l l' ∧ receipt = .other := by
  obtain ⟨signer, hMem, oracles, systemProgram, bytes, l₁, hSigner, hKey, hBytes, hCreate, rfl, rfl⟩ :=
    processInitialize_eq_ok h
  cases hBytes
  have hne : oracles.key ≠ signer.key := hSigners.ne hMem hSigner ⟨_, hKey⟩
  have hCreated := createOrAllocate_effect hCreate hne
  rw [hKey] at hCreated ⊢
  refine ⟨⟨⟨hCreated.unowned, hCreated.empty⟩, ?_, ?_, ?_⟩, rfl⟩
  · rw [Ledger.setData_self]
    exact hCreated.owner
  · rw [Ledger.setData_self]
    have hAll : ((AccountDiscriminator.oracles.toBytes ++ Oracles.codec.encode ⟨[]⟩).all fun b => b == 0) =
        true := by decide
    exact fun b hb => eq_of_beq (List.all_eq_true.mp hAll b hb)
  · intro k hk
    rw [Ledger.setData_of_ne _ hk]
    exact hCreated.others k hk

structure RegistryChange (rt : Runtime) (oracleData : Pubkey) (l l' : Ledger) : Prop where
  before : (l rt.oraclesPda.1).data.take 8 = AccountDiscriminator.oracles.toBytes
  after : (l' rt.oraclesPda.1).data.take 8 = AccountDiscriminator.oracles.toBytes
  owned : (l rt.oraclesPda.1).owner = ID → (l' rt.oraclesPda.1).owner = ID
  others : ∀ k, k ≠ rt.oraclesPda.1 → k ≠ oracleData → ExternalAt rt.toEnvironment k (l k) (l' k)

structure Registered (rt : Runtime) (clock : Clock) (args : ModifyOracle) (l l' : Ledger) : Prop
    extends RegistryChange rt (rt.oracleDataPda args.identity).1 l l' where
  onCurve : rt.validateEdwards args.identity = true
  absent : Unborn (l (rt.oracleDataPda args.identity).1)
  present : IsOracle (l' (rt.oracleDataPda args.identity).1) ⟨args.oraclePubkey, clock.slot, 0⟩

structure Unregistered (rt : Runtime) (args : ModifyOracle) (l l' : Ledger) : Prop
    extends RegistryChange rt (rt.oracleDataPda args.identity).1 l l' where
  drained : ∃ o, IsOracle (l (rt.oracleDataPda args.identity).1) o ∧ o.openQueues = 0
  absent : Unborn (l' (rt.oracleDataPda args.identity).1)

theorem Oracle.isOracle_of_asAccount {a : AccountInfo} {o : Oracle}
    (h : Oracle.account.asAccount l a ID = .ok o) : IsOracle (l a.key) o := by
  obtain ⟨hOwner, hTag, hLength, hData⟩ := Oracle.asAccount_eq_ok h
  exact ⟨hOwner, hTag, hLength, hData⟩

theorem Oracle.isOracle_of_asAccountMut {a : AccountInfo} {o : Oracle}
    (h : Oracle.account.asAccountMut l a ID = .ok o) : IsOracle (l a.key) o := by
  obtain ⟨hOwner, hTag, hLength, hData⟩ := Oracle.asAccountMut_eq_ok h
  exact ⟨hOwner, hTag, hLength, hData⟩

theorem IsOracle.length_eq {a : Account} {o : Oracle} (h : IsOracle a o) :
    a.data.length = 8 + Oracle.account.layout.size := by
  have hBody := congrArg List.length h.data
  rw [List.length_drop, Oracle.layout.length_encode] at hBody
  have hLength := h.length
  change _ = 8 + Oracle.layout.size
  omega

theorem IsOracle.tryFromBytes_eq {a : Account} {o : Oracle} (h : IsOracle a o) :
    Oracle.account.tryFromBytes a.data = .ok o := by
  have hHead : 8 ≤ a.data.length ∧ Oracle.account.discriminator.toU8 = a.data.headD 0 := ⟨h.length, h.tag.symm⟩
  rw [PodAccount.tryFromBytes, require_of hHead, bind_ok, h.data]
  exact congrArg (fun found => okOr found _) (Oracle.layout.tryFromBytes_encode o)

theorem IsOracle.asAccount_eq {a : AccountInfo} {o : Oracle} (h : IsOracle (l a.key) o) :
    Oracle.account.asAccount l a ID = .ok o := by
  rw [PodAccount.asAccount, hasOwner, require_of h.owner, bind_ok, require_of h.length_eq, bind_ok, h.tryFromBytes_eq]

theorem IsOracle.asAccountMut_eq {a : AccountInfo} {o : Oracle} (h : IsOracle (l a.key) o)
    (hWritable : a.isWritable = true) : Oracle.account.asAccountMut l a ID = .ok o := by
  rw [PodAccount.asAccountMut, hasOwner, require_of h.owner, bind_ok, isWritable, require_of hWritable, bind_ok,
    require_of h.length_eq, bind_ok, h.tryFromBytes_eq]

theorem IsOracle.store {a : AccountInfo} {o : Oracle} (h : IsOracle (l a.key) o) (o' : Oracle) :
    IsOracle (Oracle.account.store l a o' a.key) o' := by
  have hLength : ((l a.key).data.take 8).length = 8 := List.length_take_of_le h.length
  rw [PodAccount.store, Ledger.setData_self]
  refine ⟨h.owner, ?_, ?_, ?_⟩
  · have hTag := h.tag
    cases hData : (l a.key).data with
    | nil =>
      rw [hData] at hTag
      cases hTag
    | cons b rest =>
      rw [hData] at hTag
      exact hTag
  · rw [List.length_append]
    omega
  · exact List.drop_left' hLength

theorem addOracle_effect {args : ModifyOracle} {oracleDataInfo systemProgram signerInfo : AccountInfo}
    (h : addOracle rt clock args oracleDataInfo systemProgram signerInfo l = .ok l')
    (hne : oracleDataInfo.key ≠ signerInfo.key) :
    Unborn (l oracleDataInfo.key) ∧ IsOracle (l' oracleDataInfo.key) ⟨args.oraclePubkey, clock.slot, 0⟩ ∧
      ∀ k, k ≠ oracleDataInfo.key → ExternalAt rt.toEnvironment k (l k) (l' k) := by
  obtain ⟨l₁, hCreate, h⟩ := bind_eq_ok.mp h
  obtain ⟨o, hOracle, h⟩ := bind_eq_ok.mp h
  cases h
  obtain ⟨l₂, hAllocate, hTag⟩ := bind_eq_ok.mp hCreate
  cases hTag
  have hCreated := createOrAllocate_effect hAllocate hne
  have hIs := Oracle.isOracle_of_asAccountMut hOracle
  -- a fresh account decodes to an oracle without open queues
  have hFresh : o.openQueues = 0 := by
    have hData := hIs.data
    rw [Ledger.setData_self, hCreated.data] at hData
    have hDecode := congrArg Oracle.layout.decode hData
    rw [Oracle.layout.decode_encode] at hDecode
    rw [← hDecode]
    change (Oracle.layout.decode (List.drop 8 (Oracle.account.discriminator.toU8 ::
      List.drop 1 (List.replicate (8 + Oracle.account.layout.size) 0)))).openQueues = 0
    decide
  refine ⟨⟨hCreated.unowned, hCreated.empty⟩, ?_, ?_⟩
  · have hStored := hIs.store { o with vrfPubkey := args.oraclePubkey, registrationSlot := clock.slot }
    rw [hFresh] at hStored
    rw [hFresh]
    exact hStored
  · intro k hk
    rw [PodAccount.store, Ledger.setData_of_ne _ hk, Ledger.setData_of_ne _ hk]
    exact hCreated.others k hk

theorem removeOracle_effect (rt : Runtime) {oracleDataInfo signerInfo : AccountInfo}
    (h : removeOracle oracleDataInfo signerInfo l = .ok l') :
    (∃ o, IsOracle (l oracleDataInfo.key) o ∧ o.openQueues = 0) ∧ Unborn (l' oracleDataInfo.key) ∧
      ∀ k, k ≠ oracleDataInfo.key → ExternalAt rt.toEnvironment k (l k) (l' k) := by
  obtain ⟨o, hOracle, h⟩ := bind_eq_ok.mp h
  obtain ⟨hDrained, hClose⟩ := require_bind_eq_ok.mp h
  have hClosed : Closed rt.toEnvironment _ l l' := closeAccount_effect hClose
  exact ⟨⟨o, Oracle.isOracle_of_asAccount hOracle, hDrained⟩, ⟨hClosed.owner, hClosed.data⟩, hClosed.others⟩

theorem Oracles.tryFromBytes_take {data : List UInt8} {oracles : Oracles}
    (h : Oracles.tryFromBytesWithDiscriminator data = .ok oracles) :
    8 ≤ data.length ∧ data.take 8 = AccountDiscriminator.oracles.toBytes := by
  obtain ⟨hLength, h⟩ := require_bind_eq_ok.mp h
  obtain ⟨hTag, -⟩ := require_bind_eq_ok.mp h
  exact ⟨hLength, hTag.symm⟩

theorem rewriteRegistry_effect {payer oraclesInfo systemProgram : AccountInfo} {oracles : Oracles}
    {bytes : List UInt8} {l₁ l₂ : Ledger} {oracleData : Pubkey} (hKey : oraclesInfo.key = rt.oraclesPda.1)
    (hne : oraclesInfo.key ≠ payer.key) (hData : oracleData ≠ rt.oraclesPda.1)
    (hBefore : (l rt.oraclesPda.1).data.take 8 = AccountDiscriminator.oracles.toBytes)
    (hOthers : ∀ k, k ≠ oracleData → ExternalAt rt.toEnvironment k (l k) (l₁ k))
    (hResize : resizePda rt payer oraclesInfo systemProgram oracles.sizeWithDiscriminator l₁ = .ok l₂)
    (hBytes : oracles.toBytesWithDiscriminator = .ok bytes)
    (hOverwrite : overwrite l₂ oraclesInfo.key bytes = .ok l') :
    RegistryChange rt oracleData l l' ∧ ExternalAt rt.toEnvironment oracleData (l₁ oracleData) (l' oracleData) := by
  have hResized := resizePda_effect hResize hne
  obtain ⟨_, hBytes⟩ := require_bind_eq_ok.mp hBytes
  obtain ⟨_, hOverwrite⟩ := require_bind_eq_ok.mp hOverwrite
  cases hBytes
  cases hOverwrite
  rw [hKey] at hResized ⊢
  refine ⟨⟨hBefore, ?_, ?_, ?_⟩, ?_⟩
  · rw [Ledger.setData_self]
    exact List.take_left' (AccountDiscriminator.length_toBytes _)
  · intro hOwner
    rw [Ledger.setData_self]
    exact hResized.owner.trans ((hOthers _ (Ne.symm hData)).owned hOwner).1
  · intro k hRegistry hOracle
    rw [Ledger.setData_of_ne _ hRegistry]
    exact (hOthers k hOracle).trans (hResized.others k hRegistry)
  · rw [Ledger.setData_of_ne _ hData]
    exact hResized.others _ hData

theorem applyOperation_eq_ok {args : ModifyOracle} {oracleData systemProgram signer : AccountInfo}
    {oracles oracles' : Oracles}
    (h : applyOperation rt clock args oracleData systemProgram signer oracles l = .ok (oracles', l')) :
    args.operation = 0 ∧ addOracle rt clock args oracleData systemProgram signer l = .ok l' ∧
        oracles' = ⟨oracles.oracles ++ [args.identity]⟩ ∨
      args.operation ≠ 0 ∧ removeOracle oracleData signer l = .ok l' ∧
        oracles' = ⟨oracles.oracles.filter (· ≠ args.identity)⟩ := by
  unfold applyOperation at h
  split at h
  · rename_i hOperation
    obtain ⟨l₁, hAdd, h⟩ := bind_eq_ok.mp h
    cases h
    exact Or.inl ⟨hOperation, hAdd, rfl⟩
  · rename_i hOperation
    split at h
    · obtain ⟨l₁, hRemove, h⟩ := bind_eq_ok.mp h
      cases h
      exact Or.inr ⟨hOperation, hRemove, rfl⟩
    · cases h

theorem processModifyOracles_eq_ok {accounts : List AccountInfo} {data : List UInt8} {receipt : Receipt}
    (h : processModifyOracles rt clock accounts data l = .ok (l', receipt)) :
    ∃ args, ∃ signer ∈ accounts, ∃ oraclesInfo oracleData systemProgram oracles oracles' bytes l₁ l₂,
      rt.validateEdwards args.identity = true ∧ signer.isSigner = true ∧ oraclesInfo.key = rt.oraclesPda.1 ∧
      oracleData.key = (rt.oracleDataPda args.identity).1 ∧
      Oracles.tryFromBytesWithDiscriminator (l oraclesInfo.key).data = .ok oracles ∧
      applyOperation rt clock args oracleData systemProgram signer oracles l = .ok (oracles', l₁) ∧
      resizePda rt signer oraclesInfo systemProgram oracles'.sizeWithDiscriminator l₁ = .ok l₂ ∧
      oracles'.toBytesWithDiscriminator = .ok bytes ∧ overwrite l₂ oraclesInfo.key bytes = .ok l' ∧
      receipt = if args.operation = 0 then .registered args.identity args.oraclePubkey
        else .unregistered args.identity := by
  obtain ⟨args, hArgs, h⟩ := bind_eq_ok.mp h
  obtain ⟨_, hIdentity, h⟩ := bind_eq_ok.mp h
  obtain ⟨⟨-, hOnCurve⟩, -⟩ := require_bind_eq_ok.mp hIdentity
  split at h
  · rename_i signerInfo oraclesInfo oracleDataInfo programDataInfo systemProgram _ _
    obtain ⟨hSigner, h⟩ := require_bind_eq_ok.mp h
    obtain ⟨_, _, h⟩ := bind_eq_ok.mp h
    obtain ⟨_, h⟩ := require_bind_eq_ok.mp h
    obtain ⟨hKey, h⟩ := require_bind_eq_ok.mp h
    obtain ⟨_, h⟩ := require_bind_eq_ok.mp h
    obtain ⟨hDataKey, h⟩ := require_bind_eq_ok.mp h
    obtain ⟨oracles, hOracles, h⟩ := bind_eq_ok.mp h
    obtain ⟨⟨oracles', l₁⟩, hApply, h⟩ := bind_eq_ok.mp h
    obtain ⟨l₂, hResize, h⟩ := bind_eq_ok.mp h
    obtain ⟨bytes, hBytes, h⟩ := bind_eq_ok.mp h
    obtain ⟨l₃, hOverwrite, h⟩ := bind_eq_ok.mp h
    cases h
    exact ⟨args, signerInfo, by simp, oraclesInfo, oracleDataInfo, systemProgram, oracles, oracles', bytes, l₁, l₂,
      hOnCurve, hSigner, hKey, hDataKey, hOracles, hApply, hResize, hBytes, hOverwrite, rfl⟩
  · cases h

theorem processModifyOracles_effect {accounts : List AccountInfo} {data : List UInt8} {receipt : Receipt}
    (h : processModifyOracles rt clock accounts data l = .ok (l', receipt))
    (hSigners : Unforged rt.toEnvironment accounts) :
    ∃ args, receipt = .registered args.identity args.oraclePubkey ∧ Registered rt clock args l l' ∨
      receipt = .unregistered args.identity ∧ Unregistered rt args l l' := by
  obtain ⟨args, signer, hMem, oraclesInfo, oracleData, systemProgram, oracles, oracles', bytes, l₁, l₂, hOnCurve,
    hSigner, hKey, hDataKey, hOracles, hApply, hResize, hBytes, hOverwrite, rfl⟩ := processModifyOracles_eq_ok h
  refine ⟨args, ?_⟩
  have hne : oraclesInfo.key ≠ signer.key := hSigners.ne hMem hSigner ⟨_, hKey⟩
  have hDataNe : oracleData.key ≠ signer.key := hSigners.ne hMem hSigner ⟨_, hDataKey⟩
  obtain ⟨hLength, hBefore⟩ := Oracles.tryFromBytes_take hOracles
  rw [hKey] at hLength hBefore
  obtain ⟨hOperation, hAdd, -⟩ | ⟨hOperation, hRemove, -⟩ := applyOperation_eq_ok hApply
  · obtain ⟨hUnborn, hIs, hOthers⟩ := addOracle_effect hAdd hDataNe
    rw [hDataKey] at hUnborn hIs hOthers
    have hDistinct : (rt.oracleDataPda args.identity).1 ≠ rt.oraclesPda.1 := by
      intro hSame
      rw [← hSame, hUnborn.2] at hLength
      cases hLength
    obtain ⟨hChange, hExternal⟩ :=
      rewriteRegistry_effect hKey hne hDistinct hBefore hOthers hResize hBytes hOverwrite
    exact Or.inl ⟨if_pos hOperation, hChange, hOnCurve, hUnborn, hExternal.isOracle_iff.mpr hIs⟩
  · obtain ⟨⟨o, hIs, hDrained⟩, hUnborn, hOthers⟩ := removeOracle_effect rt hRemove
    rw [hDataKey] at hIs hUnborn hOthers
    have hDistinct : (rt.oracleDataPda args.identity).1 ≠ rt.oraclesPda.1 := by
      intro hSame
      have hTag := hIs.tag
      rw [hSame, headD_of_take hBefore] at hTag
      cases hTag
    obtain ⟨hChange, hExternal⟩ :=
      rewriteRegistry_effect hKey hne hDistinct hBefore hOthers hResize hBytes hOverwrite
    have hReserved : rt.Reserved (rt.oracleDataPda args.identity).1 := Or.inr (Or.inl ⟨_, rfl⟩)
    obtain ⟨hOwner, hData⟩ := hExternal.unborn hReserved hUnborn.1
    exact Or.inr ⟨if_neg hOperation, hChange, ⟨o, hIs, hDrained⟩, hOwner, hData.trans hUnborn.2⟩

/-! ## Creating a queue -/

/-- The account of a queue before its header is written: not created, or zeroed. -/
def Blank (a : Account) : Prop := a.owner = ID ∧ (∀ b ∈ a.data, b = 0) ∨ Unborn a

theorem Blank.not_queue {a : Account} (h : Blank a) : ¬IsQueue a := by
  obtain ⟨-, hZero⟩ | ⟨-, hEmpty⟩ := h
  · exact not_queue_of_zero hZero
  · exact not_queue_of_zero (by simp [hEmpty])

theorem createOrResize_effect {info systemProgram signerInfo : AccountInfo} {size : Nat}
    {seeds : List (List UInt8)} {bump : UInt8}
    (h : createOrResize rt info size seeds bump systemProgram signerInfo l = .ok l')
    (hne : info.key ≠ signerInfo.key) (hZero : ∀ b ∈ (l info.key).data, b = 0) :
    Blank (l info.key) ∧ (l' info.key).owner = ID ∧ (l' info.key).data = List.replicate size 0 ∧
      rt.minimumBalance size ≤ (l' info.key).lamports ∧
      ∀ k, k ≠ info.key → ExternalAt rt.toEnvironment k (l k) (l' k) := by
  unfold createOrResize at h
  split at h
  · have hCreated := createOrAllocate_effect h hne
    exact ⟨Or.inr ⟨hCreated.unowned, hCreated.empty⟩, hCreated.owner, hCreated.data, hCreated.rent, hCreated.others⟩
  · rename_i hOwner
    have hOwner := not_not.mp hOwner
    have hResized := resizePda_effect h hne
    refine ⟨Or.inl ⟨hOwner, hZero⟩, hResized.owner.trans hOwner, ?_, hResized.rent.ge, hResized.others⟩
    have hData : (l info.key).data = List.replicate (l info.key).data.length 0 :=
      List.eq_replicate_of_mem hZero
    rw [hResized.data, hData, List.take_replicate, List.length_replicate, List.replicate_append_replicate]
    congr 1
    omega

structure Pristine (q : QueueAccount) (index : UInt8) : Prop where
  index : q.header.index = index
  paused : q.header.paused = 0
  zero : ∀ b ∈ q.acc.drop 12, b = 0

theorem writeQueueHeader_effect {index : UInt8} {queue : Pubkey} {size : Nat}
    (h : writeQueueHeader index queue l = .ok l') (hOwner : (l queue).owner = ID)
    (hData : (l queue).data = List.replicate size 0) (hSize : size ≤ 2 ^ 32) :
    (∃ q, Hosts (l' queue) q [] ∧ Pristine q index) ∧ (l' queue).lamports = (l queue).lamports ∧
      (l' queue).data.length = size ∧ ∀ k, k ≠ queue → l' k = l k := by
  obtain ⟨hLong, h⟩ := require_bind_eq_ok.mp h
  obtain ⟨q, hOpen, h⟩ := bind_eq_ok.mp h
  cases h
  have hLength : AccountDiscriminator.queue.toBytes.length = 8 := AccountDiscriminator.length_toBytes _
  rw [hData, List.length_replicate] at hLong
  rw [openQueue, Ledger.setData_self, hData, List.drop_replicate] at hOpen
  by_cases hRoom : 12 ≤ size - 8
  · obtain ⟨q', hLoad, hRep, hLen, hPaused, hZero⟩ := load_zeroed hRoom (by omega)
    rw [hLoad] at hOpen
    cases hOpen
    have hStored (k : Pubkey) : storeQueue (l.setData queue (AccountDiscriminator.queue.toBytes ++
        (l queue).data.drop 8)) queue (q.setIndex index) k =
        l.setData queue (AccountDiscriminator.queue.toBytes ++ (q.setIndex index).acc) k := by
      rw [storeQueue, Ledger.setData_self, List.take_left' hLength]
      by_cases hk : k = queue
      · subst hk
        rw [Ledger.setData_self, Ledger.setData_self, Ledger.setData_self]
      · rw [Ledger.setData_of_ne _ hk, Ledger.setData_of_ne _ hk, Ledger.setData_of_ne _ hk]
    rw [hStored, Ledger.setData_self]
    refine ⟨⟨q.setIndex index, ⟨hOwner, rfl, hRep.withHeader _ rfl rfl⟩, ?_, ?_, ?_⟩, rfl, ?_, ?_⟩
    · rw [QueueAccount.setIndex, QueueAccount.header_withHeader]
    · rw [QueueAccount.setIndex, QueueAccount.header_withHeader]
      exact hPaused
    · rw [QueueAccount.setIndex, QueueAccount.drop_withHeader]
      exact hZero
    · dsimp only
      rw [List.length_append, hLength, QueueAccount.setIndex, QueueAccount.length_withHeader, hLen]
      omega
    · intro k hk
      rw [hStored, Ledger.setData_of_ne _ hk]
  · exfalso
    have hShort : (List.replicate (size - 8) (0 : UInt8)).length < Queue.layout.size := by
      rw [List.length_replicate, Queue.layout_size]
      omega
    rw [QueueAccount.load, if_neg (by rw [List.length_append]; omega), List.take_left' hLength,
      if_neg (not_not.mpr rfl)] at hOpen
    simp only [List.drop_left' hLength] at hOpen
    rw [dif_pos hShort] at hOpen
    cases hOpen

theorem updateOpenQueues_effect {update : UInt64 → UInt64} {info : AccountInfo}
    (h : updateOpenQueues update info l = .ok l') :
    (∃ o, IsOracle (l info.key) o ∧ IsOracle (l' info.key) { o with openQueues := update o.openQueues }) ∧
      ∀ k, k ≠ info.key → l' k = l k := by
  obtain ⟨o, hOracle, h⟩ := bind_eq_ok.mp h
  cases h
  have hIs := Oracle.isOracle_of_asAccountMut hOracle
  exact ⟨⟨o, hIs, hIs.store _⟩, fun k hk => Ledger.setData_of_ne _ hk⟩

structure Grown (rt : Runtime) (identity : Pubkey) (index : UInt8) (l l' : Ledger) : Prop where
  blank : Blank (l (rt.oracleQueuePda identity index).1)
  owner : (l' (rt.oracleQueuePda identity index).1).owner = ID
  zeroed : ∀ b ∈ (l' (rt.oracleQueuePda identity index).1).data, b = 0
  others : ∀ k, k ≠ (rt.oracleQueuePda identity index).1 → ExternalAt rt.toEnvironment k (l k) (l' k)

/-- The last call: an empty queue, rent exempt and counted by its oracle. -/
structure Opened (rt : Runtime) (identity : Pubkey) (index : UInt8) (l l' : Ledger) : Prop where
  blank : Blank (l (rt.oracleQueuePda identity index).1)
  empty : Pending (l' (rt.oracleQueuePda identity index).1) []
  rent : rt.minimumBalance (l' (rt.oracleQueuePda identity index).1).data.length ≤
    (l' (rt.oracleQueuePda identity index).1).lamports
  counted : ∃ o, IsOracle (l (rt.oracleDataPda identity).1) o ∧
    IsOracle (l' (rt.oracleDataPda identity).1) { o with openQueues := saturatingIncr o.openQueues }
  others : ∀ k, k ≠ (rt.oracleQueuePda identity index).1 → k ≠ (rt.oracleDataPda identity).1 →
    ExternalAt rt.toEnvironment k (l k) (l' k)

/-- A call before the last only creates or resizes the account. -/
theorem processInitializeOracleQueue_eq_ok {accounts : List AccountInfo} {data : List UInt8} {receipt : Receipt}
    (h : processInitializeOracleQueue rt accounts data l = .ok (l', receipt)) :
    ∃ signer oracle oracleData queue systemProgram, ∃ args : InitializeOracleQueue, ∃ size l₁,
      accounts = [signer, oracle, oracleData, queue, systemProgram] ∧ signer.isSigner = true ∧
      oracle.isSigner = true ∧ oracleData.key = (rt.oracleDataPda oracle.key).1 ∧
      queue.key = (rt.oracleQueuePda oracle.key args.index).1 ∧ (∀ b ∈ (l queue.key).data, b = 0) ∧
      createOrResize rt queue size [QUEUE, oracle.key.toList, [args.index]]
        (rt.findProgramAddress [QUEUE, oracle.key.toList, [args.index]] ID).2 systemProgram signer l = .ok l₁ ∧
      (l' = l₁ ∧ receipt = .other ∨ size = args.targetSize.toNat ∧ receipt = .opened oracle.key args.index ∧
        ∃ l₂, writeQueueHeader args.index queue.key l₁ = .ok l₂ ∧
          updateOpenQueues saturatingIncr oracleData l₂ = .ok l') := by
  obtain ⟨args, hArgs, h⟩ := bind_eq_ok.mp h
  split at h
  · rename_i signerInfo oracleInfo oracleDataInfo oracleQueueInfo systemProgram _
    obtain ⟨hSigner, h⟩ := require_bind_eq_ok.mp h
    obtain ⟨hOracle, h⟩ := require_bind_eq_ok.mp h
    obtain ⟨hDataKey, h⟩ := require_bind_eq_ok.mp h
    obtain ⟨_, h⟩ := require_bind_eq_ok.mp h
    obtain ⟨hKey, h⟩ := require_bind_eq_ok.mp h
    obtain ⟨hAll, h⟩ := require_bind_eq_ok.mp h
    have hZero : ∀ b ∈ (l oracleQueueInfo.key).data, b = 0 :=
      fun b hb => eq_of_beq (List.all_eq_true.mp hAll b hb)
    obtain ⟨_, h⟩ := require_bind_eq_ok.mp h
    dsimp only at h
    split at h
    · obtain ⟨l₁, hCreate, h⟩ := bind_eq_ok.mp h
      cases h
      exact ⟨signerInfo, oracleInfo, oracleDataInfo, oracleQueueInfo, systemProgram, args, _, l', rfl, hSigner, hOracle,
        hDataKey, hKey, hZero, hCreate, Or.inl ⟨rfl, rfl⟩⟩
    · obtain ⟨l₁, hCreate, h⟩ := bind_eq_ok.mp h
      obtain ⟨l₂, hWrite, h⟩ := bind_eq_ok.mp h
      obtain ⟨l₃, hCount, h⟩ := bind_eq_ok.mp h
      cases h
      exact ⟨signerInfo, oracleInfo, oracleDataInfo, oracleQueueInfo, systemProgram, args, _, l₁, rfl, hSigner, hOracle,
        hDataKey, hKey, hZero, hCreate, Or.inr ⟨rfl, rfl, l₂, hWrite, hCount⟩⟩
  · cases h

theorem processInitializeOracleQueue_effect {accounts : List AccountInfo} {data : List UInt8} {receipt : Receipt}
    (h : processInitializeOracleQueue rt accounts data l = .ok (l', receipt))
    (hSigners : Unforged rt.toEnvironment accounts) :
    ∃ identity index, (∃ a ∈ accounts, a.isSigner = true ∧ a.key = identity) ∧
      (receipt = .other ∧ Grown rt identity index l l' ∨
        receipt = .opened identity index ∧ Opened rt identity index l l' ∧
          ∃ q, Hosts (l' (rt.oracleQueuePda identity index).1) q [] ∧ Pristine q index) := by
  obtain ⟨signer, oracle, oracleData, queue, systemProgram, args, size, l₁, rfl, hSigner, hOracle, hDataKey, hKey, hZero,
    hCreate, hCases⟩ := processInitializeOracleQueue_eq_ok h
  have hne : queue.key ≠ signer.key := hSigners.ne (by simp) hSigner ⟨_, hKey⟩
  obtain ⟨hBlank, hOwner, hData, hRent, hOthers⟩ := createOrResize_effect hCreate hne hZero
  refine ⟨oracle.key, args.index, ⟨oracle, by simp, hOracle, rfl⟩, ?_⟩
  obtain ⟨rfl, rfl⟩ | ⟨rfl, rfl, l₂, hWrite, hCount⟩ := hCases
  · rw [hKey] at hBlank hOwner hData hOthers
    refine Or.inl ⟨rfl, hBlank, hOwner, ?_, hOthers⟩
    rw [hData]
    exact fun b hb => List.eq_of_mem_replicate hb
  · obtain ⟨⟨q, hHosts, hPristine⟩, hLamports, hLength, hSame⟩ := writeQueueHeader_effect hWrite hOwner hData
      (Nat.le_of_lt args.targetSize.toNat_lt)
    obtain ⟨⟨o, hIs, hIs'⟩, hSame'⟩ := updateOpenQueues_effect hCount
    have hDistinct : oracleData.key ≠ queue.key := by
      intro hEq
      rw [hEq] at hIs
      exact hIs.not_queue hHosts.isQueue
    have hQueue := hSame' _ hDistinct.symm
    rw [hSame _ hDistinct, (hOthers _ hDistinct).isOracle_iff] at hIs
    refine Or.inr ⟨rfl, ?_⟩
    rw [hKey] at hBlank hHosts hLamports hLength hRent hQueue hOthers hSame
    rw [hDataKey] at hIs hIs' hSame'
    rw [← hQueue] at hHosts
    refine ⟨⟨hBlank, ⟨q, [], hHosts, rfl⟩, ?_, ⟨o, hIs, hIs'⟩, ?_⟩, q, hHosts, hPristine⟩
    · rw [hQueue, hLength, hLamports]
      exact hRent
    · intro k hk hk'
      rw [hSame' k hk', hSame k hk]
      exact hOthers k hk

/-! ## Closing and delegating -/

theorem isQueue_of_header {k : Pubkey} {header : Queue} (hOwner : (l k).owner = ID)
    (h : queueHeader l k = .ok header) : IsQueue (l k) := by
  refine ⟨hOwner, ?_⟩
  unfold queueHeader Queue.tryFromBytes at h
  split at h
  · cases h
  · split at h
    · cases h
    · rename_i hTag
      exact (not_not.mp hTag).symm

theorem Pending.eq_nil_of_count {k : Pubkey} {L : List Record} (h : Pending (l k) L) {q : QueueAccount}
    (hOpen : openQueue l k = .ok q) (hCount : q.header.itemCount = 0) : L = [] := by
  obtain ⟨q', recs, hHosts, rfl⟩ := h
  rw [hHosts.openQueue_eq] at hOpen
  cases hOpen
  apply List.eq_nil_of_length_eq_zero
  rw [length_filter_live, ← hHosts.represents.count, hCount]
  rfl

structure QueueClosed (rt : Runtime) (identity : Pubkey) (index : UInt8) (l l' : Ledger) : Prop where
  isQueue : IsQueue (l (rt.oracleQueuePda identity index).1)
  emptied : ∀ L, Pending (l (rt.oracleQueuePda identity index).1) L → L = []
  unborn : Unborn (l' (rt.oracleQueuePda identity index).1)
  counted : ∃ o, IsOracle (l (rt.oracleDataPda identity).1) o ∧
    IsOracle (l' (rt.oracleDataPda identity).1) { o with openQueues := saturatingDecr o.openQueues }
  others : ∀ k, k ≠ (rt.oracleQueuePda identity index).1 → k ≠ (rt.oracleDataPda identity).1 →
    ExternalAt rt.toEnvironment k (l k) (l' k)

theorem IsQueue.storeQueue {k : Pubkey} (h : IsQueue (l k)) (q : QueueAccount) : IsQueue (storeQueue l k q k) := by
  rw [SolanaVrf.storeQueue, Ledger.setData_self]
  refine ⟨h.1, ?_⟩
  dsimp only
  rw [h.2]
  exact List.take_left' (AccountDiscriminator.length_toBytes _)

theorem processCloseOracleQueue_effect {accounts : List AccountInfo} {data : List UInt8} {receipt : Receipt}
    (h : processCloseOracleQueue rt accounts data l = .ok (l', receipt)) :
    ∃ identity index, QueueClosed rt identity index l l' ∧
      receipt = .closed identity index (rt.oracleQueuePda identity index).1 := by
  obtain ⟨index, _, h⟩ := bind_eq_ok.mp h
  split at h
  · rename_i oracleInfo oracleDataInfo oracleQueueInfo _
    obtain ⟨_, h⟩ := require_bind_eq_ok.mp h
    obtain ⟨_, h⟩ := require_bind_eq_ok.mp h
    obtain ⟨_, h⟩ := require_bind_eq_ok.mp h
    obtain ⟨hDataKey, h⟩ := require_bind_eq_ok.mp h
    obtain ⟨_, h⟩ := require_bind_eq_ok.mp h
    obtain ⟨hOwner, h⟩ := require_bind_eq_ok.mp h
    obtain ⟨hKey, h⟩ := require_bind_eq_ok.mp h
    obtain ⟨_, hHeader, h⟩ := bind_eq_ok.mp h
    obtain ⟨q, hOpen, h⟩ := bind_eq_ok.mp h
    obtain ⟨hEmpty, h⟩ := require_bind_eq_ok.mp h
    obtain ⟨l₁, hCount, h⟩ := bind_eq_ok.mp h
    obtain ⟨l₂, hClose, h⟩ := bind_eq_ok.mp h
    cases h
    change oracleDataInfo.key = (rt.oracleDataPda oracleInfo.key).1 at hDataKey
    change oracleQueueInfo.key = (rt.oracleQueuePda oracleInfo.key index).1 at hKey
    have hQueue := isQueue_of_header hOwner hHeader
    have hZero : q.header.itemCount = 0 := by simpa [QueueAccount.isEmpty] using hEmpty
    obtain ⟨⟨o, hIs, hIs'⟩, hSame⟩ := updateOpenQueues_effect hCount
    have hClosed : Closed rt.toEnvironment oracleQueueInfo.key l₁ l' := closeAccount_effect hClose
    have hDistinct : oracleDataInfo.key ≠ oracleQueueInfo.key := by
      intro hEq
      rw [hEq] at hIs
      exact hIs.not_queue (hQueue.storeQueue q)
    rw [storeQueue_of_ne q hDistinct] at hIs
    rw [← (hClosed.others _ hDistinct).isOracle_iff] at hIs'
    rw [hDataKey] at hIs hIs' hSame
    rw [hKey] at hQueue hOpen hClosed
    refine ⟨oracleInfo.key, index, ⟨hQueue, ?_, ⟨hClosed.owner, hClosed.data⟩, ⟨o, hIs, hIs'⟩, ?_⟩, by rw [hKey]⟩
    · intro L hPending
      exact hPending.eq_nil_of_count hOpen hZero
    · intro k hk hk'
      have hExternal := hClosed.others k hk
      rwa [hSame k hk', storeQueue_of_ne q (by rwa [hKey])] at hExternal
  · cases h

structure QueueDelegated (rt : Runtime) (identity : Pubkey) (index : UInt8) (l l' : Ledger) : Prop where
  isQueue : IsQueue (l (rt.oracleQueuePda identity index).1)
  emptied : ∀ L, Pending (l (rt.oracleQueuePda identity index).1) L → L = []
  delegates : Delegates rt.toEnvironment (rt.oracleQueuePda identity index).1 l l'

theorem processDelegateOracleQueue_effect {accounts : List AccountInfo} {data : List UInt8} {receipt : Receipt}
    (h : processDelegateOracleQueue rt accounts data l = .ok (l', receipt)) :
    ∃ identity index, QueueDelegated rt identity index l l' ∧
      receipt = .delegated identity index (rt.oracleQueuePda identity index).1 := by
  obtain ⟨index, _, h⟩ := bind_eq_ok.mp h
  split at h
  · rename_i authorityInfo oracleQueueInfo _ _ _ _ ownerProgram _ _
    obtain ⟨_, h⟩ := require_bind_eq_ok.mp h
    obtain ⟨_, h⟩ := require_bind_eq_ok.mp h
    obtain ⟨_, h⟩ := require_bind_eq_ok.mp h
    obtain ⟨hOwner, h⟩ := require_bind_eq_ok.mp h
    obtain ⟨hKey, h⟩ := require_bind_eq_ok.mp h
    obtain ⟨header, hHeader, h⟩ := bind_eq_ok.mp h
    obtain ⟨⟨hCount, -⟩, h⟩ := require_bind_eq_ok.mp h
    obtain ⟨l₁, hDelegate, h⟩ := bind_eq_ok.mp h
    cases h
    change oracleQueueInfo.key = (rt.oracleQueuePda authorityInfo.key index).1 at hKey
    have hDelegates := rt.delegates_of_delegateAccount _ _ _ _ _ hDelegate
    have hQueue := isQueue_of_header hOwner hHeader
    refine ⟨authorityInfo.key, index, ⟨?_, ?_, ?_⟩, by rw [hKey]⟩
    · rw [← hKey]
      exact hQueue
    · rw [← hKey]
      rintro L ⟨q, recs, hHosts, rfl⟩
      rw [hHosts.queueHeader_eq] at hHeader
      cases hHeader
      exact Pending.eq_nil_of_count ⟨q, recs, hHosts, rfl⟩ hHosts.openQueue_eq hCount
    · rw [← hKey]
      exact hDelegates
  · cases h

end SolanaVrf
