import SolanaVrf.Service.Fulfilment
import SolanaVrf.Chain.Draining
import SolanaVrf.Queue.Determined

/-! # Opening a queue

The SDK repeats one instruction, as often as the target size has chunks of 10240 bytes; the
program grows the account call by call and writes the header in the last one. Both sides
count the calls for themselves, with different arithmetic. A call succeeds when the payer
signs and its lamports and the queue's cover the rent of the target size.
-/

namespace SolanaVrf
set_option autoImplicit false

open Pod Slices Fallible Transition AccountInfoValidation QueueAccount

def divCeil (a b : Nat) : Nat := a / b + if a % b = 0 then 0 else 1

def InitializeOracleQueue.new (index : UInt8) (targetSize : UInt32) : InitializeOracleQueue :=
  ⟨targetSize, index, leBytes 3 0⟩

namespace Sdk

variable (env : Environment) (signer identity : Pubkey) (index : UInt8)

def initializeOracleQueueAccounts : List AccountMeta :=
  [⟨signer, true, true⟩, ⟨identity, true, false⟩, ⟨(env.oracleDataPda identity).1, false, true⟩,
    ⟨(env.oracleQueuePda identity index).1, false, true⟩, ⟨systemProgramId, false, false⟩]

def initializeOracleQueue (bytesToAllocate : Option UInt32) : List Instruction :=
  let targetSize := bytesToAllocate.getD 9500
  let inits := divCeil targetSize.toNat 10240
  List.replicate inits
    { programId := ID
      accounts := initializeOracleQueueAccounts env signer identity index
      data := SolanaVrfInstruction.initializeOracleQueue.toBytes
        (InitializeOracleQueue.layout.encode (.new index targetSize)) }

end Sdk

/-! ## System calls that succeed -/

/-- The flags that the system program asks for, and two different accounts. -/
structure Signs (payer target systemProgram : AccountInfo) : Prop where
  system : systemProgram.key = systemProgramId
  signer : payer.isSigner = true
  writable : payer.isWritable = true
  targetWritable : target.isWritable = true
  apart : target.key ≠ payer.key

/-- The payer is a plain wallet; what it and the target hold together does not change. -/
structure Purse (payer target : Pubkey) (total : Nat) (l : Ledger) : Prop where
  supply : total < u64Limit
  owner : (l payer).owner = systemProgramId
  data : (l payer).data = []
  funds : (l payer).lamports + (l target).lamports = total

section

variable {rt : Runtime} {l l' : Ledger} {payer target systemProgram : AccountInfo} {total space : Nat}
  {seeds : List (List UInt8)}

namespace Purse

theorem setData (h : Purse payer.key target.key total l) (hSigns : Signs payer target systemProgram)
    (bytes : List UInt8) : Purse payer.key target.key total (l.setData target.key bytes) := by
  refine ⟨h.supply, ?_, ?_, ?_⟩
  · rw [Ledger.setData_of_ne _ hSigns.apart.symm, h.owner]
  · rw [Ledger.setData_of_ne _ hSigns.apart.symm, h.data]
  · rw [Ledger.setData_of_ne _ hSigns.apart.symm, Ledger.setData_self]
    exact h.funds

theorem setOwner (h : Purse payer.key target.key total l) (hSigns : Signs payer target systemProgram)
    (owner : Pubkey) : Purse payer.key target.key total (l.setOwner target.key owner) := by
  refine ⟨h.supply, ?_, ?_, ?_⟩
  · rw [Ledger.setOwner_of_ne _ hSigns.apart.symm, h.owner]
  · rw [Ledger.setOwner_of_ne _ hSigns.apart.symm, h.data]
  · rw [Ledger.setOwner_of_ne _ hSigns.apart.symm, Ledger.setOwner_self]
    exact h.funds

theorem setLamports (h : Purse payer.key target.key total l) (hSigns : Signs payer target systemProgram)
    {mine its : Nat} (hSum : mine + its = total) :
    Purse payer.key target.key total ((l.setLamports payer.key mine).setLamports target.key its) := by
  refine ⟨h.supply, ?_, ?_, ?_⟩
  · rw [Ledger.setLamports_of_ne _ hSigns.apart.symm, Ledger.setLamports_self]
    exact h.owner
  · rw [Ledger.setLamports_of_ne _ hSigns.apart.symm, Ledger.setLamports_self]
    exact h.data
  · rw [Ledger.setLamports_of_ne _ hSigns.apart.symm, Ledger.setLamports_self, Ledger.setLamports_self]
    exact hSum

theorem transfer (h : Purse payer.key target.key total l) (hSigns : Signs payer target systemProgram)
    {amount : Nat} (hFunds : amount ≤ (l payer.key).lamports) :
    ∃ l', System.transfer payer target systemProgram amount l = .ok l' ∧ Purse payer.key target.key total l' := by
  have hTarget : l.setLamports payer.key ((l payer.key).lamports - amount) target.key = l target.key :=
    Ledger.setLamports_of_ne _ hSigns.apart
  have hSum := h.funds
  have hSupply := h.supply
  refine ⟨(l.setLamports payer.key ((l payer.key).lamports - amount)).setLamports target.key
    ((l target.key).lamports + amount), ?_, h.setLamports hSigns (by omega)⟩
  rw [System.transfer, require_of hSigns.system, bind_ok,
    require_of ⟨hSigns.signer, hSigns.writable, hSigns.targetWritable⟩, bind_ok, require_of ⟨h.owner, h.data⟩, bind_ok,
    require_of hFunds, bind_ok, Ledger.credit, hTarget, require_of (by omega), bind_ok]
  rfl

theorem topUp (h : Purse payer.key target.key total l) (hSigns : Signs payer target systemProgram)
    (hRent : rt.minimumBalance space ≤ total) :
    ∃ l', SolanaVrf.topUp rt target space systemProgram payer l = .ok l' ∧ Purse payer.key target.key total l' := by
  unfold SolanaVrf.topUp
  dsimp only
  split
  · have hSum := h.funds
    exact h.transfer hSigns (by omega)
  · exact ⟨l, rfl, h⟩

end Purse

theorem System.allocate_eq (hSigns : Signs payer target systemProgram) (hUnborn : Unborn (l target.key))
    (hSpace : space ≤ MAX_PERMITTED_DATA_INCREASE) (hSeeds : rt.createProgramAddress seeds ID = some target.key) :
    System.allocate rt target systemProgram space seeds l = .ok (l.setData target.key (List.replicate space 0)) := by
  rw [System.allocate, require_of ⟨hSigns.system, hSigns.targetWritable⟩, bind_ok, System.signedBySeeds,
    require_of hSeeds, bind_ok, require_of ⟨hUnborn.1, hUnborn.2⟩, bind_ok, require_of hSpace, bind_ok]
  rfl

theorem System.assign_eq (hSigns : Signs payer target systemProgram) {owner : Pubkey}
    (hOwner : (l target.key).owner = systemProgramId) (hSeeds : rt.createProgramAddress seeds ID = some target.key) :
    System.assign rt target systemProgram owner seeds l = .ok (l.setOwner target.key owner) := by
  rw [System.assign, require_of ⟨hSigns.system, hSigns.targetWritable⟩, bind_ok, System.signedBySeeds,
    require_of hSeeds, bind_ok, require_of hOwner, bind_ok]
  rfl

namespace Purse

theorem createOrAllocate (h : Purse payer.key target.key total l) (hSigns : Signs payer target systemProgram)
    (hUnborn : Unborn (l target.key)) (hSpace : space ≤ MAX_PERMITTED_DATA_INCREASE)
    (hSeeds : rt.createProgramAddress seeds ID = some target.key) (hRent : rt.minimumBalance space ≤ total) :
    ∃ l', SolanaVrf.createOrAllocate rt target space seeds systemProgram payer l = .ok l' ∧
      Purse payer.key target.key total l' := by
  unfold SolanaVrf.createOrAllocate
  split
  · rename_i hEmpty
    have hOwner : (l.setData target.key (List.replicate space 0) target.key).owner = systemProgramId := by
      rw [Ledger.setData_self]
      exact hUnborn.1
    have hSum := h.funds
    rw [System.createAccount, require_of hEmpty, bind_ok, System.allocate_eq hSigns hUnborn hSpace hSeeds, bind_ok,
      System.assign_eq hSigns hOwner hSeeds, bind_ok]
    refine ((h.setData hSigns _).setOwner hSigns _).transfer hSigns ?_
    rw [Ledger.setOwner_of_ne _ hSigns.apart.symm, Ledger.setData_of_ne _ hSigns.apart.symm]
    omega
  · obtain ⟨l₁, hTopUp, hPurse⟩ := h.topUp hSigns hRent
    obtain ⟨-, -, hOwner, hData⟩ := topUp_effect hTopUp hSigns.apart
    have hUnborn₁ : Unborn (l₁ target.key) := ⟨hOwner.trans hUnborn.1, hData.trans hUnborn.2⟩
    have hOwner₁ : (l₁.setData target.key (List.replicate space 0) target.key).owner = systemProgramId := by
      rw [Ledger.setData_self]
      exact hUnborn₁.1
    rw [hTopUp, bind_ok, System.allocate_eq hSigns hUnborn₁ hSpace hSeeds, bind_ok,
      System.assign_eq hSigns hOwner₁ hSeeds]
    exact ⟨_, rfl, (hPurse.setData hSigns _).setOwner hSigns _⟩

theorem settleRent (h : Purse payer.key target.key total l) (hSigns : Signs payer target systemProgram)
    {newMinimum : Nat} (hRent : newMinimum ≤ total) :
    ∃ l', SolanaVrf.settleRent payer target systemProgram newMinimum l = .ok l' ∧
      Purse payer.key target.key total l' := by
  have hSum := h.funds
  have hSupply := h.supply
  unfold SolanaVrf.settleRent
  dsimp only
  split
  · exact h.transfer hSigns (by omega)
  · -- the surplus goes back to the payer
    have hPayer : l.setLamports target.key ((l target.key).lamports - ((l target.key).lamports - newMinimum)) payer.key =
        l payer.key := Ledger.setLamports_of_ne _ hSigns.apart.symm
    rw [Ledger.credit, hPayer, require_of (by omega), bind_ok]
    refine ⟨_, rfl, h.supply, ?_, ?_, ?_⟩
    · rw [Ledger.setLamports_self, hPayer]
      exact h.owner
    · rw [Ledger.setLamports_self, hPayer]
      exact h.data
    · rw [Ledger.setLamports_self, Ledger.setLamports_of_ne _ hSigns.apart, Ledger.setLamports_self]
      dsimp only
      omega

theorem resizePda (h : Purse payer.key target.key total l) (hSigns : Signs payer target systemProgram)
    (hSpace : space ≤ (l target.key).data.length + MAX_PERMITTED_DATA_INCREASE)
    (hRent : rt.minimumBalance space ≤ total) :
    ∃ l', SolanaVrf.resizePda rt payer target systemProgram space l = .ok l' ∧
      Purse payer.key target.key total l' := by
  obtain ⟨l₁, hSettle, hPurse⟩ := h.settleRent hSigns hRent
  obtain ⟨hTarget, -⟩ := settleRent_effect rt.toEnvironment hSettle hSigns.apart
  have hSpace₁ : space ≤ (l₁ target.key).data.length + MAX_PERMITTED_DATA_INCREASE := by
    rw [hTarget]
    exact hSpace
  rw [SolanaVrf.resizePda, hSettle, bind_ok, Ledger.resize, require_of hSpace₁, bind_ok]
  exact ⟨_, rfl, hPurse.setData hSigns _⟩

theorem createOrResize (h : Purse payer.key target.key total l) (hSigns : Signs payer target systemProgram)
    {bump : UInt8} (hSeeds : rt.createProgramAddress (seeds ++ [[bump]]) ID = some target.key)
    (hBlank : Blank (l target.key)) (hSpace : space ≤ (l target.key).data.length + MAX_PERMITTED_DATA_INCREASE)
    (hRent : rt.minimumBalance space ≤ total) :
    ∃ l', SolanaVrf.createOrResize rt target space seeds bump systemProgram payer l = .ok l' ∧
      Purse payer.key target.key total l' := by
  unfold SolanaVrf.createOrResize
  split
  · rename_i hForeign
    obtain ⟨hOwner, -⟩ | hUnborn := hBlank
    · exact absurd hOwner hForeign
    · rw [hUnborn.2, List.length_nil, Nat.zero_add] at hSpace
      exact h.createOrAllocate hSigns hUnborn hSpace hSeeds hRent
  · exact h.resizePda hSigns hSpace hRent

end Purse

end

/-! ## One call -/

section

variable {rt : Runtime} {l l' : Ledger} {signer identity : Pubkey} {index : UInt8} {targetSize : UInt32}
  {o : Oracle} {total i : Nat}

theorem writeQueueHeader_ok {queue : Pubkey} {size : Nat} (hData : (l queue).data = List.replicate size 0)
    (hLow : 20 ≤ size) (hHigh : size ≤ 2 ^ 32) : ∃ l', writeQueueHeader index queue l = .ok l' := by
  have hLong : 8 ≤ (l queue).data.length := by
    rw [hData, List.length_replicate]
    omega
  obtain ⟨q, hLoad, -⟩ := load_zeroed (n := size - 8) (by omega) (by omega)
  have hOpen : openQueue (l.setData queue (AccountDiscriminator.queue.toBytes ++ (l queue).data.drop 8)) queue =
      .ok q := by
    rw [openQueue, Ledger.setData_self, hData, List.drop_replicate, hLoad]
    rfl
  rw [writeQueueHeader, require_of hLong, bind_ok]
  dsimp only
  rw [hOpen, bind_ok]
  exact ⟨_, rfl⟩

/-- The accounts of a call as the runtime passes them. -/
structure Sent (rt : Runtime) (signer identity : Pubkey) (index : UInt8)
    (signerInfo oracleInfo oracleDataInfo oracleQueueInfo systemProgram : AccountInfo) : Prop where
  signs : Signs signerInfo oracleQueueInfo systemProgram
  payer : signerInfo.key = signer
  oracleSigns : oracleInfo.isSigner = true
  oracle : oracleInfo.key = identity
  dataKey : oracleDataInfo.key = (rt.oracleDataPda identity).1
  dataWritable : oracleDataInfo.isWritable = true
  queueKey : oracleQueueInfo.key = (rt.oracleQueuePda identity index).1

theorem Passes.sent {infos : List AccountInfo}
    (h : Passes ∅ (Sdk.initializeOracleQueueAccounts rt.toEnvironment signer identity index) infos)
    (hUnforged : Unforged rt.toEnvironment infos) :
    ∃ signerInfo oracleInfo oracleDataInfo oracleQueueInfo systemProgram,
      infos = [signerInfo, oracleInfo, oracleDataInfo, oracleQueueInfo, systemProgram] ∧
      Sent rt signer identity index signerInfo oracleInfo oracleDataInfo oracleQueueInfo systemProgram := by
  obtain ⟨signerInfo, _, rfl, hSigner, hSigns, hPays, h⟩ := h.cons
  obtain ⟨oracleInfo, _, rfl, hOracle, hOracleSigns, -, h⟩ := h.cons
  obtain ⟨oracleDataInfo, _, rfl, hData, -, hDataWritable, h⟩ := h.cons
  obtain ⟨oracleQueueInfo, _, rfl, hQueue, -, hQueueWritable, h⟩ := h.cons
  obtain ⟨systemProgram, rest, rfl, hSystem, -, -, h⟩ := h.cons
  obtain rfl : rest = [] := List.map_eq_nil_iff.mp h.keys
  have hDerived : rt.Derived oracleQueueInfo.key := ⟨_, hQueue⟩
  have hApart := hUnforged.ne List.mem_cons_self (hSigns rfl) hDerived
  refine ⟨signerInfo, oracleInfo, oracleDataInfo, oracleQueueInfo, systemProgram, rfl, ?_⟩
  exact
    { signs := ⟨hSystem, hSigns rfl, hPays rfl (Set.notMem_empty _), hQueueWritable rfl (Set.notMem_empty _), hApart⟩
      payer := hSigner
      oracleSigns := hOracleSigns rfl
      oracle := hOracle
      dataKey := hData
      dataWritable := hDataWritable rfl (Set.notMem_empty _)
      queueKey := hQueue }

/-- After that many calls, none of them the last. -/
structure Growing (rt : Runtime) (signer identity : Pubkey) (index : UInt8) (o : Oracle) (total i : Nat)
    (l : Ledger) : Prop where
  purse : Purse signer (rt.oracleQueuePda identity index).1 total l
  blank : Blank (l (rt.oracleQueuePda identity index).1)
  data : (l (rt.oracleQueuePda identity index).1).data = List.replicate (10240 * i) 0
  oracle : IsOracle (l (rt.oracleDataPda identity).1) o

namespace Growing

theorem zero (h : Growing rt signer identity index o total i l) :
    ∀ b ∈ (l (rt.oracleQueuePda identity index).1).data, b = 0 := by
  rw [h.data]
  exact fun b hb => List.eq_of_mem_replicate hb

theorem apart (h : Growing rt signer identity index o total i l) :
    (rt.oracleDataPda identity).1 ≠ (rt.oracleQueuePda identity index).1 := by
  intro hSame
  have hOracle := h.oracle
  rw [hSame] at hOracle
  exact hOracle.not_zero h.zero

variable {signerInfo oracleInfo oracleDataInfo oracleQueueInfo systemProgram : AccountInfo}

theorem resize (h : Growing rt signer identity index o total i l)
    (hSent : Sent rt signer identity index signerInfo oracleInfo oracleDataInfo oracleQueueInfo systemProgram)
    {size : Nat} (hSize : size ≤ 10240 * (i + 1)) (hRent : rt.minimumBalance size ≤ total) :
    ∃ l', createOrResize rt oracleQueueInfo size [QUEUE, identity.toList, [index]]
        (rt.findProgramAddress [QUEUE, identity.toList, [index]] ID).2 systemProgram signerInfo l = .ok l' ∧
      Purse signer (rt.oracleQueuePda identity index).1 total l' ∧
      (l' (rt.oracleQueuePda identity index).1).owner = ID ∧
      (l' (rt.oracleQueuePda identity index).1).data = List.replicate size 0 ∧
      rt.minimumBalance size ≤ (l' (rt.oracleQueuePda identity index).1).lamports ∧
      IsOracle (l' (rt.oracleDataPda identity).1) o := by
  have hKey := hSent.queueKey
  have hPayer := hSent.payer
  have hSeeds : rt.createProgramAddress ([QUEUE, identity.toList, [index]] ++
      [[(rt.findProgramAddress [QUEUE, identity.toList, [index]] ID).2]]) ID = some oracleQueueInfo.key := by
    rw [rt.create_find, hKey]
    rfl
  have hSpace : size ≤ (l oracleQueueInfo.key).data.length + MAX_PERMITTED_DATA_INCREASE := by
    rw [hKey, h.data, List.length_replicate]
    change _ ≤ _ + 10240
    omega
  have hPurse : Purse signerInfo.key oracleQueueInfo.key total l := by
    rw [hKey, hPayer]
    exact h.purse
  have hBlank : Blank (l oracleQueueInfo.key) := by
    rw [hKey]
    exact h.blank
  obtain ⟨l', hCreate, hPurse'⟩ := hPurse.createOrResize hSent.signs hSeeds hBlank hSpace hRent
  obtain ⟨-, hOwner, hData, hLamports, hOthers⟩ := createOrResize_effect hCreate hSent.signs.apart (hKey ▸ h.zero)
  rw [hKey] at hPurse' hOwner hData hLamports hOthers
  rw [hPayer] at hPurse'
  exact ⟨l', hCreate, hPurse', hOwner, hData, hLamports, (hOthers _ h.apart).isOracle_iff.mpr h.oracle⟩

theorem process_ok (h : Growing rt signer identity index o total i l)
    (hSent : Sent rt signer identity index signerInfo oracleInfo oracleDataInfo oracleQueueInfo systemProgram)
    (hMax : targetSize ≤ MAX_QUEUE_ACCOUNT_SIZE) {result : Ledger × Receipt}
    (hRest : (if targetSize.toNat - 10240 * i > MAX_EXTRA_BYTES then do
        let l ← createOrResize rt oracleQueueInfo (10240 * i + MAX_EXTRA_BYTES) [QUEUE, identity.toList, [index]]
          (rt.findProgramAddress [QUEUE, identity.toList, [index]] ID).2 systemProgram signerInfo l
        return (l, Receipt.other)
      else do
        let l ← createOrResize rt oracleQueueInfo targetSize.toNat [QUEUE, identity.toList, [index]]
          (rt.findProgramAddress [QUEUE, identity.toList, [index]] ID).2 systemProgram signerInfo l
        let l ← writeQueueHeader index oracleQueueInfo.key l
        let l ← updateOpenQueues saturatingIncr oracleDataInfo l
        return (l, Receipt.opened identity index)) = .ok result) :
    processInitializeOracleQueue rt [signerInfo, oracleInfo, oracleDataInfo, oracleQueueInfo, systemProgram]
      (InitializeOracleQueue.layout.encode (.new index targetSize)) l = .ok result := by
  have hZero := h.zero
  have hLength : 10240 * i = (l (rt.oracleQueuePda identity index).1).data.length := by
    rw [h.data, List.length_replicate]
  obtain ⟨hSigns, -, hOracleSigns, rfl, hDataKey, -, hQueueKey⟩ := hSent
  rw [← hQueueKey] at hZero hLength
  rw [hLength] at hRest
  rw [processInitializeOracleQueue, parseArgs, Layout.tryFromBytes_encode, okOr_some, bind_ok]
  refine require_bind_eq_ok.mpr ⟨hSigns.signer, require_bind_eq_ok.mpr ⟨hOracleSigns, ?_⟩⟩
  refine require_bind_eq_ok.mpr ⟨hDataKey, require_bind_eq_ok.mpr ⟨hSigns.targetWritable, ?_⟩⟩
  refine require_bind_eq_ok.mpr ⟨hQueueKey, require_bind_eq_ok.mpr ⟨?_, require_bind_eq_ok.mpr ⟨hMax, hRest⟩⟩⟩
  exact List.all_eq_true.mpr fun b hb => beq_iff_eq.mpr (hZero b hb)

/-- A call with more than a chunk to go adds a chunk of zeros. -/
theorem grow (h : Growing rt signer identity index o total i l)
    (hSent : Sent rt signer identity index signerInfo oracleInfo oracleDataInfo oracleQueueInfo systemProgram)
    (hMax : targetSize ≤ MAX_QUEUE_ACCOUNT_SIZE) (hMore : 10240 * (i + 1) < targetSize.toNat)
    (hRent : rt.minimumBalance (10240 * (i + 1)) ≤ total) :
    ∃ l', processInitializeOracleQueue rt [signerInfo, oracleInfo, oracleDataInfo, oracleQueueInfo, systemProgram]
        (InitializeOracleQueue.layout.encode (.new index targetSize)) l = .ok (l', .other) ∧
      Growing rt signer identity index o total (i + 1) l' := by
  obtain ⟨l', hCreate, hPurse, hOwner, hData, -, hOracle⟩ := h.resize hSent (Nat.le_refl _) hRent
  have hExtra : targetSize.toNat - 10240 * i > MAX_EXTRA_BYTES := by
    change 10240 < _
    omega
  refine ⟨l', ?_, hPurse, Or.inl ⟨hOwner, ?_⟩, hData, hOracle⟩
  · refine h.process_ok hSent hMax ?_
    rw [if_pos hExtra]
    exact bind_eq_ok.mpr ⟨l', hCreate, rfl⟩
  · rw [hData]
    exact fun b hb => List.eq_of_mem_replicate hb

/-- The last call makes the account a queue and counts it. -/
theorem finish (h : Growing rt signer identity index o total i l)
    (hSent : Sent rt signer identity index signerInfo oracleInfo oracleDataInfo oracleQueueInfo systemProgram)
    (hMax : targetSize ≤ MAX_QUEUE_ACCOUNT_SIZE) (hMin : 20 ≤ targetSize.toNat)
    (hLast : targetSize.toNat ≤ 10240 * (i + 1)) (hRent : rt.minimumBalance targetSize.toNat ≤ total) :
    ∃ l', processInitializeOracleQueue rt [signerInfo, oracleInfo, oracleDataInfo, oracleQueueInfo, systemProgram]
        (InitializeOracleQueue.layout.encode (.new index targetSize)) l = .ok (l', .opened identity index) ∧
      (∃ q, Hosts (l' (rt.oracleQueuePda identity index).1) q [] ∧ Pristine q index) ∧
      (l' (rt.oracleQueuePda identity index).1).data.length = targetSize.toNat ∧
      rt.minimumBalance targetSize.toNat ≤ (l' (rt.oracleQueuePda identity index).1).lamports ∧
      IsOracle (l' (rt.oracleDataPda identity).1) { o with openQueues := saturatingIncr o.openQueues } := by
  obtain ⟨l₁, hCreate, -, hOwner, hData, hLamports, hOracle⟩ := h.resize hSent hLast hRent
  have hSize : targetSize.toNat ≤ 2 ^ 32 := Nat.le_of_lt targetSize.toNat_lt
  obtain ⟨l₂, hWrite⟩ := @writeQueueHeader_ok l₁ index _ _ hData hMin hSize
  obtain ⟨hHosts, hSame, hLength, hOthers⟩ := writeQueueHeader_effect hWrite hOwner hData hSize
  rw [← hOthers _ h.apart, ← hSent.dataKey] at hOracle
  have hOne : ¬targetSize.toNat - 10240 * i > MAX_EXTRA_BYTES := by
    change ¬10240 < _
    omega
  have hQueue : Oracle.account.store l₂ oracleDataInfo { o with openQueues := saturatingIncr o.openQueues }
      (rt.oracleQueuePda identity index).1 = l₂ (rt.oracleQueuePda identity index).1 := by
    refine Ledger.setData_of_ne _ ?_
    rw [hSent.dataKey]
    exact h.apart.symm
  refine ⟨Oracle.account.store l₂ oracleDataInfo { o with openQueues := saturatingIncr o.openQueues }, ?_, ?_, ?_, ?_, ?_⟩
  · refine h.process_ok hSent hMax ?_
    rw [if_neg hOne, hCreate, bind_ok, hSent.queueKey, hWrite, bind_ok, updateOpenQueues,
      hOracle.asAccountMut_eq hSent.dataWritable, bind_ok]
    rfl
  · rw [hQueue]
    exact hHosts
  · rw [hQueue, hLength]
  · rw [hQueue, hSame]
    exact hLamports
  · rw [← hSent.dataKey]
    exact hOracle.store _

end Growing

end

/-! ## All calls -/

theorem divCeil_bounds {a b : Nat} (ha : 0 < a) (hb : 0 < b) :
    b * (divCeil a b - 1) < a ∧ a ≤ b * divCeil a b := by
  have hDiv := Nat.div_add_mod a b
  have hMod := Nat.mod_lt a hb
  unfold divCeil
  split
  · rename_i hExact
    have hPos : 0 < a / b := Nat.div_pos (Nat.le_of_dvd ha (Nat.dvd_of_mod_eq_zero hExact)) hb
    have hLess : b * (a / b - 1) < b * (a / b) := Nat.mul_lt_mul_of_pos_left (by omega) hb
    rw [Nat.add_zero]
    omega
  · rw [Nat.add_sub_cancel, Nat.mul_add, Nat.mul_one]
    omega

namespace World

variable {rt : Runtime} {w : World} {accounts : List AccountInfo} {data rest : List UInt8}

theorem execute_opening (hParse : parseInstruction8 ID data = .ok (.initializeOracleQueue, rest)) :
    w.execute rt accounts data = processInitializeOracleQueue rt accounts rest w.ledger := by
  rw [World.execute, processInstruction, hParse, bind_ok]

theorem initialize_refused (rt : Runtime)
    (hParse : parseInstruction8 ID data = .ok (.initializeOracleQueue, rest)) {a : AccountInfo}
    (ha : accounts[3]? = some a) (hQueue : IsQueue (w.ledger a.key)) :
    w.receipt rt (.call accounts data) = none ∧ w.next rt (.call accounts data) = w := by
  rw [World.receipt, World.next]
  cases hExecute : w.execute rt accounts data with
  | error e => exact ⟨rfl, rfl⟩
  | ok result =>
    rw [execute_opening hParse] at hExecute
    obtain ⟨_, _, _, _, _, _, _, _, rfl, -, -, -, -, hZero, -⟩ := processInitializeOracleQueue_eq_ok hExecute
    cases ha
    exact absurd hQueue (not_queue_of_zero hZero)

end World

namespace ChainRun

variable {rt : Runtime} (run : ChainRun rt)

theorem initializes {m : Nat} {infos : List AccountInfo} {args : List UInt8} {l' : Ledger} {receipt : Receipt}
    (hEvent : run.event m = .call infos (SolanaVrfInstruction.initializeOracleQueue.toBytes args))
    (hOk : processInitializeOracleQueue rt infos args (run.ledger m) = .ok (l', receipt)) :
    run.receipt m = some receipt ∧ run.ledger (m + 1) = l' := by
  have hExecute := (World.execute_opening (parseInstruction8_toBytes _ args)).trans hOk
  constructor
  · rw [ChainRun.receipt, hEvent, World.receipt, hExecute]
  · change (World.next rt (run.state m) (run.event m)).ledger = l'
    rw [hEvent, World.next, hExecute]

end ChainRun

section

variable {rt : Runtime} {run : ChainRun rt} {signer identity : Pubkey} {index : UInt8} {targetSize : UInt32}
  {o : Oracle} {total n : Nat}

def Calls (run : ChainRun rt) (n : Nat) (ixs : List Instruction) : Prop :=
  ∀ i ix, ixs[i]? = some ix → ∃ infos, Passes ∅ ix.accounts infos ∧ run.event (n + i) = .call infos ix.data

theorem Calls.sent {bytesToAllocate : Option UInt32} {i : Nat}
    (h : Calls run n (Sdk.initializeOracleQueue rt.toEnvironment signer identity index bytesToAllocate))
    (hi : i < divCeil (bytesToAllocate.getD 9500).toNat 10240) :
    ∃ signerInfo oracleInfo oracleDataInfo oracleQueueInfo systemProgram,
      run.event (n + i) = .call [signerInfo, oracleInfo, oracleDataInfo, oracleQueueInfo, systemProgram]
        (SolanaVrfInstruction.initializeOracleQueue.toBytes
          (InitializeOracleQueue.layout.encode (.new index (bytesToAllocate.getD 9500)))) ∧
      Sent rt signer identity index signerInfo oracleInfo oracleDataInfo oracleQueueInfo systemProgram := by
  obtain ⟨infos, hPasses, hEvent⟩ := h i _ (List.getElem?_replicate_of_lt hi)
  have hAllowed := run.allowed_at (n + i)
  rw [hEvent] at hAllowed
  obtain ⟨signerInfo, oracleInfo, oracleDataInfo, oracleQueueInfo, systemProgram, rfl, hSent⟩ := hPasses.sent hAllowed
  exact ⟨signerInfo, oracleInfo, oracleDataInfo, oracleQueueInfo, systemProgram, hEvent, hSent⟩

theorem Calls.growing {bytesToAllocate : Option UInt32}
    (h : Calls run n (Sdk.initializeOracleQueue rt.toEnvironment signer identity index bytesToAllocate))
    (hMax : bytesToAllocate.getD 9500 ≤ MAX_QUEUE_ACCOUNT_SIZE) (hMonotone : Monotone rt.minimumBalance)
    (hRent : rt.minimumBalance (bytesToAllocate.getD 9500).toNat ≤ total)
    (hStart : Growing rt signer identity index o total 0 (run.ledger n)) (i : Nat)
    (hi : 10240 * i < (bytesToAllocate.getD 9500).toNat) :
    Growing rt signer identity index o total i (run.ledger (n + i)) ∧
      ∀ j < i, run.receipt (n + j) = some .other := by
  induction i with
  | zero => exact ⟨hStart, fun j hj => absurd hj (Nat.not_lt_zero j)⟩
  | succ i ih =>
    obtain ⟨hGrowing, hReceipts⟩ := ih (by omega)
    have hPos : 0 < (bytesToAllocate.getD 9500).toNat := Nat.lt_of_le_of_lt (Nat.zero_le _) hi
    obtain ⟨-, hCeil⟩ := divCeil_bounds hPos (b := 10240) (by decide)
    obtain ⟨signerInfo, oracleInfo, oracleDataInfo, oracleQueueInfo, systemProgram, hEvent, hSent⟩ :=
      h.sent (i := i) (by omega)
    have hChunk : rt.minimumBalance (10240 * (i + 1)) ≤ total := (hMonotone (Nat.le_of_lt hi)).trans hRent
    obtain ⟨l', hOk, hNext⟩ := hGrowing.grow hSent hMax hi hChunk
    obtain ⟨hReceipt, rfl⟩ := run.initializes hEvent hOk
    refine ⟨hNext, fun j hj => ?_⟩
    obtain hj | rfl := Nat.lt_succ_iff_lt_or_eq.mp hj
    · exact hReceipts j hj
    · exact hReceipt

end

/-- The calls of the SDK, in order, on a queue address that was never used or only sent lamports: each
succeeds and adds a chunk at most, the account stays zeroed until the last one makes it an empty queue
of exactly the target size, and from then on the instruction is refused. -/
theorem sdk_calls_initialize_queue (rt : Runtime) (hMonotone : Monotone rt.minimumBalance) (run : ChainRun rt)
    (hApart : DerivesApart rt.toEnvironment run.identities) (signer identity k : Pubkey) (index : UInt8)
    (hk : k = (rt.oracleQueuePda identity index).1) (bytesToAllocate : Option UInt32) (size : Nat)
    (hSize : size = (bytesToAllocate.getD 9500).toNat) (hMin : 20 ≤ size) (hMax : size ≤ 524288) (n : Nat)
    (o : Oracle) (hKnown : identity ∈ run.identities)
    (hOracle : IsOracle (run.ledger n (rt.oracleDataPda identity).1) o) (hUnborn : Unborn (run.ledger n k))
    (hWallet : Unborn (run.ledger n signer))
    (hFunds : rt.minimumBalance size ≤ (run.ledger n signer).lamports + (run.ledger n k).lamports)
    (hSupply : (run.ledger n signer).lamports + (run.ledger n k).lamports < u64Limit) (ixs : List Instruction)
    (hIxs : ixs = Sdk.initializeOracleQueue rt.toEnvironment signer identity index bytesToAllocate)
    (hCalls : Calls run n ixs) :
    (∀ ix ∈ ixs, ix.programId = ID) ∧ 10240 * (ixs.length - 1) < size ∧ size ≤ 10240 * ixs.length ∧
    (∀ i < ixs.length, (run.receipt (n + i)).isSome = true ∧ (∀ b ∈ (run.ledger (n + i) k).data, b = 0) ∧
      (run.ledger (n + i + 1) k).data.length ≤ (run.ledger (n + i) k).data.length + 10240) ∧
    (run.ledger (n + ixs.length) k).owner = ID ∧ (run.ledger (n + ixs.length) k).data.length = size ∧
    (∃ q, QueueAccount.load (run.ledger (n + ixs.length) k).data = .ok q ∧
      (run.ledger (n + ixs.length) k).data = AccountDiscriminator.queue.toBytes ++ q.acc ∧
      q.header.index = index ∧ q.header.itemCount = 0 ∧ q.header.paused = 0 ∧ q.header.cursor = 16 ∧
      ∀ b ∈ q.acc.drop 12, b = 0) ∧
    rt.minimumBalance size ≤ (run.ledger (n + ixs.length) k).lamports ∧
    (∃ o', IsOracle (run.ledger (n + ixs.length) (rt.oracleDataPda identity).1) o' ∧
      o' = { o with openQueues := o'.openQueues } ∧ o'.openQueues.toNat = o.openQueues.toNat + 1) ∧
    ∀ (accounts : List AccountInfo) (data rest : List UInt8) (a : AccountInfo),
      parseInstruction8 ID data = .ok (.initializeOracleQueue, rest) → accounts[3]? = some a → a.key = k →
      (run.state (n + ixs.length)).receipt rt (.call accounts data) = none ∧
        (run.state (n + ixs.length)).next rt (.call accounts data) = run.state (n + ixs.length) := by
  subst hk hSize
  have hLength : ixs.length = divCeil (bytesToAllocate.getD 9500).toNat 10240 := by
    rw [hIxs]
    exact List.length_replicate
  have hProgram : ∀ ix ∈ ixs, ix.programId = ID := by
    intro ix hix
    rw [hIxs] at hix
    rw [List.eq_of_mem_replicate hix]
  obtain ⟨hLess, hEnough⟩ := divCeil_bounds (Nat.lt_of_lt_of_le (by decide) hMin) (b := 10240) (by decide)
  rw [← hLength] at hLess hEnough
  obtain ⟨last, hLast⟩ : ∃ last, ixs.length = last + 1 := Nat.exists_eq_succ_of_ne_zero (by omega)
  subst hIxs
  rw [hLast, Nat.add_sub_cancel] at hLess
  rw [hLast] at hEnough ⊢
  have hCap : bytesToAllocate.getD 9500 ≤ MAX_QUEUE_ACCOUNT_SIZE := UInt32.le_iff_toNat_le.mpr hMax
  have hStart : Growing rt signer identity index o _ 0 (run.ledger n) :=
    ⟨⟨hSupply, hWallet.1, hWallet.2, rfl⟩, Or.inr hUnborn, hUnborn.2, hOracle⟩
  have hGrowing (i : Nat) (hi : i ≤ last) := hCalls.growing hCap hMonotone hFunds hStart i (by omega)
  -- the last call
  obtain ⟨hBefore, hReceipts⟩ := hGrowing last (Nat.le_refl last)
  obtain ⟨signerInfo, oracleInfo, oracleDataInfo, oracleQueueInfo, systemProgram, hEvent, hSent⟩ :=
    hCalls.sent (i := last) (by omega)
  obtain ⟨l', hOk, ⟨q, hHosts, hPristine⟩, hBytes, hLamports, hCounted⟩ :=
    hBefore.finish hSent hCap hMin hEnough hFunds
  obtain ⟨hReceipt, rfl⟩ := run.initializes hEvent hOk
  obtain ⟨enrolment, hEnrols⟩ := run.exists_enrolment hApart hKnown
  have hCount := ((hEnrols.enrolled n).key_of_oracle hOracle).2
  have hFew := card_le_256 (enrolment n).queues
  refine ⟨hProgram, hLess, hEnough, fun i hi => ?_, hHosts.owner, hBytes, ?_, hLamports, ?_, ?_⟩
  · obtain ⟨hHere, -⟩ := hGrowing i (Nat.le_of_lt_succ hi)
    have hNow : (run.ledger (n + i) (rt.oracleQueuePda identity index).1).data.length = 10240 * i := by
      rw [hHere.data, List.length_replicate]
    rw [hNow]
    obtain hi | rfl := Nat.lt_succ_iff_lt_or_eq.mp hi
    · obtain ⟨hNext, -⟩ := hGrowing (i + 1) hi
      refine ⟨by rw [hReceipts i hi]; rfl, hHere.zero, ?_⟩
      rw [Nat.add_assoc, hNext.data, List.length_replicate]
      omega
    · refine ⟨by rw [hReceipt]; rfl, hHere.zero, ?_⟩
      rw [hBytes]
      omega
  · have hEmpty : q.header.itemCount = 0 := UInt32.toNat_inj.mp hHosts.represents.count
    have hLoad := hHosts.represents.load_eq
    rw [← hHosts.data] at hLoad
    exact ⟨q, hLoad, hHosts.data, hPristine.index, hEmpty, hPristine.paused, hHosts.represents.cursor_of_nil,
      hPristine.zero⟩
  · exact ⟨_, hCounted, rfl, saturatingIncr_toNat (by omega)⟩
  · intro accounts data rest a hParse ha hKey
    refine World.initialize_refused rt hParse ha ?_
    rw [hKey]
    exact hHosts.isQueue

namespace Sample

/-- The first of two calls for a queue of 10300 bytes, and the second. -/
def opening : Event :=
  .call [signer payer, signer oracle, writable oracleDataKey, writable queueKey, writable systemProgramId]
    (SolanaVrfInstruction.initializeOracleQueue.toBytes (InitializeOracleQueue.layout.encode (.new 0 10300)))

def openings : ChainRun (runtimeWith [] []) :=
  runWith table_nil (events.take 2 ++ [opening, opening]) Sample.clock (by decide +kernel)

theorem opening_identity {w : World} {receipt : Receipt} {o : Pubkey}
    (hReceipt : w.receipt (runtimeWith [] []) opening = some receipt) (hIdentity : receipt.identity? = some o) :
    o = oracle := by
  rw [opening, World.receipt, World.execute_opening (parseInstruction8_toBytes _ _)] at hReceipt
  split at hReceipt
  · rename_i hOk
    obtain ⟨_, _, _, _, _, _, _, _, hAccounts, -, -, -, -, -, -, hCases⟩ := processInitializeOracleQueue_eq_ok hOk
    cases hReceipt
    cases hAccounts
    obtain ⟨-, rfl⟩ | ⟨-, rfl, -⟩ := hCases
    · cases hIdentity
    · exact (Option.some.inj hIdentity).symm
  · cases hReceipt

theorem openings_identities : openings.identities ⊆ {oracle} := by
  rintro o ⟨n, receipt, hReceipt, hIdentity⟩
  have hFirst : openings.receipt 0 = some .other := by decide +kernel
  have hSecond : openings.receipt 1 = some (.registered oracle vrfPubkey) := by decide +kernel
  rcases n with _ | _ | _ | _ | n
  · rw [hFirst] at hReceipt
    cases hReceipt
    cases hIdentity
  · rw [hSecond] at hReceipt
    cases hReceipt
    exact (Option.some.inj hIdentity).symm
  · exact opening_identity hReceipt hIdentity
  · exact opening_identity hReceipt hIdentity
  · cases hReceipt

theorem opening_passes :
    Passes ∅ (Sdk.initializeOracleQueueAccounts (runtimeWith [] []).toEnvironment payer oracle 0)
      [signer payer, signer oracle, writable oracleDataKey, writable queueKey, writable systemProgramId] where
  keys := by decide +kernel
  signers := by decide +kernel
  writable := by
    have hAll : ∀ a ∈ [signer payer, signer oracle, writable oracleDataKey, writable queueKey,
        writable systemProgramId], a.isWritable = true := by decide +kernel
    exact fun _ _ _ _ a ha _ => hAll a ha

theorem openings_calls :
    Calls openings 2 (Sdk.initializeOracleQueue (runtimeWith [] []).toEnvironment payer oracle 0 (some 10300)) := by
  intro i ix hix
  change (List.replicate 2 _)[i]? = some ix at hix
  rw [List.getElem?_replicate] at hix
  split at hix
  · cases hix
    refine ⟨_, opening_passes, ?_⟩
    obtain rfl | rfl : i = 0 ∨ i = 1 := by omega
    · rfl
    · rfl
  · cases hix

theorem openings_isOracle :
    IsOracle (openings.ledger 2 ((runtimeWith [] []).oracleDataPda oracle).1) ⟨vrfPubkey, 100, 0⟩ := by
  constructor <;> decide +kernel

end Sample

/-- A queue of 10300 bytes takes two calls. -/
theorem sdk_calls_initialize_queue_two :
    (Sdk.initializeOracleQueue (Sample.runtimeWith [] []).toEnvironment Sample.payer Sample.oracle 0
      (some 10300)).length = 2 ∧
    (∀ b ∈ (Sample.openings.ledger 3 Sample.queueKey).data, b = 0) ∧
    (Sample.openings.ledger 4 Sample.queueKey).owner = ID ∧
    (Sample.openings.ledger 4 Sample.queueKey).data.length = 10300 ∧
    (Sample.openings.receipt 3).isSome = true := by
  have hApart := Sample.derivesApart_of Sample.findProgramAddress_with_nil Sample.openings_identities
  have hMonotone : Monotone (Sample.runtimeWith [] []).minimumBalance := by
    intro a b hab
    exact Nat.mul_le_mul_right 6960 (Nat.add_le_add_left hab 128)
  have hKnown : Sample.oracle ∈ Sample.openings.identities :=
    ⟨1, .registered Sample.oracle Sample.vrfPubkey, by decide +kernel, rfl⟩
  obtain ⟨-, -, -, hSteps, hOwner, hLength, -⟩ := sdk_calls_initialize_queue (Sample.runtimeWith [] []) hMonotone
    Sample.openings hApart Sample.payer Sample.oracle Sample.queueKey 0 Sample.queueKey_with_nil (some 10300) 10300 rfl
    (by decide) (by decide) 2 _ hKnown Sample.openings_isOracle ⟨by decide +kernel, by decide +kernel⟩
    ⟨by decide +kernel, by decide +kernel⟩ (by decide +kernel) (by decide +kernel) _ rfl Sample.openings_calls
  obtain ⟨hReceipt, hZero, -⟩ := hSteps 1 (by decide)
  exact ⟨rfl, hZero, hOwner, hLength, hReceipt⟩

end SolanaVrf
