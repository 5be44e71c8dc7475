import SolanaVrf.Program.Requests

/-! # Oracles, queue creation, closing and delegation, and the entry point

A queue is created over several calls, each growing the account by at most 10240 bytes;
the last one writes the discriminator and counts the queue in the oracle's account.
-/

namespace SolanaVrf
set_option autoImplicit false

open Pod Borsh Slices Fallible AccountInfoValidation

/-! ## The oracle registry -/

structure Oracles where
  oracles : List Pubkey
deriving DecidableEq

namespace Oracles

def codec : Codec Oracles :=
  (Codec.ofLayout (Layout.bytes 32)).vec.via ⟨fun f => ⟨f⟩, fun o => o.oracles, fun _ => rfl, fun _ => rfl⟩

def toBytesWithDiscriminator (o : Oracles) : Except Fault (List UInt8) := do
  require (o.oracles.length < 2 ^ 32) (Fault.program .invalidAccountData)
  return AccountDiscriminator.oracles.toBytes ++ codec.encode o

def tryFromBytesWithDiscriminator (data : List UInt8) : Except Fault Oracles := do
  require (8 ≤ data.length) (Fault.program .invalidAccountData)
  require (AccountDiscriminator.oracles.toBytes = data.take 8) (Fault.program .invalidAccountData)
  okOr (codec.decodeAll (data.drop 8)) (Fault.program .invalidAccountData)

theorem tryFromBytes_toBytes {o : Oracles} {bytes : List UInt8} (h : o.toBytesWithDiscriminator = .ok bytes) :
    tryFromBytesWithDiscriminator bytes = .ok o := by
  obtain ⟨hLength, h⟩ := require_bind_eq_ok.mp h
  cases h
  have hValid : codec.valid o := ⟨hLength, fun _ _ => trivial⟩
  have hTag := AccountDiscriminator.length_toBytes .oracles
  rw [tryFromBytesWithDiscriminator, List.take_left' hTag, List.drop_left' hTag]
  refine require_bind_eq_ok.mpr ⟨by rw [List.length_append, hTag]; omega, require_bind_eq_ok.mpr ⟨rfl, ?_⟩⟩
  exact okOr_eq_ok.mpr ((codec.decodeAll_eq_some_iff _ _).mpr ⟨hValid, rfl⟩)

def sizeWithDiscriminator (o : Oracles) : Nat := 8 + 4 + 32 * o.oracles.length

theorem length_toBytes {o : Oracles} {bytes : List UInt8} (h : o.toBytesWithDiscriminator = .ok bytes) :
    bytes.length = o.sizeWithDiscriminator := by
  obtain ⟨-, h⟩ := require_bind_eq_ok.mp h
  cases h
  have hKeys (keys : List Pubkey) : (keys.flatMap (Layout.bytes 32).encode).length = 32 * keys.length := by
    induction keys with
    | nil => rfl
    | cons key keys ih =>
      rw [List.flatMap_cons, List.length_append, ih, (Layout.bytes 32).length_encode, List.length_cons]
      change 32 + _ = _
      omega
  have hEncoded : (codec.encode o).length = 4 + 32 * o.oracles.length := by
    change (toLe 4 o.oracles.length ++ o.oracles.flatMap (Layout.bytes 32).encode).length = _
    rw [List.length_append, length_toLe, hKeys]
  rw [List.length_append, AccountDiscriminator.length_toBytes, hEncoded, sizeWithDiscriminator]
  omega

end Oracles

/-- `copy_from_slice` into the whole account panics unless the lengths agree. -/
def overwrite (l : Ledger) (k : Pubkey) (bytes : List UInt8) : Except Fault Ledger := do
  require ((l k).data.length = bytes.length) Fault.panicked
  return l.setData k bytes

def processInitialize (rt : Runtime) (accounts : List AccountInfo) (l : Ledger) :
    Except Fault (Ledger × Receipt) :=
  match accounts with
  | [signerInfo, oraclesInfo, systemProgram] => do
    isSigner signerInfo
    isEmpty l oraclesInfo
    isWritable oraclesInfo
    hasSeeds rt.toEnvironment oraclesInfo [ORACLES] ID
    let oraclesBytes ← Oracles.toBytesWithDiscriminator ⟨[]⟩
    let l ← createPda rt oraclesInfo oraclesBytes.length [ORACLES] rt.oraclesPda.2 systemProgram signerInfo l
    let l ← overwrite l oraclesInfo.key oraclesBytes
    return (l, .other)
  | _ => throw (Fault.program .notEnoughAccountKeys)

def addOracle (rt : Runtime) (clock : Clock) (args : ModifyOracle)
    (oracleDataInfo systemProgram signerInfo : AccountInfo) (l : Ledger) : Except Fault Ledger := do
  let l ← createProgramAccount rt Oracle.account oracleDataInfo systemProgram signerInfo
    [ORACLE_DATA, args.identity.toList] l
  let oracleData ← Oracle.account.asAccountMut l oracleDataInfo ID
  return Oracle.account.store l oracleDataInfo
    { oracleData with vrfPubkey := args.oraclePubkey, registrationSlot := clock.slot }

def removeOracle (oracleDataInfo signerInfo : AccountInfo) (l : Ledger) : Except Fault Ledger := do
  let oracleData ← Oracle.account.asAccount l oracleDataInfo ID
  require (oracleData.openQueues = 0) ↑SolanaVrfError.queueNotEmpty
  closeAccount oracleDataInfo signerInfo l

/-- Operation 0 adds the identity, operation 1 removes it. -/
def applyOperation (rt : Runtime) (clock : Clock) (args : ModifyOracle)
    (oracleDataInfo systemProgram signerInfo : AccountInfo) (oracles : Oracles) (l : Ledger) :
    Except Fault (Oracles × Ledger) :=
  if args.operation = 0 then do
    let l ← addOracle rt clock args oracleDataInfo systemProgram signerInfo l
    return (⟨oracles.oracles ++ [args.identity]⟩, l)
  else if args.operation = 1 then do
    let l ← removeOracle oracleDataInfo signerInfo l
    return (⟨oracles.oracles.filter (· ≠ args.identity)⟩, l)
  else throw (Fault.program .invalidArgument)

def validateIdentity (rt : Runtime) (args : ModifyOracle) : Except Fault Unit := do
  require (args.identity ≠ systemProgramId ∧ rt.validateEdwards args.identity = true)
    ↑SolanaVrfError.invalidOracleIdentity
  require (args.operation = 0 → args.oraclePubkey.toList ≠ List.replicate 32 0 ∧
    rt.validateRistretto args.oraclePubkey = true) ↑SolanaVrfError.invalidOracleIdentity

def checkAdmin (rt : Runtime) (signerInfo programDataInfo : AccountInfo) (l : Ledger) : Except Fault Unit := do
  let authority ← loadProgramUpgradeAuthority rt.toEnvironment l ID programDataInfo
  let adminPubkey ← okOr authority ↑SolanaVrfError.unauthorized
  require (signerInfo.key = adminPubkey) ↑SolanaVrfError.unauthorized

def processModifyOracles (rt : Runtime) (clock : Clock) (accounts : List AccountInfo) (data : List UInt8)
    (l : Ledger) : Except Fault (Ledger × Receipt) := do
  let args ← parseArgs ModifyOracle.layout data
  validateIdentity rt args
  match accounts with
  | [signerInfo, oraclesInfo, oracleDataInfo, programDataInfo, systemProgram] => do
    isSigner signerInfo
    checkAdmin rt signerInfo programDataInfo l
    isWritable oraclesInfo
    hasSeeds rt.toEnvironment oraclesInfo [ORACLES] ID
    isWritable oracleDataInfo
    hasSeeds rt.toEnvironment oracleDataInfo [ORACLE_DATA, args.identity.toList] ID
    let oracles ← Oracles.tryFromBytesWithDiscriminator (l oraclesInfo.key).data
    let (oracles, l) ← applyOperation rt clock args oracleDataInfo systemProgram signerInfo oracles l
    let l ← resizePda rt signerInfo oraclesInfo systemProgram oracles.sizeWithDiscriminator l
    let oraclesBytes ← oracles.toBytesWithDiscriminator
    let l ← overwrite l oraclesInfo.key oraclesBytes
    return (l, if args.operation = 0 then .registered args.identity args.oraclePubkey
      else .unregistered args.identity)
  | _ => throw (Fault.program .notEnoughAccountKeys)

/-! ## Queues -/

def saturatingIncr (n : UInt64) : UInt64 := if n.toNat + 1 < 2 ^ 64 then n + 1 else n

def saturatingDecr (n : UInt64) : UInt64 := if n = 0 then 0 else n - 1

def updateOpenQueues (update : UInt64 → UInt64) (oracleDataInfo : AccountInfo) (l : Ledger) :
    Except Fault Ledger := do
  let oracleData ← Oracle.account.asAccountMut l oracleDataInfo ID
  return Oracle.account.store l oracleDataInfo { oracleData with openQueues := update oracleData.openQueues }

def createOrResize (rt : Runtime) (oracleQueueInfo : AccountInfo) (size : Nat) (seeds : List (List UInt8))
    (bump : UInt8) (systemProgram signerInfo : AccountInfo) (l : Ledger) : Except Fault Ledger :=
  if (l oracleQueueInfo.key).owner ≠ ID then
    createPda rt oracleQueueInfo size seeds bump systemProgram signerInfo l
  else resizePda rt signerInfo oracleQueueInfo systemProgram size l

def writeQueueHeader (index : UInt8) (queue : Pubkey) (l : Ledger) : Except Fault Ledger := do
  require (8 ≤ (l queue).data.length) Fault.panicked
  let l := l.setData queue (AccountDiscriminator.queue.toBytes ++ (l queue).data.drop 8)
  let q ← openQueue l queue
  return storeQueue l queue (q.setIndex index)

def processInitializeOracleQueue (rt : Runtime) (accounts : List AccountInfo) (data : List UInt8) (l : Ledger) :
    Except Fault (Ledger × Receipt) := do
  let args ← parseArgs InitializeOracleQueue.layout data
  match accounts with
  | [signerInfo, oracleInfo, oracleDataInfo, oracleQueueInfo, systemProgram] => do
    isSigner signerInfo
    isSigner oracleInfo
    hasSeeds rt.toEnvironment oracleDataInfo [ORACLE_DATA, oracleInfo.key.toList] ID
    isWritable oracleQueueInfo
    hasSeeds rt.toEnvironment oracleQueueInfo [QUEUE, oracleInfo.key.toList, [args.index]] ID
    isEmptyOrZeroed l oracleQueueInfo
    let seeds := [QUEUE, oracleInfo.key.toList, [args.index]]
    let bump := (rt.findProgramAddress seeds ID).2
    let targetSize := args.targetSize.toNat
    require (args.targetSize ≤ MAX_QUEUE_ACCOUNT_SIZE) ↑SolanaVrfError.queueSizeTooLarge
    let currentSize := (l oracleQueueInfo.key).data.length
    let extraBytes := targetSize - currentSize
    if extraBytes > MAX_EXTRA_BYTES then do
      let l ← createOrResize rt oracleQueueInfo (currentSize + MAX_EXTRA_BYTES) seeds bump systemProgram
        signerInfo l
      return (l, .other)
    else do
      let l ← createOrResize rt oracleQueueInfo targetSize seeds bump systemProgram signerInfo l
      let l ← writeQueueHeader args.index oracleQueueInfo.key l
      let l ← updateOpenQueues saturatingIncr oracleDataInfo l
      return (l, .opened oracleInfo.key args.index)
  | _ => throw (Fault.program .notEnoughAccountKeys)

def processCloseOracleQueue (rt : Runtime) (accounts : List AccountInfo) (data : List UInt8) (l : Ledger) :
    Except Fault (Ledger × Receipt) := do
  let index ← parseArgs queueIndexLayout data
  match accounts with
  | [oracleInfo, oracleDataInfo, oracleQueueInfo] => do
    isSigner oracleInfo
    isWritable oracleDataInfo
    hasOwner l oracleDataInfo ID
    hasSeeds rt.toEnvironment oracleDataInfo [ORACLE_DATA, oracleInfo.key.toList] ID
    isWritable oracleQueueInfo
    hasOwner l oracleQueueInfo ID
    hasSeeds rt.toEnvironment oracleQueueInfo [QUEUE, oracleInfo.key.toList, [index]] ID
    let _ ← queueHeader l oracleQueueInfo.key
    let q ← openQueue l oracleQueueInfo.key
    require (q.isEmpty = true) ↑SolanaVrfError.queueNotEmpty
    let l := storeQueue l oracleQueueInfo.key q
    let l ← updateOpenQueues saturatingDecr oracleDataInfo l
    let l ← closeAccount oracleQueueInfo oracleInfo l
    return (l, .closed oracleInfo.key index oracleQueueInfo.key)
  | _ => throw (Fault.program .notEnoughAccountKeys)

def processDelegateOracleQueue (rt : Runtime) (accounts : List AccountInfo) (data : List UInt8) (l : Ledger) :
    Except Fault (Ledger × Receipt) := do
  let index ← parseArgs queueIndexLayout data
  match accounts with
  | [authorityInfo, oracleQueueInfo, _, _, _, _, ownerProgram, _] => do
    isSigner authorityInfo
    hasAddress ownerProgram ID
    let pdaSeeds := [QUEUE, authorityInfo.key.toList, [index]]
    isWritable oracleQueueInfo
    hasOwner l oracleQueueInfo ID
    hasSeeds rt.toEnvironment oracleQueueInfo pdaSeeds ID
    let queue ← queueHeader l oracleQueueInfo.key
    let variableRegion := (l oracleQueueInfo.key).data.drop (8 + Queue.layout.size)
    require (queue.itemCount = 0 ∧ (variableRegion.any fun b => b != 0) = false)
      ↑SolanaVrfError.queueAlreadyInUse
    let l ← rt.delegateAccountWithAnyValidator accounts pdaSeeds oracleQueueInfo.key l
    return (l, .delegated authorityInfo.key index oracleQueueInfo.key)
  | _ => throw (Fault.program .notEnoughAccountKeys)

/-! ## The entry point -/

def processInstruction (rt : Runtime) (clock : Clock) (programId : Pubkey) (accounts : List AccountInfo)
    (data : List UInt8) (l : Ledger) : Except Fault (Ledger × Receipt) := do
  let (ix, data) ← parseInstruction8 programId data
  match ix with
  | .initializeProgram => processInitialize rt accounts l
  | .modifyOracle => processModifyOracles rt clock accounts data l
  | .initializeOracleQueue => processInitializeOracleQueue rt accounts data l
  | .requestHighPriorityRandomness => processRequestRandomness rt clock accounts data true false l
  | .requestRandomness => processRequestRandomness rt clock accounts data false false l
  | .requestHighPriorityRandomnessScoped => processRequestRandomness rt clock accounts data true true l
  | .requestRandomnessScoped => processRequestRandomness rt clock accounts data false true l
  | .provideRandomness => processProvideRandomness rt clock accounts data l
  | .delegateOracleQueue => processDelegateOracleQueue rt accounts data l
  | .closeOracleQueue => processCloseOracleQueue rt accounts data l
  | .purgeExpiredRequests => processPurgeExpiredRequests rt clock accounts data l
  | .setQueuePaused => processSetQueuePaused rt accounts data l

end SolanaVrf
