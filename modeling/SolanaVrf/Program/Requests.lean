import SolanaVrf.Program.Fees
import SolanaVrf.Api.Instruction
import SolanaVrf.Api.Verify

/-! # Requesting, providing and purging randomness

Each instruction is a function of the clock, the accounts, its data and the ledger. The
receipt next to the new ledger names what the instruction did; the program itself reads
none of it.
-/

namespace SolanaVrf
set_option autoImplicit false

open Pod Slices Fallible AccountInfoValidation

/-- An accepted request: what was asked for, what the id was derived from, what was charged. -/
structure Accepted where
  queue : Pubkey
  args : RequestRandomness
  highPriority : Bool
  isScoped : Bool
  slothash : Bytes 32
  clock : Clock
  position : UInt32
  charged : Nat
deriving DecidableEq

structure Prepared where
  oracle : AccountInfo
  oracleData : AccountInfo
  queue : AccountInfo
  args : ProvideRandomness
  vrfPubkey : Bytes 32
  index : Nat
  item : QueueItem
  invocation : Invocation
deriving DecidableEq

inductive Receipt
  | requested (accepted : Accepted)
  | provided (prepared : Prepared) (paid : Nat)
  | purged (queue oracle : Pubkey) (paid : Nat)
  | registered (identity : Pubkey) (vrfPubkey : Bytes 32)
  | unregistered (identity : Pubkey)
  | opened (identity : Pubkey) (index : UInt8)
  | closed (identity : Pubkey) (index : UInt8) (queue : Pubkey)
  | delegated (identity : Pubkey) (index : UInt8) (queue : Pubkey)
  | other
deriving DecidableEq

/-! ## Requests -/

def idPreimage (args : RequestRandomness) (slothash : Bytes 32) (clock : Clock) (idx : UInt32) :
    List (List UInt8) :=
  [args.callerSeed.toList, toLe 8 clock.slot.toNat, slothash.toList, args.callbackDiscriminator,
    args.callbackProgramId.toList, toLe 8 clock.unixTimestamp.toUInt64.toNat, toLe 4 idx.toNat]

def requestId (sys : Syscalls) (args : RequestRandomness) (slothash : Bytes 32) (clock : Clock)
    (idx : UInt32) : Bytes 32 :=
  sys.hashv (idPreimage args slothash clock idx)

def baseItem (args : RequestRandomness) (clock : Clock) (highPriority isScoped : Bool) (identityBump : UInt8) :
    QueueItem where
  slot := clock.slot
  id := List.Vector.replicate 32 0
  callbackProgramId := args.callbackProgramId
  callbackDiscriminatorOffset := 0
  metasOffset := 0
  argsOffset := 0
  callbackDiscriminatorLen := 0
  metasLen := 0
  argsLen := 0
  priorityRequest := highPriority.toUInt8
  used := 1
  identityMode := isScoped.toUInt8
  identityBump := identityBump
  createdAt := QueueItem.createdAtFrom clock.unixTimestamp

/-- Inserts the request; the closure that derives the id logs the position it is given. -/
def enqueue (rt : Runtime) (clock : Clock) (args : RequestRandomness) (slothash : Bytes 32)
    (highPriority isScoped : Bool) (identityBump : UInt8) (queue : Pubkey) (l : Ledger) :
    Except Fault (Ledger × UInt32) := do
  let _ ← queueHeader l queue
  let q ← openQueue l queue
  require (q.header.paused = 0) ↑SolanaVrfError.queuePaused
  require (args.callbackDiscriminator.length ≤ 8) ↑SolanaVrfError.argumentSizeTooLarge
  let metas := args.callbackAccountsMetas.map CompactAccountMeta.ofSerializable
  match q.addItemWithId (baseItem args clock highPriority isScoped identityBump) args.callbackDiscriminator
      metas args.callbackArgs (fun _ idx => (requestId rt.toSyscalls args slothash clock idx, idx)) 0 with
  | none => throw Fault.panicked
  | some (.error e, _, _) => throw (Fault.program e)
  | some (.ok _, q, position) => return (storeQueue l queue q, position)

/-- The requester pays the queue, unless the queue is exempt. -/
def charge (queue : AccountInfo) (highPriority : Bool) (signer systemProgram : AccountInfo) (l : Ledger) :
    Except Fault Ledger :=
  if isFeeExemptEphemeralQueue queue.key then .ok l
  else System.transfer signer queue systemProgram (cost highPriority) l

def charged (queue : Pubkey) (highPriority : Bool) : Nat :=
  if isFeeExemptEphemeralQueue queue then 0 else cost highPriority

def processRequestRandomness (rt : Runtime) (clock : Clock) (accounts : List AccountInfo) (data : List UInt8)
    (highPriority isScoped : Bool) (l : Ledger) : Except Fault (Ledger × Receipt) := do
  let args ← RequestRandomness.tryFromBytes data
  let identityBump := if isScoped then (rt.scopedIdentityPda args.callbackProgramId).2 else 0
  match accounts with
  | [signerInfo, programIdentityInfo, oracleQueueInfo, systemProgramInfo, slothashesAccountInfo] => do
    isSigner signerInfo
    hasSeeds rt.toEnvironment programIdentityInfo [IDENTITY] args.callbackProgramId
    isSigner programIdentityInfo
    isWritable oracleQueueInfo
    hasOwner l oracleQueueInfo ID
    isSysvar l slothashesAccountInfo slotHashesId
    let slothash ← okOr (read? (l slothashesAccountInfo.key).data 16 32) Fault.panicked
    let slothash := (Layout.bytes 32).decode slothash
    let (l, position) ← enqueue rt clock args slothash highPriority isScoped identityBump oracleQueueInfo.key l
    let l ← charge oracleQueueInfo highPriority signerInfo systemProgramInfo l
    return (l, .requested ⟨oracleQueueInfo.key, args, highPriority, isScoped, slothash, clock, position,
      charged oracleQueueInfo.key highPriority⟩)
  | _ => throw (Fault.program .notEnoughAccountKeys)

/-! ## Fulfilment -/

/-- The system, token, token-2022, associated-token, metadata, core, delegation and magic programs. -/
def ALLOWED_EXECUTABLE_CALLBACK_ACCOUNTS : List Pubkey :=
  [systemProgramId,
    ⟨[6, 221, 246, 225, 215, 101, 161, 147, 217, 203, 225, 70, 206, 235, 121, 172, 28, 180, 133, 237, 95, 91,
      55, 145, 58, 140, 245, 133, 126, 255, 0, 169], rfl⟩,
    ⟨[6, 221, 246, 225, 238, 117, 143, 222, 24, 66, 93, 188, 228, 108, 205, 218, 182, 26, 252, 77, 131, 185,
      13, 39, 254, 189, 249, 40, 216, 161, 139, 252], rfl⟩,
    ⟨[140, 151, 37, 143, 78, 36, 137, 241, 187, 61, 16, 41, 20, 142, 13, 131, 11, 90, 19, 153, 218, 255, 16,
      132, 4, 142, 123, 216, 219, 233, 248, 89], rfl⟩,
    ⟨[11, 112, 101, 177, 227, 209, 124, 69, 56, 157, 82, 127, 107, 4, 195, 205, 88, 184, 108, 115, 26, 160,
      253, 181, 73, 182, 209, 188, 3, 248, 41, 70], rfl⟩,
    ⟨[175, 84, 171, 16, 189, 151, 165, 66, 160, 158, 247, 179, 152, 137, 221, 12, 211, 148, 164, 204, 233,
      223, 166, 205, 201, 126, 190, 45, 35, 91, 167, 72], rfl⟩,
    delegationProgramId,
    ⟨[5, 69, 180, 36, 176, 218, 112, 149, 236, 185, 214, 222, 195, 119, 215, 40, 145, 182, 231, 142, 146, 234,
      18, 214, 223, 187, 58, 64, 0, 0, 0, 0], rfl⟩]

/-- The native loader, the three BPF loaders and loader v4. -/
def LOADERS : List Pubkey :=
  [⟨[5, 135, 132, 191, 20, 139, 164, 40, 47, 176, 18, 87, 72, 136, 169, 241, 83, 160, 125, 173, 247, 101, 192,
      69, 92, 154, 151, 3, 128, 0, 0, 0], rfl⟩,
    ⟨[2, 168, 246, 145, 78, 136, 161, 107, 189, 35, 149, 133, 95, 100, 4, 217, 180, 244, 86, 183, 130, 27, 176,
      20, 87, 73, 66, 140, 0, 0, 0, 0], rfl⟩,
    ⟨[2, 168, 246, 145, 78, 136, 161, 110, 57, 90, 225, 40, 148, 143, 250, 105, 86, 147, 55, 104, 24, 221, 71,
      67, 82, 33, 243, 198, 0, 0, 0, 0], rfl⟩,
    bpfLoaderUpgradeableId,
    ⟨[5, 18, 180, 17, 81, 81, 227, 122, 173, 10, 139, 197, 211, 136, 46, 123, 127, 218, 76, 243, 210, 192, 40,
      200, 207, 131, 54, 24, 0, 0, 0, 0], rfl⟩]

/-- The hard-coded identity `9irBy75QS2BN81FUgXuHcjqceJJRuc9oDkAe8TKVvvAw` and its bump. -/
def programIdentityPda : Pubkey × UInt8 :=
  (⟨[129, 149, 237, 71, 27, 236, 243, 116, 219, 84, 34, 221, 119, 231, 249, 254, 170, 194, 114, 165, 249, 93,
    38, 97, 146, 155, 47, 105, 113, 22, 94, 252], rfl⟩, 254)

def isProgram (l : Ledger) (a : AccountInfo) : Bool :=
  (l a.key).executable || LOADERS.contains (l a.key).owner

def hasDisallowedExecutableCallbackAccount (l : Ledger) (accounts : List AccountInfo) : Bool :=
  accounts.any fun a => isProgram l a && !ALLOWED_EXECUTABLE_CALLBACK_ACCOUNTS.contains a.key

structure Payload where
  metas : List CompactAccountMeta
  disc : List UInt8
  args : List UInt8
deriving DecidableEq

/-- Finds the request, checks the accounts it names, the slot and the proof, and removes it; the
payload is read from the body that the removal left. -/
def takeRequest (rt : Runtime) (clock : Clock) (oracle : Pubkey) (vrfPubkey : Bytes 32)
    (args : ProvideRandomness) (q : QueueAccount) :
    Except Fault (Nat × QueueItem × Payload × QueueAccount) := do
  let found ← okOr (q.findItemById args.input) Fault.panicked
  let (index, item) ← okOr found ↑SolanaVrfError.randomnessRequestNotFound
  let named ← okOr (item.accountMetas q.acc) Fault.panicked
  require ((named.any fun m => m.pubkey == oracle) = false) ↑SolanaVrfError.invalidCallbackAccounts
  require (item.slot < clock.slot) ↑SolanaVrfError.oracleMustProvideInDifferentSlot
  require (Verify.verifyVrf rt.toSyscalls vrfPubkey args.input args.output
    (args.commitmentBaseCompressed, args.commitmentHashCompressed, args.scalar) = true)
    ↑SolanaVrfError.invalidProof
  let (removed, q) ← okOr (q.removeItem index) Fault.panicked
  let removedItem ← ofProgram removed
  let metas ← okOr (removedItem.accountMetas q.acc) Fault.panicked
  let disc ← okOr (removedItem.callbackDiscriminator q.acc) Fault.panicked
  let argsBytes ← okOr (removedItem.callbackArgs q.acc) Fault.panicked
  return (index, removedItem, ⟨metas, disc, argsBytes⟩, q)

def callbackInstruction (rt : Runtime) (identity : Pubkey) (output : Bytes 32) (item : QueueItem)
    (payload : Payload) : Instruction where
  programId := item.callbackProgramId
  accounts := ⟨identity, true, false⟩ :: payload.metas.map CompactAccountMeta.toAccountMeta
  data := payload.disc ++ (rt.hash output.toList).toList ++ payload.args

/-- The seeds that sign the callback: the scoped identity for a scoped request, else the global one
behind the allow-list. -/
def callbackSeeds (rt : Runtime) (l : Ledger) (identity : AccountInfo) (remaining : List AccountInfo)
    (item : QueueItem) : Except Fault (List (List UInt8)) :=
  if item.identityMode = 1 then do
    let seeds := [IDENTITY, item.callbackProgramId.toList, [item.identityBump]]
    let scopedKey ← okOr (rt.createProgramAddress seeds ID) (Fault.program .invalidSeeds)
    hasAddress identity scopedKey
    return seeds
  else do
    require (hasDisallowedExecutableCallbackAccount l remaining = false)
      ↑SolanaVrfError.invalidCallbackAccounts
    hasAddress identity programIdentityPda.1
    return [IDENTITY, [programIdentityPda.2]]

/-- Everything before `invoke_signed`. -/
def prepareCallback (rt : Runtime) (clock : Clock) (accounts : List AccountInfo) (data : List UInt8)
    (l : Ledger) : Except Fault (Ledger × Prepared) := do
  let args ← parseArgs ProvideRandomness.layout data
  match accounts with
  | oracleInfo :: programIdentityInfo :: oracleDataInfo :: oracleQueueInfo :: callbackProgramInfo ::
      remainingAccounts => do
    isSigner oracleInfo
    hasSeeds rt.toEnvironment oracleDataInfo [ORACLE_DATA, oracleInfo.key.toList] ID
    let oracleData ← Oracle.account.asAccount l oracleDataInfo ID
    let header ← queueHeader l oracleQueueInfo.key
    isWritable oracleQueueInfo
    hasOwner l oracleQueueInfo ID
    hasSeeds rt.toEnvironment oracleQueueInfo [QUEUE, oracleInfo.key.toList, [header.index]] ID
    let q ← openQueue l oracleQueueInfo.key
    let (index, removedItem, payload, q) ← takeRequest rt clock oracleInfo.key oracleData.vrfPubkey args q
    let l := storeQueue l oracleQueueInfo.key q
    hasAddress callbackProgramInfo removedItem.callbackProgramId
    let seeds ← callbackSeeds rt l programIdentityInfo remainingAccounts removedItem
    return (l, ⟨oracleInfo, oracleDataInfo, oracleQueueInfo, args, oracleData.vrfPubkey, index, removedItem,
      ⟨callbackInstruction rt programIdentityInfo.key args.output removedItem payload,
        callbackProgramInfo :: programIdentityInfo :: remainingAccounts, seeds⟩⟩)
  -- `split_at(5)` panics on a shorter list
  | _ => throw Fault.panicked

/-- The fee for a fulfilled request, zero on an exempt queue. -/
def feeFor (queue : Pubkey) (item : QueueItem) : Nat :=
  if isFeeExemptEphemeralQueue queue then 0 else item.cost

def collectFee (queue oracle : Pubkey) (item : QueueItem) (l : Ledger) : Except Fault Ledger :=
  if isFeeExemptEphemeralQueue queue then .ok l else transferFee queue oracle item.cost l

def processProvideRandomness (rt : Runtime) (clock : Clock) (accounts : List AccountInfo) (data : List UInt8)
    (l : Ledger) : Except Fault (Ledger × Receipt) := do
  let (l, prepared) ← prepareCallback rt clock accounts data l
  let l ← rt.invokeSigned prepared.invocation l
  let l ← collectFee prepared.queue.key prepared.oracle.key prepared.item l
  return (l, .provided prepared (feeFor prepared.queue.key prepared.item))

/-! ## Purging and pausing -/

def expired (nowStamp : UInt16) (item : QueueItem) : Bool := item.ageSecs nowStamp > QUEUE_TTL_SECONDS

def saturatingAdd64 (a b : Nat) : Nat := min (a + b) (u64Limit - 1)

/-- The removal pass of a purge: the body it leaves and the total cost of what it removed. -/
def purgeQueue (nowStamp : UInt16) (q : QueueAccount) : Except Fault (QueueAccount × Nat) :=
  okOr (q.removeItemsMatching (fun total item => (expired nowStamp item, total))
    (fun total item => saturatingAdd64 total item.cost) 0) Fault.panicked

def payPurge (queue oracle : Pubkey) (totalCost : Nat) (l : Ledger) : Except Fault Ledger :=
  if totalCost > 0 ∧ isFeeExemptEphemeralQueue queue = false then transferFee queue oracle totalCost l
  else .ok l

def purgePaid (queue : Pubkey) (totalCost : Nat) : Nat :=
  if isFeeExemptEphemeralQueue queue then 0 else totalCost

def processPurgeExpiredRequests (rt : Runtime) (clock : Clock) (accounts : List AccountInfo)
    (data : List UInt8) (l : Ledger) : Except Fault (Ledger × Receipt) := do
  let index ← parseArgs queueIndexLayout data
  match accounts with
  | [oracleInfo, oracleQueueInfo] => do
    isWritable oracleQueueInfo
    hasOwner l oracleQueueInfo ID
    hasSeeds rt.toEnvironment oracleQueueInfo [QUEUE, oracleInfo.key.toList, [index]] ID
    let nowStamp := QueueItem.createdAtFrom clock.unixTimestamp
    let _ ← queueHeader l oracleQueueInfo.key
    let q ← openQueue l oracleQueueInfo.key
    let (q, totalCost) ← purgeQueue nowStamp q
    let l ← payPurge oracleQueueInfo.key oracleInfo.key totalCost (storeQueue l oracleQueueInfo.key q)
    return (l, .purged oracleQueueInfo.key oracleInfo.key (purgePaid oracleQueueInfo.key totalCost))
  | _ => throw (Fault.program .notEnoughAccountKeys)

def processSetQueuePaused (rt : Runtime) (accounts : List AccountInfo) (data : List UInt8) (l : Ledger) :
    Except Fault (Ledger × Receipt) := do
  let args ← parseArgs SetQueuePaused.layout data
  require (args.paused ≤ 1) (Fault.program .invalidInstructionData)
  match accounts with
  | [oracleInfo, oracleQueueInfo] => do
    isSigner oracleInfo
    isWritable oracleQueueInfo
    hasOwner l oracleQueueInfo ID
    hasSeeds rt.toEnvironment oracleQueueInfo [QUEUE, oracleInfo.key.toList, [args.index]] ID
    let _ ← queueHeader l oracleQueueInfo.key
    let q ← openQueue l oracleQueueInfo.key
    return (storeQueue l oracleQueueInfo.key (q.setPaused args.paused), .other)
  | _ => throw (Fault.program .notEnoughAccountKeys)

end SolanaVrf
