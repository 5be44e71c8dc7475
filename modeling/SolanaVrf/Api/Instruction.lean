import SolanaVrf.Api.Queue
import SolanaVrf.Lib.Borsh

/-! # Instructions and their arguments

The first byte of the instruction data is the tag, the arguments start at byte 8. Plain
arguments must have exactly the size of their record; the arguments of a request are
read off the front and trailing bytes are ignored.
-/

namespace SolanaVrf
set_option autoImplicit false

open Pod Borsh Fallible

inductive SolanaVrfInstruction
  | initializeProgram
  | modifyOracle
  | initializeOracleQueue
  | requestHighPriorityRandomness
  | provideRandomness
  | delegateOracleQueue
  | closeOracleQueue
  | requestRandomness
  | purgeExpiredRequests
  | requestRandomnessScoped
  | requestHighPriorityRandomnessScoped
  | setQueuePaused
deriving DecidableEq

namespace SolanaVrfInstruction

def toU8 : SolanaVrfInstruction → UInt8
  | initializeProgram => 0
  | modifyOracle => 1
  | initializeOracleQueue => 2
  | requestHighPriorityRandomness => 3
  | provideRandomness => 4
  | delegateOracleQueue => 5
  | closeOracleQueue => 7
  | requestRandomness => 8
  | purgeExpiredRequests => 9
  | requestRandomnessScoped => 10
  | requestHighPriorityRandomnessScoped => 11
  | setQueuePaused => 12

def all : List SolanaVrfInstruction :=
  [initializeProgram, modifyOracle, initializeOracleQueue, requestHighPriorityRandomness, provideRandomness,
    delegateOracleQueue, closeOracleQueue, requestRandomness, purgeExpiredRequests,
    requestRandomnessScoped, requestHighPriorityRandomnessScoped, setQueuePaused]

def tryFrom (tag : UInt8) : Option SolanaVrfInstruction := all.find? fun ix => ix.toU8 == tag

theorem tryFrom_toU8 (ix : SolanaVrfInstruction) : tryFrom ix.toU8 = some ix := by
  cases ix <;> rfl

end SolanaVrfInstruction

def parseInstruction8 (programId : Pubkey) (data : List UInt8) :
    Except Fault (SolanaVrfInstruction × List UInt8) := do
  require (programId = ID) (Fault.program .incorrectProgramId)
  require (8 ≤ data.length) (Fault.program .invalidInstructionData)
  let ix ← okOr (SolanaVrfInstruction.tryFrom (data.headD 0)) (Fault.program .invalidInstructionData)
  return (ix, data.drop 8)

/-! ## Plain arguments -/

structure ModifyOracle where
  identity : Pubkey
  oraclePubkey : Bytes 32
  operation : UInt8
deriving DecidableEq

structure InitializeOracleQueue where
  targetSize : UInt32
  index : UInt8
  padding : Bytes 3
deriving DecidableEq

structure ProvideRandomness where
  input : Bytes 32
  output : Bytes 32
  commitmentBaseCompressed : Bytes 32
  commitmentHashCompressed : Bytes 32
  scalar : Bytes 32
deriving DecidableEq

structure SetQueuePaused where
  index : UInt8
  paused : UInt8
deriving DecidableEq

def ModifyOracle.layout : Layout ModifyOracle :=
  ((Layout.bytes 32).prod ((Layout.bytes 32).prod Layout.u8)).via
    ⟨fun f => ⟨f.1, f.2.1, f.2.2⟩, fun a => (a.identity, a.oraclePubkey, a.operation), fun _ => rfl, fun _ => rfl⟩

def InitializeOracleQueue.layout : Layout InitializeOracleQueue :=
  (Layout.u32.prod (Layout.u8.prod (Layout.bytes 3))).via
    ⟨fun f => ⟨f.1, f.2.1, f.2.2⟩, fun a => (a.targetSize, a.index, a.padding), fun _ => rfl, fun _ => rfl⟩

def ProvideRandomness.layout : Layout ProvideRandomness :=
  ((Layout.bytes 32).prod ((Layout.bytes 32).prod ((Layout.bytes 32).prod
    ((Layout.bytes 32).prod (Layout.bytes 32))))).via
    ⟨fun f => ⟨f.1, f.2.1, f.2.2.1, f.2.2.2.1, f.2.2.2.2⟩,
      fun a => (a.input, a.output, a.commitmentBaseCompressed, a.commitmentHashCompressed, a.scalar),
      fun _ => rfl, fun _ => rfl⟩

def SetQueuePaused.layout : Layout SetQueuePaused :=
  (Layout.u8.prod Layout.u8).via
    ⟨fun f => ⟨f.1, f.2⟩, fun a => (a.index, a.paused), fun _ => rfl, fun _ => rfl⟩

/-- `DelegateOracleQueue`, `CloseOracleQueue` and `PurgeExpiredRequests` carry one index byte. -/
def queueIndexLayout : Layout UInt8 := Layout.u8

def parseArgs {α : Type} (layout : Layout α) (data : List UInt8) : Except Fault α :=
  okOr (layout.tryFromBytes data) (Fault.program .invalidInstructionData)

/-! ## Request arguments -/

structure RequestRandomness where
  callerSeed : Bytes 32
  callbackProgramId : Pubkey
  callbackDiscriminator : List UInt8
  callbackAccountsMetas : List SerializableAccountMeta
  callbackArgs : List UInt8
deriving DecidableEq

def SerializableAccountMeta.codec : Codec SerializableAccountMeta :=
  ((Codec.ofLayout (Layout.bytes 32)).prod (Codec.bool.prod Codec.bool)).via
    ⟨fun f => ⟨f.1, f.2.1, f.2.2⟩, fun m => (m.pubkey, m.isSigner, m.isWritable), fun _ => rfl, fun _ => rfl⟩

namespace RequestRandomness

def codec : Codec RequestRandomness :=
  ((Codec.ofLayout (Layout.bytes 32)).prod ((Codec.ofLayout (Layout.bytes 32)).prod
    ((Codec.ofLayout Layout.u8).vec.prod (SerializableAccountMeta.codec.vec.prod
      (Codec.ofLayout Layout.u8).vec)))).via
    ⟨fun f => ⟨f.1, f.2.1, f.2.2.1, f.2.2.2.1, f.2.2.2.2⟩,
      fun r => (r.callerSeed, r.callbackProgramId, r.callbackDiscriminator, r.callbackAccountsMetas,
        r.callbackArgs), fun _ => rfl, fun _ => rfl⟩

/-- `deserialize` leaves what follows the record unread. -/
def tryFromBytes (data : List UInt8) : Except Fault RequestRandomness := do
  let (args, _) ← okOr (codec.decode data) (Fault.program .borshIoError)
  return args

theorem tryFromBytes_encode (args : RequestRandomness) (rest : List UInt8) (h : codec.valid args) :
    tryFromBytes (codec.encode args ++ rest) = .ok args := by
  rw [tryFromBytes, codec.decode_encode args rest h]
  rfl

end RequestRandomness

end SolanaVrf
