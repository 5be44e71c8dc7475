import SolanaVrf.Lib.Pod

/-! # Keys, constants and errors of the program

Addresses are written as the bytes that the base-58 texts of the source stand for.
The feature-gated test queue is absent, as in a production build.
-/

namespace SolanaVrf
set_option autoImplicit false

open Pod

abbrev Pubkey := Bytes 32

def ascii (text : String) : List UInt8 := text.toList.map fun c => UInt8.ofNat c.toNat

/-! ## Addresses -/

/-- `Vrf1RNUjXmQGjmQrQLvJHs9SNkvDJEsRVFPkfSQUwGz` -/
def ID : Pubkey :=
  ⟨[7, 100, 104, 119, 200, 241, 253, 43, 158, 185, 243, 92, 234, 235, 93, 25, 63, 162, 158, 196, 92, 7,
    181, 101, 242, 27, 167, 177, 39, 172, 247, 127], rfl⟩

/-- `11111111111111111111111111111111`, which is also `Pubkey::default()`. -/
def systemProgramId : Pubkey := ⟨List.replicate 32 0, rfl⟩

/-- `Sysvar1111111111111111111111111111111111111` -/
def sysvarId : Pubkey :=
  ⟨[6, 167, 213, 23, 24, 117, 247, 41, 199, 61, 147, 64, 143, 33, 97, 32, 6, 126, 216, 140, 118, 224,
    140, 40, 127, 193, 148, 96, 0, 0, 0, 0], rfl⟩

/-- `SysvarS1otHashes111111111111111111111111111` -/
def slotHashesId : Pubkey :=
  ⟨[6, 167, 213, 23, 25, 47, 10, 175, 198, 242, 101, 227, 251, 119, 204, 122, 218, 130, 197, 41, 208,
    190, 59, 19, 110, 45, 0, 85, 32, 0, 0, 0], rfl⟩

/-- `BPFLoaderUpgradeab1e11111111111111111111111` -/
def bpfLoaderUpgradeableId : Pubkey :=
  ⟨[2, 168, 246, 145, 78, 136, 161, 176, 226, 16, 21, 62, 247, 99, 174, 43, 0, 194, 185, 61, 22, 193,
    36, 210, 192, 83, 122, 16, 4, 128, 0, 0], rfl⟩

/-- `DELeGGvXpWV2fqJUhqcF5ZSYMS4JTLjteaAMARRSaeSh` -/
def delegationProgramId : Pubkey :=
  ⟨[181, 183, 0, 225, 242, 87, 58, 192, 204, 6, 34, 1, 52, 74, 207, 151, 184, 53, 6, 235, 140, 229, 25,
    152, 204, 98, 126, 24, 147, 128, 167, 62], rfl⟩

/-- `5hBR571xnXppuCPveTrctfTU7tJLSN94nq7kv7FRK5Tc` -/
def DEFAULT_EPHEMERAL_QUEUE : Pubkey :=
  ⟨[69, 185, 193, 160, 226, 118, 43, 231, 240, 17, 186, 10, 117, 95, 214, 26, 143, 3, 61, 185, 132, 75,
    237, 89, 242, 59, 5, 128, 136, 40, 202, 167], rfl⟩

/-! ## Seeds, prices and limits -/

def ORACLES : List UInt8 := ascii "oracles"
def ORACLE_DATA : List UInt8 := ascii "oracle"
def IDENTITY : List UInt8 := ascii "identity"
def QUEUE : List UInt8 := ascii "queue"

def VRF_HIGH_PRIORITY_LAMPORTS_COST : Nat := 800000
def VRF_LAMPORTS_COST : Nat := 500000
def QUEUE_TTL_SECONDS : Nat := 120
def MAX_QUEUE_ACCOUNT_SIZE : UInt32 := 512 * 1024
def MAX_CALLBACK_ACCOUNTS : Nat := 25
def MAX_EXTRA_BYTES : Nat := 10240

/-! ## Discriminators -/

inductive AccountDiscriminator
  | oracles
  | oracle
  | queue
deriving DecidableEq

namespace AccountDiscriminator

def toU8 : AccountDiscriminator → UInt8
  | oracles => 0
  | oracle => 1
  | queue => 3

def toBytes (d : AccountDiscriminator) : List UInt8 := toLe 8 d.toU8.toNat

@[simp] theorem length_toBytes (d : AccountDiscriminator) : d.toBytes.length = 8 := length_toLe _ _

end AccountDiscriminator

/-! ## Errors -/

inductive ProgramError
  | custom (code : UInt32)
  | invalidArgument
  | invalidInstructionData
  | invalidAccountData
  | accountDataTooSmall
  | insufficientFunds
  | incorrectProgramId
  | missingRequiredSignature
  | accountAlreadyInitialized
  | notEnoughAccountKeys
  | accountBorrowFailed
  | invalidSeeds
  | borshIoError
  | unsupportedSysvar
  | invalidAccountOwner
  | invalidRealloc
deriving DecidableEq

inductive SolanaVrfError
  | unauthorized
  | randomnessRequestNotFound
  | invalidProof
  | invalidCallbackAccounts
  | invalidQueueIndex
  | argumentSizeTooLarge
  | queueNotEmpty
  | invalidOracleIdentity
  | oracleMustProvideInDifferentSlot
  | queueAlreadyInUse
  | queuePaused
  | queueSizeTooLarge
deriving DecidableEq

namespace SolanaVrfError

def code : SolanaVrfError → UInt32
  | unauthorized => 0
  | randomnessRequestNotFound => 1
  | invalidProof => 2
  | invalidCallbackAccounts => 3
  | invalidQueueIndex => 5
  | argumentSizeTooLarge => 8
  | queueNotEmpty => 11
  | invalidOracleIdentity => 12
  | oracleMustProvideInDifferentSlot => 13
  | queueAlreadyInUse => 14
  | queuePaused => 15
  | queueSizeTooLarge => 16

def toProgramError (e : SolanaVrfError) : ProgramError := .custom e.code

end SolanaVrfError

end SolanaVrf
