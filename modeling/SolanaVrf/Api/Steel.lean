import SolanaVrf.Platform.System

/-! # Account checks, typed accounts and account creation

The validation traits, the plain-old-data accounts behind a discriminator byte, and the
helpers that create, resize and close program accounts.
-/

namespace SolanaVrf
set_option autoImplicit false

open Pod Fallible

/-! ## Validation -/

namespace AccountInfoValidation

def isSigner (a : AccountInfo) : Except Fault Unit :=
  require (a.isSigner = true) (Fault.program .missingRequiredSignature)

def isWritable (a : AccountInfo) : Except Fault Unit :=
  require (a.isWritable = true) (Fault.program .invalidAccountData)

def isEmpty (l : Ledger) (a : AccountInfo) : Except Fault Unit :=
  require ((l a.key).data = []) (Fault.program .accountAlreadyInitialized)

def hasAddress (a : AccountInfo) (address : Pubkey) : Except Fault Unit :=
  require (a.key = address) (Fault.program .invalidAccountData)

def hasOwner (l : Ledger) (a : AccountInfo) (owner : Pubkey) : Except Fault Unit :=
  require ((l a.key).owner = owner) (Fault.program .invalidAccountOwner)

def isSysvar (l : Ledger) (a : AccountInfo) (sysvar : Pubkey) : Except Fault Unit := do
  hasOwner l a sysvarId
  hasAddress a sysvar

def hasSeeds (env : Environment) (a : AccountInfo) (seeds : List (List UInt8)) (programId : Pubkey) :
    Except Fault Unit :=
  require (a.key = (env.findProgramAddress seeds programId).1) (Fault.program .invalidSeeds)

end AccountInfoValidation

def isEmptyOrZeroed (l : Ledger) (a : AccountInfo) : Except Fault Unit :=
  require (((l a.key).data.all fun b => b == 0) = true) (Fault.program .accountAlreadyInitialized)

/-- The account must be the program-data address of `program` and hold program data. -/
def loadProgramUpgradeAuthority (env : Environment) (l : Ledger) (program : Pubkey)
    (programData : AccountInfo) : Except Fault (Option Pubkey) := do
  require ((env.findProgramAddress [program.toList] bpfLoaderUpgradeableId).1 = programData.key)
    (Fault.program .invalidAccountData)
  let state ← okOr (env.loaderState (l programData.key).data) (Fault.program .invalidAccountData)
  match state with
  | .programData upgradeAuthorityAddress => return upgradeAuthorityAddress
  | .other => throw (Fault.program .invalidAccountData)

/-! ## Typed accounts -/

/-- A `Pod` type with a discriminator byte. -/
structure PodAccount (α : Type) where
  layout : Layout α
  discriminator : AccountDiscriminator

namespace PodAccount

variable {α : Type} (T : PodAccount α)

def tryFromBytes (data : List UInt8) : Except Fault α := do
  require (8 ≤ data.length ∧ T.discriminator.toU8 = data.headD 0) (Fault.program .invalidAccountData)
  okOr (T.layout.tryFromBytes (data.drop 8)) (Fault.program .invalidAccountData)

def asAccount (l : Ledger) (a : AccountInfo) (programId : Pubkey) : Except Fault α := do
  AccountInfoValidation.hasOwner l a programId
  require ((l a.key).data.length = 8 + T.layout.size) (Fault.program .invalidAccountData)
  T.tryFromBytes (l a.key).data

def asAccountMut (l : Ledger) (a : AccountInfo) (programId : Pubkey) : Except Fault α := do
  AccountInfoValidation.hasOwner l a programId
  AccountInfoValidation.isWritable a
  require ((l a.key).data.length = 8 + T.layout.size) (Fault.program .invalidAccountData)
  T.tryFromBytes (l a.key).data

/-- A write through the reference that `as_account_mut` returns. -/
def store (l : Ledger) (a : AccountInfo) (value : α) : Ledger :=
  l.setData a.key ((l a.key).data.take 8 ++ T.layout.encode value)

end PodAccount

structure Oracle where
  vrfPubkey : Bytes 32
  registrationSlot : UInt64
  openQueues : UInt64
deriving DecidableEq

namespace Oracle

def layout : Layout Oracle :=
  ((Layout.bytes 32).prod (Layout.u64.prod Layout.u64)).via
    ⟨fun f => ⟨f.1, f.2.1, f.2.2⟩, fun o => (o.vrfPubkey, o.registrationSlot, o.openQueues),
      fun _ => rfl, fun _ => rfl⟩

def account : PodAccount Oracle := ⟨layout, .oracle⟩

end Oracle

/-! ## Creating, resizing and closing -/

/-- Pays what the target lacks of its rent-exempt balance. -/
def topUp (rt : Runtime) (target : AccountInfo) (space : Nat) (systemProgram payer : AccountInfo) (l : Ledger) :
    Except Fault Ledger :=
  let rentExemptBalance := rt.minimumBalance space - (l target.key).lamports
  if rentExemptBalance > 0 then System.transfer payer target systemProgram rentExemptBalance l
  else .ok l

/-- Both `create_pda` and `create_program_account` create the account if it holds no lamports and
otherwise top it up, allocate it and assign it. -/
def createOrAllocate (rt : Runtime) (target : AccountInfo) (space : Nat) (signerSeeds : List (List UInt8))
    (systemProgram payer : AccountInfo) (l : Ledger) : Except Fault Ledger :=
  if (l target.key).lamports = 0 then
    System.createAccount rt payer target systemProgram (rt.minimumBalance space) space ID signerSeeds l
  else do
    let l ← topUp rt target space systemProgram payer l
    let l ← System.allocate rt target systemProgram space signerSeeds l
    System.assign rt target systemProgram ID signerSeeds l

def createPda (rt : Runtime) (target : AccountInfo) (space : Nat) (seeds : List (List UInt8)) (bump : UInt8)
    (systemProgram payer : AccountInfo) (l : Ledger) : Except Fault Ledger :=
  createOrAllocate rt target space (seeds ++ [[bump]]) systemProgram payer l

def createProgramAccount {α : Type} (rt : Runtime) (T : PodAccount α) (target systemProgram payer : AccountInfo)
    (seeds : List (List UInt8)) (l : Ledger) : Except Fault Ledger := do
  let bump := (rt.findProgramAddress seeds ID).2
  let l ← createOrAllocate rt target (8 + T.layout.size) (seeds ++ [[bump]]) systemProgram payer l
  return l.setData target.key (T.discriminator.toU8 :: (l target.key).data.drop 1)

/-- The payer makes up a shortfall and receives a surplus. -/
def settleRent (payer pda systemProgram : AccountInfo) (newMinimumBalance : Nat) (l : Ledger) :
    Except Fault Ledger :=
  let lamportsDiff := newMinimumBalance - (l pda.key).lamports
  if lamportsDiff > 0 then System.transfer payer pda systemProgram lamportsDiff l
  else
    let absDiff := (l pda.key).lamports - newMinimumBalance
    (l.setLamports pda.key ((l pda.key).lamports - absDiff)).credit payer.key absDiff

def resizePda (rt : Runtime) (payer pda systemProgram : AccountInfo) (newSize : Nat) (l : Ledger) :
    Except Fault Ledger := do
  -- `Rent::default()`, which is what the sysvar holds on the clusters
  let l ← settleRent payer pda systemProgram (rt.minimumBalance newSize) l
  l.resize pda.key newSize

/-- Closing into the account itself would leave the lamports unbalanced, which the runtime rejects. -/
def closeAccount (a recipient : AccountInfo) (l : Ledger) : Except Fault Ledger := do
  require (recipient.key ≠ a.key) Fault.external
  let l ← l.credit recipient.key (l a.key).lamports
  let l := l.setLamports a.key 0
  let l := l.setOwner a.key systemProgramId
  l.resize a.key 0

end SolanaVrf
