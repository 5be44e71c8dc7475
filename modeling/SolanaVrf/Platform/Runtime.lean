import SolanaVrf.Platform.Ledger

/-! # The runtime around the program

Functions the program calls but does not contain are fields of `Runtime`: hashing, the
curve syscalls, address derivation, the decoder of the loader's program-data account, the
callback and the delegation program. `ExternalAt` is what code outside the program can do
to one account: only its owner debits or writes an account, and ownership passes to a
program only with zeroed data.
-/

namespace SolanaVrf
set_option autoImplicit false

open Pod Fallible

/-- A call with signer seeds: the instruction, the accounts passed along and the seeds. -/
structure Invocation where
  instruction : Instruction
  accounts : List AccountInfo
  signerSeeds : List (List UInt8)
deriving DecidableEq

/-- Hashing and the curve operations; scalars and points are their 32-byte encodings. -/
structure Syscalls where
  hash : List UInt8 → Bytes 32
  validateRistretto : Bytes 32 → Bool
  multiplyRistretto : Bytes 32 → Bytes 32 → Option (Bytes 32)
  addRistretto : Bytes 32 → Bytes 32 → Option (Bytes 32)
  scalarFromBytesModOrder : Bytes 32 → Bytes 32

namespace Syscalls

def hashv (sys : Syscalls) (slices : List (List UInt8)) : Bytes 32 := sys.hash slices.flatten

end Syscalls

inductive UpgradeableLoaderState
  | programData (upgradeAuthorityAddress : Option Pubkey)
  | other
deriving DecidableEq

/-- Address derivation and the decoders and checks that need no ledger. -/
structure Environment extends Syscalls where
  findProgramAddress : List (List UInt8) → Pubkey → Pubkey × UInt8
  createProgramAddress : List (List UInt8) → Pubkey → Option Pubkey
  minimumBalance : Nat → Nat
  validateEdwards : Bytes 32 → Bool
  loaderState : List UInt8 → Option UpgradeableLoaderState

namespace Environment

def oraclesPda (env : Environment) : Pubkey × UInt8 := env.findProgramAddress [ORACLES] ID

def oracleDataPda (env : Environment) (identity : Pubkey) : Pubkey × UInt8 :=
  env.findProgramAddress [ORACLE_DATA, identity.toList] ID

def scopedIdentityPda (env : Environment) (callbackProgramId : Pubkey) : Pubkey × UInt8 :=
  env.findProgramAddress [IDENTITY, callbackProgramId.toList] ID

def oracleQueuePda (env : Environment) (identity : Pubkey) (index : UInt8) : Pubkey × UInt8 :=
  env.findProgramAddress [QUEUE, identity.toList, [index]] ID

/-- Addresses derived from the program id, for which only the program can sign. -/
def Derived (env : Environment) (k : Pubkey) : Prop := ∃ seeds, k = (env.findProgramAddress seeds ID).1

/-- Among them, those the program signs for only to create accounts. -/
def Reserved (env : Environment) (k : Pubkey) : Prop :=
  k = env.oraclesPda.1 ∨ (∃ identity, k = (env.oracleDataPda identity).1) ∨
    ∃ identity index, k = (env.oracleQueuePda identity index).1

theorem Reserved.derived {env : Environment} {k : Pubkey} (h : env.Reserved k) : env.Derived k := by
  obtain rfl | ⟨identity, rfl⟩ | ⟨identity, index, rfl⟩ := h
  · exact ⟨_, rfl⟩
  · exact ⟨_, rfl⟩
  · exact ⟨_, rfl⟩

end Environment

/-! ## Other code -/

structure ExternalAt (env : Environment) (k : Pubkey) (a a' : Account) : Prop where
  owned : a.owner = ID → a'.owner = ID ∧ a'.data = a.data ∧ a.lamports ≤ a'.lamports
  fresh : a.owner ≠ ID → a'.owner = ID → ∀ b ∈ a'.data, b = 0
  unborn : env.Reserved k → a.owner = systemProgramId → a'.owner = systemProgramId ∧ a'.data = a.data
  delegated : env.Reserved k → a.owner = delegationProgramId →
    a'.owner = delegationProgramId ∧ a'.data.take 8 = a.data.take 8

def External (env : Environment) (l l' : Ledger) : Prop := ∀ k, ExternalAt env k (l k) (l' k)

/-- What the delegation program does to the queue it is given: it becomes the owner. -/
structure Delegates (env : Environment) (queue : Pubkey) (l l' : Ledger) : Prop where
  owner : (l' queue).owner = delegationProgramId
  data : (l' queue).data = (l queue).data
  others : ∀ k, k ≠ queue → ExternalAt env k (l k) (l' k)

/-- A program that is called leaves a ledger or fails, and its failure is that of the instruction. -/
structure Runtime extends Environment where
  invokeSigned : Invocation → Ledger → Except Fault Ledger
  delegateAccountWithAnyValidator : List AccountInfo → List (List UInt8) → Pubkey → Ledger → Except Fault Ledger
  create_find : ∀ seeds program, createProgramAddress (seeds ++ [[(findProgramAddress seeds program).2]]) program =
    some (findProgramAddress seeds program).1
  external_of_invokeSigned : ∀ invocation l l', invokeSigned invocation l = .ok l' →
    External toEnvironment l l'
  delegates_of_delegateAccount : ∀ accounts seeds queue l l',
    delegateAccountWithAnyValidator accounts seeds queue l = .ok l' → Delegates toEnvironment queue l l'

namespace ExternalAt

variable {env : Environment} {k : Pubkey} {a b c : Account}

theorem refl (a : Account) : ExternalAt env k a a where
  owned h := ⟨h, rfl, Nat.le_refl _⟩
  fresh h h' := absurd h' h
  unborn _ h := ⟨h, rfl⟩
  delegated _ h := ⟨h, rfl⟩

theorem trans (hab : ExternalAt env k a b) (hbc : ExternalAt env k b c) : ExternalAt env k a c where
  owned h := by
    obtain ⟨hOwner, hData, hLamports⟩ := hab.owned h
    obtain ⟨hOwner', hData', hLamports'⟩ := hbc.owned hOwner
    exact ⟨hOwner', hData'.trans hData, hLamports.trans hLamports'⟩
  fresh h h' := by
    by_cases hOwner : b.owner = ID
    · rw [(hbc.owned hOwner).2.1]
      exact hab.fresh h hOwner
    · exact hbc.fresh hOwner h'
  unborn hReserved h := by
    obtain ⟨hOwner, hData⟩ := hab.unborn hReserved h
    obtain ⟨hOwner', hData'⟩ := hbc.unborn hReserved hOwner
    exact ⟨hOwner', hData'.trans hData⟩
  delegated hReserved h := by
    obtain ⟨hOwner, hData⟩ := hab.delegated hReserved h
    obtain ⟨hOwner', hData'⟩ := hbc.delegated hReserved hOwner
    exact ⟨hOwner', hData'.trans hData⟩

theorem of_lamports {lamports : Nat} (h : a.owner = ID → a.lamports ≤ lamports) :
    ExternalAt env k a { a with lamports := lamports } where
  owned hOwner := ⟨hOwner, rfl, h hOwner⟩
  fresh h h' := absurd h' h
  unborn _ h := ⟨h, rfl⟩
  delegated _ h := ⟨h, rfl⟩

end ExternalAt

theorem External.refl (env : Environment) (l : Ledger) : External env l l := fun _ => .refl _

theorem External.trans {env : Environment} {l₁ l₂ l₃ : Ledger} (h : External env l₁ l₂)
    (h' : External env l₂ l₃) : External env l₁ l₃ := fun k => (h k).trans (h' k)

end SolanaVrf
