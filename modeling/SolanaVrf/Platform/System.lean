import SolanaVrf.Platform.Runtime

/-! # The system program

Transfers, account creation, allocation and assignment as the program reaches them by
cross-program invocation. The callee finds its accounts among those passed, the debited
account must sign, be owned by the system program and carry no data, and a target is
created or reassigned only under its own signature, here that of the signer seeds.
-/

namespace SolanaVrf
set_option autoImplicit false

open Pod Fallible

/-- The most an account may grow in one instruction. -/
def MAX_PERMITTED_DATA_INCREASE : Nat := 10240

def u64Limit : Nat := 2 ^ 64

namespace Ledger

def credit (l : Ledger) (k : Pubkey) (amount : Nat) : Except Fault Ledger := do
  require ((l k).lamports + amount < u64Limit) Fault.external
  return l.setLamports k ((l k).lamports + amount)

/-- `AccountInfo::resize`: a longer account is extended with zeros. -/
def resize (l : Ledger) (k : Pubkey) (newLen : Nat) : Except Fault Ledger := do
  require (newLen ≤ (l k).data.length + MAX_PERMITTED_DATA_INCREASE) (Fault.program .invalidRealloc)
  return l.setData k ((l k).data.take newLen ++ List.replicate (newLen - (l k).data.length) 0)

end Ledger

namespace System

def transfer (payer target systemProgram : AccountInfo) (amount : Nat) (l : Ledger) : Except Fault Ledger := do
  require (systemProgram.key = systemProgramId) Fault.external
  require (payer.isSigner = true ∧ payer.isWritable = true ∧ target.isWritable = true) Fault.external
  require ((l payer.key).owner = systemProgramId ∧ (l payer.key).data = []) Fault.external
  require (amount ≤ (l payer.key).lamports) Fault.external
  (l.setLamports payer.key ((l payer.key).lamports - amount)).credit target.key amount

/-- The seeds must derive the target, as the program holds no other signature for it. -/
def signedBySeeds (rt : Runtime) (target : AccountInfo) (signerSeeds : List (List UInt8)) :
    Except Fault Unit :=
  require (rt.createProgramAddress signerSeeds ID = some target.key) Fault.external

def allocate (rt : Runtime) (target systemProgram : AccountInfo) (space : Nat)
    (signerSeeds : List (List UInt8)) (l : Ledger) : Except Fault Ledger := do
  require (systemProgram.key = systemProgramId ∧ target.isWritable = true) Fault.external
  signedBySeeds rt target signerSeeds
  require ((l target.key).owner = systemProgramId ∧ (l target.key).data = []) Fault.external
  require (space ≤ MAX_PERMITTED_DATA_INCREASE) Fault.external
  return l.setData target.key (List.replicate space 0)

def assign (rt : Runtime) (target systemProgram : AccountInfo) (owner : Pubkey)
    (signerSeeds : List (List UInt8)) (l : Ledger) : Except Fault Ledger := do
  require (systemProgram.key = systemProgramId ∧ target.isWritable = true) Fault.external
  signedBySeeds rt target signerSeeds
  require ((l target.key).owner = systemProgramId) Fault.external
  return l.setOwner target.key owner

def createAccount (rt : Runtime) (payer target systemProgram : AccountInfo) (lamports space : Nat)
    (owner : Pubkey) (signerSeeds : List (List UInt8)) (l : Ledger) : Except Fault Ledger := do
  require ((l target.key).lamports = 0) Fault.external
  let l ← allocate rt target systemProgram space signerSeeds l
  let l ← assign rt target systemProgram owner signerSeeds l
  transfer payer target systemProgram lamports l

end System

/-! ## What they do to each account -/

section

variable {env : Environment} {rt : Runtime} {l l' : Ledger} {k : Pubkey}

theorem Ledger.credit_eq_ok {amount : Nat} (h : l.credit k amount = .ok l') :
    l' = l.setLamports k ((l k).lamports + amount) ∧ (l k).lamports + amount < u64Limit := by
  obtain ⟨hFits, hRest⟩ := require_bind_eq_ok.mp h
  exact ⟨(pure_eq_ok.mp hRest).symm, hFits⟩

theorem Ledger.setLamports_external {lamports : Nat} (h : (l k).owner = ID → (l k).lamports ≤ lamports) :
    External env l (l.setLamports k lamports) := by
  intro k'
  by_cases hk : k' = k
  · subst hk
    rw [Ledger.setLamports, Ledger.modify_self]
    exact .of_lamports h
  · rw [Ledger.setLamports, Ledger.modify_of_ne _ _ hk]
    exact .refl _

theorem Ledger.credit_external {amount : Nat} (h : l.credit k amount = .ok l') : External env l l' := by
  obtain ⟨rfl, _⟩ := Ledger.credit_eq_ok h
  exact Ledger.setLamports_external fun _ => Nat.le_add_right _ _

variable {payer target systemProgram : AccountInfo}

theorem System.transfer_eq_ok {amount : Nat} (h : System.transfer payer target systemProgram amount l = .ok l') :
    payer.isSigner = true ∧ (l payer.key).owner = systemProgramId ∧ (l payer.key).data = [] ∧
      (l.setLamports payer.key ((l payer.key).lamports - amount)).credit target.key amount = .ok l' := by
  obtain ⟨_, h⟩ := require_bind_eq_ok.mp h
  obtain ⟨⟨hSigner, _⟩, h⟩ := require_bind_eq_ok.mp h
  obtain ⟨⟨hOwner, hData⟩, h⟩ := require_bind_eq_ok.mp h
  obtain ⟨_, h⟩ := require_bind_eq_ok.mp h
  exact ⟨hSigner, hOwner, hData, h⟩

theorem System.transfer_external {amount : Nat}
    (h : System.transfer payer target systemProgram amount l = .ok l') : External env l l' := by
  obtain ⟨_, hOwner, _, hCredit⟩ := System.transfer_eq_ok h
  refine (Ledger.setLamports_external fun hId => ?_).trans (Ledger.credit_external hCredit)
  rw [hOwner] at hId
  exact absurd hId (by decide)

theorem System.transfer_target {amount : Nat}
    (h : System.transfer payer target systemProgram amount l = .ok l') (hne : target.key ≠ payer.key) :
    l' target.key = { l target.key with lamports := (l target.key).lamports + amount } := by
  obtain ⟨_, _, _, hCredit⟩ := System.transfer_eq_ok h
  obtain ⟨rfl, _⟩ := Ledger.credit_eq_ok hCredit
  simp only [Ledger.setLamports, Ledger.modify_self, Ledger.modify_of_ne _ _ hne]

end

end SolanaVrf
