import SolanaVrf.Api.Basic
import SolanaVrf.Lib.Fallible
import Mathlib.Logic.Function.Basic

/-! # Accounts and the ledger

An instruction sees accounts through `AccountInfo`s; two infos with one key share one
account, so data, lamports and owner live in a ledger indexed by key and the infos carry
only the flags. A failed instruction is rolled back, so instructions return either a
fault or the new ledger.
-/

namespace SolanaVrf
set_option autoImplicit false

open Pod Fallible

structure Account where
  lamports : Nat
  data : List UInt8
  owner : Pubkey
  executable : Bool
deriving DecidableEq

abbrev Ledger := Pubkey → Account

structure AccountInfo where
  key : Pubkey
  isSigner : Bool
  isWritable : Bool
deriving DecidableEq

structure AccountMeta where
  pubkey : Pubkey
  isSigner : Bool
  isWritable : Bool
deriving DecidableEq

structure Instruction where
  programId : Pubkey
  accounts : List AccountMeta
  data : List UInt8
deriving DecidableEq

structure Clock where
  slot : UInt64
  unixTimestamp : Int64
deriving DecidableEq

/-- How an instruction ends early: with an error code, its own or one passed on from a program it
calls; by a panic; or because the runtime or the system program refuses. -/
inductive Fault
  | program (e : ProgramError)
  | panicked
  | external
deriving DecidableEq

instance : Coe ProgramError Fault := ⟨.program⟩

instance : Coe SolanaVrfError Fault := ⟨fun e => .program e.toProgramError⟩

namespace Ledger

def modify (l : Ledger) (k : Pubkey) (f : Account → Account) : Ledger := Function.update l k (f (l k))

@[simp] theorem modify_self (l : Ledger) (k : Pubkey) (f : Account → Account) : l.modify k f k = f (l k) :=
  Function.update_self ..

theorem modify_of_ne (l : Ledger) {k k' : Pubkey} (f : Account → Account) (h : k' ≠ k) :
    l.modify k f k' = l k' :=
  Function.update_of_ne h ..

def setData (l : Ledger) (k : Pubkey) (data : List UInt8) : Ledger :=
  l.modify k fun a => { a with data := data }

def setOwner (l : Ledger) (k : Pubkey) (owner : Pubkey) : Ledger :=
  l.modify k fun a => { a with owner := owner }

def setLamports (l : Ledger) (k : Pubkey) (lamports : Nat) : Ledger :=
  l.modify k fun a => { a with lamports := lamports }

end Ledger

end SolanaVrf
