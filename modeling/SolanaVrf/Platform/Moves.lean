import SolanaVrf.Platform.Runtime
import Mathlib.Algebra.BigOperators.Group.Finset.Basic
import Mathlib.Logic.Relation

/-! # Moves on a ledger

The elementary things the program does to the accounts it is passed: it writes data of its own
accounts, takes and gives up accounts at its derived addresses, pays from them, passes on
payments that the payer has signed, and calls two other programs. What follows from the moves
alone: no lamport is made or lost, and who does not sign does not pay.
-/

namespace SolanaVrf
set_option autoImplicit false

open Pod

namespace Ledger

/-- Moves lamports from one account to another, which may be the same. -/
def pay (l : Ledger) (source target : Pubkey) (amount : Nat) : Ledger :=
  (l.setLamports source ((l source).lamports - amount)).setLamports target
    ((l.setLamports source ((l source).lamports - amount) target).lamports + amount)

def total (l : Ledger) (keys : Finset Pubkey) : Nat := ∑ k ∈ keys, (l k).lamports

section

variable {l : Ledger} {k : Pubkey} {keys : Finset Pubkey}

theorem lamports_setData (l : Ledger) (k k' : Pubkey) (data : List UInt8) :
    (l.setData k data k').lamports = (l k').lamports := by
  by_cases h : k' = k
  · subst h
    rw [setData, modify_self]
  · rw [setData, modify_of_ne _ _ h]

theorem lamports_setOwner (l : Ledger) (k k' owner : Pubkey) : (l.setOwner k owner k').lamports = (l k').lamports := by
  by_cases h : k' = k
  · subst h
    rw [setOwner, modify_self]
  · rw [setOwner, modify_of_ne _ _ h]

theorem total_setLamports (l : Ledger) (h : k ∈ keys) (lamports : Nat) :
    (l.setLamports k lamports).total keys + (l k).lamports = l.total keys + lamports := by
  have hOthers : ∑ k' ∈ keys.erase k, (l.setLamports k lamports k').lamports = ∑ k' ∈ keys.erase k, (l k').lamports := by
    refine Finset.sum_congr rfl fun k' hk' => ?_
    rw [setLamports, modify_of_ne _ _ (Finset.ne_of_mem_erase hk')]
  have hAfter := Finset.add_sum_erase keys (fun k' => (l.setLamports k lamports k').lamports) h
  have hBefore := Finset.add_sum_erase keys (fun k' => (l k').lamports) h
  have hSelf : (l.setLamports k lamports k).lamports = lamports := by rw [setLamports, modify_self]
  simp only [hSelf, hOthers] at hAfter
  unfold total
  omega

theorem total_pay {source target : Pubkey} {amount : Nat} (hSource : source ∈ keys) (hTarget : target ∈ keys)
    (hFunds : amount ≤ (l source).lamports) : (l.pay source target amount).total keys = l.total keys := by
  unfold pay
  have hDebit := total_setLamports l hSource ((l source).lamports - amount)
  generalize l.setLamports source ((l source).lamports - amount) = debited at *
  have hCredit := total_setLamports debited hTarget ((debited target).lamports + amount)
  omega

theorem pay_of_ne {source target : Pubkey} {amount : Nat} (hSource : k ≠ source) (hTarget : k ≠ target) :
    l.pay source target amount k = l k := by
  unfold pay
  rw [setLamports, modify_of_ne _ _ hTarget, setLamports, modify_of_ne _ _ hSource]

/-- A payment changes no more than lamports, and lowers only those of its source. -/
theorem pay_at (l : Ledger) (source target : Pubkey) (amount : Nat) (k : Pubkey) :
    ∃ lamports, l.pay source target amount k = { l k with lamports := lamports } ∧
      (k ≠ source → (l k).lamports ≤ lamports) := by
  unfold pay
  by_cases hTarget : k = target
  · subst hTarget
    rw [setLamports, modify_self]
    by_cases hSource : k = source
    · subst hSource
      rw [setLamports, modify_self]
      exact ⟨_, rfl, fun h => absurd rfl h⟩
    · rw [setLamports, modify_of_ne _ _ hSource]
      exact ⟨_, rfl, fun _ => Nat.le_add_right _ _⟩
  · rw [setLamports, modify_of_ne _ _ hTarget]
    by_cases hSource : k = source
    · subst hSource
      rw [setLamports, modify_self]
      exact ⟨_, rfl, fun h => absurd rfl h⟩
    · rw [setLamports, modify_of_ne _ _ hSource]
      exact ⟨(l k).lamports, rfl, fun _ => Nat.le_refl _⟩

end

end Ledger

/-- One move of the program with the accounts it was passed. -/
inductive Move (rt : Runtime) (accounts : List AccountInfo) : Ledger → Ledger → Prop
  | write {l : Ledger} {a : AccountInfo} (hPassed : a ∈ accounts)
      (hOwn : rt.Reserved a.key ∨ (l a.key).owner = ID) (data : List UInt8) :
      Move rt accounts l (l.setData a.key data)
  | assign {l : Ledger} {a : AccountInfo} (hPassed : a ∈ accounts) (hReserved : rt.Reserved a.key) (owner : Pubkey) :
      Move rt accounts l (l.setOwner a.key owner)
  | pay {l : Ledger} {source target : AccountInfo} {amount : Nat} (hSource : source ∈ accounts)
      (hTarget : target ∈ accounts) (hAllowed : source.isSigner = true ∨ rt.Reserved source.key)
      (hFunds : amount ≤ (l source.key).lamports) : Move rt accounts l (l.pay source.key target.key amount)
  | invoke {l l' : Ledger} {invocation : Invocation} (hPassed : ∀ a ∈ invocation.accounts, a ∈ accounts)
      (h : rt.invokeSigned invocation l = .ok l') : Move rt accounts l l'
  | delegate {l l' : Ledger} {seeds : List (List UInt8)} {queue : Pubkey} (hReserved : rt.Reserved queue)
      (h : rt.delegateAccountWithAnyValidator accounts seeds queue l = .ok l') : Move rt accounts l l'

def Moves (rt : Runtime) (accounts : List AccountInfo) : Ledger → Ledger → Prop :=
  Relation.ReflTransGen (Move rt accounts)

variable {rt : Runtime} {accounts : List AccountInfo} {l l' l₁ l₂ : Ledger} {k : Pubkey}

/-! ## Lamports change hands -/

/-- Lamports only change hands among these keys. -/
structure Balanced (keys : Finset Pubkey) (l l' : Ledger) : Prop where
  total : l'.total keys = l.total keys
  others : ∀ k, k ∉ keys → (l' k).lamports = (l k).lamports

/-- The programs called move lamports only among the accounts they are passed. -/
structure Runtime.Conserves (rt : Runtime) (keys : Finset Pubkey) : Prop where
  invoked : ∀ invocation l l', rt.invokeSigned invocation l = .ok l' →
    (∀ a ∈ invocation.accounts, a.key ∈ keys) → Balanced keys l l'
  delegated : ∀ accounts seeds queue l l', rt.delegateAccountWithAnyValidator accounts seeds queue l = .ok l' →
    (∀ a ∈ accounts, a.key ∈ keys) → Balanced keys l l'

section

variable {keys : Finset Pubkey}

theorem Balanced.refl (keys : Finset Pubkey) (l : Ledger) : Balanced keys l l := ⟨rfl, fun _ _ => rfl⟩

theorem Balanced.trans (h : Balanced keys l l₁) (h' : Balanced keys l₁ l₂) : Balanced keys l l₂ :=
  ⟨h'.total.trans h.total, fun k hk => (h'.others k hk).trans (h.others k hk)⟩

theorem Move.balanced (h : Move rt accounts l l') (hCallees : rt.Conserves keys)
    (hKeys : ∀ a ∈ accounts, a.key ∈ keys) : Balanced keys l l' := by
  cases h with
  | write hPassed hOwn data =>
    exact ⟨Finset.sum_congr rfl fun k _ => l.lamports_setData _ k data, fun k _ => l.lamports_setData _ k data⟩
  | assign hPassed hReserved owner =>
    exact ⟨Finset.sum_congr rfl fun k _ => l.lamports_setOwner _ k owner, fun k _ => l.lamports_setOwner _ k owner⟩
  | pay hSource hTarget hAllowed hFunds =>
    refine ⟨Ledger.total_pay (hKeys _ hSource) (hKeys _ hTarget) hFunds, fun k hk => ?_⟩
    rw [Ledger.pay_of_ne]
    · rintro rfl
      exact hk (hKeys _ hSource)
    · rintro rfl
      exact hk (hKeys _ hTarget)
  | invoke hPassed h => exact hCallees.invoked _ _ _ h fun a ha => hKeys a (hPassed a ha)
  | delegate hReserved h => exact hCallees.delegated _ _ _ _ _ h hKeys

theorem Moves.balanced (h : Moves rt accounts l l') (hCallees : rt.Conserves keys)
    (hKeys : ∀ a ∈ accounts, a.key ∈ keys) : Balanced keys l l' := by
  induction h with
  | refl => exact .refl keys l
  | tail _ hMove ih => exact ih.trans (hMove.balanced hCallees hKeys)

end

/-! ## Wallets -/

/-- A key with a private key, for which no program signs. -/
def Wallet (env : Environment) (k : Pubkey) : Prop := ∀ seeds, env.createProgramAddress seeds ID ≠ some k

theorem Wallet.not_reserved (h : Wallet rt.toEnvironment k) : ¬ rt.Reserved k := by
  intro hReserved
  obtain ⟨seeds, rfl⟩ := hReserved.derived
  exact h _ (rt.create_find seeds ID)

def Unsigned (accounts : List AccountInfo) (k : Pubkey) : Prop := ∀ a ∈ accounts, a.key = k → a.isSigner = false

/-- The account is still the holder's: nothing was taken from it. -/
structure Kept (a a' : Account) : Prop where
  owner : a'.owner = a.owner
  data : a'.data = a.data
  lamports : a.lamports ≤ a'.lamports

/-- The programs called take nothing from a wallet without its signature. -/
structure Runtime.Respects (rt : Runtime) (k : Pubkey) : Prop where
  invoked : ∀ invocation l l', rt.invokeSigned invocation l = .ok l' → (l k).owner = systemProgramId →
    Unsigned invocation.accounts k → Kept (l k) (l' k)
  delegated : ∀ accounts seeds queue l l', rt.delegateAccountWithAnyValidator accounts seeds queue l = .ok l' →
    k ≠ queue → (l k).owner = systemProgramId → Unsigned accounts k → Kept (l k) (l' k)

section

variable {a a' a'' : Account}

theorem Kept.refl (a : Account) : Kept a a := ⟨rfl, rfl, Nat.le_refl _⟩

theorem Kept.trans (h : Kept a a') (h' : Kept a' a'') : Kept a a'' :=
  ⟨h'.owner.trans h.owner, h'.data.trans h.data, h.lamports.trans h'.lamports⟩

theorem Move.kept (h : Move rt accounts l l') (hWallet : Wallet rt.toEnvironment k) (hCallees : rt.Respects k)
    (hOwner : (l k).owner = systemProgramId) (hUnsigned : Unsigned accounts k) : Kept (l k) (l' k) := by
  cases h with
  | @write a hPassed hOwn data =>
    have hk : k ≠ a.key := by
      rintro rfl
      rw [hOwner] at hOwn
      exact absurd (hOwn.resolve_left hWallet.not_reserved) (by decide)
    rw [Ledger.setData, Ledger.modify_of_ne _ _ hk]
    exact .refl _
  | @assign a hPassed hReserved owner =>
    have hk : k ≠ a.key := by
      rintro rfl
      exact hWallet.not_reserved hReserved
    rw [Ledger.setOwner, Ledger.modify_of_ne _ _ hk]
    exact .refl _
  | @pay source target amount hSource hTarget hAllowed hFunds =>
    have hk : k ≠ source.key := by
      rintro rfl
      have hSigned := hAllowed.resolve_right hWallet.not_reserved
      rw [hUnsigned source hSource rfl] at hSigned
      cases hSigned
    obtain ⟨lamports, hPaid, hGains⟩ := l.pay_at source.key target.key amount k
    rw [hPaid]
    exact ⟨rfl, rfl, hGains hk⟩
  | invoke hPassed h =>
    exact hCallees.invoked _ _ _ h hOwner fun a ha => hUnsigned a (hPassed a ha)
  | @delegate _ seeds queue hReserved h =>
    have hk : k ≠ queue := by
      rintro rfl
      exact hWallet.not_reserved hReserved
    exact hCallees.delegated _ _ _ _ _ h hk hOwner hUnsigned

theorem Moves.kept (h : Moves rt accounts l l') (hWallet : Wallet rt.toEnvironment k) (hCallees : rt.Respects k)
    (hOwner : (l k).owner = systemProgramId) (hUnsigned : Unsigned accounts k) : Kept (l k) (l' k) := by
  induction h with
  | refl => exact .refl _
  | tail _ hMove ih => exact ih.trans (hMove.kept hWallet hCallees (ih.owner.trans hOwner) hUnsigned)

end

/-! ## Moves among a few parties -/

namespace Runtime

/-- The same runtime with callees that refuse every call. -/
def alone (rt : Runtime) : Runtime where
  toEnvironment := rt.toEnvironment
  invokeSigned _ _ := .error .external
  delegateAccountWithAnyValidator _ _ _ _ := .error .external
  create_find := rt.create_find
  external_of_invokeSigned _ _ _ h := nomatch h
  delegates_of_delegateAccount _ _ _ _ _ h := nomatch h

theorem alone_conserves (rt : Runtime) (keys : Finset Pubkey) : rt.alone.Conserves keys where
  invoked _ _ _ h := nomatch h
  delegated _ _ _ _ _ h := nomatch h

end Runtime

theorem Account.eq_of_fields {a b : Account} (hLamports : a.lamports = b.lamports) (hData : a.data = b.data)
    (hOwner : a.owner = b.owner) (hExecutable : a.executable = b.executable) : a = b := by
  cases a
  cases b
  cases hLamports
  cases hData
  cases hOwner
  cases hExecutable
  rfl

/-- Moves that call no one and touch the accounts of these keys only. -/
def Among (rt : Runtime) (keys : List Pubkey) : Ledger → Ledger → Prop :=
  Moves rt.alone (keys.map fun k => ⟨k, true, true⟩)

section

variable {keys : List Pubkey}

theorem Move.among (h : Move rt.alone accounts l l') (hKeys : ∀ a ∈ accounts, a.key ∈ keys) : Among rt keys l l' := by
  have hParty {a : AccountInfo} (ha : a ∈ accounts) :
      (⟨a.key, true, true⟩ : AccountInfo) ∈ keys.map fun k => ⟨k, true, true⟩ :=
    List.mem_map_of_mem (f := fun k => (⟨k, true, true⟩ : AccountInfo)) (hKeys a ha)
  cases h with
  | write hPassed hOwn data => exact .single (.write (hParty hPassed) hOwn data)
  | assign hPassed hReserved owner => exact .single (.assign (hParty hPassed) hReserved owner)
  | @pay source target amount hSource hTarget hAllowed hFunds =>
    exact .single (@Move.pay _ _ l ⟨source.key, true, true⟩ ⟨target.key, true, true⟩ amount (hParty hSource)
      (hParty hTarget) (Or.inl rfl) hFunds)
  | invoke hPassed h => cases h
  | delegate hReserved h => cases h

theorem Moves.among (h : Moves rt.alone accounts l l') (hKeys : ∀ a ∈ accounts, a.key ∈ keys) : Among rt keys l l' := by
  induction h with
  | refl => exact .refl
  | tail _ hMove ih => exact ih.trans (hMove.among hKeys)

namespace Among

theorem refl (rt : Runtime) (keys : List Pubkey) (l : Ledger) : Among rt keys l l := Relation.ReflTransGen.refl

theorem trans (h : Among rt keys l l₁) (h' : Among rt keys l₁ l₂) : Among rt keys l l₂ :=
  Relation.ReflTransGen.trans h h'

theorem induct {P : Ledger → Prop} (h : Among rt keys l l') (hStart : P l)
    (hStep : ∀ l₁ l₂, Move rt.alone (keys.map fun k => ⟨k, true, true⟩) l₁ l₂ → P l₁ → P l₂) : P l' := by
  induction h with
  | refl => exact hStart
  | tail _ hMove ih => exact hStep _ _ hMove ih

theorem balanced (h : Among rt keys l l') : Balanced keys.toFinset l l' := by
  refine Moves.balanced h (rt.alone_conserves _) fun a ha => ?_
  obtain ⟨k, hk, rfl⟩ := List.mem_map.mp ha
  exact List.mem_toFinset.mpr hk

theorem frame (h : Among rt keys l l') (hk : k ∉ keys) : l' k = l k := by
  have hne {a : AccountInfo} (ha : a ∈ keys.map fun k => (⟨k, true, true⟩ : AccountInfo)) : k ≠ a.key := by
    rintro rfl
    obtain ⟨k, hMem, rfl⟩ := List.mem_map.mp ha
    exact hk hMem
  refine h.induct (P := fun l' => l' k = l k) rfl fun l₁ l₂ hMove ih => ?_
  cases hMove with
  | write hPassed hOwn data => rw [Ledger.setData, Ledger.modify_of_ne _ _ (hne hPassed), ih]
  | assign hPassed hReserved owner => rw [Ledger.setOwner, Ledger.modify_of_ne _ _ (hne hPassed), ih]
  | pay hSource hTarget hAllowed hFunds => rw [Ledger.pay_of_ne (hne hSource) (hne hTarget), ih]
  | invoke hPassed h => cases h
  | delegate hReserved h => cases h

theorem executable (h : Among rt keys l l') (k : Pubkey) : (l' k).executable = (l k).executable := by
  refine h.induct (P := fun l' => (l' k).executable = (l k).executable) rfl fun l₁ l₂ hMove ih => ?_
  cases hMove with
  | @write a hPassed hOwn data =>
    rw [← ih]
    by_cases hk : k = a.key
    · rw [hk, Ledger.setData, Ledger.modify_self]
    · rw [Ledger.setData, Ledger.modify_of_ne _ _ hk]
  | @assign a hPassed hReserved owner =>
    rw [← ih]
    by_cases hk : k = a.key
    · rw [hk, Ledger.setOwner, Ledger.modify_self]
    · rw [Ledger.setOwner, Ledger.modify_of_ne _ _ hk]
  | @pay source target amount hSource hTarget hAllowed hFunds =>
    obtain ⟨lamports, hPaid, -⟩ := l₁.pay_at source.key target.key amount k
    rw [hPaid, ← ih]
  | invoke hPassed h => cases h
  | delegate hReserved h => cases h

/-- A wallet keeps its owner and its data. -/
theorem wallet (h : Among rt keys l l') (hReserved : ¬ rt.Reserved k) (hOwner : (l k).owner ≠ ID) :
    (l' k).owner = (l k).owner ∧ (l' k).data = (l k).data := by
  refine h.induct (P := fun l' => (l' k).owner = (l k).owner ∧ (l' k).data = (l k).data) ⟨rfl, rfl⟩
    fun l₁ l₂ hMove ih => ?_
  cases hMove with
  | @write a hPassed hOwn data =>
    have hk : k ≠ a.key := by
      rintro rfl
      rw [ih.1] at hOwn
      exact hOwn.elim hReserved hOwner
    rw [Ledger.setData, Ledger.modify_of_ne _ _ hk]
    exact ih
  | @assign a hPassed hOwn owner =>
    have hk : k ≠ a.key := by
      rintro rfl
      exact hReserved hOwn
    rw [Ledger.setOwner, Ledger.modify_of_ne _ _ hk]
    exact ih
  | @pay source target amount hSource hTarget hAllowed hFunds =>
    obtain ⟨lamports, hPaid, -⟩ := l₁.pay_at source.key target.key amount k
    rw [hPaid]
    exact ih
  | invoke hPassed h => cases h
  | delegate hReserved h => cases h

end Among

end

end SolanaVrf
