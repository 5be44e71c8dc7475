import SolanaVrf.Program.Queues

/-! # What the account helpers do to each account

One lemma per helper: what had to hold of the account it works on, what it leaves there,
and that every other account changes only as foreign code could change it.
-/

namespace SolanaVrf
set_option autoImplicit false

open Pod Fallible

variable {rt : Runtime} {l l' : Ledger}

theorem Ledger.setData_of_ne {k k' : Pubkey} (data : List UInt8) (h : k' ≠ k) : l.setData k data k' = l k' :=
  l.modify_of_ne _ h

@[simp] theorem Ledger.setData_self (k : Pubkey) (data : List UInt8) :
    l.setData k data k = { l k with data := data } := l.modify_self k _

theorem Ledger.setOwner_of_ne {k k' : Pubkey} (owner : Pubkey) (h : k' ≠ k) : l.setOwner k owner k' = l k' :=
  l.modify_of_ne _ h

@[simp] theorem Ledger.setOwner_self (k owner : Pubkey) :
    l.setOwner k owner k = { l k with owner := owner } := l.modify_self k _

theorem Ledger.setLamports_of_ne {k k' : Pubkey} (lamports : Nat) (h : k' ≠ k) :
    l.setLamports k lamports k' = l k' := l.modify_of_ne _ h

@[simp] theorem Ledger.setLamports_self (k : Pubkey) (lamports : Nat) :
    l.setLamports k lamports k = { l k with lamports := lamports } := l.modify_self k _

/-! ## System calls -/

section

variable {payer target systemProgram : AccountInfo} {space : Nat} {seeds : List (List UInt8)}

theorem System.allocate_eq_ok (h : System.allocate rt target systemProgram space seeds l = .ok l') :
    (l target.key).owner = systemProgramId ∧ (l target.key).data = [] ∧
      l' = l.setData target.key (List.replicate space 0) := by
  obtain ⟨_, h⟩ := require_bind_eq_ok.mp h
  obtain ⟨_, _, h⟩ := bind_eq_ok.mp h
  obtain ⟨⟨hOwner, hData⟩, h⟩ := require_bind_eq_ok.mp h
  obtain ⟨_, h⟩ := require_bind_eq_ok.mp h
  exact ⟨hOwner, hData, (pure_eq_ok.mp h).symm⟩

theorem System.assign_eq_ok {owner : Pubkey} (h : System.assign rt target systemProgram owner seeds l = .ok l') :
    l' = l.setOwner target.key owner := by
  obtain ⟨_, h⟩ := require_bind_eq_ok.mp h
  obtain ⟨_, _, h⟩ := bind_eq_ok.mp h
  obtain ⟨_, h⟩ := require_bind_eq_ok.mp h
  exact (pure_eq_ok.mp h).symm

/-- A created account was empty and unowned, and is zeroed, owned and rent exempt. -/
structure Created (env : Environment) (target : Pubkey) (space : Nat) (l l' : Ledger) : Prop where
  unowned : (l target).owner = systemProgramId
  empty : (l target).data = []
  owner : (l' target).owner = ID
  data : (l' target).data = List.replicate space 0
  rent : env.minimumBalance space ≤ (l' target).lamports
  others : ∀ k, k ≠ target → ExternalAt env k (l k) (l' k)

theorem topUp_effect (h : topUp rt target space systemProgram payer l = .ok l') (hne : target.key ≠ payer.key) :
    External rt.toEnvironment l l' ∧ rt.minimumBalance space ≤ (l' target.key).lamports ∧
      (l' target.key).owner = (l target.key).owner ∧ (l' target.key).data = (l target.key).data := by
  unfold topUp at h
  dsimp only at h
  split at h
  · rename_i hShort
    have hTarget := System.transfer_target h hne
    refine ⟨System.transfer_external h, ?_, ?_, ?_⟩
    · rw [hTarget]
      dsimp only
      omega
    · rw [hTarget]
    · rw [hTarget]
  · rename_i hEnough
    cases h
    exact ⟨External.refl _ _, by omega, rfl, rfl⟩

theorem createOrAllocate_effect (h : createOrAllocate rt target space seeds systemProgram payer l = .ok l')
    (hne : target.key ≠ payer.key) : Created rt.toEnvironment target.key space l l' := by
  unfold createOrAllocate at h
  split at h
  · -- no lamports yet: create
    obtain ⟨_, h⟩ := require_bind_eq_ok.mp h
    obtain ⟨l₁, hAllocate, h⟩ := bind_eq_ok.mp h
    obtain ⟨l₂, hAssign, hTransfer⟩ := bind_eq_ok.mp h
    obtain ⟨hOwner, hData, rfl⟩ := System.allocate_eq_ok hAllocate
    obtain rfl := System.assign_eq_ok hAssign
    have hTarget := System.transfer_target hTransfer hne
    refine ⟨hOwner, hData, ?_, ?_, ?_, ?_⟩
    · rw [hTarget]
      simp
    · rw [hTarget]
      simp
    · rw [hTarget]
      exact Nat.le_add_left _ _
    · intro k hk
      have hExternal : ExternalAt rt.toEnvironment k _ (l' k) := System.transfer_external hTransfer k
      rwa [Ledger.setOwner_of_ne _ hk, Ledger.setData_of_ne _ hk] at hExternal
  · -- funded in advance: top up, allocate and assign
    obtain ⟨l₁, hTopUp, h⟩ := bind_eq_ok.mp h
    obtain ⟨l₂, hAllocate, hAssign⟩ := bind_eq_ok.mp h
    obtain ⟨hExternal, hRent, hSameOwner, hSameData⟩ := topUp_effect hTopUp hne
    obtain ⟨hOwner, hData, rfl⟩ := System.allocate_eq_ok hAllocate
    obtain rfl := System.assign_eq_ok hAssign
    refine ⟨by rw [← hSameOwner, hOwner], by rw [← hSameData, hData], by simp, by simp, by simpa using hRent, ?_⟩
    intro k hk
    rw [Ledger.setOwner_of_ne _ hk, Ledger.setData_of_ne _ hk]
    exact hExternal k

end

/-! ## Resizing and closing -/

section

variable {payer pda systemProgram : AccountInfo}

theorem Ledger.resize_eq_ok {k : Pubkey} {newLen : Nat} (h : l.resize k newLen = .ok l') :
    l' = l.setData k ((l k).data.take newLen ++ List.replicate (newLen - (l k).data.length) 0) := by
  obtain ⟨_, h⟩ := require_bind_eq_ok.mp h
  exact (pure_eq_ok.mp h).symm

theorem settleRent_effect (env : Environment) {newMinimum : Nat}
    (h : settleRent payer pda systemProgram newMinimum l = .ok l') (hne : pda.key ≠ payer.key) :
    l' pda.key = { l pda.key with lamports := newMinimum } ∧
      ∀ k, k ≠ pda.key → ExternalAt env k (l k) (l' k) := by
  unfold settleRent at h
  dsimp only at h
  split at h
  · rename_i hShort
    refine ⟨?_, fun k _ => System.transfer_external h k⟩
    have hSum : (l pda.key).lamports + (newMinimum - (l pda.key).lamports) = newMinimum := by omega
    rw [System.transfer_target h hne, hSum]
  · rename_i hEnough
    obtain ⟨rfl, _⟩ := Ledger.credit_eq_ok h
    constructor
    · have hRest : (l pda.key).lamports - ((l pda.key).lamports - newMinimum) = newMinimum := by omega
      rw [Ledger.setLamports_of_ne _ hne, Ledger.setLamports_self, hRest]
    · intro k hk
      have hCredit : ExternalAt env k _ _ := Ledger.credit_external h k
      rwa [Ledger.setLamports_of_ne _ hk] at hCredit

/-- A resized account has exactly the rent minimum of its new size. -/
structure Resized (env : Environment) (pda : Pubkey) (newSize : Nat) (l l' : Ledger) : Prop where
  owner : (l' pda).owner = (l pda).owner
  data : (l' pda).data = (l pda).data.take newSize ++ List.replicate (newSize - (l pda).data.length) 0
  rent : (l' pda).lamports = env.minimumBalance newSize
  others : ∀ k, k ≠ pda → ExternalAt env k (l k) (l' k)

theorem resizePda_effect {newSize : Nat} (h : resizePda rt payer pda systemProgram newSize l = .ok l')
    (hne : pda.key ≠ payer.key) : Resized rt.toEnvironment pda.key newSize l l' := by
  obtain ⟨l₁, hSettle, hResize⟩ := bind_eq_ok.mp h
  obtain ⟨hPda, hOthers⟩ := settleRent_effect rt.toEnvironment hSettle hne
  obtain rfl := Ledger.resize_eq_ok hResize
  refine ⟨?_, ?_, ?_, ?_⟩
  · rw [Ledger.setData_self, hPda]
  · rw [Ledger.setData_self, hPda]
  · rw [Ledger.setData_self, hPda]
  · intro k hk
    rw [Ledger.setData_of_ne _ hk]
    exact hOthers k hk

structure Closed (env : Environment) (k : Pubkey) (l l' : Ledger) : Prop where
  owner : (l' k).owner = systemProgramId
  data : (l' k).data = []
  others : ∀ k', k' ≠ k → ExternalAt env k' (l k') (l' k')

theorem closeAccount_effect {a recipient : AccountInfo} (h : closeAccount a recipient l = .ok l') :
    Closed rt.toEnvironment a.key l l' := by
  obtain ⟨hne, h⟩ := require_bind_eq_ok.mp h
  obtain ⟨l₁, hCredit, h⟩ := bind_eq_ok.mp h
  obtain rfl := Ledger.resize_eq_ok h
  refine ⟨?_, ?_, ?_⟩
  · rw [Ledger.setData_self, Ledger.setOwner_self]
  · rw [Ledger.setData_self]
    simp
  · intro k hk
    rw [Ledger.setData_of_ne _ hk, Ledger.setOwner_of_ne _ hk, Ledger.setLamports_of_ne _ hk]
    exact Ledger.credit_external hCredit k

end

/-! ## Fees -/

/-- A fee leaves the queue and reaches the oracle; no other lamports move. -/
theorem transferFee_effect {queue oracle : Pubkey} {amount : Nat} (h : transferFee queue oracle amount l = .ok l') :
    queue ≠ oracle ∧ amount ≤ (l queue).lamports ∧
      l' queue = { l queue with lamports := (l queue).lamports - amount } ∧
      l' oracle = { l oracle with lamports := (l oracle).lamports + amount } ∧
      ∀ k, k ≠ queue → k ≠ oracle → l' k = l k := by
  obtain ⟨hne, h⟩ := require_bind_eq_ok.mp h
  obtain ⟨hFunds, h⟩ := require_bind_eq_ok.mp h
  obtain ⟨_, h⟩ := require_bind_eq_ok.mp h
  obtain rfl := pure_eq_ok.mp h
  refine ⟨hne, hFunds, ?_, ?_, ?_⟩
  · rw [Ledger.setLamports_of_ne _ hne, Ledger.setLamports_self]
  · rw [Ledger.setLamports_self, Ledger.setLamports_of_ne _ (Ne.symm hne)]
  · intro k hQueue hOracle
    rw [Ledger.setLamports_of_ne _ hOracle, Ledger.setLamports_of_ne _ hQueue]

theorem transferFee_others {env : Environment} {queue oracle : Pubkey} {amount : Nat}
    (h : transferFee queue oracle amount l = .ok l') {k : Pubkey} (hk : k ≠ queue) :
    ExternalAt env k (l k) (l' k) := by
  obtain ⟨_, _, _, hOracle, hOthers⟩ := transferFee_effect h
  by_cases hk' : k = oracle
  · subst hk'
    rw [hOracle]
    exact .of_lamports fun _ => Nat.le_add_right _ _
  · rw [hOthers k hk hk']
    exact .refl _

theorem transferFee_ne_insufficient {queue oracle : Pubkey} {amount : Nat} (h : amount ≤ (l queue).lamports) :
    transferFee queue oracle amount l ≠ .error (.program .insufficientFunds) := by
  intro hFail
  simp only [transferFee, require, if_pos h] at hFail
  split at hFail
  · simp only [bind_ok] at hFail
    split at hFail
    · cases hFail
    · cases hFail
  · cases hFail

/-! ## Typed accounts -/

theorem Oracle.tryFromBytes_eq_ok {data : List UInt8} {o : Oracle} (h : Oracle.account.tryFromBytes data = .ok o) :
    data.headD 0 = 1 ∧ 8 ≤ data.length ∧ data.drop 8 = Oracle.layout.encode o := by
  obtain ⟨⟨hLength, hTag⟩, h⟩ := require_bind_eq_ok.mp h
  refine ⟨hTag.symm, hLength, ?_⟩
  exact (Oracle.layout.tryFromBytes_eq_some_iff _ _).mp (okOr_eq_ok.mp h)

theorem Oracle.asAccount_eq_ok {a : AccountInfo} {o : Oracle} (h : Oracle.account.asAccount l a ID = .ok o) :
    (l a.key).owner = ID ∧ (l a.key).data.headD 0 = 1 ∧ 8 ≤ (l a.key).data.length ∧
      (l a.key).data.drop 8 = Oracle.layout.encode o := by
  obtain ⟨hOwner, h⟩ := require_bind_eq_ok.mp h
  obtain ⟨_, h⟩ := require_bind_eq_ok.mp h
  obtain ⟨hTag, hLength, hData⟩ := Oracle.tryFromBytes_eq_ok h
  exact ⟨hOwner, hTag, hLength, hData⟩

theorem Oracle.asAccountMut_eq_ok {a : AccountInfo} {o : Oracle} (h : Oracle.account.asAccountMut l a ID = .ok o) :
    (l a.key).owner = ID ∧ (l a.key).data.headD 0 = 1 ∧ 8 ≤ (l a.key).data.length ∧
      (l a.key).data.drop 8 = Oracle.layout.encode o := by
  obtain ⟨hOwner, h⟩ := require_bind_eq_ok.mp h
  obtain ⟨_, h⟩ := require_bind_eq_ok.mp h
  obtain ⟨_, h⟩ := require_bind_eq_ok.mp h
  obtain ⟨hTag, hLength, hData⟩ := Oracle.tryFromBytes_eq_ok h
  exact ⟨hOwner, hTag, hLength, hData⟩

end SolanaVrf
