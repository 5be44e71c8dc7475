import SolanaVrf.Chain.Identifiers

/-! # What a fulfilment sends and who signs it

A fulfilment that gets as far as its callback has taken one pending request. The
instruction it issues carries that request's program, payload and accounts, and the
identity that signs it is the one the request was made for.
-/

namespace SolanaVrf
set_option autoImplicit false

open Pod Fallible Transition AccountInfoValidation

variable {rt : Runtime} {run : ChainRun rt} {k : Pubkey} {book : Nat → List Entry} {l : Ledger}

/-- The identity a request is answered under. -/
def Accepted.identity (env : Environment) (acc : Accepted) : Pubkey :=
  if acc.isScoped then (env.scopedIdentityPda acc.args.callbackProgramId).1 else programIdentityPda.1

def Accepted.signerSeeds (env : Environment) (acc : Accepted) : List (List UInt8) :=
  if acc.isScoped then
    [IDENTITY, acc.args.callbackProgramId.toList] ++ [[(env.scopedIdentityPda acc.args.callbackProgramId).2]]
  else [IDENTITY] ++ [[programIdentityPda.2]]

/-- The checks on a stored request are those on the identity it was made for: the stored bump is the
one that derivation finds. -/
theorem callbackSeeds_record (rt : Runtime) (l : Ledger) (identity : AccountInfo) (remaining : List AccountInfo) (acc : Accepted) :
    callbackSeeds rt l identity remaining (acc.record rt.toEnvironment).free.item = do
      require (acc.isScoped = true ∨ hasDisallowedExecutableCallbackAccount l remaining = false)
        ↑SolanaVrfError.invalidCallbackAccounts
      hasAddress identity (acc.identity rt.toEnvironment)
      return acc.signerSeeds rt.toEnvironment := by
  have hMode : (acc.record rt.toEnvironment).free.item.identityMode = acc.isScoped.toUInt8 := rfl
  have hProgram : (acc.record rt.toEnvironment).free.item.callbackProgramId = acc.args.callbackProgramId := rfl
  have hBump : (acc.record rt.toEnvironment).free.item.identityBump =
    if acc.isScoped then (rt.scopedIdentityPda acc.args.callbackProgramId).2 else 0 := rfl
  unfold callbackSeeds Accepted.identity Accepted.signerSeeds
  rw [hMode, hProgram, hBump]
  cases acc.isScoped with
  | true =>
    have hFound := rt.create_find [IDENTITY, acc.args.callbackProgramId.toList] ID
    change rt.createProgramAddress [IDENTITY, acc.args.callbackProgramId.toList,
      [(rt.scopedIdentityPda acc.args.callbackProgramId).2]] ID =
        some (rt.scopedIdentityPda acc.args.callbackProgramId).1 at hFound
    rw [if_pos (by decide), require_of (Or.inl rfl), bind_ok, if_pos rfl, if_pos rfl, if_pos rfl]
    dsimp only
    rw [hFound, okOr_some, bind_ok]
    rfl
  | false =>
    rw [if_neg (by decide), if_neg Bool.false_ne_true, if_neg Bool.false_ne_true]
    simp only [Bool.false_eq_true, false_or]
    rfl

theorem callbackSeeds_effect {identity : AccountInfo} {remaining : List AccountInfo} {acc : Accepted}
    {seeds : List (List UInt8)}
    (h : callbackSeeds rt l identity remaining (acc.record rt.toEnvironment).free.item = .ok seeds) :
    identity.key = acc.identity rt.toEnvironment ∧ seeds = acc.signerSeeds rt.toEnvironment ∧
      (acc.isScoped = false → hasDisallowedExecutableCallbackAccount l remaining = false) := by
  rw [callbackSeeds_record] at h
  obtain ⟨hAllowed, h⟩ := require_bind_eq_ok.mp h
  obtain ⟨hKey, h⟩ := require_bind_eq_ok.mp h
  cases h
  refine ⟨hKey, rfl, fun hGlobal => hAllowed.resolve_left ?_⟩
  rw [hGlobal]
  exact Bool.false_ne_true

theorem isProgram_storeQueue (q : QueueAccount) (a : AccountInfo) : isProgram (storeQueue l k q) a = isProgram l a := by
  unfold isProgram
  by_cases hk : a.key = k
  · rw [hk, storeQueue, Ledger.setData_self]
  · rw [storeQueue_of_ne q hk]

theorem hasDisallowed_storeQueue (q : QueueAccount) (accounts : List AccountInfo) :
    hasDisallowedExecutableCallbackAccount (storeQueue l k q) accounts =
      hasDisallowedExecutableCallbackAccount l accounts := by
  simp only [hasDisallowedExecutableCallbackAccount, isProgram_storeQueue]

/-- The request a fulfilment takes, and the callback it issues for it. -/
structure Answers (run : ChainRun rt) (n : Nat) (p : Prepared) (s : Nat) (acc : Accepted) : Prop where
  earlier : s < n
  receipt : run.receipt s = some (.requested acc)
  queue : acc.queue = p.queue.key
  id : acc.id rt.toEnvironment = p.args.input
  item : p.item = (acc.record rt.toEnvironment).free.item
  instruction : p.invocation.instruction = {
    programId := acc.args.callbackProgramId
    accounts := ⟨acc.identity rt.toEnvironment, true, false⟩ ::
      acc.args.callbackAccountsMetas.map fun m => ⟨m.pubkey, false, m.isWritable⟩
    data := acc.args.callbackDiscriminator ++ (rt.hash p.args.output.toList).toList ++ acc.args.callbackArgs }
  signerSeeds : p.invocation.signerSeeds = acc.signerSeeds rt.toEnvironment
  unnamed : ∀ m ∈ acc.args.callbackAccountsMetas, m.pubkey ≠ p.oracle.key

theorem ChainRun.answers (run : ChainRun rt) {n : Nat} {accounts : List AccountInfo} {data : List UInt8}
    {l₁ : Ledger} {p : Prepared}
    (hPrepare : prepareCallback rt (run.clock n) accounts data (run.ledger n) = .ok (l₁, p)) :
    ∃ s acc, Answers run n p s acc ∧ (acc.isScoped = false →
      hasDisallowedExecutableCallbackAccount (run.ledger n) (p.invocation.accounts.drop 2) = false) := by
  obtain ⟨book, hBook⟩ := run.exists_book p.queue.key
  obtain ⟨hPrepares, -⟩ := prepareCallback_effect hPrepare
  have hPending := (hBook.booked n).pending hPrepares.isQueue
  obtain ⟨r, hAt, hTaken, hItem, hIssues, -⟩ := hPrepares.pending _ hPending
  obtain ⟨e, hEntry, rfl⟩ : ∃ e, (book n)[p.index]? = some e ∧ e.record = r := by simpa using hAt
  obtain ⟨hLt, acc, hBy⟩ := (hBook.provenance n).2 e (List.mem_of_getElem? hEntry)
  obtain ⟨program, identity, remaining, seeds, -, hSeeds, hInvocation⟩ := hIssues
  have hId := hTaken.id
  have hUnnamed := hTaken.unnamed
  rw [hBy.record] at hSeeds hInvocation hId hItem hUnnamed
  obtain ⟨hIdentity, hSigner, hAllowed⟩ := callbackSeeds_effect hSeeds
  refine ⟨e.serial, acc, ⟨hLt, hBy.receipt, hBy.queue, hId, hItem, ?_, ?_, ?_⟩, ?_⟩
  · rw [hInvocation, hIdentity]
    have hMetas : (acc.record rt.toEnvironment).metas.map CompactAccountMeta.toAccountMeta =
        acc.args.callbackAccountsMetas.map fun m => ⟨m.pubkey, false, m.isWritable⟩ := by
      change List.map _ (List.map CompactAccountMeta.ofSerializable _) = _
      rw [List.map_map]
      exact List.map_congr_left fun m _ => CompactAccountMeta.toAccountMeta_ofSerializable m
    rw [callbackInstruction, hMetas]
    rfl
  · rw [hInvocation]
    exact hSigner
  · intro m hm
    exact hUnnamed _ (List.mem_map_of_mem hm)
  · obtain ⟨q, rfl⟩ := hPrepares.stored
    rw [hInvocation]
    simpa only [hasDisallowed_storeQueue, List.drop_succ_cons, List.drop_zero] using hAllowed

/-- Whenever a fulfilment for the id of an accepted request gets as far as its callback, the callback
is the one that request asked for. -/
theorem callback_integrity (rt : Runtime) (run : ChainRun rt) (k : Pubkey)
    (hClock : ClockAdvances run.clock) (hHash : Set.InjOn rt.hash (run.preimages k))
    (s : Nat) (acc : Accepted) (hReceipt : run.receipt s = some (.requested acc)) (hk : acc.queue = k)
    (n : Nat) (accounts : List AccountInfo) (data : List UInt8) (l₁ : Ledger) (p : Prepared)
    (hPrepare : prepareCallback rt (run.clock n) accounts data (run.ledger n) = .ok (l₁, p))
    (hQueue : p.queue.key = k) (hInput : p.args.input = acc.id rt.toEnvironment) :
    p.invocation.instruction.programId = acc.args.callbackProgramId ∧
      p.invocation.instruction.data =
        acc.args.callbackDiscriminator ++ (rt.hash p.args.output.toList).toList ++ acc.args.callbackArgs ∧
      p.invocation.instruction.accounts = ⟨acc.identity rt.toEnvironment, true, false⟩ ::
        acc.args.callbackAccountsMetas.map fun m => ⟨m.pubkey, false, m.isWritable⟩ := by
  obtain ⟨s', acc', hAnswers, -⟩ := run.answers hPrepare
  obtain ⟨book, hBook⟩ := run.exists_book k
  -- the request that was taken has the same id, so it is the same request
  have hSame := hBook.id_inj hClock hHash hAnswers.receipt (hAnswers.queue.trans hQueue) hReceipt hk
    (hAnswers.id.trans hInput)
  subst hSame
  have hAcc := hAnswers.receipt
  rw [hReceipt] at hAcc
  cases hAcc
  rw [hAnswers.instruction]
  exact ⟨rfl, rfl, rfl⟩

theorem Sample.prepares : ∃ l₁, prepareCallback Sample.runtime (Sample.run.clock 5) Sample.provideAccounts
    Sample.provideData (Sample.run.ledger 5) = .ok (l₁, Sample.prepared) :=
  exists_eq_ok_of_snd (by decide +kernel)

theorem callback_integrity_sample : ∃ l₁, prepareCallback Sample.runtime (Sample.run.clock 5)
      Sample.provideAccounts Sample.provideData (Sample.run.ledger 5) = .ok (l₁, Sample.prepared) ∧
    Sample.run.receipt 3 = some (.requested Sample.accepted) ∧
    Sample.prepared.invocation.instruction.programId = Sample.callbackProgram ∧
    Sample.prepared.invocation.instruction.data =
      [1, 2, 3, 4, 5, 6, 7, 8] ++ (Sample.runtime.hash Sample.output.toList).toList ++ [9] := by
  obtain ⟨l₁, hPrepare⟩ := Sample.prepares
  obtain ⟨hProgram, hData, -⟩ := callback_integrity Sample.runtime Sample.run Sample.queueKey
    Sample.clock_advances Sample.hash_injOn 3 Sample.accepted (Sample.receipt_eq 3) rfl 5 Sample.provideAccounts
    Sample.provideData l₁ Sample.prepared hPrepare rfl (by decide +kernel)
  exact ⟨l₁, hPrepare, Sample.receipt_eq 3, hProgram, hData⟩

def ChainRun.callbackPrograms (run : ChainRun rt) : Set Pubkey :=
  { program | ∃ n acc, run.receipt n = some (.requested acc) ∧ acc.args.callbackProgramId = program }

theorem Accepted.identity_derived {acc : Accepted} (hGlobal : rt.findProgramAddress [IDENTITY] ID = programIdentityPda) :
    rt.Derived (acc.identity rt.toEnvironment) := by
  unfold Accepted.identity
  split
  · exact ⟨_, rfl⟩
  · exact ⟨[IDENTITY], by rw [hGlobal]⟩

/-- The callback is signed by one identity only, never by the oracle: for a scoped request the scoped
identity of its own callback program, for a legacy request the global identity, and then no account
passed along is a program outside the allow-list. -/
theorem callback_signature_isolation (rt : Runtime) (run : ChainRun rt)
    (hGlobal : rt.findProgramAddress [IDENTITY] ID = programIdentityPda)
    (hScopes : Set.InjOn (fun program => (rt.scopedIdentityPda program).1) run.callbackPrograms)
    (hApart : ∀ program ∈ run.callbackPrograms, (rt.scopedIdentityPda program).1 ≠ programIdentityPda.1)
    (n : Nat) (accounts : List AccountInfo) (hSigners : Unforged rt.toEnvironment accounts) (data : List UInt8)
    (l₁ : Ledger) (p : Prepared)
    (hPrepare : prepareCallback rt (run.clock n) accounts data (run.ledger n) = .ok (l₁, p)) :
    ∃ s acc identity metas, s < n ∧ run.receipt s = some (.requested acc) ∧ acc.queue = p.queue.key ∧
      acc.id rt.toEnvironment = p.args.input ∧ p.item = (acc.record rt.toEnvironment).free.item ∧
      p.invocation.instruction.accounts = ⟨identity, true, false⟩ :: metas ∧ (∀ m ∈ metas, m.isSigner = false) ∧
      rt.createProgramAddress p.invocation.signerSeeds ID = some identity ∧
      (∀ m ∈ p.invocation.instruction.accounts, m.pubkey ≠ p.oracle.key) ∧
      (acc.isScoped = true → identity = (rt.scopedIdentityPda acc.args.callbackProgramId).1 ∧
        identity ≠ programIdentityPda.1 ∧ ∀ program ∈ run.callbackPrograms,
          program ≠ acc.args.callbackProgramId → identity ≠ (rt.scopedIdentityPda program).1) ∧
      (acc.isScoped = false → identity = programIdentityPda.1 ∧
        ∀ a ∈ p.invocation.accounts.drop 2, isProgram (run.ledger n) a = true →
          a.key ∈ ALLOWED_EXECUTABLE_CALLBACK_ACCOUNTS) := by
  obtain ⟨s, acc, hAnswers, hAllowed⟩ := run.answers hPrepare
  obtain ⟨hPrepares, hMem⟩ := prepareCallback_effect hPrepare
  have hProgram : acc.args.callbackProgramId ∈ run.callbackPrograms := ⟨s, acc, hAnswers.receipt, rfl⟩
  refine ⟨s, acc, acc.identity rt.toEnvironment, _, hAnswers.earlier, hAnswers.receipt, hAnswers.queue, hAnswers.id,
    hAnswers.item, congrArg Instruction.accounts hAnswers.instruction, ?_, ?_, ?_, ?_, ?_⟩
  · intro m hm
    obtain ⟨m', -, rfl⟩ := List.mem_map.mp hm
    rfl
  · rw [hAnswers.signerSeeds]
    unfold Accepted.signerSeeds Accepted.identity
    split
    · exact rt.create_find _ ID
    · have hFound := rt.create_find [IDENTITY] ID
      rwa [hGlobal] at hFound
  · intro m hm
    rw [hAnswers.instruction] at hm
    obtain rfl | hm := List.mem_cons.mp hm
    · exact hSigners.ne hMem hPrepares.signed (Accepted.identity_derived hGlobal)
    · obtain ⟨m', hm', rfl⟩ := List.mem_map.mp hm
      exact hAnswers.unnamed m' hm'
  · intro hScoped
    have hIdentity : acc.identity rt.toEnvironment = (rt.scopedIdentityPda acc.args.callbackProgramId).1 :=
      if_pos hScoped
    rw [hIdentity]
    refine ⟨rfl, hApart _ hProgram, fun program hOther hne hEq => ?_⟩
    exact hne (hScopes hOther hProgram hEq.symm)
  · intro hLegacy
    refine ⟨if_neg (by rw [hLegacy]; exact Bool.false_ne_true), fun a ha hIs => ?_⟩
    have hNone := hAllowed hLegacy
    rw [hasDisallowedExecutableCallbackAccount, List.any_eq_false] at hNone
    simpa [hIs] using hNone a ha

theorem Sample.callbackPrograms_eq {program : Pubkey} (h : program ∈ Sample.run.callbackPrograms) :
    program = Sample.callbackProgram := by
  obtain ⟨n, acc, hReceipt, rfl⟩ := h
  rw [(requested_eq hReceipt).2]
  rfl

theorem callback_signature_isolation_sample :
    Sample.runtime.findProgramAddress [IDENTITY] ID = programIdentityPda ∧
    ∃ l₁, prepareCallback Sample.runtime (Sample.run.clock 5) Sample.provideAccounts Sample.provideData
        (Sample.run.ledger 5) = .ok (l₁, Sample.prepared) ∧
      ∃ identity metas, Sample.prepared.invocation.instruction.accounts = ⟨identity, true, false⟩ :: metas ∧
        (∀ m ∈ metas, m.isSigner = false) ∧
        Sample.runtime.createProgramAddress Sample.prepared.invocation.signerSeeds ID = some identity ∧
        ∀ m ∈ Sample.prepared.invocation.instruction.accounts, m.pubkey ≠ Sample.oracle := by
  have hGlobal : Sample.runtime.findProgramAddress [IDENTITY] ID = programIdentityPda := by decide +kernel
  have hScopes : Set.InjOn (fun program => (Sample.runtime.scopedIdentityPda program).1)
      Sample.run.callbackPrograms := by
    intro program hProgram program' hProgram' _
    rw [Sample.callbackPrograms_eq hProgram, Sample.callbackPrograms_eq hProgram']
  have hApart : ∀ program ∈ Sample.run.callbackPrograms,
      (Sample.runtime.scopedIdentityPda program).1 ≠ programIdentityPda.1 := by
    intro program hProgram
    rw [Sample.callbackPrograms_eq hProgram]
    decide +kernel
  obtain ⟨l₁, hPrepare⟩ := Sample.prepares
  obtain ⟨_, _, identity, metas, _, _, _, _, _, hAccounts, hSigners, hSeeds, hOracle, _⟩ :=
    callback_signature_isolation Sample.runtime Sample.run hGlobal hScopes hApart 5 Sample.provideAccounts
      (Sample.unforged (by decide +kernel)) Sample.provideData l₁ Sample.prepared hPrepare
  exact ⟨hGlobal, l₁, hPrepare, identity, metas, hAccounts, hSigners, hSeeds, hOracle⟩

end SolanaVrf
