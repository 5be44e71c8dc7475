import SolanaVrf.Chain.World
import SolanaVrf.Platform.Moves

/-! # Every instruction is a sequence of moves

Each helper and each instruction of the program, when it succeeds, has made moves with the
accounts it was passed. Over whole runs this gives that lamports only change hands and that
nobody pays without signing.
-/

namespace SolanaVrf
set_option autoImplicit false

open Pod Fallible AccountInfoValidation Transition

variable {rt : Runtime} {clock : Clock} {accounts : List AccountInfo} {l l' : Ledger} {data : List UInt8}
  {receipt : Receipt}

/-! ## The helpers -/

section

variable {payer target systemProgram : AccountInfo}

theorem Move.moves (h : Move rt accounts l l') : Moves rt accounts l l' := Relation.ReflTransGen.single h

theorem Moves.refl (rt : Runtime) (accounts : List AccountInfo) (l : Ledger) : Moves rt accounts l l :=
  Relation.ReflTransGen.refl

theorem Moves.trans {l₁ l₂ : Ledger} (h : Moves rt accounts l l₁) (h' : Moves rt accounts l₁ l₂) :
    Moves rt accounts l l₂ := Relation.ReflTransGen.trans h h'

theorem System.transfer_moves {amount : Nat} (h : System.transfer payer target systemProgram amount l = .ok l')
    (hPayer : payer ∈ accounts) (hTarget : target ∈ accounts) : Moves rt accounts l l' := by
  obtain ⟨_, h⟩ := require_bind_eq_ok.mp h
  obtain ⟨⟨hSigner, _⟩, h⟩ := require_bind_eq_ok.mp h
  obtain ⟨_, h⟩ := require_bind_eq_ok.mp h
  obtain ⟨hFunds, h⟩ := require_bind_eq_ok.mp h
  obtain ⟨rfl, -⟩ := Ledger.credit_eq_ok h
  exact (Move.pay hPayer hTarget (Or.inl hSigner) hFunds).moves

theorem System.allocate_moves {space : Nat} {seeds : List (List UInt8)}
    (h : System.allocate rt target systemProgram space seeds l = .ok l') (hTarget : target ∈ accounts)
    (hReserved : rt.Reserved target.key) : Moves rt accounts l l' := by
  obtain ⟨-, -, rfl⟩ := System.allocate_eq_ok h
  exact (Move.write hTarget (Or.inl hReserved) _).moves

theorem System.assign_moves {owner : Pubkey} {seeds : List (List UInt8)}
    (h : System.assign rt target systemProgram owner seeds l = .ok l') (hTarget : target ∈ accounts)
    (hReserved : rt.Reserved target.key) : Moves rt accounts l l' := by
  obtain rfl := System.assign_eq_ok h
  exact (Move.assign hTarget hReserved owner).moves

theorem createOrAllocate_moves {space : Nat} {seeds : List (List UInt8)}
    (h : createOrAllocate rt target space seeds systemProgram payer l = .ok l') (hPayer : payer ∈ accounts)
    (hTarget : target ∈ accounts) (hReserved : rt.Reserved target.key) : Moves rt accounts l l' := by
  unfold createOrAllocate at h
  split at h
  · obtain ⟨_, h⟩ := require_bind_eq_ok.mp h
    obtain ⟨l₁, hAllocate, h⟩ := bind_eq_ok.mp h
    obtain ⟨l₂, hAssign, hTransfer⟩ := bind_eq_ok.mp h
    exact ((System.allocate_moves hAllocate hTarget hReserved).trans (System.assign_moves hAssign hTarget hReserved)).trans
      (System.transfer_moves hTransfer hPayer hTarget)
  · obtain ⟨l₁, hTopUp, h⟩ := bind_eq_ok.mp h
    obtain ⟨l₂, hAllocate, hAssign⟩ := bind_eq_ok.mp h
    have hPaid : Moves rt accounts l l₁ := by
      unfold topUp at hTopUp
      dsimp only at hTopUp
      split at hTopUp
      · exact System.transfer_moves hTopUp hPayer hTarget
      · cases hTopUp
        exact .refl _ _ _
    exact (hPaid.trans (System.allocate_moves hAllocate hTarget hReserved)).trans
      (System.assign_moves hAssign hTarget hReserved)

theorem settleRent_moves {newMinimum : Nat} (h : settleRent payer target systemProgram newMinimum l = .ok l')
    (hPayer : payer ∈ accounts) (hTarget : target ∈ accounts) (hReserved : rt.Reserved target.key) :
    Moves rt accounts l l' := by
  unfold settleRent at h
  dsimp only at h
  split at h
  · exact System.transfer_moves h hPayer hTarget
  · obtain ⟨rfl, -⟩ := Ledger.credit_eq_ok h
    exact (Move.pay hTarget hPayer (Or.inr hReserved) (Nat.sub_le _ _)).moves

theorem resizePda_moves {newSize : Nat} (h : resizePda rt payer target systemProgram newSize l = .ok l')
    (hPayer : payer ∈ accounts) (hTarget : target ∈ accounts) (hReserved : rt.Reserved target.key) :
    Moves rt accounts l l' := by
  obtain ⟨l₁, hSettle, hResize⟩ := bind_eq_ok.mp h
  obtain rfl := Ledger.resize_eq_ok hResize
  exact (settleRent_moves hSettle hPayer hTarget hReserved).trans (Move.write hTarget (Or.inl hReserved) _).moves

theorem createOrResize_moves {size : Nat} {seeds : List (List UInt8)} {bump : UInt8}
    (h : createOrResize rt target size seeds bump systemProgram payer l = .ok l') (hPayer : payer ∈ accounts)
    (hTarget : target ∈ accounts) (hReserved : rt.Reserved target.key) : Moves rt accounts l l' := by
  unfold createOrResize at h
  split at h
  · exact createOrAllocate_moves h hPayer hTarget hReserved
  · exact resizePda_moves h hPayer hTarget hReserved

/-- Crediting the recipient before emptying the account is the same payment. -/
theorem Ledger.pay_all {source recipient : Pubkey} (h : recipient ≠ source) :
    (l.setLamports recipient ((l recipient).lamports + (l source).lamports)).setLamports source 0 =
      l.pay source recipient (l source).lamports := by
  funext k
  unfold Ledger.pay
  rw [Nat.sub_self, setLamports_of_ne _ h]
  by_cases hSource : k = source
  · subst hSource
    rw [setLamports_self, setLamports_of_ne _ h.symm, setLamports_of_ne _ h.symm, setLamports_self]
  · rw [setLamports_of_ne _ hSource]
    by_cases hRecipient : k = recipient
    · subst hRecipient
      rw [setLamports_self, setLamports_self, setLamports_of_ne _ hSource]
    · rw [setLamports_of_ne _ hRecipient, setLamports_of_ne _ hRecipient, setLamports_of_ne _ hSource]

theorem closeAccount_moves {a recipient : AccountInfo} (h : closeAccount a recipient l = .ok l') (hMem : a ∈ accounts)
    (hRecipient : recipient ∈ accounts) (hReserved : rt.Reserved a.key) : Moves rt accounts l l' := by
  obtain ⟨hne, h⟩ := require_bind_eq_ok.mp h
  obtain ⟨l₁, hCredit, h⟩ := bind_eq_ok.mp h
  obtain rfl := Ledger.resize_eq_ok h
  obtain ⟨rfl, -⟩ := Ledger.credit_eq_ok hCredit
  rw [Ledger.pay_all hne]
  have hPaid : Moves rt accounts l (l.pay a.key recipient.key (l a.key).lamports) :=
    (Move.pay hMem hRecipient (Or.inr hReserved) (Nat.le_refl _)).moves
  have hGiven := (Move.assign (l := l.pay a.key recipient.key (l a.key).lamports) hMem hReserved systemProgramId).moves
  exact (hPaid.trans hGiven).trans (Move.write hMem (Or.inl hReserved) _).moves

theorem transferFee_moves {queue oracle : AccountInfo} {amount : Nat}
    (h : transferFee queue.key oracle.key amount l = .ok l') (hQueue : queue ∈ accounts) (hOracle : oracle ∈ accounts)
    (hReserved : rt.Reserved queue.key) : Moves rt accounts l l' := by
  obtain ⟨_, h⟩ := require_bind_eq_ok.mp h
  obtain ⟨hFunds, h⟩ := require_bind_eq_ok.mp h
  obtain ⟨_, h⟩ := require_bind_eq_ok.mp h
  obtain rfl := pure_eq_ok.mp h
  exact (Move.pay hQueue hOracle (Or.inr hReserved) hFunds).moves

theorem storeQueue_moves {queue : AccountInfo} (q : QueueAccount) (hQueue : queue ∈ accounts)
    (hOwn : rt.Reserved queue.key ∨ (l queue.key).owner = ID) : Moves rt accounts l (storeQueue l queue.key q) :=
  (Move.write hQueue hOwn _).moves

theorem writeQueueHeader_moves {index : UInt8} {queue : AccountInfo} (h : writeQueueHeader index queue.key l = .ok l')
    (hQueue : queue ∈ accounts) (hReserved : rt.Reserved queue.key) : Moves rt accounts l l' := by
  obtain ⟨_, h⟩ := require_bind_eq_ok.mp h
  obtain ⟨q, -, h⟩ := bind_eq_ok.mp h
  cases h
  have hTagged : Moves rt accounts l _ :=
    (Move.write hQueue (Or.inl hReserved) (AccountDiscriminator.queue.toBytes ++ (l queue.key).data.drop 8)).moves
  exact hTagged.trans (storeQueue_moves _ hQueue (Or.inl hReserved))

theorem overwrite_moves {a : AccountInfo} {bytes : List UInt8} (h : overwrite l a.key bytes = .ok l')
    (hMem : a ∈ accounts) (hReserved : rt.Reserved a.key) : Moves rt accounts l l' := by
  obtain ⟨_, h⟩ := require_bind_eq_ok.mp h
  cases h
  exact (Move.write hMem (Or.inl hReserved) _).moves

theorem updateOpenQueues_moves {update : UInt64 → UInt64} {a : AccountInfo} (h : updateOpenQueues update a l = .ok l')
    (hMem : a ∈ accounts) (hReserved : rt.Reserved a.key) : Moves rt accounts l l' := by
  obtain ⟨o, -, h⟩ := bind_eq_ok.mp h
  cases h
  exact (Move.write hMem (Or.inl hReserved) _).moves

end

/-! ## The instructions -/

theorem Environment.reserved_oracles {env : Environment} {k : Pubkey} (h : k = env.oraclesPda.1) : env.Reserved k :=
  Or.inl h

theorem Environment.reserved_oracleData {env : Environment} {k identity : Pubkey}
    (h : k = (env.oracleDataPda identity).1) : env.Reserved k :=
  Or.inr (Or.inl ⟨identity, h⟩)

theorem Environment.reserved_queue {env : Environment} {k identity : Pubkey} {index : UInt8}
    (h : k = (env.oracleQueuePda identity index).1) : env.Reserved k :=
  Or.inr (Or.inr ⟨identity, index, h⟩)

open Environment

theorem processInitialize_moves (h : processInitialize rt accounts l = .ok (l', receipt)) :
    Moves rt accounts l l' := by
  unfold processInitialize at h
  split at h
  · rename_i signerInfo oraclesInfo systemProgram
    obtain ⟨_, h⟩ := require_bind_eq_ok.mp h
    obtain ⟨_, h⟩ := require_bind_eq_ok.mp h
    obtain ⟨_, h⟩ := require_bind_eq_ok.mp h
    obtain ⟨hKey, h⟩ := require_bind_eq_ok.mp h
    obtain ⟨bytes, -, h⟩ := bind_eq_ok.mp h
    obtain ⟨l₁, hCreate, h⟩ := bind_eq_ok.mp h
    obtain ⟨l₂, hOverwrite, h⟩ := bind_eq_ok.mp h
    cases h
    have hReserved : rt.Reserved oraclesInfo.key := reserved_oracles hKey
    exact (createOrAllocate_moves hCreate (by simp) (by simp) hReserved).trans
      (overwrite_moves hOverwrite (by simp) hReserved)
  · cases h

theorem addOracle_moves {args : ModifyOracle} {oracleData systemProgram signer : AccountInfo}
    (h : addOracle rt clock args oracleData systemProgram signer l = .ok l') (hData : oracleData ∈ accounts)
    (hSigner : signer ∈ accounts) (hReserved : rt.Reserved oracleData.key) : Moves rt accounts l l' := by
  obtain ⟨l₁, hCreate, h⟩ := bind_eq_ok.mp h
  obtain ⟨o, -, h⟩ := bind_eq_ok.mp h
  cases h
  obtain ⟨l₂, hAllocate, hTag⟩ := bind_eq_ok.mp hCreate
  cases hTag
  have hTagged : Moves rt accounts l₂ _ := (Move.write hData (Or.inl hReserved)
    (Oracle.account.discriminator.toU8 :: (l₂ oracleData.key).data.drop 1)).moves
  exact ((createOrAllocate_moves hAllocate hSigner hData hReserved).trans hTagged).trans
    (Move.write hData (Or.inl hReserved) _).moves

theorem processModifyOracles_moves (h : processModifyOracles rt clock accounts data l = .ok (l', receipt)) :
    Moves rt accounts l l' := by
  obtain ⟨args, -, h⟩ := bind_eq_ok.mp h
  obtain ⟨_, -, h⟩ := bind_eq_ok.mp h
  split at h
  · rename_i signerInfo oraclesInfo oracleDataInfo programDataInfo systemProgram _ _
    obtain ⟨_, h⟩ := require_bind_eq_ok.mp h
    obtain ⟨_, -, h⟩ := bind_eq_ok.mp h
    obtain ⟨_, h⟩ := require_bind_eq_ok.mp h
    obtain ⟨hKey, h⟩ := require_bind_eq_ok.mp h
    obtain ⟨_, h⟩ := require_bind_eq_ok.mp h
    obtain ⟨hDataKey, h⟩ := require_bind_eq_ok.mp h
    obtain ⟨oracles, -, h⟩ := bind_eq_ok.mp h
    obtain ⟨⟨oracles', l₁⟩, hApply, h⟩ := bind_eq_ok.mp h
    obtain ⟨l₂, hResize, h⟩ := bind_eq_ok.mp h
    obtain ⟨bytes, -, h⟩ := bind_eq_ok.mp h
    obtain ⟨l₃, hOverwrite, h⟩ := bind_eq_ok.mp h
    cases h
    have hRegistry : rt.Reserved oraclesInfo.key := reserved_oracles hKey
    have hOracle : rt.Reserved oracleDataInfo.key := reserved_oracleData hDataKey
    have hApplied : Moves rt [signerInfo, oraclesInfo, oracleDataInfo, programDataInfo, systemProgram] l l₁ := by
      obtain ⟨-, hAdd, -⟩ | ⟨-, hRemove, -⟩ := applyOperation_eq_ok hApply
      · exact addOracle_moves hAdd (by simp) (by simp) hOracle
      · obtain ⟨o, -, h⟩ := bind_eq_ok.mp hRemove
        obtain ⟨_, hClose⟩ := require_bind_eq_ok.mp h
        exact closeAccount_moves hClose (by simp) (by simp) hOracle
    exact (hApplied.trans (resizePda_moves hResize (by simp) (by simp) hRegistry)).trans
      (overwrite_moves hOverwrite (by simp) hRegistry)
  · cases h

theorem processInitializeOracleQueue_moves (h : processInitializeOracleQueue rt accounts data l = .ok (l', receipt)) :
    Moves rt accounts l l' := by
  obtain ⟨signer, oracle, oracleData, queue, systemProgram, args, size, l₁, rfl, -, -, hDataKey, hKey, -, hCreate,
    hCases⟩ := processInitializeOracleQueue_eq_ok h
  have hQueue : rt.Reserved queue.key := reserved_queue hKey
  have hSized : Moves rt [signer, oracle, oracleData, queue, systemProgram] l l₁ :=
    createOrResize_moves hCreate (by simp) (by simp) hQueue
  obtain ⟨rfl, -⟩ | ⟨-, -, l₂, hWrite, hCount⟩ := hCases
  · exact hSized
  · exact (hSized.trans (writeQueueHeader_moves hWrite (by simp) hQueue)).trans
      (updateOpenQueues_moves hCount (by simp) (reserved_oracleData hDataKey))

theorem processRequestRandomness_moves {highPriority isScoped : Bool}
    (h : processRequestRandomness rt clock accounts data highPriority isScoped l = .ok (l', receipt)) :
    Moves rt accounts l l' := by
  obtain ⟨args, _, h⟩ := bind_eq_ok.mp h
  dsimp only at h
  split at h
  · rename_i signerInfo programIdentityInfo oracleQueueInfo systemProgramInfo slothashesInfo _
    obtain ⟨_, h⟩ := require_bind_eq_ok.mp h
    obtain ⟨_, h⟩ := require_bind_eq_ok.mp h
    obtain ⟨_, h⟩ := require_bind_eq_ok.mp h
    obtain ⟨_, h⟩ := require_bind_eq_ok.mp h
    obtain ⟨hOwner, h⟩ := require_bind_eq_ok.mp h
    obtain ⟨_, _, h⟩ := bind_eq_ok.mp h
    obtain ⟨slothash, _, h⟩ := bind_eq_ok.mp h
    obtain ⟨⟨l₁, position⟩, hEnqueue, h⟩ := bind_eq_ok.mp h
    dsimp only at h
    obtain ⟨l₂, hCharge, h⟩ := bind_eq_ok.mp h
    cases h
    obtain ⟨-, -, q, rfl⟩ := enqueue_frame hEnqueue
    refine (storeQueue_moves q (by simp) (Or.inr hOwner)).trans ?_
    unfold charge at hCharge
    split at hCharge
    · cases hCharge
      exact .refl _ _ _
    · exact System.transfer_moves hCharge (by simp) (by simp)
  · cases h

theorem processProvideRandomness_moves (h : processProvideRandomness rt clock accounts data l = .ok (l', receipt)) :
    Moves rt accounts l l' := by
  obtain ⟨⟨l₁, p⟩, hPrepare, h⟩ := bind_eq_ok.mp h
  obtain ⟨l₂, hInvoke, h⟩ := bind_eq_ok.mp h
  obtain ⟨l₃, hCollect, h⟩ := bind_eq_ok.mp h
  cases h
  obtain ⟨args, _, hPrepare⟩ := bind_eq_ok.mp hPrepare
  split at hPrepare
  · rename_i oracleInfo programIdentityInfo oracleDataInfo oracleQueueInfo callbackProgramInfo remaining _
    obtain ⟨_, hPrepare⟩ := require_bind_eq_ok.mp hPrepare
    obtain ⟨_, hPrepare⟩ := require_bind_eq_ok.mp hPrepare
    obtain ⟨o, -, hPrepare⟩ := bind_eq_ok.mp hPrepare
    obtain ⟨header, -, hPrepare⟩ := bind_eq_ok.mp hPrepare
    obtain ⟨_, hPrepare⟩ := require_bind_eq_ok.mp hPrepare
    obtain ⟨_, hPrepare⟩ := require_bind_eq_ok.mp hPrepare
    obtain ⟨hKey, hPrepare⟩ := require_bind_eq_ok.mp hPrepare
    obtain ⟨q, -, hPrepare⟩ := bind_eq_ok.mp hPrepare
    obtain ⟨⟨index, item, payload, q'⟩, -, hPrepare⟩ := bind_eq_ok.mp hPrepare
    dsimp only at hPrepare
    obtain ⟨_, hPrepare⟩ := require_bind_eq_ok.mp hPrepare
    obtain ⟨seeds, -, hPrepare⟩ := bind_eq_ok.mp hPrepare
    cases hPrepare
    have hQueue : rt.Reserved oracleQueueInfo.key := reserved_queue hKey
    refine ((storeQueue_moves q' (by simp) (Or.inl hQueue)).trans
      (Move.invoke ?_ hInvoke).moves).trans ?_
    · intro a ha
      simp only [List.mem_cons] at ha ⊢
      tauto
    · unfold collectFee at hCollect
      split at hCollect
      · cases hCollect
        exact .refl _ _ _
      · exact transferFee_moves hCollect (by simp) (by simp) hQueue
  · cases hPrepare

theorem processPurgeExpiredRequests_moves
    (h : processPurgeExpiredRequests rt clock accounts data l = .ok (l', receipt)) : Moves rt accounts l l' := by
  obtain ⟨index, _, h⟩ := bind_eq_ok.mp h
  split at h
  · rename_i oracleInfo oracleQueueInfo _
    obtain ⟨_, h⟩ := require_bind_eq_ok.mp h
    obtain ⟨_, h⟩ := require_bind_eq_ok.mp h
    obtain ⟨hKey, h⟩ := require_bind_eq_ok.mp h
    dsimp only at h
    obtain ⟨_, -, h⟩ := bind_eq_ok.mp h
    obtain ⟨q, -, h⟩ := bind_eq_ok.mp h
    obtain ⟨⟨q', total⟩, -, h⟩ := bind_eq_ok.mp h
    dsimp only at h
    obtain ⟨l₁, hPay, h⟩ := bind_eq_ok.mp h
    cases h
    have hQueue : rt.Reserved oracleQueueInfo.key := reserved_queue hKey
    refine (storeQueue_moves q' (by simp) (Or.inl hQueue)).trans ?_
    unfold payPurge at hPay
    split at hPay
    · exact transferFee_moves hPay (by simp) (by simp) hQueue
    · cases hPay
      exact .refl _ _ _
  · cases h

theorem processSetQueuePaused_moves (h : processSetQueuePaused rt accounts data l = .ok (l', receipt)) :
    Moves rt accounts l l' := by
  obtain ⟨args, -, h⟩ := bind_eq_ok.mp h
  obtain ⟨_, h⟩ := require_bind_eq_ok.mp h
  split at h
  · rename_i oracleInfo oracleQueueInfo _ _
    obtain ⟨_, h⟩ := require_bind_eq_ok.mp h
    obtain ⟨_, h⟩ := require_bind_eq_ok.mp h
    obtain ⟨_, h⟩ := require_bind_eq_ok.mp h
    obtain ⟨hKey, h⟩ := require_bind_eq_ok.mp h
    obtain ⟨_, -, h⟩ := bind_eq_ok.mp h
    obtain ⟨q, -, h⟩ := bind_eq_ok.mp h
    cases h
    exact storeQueue_moves _ (by simp) (Or.inl (reserved_queue hKey))
  · cases h

theorem processCloseOracleQueue_moves (h : processCloseOracleQueue rt accounts data l = .ok (l', receipt)) :
    Moves rt accounts l l' := by
  obtain ⟨index, _, h⟩ := bind_eq_ok.mp h
  split at h
  · rename_i oracleInfo oracleDataInfo oracleQueueInfo _
    obtain ⟨_, h⟩ := require_bind_eq_ok.mp h
    obtain ⟨_, h⟩ := require_bind_eq_ok.mp h
    obtain ⟨_, h⟩ := require_bind_eq_ok.mp h
    obtain ⟨hDataKey, h⟩ := require_bind_eq_ok.mp h
    obtain ⟨_, h⟩ := require_bind_eq_ok.mp h
    obtain ⟨_, h⟩ := require_bind_eq_ok.mp h
    obtain ⟨hKey, h⟩ := require_bind_eq_ok.mp h
    obtain ⟨_, -, h⟩ := bind_eq_ok.mp h
    obtain ⟨q, -, h⟩ := bind_eq_ok.mp h
    obtain ⟨_, h⟩ := require_bind_eq_ok.mp h
    obtain ⟨l₁, hCount, h⟩ := bind_eq_ok.mp h
    obtain ⟨l₂, hClose, h⟩ := bind_eq_ok.mp h
    cases h
    have hQueue : rt.Reserved oracleQueueInfo.key := reserved_queue hKey
    exact ((storeQueue_moves q (by simp) (Or.inl hQueue)).trans
      (updateOpenQueues_moves hCount (by simp) (reserved_oracleData hDataKey))).trans
      (closeAccount_moves hClose (by simp) (by simp) hQueue)
  · cases h

theorem processDelegateOracleQueue_moves (h : processDelegateOracleQueue rt accounts data l = .ok (l', receipt)) :
    Moves rt accounts l l' := by
  obtain ⟨index, _, h⟩ := bind_eq_ok.mp h
  split at h
  · obtain ⟨_, h⟩ := require_bind_eq_ok.mp h
    obtain ⟨_, h⟩ := require_bind_eq_ok.mp h
    obtain ⟨_, h⟩ := require_bind_eq_ok.mp h
    obtain ⟨_, h⟩ := require_bind_eq_ok.mp h
    obtain ⟨hKey, h⟩ := require_bind_eq_ok.mp h
    obtain ⟨header, -, h⟩ := bind_eq_ok.mp h
    obtain ⟨_, h⟩ := require_bind_eq_ok.mp h
    obtain ⟨l₁, hDelegate, h⟩ := bind_eq_ok.mp h
    cases h
    exact (Move.delegate (reserved_queue hKey) hDelegate).moves
  · cases h

theorem processInstruction_moves {programId : Pubkey}
    (h : processInstruction rt clock programId accounts data l = .ok (l', receipt)) : Moves rt accounts l l' := by
  obtain ⟨⟨ix, rest⟩, _, h⟩ := bind_eq_ok.mp h
  cases ix with
  | initializeProgram => exact processInitialize_moves h
  | modifyOracle => exact processModifyOracles_moves h
  | initializeOracleQueue => exact processInitializeOracleQueue_moves h
  | requestHighPriorityRandomness => exact processRequestRandomness_moves h
  | requestRandomness => exact processRequestRandomness_moves h
  | requestHighPriorityRandomnessScoped => exact processRequestRandomness_moves h
  | requestRandomnessScoped => exact processRequestRandomness_moves h
  | provideRandomness => exact processProvideRandomness_moves h
  | delegateOracleQueue => exact processDelegateOracleQueue_moves h
  | closeOracleQueue => exact processCloseOracleQueue_moves h
  | purgeExpiredRequests => exact processPurgeExpiredRequests_moves h
  | setQueuePaused => exact processSetQueuePaused_moves h

/-! ## Whole runs -/

namespace Event

/-- A call is passed only these keys; a change by other programs moves lamports only among them. -/
def Within (keys : Finset Pubkey) (l : Ledger) : Event → Prop
  | .call accounts _ => ∀ a ∈ accounts, a.key ∈ keys
  | .outside l' => Balanced keys l l'
  | .tick _ => True

/-- The holder of the key signs no call, and other programs take nothing from it. -/
def Spares (k : Pubkey) (l : Ledger) : Event → Prop
  | .call accounts _ => Unsigned accounts k
  | .outside l' => Kept (l k) (l' k)
  | .tick _ => True

end Event

namespace World

/-- A call makes moves if it succeeds and changes nothing if it fails. -/
theorem moves_of_call (rt : Runtime) (w : World) (accounts : List AccountInfo) (data : List UInt8) :
    Moves rt accounts w.ledger (w.next rt (.call accounts data)).ledger := by
  simp only [next]
  cases hCall : w.execute rt accounts data with
  | ok result => exact processInstruction_moves hCall
  | error e => exact .refl _ _ _

theorem next_balanced {keys : Finset Pubkey} {w : World} {e : Event} (hCallees : rt.Conserves keys)
    (h : e.Within keys w.ledger) : Balanced keys w.ledger (w.next rt e).ledger := by
  cases e with
  | call accounts data => exact (w.moves_of_call rt accounts data).balanced hCallees h
  | outside l => exact h
  | tick clock => exact .refl _ _

theorem next_kept {k : Pubkey} {w : World} {e : Event} (hWallet : Wallet rt.toEnvironment k) (hCallees : rt.Respects k)
    (hOwner : (w.ledger k).owner = systemProgramId) (h : e.Spares k w.ledger) :
    Kept (w.ledger k) ((w.next rt e).ledger k) := by
  cases e with
  | call accounts data => exact (w.moves_of_call rt accounts data).kept hWallet hCallees hOwner h
  | outside l => exact h
  | tick clock => exact .refl _

end World

/-- However the calls interleave with changes by other programs that move lamports only within the set of
keys, lamports are neither made nor lost: among the accounts the calls are passed they only change hands,
and elsewhere none moves. -/
theorem lamports_conserved (run : ChainRun rt) {keys : Finset Pubkey} (hCallees : rt.Conserves keys) {m n : Nat}
    (hmn : m ≤ n) (hWithin : ∀ i, m ≤ i → i < n → (run.event i).Within keys (run.ledger i)) :
    Balanced keys (run.ledger m) (run.ledger n) := by
  induction n, hmn using Nat.le_induction with
  | base => exact .refl _ _
  | succ n hmn ih =>
    have hStep : Balanced keys (run.ledger n) (run.ledger (n + 1)) :=
      World.next_balanced hCallees (hWithin n hmn (Nat.lt_succ_self n))
    exact (ih fun i hi hin => hWithin i hi (Nat.lt_succ_of_lt hin)).trans hStep

/-! ### On the sample run -/

namespace Sample

def parties : Finset Pubkey :=
  [payer, oracle, slotHashesId, programData, callbackProgram, oraclesKey, oracleDataKey, queueKey, scopedIdentity,
    programIdentity, systemProgramId].toFinset

def callAccounts : Event → List AccountInfo
  | .call accounts _ => accounts
  | _ => []

theorem run_within (i : Nat) (hi : i < 6) : (run.event i).Within parties (run.ledger i) := by
  have hCalls : ∀ e ∈ events, ∀ a ∈ callAccounts e, a.key ∈ parties := by decide +kernel
  have hEvent : ∃ e ∈ events, run.event i = e := by
    refine ⟨events[i], List.getElem_mem hi, ?_⟩
    change (events[i]?).getD _ = _
    rw [List.getElem?_eq_getElem hi, Option.getD_some]
  obtain ⟨e, hMem, hEvent⟩ := hEvent
  rw [hEvent]
  cases e with
  | call accounts data => exact hCalls _ hMem
  | outside l =>
    simp [events] at hMem
  | tick clock => trivial

theorem runtime_conserves (keys : Finset Pubkey) : runtime.Conserves keys where
  invoked _ l _ h _ := Except.ok.inj h ▸ Balanced.refl keys l
  delegated _ _ _ _ _ h := nomatch h

theorem runtime_respects (k : Pubkey) : runtime.Respects k where
  invoked _ l _ h _ _ := Except.ok.inj h ▸ Kept.refl (l k)
  delegated _ _ _ _ _ h := nomatch h

theorem wallet_of_outsider {k : Pubkey} (hk : k ∈ outsiders) : Wallet environment k := by
  intro seeds hCreate
  simp only [environment] at hCreate
  split at hCreate
  · exact not_derived hk ⟨seeds.dropLast, (Option.some.inj hCreate).symm⟩
  · cases hCreate

end Sample

theorem lamports_conserved_fulfilment :
    (Sample.run.ledger 6).total Sample.parties = 11000000003 ∧
      (Sample.run.ledger 6 Sample.payer).lamports < (Sample.run.ledger 0 Sample.payer).lamports := by
  have hBalanced := lamports_conserved Sample.run (Sample.runtime_conserves Sample.parties) (Nat.zero_le 6)
    fun i _ hi => Sample.run_within i hi
  refine ⟨hBalanced.total.trans ?_, ?_⟩
  · decide +kernel
  · decide +kernel

/-- A wallet that signs nothing keeps its lamports, its data and its owner over any run in which the other
programs' changes take nothing from it either. -/
theorem nothing_taken_unsigned (run : ChainRun rt) {k : Pubkey} (hWallet : Wallet rt.toEnvironment k)
    (hCallees : rt.Respects k) {m n : Nat} (hmn : m ≤ n) (hOwner : (run.ledger m k).owner = systemProgramId)
    (hSpares : ∀ i, m ≤ i → i < n → (run.event i).Spares k (run.ledger i)) :
    Kept (run.ledger m k) (run.ledger n k) := by
  induction n, hmn using Nat.le_induction with
  | base => exact .refl _
  | succ n hmn ih =>
    have hKept := ih fun i hi hin => hSpares i hi (Nat.lt_succ_of_lt hin)
    have hStep : Kept (run.ledger n k) (run.ledger (n + 1) k) :=
      World.next_kept hWallet hCallees (hKept.owner.trans hOwner) (hSpares n hmn (Nat.lt_succ_self n))
    exact hKept.trans hStep

theorem nothing_taken_unsigned_fulfilment :
    Kept (Sample.run.ledger 4 Sample.payer) (Sample.run.ledger 6 Sample.payer) := by
  refine nothing_taken_unsigned Sample.run (Sample.wallet_of_outsider (by decide +kernel))
    (Sample.runtime_respects Sample.payer) (by decide) (by decide +kernel) fun i hm hn => ?_
  obtain rfl | rfl : i = 4 ∨ i = 5 := by omega
  · trivial
  · change Unsigned Sample.provideAccounts Sample.payer
    unfold Unsigned
    decide +kernel

end SolanaVrf
