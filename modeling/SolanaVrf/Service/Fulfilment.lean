import SolanaVrf.Chain.Callbacks
import SolanaVrf.Chain.Bodies
import SolanaVrf.Service.Scheduler
import SolanaVrf.Vrf.Agreement

/-! # From a pending request to its callback

The service builds one instruction for a request it finds in the bytes of a queue account:
the fulfilment, or a purge once the request is past its time to live. The accounts, the
derived addresses, the identity and the proof in it are computed on the service's side. On
the ledger those bytes are from, the program agrees with every one of them.
-/

namespace SolanaVrf
set_option autoImplicit false

open Pod Slices Fallible Transition AccountInfoValidation QueueAccount

/-! ## The instruction -/

/-- `to_bytes` of an instruction's arguments: the tag, padded to eight bytes, before them. -/
def SolanaVrfInstruction.toBytes (ix : SolanaVrfInstruction) (args : List UInt8) : List UInt8 :=
  [ix.toU8, 0, 0, 0, 0, 0, 0, 0] ++ args

theorem parseInstruction8_toBytes (ix : SolanaVrfInstruction) (args : List UInt8) :
    parseInstruction8 ID (ix.toBytes args) = .ok (ix, args) := by
  have hLong : 8 ≤ (ix.toBytes args).length := Nat.le_add_left 8 args.length
  have hTag : SolanaVrfInstruction.tryFrom ((ix.toBytes args).headD 0) = some ix := ix.tryFrom_toU8
  rw [parseInstruction8, require_of rfl, bind_ok, require_of hLong, bind_ok, hTag]
  rfl

namespace Sdk

variable (env : Environment)

def provideRandomnessWithIdentityMode (oracleIdentity oracleQueue callbackProgramId : Pubkey) (identityMode : UInt8)
    (rndSeed output commitmentBaseCompressed commitmentHashCompressed s : Bytes 32) : Instruction :=
  let programIdentity :=
    if identityMode = 1 then (env.scopedIdentityPda callbackProgramId).1 else programIdentityPda.1
  { programId := ID
    accounts :=
      [⟨oracleIdentity, true, true⟩, ⟨programIdentity, false, false⟩,
        ⟨(env.oracleDataPda oracleIdentity).1, false, false⟩, ⟨oracleQueue, false, true⟩,
        ⟨callbackProgramId, false, false⟩]
    data := SolanaVrfInstruction.provideRandomness.toBytes (ProvideRandomness.layout.encode
      ⟨rndSeed, output, commitmentBaseCompressed, commitmentHashCompressed, s⟩) }

def purgeExpiredRequests (identity : Pubkey) (index : UInt8) : Instruction where
  programId := ID
  accounts := [⟨identity, false, true⟩, ⟨(env.oracleQueuePda identity index).1, false, true⟩]
  data := SolanaVrfInstruction.purgeExpiredRequests.toBytes (queueIndexLayout.encode index)

end Sdk

structure PreparedVrf where
  output : Bytes 32
  commitmentBase : Bytes 32
  commitmentHash : Bytes 32
  s : Bytes 32
deriving DecidableEq

section

variable {ℓ : ℕ} {P : Type} [AddCommGroup P] [Module (ZMod ℓ) P]

/-- What of the service's client a fulfilment reads. -/
structure OracleClient (C : Ristretto ℓ P) where
  pubkey : Pubkey
  oracleVrfSk : ZMod ℓ
  oracleVrfPk : P
  derived : oracleVrfPk = oracleVrfSk • C.basepoint

namespace OracleClient

def new (C : Ristretto ℓ P) (hkdf : Vrf.Hkdf) (keypair : Bytes 64) : OracleClient C where
  -- the second half of a keypair is the public key
  pubkey := (Layout.bytes 32).decode (keypair.toList.drop 32)
  oracleVrfSk := (Vrf.generateVrfKeypair C hkdf keypair).1
  oracleVrfPk := (Vrf.generateVrfKeypair C hkdf keypair).2
  derived := rfl

variable {C : Ristretto ℓ P} (client : OracleClient C)

/-- `prepare_vrf`: the proof, checked before it is used; `none` is a panic. -/
def prepareVrf [DecidableEq P] (hash : List UInt8 → Bytes 32) (hkdf : Vrf.Hkdf) (vrfInput : Bytes 32) :
    Option PreparedVrf := do
  let (output, commitmentBase, commitmentHash, s) ← Vrf.computeVrf C hash hkdf client.oracleVrfSk vrfInput
  let verified ← Vrf.verifyVrf C hash client.oracleVrfPk vrfInput output (commitmentBase, commitmentHash, s)
  if verified then some ⟨output, commitmentBase, commitmentHash, Scalar.toBytes s⟩ else none

end OracleClient

/-- The host clock may trail the cluster clock by this many stamps. -/
def CLOCK_SKEW_UNITS : UInt16 := 15

/-- `age_secs` of the service: a stamp slightly in the future reads as age 0. -/
def hostAgeSecs (now : Int64) (item : QueueItem) : Nat :=
  let nowStamp := QueueItem.createdAtFrom now
  if item.createdAt - nowStamp ≤ CLOCK_SKEW_UNITS then 0 else item.ageSecs nowStamp

/-- The program's instruction in `prepare_transaction`; slicing the account bytes may panic. -/
def prepareInstruction (env : Environment) {C : Ristretto ℓ P} (client : OracleClient C) (now : Int64)
    (item : QueueItem) (vrfInput : Bytes 32) (preparedVrf : PreparedVrf) (queue : Pubkey) (queueMeta : Queue)
    (accountBytes : List UInt8) : Option Instruction :=
  if hostAgeSecs now item > QUEUE_TTL_SECONDS then
    some (Sdk.purgeExpiredRequests env client.pubkey queueMeta.index)
  else if 8 ≤ accountBytes.length then do
    let ix := Sdk.provideRandomnessWithIdentityMode env client.pubkey queue item.callbackProgramId item.identityMode
      vrfInput preparedVrf.output preparedVrf.commitmentBase preparedVrf.commitmentHash preparedVrf.s
    let metas ← item.accountMetas (accountBytes.drop 8)
    return { ix with accounts := ix.accounts ++ metas.map CompactAccountMeta.toAccountMeta }
  else none

end

/-- The accounts an instruction runs with: those its metas name, in order. The transaction carries
every signature and every write it asks for, except writes to keys that the runtime keeps read-only. -/
structure Passes (readonly : Set Pubkey) (metas : List AccountMeta) (infos : List AccountInfo) : Prop where
  keys : infos.map AccountInfo.key = metas.map AccountMeta.pubkey
  signers : ∀ m ∈ metas, m.isSigner = true → ∀ a ∈ infos, a.key = m.pubkey → a.isSigner = true
  writable : ∀ m ∈ metas, m.isWritable = true → m.pubkey ∉ readonly →
    ∀ a ∈ infos, a.key = m.pubkey → a.isWritable = true

/-! ## The program's side -/

section

variable {rt : Runtime} {clock : Clock} {l : Ledger} {q : QueueAccount} {recs : List Record}

theorem takeRequest_ok (h : Represents q recs) {oracle : Pubkey} {vrfPubkey : Bytes 32} {args : ProvideRandomness}
    {r : Record} (hMem : r ∈ recs.filter Record.live) (hTaken : Taken rt clock oracle vrfPubkey args r)
    (hOnly : ∀ r' ∈ recs.filter Record.live, r'.item.id = r.item.id → r' = r) :
    ∃ index q', takeRequest rt clock oracle vrfPubkey args q =
      .ok (index, r.free.item, ⟨r.metas, r.discriminator, r.args⟩, q') := by
  obtain ⟨hIn, hLive⟩ := List.mem_filter.mp hMem
  obtain ⟨-, hNone⟩ | ⟨xs, r', ys, rfl, hLive', hId, hFind, -⟩ := h.findItemById_eq args.input
  · exact absurd hTaken.id (hNone r hIn hLive)
  obtain rfl : r' = r :=
    hOnly r' (List.mem_filter.mpr ⟨by simp, hLive'⟩) (hId.trans hTaken.id.symm)
  obtain ⟨hLe, -⟩ | ⟨xs', r'', ys', q', hSplit, hLive'', hIndex, hRemove, -, -, hTiled, -⟩ :=
    h.removeItem_eq (xs.countP Record.live)
  · rw [List.countP_append, List.countP_cons_of_pos hLive] at hLe
    omega
  obtain ⟨rfl, rfl, rfl⟩ := live_split_unique hSplit hLive hLive'' hIndex.symm
  have hUnnamed : (r'.metas.any fun m => m.pubkey == oracle) = false := by simpa using hTaken.unnamed
  obtain ⟨hDisc, hMetas, hArgs⟩ := payload_eq hTiled
  refine ⟨xs.countP Record.live, q', ?_⟩
  rw [takeRequest, hFind, okOr_some, bind_ok, okOr_some, bind_ok]
  dsimp only
  rw [(payload_eq h.tiled).2.1, okOr_some, bind_ok, require_of hUnnamed, bind_ok, require_of hTaken.later, bind_ok,
    require_of hTaken.verified, bind_ok, hRemove, okOr_some, bind_ok]
  dsimp only
  rw [ofProgram, bind_ok, hMetas, okOr_some, bind_ok, hDisc, okOr_some, bind_ok, hArgs, okOr_some, bind_ok]
  rfl

/-- Everything before the callback succeeds if the accounts are those of the request and its oracle. -/
theorem prepareCallback_ok {oracle identity oracleData queue program : AccountInfo} {remaining : List AccountInfo}
    {args : ProvideRandomness} {acc : Accepted} {o : Oracle} (hHosts : Hosts (l queue.key) q recs)
    (hOracle : IsOracle (l oracleData.key) o) (hMem : acc.record rt.toEnvironment ∈ recs.filter Record.live)
    (hTaken : Taken rt clock oracle.key o.vrfPubkey args (acc.record rt.toEnvironment))
    (hOnly : ∀ r ∈ recs.filter Record.live, r.item.id = acc.id rt.toEnvironment → r = acc.record rt.toEnvironment)
    (hSigner : oracle.isSigner = true) (hData : oracleData.key = (rt.oracleDataPda oracle.key).1)
    (hWritable : queue.isWritable = true) (hKey : queue.key = (rt.oracleQueuePda oracle.key q.header.index).1)
    (hProgram : program.key = acc.args.callbackProgramId) (hIdentity : identity.key = acc.identity rt.toEnvironment)
    (hAllowed : acc.isScoped = true ∨ hasDisallowedExecutableCallbackAccount l remaining = false) :
    ∃ l' p, prepareCallback rt clock (oracle :: identity :: oracleData :: queue :: program :: remaining)
        (ProvideRandomness.layout.encode args) l = .ok (l', p) ∧
      p.item = (acc.record rt.toEnvironment).free.item ∧
      p.invocation.instruction.accounts = ⟨identity.key, true, false⟩ ::
        (acc.record rt.toEnvironment).metas.map CompactAccountMeta.toAccountMeta ∧
      p.invocation.accounts = program :: identity :: remaining := by
  have hSeeds : queue.key = (rt.findProgramAddress [QUEUE, oracle.key.toList, [q.header.index]] ID).1 := hKey
  have hDataSeeds : oracleData.key = (rt.findProgramAddress [ORACLE_DATA, oracle.key.toList] ID).1 := hData
  have hAddress : program.key = (acc.record rt.toEnvironment).free.item.callbackProgramId := hProgram
  obtain ⟨index, q', hTake⟩ := takeRequest_ok hHosts.represents hMem hTaken hOnly
  have hSign := callbackSeeds_record rt (storeQueue l queue.key q') identity remaining acc
  rw [hasDisallowed_storeQueue, require_of hAllowed, bind_ok, hasAddress, require_of hIdentity, bind_ok] at hSign
  rw [prepareCallback, parseArgs, Layout.tryFromBytes_encode, okOr_some, bind_ok]
  simp only [isSigner, isWritable, hasOwner, hasSeeds, hasAddress, require_of hSigner, require_of hDataSeeds,
    require_of hWritable, require_of hHosts.owner, require_of hSeeds, bind_ok, hOracle.asAccount_eq,
    hHosts.queueHeader_eq, hHosts.openQueue_eq, hTake, require_of hAddress, hSign, pure_bind]
  exact ⟨_, _, rfl, rfl, rfl, rfl⟩

end

/-! ## Both sides -/

theorem Passes.cons {readonly : Set Pubkey} {m : AccountMeta} {metas : List AccountMeta} {infos : List AccountInfo}
    (h : Passes readonly (m :: metas) infos) :
    ∃ a rest, infos = a :: rest ∧ a.key = m.pubkey ∧ (m.isSigner = true → a.isSigner = true) ∧
      (m.isWritable = true → m.pubkey ∉ readonly → a.isWritable = true) ∧ Passes readonly metas rest := by
  cases infos with
  | nil => cases h.keys
  | cons a rest =>
    obtain ⟨hKey, hKeys⟩ := List.cons_eq_cons.mp h.keys
    refine ⟨a, rest, rfl, hKey, ?_, ?_, hKeys, ?_, ?_⟩
    · intro hSigner
      exact h.signers m List.mem_cons_self hSigner a List.mem_cons_self hKey
    · intro hWritable hFree
      exact h.writable m List.mem_cons_self hWritable hFree a List.mem_cons_self hKey
    · intro m' hm' hSigner a' ha'
      exact h.signers m' (List.mem_cons_of_mem _ hm') hSigner a' (List.mem_cons_of_mem _ ha')
    · intro m' hm' hWritable hFree a' ha'
      exact h.writable m' (List.mem_cons_of_mem _ hm') hWritable hFree a' (List.mem_cons_of_mem _ ha')

theorem Passes.exists_info {readonly : Set Pubkey} {metas : List AccountMeta} {infos : List AccountInfo}
    (h : Passes readonly metas infos) {m : AccountMeta} (hm : m ∈ metas) : ∃ a ∈ infos, a.key = m.pubkey := by
  apply List.mem_map.mp
  rw [h.keys]
  exact List.mem_map_of_mem hm

theorem Hosts.itemsOf_eq {a : Account} {q : QueueAccount} {recs : List Record} (h : Hosts a q recs) :
    itemsOf a.data = some ((recs.filter Record.live).map Record.item) := by
  rw [itemsOf, h.data, h.represents.load_eq]
  exact h.represents.iterItems_eq

theorem Hosts.drop_data {a : Account} {q : QueueAccount} {recs : List Record} (h : Hosts a q recs) :
    8 ≤ a.data.length ∧ a.data.drop 8 = q.acc := by
  have hLength : AccountDiscriminator.queue.toBytes.length = 8 := AccountDiscriminator.length_toBytes _
  rw [h.data, List.length_append, List.drop_left' hLength]
  exact ⟨hLength ▸ Nat.le_add_right _ _, rfl⟩

section

variable {ℓ : ℕ} {P : Type} [AddCommGroup P] [Module (ZMod ℓ) P] {C : Ristretto ℓ P}

theorem OracleClient.prepareVrf_eq [DecidableEq P] {sys : Syscalls} (hImpl : C.Implements sys) (client : OracleClient C)
    {hkdf : Vrf.Hkdf} {input output commitmentBase commitmentHash : Bytes 32} {s : ZMod ℓ}
    (hCompute : Vrf.computeVrf C sys.hash hkdf client.oracleVrfSk input =
      some (output, commitmentBase, commitmentHash, s)) :
    client.prepareVrf sys.hash hkdf input = some ⟨output, commitmentBase, commitmentHash, Scalar.toBytes s⟩ := by
  rw [prepareVrf, hCompute, client.derived]
  simp only [Option.bind_eq_bind, Option.bind_some, hImpl.verifies_of_computeVrf hCompute, if_true]

theorem prepareInstruction_eq {env : Environment} {client : OracleClient C} {now : Int64} {item : QueueItem}
    {input : Bytes 32} {vrf : PreparedVrf} {queue : Pubkey} {queueMeta : Queue} {accountBytes : List UInt8}
    {metas : List CompactAccountMeta} (hFresh : hostAgeSecs now item ≤ QUEUE_TTL_SECONDS)
    (hLong : 8 ≤ accountBytes.length) (hMetas : item.accountMetas (accountBytes.drop 8) = some metas) :
    prepareInstruction env client now item input vrf queue queueMeta accountBytes = some
      { programId := ID
        accounts := ⟨client.pubkey, true, true⟩ ::
          ⟨if item.identityMode = 1 then (env.scopedIdentityPda item.callbackProgramId).1 else programIdentityPda.1,
            false, false⟩ ::
          ⟨(env.oracleDataPda client.pubkey).1, false, false⟩ :: ⟨queue, false, true⟩ ::
          ⟨item.callbackProgramId, false, false⟩ :: metas.map CompactAccountMeta.toAccountMeta
        data := SolanaVrfInstruction.provideRandomness.toBytes (ProvideRandomness.layout.encode
          ⟨input, vrf.output, vrf.commitmentBase, vrf.commitmentHash, vrf.s⟩) } := by
  rw [prepareInstruction, if_neg (Nat.not_lt.mpr hFresh), if_pos hLong, hMetas]
  rfl

end

/-- The stored mode tells the service which identity the request was made for. -/
theorem Accepted.identity_eq (env : Environment) (acc : Accepted) :
    (if (acc.record env).item.identityMode = 1 then
      (env.scopedIdentityPda (acc.record env).item.callbackProgramId).1 else programIdentityPda.1) =
      acc.identity env := by
  change (if acc.isScoped.toUInt8 = 1 then (env.scopedIdentityPda acc.args.callbackProgramId).1 else _) = _
  unfold Accepted.identity
  cases acc.isScoped with
  | true => rfl
  | false => rfl

/-- What the service builds for a pending request, from the bytes of the queue, passes every check of
the program in any later slot and gets as far as the callback, which is passed all the accounts it
names. It fails only if the request names the oracle, or is a legacy one next to a program that is not
allowed. -/
theorem fulfilment_reaches_callback {ℓ : ℕ} [NeZero ℓ] {P : Type} [AddCommGroup P] [Module (ZMod ℓ) P]
    [DecidableEq P] (C : Ristretto ℓ P) (hkdf : Vrf.Hkdf) (rt : Runtime) (hImpl : C.Implements rt.toSyscalls)
    (run : ChainRun rt) (client : OracleClient C) (k : Pubkey) (index : UInt8)
    (hk : k = (rt.oracleQueuePda client.pubkey index).1) (hClock : ClockAdvances run.clock)
    (hHash : Set.InjOn rt.hash (run.preimages k)) (s n : Nat)
    (hOpened : run.receipt s = some (.opened client.pubkey index)) (hsn : s < n)
    (hQueue : ∀ m, s < m → m ≤ n → IsQueue (run.ledger m k)) (o : Oracle)
    (hOracle : IsOracle (run.ledger n (rt.oracleDataPda client.pubkey).1) o)
    (hKey : o.vrfPubkey = C.compress (client.oracleVrfSk • C.basepoint)) :
    ∃ items, itemsOf (run.ledger n k).data = some items ∧ ∀ item ∈ items,
      ∃ metas, item.accountMetas ((run.ledger n k).data.drop 8) = some metas ∧
        (Vrf.computeVrf C rt.hash hkdf client.oracleVrfSk item.id ≠ none →
          ∃ vrf, client.prepareVrf rt.hash hkdf item.id = some vrf ∧
          ∀ (now : Int64) (queueMeta : Queue), hostAgeSecs now item ≤ QUEUE_TTL_SECONDS →
          ∃ ix, prepareInstruction rt.toEnvironment client now item item.id vrf k queueMeta
              (run.ledger n k).data = some ix ∧
            ∀ (clock : Clock) (readonly : Set Pubkey) (infos : List AccountInfo), item.slot < clock.slot →
              k ∉ readonly → Passes readonly ix.accounts infos → (∀ m ∈ metas, m.pubkey ≠ client.pubkey) →
              (item.identityMode = 1 ∨
                hasDisallowedExecutableCallbackAccount (run.ledger n) (infos.drop 5) = false) →
              ∃ args l' p, parseInstruction8 ix.programId ix.data = .ok (.provideRandomness, args) ∧
                prepareCallback rt clock infos args (run.ledger n) = .ok (l', p) ∧
                p.item = { item with used := 0 } ∧
                ∀ m ∈ p.invocation.instruction.accounts, ∃ a ∈ p.invocation.accounts, a.key = m.pubkey) := by
  subst hk
  obtain ⟨q, _, hHosts', hIndex⟩ := run.index_of_opened hOpened hsn hQueue
  obtain ⟨book, hBook⟩ := run.exists_book (rt.oracleQueuePda client.pubkey index).1
  obtain ⟨q', recs, hHosts, hLive⟩ := (hBook.booked n).pending (hQueue n hsn (Nat.le_refl n))
  obtain rfl : q = q' := Except.ok.inj (hHosts'.openQueue_eq.symm.trans hHosts.openQueue_eq)
  have hIds : ((recs.filter Record.live).map fun r => r.item.id).Nodup := by
    rw [hLive, List.map_map]
    exact hBook.ids_nodup hClock hHash n
  obtain ⟨hLong, hBody⟩ := hHosts.drop_data
  refine ⟨_, hHosts.itemsOf_eq, fun item hItem => ?_⟩
  obtain ⟨r, hMem, rfl⟩ := List.mem_map.mp hItem
  obtain ⟨xs, ys, hSplit⟩ := List.append_of_mem (List.mem_of_mem_filter hMem)
  have hMetas : r.item.accountMetas ((run.ledger n (rt.oracleQueuePda client.pubkey index).1).data.drop 8) =
      some r.metas := by
    rw [hBody]
    exact (payload_eq (hSplit ▸ hHosts.represents.tiled)).2.1
  refine ⟨r.metas, hMetas, fun hCompute => ?_⟩
  obtain ⟨⟨output, commitmentBase, commitmentHash, response⟩, hCompute⟩ := Option.ne_none_iff_exists'.mp hCompute
  refine ⟨_, client.prepareVrf_eq hImpl hCompute, fun now queueMeta hFresh => ?_⟩
  refine ⟨_, prepareInstruction_eq hFresh hLong hMetas, fun clock readonly infos hLater hFree hPasses hUnnamed hAllowed => ?_⟩
  -- the request behind the record says which identity and which bump were stored
  obtain ⟨e, he, hRecord⟩ : ∃ e ∈ book n, e.record = r := List.mem_map.mp (hLive ▸ hMem)
  obtain ⟨-, acc, hBy⟩ := (hBook.provenance n).2 e he
  obtain rfl : acc.record rt.toEnvironment = r := hBy.record.symm.trans hRecord
  have hOnly (r : Record) (hr : r ∈ recs.filter Record.live) (hId : r.item.id = acc.id rt.toEnvironment) :
      r = acc.record rt.toEnvironment := List.inj_on_of_nodup_map hIds hr hMem hId
  obtain ⟨oracle, _, rfl, hOracleKey, hSigner, -, hPasses⟩ := hPasses.cons
  obtain ⟨identity, _, rfl, hIdentity, -, -, hPasses⟩ := hPasses.cons
  obtain ⟨oracleData, _, rfl, hDataKey, -, -, hPasses⟩ := hPasses.cons
  obtain ⟨queue, _, rfl, hQueueKey, -, hWritable, hPasses⟩ := hPasses.cons
  obtain ⟨program, remaining, rfl, hProgram, -, -, hPasses⟩ := hPasses.cons
  dsimp only at hOracleKey hIdentity hDataKey hQueueKey hProgram
  rw [acc.identity_eq] at hIdentity
  have hScoped : acc.isScoped.toUInt8 = 1 ↔ acc.isScoped = true := by cases acc.isScoped <;> decide
  have hTaken : Taken rt clock oracle.key o.vrfPubkey
      ⟨acc.id rt.toEnvironment, output, commitmentBase, commitmentHash, Scalar.toBytes response⟩
      (acc.record rt.toEnvironment) := by
    refine ⟨rfl, ?_, hLater, ?_⟩
    · rw [hOracleKey]
      exact hUnnamed
    · rw [hKey]
      exact hImpl.verifyVrf_of_computeVrf hCompute
  obtain ⟨l', p, hPrepare, hItem, hNamed, hSupplied⟩ := prepareCallback_ok (hQueueKey ▸ hHosts) (hDataKey ▸ hOracle)
    hMem hTaken hOnly (hSigner rfl) (by rw [hDataKey, hOracleKey]) (hWritable rfl hFree)
    (by rw [hQueueKey, hOracleKey, hIndex]) hProgram hIdentity (hAllowed.imp_left hScoped.mp)
  refine ⟨_, l', p, parseInstruction8_toBytes _ _, hPrepare, hItem, ?_⟩
  rw [hNamed, hSupplied]
  intro m hm
  obtain rfl | hm := List.mem_cons.mp hm
  · exact ⟨identity, by simp, rfl⟩
  · obtain ⟨a, ha, haKey⟩ := hPasses.exists_info hm
    exact ⟨a, by simp [ha], haKey⟩

namespace Sample

instance neZero_order : NeZero order := ⟨by decide⟩

def keypair : Bytes 64 :=
  leBytes 64 (0x94b3c98f5b0ff65da237eeb4918a8dcbcc7e4cc36654a3565f177da80e773981 * 2 ^ 256 +
    0x0202020202020202020202020202020202020202020202020202020202020202)

def secret : Nat := 0x8adf47ac005a7c0e468fd73605d3ca8712b56b2fc88c1834b48a8a62e766a7

def derivedKeys : List ((List UInt8 × List UInt8 × List UInt8) × Bytes 64) :=
  [((ascii "VRF-Solana-SecretKey", keypair.toList, ascii "VRF-Key"),
      leBytes 64 (0x692f00e0e875a0e92dd7f9b0f8f2ed46479652bd46146042c959b1fb744c91e8 * 2 ^ 256 +
        0x308adf47ac005a7c0e468fd73605d3cac5afa30718af629b3cebb3d979c8e26e)),
    ((Vrf.VRF_PREFIX_NONCE, toLe 32 secret ++ requestId.toList, ascii "VRF-Nonce"),
      leBytes 64 (0xec11efd2cd4c651cb255f6e301f8a93d0b711b95cd5ba83e24d2c55ae2a63d84 * 2 ^ 256 +
        0x5fda71aa460c294fa6547231935e2f670efcc23ba635dd989de14af6dab0fab8))]

def hkdf : Vrf.Hkdf := fun salt ikm info => (derivedKeys.lookup (salt, ikm, info)).getD (leBytes 64 0)

/-- The points of the proof by their logarithms; that of the hash point is set to 2. -/
def logarithms : List (Nat × Bytes 32) :=
  let k := 0xfda71aa460c294fa6547231935e2f66a6a1e0e2775fcd68e5855b7309e3d717
  let c := ofLe scalarHash.toList
  [(1, RISTRETTO_BASEPOINT_POINT), (secret, vrfPubkey), (2, point), (2 * secret, output), (k, commitmentBase),
    (2 * k, commitmentHash), (k + c * secret, sBase), (c * secret, cPk), (2 * (k + c * secret), sPoint),
    (2 * (c * secret), cOutput)]

def points : List (ZMod order × Bytes 32) := logarithms.map fun e => ((e.1 : ZMod order), e.2)

/-- Points outside the table get strings with the high bit, which no real encoding has. -/
def compress (p : ZMod order) : Bytes 32 := (points.lookup p).getD (leBytes 32 (2 ^ 255 + p.val))

def decompress (b : Bytes 32) : Option (ZMod order) :=
  match points.find? fun e => e.2 == b with
  | some e => some e.1
  | none => if 2 ^ 255 ≤ ofLe b.toList then some ((ofLe b.toList - 2 ^ 255 : ℕ) : ZMod order) else none

theorem decompress_of_mem {e : ZMod order × Bytes 32} (he : e ∈ points) : decompress e.2 = some e.1 := by
  have hNodup : (points.map Prod.snd).Nodup := by decide +kernel
  unfold decompress
  cases hFind : points.find? fun e' => e'.2 == e.2 with
  | some e' =>
    have hSame : e'.2 = e.2 := eq_of_beq (List.find?_some (p := fun e' : ZMod order × Bytes 32 => e'.2 == e.2) hFind)
    rw [List.inj_on_of_nodup_map hNodup (List.mem_of_find?_eq_some hFind) he hSame]
  | none => exact absurd (beq_self_eq_true e.2) (List.find?_eq_none.mp hFind e he)

theorem decompress_high (p : ZMod order) : decompress (leBytes 32 (2 ^ 255 + p.val)) = some p := by
  have hLow : (points.all fun e => ofLe e.2.toList < 2 ^ 255) = true := by decide +kernel
  have hOrder : order < 2 ^ 255 := by decide +kernel
  have hVal := p.val_lt
  have hValue : ofLe (leBytes 32 (2 ^ 255 + p.val)).toList = 2 ^ 255 + p.val := by
    change ofLe (toLe 32 _) = _
    rw [ofLe_toLe, Nat.mod_eq_of_lt (by omega)]
  have hFind : (points.find? fun e => e.2 == leBytes 32 (2 ^ 255 + p.val)) = none := by
    refine List.find?_eq_none.mpr fun e he hSame => ?_
    have hSmall := of_decide_eq_true (List.all_eq_true.mp hLow e he)
    rw [eq_of_beq hSame, hValue] at hSmall
    omega
  rw [decompress, hFind, hValue]
  dsimp only
  rw [if_pos (Nat.le_add_right _ _), Nat.add_sub_cancel_left, ZMod.natCast_zmod_val]

def curve : Ristretto order (ZMod order) where
  basepoint := 1
  compress := compress
  decompress := decompress
  basepoint_ne_zero := by decide +kernel
  decompress_compress p := by
    unfold compress
    cases hLookup : points.lookup p with
    | some b => exact decompress_of_mem (mem_of_lookup hLookup)
    | none => exact decompress_high p
  order_le := by decide +kernel

def client : OracleClient curve := .new curve hkdf keypair

def curveRuntime : Runtime where
  toEnvironment := { environment with toSyscalls := curve.syscalls environment.hash }
  invokeSigned _ l := .ok l
  delegateAccountWithAnyValidator _ _ _ _ := .error .external
  create_find seeds program := by simp [environment]
  external_of_invokeSigned _ l _ h := Except.ok.inj h ▸ External.refl _ l
  delegates_of_delegateAccount _ _ _ _ _ h := nomatch h

theorem implements : curve.Implements curveRuntime.toSyscalls := curve.implements_syscalls _ (by decide +kernel)

def requesting : ChainRun curveRuntime where
  start := genesis
  event n := ((events.take 4)[n]?).getD (.tick Sample.clock)
  initial := funded_genesis fun _ hk => not_derived hk
  allowed n := by
    refine allowed_of_signedOutside (fun _ hk => not_derived hk) ?_
    have hSigned : ∀ e ∈ events.take 4, signedOutside e = true := by decide +kernel
    cases hEvent : (events.take 4)[n]? with
    | some e => exact hSigned e (List.mem_of_getElem? hEvent)
    | none => rfl

theorem requesting_receipt : ∀ n, requesting.receipt n = ((receipts.take 4)[n]?).join
  | 0 => by decide +kernel
  | 1 => by decide +kernel
  | 2 => by decide +kernel
  | 3 => by decide +kernel
  | _ + 4 => rfl

theorem requesting_clock : ∀ n, requesting.clock n = Sample.clock
  | 0 => rfl
  | 1 => by decide +kernel
  | 2 => by decide +kernel
  | 3 => by decide +kernel
  | 4 => by decide +kernel
  | _ + 5 => rfl

def item : QueueItem := { prepared.item with used := 1 }

def vrf : PreparedVrf := ⟨output, commitmentBase, commitmentHash, response⟩

def fulfilment : Instruction where
  programId := ID
  accounts :=
    [⟨oracle, true, true⟩, ⟨scopedIdentity, false, false⟩, ⟨oracleDataKey, false, false⟩, ⟨queueKey, false, true⟩,
      ⟨callbackProgram, false, false⟩, ⟨payer, false, true⟩]
  data := SolanaVrfInstruction.provideRandomness.toBytes provideData

def fulfilmentAccounts : List AccountInfo :=
  fulfilment.accounts.map fun m => ⟨m.pubkey, m.isSigner, m.isWritable⟩

theorem passes_fulfilmentAccounts : Passes ∅ fulfilment.accounts fulfilmentAccounts where
  keys := by decide +kernel
  signers := by decide +kernel
  writable := by
    have hAll : ∀ m ∈ fulfilment.accounts, m.isWritable = true →
        ∀ a ∈ fulfilmentAccounts, a.key = m.pubkey → a.isWritable = true := by decide +kernel
    exact fun m hm hWritable _ => hAll m hm hWritable

theorem requesting_clock_advances : ClockAdvances requesting.clock := by
  constructor
  · intro s t _
    rw [requesting_clock, requesting_clock]
    exact UInt64.le_refl _
  · intro s t _
    rw [requesting_clock, requesting_clock]
  · intro s t _
    rw [requesting_clock, requesting_clock]
    exact Int64.le_refl _

theorem requesting_hash_injOn : Set.InjOn curveRuntime.hash (requesting.preimages queueKey) := by
  have hOnly {n : Nat} {acc : Accepted} (h : requesting.receipt n = some (.requested acc)) : acc = accepted := by
    rw [requesting_receipt, Option.join_eq_some_iff] at h
    have hMem := List.mem_of_getElem? h
    simpa [receipts] using hMem
  rintro x ⟨n, acc, hReceipt, -, rfl⟩ y ⟨n', acc', hReceipt', -, rfl⟩ -
  rw [hOnly hReceipt, hOnly hReceipt']

theorem requesting_isQueue (m : Nat) (hLow : 2 < m) (hHigh : m ≤ 4) : IsQueue (requesting.ledger m queueKey) := by
  obtain rfl | rfl : m = 3 ∨ m = 4 := by omega
  · decide +kernel
  · decide +kernel

def header : Queue := ⟨1, 154, 0, 0, leBytes 2 0⟩

theorem requesting_items : itemsOf (requesting.ledger 4 queueKey).data = some [item] := by decide +kernel

theorem requesting_isOracle : IsOracle (requesting.ledger 4 oracleDataKey) ⟨vrfPubkey, 100, 1⟩ := by
  constructor <;> decide +kernel

end Sample

/-- One slot after the request, what the oracle's keypair makes of the queue's bytes gets to the callback. -/
theorem fulfilment_reaches_callback_sample :
    itemsOf (Sample.requesting.ledger 4 Sample.queueKey).data = some [Sample.item] ∧
    Sample.client.prepareVrf Sample.curveRuntime.hash Sample.hkdf Sample.requestId = some Sample.vrf ∧
    prepareInstruction Sample.curveRuntime.toEnvironment Sample.client 1700000000 Sample.item Sample.requestId
      Sample.vrf Sample.queueKey Sample.header (Sample.requesting.ledger 4 Sample.queueKey).data =
      some Sample.fulfilment ∧
    ∃ args l' p, parseInstruction8 Sample.fulfilment.programId Sample.fulfilment.data =
        .ok (.provideRandomness, args) ∧
      prepareCallback Sample.curveRuntime Sample.laterClock Sample.fulfilmentAccounts args
        (Sample.requesting.ledger 4) = .ok (l', p) ∧
      p.item = { Sample.item with used := 0 } ∧
      ∀ m ∈ p.invocation.instruction.accounts, ∃ a ∈ p.invocation.accounts, a.key = m.pubkey := by
  have hItems := Sample.requesting_items
  have hVrf : Sample.client.prepareVrf Sample.curveRuntime.hash Sample.hkdf Sample.requestId = some Sample.vrf := by
    decide +kernel
  have hBuilt : prepareInstruction Sample.curveRuntime.toEnvironment Sample.client 1700000000 Sample.item
      Sample.requestId Sample.vrf Sample.queueKey Sample.header
      (Sample.requesting.ledger 4 Sample.queueKey).data = some Sample.fulfilment := by decide +kernel
  refine ⟨hItems, hVrf, hBuilt, ?_⟩
  obtain ⟨items, hItems', hAll⟩ := fulfilment_reaches_callback Sample.curve Sample.hkdf Sample.curveRuntime
    Sample.implements Sample.requesting Sample.client Sample.queueKey 0 (by decide +kernel)
    Sample.requesting_clock_advances Sample.requesting_hash_injOn 2 4 (by decide +kernel) (by decide)
    Sample.requesting_isQueue _ Sample.requesting_isOracle (by decide +kernel)
  obtain rfl := Option.some.inj (hItems'.symm.trans hItems)
  obtain ⟨metas, hMetas, hFulfil⟩ := hAll Sample.item List.mem_cons_self
  have hPayer : Sample.item.accountMetas ((Sample.requesting.ledger 4 Sample.queueKey).data.drop 8) =
      some [⟨Sample.payer, 1⟩] := by decide +kernel
  obtain rfl := Option.some.inj (hMetas.symm.trans hPayer)
  obtain ⟨vrf, hVrf', hBuild⟩ := hFulfil (by decide +kernel)
  obtain rfl := Option.some.inj (hVrf'.symm.trans hVrf)
  obtain ⟨ix, hBuilt', hRuns⟩ := hBuild 1700000000 Sample.header (by decide +kernel)
  obtain rfl := Option.some.inj (hBuilt'.symm.trans hBuilt)
  exact hRuns Sample.laterClock ∅ Sample.fulfilmentAccounts (by decide +kernel) (Set.notMem_empty _)
    Sample.passes_fulfilmentAccounts (by decide +kernel) (Or.inl (by decide +kernel))

end SolanaVrf
