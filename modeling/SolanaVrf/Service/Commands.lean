import SolanaVrf.Service.Opening
import SolanaVrf.Service.Sending
import SolanaVrf.Chain.Moves
import SolanaVrf.Chain.Authority

/-! # The SDK and the command line client

The SDK builds the instructions of the program, the command line client turns a command into
the instructions of one transaction that its own keypair signs. A command that names a queue
reads the index from the account of that queue.
-/

namespace SolanaVrf
set_option autoImplicit false

open Pod Fallible AccountInfoValidation

/-! ## The instructions of the SDK -/

/-- The accounts that the delegation program keeps for a delegated one. -/
structure DelegationPdas where
  buffer : Pubkey → Pubkey → Pubkey
  record : Pubkey → Pubkey
  metadata : Pubkey → Pubkey

namespace Sdk

variable (env : Environment)

def initializeProgram (signer : Pubkey) : Instruction where
  programId := ID
  accounts := [⟨signer, true, true⟩, ⟨env.oraclesPda.1, false, true⟩, ⟨systemProgramId, false, false⟩]
  data := SolanaVrfInstruction.initializeProgram.toBytes []

def modifyOracleAccounts (signer identity : Pubkey) : List AccountMeta :=
  [⟨signer, true, true⟩, ⟨env.oraclesPda.1, false, true⟩, ⟨(env.oracleDataPda identity).1, false, true⟩,
    ⟨(env.findProgramAddress [ID.toList] bpfLoaderUpgradeableId).1, false, false⟩, ⟨systemProgramId, false, false⟩]

def addOracle (signer identity : Pubkey) (oraclePubkey : Bytes 32) : Instruction where
  programId := ID
  accounts := modifyOracleAccounts env signer identity
  data := SolanaVrfInstruction.modifyOracle.toBytes (ModifyOracle.layout.encode ⟨identity, oraclePubkey, 0⟩)

def removeOracle (signer identity : Pubkey) : Instruction where
  programId := ID
  accounts := modifyOracleAccounts env signer identity
  data := SolanaVrfInstruction.modifyOracle.toBytes (ModifyOracle.layout.encode ⟨identity, leBytes 32 0, 1⟩)

def delegateOracleQueue (pdas : DelegationPdas) (signer queue : Pubkey) (index : UInt8) : Instruction where
  programId := ID
  accounts :=
    [⟨signer, true, true⟩, ⟨queue, false, true⟩, ⟨pdas.buffer queue ID, false, true⟩, ⟨pdas.record queue, false, true⟩,
      ⟨pdas.metadata queue, false, true⟩, ⟨delegationProgramId, false, false⟩, ⟨ID, false, false⟩,
      ⟨systemProgramId, false, false⟩]
  data := SolanaVrfInstruction.delegateOracleQueue.toBytes (queueIndexLayout.encode index)

def closeOracleQueue (identity : Pubkey) (index : UInt8) : Instruction where
  programId := ID
  accounts :=
    [⟨identity, true, true⟩, ⟨(env.oracleDataPda identity).1, false, true⟩,
      ⟨(env.oracleQueuePda identity index).1, false, true⟩]
  data := SolanaVrfInstruction.closeOracleQueue.toBytes (queueIndexLayout.encode index)

def setQueuePaused (identity : Pubkey) (index : UInt8) (paused : Bool) : Instruction where
  programId := ID
  accounts := [⟨identity, true, false⟩, ⟨(env.oracleQueuePda identity index).1, false, true⟩]
  data := SolanaVrfInstruction.setQueuePaused.toBytes (SetQueuePaused.layout.encode ⟨index, paused.toUInt8⟩)

end Sdk

/-! ## The client -/

namespace Cli

inductive Command
  | initializeProgram
  | addOracle (identity oraclePubkey : String)
  | removeOracle (identity : String)
  | initializeOracleQueue (identity : String) (index : UInt8) (bytesToAllocate : Option UInt32)
  | delegateOracleQueue (queue : String)
  | closeOracleQueue (queue : String)
  | derivePubkey
  | listQueue

inductive Failure
  | badPubkey
  | rpc
  | badQueue
  | notEnoughSigners
deriving DecidableEq

/-- A line of the listing. -/
structure Listed where
  queue : Pubkey
  itemCount : UInt32
  index : UInt8
  delegated : Bool
deriving DecidableEq

inductive Output
  | pubkey (vrfPubkey : Bytes 32)
  | queues (listed : List Listed)
  | transaction (instructions : List Instruction)
deriving DecidableEq

end Cli

/-- Where the client runs: the text form of keys, the node it asks and its signer, with the key that
is derived from the signer's keypair. -/
structure Cli where
  fromStr : String → Option Pubkey
  getAccount : Pubkey → Option Account
  delegationPdas : DelegationPdas
  signer : Pubkey
  oracleVrfPk : Bytes 32

namespace Cli

variable (env : Environment) (cli : Cli)

def parse (text : String) : Except Failure Pubkey := okOr (cli.fromStr text) .badPubkey

def readQueue (queue : Pubkey) : Except Failure Queue := do
  let account ← okOr (cli.getAccount queue) .rpc
  okOr (Queue.tryFromBytes account.data).toOption .badQueue

def listQueue : List Listed :=
  (List.range 20).filterMap fun i => do
    let queue := (env.oracleQueuePda cli.signer (UInt8.ofNat i)).1
    let account ← cli.getAccount queue
    let queueStruct ← (Queue.tryFromBytes account.data).toOption
    return ⟨queue, queueStruct.itemCount, queueStruct.index, decide (account.owner ≠ ID)⟩

/-- Signing panics if someone else has to sign, too. -/
def sign (instructions : List Instruction) : Except Failure Output := do
  require (∀ ix ∈ instructions, ∀ m ∈ ix.accounts, m.isSigner = true → m.pubkey = cli.signer) .notEnoughSigners
  return .transaction (ComputeBudget.setComputeUnitLimit 200000 :: instructions)

def run : Command → Except Failure Output
  | .initializeProgram => cli.sign [Sdk.initializeProgram env cli.signer]
  | .addOracle identity oraclePubkey => do
    let identity ← cli.parse identity
    let oraclePubkey ← cli.parse oraclePubkey
    cli.sign [Sdk.addOracle env cli.signer identity oraclePubkey]
  | .removeOracle identity => do
    let identity ← cli.parse identity
    cli.sign [Sdk.removeOracle env cli.signer identity]
  | .initializeOracleQueue identity index bytesToAllocate => do
    let identity ← cli.parse identity
    cli.sign (Sdk.initializeOracleQueue env cli.signer identity index bytesToAllocate)
  | .delegateOracleQueue queue => do
    let queue ← cli.parse queue
    let queueStruct ← cli.readQueue queue
    cli.sign [Sdk.delegateOracleQueue cli.delegationPdas cli.signer queue queueStruct.index]
  | .closeOracleQueue queue => do
    let queue ← cli.parse queue
    let queueStruct ← cli.readQueue queue
    cli.sign [Sdk.closeOracleQueue env cli.signer queueStruct.index]
  | .derivePubkey => return .pubkey cli.oracleVrfPk
  | .listQueue => return .queues (cli.listQueue env)

end Cli

/-! ## What the program never answers -/

/-- Faults of an instruction that was put together wrongly: another program's, with arguments that do not
parse, with other accounts than it needs, or without a signature. What the arguments say is another matter. -/
inductive Fault.Malformed : Fault → Prop
  | incorrectProgramId : Malformed (.program .incorrectProgramId)
  | invalidInstructionData : Malformed (.program .invalidInstructionData)
  | notEnoughAccountKeys : Malformed (.program .notEnoughAccountKeys)
  | missingRequiredSignature : Malformed (.program .missingRequiredSignature)
  | invalidSeeds : Malformed (.program .invalidSeeds)

def Fault.malformed : List Fault :=
  [.program .incorrectProgramId, .program .invalidInstructionData, .program .notEnoughAccountKeys,
    .program .missingRequiredSignature, .program .invalidSeeds]

section

variable {rt : Runtime} {clock : Clock} {l : Ledger} {fault : Fault}

namespace Fault.Malformed

theorem ne {other : Fault} (h : fault.Malformed) (hOther : other ∉ Fault.malformed) : other ≠ fault := by
  rintro rfl
  refine hOther ?_
  cases h <;> decide

variable {payer target systemProgram a : AccountInfo} {space : Nat} {seeds : List (List UInt8)}

end Fault.Malformed

end

section

variable {rt : Runtime} {clock : Clock} {l : Ledger} {fault : Fault} {readonly : Set Pubkey} {infos : List AccountInfo}

theorem Passes.nil_of (h : Passes readonly [] infos) : infos = [] := List.map_eq_nil_iff.mp h.keys

end

section

variable {rt : Runtime} {l l' : Ledger} {receipt : Receipt} {index : UInt8}

theorem processDelegateOracleQueue_receipt
    {authority queue buffer record metadata delegation owner systemProgram : AccountInfo}
    (h : processDelegateOracleQueue rt [authority, queue, buffer, record, metadata, delegation, owner, systemProgram]
      (queueIndexLayout.encode index) l = .ok (l', receipt)) : receipt = .delegated authority.key index queue.key := by
  rw [processDelegateOracleQueue, parseArgs, Layout.tryFromBytes_encode, okOr_some, bind_ok] at h
  obtain ⟨_, h⟩ := require_bind_eq_ok.mp h
  obtain ⟨_, h⟩ := require_bind_eq_ok.mp h
  obtain ⟨_, h⟩ := require_bind_eq_ok.mp h
  obtain ⟨_, h⟩ := require_bind_eq_ok.mp h
  obtain ⟨_, h⟩ := require_bind_eq_ok.mp h
  obtain ⟨_, -, h⟩ := bind_eq_ok.mp h
  obtain ⟨_, h⟩ := require_bind_eq_ok.mp h
  obtain ⟨_, -, h⟩ := bind_eq_ok.mp h
  cases h
  rfl

theorem processCloseOracleQueue_steps {oracle oracleData queue : AccountInfo} {data : List UInt8}
    (h : processCloseOracleQueue rt [oracle, oracleData, queue] data l = .ok (l', receipt)) :
    ∃ index q l₁, parseArgs queueIndexLayout data = .ok index ∧ receipt = .closed oracle.key index queue.key ∧
      updateOpenQueues saturatingDecr oracleData (storeQueue l queue.key q) = .ok l₁ ∧
      closeAccount queue oracle l₁ = .ok l' := by
  obtain ⟨index, hArgs, h⟩ := bind_eq_ok.mp h
  obtain ⟨_, h⟩ := require_bind_eq_ok.mp h
  obtain ⟨_, h⟩ := require_bind_eq_ok.mp h
  obtain ⟨_, h⟩ := require_bind_eq_ok.mp h
  obtain ⟨_, h⟩ := require_bind_eq_ok.mp h
  obtain ⟨_, h⟩ := require_bind_eq_ok.mp h
  obtain ⟨_, h⟩ := require_bind_eq_ok.mp h
  obtain ⟨_, h⟩ := require_bind_eq_ok.mp h
  obtain ⟨_, -, h⟩ := bind_eq_ok.mp h
  obtain ⟨q, -, h⟩ := bind_eq_ok.mp h
  obtain ⟨_, h⟩ := require_bind_eq_ok.mp h
  obtain ⟨l₁, hCount, h⟩ := bind_eq_ok.mp h
  obtain ⟨l₂, hClose, h⟩ := bind_eq_ok.mp h
  cases h
  exact ⟨index, q, l₁, hArgs, rfl, hCount, hClose⟩

theorem closeAccount_accounts {a recipient : AccountInfo} (h : closeAccount a recipient l = .ok l') :
    l' a.key = { l a.key with lamports := 0, owner := systemProgramId, data := [] } ∧
    l' recipient.key = { l recipient.key with lamports := (l recipient.key).lamports + (l a.key).lamports } ∧
    ∀ k, k ≠ a.key → k ≠ recipient.key → l' k = l k := by
  obtain ⟨hne, h⟩ := require_bind_eq_ok.mp h
  obtain ⟨l₁, hCredit, h⟩ := bind_eq_ok.mp h
  obtain rfl := Ledger.resize_eq_ok h
  obtain ⟨rfl, -⟩ := Ledger.credit_eq_ok hCredit
  refine ⟨?_, ?_, fun k hk hRecipient => ?_⟩
  · rw [Ledger.setData_self, Ledger.setOwner_self, Ledger.setLamports_self, Ledger.setLamports_of_ne _ hne.symm]
    simp
  · rw [Ledger.setData_of_ne _ hne, Ledger.setOwner_of_ne _ hne, Ledger.setLamports_of_ne _ hne,
      Ledger.setLamports_self]
  · rw [Ledger.setData_of_ne _ hk, Ledger.setOwner_of_ne _ hk, Ledger.setLamports_of_ne _ hk,
      Ledger.setLamports_of_ne _ hRecipient]

theorem updateOpenQueues_lamports {update : UInt64 → UInt64} {a : AccountInfo}
    (h : updateOpenQueues update a l = .ok l') (k : Pubkey) : (l' k).lamports = (l k).lamports := by
  obtain ⟨o, -, h⟩ := bind_eq_ok.mp h
  cases h
  exact Ledger.setData_lamports _ _

/-- The oracle gets the lamports of the queue that it closes. -/
theorem processCloseOracleQueue_pays {oracle oracleData queue : AccountInfo} {data : List UInt8}
    (h : processCloseOracleQueue rt [oracle, oracleData, queue] data l = .ok (l', receipt)) :
    (l' queue.key).lamports = 0 ∧
      (l' oracle.key).lamports = (l oracle.key).lamports + (l queue.key).lamports := by
  obtain ⟨_, q, l₁, -, -, hCount, hClose⟩ := processCloseOracleQueue_steps h
  obtain ⟨hGone, hPaid, -⟩ := closeAccount_accounts hClose
  have hSame (k : Pubkey) : (l₁ k).lamports = (l k).lamports := by
    rw [updateOpenQueues_lamports hCount]
    exact Ledger.setData_lamports _ _
  rw [hGone, hPaid, hSame, hSame]
  exact ⟨rfl, rfl⟩

end

/-- The two commands that name a queue send one instruction each. The one delegates the queue it was
given, which then is the signer's own. The other closes the signer's queue of the same index and pays
its lamports to the signer: if that is another queue, the one it was given stays as it is. -/
theorem cli_named_queue (rt : Runtime) (cli : Cli) {text : String} {queue : Pubkey} {account : Account} {header : Queue}
    (hText : cli.fromStr text = some queue) (hAccount : cli.getAccount queue = some account)
    (hHeader : Queue.tryFromBytes account.data = .ok header) :
    ∃ delegation closing,
      cli.run rt.toEnvironment (.delegateOracleQueue text) =
        .ok (.transaction [ComputeBudget.setComputeUnitLimit 200000, delegation]) ∧
      cli.run rt.toEnvironment (.closeOracleQueue text) =
        .ok (.transaction [ComputeBudget.setComputeUnitLimit 200000, closing]) ∧
      ∀ (clock : Clock) (readonly : Set Pubkey) (infos : List AccountInfo) (l l' : Ledger) (receipt : Receipt),
        (Passes readonly delegation.accounts infos →
          processInstruction rt clock delegation.programId infos delegation.data l = .ok (l', receipt) →
          receipt = .delegated cli.signer header.index queue ∧
          queue = (rt.oracleQueuePda cli.signer header.index).1 ∧ IsQueue (l queue) ∧
          Delegates rt.toEnvironment queue l l') ∧
        (Passes readonly closing.accounts infos → Unforged rt.toEnvironment infos →
          processInstruction rt clock closing.programId infos closing.data l = .ok (l', receipt) →
          receipt = .closed cli.signer header.index (rt.oracleQueuePda cli.signer header.index).1 ∧
          QueueClosed rt cli.signer header.index l l' ∧
          (l' (rt.oracleQueuePda cli.signer header.index).1).lamports = 0 ∧
          (l' cli.signer).lamports =
            (l cli.signer).lamports + (l (rt.oracleQueuePda cli.signer header.index).1).lamports ∧
          (queue ≠ (rt.oracleQueuePda cli.signer header.index).1 → rt.Derived queue → IsQueue (l queue) →
            l' queue = l queue)) := by
  have hParse : cli.parse text = .ok queue := by rw [Cli.parse, hText, okOr_some]
  have hRead : cli.readQueue queue = .ok header := by
    rw [Cli.readQueue, hAccount, okOr_some, bind_ok, hHeader]
    rfl
  refine ⟨Sdk.delegateOracleQueue cli.delegationPdas cli.signer queue header.index,
    Sdk.closeOracleQueue rt.toEnvironment cli.signer header.index, ?_, ?_, ?_⟩
  · rw [Cli.run, hParse, bind_ok, hRead, bind_ok, Cli.sign, require_of]
    · rfl
    · simp [Sdk.delegateOracleQueue]
  · rw [Cli.run, hParse, bind_ok, hRead, bind_ok, Cli.sign, require_of]
    · rfl
    · simp [Sdk.closeOracleQueue]
  · intro clock readonly infos l l' receipt
    constructor
    · intro hPasses hOk
      change processInstruction rt clock ID infos (SolanaVrfInstruction.toBytes _ _) l = _ at hOk
      rw [processInstruction, parseInstruction8_toBytes, bind_ok] at hOk
      obtain ⟨authority, _, rfl, hAuthority, -, -, hPasses⟩ := hPasses.cons
      obtain ⟨queueInfo, _, rfl, hKey, -, -, hPasses⟩ := hPasses.cons
      obtain ⟨_, _, rfl, -, -, -, hPasses⟩ := hPasses.cons
      obtain ⟨_, _, rfl, -, -, -, hPasses⟩ := hPasses.cons
      obtain ⟨_, _, rfl, -, -, -, hPasses⟩ := hPasses.cons
      obtain ⟨_, _, rfl, -, -, -, hPasses⟩ := hPasses.cons
      obtain ⟨_, _, rfl, -, -, -, hPasses⟩ := hPasses.cons
      obtain ⟨_, _, rfl, -, -, -, hPasses⟩ := hPasses.cons
      obtain rfl := hPasses.nil_of
      dsimp only at hAuthority hKey
      have hReceipt := processDelegateOracleQueue_receipt hOk
      rw [hAuthority, hKey] at hReceipt
      obtain ⟨identity, index, hDelegated, hSame⟩ := processDelegateOracleQueue_effect hOk
      rw [hReceipt] at hSame
      injection hSame with hIdentity hIndex hQueue
      subst hIdentity hIndex hQueue
      exact ⟨hReceipt, rfl, hDelegated.isQueue, hDelegated.delegates⟩
    · intro hPasses hUnforged hOk
      change processInstruction rt clock ID infos (SolanaVrfInstruction.toBytes _ _) l = _ at hOk
      rw [processInstruction, parseInstruction8_toBytes, bind_ok] at hOk
      obtain ⟨oracle, _, rfl, hOracle, hSigner, -, hPasses⟩ := hPasses.cons
      obtain ⟨oracleData, _, rfl, hDataKey, -, -, hPasses⟩ := hPasses.cons
      obtain ⟨queueInfo, _, rfl, hKey, -, -, hPasses⟩ := hPasses.cons
      obtain rfl := hPasses.nil_of
      dsimp only at hOracle hDataKey hKey
      obtain ⟨index, _, _, hArgs, hReceipt, -, -⟩ := processCloseOracleQueue_steps hOk
      rw [parseArgs, Layout.tryFromBytes_encode, okOr_some] at hArgs
      cases hArgs
      rw [hOracle, hKey] at hReceipt
      obtain ⟨identity, index, hClosed, hSame⟩ := processCloseOracleQueue_effect hOk
      rw [hReceipt] at hSame
      cases hSame
      obtain ⟨hEmptied, hPaid⟩ := processCloseOracleQueue_pays hOk
      rw [hKey] at hEmptied
      rw [hOracle, hKey] at hPaid
      refine ⟨hReceipt, hClosed, hEmptied, hPaid, fun hOther hDerived hQueue => ?_⟩
      obtain ⟨o, hIs, -⟩ := hClosed.counted
      have hMoves : Moves rt.alone [oracle, oracleData, queueInfo] l l' := processCloseOracleQueue_moves hOk
      have hAmong : Among rt [oracle.key, oracleData.key, queueInfo.key] l l' := hMoves.among (by simp)
      refine hAmong.frame ?_
      simp only [List.mem_cons, List.not_mem_nil, or_false, not_or]
      refine ⟨hUnforged.ne List.mem_cons_self (hSigner rfl) hDerived, ?_, by rwa [hKey]⟩
      rintro rfl
      rw [hDataKey] at hQueue
      exact hIs.not_queue hQueue

namespace Sample

/-- The address of a queue that the payer could have, with index 0. -/
def otherQueue : Pubkey := (environment.oracleQueuePda payer 0).1

/-- Another oracle has a queue of index 0, too. -/
def twoOwners : Ledger := (run.ledger 3).modify otherQueue fun _ => run.ledger 3 queueKey

/-- The oracle names the queue of the other one. -/
def mistaken : Cli where
  fromStr _ := some otherQueue
  getAccount k := some (twoOwners k)
  delegationPdas := ⟨fun k _ => k, id, id⟩
  signer := oracle
  oracleVrfPk := vrfPubkey

def closingAccounts : List AccountInfo :=
  [⟨oracle, true, true⟩, ⟨oracleDataKey, false, true⟩, ⟨queueKey, false, true⟩]

theorem passes_closingAccounts : Passes ∅ (Sdk.closeOracleQueue environment oracle 0).accounts closingAccounts where
  keys := by decide +kernel
  signers := by decide +kernel
  writable := by
    have hAll : ∀ a ∈ closingAccounts, a.isWritable = true := by decide
    exact fun _ _ _ _ a ha _ => hAll a ha

end Sample

/-- The oracle closes its own queue and leaves the one it named. -/
theorem cli_named_queue_mistaken :
    Sample.mistaken.run Sample.environment (.closeOracleQueue "queue") =
      .ok (.transaction [ComputeBudget.setComputeUnitLimit 200000,
        Sdk.closeOracleQueue Sample.environment Sample.oracle 0]) ∧
    ∃ l', processInstruction Sample.runtime Sample.clock ID Sample.closingAccounts
        (SolanaVrfInstruction.closeOracleQueue.toBytes (queueIndexLayout.encode 0)) Sample.twoOwners =
        .ok (l', .closed Sample.oracle 0 Sample.queueKey) ∧
      IsQueue (Sample.twoOwners Sample.otherQueue) ∧ l' Sample.otherQueue = Sample.twoOwners Sample.otherQueue ∧
      Unborn (l' Sample.queueKey) ∧ (l' Sample.queueKey).lamports = 0 := by
  have hRead : Sample.mistaken.run Sample.environment (.closeOracleQueue "queue") =
        .ok (.transaction [ComputeBudget.setComputeUnitLimit 200000,
          Sdk.closeOracleQueue Sample.environment Sample.oracle 0]) ∧
      (processInstruction Sample.runtime Sample.clock ID Sample.closingAccounts
        (SolanaVrfInstruction.closeOracleQueue.toBytes (queueIndexLayout.encode 0)) Sample.twoOwners).toOption.map
        Prod.snd = some (.closed Sample.oracle 0 Sample.queueKey) ∧
      (Queue.tryFromBytes (Sample.twoOwners Sample.otherQueue).data).toOption.map Queue.index = some 0 ∧
      IsQueue (Sample.twoOwners Sample.otherQueue) ∧
      (Sample.runtime.oracleQueuePda Sample.oracle 0).1 = Sample.queueKey ∧ Sample.otherQueue ≠ Sample.queueKey ∧
      ∀ a ∈ Sample.closingAccounts, a.isSigner = true → a.key ∈ Sample.outsiders := by decide +kernel
  obtain ⟨hSent, hCloses, hRead, hQueue, hOwn, hOther, hSigners⟩ := hRead
  obtain ⟨header, hHeader, hIndex⟩ := exists_eq_ok_of_map hRead
  obtain ⟨l', hClosing⟩ := exists_eq_ok_of_snd hCloses
  obtain ⟨_, closing, -, hRun, hActs⟩ :=
    @cli_named_queue Sample.runtime Sample.mistaken "queue" Sample.otherQueue _ _ rfl rfl hHeader
  obtain rfl : closing = Sdk.closeOracleQueue Sample.environment Sample.oracle 0 := by
    have hSame := Cli.Output.transaction.inj (Except.ok.inj (hRun.symm.trans hSent))
    exact (List.cons.inj (List.cons.inj hSame).2).1
  obtain ⟨-, hClosed, hEmptied, -, hKept⟩ := (hActs Sample.clock ∅ Sample.closingAccounts Sample.twoOwners l' _).2
    Sample.passes_closingAccounts (Sample.unforged hSigners) hClosing
  change QueueClosed _ Sample.oracle _ _ _ at hClosed
  change (l' (Sample.runtime.oracleQueuePda Sample.oracle _).1).lamports = 0 at hEmptied
  change Sample.otherQueue ≠ (Sample.runtime.oracleQueuePda Sample.oracle _).1 → _ at hKept
  have hUnborn := hClosed.unborn
  rw [hIndex, hOwn] at hUnborn hEmptied hKept
  exact ⟨hSent, l', hClosing, hQueue, hKept hOther ⟨_, rfl⟩ hQueue, hUnborn, hEmptied⟩

/-! ## The listing -/

theorem Cli.mem_listQueue {env : Environment} {cli : Cli} {line : Cli.Listed} :
    line ∈ cli.listQueue env ↔ ∃ i < 20, ∃ account header,
      cli.getAccount (env.oracleQueuePda cli.signer (UInt8.ofNat i)).1 = some account ∧
      Queue.tryFromBytes account.data = .ok header ∧
      line = ⟨(env.oracleQueuePda cli.signer (UInt8.ofNat i)).1, header.itemCount, header.index,
        decide (account.owner ≠ ID)⟩ := by
  have hHeader (data : List UInt8) (header : Queue) :
      (Queue.tryFromBytes data).toOption = some header ↔ Queue.tryFromBytes data = .ok header := by
    cases Queue.tryFromBytes data with
    | ok header' => exact ⟨fun h => congrArg _ (Option.some.inj h), fun h => congrArg _ (Except.ok.inj h)⟩
    | error e => exact ⟨nofun, nofun⟩
  rw [listQueue, List.mem_filterMap]
  constructor
  · rintro ⟨i, hi, h⟩
    obtain ⟨account, hAccount, h⟩ := Option.bind_eq_some_iff.mp h
    obtain ⟨header, hRead, h⟩ := Option.bind_eq_some_iff.mp h
    exact ⟨i, List.mem_range.mp hi, account, header, hAccount, (hHeader _ _).mp hRead, (Option.some.inj h).symm⟩
  · rintro ⟨i, hi, account, header, hAccount, hRead, rfl⟩
    refine ⟨i, List.mem_range.mpr hi, Option.bind_eq_some_iff.mpr ⟨account, hAccount, ?_⟩⟩
    exact Option.bind_eq_some_iff.mpr ⟨header, (hHeader _ _).mpr hRead, rfl⟩

/-- The listing of an oracle's queues, asked of a node that knows the state of the chain: an open queue
has a line exactly if its index is below 20, and the line counts the requests that are pending. -/
theorem cli_lists_low_indexes (rt : Runtime) (run : ChainRun rt) (n : Nat) (cli : Cli)
    (hNode : ∀ k, cli.getAccount k = if (run.ledger n k).lamports = 0 then none else some (run.ledger n k))
    (index : UInt8)
    (hApart : ∀ i, (rt.oracleQueuePda cli.signer i).1 = (rt.oracleQueuePda cli.signer index).1 → i = index)
    (hQueue : IsQueue (run.ledger n (rt.oracleQueuePda cli.signer index).1))
    (hExists : 0 < (run.ledger n (rt.oracleQueuePda cli.signer index).1).lamports) :
    ((∃ line ∈ cli.listQueue rt.toEnvironment, line.queue = (rt.oracleQueuePda cli.signer index).1) ↔
      index.toNat < 20) ∧
    ∀ line ∈ cli.listQueue rt.toEnvironment, line.queue = (rt.oracleQueuePda cli.signer index).1 →
      line.delegated = false ∧ ∃ items, itemsOf (run.ledger n line.queue).data = some items ∧
        line.itemCount.toNat = items.length := by
  obtain ⟨book, hBook⟩ := run.exists_book (rt.oracleQueuePda cli.signer index).1
  obtain ⟨q, recs, hHosts, hLive⟩ := (hBook.booked n).pending hQueue
  have hFetched : cli.getAccount (rt.oracleQueuePda cli.signer index).1 =
      some (run.ledger n (rt.oracleQueuePda cli.signer index).1) := by
    rw [hNode, if_neg (Nat.ne_of_gt hExists)]
  have hSame {i : Nat} (hi : i < 20)
      (h : (rt.oracleQueuePda cli.signer (UInt8.ofNat i)).1 = (rt.oracleQueuePda cli.signer index).1) :
      i = index.toNat := by
    rw [← hApart _ h, UInt8.toNat_ofNat_of_lt' (Nat.lt_trans hi (by decide))]
  refine ⟨⟨?_, fun hLow => ?_⟩, ?_⟩
  · rintro ⟨line, hLine, hKey⟩
    obtain ⟨i, hi, _, _, _, _, rfl⟩ := Cli.mem_listQueue.mp hLine
    rw [← hSame hi hKey]
    exact hi
  · refine ⟨_, Cli.mem_listQueue.mpr ⟨index.toNat, hLow, _, _, ?_, hHosts.tryFromBytes_eq, rfl⟩, ?_⟩
    · rw [UInt8.ofNat_toNat]
      exact hFetched
    · rw [UInt8.ofNat_toNat]
  · rintro line hLine hKey
    obtain ⟨i, hi, account, header, hAccount, hRead, rfl⟩ := Cli.mem_listQueue.mp hLine
    dsimp only at hKey ⊢
    rw [hKey] at hAccount ⊢
    obtain rfl := Option.some.inj (hFetched.symm.trans hAccount)
    rw [hHosts.tryFromBytes_eq] at hRead
    cases hRead
    refine ⟨by rw [hHosts.owner]; rfl, _, hHosts.itemsOf_eq, ?_⟩
    rw [hHosts.represents.count, List.length_map, length_filter_live]

def Sample.operator : Cli where
  fromStr _ := none
  getAccount k := if (run.ledger 4 k).lamports = 0 then none else some (run.ledger 4 k)
  delegationPdas := ⟨fun k _ => k, id, id⟩
  signer := oracle
  oracleVrfPk := vrfPubkey

/-- The queue of the sample, with its one request. -/
theorem cli_lists_low_indexes_sample : ∃ line ∈ Sample.operator.listQueue Sample.environment,
    line.queue = Sample.queueKey ∧ line.delegated = false ∧ ∃ items,
      itemsOf (Sample.run.ledger 4 line.queue).data = some items ∧ line.itemCount.toNat = items.length := by
  have hKey : (Sample.environment.oracleQueuePda Sample.oracle 0).1 = Sample.queueKey := by decide +kernel
  have hRead : IsQueue (Sample.run.ledger 4 Sample.queueKey) ∧ 0 < (Sample.run.ledger 4 Sample.queueKey).lamports := by
    unfold IsQueue
    decide +kernel
  have hNode (k : Pubkey) : Sample.operator.getAccount k =
      if (Sample.run.ledger 4 k).lamports = 0 then none else some (Sample.run.ledger 4 k) := by
    simp only [Sample.operator]
  have hApart (i : UInt8) (hi : (Sample.environment.oracleQueuePda Sample.oracle i).1 =
      (Sample.environment.oracleQueuePda Sample.oracle 0).1) : i = 0 := by
    have hSeeds := Sample.seeds_of_queueKey (hi.trans hKey)
    simpa using hSeeds
  rw [← hKey] at hRead
  obtain ⟨hLow, hLines⟩ := cli_lists_low_indexes Sample.runtime Sample.run 4 Sample.operator hNode 0 hApart hRead.1
    hRead.2
  obtain ⟨line, hLine, hQueue⟩ := hLow.mpr (by decide)
  exact ⟨line, hLine, hQueue.trans hKey, hLines line hLine hQueue⟩

end SolanaVrf
