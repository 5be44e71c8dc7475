import SolanaVrf.Chain.Requests
import SolanaVrf.Lib.Transition

/-! # The program on its chain

The world is a ledger and a clock. Events are calls of the program by anyone, changes made
by other programs (donations among them) and the passing of time. A failed call leaves the
world as it was. The program is deployed on a ledger that holds nothing of it yet.
-/

namespace SolanaVrf
set_option autoImplicit false

open Pod Fallible Transition

structure World where
  ledger : Ledger
  clock : Clock

inductive Event
  | call (accounts : List AccountInfo) (data : List UInt8)
  | outside (ledger : Ledger)
  | tick (clock : Clock)

def Event.clockAfter (clock : Clock) : Event → Clock
  | .call _ _ => clock
  | .outside _ => clock
  | .tick clock' => clock'

namespace World

def execute (rt : Runtime) (w : World) (accounts : List AccountInfo) (data : List UInt8) :
    Except Fault (Ledger × Receipt) :=
  processInstruction rt w.clock ID accounts data w.ledger

def next (rt : Runtime) (w : World) : Event → World
  | .call accounts data =>
    match w.execute rt accounts data with
    | .ok (l, _) => { w with ledger := l }
    | .error _ => w
  | .outside l => { w with ledger := l }
  | .tick clock => { w with clock := clock }

def receipt (rt : Runtime) (w : World) : Event → Option Receipt
  | .call accounts data =>
    match w.execute rt accounts data with
    | .ok (_, receipt) => some receipt
    | .error _ => none
  | .outside _ => none
  | .tick _ => none

/-- Before deployment the program's addresses are unused and what it owns is zeroed. -/
structure Genesis (env : Environment) (w : World) : Prop where
  reserved : ∀ k, env.Reserved k → Unborn (w.ledger k)
  zeroed : ∀ k, (w.ledger k).owner = ID → ∀ b ∈ (w.ledger k).data, b = 0

def Allowed (env : Environment) (w : World) : Event → Prop
  | .call accounts _ => Unforged env accounts
  | .outside l => External env w.ledger l
  | .tick _ => True

/-- A step is an effect of a successful call, or only what foreign code can do. -/
theorem step_cases {rt : Runtime} {w : World} {e : Event} (hAllowed : w.Allowed rt.toEnvironment e) :
    (∃ receipt, w.receipt rt e = some receipt ∧ Effect rt w.clock w.ledger receipt (w.next rt e).ledger) ∨
    w.receipt rt e = none ∧ External rt.toEnvironment w.ledger (w.next rt e).ledger := by
  cases e with
  | call accounts data =>
    simp only [World.receipt, World.next]
    cases hCall : w.execute rt accounts data with
    | ok result => exact Or.inl ⟨result.2, rfl, processInstruction_effect hCall hAllowed⟩
    | error e => exact Or.inr ⟨rfl, External.refl _ _⟩
  | outside l => exact Or.inr ⟨rfl, hAllowed⟩
  | tick clock => exact Or.inr ⟨rfl, External.refl _ _⟩

/-- No call and no foreign code sets the clock. -/
theorem next_clock {rt : Runtime} {w : World} (e : Event) : (w.next rt e).clock = e.clockAfter w.clock := by
  cases e with
  | call accounts data =>
    dsimp only [World.next]
    split <;> rfl
  | outside l => rfl
  | tick clock => rfl

end World

def chain (rt : Runtime) : Machine World Event where
  initial := World.Genesis rt.toEnvironment
  allowed := World.Allowed rt.toEnvironment
  next := World.next rt

abbrev ChainRun (rt : Runtime) := (chain rt).Run

namespace ChainRun

variable {rt : Runtime} (run : ChainRun rt)

def ledger (n : Nat) : Ledger := (run.state n).ledger

def clock (n : Nat) : Clock := (run.state n).clock

def receipt (n : Nat) : Option Receipt := (run.state n).receipt rt (run.event n)

theorem step_cases (n : Nat) :
    (∃ receipt, run.receipt n = some receipt ∧
      Effect rt (run.clock n) (run.ledger n) receipt (run.ledger (n + 1))) ∨
    run.receipt n = none ∧ External rt.toEnvironment (run.ledger n) (run.ledger (n + 1)) :=
  World.step_cases (run.allowed_at n)

theorem effect {n : Nat} {receipt : Receipt} (h : run.receipt n = some receipt) :
    Effect rt (run.clock n) (run.ledger n) receipt (run.ledger (n + 1)) := by
  obtain ⟨receipt', hReceipt, hEffect⟩ | ⟨hReceipt, -⟩ := run.step_cases n
  · rw [h] at hReceipt
    cases hReceipt
    exact hEffect
  · rw [h] at hReceipt
    cases hReceipt

theorem clock_eq (n : Nat) :
    run.clock n = (List.range n).foldl (fun clock m => (run.event m).clockAfter clock) run.start.clock := by
  induction n with
  | zero => rfl
  | succ n ih =>
    rw [List.range_succ, List.foldl_concat, ← ih]
    exact World.next_clock (run.event n)

end ChainRun

/-! ## A request and its fulfilment

One run from deployment to a callback. Addresses, digests, curve points and the proof are
the values the functions of the real chain have on it; the tables say nothing elsewhere.
-/

namespace Sample

def payer : Bytes 32 := leBytes 32 0x5c6f0fb4018874f31b12941dbf0967ca725dba3c2ddb52fd95f10974dde3888a
def oracle : Bytes 32 := leBytes 32 0x94b3c98f5b0ff65da237eeb4918a8dcbcc7e4cc36654a3565f177da80e773981
def callbackProgram : Bytes 32 := leBytes 32 0xd13787ac1446c13636f9635c3a275929619559903803e9eac6c2d128c62849ed
def oraclesKey : Bytes 32 := leBytes 32 0x73bbcd11d089ce641de9acc5c932abaf6dcfcd0d1224e39eca49b267cc71e926
def oracleDataKey : Bytes 32 := leBytes 32 0x0cca66a6d1a855eec508e289e4dd9540cb0d3e5466d405d3d417f5ad3ed600aa
def queueKey : Bytes 32 := leBytes 32 0x48611d58e2c11fb664167e2bd1e4059de1c291f1b5b4db34a82edfa26a09bcd6
def scopedIdentity : Bytes 32 := leBytes 32 0xbead2055c035af68d0bffbf4ccdd2cce54a54e139ad3dfff3a2f86ff6e71fa4a
def programIdentity : Bytes 32 := leBytes 32 0x35ecce1f8db007c55b50a152fd6ff51757dc68129c5e3b339c942ed72fdd2d80
def programData : Bytes 32 := leBytes 32 0xc6b87346e7e18387c9eade8a3de96b6ac747256786bd4342c60c1308c2f614b0
def vrfPubkey : Bytes 32 := leBytes 32 0x7a0e0ea8d9aaab8b639b6eac1cdd595adb9748a88f87d2304c1c5a3dad72b9b6
def slothash : Bytes 32 := leBytes 32 0x2e46b2e88817c0a022cfafe29ad8e990d077a01e06f1c41b4f0eca75b86cb762
def requestId : Bytes 32 := leBytes 32 0x9543f56a9933f7d511da1e718339e11a875aab23bc712fb004307de0e4923c13
def rejected : Bytes 32 := leBytes 32 0x66a1a7de15826b225047f4b0f987d7f1c61505646f897ed6ce438436fc85e535
def point : Bytes 32 := leBytes 32 0x2d7585ad47ade447d825f217347a31c43c73801f2e7361588c0afd9f38377816
def output : Bytes 32 := leBytes 32 0x1af3855ee8b312dd1a5d236048722e3ba6f5b48fc4634b1af51a9731ccc2c490
def commitmentBase : Bytes 32 := leBytes 32 0x6dcc2fbe27185f753739afa842863af161ff69b31e158a010013c3dca88daf12
def commitmentHash : Bytes 32 := leBytes 32 0x49878ee5920bdc2ef6149e33f37632919c1e65867a72c48c2dfc89735e7765fc
def response : Bytes 32 := leBytes 32 0x0ab4b1251965ef8985009c93331bfd4fb2c710d4f2d230bf7a2a7f488138ca6d
def challengeHash : Bytes 32 := leBytes 32 0xee462a9c6fad27a4b77c2f5301443417ef8e1245e989e019e80bfcae0db41205
def scalarHash : Bytes 32 := leBytes 32 0x4fd329401871d55324ba861b81fc05689e34a5db5e8e906ac1cb99aa1f81351d
def sBase : Bytes 32 := leBytes 32 0x099b8b974926e809ab8506ba25a9d4db5022d99aa7cd8917d241fd3d96fb258a
def cPk : Bytes 32 := leBytes 32 0x597a94e5082c3c9181bccc8be6d6c4dcfac9ca94c4876e0abfdc3d7a4179284a
def sPoint : Bytes 32 := leBytes 32 0x150ad83ed7dc070108d898f961a4459dabbacfc33d8f4d98bbe1ea4f7862e32e
def cOutput : Bytes 32 := leBytes 32 0x5a54ab28679475e65d646cebf433cbb17327238890bdf7172d2a1ccb7efd1092
def randomness : Bytes 32 := leBytes 32 0x8d7bfad3e348d8129fbb7795023358db131c99106837e683640dcfb2d430573f

def clock : Clock := ⟨100, 1700000000⟩
def laterClock : Clock := ⟨101, 1700000000⟩

def request : RequestRandomness where
  callerSeed := leBytes 32 14
  callbackProgramId := callbackProgram
  callbackDiscriminator := [1, 2, 3, 4, 5, 6, 7, 8]
  callbackAccountsMetas := [⟨payer, false, true⟩]
  callbackArgs := [9]

def accepted : Accepted := ⟨queueKey, request, false, true, slothash, clock, 16, 500000⟩

def proof : ProvideRandomness := ⟨requestId, output, commitmentBase, commitmentHash, response⟩

def prepared : Prepared where
  oracle := ⟨oracle, true, true⟩
  oracleData := ⟨oracleDataKey, false, true⟩
  queue := ⟨queueKey, false, true⟩
  args := proof
  vrfPubkey := vrfPubkey
  index := 0
  item := ⟨100, requestId, callbackProgram, 112, 120, 153, 8, 1, 1, 0, 0, 1, 250,
    QueueItem.createdAtFrom clock.unixTimestamp⟩
  invocation :=
    { instruction := ⟨callbackProgram, [⟨scopedIdentity, true, false⟩, ⟨payer, false, true⟩],
        [1, 2, 3, 4, 5, 6, 7, 8] ++ randomness.toList ++ [9]⟩
      accounts := [⟨callbackProgram, false, true⟩, ⟨scopedIdentity, false, true⟩, ⟨payer, false, true⟩]
      signerSeeds := [IDENTITY, callbackProgram.toList, [250]] }

def order : Nat := 2 ^ 252 + 27742317777372353535851937790883648493

def modOrder (b : Bytes 32) : Bytes 32 := leBytes 32 (ofLe b.toList % order)

def derivations : List ((List (List UInt8) × Pubkey) × Pubkey × UInt8) :=
  [(([ORACLES], ID), oraclesKey, 255), (([ORACLE_DATA, oracle.toList], ID), oracleDataKey, 255),
    (([QUEUE, oracle.toList, [0]], ID), queueKey, 255), (([IDENTITY], ID), programIdentityPda),
    (([IDENTITY, callbackProgram.toList], ID), scopedIdentity, 250),
    (([IDENTITY], callbackProgram), programIdentity, 255),
    (([ID.toList], bpfLoaderUpgradeableId), programData, 255)]

/-- Stands for the addresses that are not derived in the run, one for each last seed byte. -/
def elsewhere (seeds : List (List UInt8)) : Pubkey :=
  ⟨seeds.flatten.getLastD 0 :: List.replicate 31 255, rfl⟩

def findProgramAddress (seeds : List (List UInt8)) (program : Pubkey) : Pubkey × UInt8 :=
  (derivations.lookup (seeds, program)).getD (elsewhere seeds, 255)

def digests : List (List UInt8 × Bytes 32) :=
  [((idPreimage request slothash clock 16).flatten, requestId),
    (VRF_PREFIX_HASH_TO_POINT ++ toLe 2 0 ++ requestId.toList, rejected),
    (VRF_PREFIX_HASH_TO_POINT ++ toLe 2 1 ++ requestId.toList, point),
    (VRF_PREFIX_CHALLENGE ++ output.toList ++ commitmentBase.toList ++ commitmentHash.toList ++
      vrfPubkey.toList ++ requestId.toList, challengeHash),
    (VRF_PREFIX_HASH_TO_SCALAR ++ challengeHash.toList, scalarHash), (output.toList, randomness)]

def products : List ((Bytes 32 × Bytes 32) × Bytes 32) :=
  [((response, RISTRETTO_BASEPOINT_POINT), sBase), ((modOrder scalarHash, vrfPubkey), cPk),
    ((response, point), sPoint), ((modOrder scalarHash, output), cOutput)]

def sums : List ((Bytes 32 × Bytes 32) × Bytes 32) :=
  [((commitmentBase, cPk), sBase), ((commitmentHash, cOutput), sPoint)]

def programDataState : List UInt8 := toLe 4 3 ++ toLe 8 1 ++ [1] ++ payer.toList

def environment : Environment where
  hash bytes := (digests.lookup bytes).getD (leBytes 32 0)
  validateRistretto b := [vrfPubkey, point].contains b
  multiplyRistretto s b := products.lookup (s, b)
  addRistretto a b := sums.lookup (a, b)
  scalarFromBytesModOrder := modOrder
  findProgramAddress := findProgramAddress
  createProgramAddress seeds program :=
    let (address, bump) := findProgramAddress seeds.dropLast program
    if seeds.getLast? = some [bump] then some address else none
  minimumBalance size := (128 + size) * 6960
  validateEdwards b := b == oracle
  loaderState data := if data = programDataState then some (.programData (some payer)) else none

/-- The callback leaves the ledger alone and nothing is delegated. -/
def runtime : Runtime where
  toEnvironment := environment
  invokeSigned _ l := .ok l
  delegateAccountWithAnyValidator _ _ _ _ := .error .external
  create_find seeds program := by simp [environment]
  external_of_invokeSigned _ l _ h := Except.ok.inj h ▸ External.refl _ l
  delegates_of_delegateAccount _ _ _ _ _ h := nomatch h

def wallet (lamports : Nat) : Account := ⟨lamports, [], systemProgramId, false⟩

def funded : List (Pubkey × Account) :=
  [(payer, wallet 10000000000), (oracle, wallet 1000000000),
    (slotHashesId, ⟨1, toLe 8 1 ++ toLe 8 99 ++ slothash.toList, sysvarId, false⟩),
    (programData, ⟨1, programDataState, bpfLoaderUpgradeableId, false⟩),
    (callbackProgram, ⟨1, [], bpfLoaderUpgradeableId, true⟩)]

def genesis : World := ⟨fun k => (funded.lookup k).getD (wallet 0), clock⟩

def instructionData (ix : SolanaVrfInstruction) (args : List UInt8) : List UInt8 := toLe 8 ix.toU8.toNat ++ args

def signer (k : Pubkey) : AccountInfo := ⟨k, true, true⟩

def writable (k : Pubkey) : AccountInfo := ⟨k, false, true⟩

def provideAccounts : List AccountInfo :=
  [signer oracle, writable scopedIdentity, writable oracleDataKey, writable queueKey, writable callbackProgram,
    writable payer]

def provideData : List UInt8 := ProvideRandomness.layout.encode proof

def events : List Event :=
  [.call [signer payer, writable oraclesKey, writable systemProgramId] (instructionData .initializeProgram []),
    .call [signer payer, writable oraclesKey, writable oracleDataKey, writable programData,
      writable systemProgramId]
      (instructionData .modifyOracle (ModifyOracle.layout.encode ⟨oracle, vrfPubkey, 0⟩)),
    .call [signer payer, signer oracle, writable oracleDataKey, writable queueKey, writable systemProgramId]
      (instructionData .initializeOracleQueue (InitializeOracleQueue.layout.encode ⟨200, 0, ⟨[0, 0, 0], rfl⟩⟩)),
    .call [signer payer, signer programIdentity, writable queueKey, writable systemProgramId,
      writable slotHashesId] (instructionData .requestRandomnessScoped (RequestRandomness.codec.encode request)),
    .tick laterClock,
    .call provideAccounts (instructionData .provideRandomness provideData)]

/-- After the events of the list time stands still. -/
def event (n : Nat) : Event := (events[n]?).getD (.tick laterClock)

/-! ### The run -/

def outsiders : List Pubkey := programIdentity :: funded.map Prod.fst

theorem mem_of_lookup {α β : Type} [BEq α] [LawfulBEq α] {table : List (α × β)} {key : α} {value : β}
    (h : table.lookup key = some value) : (key, value) ∈ table := by
  obtain ⟨before, after, rfl, -⟩ := List.lookup_eq_some_iff.mp h
  exact List.mem_append_right _ List.mem_cons_self

theorem lookup_not_mem_outsiders {table : List ((List (List UInt8) × Pubkey) × Pubkey × UInt8)}
    (hTable : ∀ entry ∈ table, entry.1.2 = ID → entry.2.1 ∉ outsiders) (seeds : List (List UInt8)) :
    ((table.lookup (seeds, ID)).getD (elsewhere seeds, 255)).1 ∉ outsiders := by
  intro hMem
  cases hLookup : table.lookup (seeds, ID) with
  | some found =>
    rw [hLookup] at hMem
    exact hTable _ (mem_of_lookup hLookup) rfl hMem
  | none =>
    rw [hLookup] at hMem
    have hTail : (outsiders.all fun key => key.toList.tail != List.replicate 31 255) = true := by decide +kernel
    exact bne_iff_ne.mp (List.all_eq_true.mp hTail _ hMem) rfl

theorem not_derived {k : Pubkey} (hk : k ∈ outsiders) : ¬environment.Derived k := by
  rintro ⟨seeds, rfl⟩
  exact lookup_not_mem_outsiders (by decide +kernel) seeds hk

theorem funded_genesis {env : Environment} (h : ∀ k ∈ outsiders, ¬env.Derived k) : World.Genesis env genesis where
  reserved k hReserved := by
    have hLookup : funded.lookup k = none := by
      refine List.lookup_eq_none_iff.mpr fun entry hEntry => bne_iff_ne.mpr ?_
      rintro rfl
      exact h _ (List.mem_cons_of_mem _ (List.mem_map_of_mem hEntry)) hReserved.derived
    change Unborn ((funded.lookup k).getD (wallet 0))
    rw [hLookup]
    exact ⟨rfl, rfl⟩
  zeroed k hOwner := by
    change ((funded.lookup k).getD (wallet 0)).owner = ID at hOwner
    cases hLookup : funded.lookup k with
    | some account =>
      rw [hLookup] at hOwner
      have hFunded : ∀ entry ∈ funded, entry.2.owner ≠ ID := by decide +kernel
      exact absurd hOwner (hFunded _ (mem_of_lookup hLookup))
    | none =>
      rw [hLookup] at hOwner
      exact absurd hOwner (by decide)

theorem genesis_initial : World.Genesis environment genesis := funded_genesis fun _ => not_derived

theorem unforged {accounts : List AccountInfo} (h : ∀ a ∈ accounts, a.isSigner = true → a.key ∈ outsiders) :
    Unforged environment accounts :=
  fun a ha hSigner => not_derived (h a ha hSigner)

def run : ChainRun runtime where
  start := genesis
  event := event
  initial := genesis_initial
  allowed
    | 0 => unforged (by decide +kernel)
    | 1 => unforged (by decide +kernel)
    | 2 => unforged (by decide +kernel)
    | 3 => unforged (by decide +kernel)
    | 4 => trivial
    | 5 => unforged (by decide +kernel)
    | _ + 6 => trivial

def receipts : List (Option Receipt) :=
  [some .other, some (.registered oracle vrfPubkey), some (.opened oracle 0), some (.requested accepted), none,
    some (.provided prepared 500000)]

theorem receipt_eq : ∀ n, run.receipt n = (receipts[n]?).join
  | 0 => by decide +kernel
  | 1 => by decide +kernel
  | 2 => by decide +kernel
  | 3 => by decide +kernel
  | 4 => by decide +kernel
  | 5 => by decide +kernel
  | _ + 6 => rfl

theorem requested_eq {n : Nat} {acc : Accepted} (h : run.receipt n = some (.requested acc)) :
    n = 3 ∧ acc = accepted := by
  rw [receipt_eq] at h
  rcases n with _ | _ | _ | _ | _ | _ | n <;> simp [receipts] at h
  exact ⟨rfl, h.symm⟩

theorem clock_early : ∀ n ≤ 4, run.clock n = clock := by
  simp only [ChainRun.clock_eq]
  decide +kernel

theorem clock_late : ∀ n, run.clock (n + 5) = laterClock
  | 0 => rfl
  | 1 => (run.clock_eq 6).trans rfl
  | _ + 2 => rfl

/-! ### More of the same chain

Other runs need further rows of the tables: addresses derived and bytes hashed.
-/

section

variable (addresses : List ((List (List UInt8) × Pubkey) × Pubkey × UInt8)) (hashed : List (List UInt8 × Bytes 32))

def environmentWith : Environment :=
  { environment with
    hash := fun bytes => ((digests ++ hashed).lookup bytes).getD (leBytes 32 0)
    findProgramAddress := fun seeds program =>
      ((derivations ++ addresses).lookup (seeds, program)).getD (elsewhere seeds, 255)
    createProgramAddress := fun seeds program =>
      let (address, bump) :=
        ((derivations ++ addresses).lookup (seeds.dropLast, program)).getD (elsewhere seeds.dropLast, 255)
      if seeds.getLast? = some [bump] then some address else none }

def runtimeWith : Runtime where
  toEnvironment := environmentWith addresses hashed
  invokeSigned _ l := .ok l
  delegateAccountWithAnyValidator _ _ _ _ := .error .external
  create_find seeds program := by simp [environmentWith]
  external_of_invokeSigned _ l _ h := Except.ok.inj h ▸ External.refl _ l
  delegates_of_delegateAccount _ _ _ _ _ h := nomatch h

variable {addresses} {hashed}

theorem not_derived_with (hTable : ∀ entry ∈ derivations ++ addresses, entry.1.2 = ID → entry.2.1 ∉ outsiders)
    {k : Pubkey} (hk : k ∈ outsiders) : ¬(environmentWith addresses hashed).Derived k := by
  rintro ⟨seeds, rfl⟩
  exact lookup_not_mem_outsiders hTable seeds hk

def signedOutside : Event → Bool
  | .call accounts _ => accounts.all fun a => !a.isSigner || outsiders.contains a.key
  | .outside _ => false
  | .tick _ => true

theorem allowed_of_signedOutside {env : Environment} {w : World} {e : Event}
    (h : ∀ k ∈ outsiders, ¬env.Derived k) (hSigned : signedOutside e = true) : w.Allowed env e := by
  cases e with
  | call accounts data =>
    intro a hMem hSigner
    have hKey := List.all_eq_true.mp hSigned a hMem
    rw [hSigner, Bool.not_true, Bool.false_or, List.contains_iff_mem] at hKey
    exact h a.key hKey
  | outside l => cases hSigned
  | tick clock => trivial

/-- The run of a list of events from the same start; then time stands still. -/
def runWith (hTable : ∀ entry ∈ derivations ++ addresses, entry.1.2 = ID → entry.2.1 ∉ outsiders)
    (events : List Event) (last : Clock) (hSigned : ∀ e ∈ events, signedOutside e = true) :
    ChainRun (runtimeWith addresses hashed) where
  start := genesis
  event n := (events[n]?).getD (.tick last)
  initial := funded_genesis fun _ => not_derived_with hTable
  allowed n := by
    refine allowed_of_signedOutside (fun _ => not_derived_with hTable) ?_
    cases hEvent : events[n]? with
    | some e => exact hSigned e (List.mem_of_getElem? hEvent)
    | none => rfl

end

theorem table_nil : ∀ entry ∈ derivations ++ [], entry.1.2 = ID → entry.2.1 ∉ outsiders := by decide +kernel

end Sample

end SolanaVrf
