import SolanaVrf.Service.Expiry
import SolanaVrf.Lib.Transition

/-! # The send loop

One task of the service works on one request: it sends a transaction, reads the answer, waits
and tries again, until the request is gone, the attempts are used up or the scheduler aborts
the task. A round is one turn of the loop; what it reads from outside (slot, clock, blockhash,
fee estimate, the answer of the node) is the round's input.
-/

namespace SolanaVrf
set_option autoImplicit false

open Pod Transition

/-! ## Transactions -/

/-- `ComputeBudget111111111111111111111111111111` -/
def computeBudgetId : Pubkey :=
  ⟨[3, 6, 70, 111, 229, 33, 23, 50, 255, 236, 173, 186, 114, 195, 155, 231, 188, 140, 229, 187, 197, 247,
    18, 107, 44, 67, 155, 58, 64, 0, 0, 0], rfl⟩

namespace ComputeBudget

def setComputeUnitLimit (units : UInt32) : Instruction := ⟨computeBudgetId, [], 2 :: toLe 4 units.toNat⟩

def setComputeUnitPrice (microLamports : UInt64) : Instruction :=
  ⟨computeBudgetId, [], 3 :: toLe 8 microLamports.toNat⟩

end ComputeBudget

/-- What is signed; the signature is a function of it and of the payer's key. -/
structure Transaction where
  payer : Pubkey
  instructions : List Instruction
  recentBlockhash : Bytes 32
deriving DecidableEq

def MAX_PRIORITY_FEE_LAMPORTS : UInt64 := 60000

def ANCHOR_CONSTRAINT_ADDRESS_ERROR : UInt32 := 2012

def PURGE_RETRY_MAX_SLOTS : Nat := 256

/-- What `prepare_transaction` reads: the cached blockhash, the host clock, the fee estimate. -/
structure Supply where
  blockhash : Bytes 32
  now : Int64
  priorityFee : UInt64
deriving DecidableEq

/-- The compute limit varies with the attempt, so that a retry under the same blockhash is another transaction. -/
def computeUnitLimit (isPurge : Bool) (item : QueueItem) (attempt : Nat) : UInt32 :=
  (if isPurge then 1000000 else if item.priorityRequest = 1 then 400000 else 300000) + UInt32.ofNat (attempt % 256)

/-- The estimate, doubled every eight attempts up to four times, under the cap of `MAX_PRIORITY_FEE_LAMPORTS`
for the whole limit. A shift loses the bits it pushes out. -/
def computeUnitPrice (priorityFee : UInt64) (budget : UInt32) (attempt : Nat) : UInt64 :=
  min (priorityFee <<< UInt64.ofNat (min (attempt / 8) 4)) (MAX_PRIORITY_FEE_LAMPORTS * 1000000 / budget.toUInt64)

section

variable {ℓ : ℕ} {P : Type} [AddCommGroup P] [Module (ZMod ℓ) P]

/-- What a spawned task owns. Its seed is the item's id. -/
structure SendTask (C : Ristretto ℓ P) where
  client : OracleClient C
  skipPreflight : Bool
  queue : Pubkey
  queueMeta : Queue
  accountBytes : List UInt8
  item : QueueItem
  preparedVrf : PreparedVrf

namespace SendTask

variable {C : Ristretto ℓ P} (env : Environment) (task : SendTask C)

/-- The program's instruction of the task's transactions, as prepared at a time of the host clock. -/
def instruction (now : Int64) : Option Instruction :=
  prepareInstruction env task.client now task.item task.item.id task.preparedVrf task.queue task.queueMeta
    task.accountBytes

def prepareTransaction (supply : Supply) (attempt : Nat) : Option Transaction := do
  let ix ← task.instruction env supply.now
  let budget := computeUnitLimit (hostAgeSecs supply.now task.item > QUEUE_TTL_SECONDS) task.item attempt
  let priorityFee := computeUnitPrice supply.priorityFee budget attempt
  -- the price comes last: the index of the program's instruction stays 1
  let instructions := [ComputeBudget.setComputeUnitLimit budget, ix] ++
    if priorityFee > 0 then [ComputeBudget.setComputeUnitPrice priorityFee] else []
  return ⟨task.client.pubkey, instructions, supply.blockhash⟩

def firstValidSlot : Nat := saturatingAdd64 task.item.slot.toNat 1

end SendTask

end

/-! ## The loop -/

namespace Sender

/-- The node's answer: a signature, or an error, which shows a code if it is a custom error of the
instruction at index 1. -/
inductive Answer
  | accepted
  | refused (code : Option UInt32)
deriving DecidableEq

namespace Answer

/-- The answer of a node that runs that instruction. -/
def of {α : Type} : Except Fault α → Answer
  | .ok _ => accepted
  | .error (.program (.custom code)) => refused (some code)
  | .error _ => refused none

/-- `RandomnessRequestNotFound`: the loop ends. -/
def gone (a : Answer) : Bool := a = refused (some SolanaVrfError.randomnessRequestNotFound.code)

/-- The loop sleeps until expiry and repeats the attempt. -/
def addressError (a : Answer) : Bool := a = refused (some ANCHOR_CONSTRAINT_ADDRESS_ERROR)

def useBackoff (a : Answer) : Bool :=
  a ≠ accepted ∧ a ≠ refused (some SolanaVrfError.oracleMustProvideInDifferentSlot.code)

theorem gone_of_iff {α : Type} {result : Except Fault α} :
    (of result).gone = true ↔ result = .error ↑SolanaVrfError.randomnessRequestNotFound := by
  rw [gone, decide_eq_true_iff]
  unfold of
  split
  · simp
  · simp [SolanaVrfError.toProgramError]
  · rename_i fault hOther
    refine iff_of_false (by simp) ?_
    intro hEq
    exact hOther _ (Except.error.inj hEq)

end Answer

/-- What one turn of the loop reads: the tracked slot, the clock for `expired`, the supply if it
prepares a transaction, the answer, the clock again after an address error, and the supply for the
first legal attempt if it prepares that. -/
structure Round where
  attemptSlot : UInt64
  now : Int64
  supply : Supply
  answer : Answer
  later : Int64
  resupply : Supply
deriving DecidableEq

namespace Round

def expired (r : Round) (item : QueueItem) : Bool := hostAgeSecs r.now item > QUEUE_TTL_SECONDS

end Round

/-- One transaction that went out, with the round that sent it. -/
structure Send where
  attempt : Nat
  transaction : Transaction
  skipPreflight : Bool
  round : Round
deriving DecidableEq

inductive Event
  | round (r : Round)
  | abort

def purgeDelay (purgesSent : Nat) : Nat :=
  if purgesSent > 0 then min (2 ^ min purgesSent 8) PURGE_RETRY_MAX_SLOTS else 0

def errorDelay (useBackoff : Bool) (backoffAttempts : Nat) : Nat :=
  if useBackoff then min (2 ^ min backoffAttempts 5) 32 else 1

end Sender

open Sender

/-- The variables of the loop, the slot it waits for, a time that its clock has passed when the next
round begins, and the transactions it has sent, in order. -/
structure Sender where
  attempts : Nat
  backoffAttempts : Nat
  purgesSent : Nat
  firstLegalAttemptPending : Bool
  preparedTransaction : Option Transaction
  running : Bool
  target : Nat
  wakeAt : Int
  log : List Send

namespace Sender

section

variable {ℓ : ℕ} {P : Type} [AddCommGroup P] [Module (ZMod ℓ) P] {C : Ristretto ℓ P}

/-- Before the first round, with the transaction of attempt 0. -/
def begin (prepared : Transaction) (now : Int64) : Sender :=
  ⟨0, 0, 0, false, some prepared, true, 0, now.toInt, []⟩

/-- The slot tracker may let the first attempt through before the first valid slot. -/
def sentEarly (task : SendTask C) (r : Round) : Bool := r.attemptSlot.toNat < task.firstValidSlot

variable (env : Environment) (task : SendTask C) (s : Sender)

/-- The prepared transaction, unless it is missing or the request has expired since. -/
def transaction (r : Round) : Option Transaction :=
  match s.preparedTransaction, r.expired task.item with
  | some transaction, false => some transaction
  | _, _ => task.prepareTransaction env r.supply s.attempts

def send (r : Round) (transaction : Transaction) : Send where
  attempt := s.attempts
  transaction := transaction
  skipPreflight := task.skipPreflight && (s.attempts == 0 || s.firstLegalAttemptPending)
  round := r

def record (r : Round) (transaction : Transaction) : Sender :=
  { s with log := s.log ++ [s.send task r transaction] }

/-- The rest of a round that goes on to the next attempt. -/
def retry (r : Round) : Sender :=
  let early := sentEarly task r
  let purgesSent := if r.answer = .accepted ∧ r.expired task.item = true then s.purgesSent + 1 else s.purgesSent
  let prepared := if early then task.prepareTransaction env r.resupply (s.attempts + 1) else none
  { s with
    attempts := s.attempts + 1
    backoffAttempts := if r.answer.useBackoff then s.backoffAttempts + 1 else 0
    purgesSent := purgesSent
    firstLegalAttemptPending := early
    preparedTransaction := prepared
    running := (!early || prepared.isSome) && s.attempts + 1 < 100
    target := saturatingAdd64 r.attemptSlot.toNat
      (max (purgeDelay purgesSent) (errorDelay r.answer.useBackoff s.backoffAttempts))
    wakeAt := if early then r.resupply.now.toInt else r.now.toInt }

/-- The sleep until expiry, after which the loop turns with the same attempt. -/
def sleep (r : Round) : Sender :=
  { s with
    firstLegalAttemptPending := sentEarly task r
    preparedTransaction := none
    target := r.attemptSlot.toNat
    wakeAt := r.later.toInt + untilExpiry r.later task.item }

def stop : Sender := { s with running := false }

/-- One turn of the loop; a panic ends the task before it sends. -/
def turn (r : Round) : Sender :=
  match s.transaction env task r with
  | none => s.stop
  | some transaction =>
    let sent := s.record task r transaction
    if r.answer.gone then sent.stop
    else if r.answer.addressError then sent.sleep task r
    else sent.retry env task r

def next : Event → Sender
  | .abort => s.stop
  | .round r => s.turn env task r

/-- The tracked slot never falls, and the loop has waited for its target; past the first attempt it
also waits for the first valid slot. -/
def Allowed : Event → Prop
  | .abort => True
  | .round r => s.running = true ∧ s.target ≤ r.attemptSlot.toNat ∧
    (s.attempts ≠ 0 → task.firstValidSlot ≤ r.attemptSlot.toNat)

instance decidableAllowed : ∀ e, Decidable (s.Allowed task e)
  | .abort => isTrue trivial
  | .round _ => inferInstanceAs (Decidable (_ ∧ _ ∧ _))

end

end Sender

section

variable {ℓ : ℕ} {P : Type} [AddCommGroup P] [Module (ZMod ℓ) P] {C : Ristretto ℓ P}

def sending (env : Environment) (task : SendTask C) : Machine Sender Sender.Event where
  initial s := ∃ supply prepared, task.prepareTransaction env supply 0 = some prepared ∧ s = .begin prepared supply.now
  allowed s e := s.Allowed task e
  next s e := s.next env task e

end

/-! ## What a prepared transaction is -/

theorem computeUnitLimit_toNat (isPurge : Bool) (item : QueueItem) (attempt : Nat) :
    (computeUnitLimit isPurge item attempt).toNat =
      (if isPurge then 1000000 else if item.priorityRequest = 1 then 400000 else 300000) + attempt % 256 := by
  have hNonce : attempt % 256 < 256 := Nat.mod_lt _ (by decide)
  have hSmall : (UInt32.ofNat (attempt % 256)).toNat = attempt % 256 := UInt32.toNat_ofNat_of_lt' (Nat.lt_trans hNonce (by decide))
  unfold computeUnitLimit
  split
  · rw [UInt32.toNat_add, hSmall]
    change (1000000 + attempt % 256) % _ = _
    omega
  · split
    · rw [UInt32.toNat_add, hSmall]
      change (400000 + attempt % 256) % _ = _
      omega
    · rw [UInt32.toNat_add, hSmall]
      change (300000 + attempt % 256) % _ = _
      omega

/-- The attempts of one task are told apart by their limits. -/
theorem computeUnitLimit_inj {isPurge isPurge' : Bool} {item : QueueItem} {attempt attempt' : Nat}
    (hLt : attempt < 256) (hLt' : attempt' < 256)
    (h : computeUnitLimit isPurge item attempt = computeUnitLimit isPurge' item attempt') : attempt = attempt' := by
  have hNat := congrArg UInt32.toNat h
  rw [computeUnitLimit_toNat, computeUnitLimit_toNat, Nat.mod_eq_of_lt hLt, Nat.mod_eq_of_lt hLt'] at hNat
  split at hNat <;> split at hNat <;> (try split at hNat) <;> omega

theorem computeUnitPrice_le (priorityFee : UInt64) (isPurge : Bool) (item : QueueItem) (attempt : Nat) :
    (computeUnitLimit isPurge item attempt).toNat *
      (computeUnitPrice priorityFee (computeUnitLimit isPurge item attempt) attempt).toNat ≤ 60000 * 1000000 := by
  generalize computeUnitLimit isPurge item attempt = budget
  have hCap : (computeUnitPrice priorityFee budget attempt).toNat ≤ 60000 * 1000000 / budget.toNat := by
    have hLe : computeUnitPrice priorityFee budget attempt ≤
        MAX_PRIORITY_FEE_LAMPORTS * 1000000 / budget.toUInt64 := by
      unfold computeUnitPrice
      change (if _ ≤ _ then _ else _) ≤ _
      split
      · assumption
      · exact UInt64.le_refl _
    rw [UInt64.le_iff_toNat_le, UInt64.toNat_div] at hLe
    exact hLe
  calc budget.toNat * (computeUnitPrice priorityFee budget attempt).toNat
      ≤ budget.toNat * (60000 * 1000000 / budget.toNat) := Nat.mul_le_mul_left _ hCap
    _ ≤ 60000 * 1000000 := Nat.mul_div_le _ _

/-- A fee of five lamports a unit is capped at a fifth of a lamport. -/
example : computeUnitPrice 5000000 (computeUnitLimit false Sample.item 0) 0 = 200000 := by decide +kernel

namespace ComputeBudget

/-- The number that a compute budget instruction with this tag sets. -/
def setting (tag : UInt8) (ix : Instruction) : Option Nat :=
  if ix.programId = computeBudgetId ∧ ix.data.head? = some tag then some (ofLe ix.data.tail) else none

/-- What the cluster charges for a transaction's priority, in lamports: its price is in millionths of a
lamport for each unit of its limit, and 0 if it sets none. -/
def prioritizationFee (tx : Transaction) : Option Nat := do
  let limit ← tx.instructions.findSome? (setting 2)
  let price := (tx.instructions.findSome? (setting 3)).getD 0
  return (limit * price + 999999) / 1000000

theorem setting_limit (units : UInt32) : setting 2 (setComputeUnitLimit units) = some units.toNat := by
  unfold setting
  rw [if_pos ⟨rfl, rfl⟩]
  have hLt : units.toNat < 256 ^ 4 := units.toNat_lt
  change some (ofLe (toLe 4 units.toNat)) = _
  rw [ofLe_toLe, Nat.mod_eq_of_lt hLt]

theorem setting_price (microLamports : UInt64) :
    setting 3 (setComputeUnitPrice microLamports) = some microLamports.toNat := by
  unfold setting
  rw [if_pos ⟨rfl, rfl⟩]
  have hLt : microLamports.toNat < 256 ^ 8 := microLamports.toNat_lt
  change some (ofLe (toLe 8 microLamports.toNat)) = _
  rw [ofLe_toLe, Nat.mod_eq_of_lt hLt]

theorem setting_of_ne {tag : UInt8} {ix : Instruction} (h : ix.programId ≠ computeBudgetId) : setting tag ix = none :=
  if_neg fun hSets => h hSets.1

theorem setComputeUnitLimit_inj {units units' : UInt32}
    (h : setComputeUnitLimit units = setComputeUnitLimit units') : units = units' := by
  have hData : toLe 4 units.toNat = toLe 4 units'.toNat := (List.cons.inj (congrArg Instruction.data h)).2
  have hNat := congrArg ofLe hData
  rw [ofLe_toLe, ofLe_toLe] at hNat
  have hLt := units.toNat_lt
  have hLt' := units'.toNat_lt
  exact UInt32.toNat_inj.mp (by omega)

end ComputeBudget

namespace SendTask

variable {ℓ : ℕ} {P : Type} [AddCommGroup P] [Module (ZMod ℓ) P] {C : Ristretto ℓ P}
  {env : Environment} {task : SendTask C} {supply supply' : Supply} {attempt attempt' : Nat} {tx : Transaction}

theorem prepareTransaction_eq_some : task.prepareTransaction env supply attempt = some tx ↔
    ∃ ix, task.instruction env supply.now = some ix ∧
      ∃ budget, budget = computeUnitLimit (hostAgeSecs supply.now task.item > QUEUE_TTL_SECONDS) task.item attempt ∧
      tx = ⟨task.client.pubkey, ComputeBudget.setComputeUnitLimit budget :: ix ::
        (if computeUnitPrice supply.priorityFee budget attempt > 0 then
          [ComputeBudget.setComputeUnitPrice (computeUnitPrice supply.priorityFee budget attempt)] else []),
        supply.blockhash⟩ := by
  unfold prepareTransaction
  constructor
  · intro h
    obtain ⟨ix, hIx, hTx⟩ := Option.bind_eq_some_iff.mp h
    cases hTx
    exact ⟨ix, hIx, _, rfl, rfl⟩
  · rintro ⟨ix, hIx, _, rfl, rfl⟩
    exact Option.bind_eq_some_iff.mpr ⟨ix, hIx, rfl⟩

theorem attempt_eq_of_prepareTransaction (hLt : attempt < 256) (hLt' : attempt' < 256)
    (h : task.prepareTransaction env supply attempt = some tx)
    (h' : task.prepareTransaction env supply' attempt' = some tx) : attempt = attempt' := by
  obtain ⟨ix, -, _, rfl, rfl⟩ := prepareTransaction_eq_some.mp h
  obtain ⟨ix', -, _, rfl, hSame⟩ := prepareTransaction_eq_some.mp h'
  have hLimits := (List.cons.inj (congrArg Transaction.instructions hSame)).1
  exact computeUnitLimit_inj hLt hLt' (ComputeBudget.setComputeUnitLimit_inj hLimits)

theorem programId_of_instruction {now : Int64} {ix : Instruction} (h : task.instruction env now = some ix) :
    ix.programId = ID := by
  unfold instruction prepareInstruction at h
  split at h
  · cases h
    rfl
  · split at h
    · obtain ⟨metas, -, hIx⟩ := Option.bind_eq_some_iff.mp h
      cases hIx
      rfl
    · cases h

theorem fee_of_prepareTransaction (h : task.prepareTransaction env supply attempt = some tx) :
    ∃ fee ≤ 60000, ComputeBudget.prioritizationFee tx = some fee := by
  obtain ⟨ix, hIx, budget, hBudget, rfl⟩ := prepareTransaction_eq_some.mp h
  have hOther : ix.programId ≠ computeBudgetId := by
    rw [programId_of_instruction hIx]
    decide
  have hCap := computeUnitPrice_le supply.priorityFee
    (hostAgeSecs supply.now task.item > QUEUE_TTL_SECONDS) task.item attempt
  rw [← hBudget] at hCap
  unfold ComputeBudget.prioritizationFee
  rw [List.findSome?_cons, ComputeBudget.setting_limit]
  refine ⟨_, ?_, rfl⟩
  have hLimit : ComputeBudget.setting 3 (ComputeBudget.setComputeUnitLimit budget) = none :=
    if_neg fun hSets => absurd (Option.some.inj hSets.2) (by decide : (2 : UInt8) ≠ 3)
  rw [List.findSome?_cons, List.findSome?_cons, hLimit, ComputeBudget.setting_of_ne hOther]
  by_cases hPrice : computeUnitPrice supply.priorityFee budget attempt > 0
  · rw [if_pos hPrice, List.findSome?_cons, ComputeBudget.setting_price]
    change (budget.toNat * (computeUnitPrice supply.priorityFee budget attempt).toNat + 999999) / 1000000 ≤ 60000
    omega
  · rw [if_neg hPrice]
    change (budget.toNat * 0 + 999999) / 1000000 ≤ 60000
    omega

theorem instruction_of_prepareTransaction (h : task.prepareTransaction env supply attempt = some tx) :
    tx.instructions[1]? = task.instruction env supply.now := by
  obtain ⟨ix, hIx, _, rfl, rfl⟩ := prepareTransaction_eq_some.mp h
  exact hIx.symm

end SendTask

/-! ## The variables of the loop, read off the log -/

namespace Sender

/-- An address error does not use up its attempt. -/
def Send.counted (e : Send) : Bool := !e.round.answer.addressError

def Send.purged (item : QueueItem) (e : Send) : Bool := e.round.answer = .accepted ∧ e.round.expired item = true

/-- How many refusals in a row end the log; address errors do not interrupt them. -/
def streak (log : List Send) : Nat :=
  ((log.filter Send.counted).reverse.takeWhile fun e => e.round.answer.useBackoff).length

/-- The slots between the last send of the log and the next one. -/
def waitAfter (item : QueueItem) (log : List Send) : Nat :=
  max (purgeDelay (log.countP (Send.purged item))) (errorDelay (0 < streak log) (streak log - 1))

theorem streak_append (log : List Send) (e : Send) : streak (log ++ [e]) =
    if e.counted = true then (if e.round.answer.useBackoff = true then streak log + 1 else 0) else streak log := by
  unfold streak
  rw [List.filter_append]
  by_cases hCounted : e.counted = true
  · rw [if_pos hCounted, List.filter_cons_of_pos hCounted, List.filter_nil, List.reverse_append,
      List.reverse_singleton, List.singleton_append, List.takeWhile_cons]
    split
    · rfl
    · rfl
  · rw [if_neg hCounted, List.filter_cons_of_neg hCounted, List.filter_nil, List.append_nil]

theorem waitAfter_bounds (item : QueueItem) (log : List Send) : 1 ≤ waitAfter item log ∧ waitAfter item log ≤ 256 := by
  have hError : 1 ≤ errorDelay (0 < streak log) (streak log - 1) ∧
      errorDelay (0 < streak log) (streak log - 1) ≤ 32 := by
    unfold errorDelay
    split
    · exact ⟨le_min Nat.one_le_two_pow (by decide), min_le_right _ _⟩
    · decide
  have hPurge : purgeDelay (log.countP (Send.purged item)) ≤ 256 := by
    unfold purgeDelay
    split
    · exact min_le_right _ _
    · exact Nat.zero_le _
  unfold waitAfter
  omega

section

variable {ℓ : ℕ} {P : Type} [AddCommGroup P] [Module (ZMod ℓ) P] {C : Ristretto ℓ P}
  {env : Environment} {task : SendTask C} {s : Sender} {r : Round} {tx : Transaction}

/-- What every round of a running loop finds. -/
structure Tallied (env : Environment) (task : SendTask C) (s : Sender) : Prop where
  attempts_lt : s.attempts < 100
  attempts_eq : s.attempts = s.log.countP Send.counted
  backoffs_eq : s.backoffAttempts = streak s.log
  purges_eq : s.purgesSent = s.log.countP (Send.purged task.item)
  prepared : ∀ tx, s.preparedTransaction = some tx →
    ∃ supply, task.prepareTransaction env supply s.attempts = some tx ∧ supply.now.toInt ≤ s.wakeAt
  pending : s.firstLegalAttemptPending = true → s.attempts ≤ 1 ∧
    ∃ e, s.log.getLast? = some e ∧ sentEarly task e.round = true
  waiting : ∀ e, s.log.getLast? = some e →
    s.target = if e.counted = true then saturatingAdd64 e.round.attemptSlot.toNat (waitAfter task.item s.log)
      else e.round.attemptSlot.toNat

theorem Tallied.begin {supply : Supply} (h : task.prepareTransaction env supply 0 = some tx) :
    Tallied env task (.begin tx supply.now) where
  attempts_lt := Nat.zero_lt_succ 99
  attempts_eq := rfl
  backoffs_eq := rfl
  purges_eq := rfl
  prepared := by
    rintro _ ⟨⟩
    exact ⟨supply, h, le_refl _⟩
  pending := by
    rintro ⟨⟩
  waiting := by
    rintro _ ⟨⟩

/-- The round's transaction is prepared for the attempt it is sent in. -/
theorem Tallied.transaction (h : Tallied env task s) (hTx : s.transaction env task r = some tx) :
    ∃ supply, task.prepareTransaction env supply s.attempts = some tx ∧
      (supply.now.toInt ≤ s.wakeAt ∧ r.expired task.item = false ∨ supply = r.supply) := by
  unfold Sender.transaction at hTx
  split at hTx
  · rename_i hPrepared hFresh
    cases hTx
    obtain ⟨supply, hSupply, hBefore⟩ := h.prepared _ hPrepared
    exact ⟨supply, hSupply, Or.inl ⟨hBefore, hFresh⟩⟩
  · exact ⟨r.supply, hTx, Or.inr rfl⟩

theorem attempts_eq_zero_of_early (hAllowed : s.Allowed task (.round r)) (hEarly : sentEarly task r = true) :
    s.attempts = 0 := by
  by_contra hLater
  exact Nat.not_lt.mpr (hAllowed.2.2 hLater) (of_decide_eq_true hEarly)

theorem Tallied.sleep (h : Tallied env task s) (hAllowed : s.Allowed task (.round r))
    (hAnswer : r.answer.addressError = true) :
    Tallied env task ((s.record task r tx).sleep task r) := by
  have hUncounted : (s.send task r tx).counted = false := by
    change (!r.answer.addressError) = false
    rw [hAnswer]
    rfl
  have hAccepted : (s.send task r tx).purged task.item = false := by
    refine decide_eq_false ?_
    rintro ⟨hAccepted, -⟩
    have hRefused := of_decide_eq_true hAnswer
    change r.answer = .accepted at hAccepted
    rw [hAccepted] at hRefused
    cases hRefused
  constructor
  case attempts_lt => exact h.attempts_lt
  case attempts_eq =>
    change s.attempts = (s.log ++ [s.send task r tx]).countP Send.counted
    rw [List.countP_append, List.countP_singleton, if_neg (by rw [hUncounted]; decide)]
    exact h.attempts_eq
  case backoffs_eq =>
    change s.backoffAttempts = streak (s.log ++ [s.send task r tx])
    rw [streak_append, if_neg (by rw [hUncounted]; decide)]
    exact h.backoffs_eq
  case purges_eq =>
    change s.purgesSent = (s.log ++ [s.send task r tx]).countP (Send.purged task.item)
    rw [List.countP_append, List.countP_singleton, if_neg (by rw [hAccepted]; decide)]
    exact h.purges_eq
  case prepared => rintro _ ⟨⟩
  case pending =>
    intro hEarly
    have hFirst := attempts_eq_zero_of_early hAllowed hEarly
    exact ⟨hFirst.trans_le (Nat.zero_le 1), s.send task r tx, List.getLast?_concat, hEarly⟩
  case waiting =>
    intro e hLast
    obtain rfl : s.send task r tx = e := Option.some.inj (List.getLast?_concat.symm.trans hLast)
    rw [if_neg (by rw [hUncounted]; decide)]
    rfl

theorem errorDelay_streak (log : List Send) (e : Send) (hCounted : e.counted = true) :
    errorDelay (0 < streak (log ++ [e])) (streak (log ++ [e]) - 1) =
      errorDelay e.round.answer.useBackoff (streak log) := by
  rw [streak_append, if_pos hCounted]
  cases hBackoff : e.round.answer.useBackoff with
  | false => rfl
  | true =>
    rw [if_pos rfl, Nat.add_sub_cancel, decide_eq_true (Nat.zero_lt_succ _)]

theorem Tallied.retry (h : Tallied env task s) (hAllowed : s.Allowed task (.round r))
    (hAnswer : r.answer.addressError = false)
    (hRunning : ((s.record task r tx).retry env task r).running = true) :
    Tallied env task ((s.record task r tx).retry env task r) := by
  have hCounted : (s.send task r tx).counted = true := by
    change (!r.answer.addressError) = true
    rw [hAnswer]
    rfl
  have hPurges : (if r.answer = .accepted ∧ r.expired task.item = true then s.purgesSent + 1 else s.purgesSent) =
      (s.log ++ [s.send task r tx]).countP (Send.purged task.item) := by
    have hIff : (s.send task r tx).purged task.item = true ↔ r.answer = .accepted ∧ r.expired task.item = true :=
      decide_eq_true_iff
    rw [List.countP_append, List.countP_singleton, ← h.purges_eq]
    by_cases hPurged : r.answer = .accepted ∧ r.expired task.item = true
    · rw [if_pos hPurged, if_pos (hIff.mpr hPurged)]
    · rw [if_neg hPurged, if_neg fun hSent => hPurged (hIff.mp hSent), Nat.add_zero]
  constructor
  case attempts_lt => exact of_decide_eq_true (Bool.and_eq_true_iff.mp hRunning).2
  case attempts_eq =>
    change s.attempts + 1 = (s.log ++ [s.send task r tx]).countP Send.counted
    rw [List.countP_append, List.countP_singleton, if_pos hCounted, h.attempts_eq]
  case backoffs_eq =>
    change (if r.answer.useBackoff = true then s.backoffAttempts + 1 else 0) = streak (s.log ++ [s.send task r tx])
    rw [streak_append, if_pos hCounted, h.backoffs_eq]
    rfl
  case purges_eq => exact hPurges
  case prepared =>
    intro tx' hPrepared
    change (if sentEarly task r = true then _ else none) = some tx' at hPrepared
    split at hPrepared
    · rename_i hEarly
      refine ⟨r.resupply, hPrepared, ?_⟩
      change _ ≤ if sentEarly task r = true then r.resupply.now.toInt else r.now.toInt
      rw [if_pos hEarly]
    · cases hPrepared
  case pending =>
    intro hEarly
    have hFirst := attempts_eq_zero_of_early hAllowed hEarly
    refine ⟨?_, s.send task r tx, List.getLast?_concat, hEarly⟩
    change s.attempts + 1 ≤ 1
    rw [hFirst]
  case waiting =>
    intro e hLast
    obtain rfl : s.send task r tx = e := Option.some.inj (List.getLast?_concat.symm.trans hLast)
    rw [if_pos hCounted]
    change saturatingAdd64 r.attemptSlot.toNat (max (purgeDelay _) (errorDelay r.answer.useBackoff s.backoffAttempts)) =
      saturatingAdd64 r.attemptSlot.toNat (waitAfter task.item (s.log ++ [s.send task r tx]))
    rw [waitAfter, errorDelay_streak _ _ hCounted, ← hPurges, ← h.backoffs_eq]
    rfl

theorem stop_stop (s : Sender) : s.stop.stop = s.stop := rfl

/-- What one event does: it sends nothing and the task ends, or a round sends one transaction. -/
theorem next_cases {e : Sender.Event} (hAllowed : s.Allowed task e) :
    s.next env task e = s.stop ∨
      ∃ r tx, e = .round r ∧ s.Allowed task (.round r) ∧ s.transaction env task r = some tx ∧
        (s.next env task e = (s.record task r tx).stop ∨
          r.answer.addressError = true ∧ s.next env task e = (s.record task r tx).sleep task r ∨
          r.answer.addressError = false ∧ s.next env task e = (s.record task r tx).retry env task r) := by
  cases e with
  | abort => exact Or.inl rfl
  | round r =>
    change s.turn env task r = _ ∨ _
    cases hTx : s.transaction env task r with
    | none =>
      left
      rw [turn, hTx]
    | some tx =>
      refine Or.inr ⟨r, tx, rfl, hAllowed, hTx, ?_⟩
      change s.turn env task r = _ ∨ _ ∧ s.turn env task r = _ ∨ _ ∧ s.turn env task r = _
      rw [turn, hTx]
      by_cases hGone : r.answer.gone = true
      · exact Or.inl (if_pos hGone)
      · refine Or.inr ?_
        cases hAddress : r.answer.addressError with
        | true => exact Or.inl ⟨rfl, if_neg hGone⟩
        | false => exact Or.inr ⟨rfl, if_neg hGone⟩

theorem next_tallied {e : Sender.Event} (hAllowed : s.Allowed task e) (h : s.running = true → Tallied env task s) :
    (s.next env task e).running = true → Tallied env task (s.next env task e) := by
  obtain hEnded | ⟨r, tx, rfl, hRound, -, hEnded | ⟨hAnswer, hNext⟩ | ⟨hAnswer, hNext⟩⟩ :=
    @next_cases _ _ _ _ _ env task s e hAllowed
  · rw [hEnded]
    rintro ⟨⟩
  · rw [hEnded]
    rintro ⟨⟩
  · rw [hNext]
    exact fun _ => (h hRound.1).sleep hRound hAnswer
  · rw [hNext]
    exact (h hRound.1).retry hRound hAnswer

end

end Sender

/-! ## Runs of the loop -/

namespace Sending

variable {ℓ : ℕ} {P : Type} [AddCommGroup P] [Module (ZMod ℓ) P] {C : Ristretto ℓ P}
  {env : Environment} {task : SendTask C} (run : (sending env task).Run)

def log (n : Nat) : List Send := (run.state n).log

theorem tallied (n : Nat) : (run.state n).running = true → Tallied env task (run.state n) := by
  refine run.invariant (P := fun s => s.running = true → Tallied env task s) ?_ ?_ n
  · rintro _ ⟨supply, prepared, hPrepared, rfl⟩ -
    exact Tallied.begin hPrepared
  · intro s e hAllowed h
    exact next_tallied hAllowed h

theorem step_cases (n : Nat) :
    run.state (n + 1) = (run.state n).stop ∨
      ∃ r tx, run.event n = .round r ∧ (run.state n).Allowed task (.round r) ∧
        (run.state n).transaction env task r = some tx ∧
        (run.state (n + 1) = ((run.state n).record task r tx).stop ∨
          r.answer.addressError = true ∧ run.state (n + 1) = ((run.state n).record task r tx).sleep task r ∨
          r.answer.addressError = false ∧ run.state (n + 1) = ((run.state n).record task r tx).retry env task r) :=
  next_cases (run.allowed_at n)

/-- Every send was made in a running state that had sent what stands before it. -/
theorem sent_in {n i : Nat} {e : Send} (h : (log run n)[i]? = some e) :
    ∃ k < n, log run k = (log run n).take i ∧ log run (k + 1) = (log run n).take (i + 1) ∧
      Tallied env task (run.state k) ∧ ∃ r tx, run.event k = .round r ∧
        (run.state k).Allowed task (.round r) ∧ (run.state k).transaction env task r = some tx ∧
        e = (run.state k).send task r tx := by
  have hMade := run.appended (Q := fun s event e => ∃ r tx, event = .round r ∧ s.Allowed task (.round r) ∧
    s.transaction env task r = some tx ∧ e = s.send task r tx) Sender.log ?_ ?_ h
  · obtain ⟨k, hk, hBefore, hAfter, r, tx, hEvent, hAllowed, hSend⟩ := hMade
    exact ⟨k, hk, hBefore, hAfter, tallied run k hAllowed.1, r, tx, hEvent, hAllowed, hSend⟩
  · obtain ⟨supply, prepared, -, hStart⟩ := run.initial
    rw [hStart]
    rfl
  · intro n
    obtain hEnded | ⟨r, tx, hEvent, hRound, hTx, hNext⟩ := step_cases run n
    · left
      rw [hEnded]
      rfl
    · refine Or.inr ⟨(run.state n).send task r tx, ?_, r, tx, hEvent, hRound, hTx, rfl⟩
      obtain hNext | ⟨-, hNext⟩ | ⟨-, hNext⟩ := hNext <;> rw [hNext] <;> rfl

theorem sent_attempt {n i : Nat} {e : Send} (h : (log run n)[i]? = some e) :
    e.attempt = ((log run n).take i).countP Send.counted ∧ e.attempt < 100 ∧
      ∃ supply, task.prepareTransaction env supply e.attempt = some e.transaction := by
  obtain ⟨k, -, hBefore, -, hTallied, r, tx, -, -, hTx, rfl⟩ := sent_in run h
  obtain ⟨supply, hSupply, -⟩ := hTallied.transaction hTx
  refine ⟨?_, hTallied.attempts_lt, supply, hSupply⟩
  rw [← hBefore]
  exact hTallied.attempts_eq

/-- Attempts do not fall, and they rise with every answer but an address error. -/
theorem attempts_lt_of_counted {n i j m : Nat} {a b e : Send} (ha : (log run n)[i]? = some a)
    (hb : (log run n)[j]? = some b) (he : (log run n)[m]? = some e) (hFrom : i ≤ m) (hTo : m < j)
    (hCounted : e.counted = true) : a.attempt < b.attempt := by
  have hPassed : ((log run n).take (m + 1)).countP Send.counted =
      ((log run n).take m).countP Send.counted + 1 := by
    rw [List.take_add_one, he, List.countP_append, Option.toList_some, List.countP_singleton, if_pos hCounted]
  have hStart : ((log run n).take i).countP Send.counted ≤ ((log run n).take m).countP Send.counted :=
    (List.take_sublist_take_left hFrom).countP_le
  have hEnd : ((log run n).take (m + 1)).countP Send.counted ≤ ((log run n).take j).countP Send.counted :=
    (List.take_sublist_take_left hTo).countP_le
  rw [(sent_attempt run ha).1, (sent_attempt run hb).1]
  omega

theorem log_cases (n : Nat) : log run n = [] ∨
    ∃ before last, log run n = before ++ [last] ∧ (log run n)[before.length]? = some last := by
  obtain hEmpty | ⟨before, last, hLog⟩ := (log run n).eq_nil_or_concat
  · exact Or.inl hEmpty
  · rw [List.concat_eq_append] at hLog
    refine Or.inr ⟨before, last, hLog, ?_⟩
    rw [hLog, List.getElem?_append_right (Nat.le_refl _), Nat.sub_self]
    rfl

/-- At most a hundred sends use up an attempt. -/
theorem counted_le (n : Nat) : (log run n).countP Send.counted ≤ 100 := by
  obtain hEmpty | ⟨before, last, hLog, hLast⟩ := log_cases run n
  · rw [hEmpty]
    exact Nat.zero_le _
  · obtain ⟨hAttempt, hLt, -⟩ := sent_attempt run hLast
    rw [hLog, List.take_left' rfl] at hAttempt
    have hOne : List.countP Send.counted [last] ≤ 1 := List.countP_le_length
    rw [hLog, List.countP_append]
    omega

end Sending

namespace Sample

/-- A task for the request, with the queue's bytes as the service last saw them. -/
def sendTask : SendTask curve :=
  ⟨client, true, queueKey, header, (requesting.ledger 4 queueKey).data, item, vrf⟩

def supplyAt (now : Int64) : Supply := ⟨leBytes 32 7, now, 1000⟩

def roundAt (attemptSlot : UInt64) (now : Int64) (answer : Sender.Answer) : Sender.Event :=
  .round ⟨attemptSlot, now, supplyAt now, answer, now, supplyAt now⟩

/-- An early send, two refusals by the callback with a sleep after each, and two purges. -/
def rounds : List Sender.Event :=
  [roundAt 100 1700000001 .accepted, roundAt 101 1700000002 (.refused (some 2012)),
    roundAt 400 1700000123 (.refused (some 2012)), roundAt 402 1700000124 .accepted, roundAt 404 1700000125 .accepted,
    .abort]

def firstPrepared : Transaction :=
  ⟨oracle, [ComputeBudget.setComputeUnitLimit 300000, fulfilment, ComputeBudget.setComputeUnitPrice 1000], leBytes 32 7⟩

theorem sendTask_prepares :
    sendTask.prepareTransaction curveRuntime.toEnvironment (supplyAt 1700000000) 0 = some firstPrepared := by
  decide +kernel

theorem rounds_allowed : ∀ n ≤ rounds.length,
    Sender.Allowed sendTask ((sending curveRuntime.toEnvironment sendTask).trace (.begin firstPrepared 1700000000)
      (fun n => rounds.getD n .abort) n) (rounds.getD n .abort) := by
  decide +kernel

/-- The run of these rounds, the last of which aborts the task. -/
def retrying : (sending curveRuntime.toEnvironment sendTask).Run :=
  .ofList _ (.begin firstPrepared 1700000000) rounds .abort
    ⟨supplyAt 1700000000, firstPrepared, sendTask_prepares, rfl⟩ rounds_allowed (Sender.stop_stop _)

theorem retrying_sends (i : Nat) (hi : i < 5) : ∃ e, (Sending.log retrying 6)[i]? = some e := by
  have hLength : (Sending.log retrying 6).length = 5 := by decide +kernel
  exact ⟨_, List.getElem?_eq_getElem (hLength ▸ hi)⟩

end Sample

section

variable {ℓ : ℕ} {P : Type} [AddCommGroup P] [Module (ZMod ℓ) P] {C : Ristretto ℓ P}
  {env : Environment} {task : SendTask C}

/-- The loop sends the same transaction twice only after an address error: if two sends are equal, every
send from the first up to the second was refused with that error. -/
theorem accepted_never_resent (run : (sending env task).Run) {n i j : Nat} {a b : Send}
    (ha : (Sending.log run n)[i]? = some a) (hb : (Sending.log run n)[j]? = some b)
    (hSame : a.transaction = b.transaction) :
    ∀ m e, i ≤ m → m < j → (Sending.log run n)[m]? = some e →
      e.round.answer = .refused (some ANCHOR_CONSTRAINT_ADDRESS_ERROR) := by
  intro m e hFrom hTo he
  obtain ⟨-, haLt, supply, hSupply⟩ := Sending.sent_attempt run ha
  obtain ⟨-, hbLt, supply', hSupply'⟩ := Sending.sent_attempt run hb
  rw [hSame] at hSupply
  have hAttempts : a.attempt = b.attempt :=
    SendTask.attempt_eq_of_prepareTransaction (haLt.trans (by decide)) (hbLt.trans (by decide)) hSupply hSupply'
  cases hAnswer : e.round.answer.addressError with
  | true => exact of_decide_eq_true hAnswer
  | false =>
    have hCounted : e.counted = true := congrArg (! ·) hAnswer
    have hRises := Sending.attempts_lt_of_counted run ha hb he hFrom hTo hCounted
    omega

end

/-- The callback refuses the same fulfilment twice. -/
theorem accepted_never_resent_after_sleep : ∃ a b,
    (Sending.log Sample.retrying 6)[1]? = some a ∧ (Sending.log Sample.retrying 6)[2]? = some b ∧
    a.transaction = b.transaction ∧ a.round.answer = .refused (some ANCHOR_CONSTRAINT_ADDRESS_ERROR) := by
  obtain ⟨a, ha⟩ := Sample.retrying_sends 1 (by decide)
  obtain ⟨b, hb⟩ := Sample.retrying_sends 2 (by decide)
  have hSame : ((Sending.log Sample.retrying 6)[1]?).map Send.transaction =
      ((Sending.log Sample.retrying 6)[2]?).map Send.transaction := by decide +kernel
  rw [ha, hb] at hSame
  have hEqual := Option.some.inj hSame
  exact ⟨a, b, ha, hb, hEqual, accepted_never_resent Sample.retrying ha hb hEqual 1 a (by decide) (by decide) ha⟩

section

variable {ℓ : ℕ} {P : Type} [AddCommGroup P] [Module (ZMod ℓ) P] {C : Ristretto ℓ P}
  {env : Environment} {task : SendTask C}

/-- Whatever fee the endpoint reports: every send pays at most 60000 lamports for its priority, and all
the sends that use up an attempt together at most 6000000. -/
theorem priority_spend_bounded (run : (sending env task).Run) (n : Nat) :
    (∀ e ∈ Sending.log run n, ∃ fee ≤ 60000, ComputeBudget.prioritizationFee e.transaction = some fee) ∧
      (((Sending.log run n).filter Send.counted).map fun e =>
        (ComputeBudget.prioritizationFee e.transaction).getD 0).sum ≤ 6000000 := by
  have hEach : ∀ e ∈ Sending.log run n, ∃ fee ≤ 60000,
      ComputeBudget.prioritizationFee e.transaction = some fee := by
    intro e he
    obtain ⟨i, hi⟩ := List.mem_iff_getElem?.mp he
    obtain ⟨-, -, supply, hSupply⟩ := Sending.sent_attempt run hi
    exact SendTask.fee_of_prepareTransaction hSupply
  refine ⟨hEach, ?_⟩
  have hSum := List.sum_le_card_nsmul (((Sending.log run n).filter Send.counted).map fun e =>
    (ComputeBudget.prioritizationFee e.transaction).getD 0) 60000 ?_
  · rw [List.length_map, smul_eq_mul, ← List.countP_eq_length_filter] at hSum
    have hCount := Sending.counted_le run n
    omega
  · intro fee hFee
    obtain ⟨e, he, rfl⟩ := List.mem_map.mp hFee
    obtain ⟨fee, hLe, hEq⟩ := hEach e (List.mem_of_mem_filter he)
    rw [hEq]
    exact hLe

/-- Between two sends in a row the loop waits for a slot: the first accepted purge costs 2 slots and each
further one doubles them up to 256, refusals in a row cost 1, 2, 4 up to 32 slots, and every answer but
an address error costs at least one. -/
theorem retries_paced (run : (sending env task).Run) {n i : Nat} {a b : Send}
    (ha : (Sending.log run n)[i]? = some a) (hb : (Sending.log run n)[i + 1]? = some b) :
    a.round.attemptSlot ≤ b.round.attemptSlot ∧
      (a.round.answer ≠ .refused (some ANCHOR_CONSTRAINT_ADDRESS_ERROR) → ∃ wait, 1 ≤ wait ∧ wait ≤ 256 ∧
        wait = max (purgeDelay (((Sending.log run n).take (i + 1)).countP (Send.purged task.item)))
          (errorDelay (0 < streak ((Sending.log run n).take (i + 1))) (streak ((Sending.log run n).take (i + 1)) - 1)) ∧
        saturatingAdd64 a.round.attemptSlot.toNat wait ≤ b.round.attemptSlot.toNat) := by
  obtain ⟨k, -, hBefore, -, hTallied, r, tx, -, hAllowed, -, rfl⟩ := Sending.sent_in run hb
  have hLast : (run.state k).log.getLast? = some a := by
    change (Sending.log run k).getLast? = some a
    rw [hBefore, List.take_add_one, ha, Option.toList_some, List.getLast?_concat]
  have hTarget := hTallied.waiting a hLast
  have hReached : (run.state k).target ≤ r.attemptSlot.toNat := hAllowed.2.1
  rw [hTarget] at hReached
  change _ ≤ r.attemptSlot ∧ _
  have hBound := waitAfter_bounds task.item (run.state k).log
  have hSlot := a.round.attemptSlot.toNat_lt
  cases hAnswer : a.round.answer.addressError with
  | true =>
    have hUncounted : a.counted = false := congrArg (! ·) hAnswer
    rw [hUncounted, if_neg Bool.false_ne_true] at hReached
    exact ⟨UInt64.le_iff_toNat_le.mpr hReached, fun hOther => absurd (of_decide_eq_true hAnswer) hOther⟩
  | false =>
    have hCounted : a.counted = true := congrArg (! ·) hAnswer
    rw [if_pos hCounted] at hReached
    refine ⟨UInt64.le_iff_toNat_le.mpr (Nat.le_trans ?_ hReached), fun _ =>
      ⟨waitAfter task.item (run.state k).log, hBound.1, hBound.2, ?_, hReached⟩⟩
    · unfold saturatingAdd64 u64Limit
      omega
    · rw [← hBefore]
      rfl

end

/-- After the first accepted purge the second one waits for two slots. -/
theorem retries_paced_purge : ∃ a b, (Sending.log Sample.retrying 6)[3]? = some a ∧
    (Sending.log Sample.retrying 6)[4]? = some b ∧ a.round.answer = .accepted ∧ ∃ wait, 1 ≤ wait ∧ wait ≤ 256 ∧
      saturatingAdd64 a.round.attemptSlot.toNat wait ≤ b.round.attemptSlot.toNat := by
  obtain ⟨a, ha⟩ := Sample.retrying_sends 3 (by decide)
  obtain ⟨b, hb⟩ := Sample.retrying_sends 4 (by decide)
  have hAnswer : ((Sending.log Sample.retrying 6)[3]?).map (fun e => e.round.answer) = some .accepted := by
    decide +kernel
  rw [ha] at hAnswer
  have hAccepted : a.round.answer = .accepted := Option.some.inj hAnswer
  obtain ⟨-, hPaced⟩ := retries_paced Sample.retrying ha hb
  obtain ⟨wait, hLow, hHigh, -, hSlot⟩ := hPaced (by rw [hAccepted]; exact Answer.noConfusion)
  exact ⟨a, b, ha, hb, hAccepted, wait, hLow, hHigh, hSlot⟩

section

variable {ℓ : ℕ} {P : Type} [AddCommGroup P] [Module (ZMod ℓ) P] {C : Ristretto ℓ P}
  {env : Environment} {task : SendTask C}

/-- Only the first attempt can go out before its first valid slot, and preflight is skipped only in the
first attempt and in the one right after an early send. -/
theorem early_only_first (run : (sending env task).Run) {n i : Nat} {e : Send}
    (he : (Sending.log run n)[i]? = some e) :
    (sentEarly task e.round = true → e.attempt = 0) ∧
      (e.skipPreflight = true → task.skipPreflight = true ∧ (e.attempt = 0 ∨
        e.attempt = 1 ∧ ∃ a, (Sending.log run n)[i - 1]? = some a ∧ sentEarly task a.round = true)) := by
  obtain ⟨k, -, hBefore, -, hTallied, r, tx, -, hAllowed, -, rfl⟩ := Sending.sent_in run he
  refine ⟨fun hEarly => attempts_eq_zero_of_early hAllowed hEarly, fun hSkip => ?_⟩
  obtain ⟨hOption, hReason⟩ := Bool.and_eq_true_iff.mp hSkip
  refine ⟨hOption, ?_⟩
  obtain hFirst | hPending := Bool.or_eq_true_iff.mp hReason
  · exact Or.inl (beq_iff_eq.mp hFirst)
  · obtain ⟨hAttempts, a, hLast, hEarly⟩ := hTallied.pending hPending
    obtain hZero | hOne := Nat.le_one_iff_eq_zero_or_eq_one.mp hAttempts
    · exact Or.inl hZero
    · refine Or.inr ⟨hOne, a, ?_, hEarly⟩
      change (Sending.log run k).getLast? = some a at hLast
      obtain ⟨hi, -⟩ := List.getElem?_eq_some_iff.mp he
      rw [hBefore, List.getLast?_eq_getElem?, List.length_take, Nat.min_eq_left hi.le] at hLast
      by_cases hPositive : i = 0
      · subst hPositive
        cases hLast
      · rwa [List.getElem?_take_of_lt (by omega)] at hLast

end

/-- The send after the early one skips preflight too. -/
theorem early_only_first_then_legal : ∃ a e, (Sending.log Sample.retrying 6)[0]? = some a ∧
    (Sending.log Sample.retrying 6)[1]? = some e ∧ sentEarly Sample.sendTask a.round = true ∧ a.attempt = 0 ∧
    e.skipPreflight = true ∧ Sample.sendTask.skipPreflight = true := by
  obtain ⟨a, ha⟩ := Sample.retrying_sends 0 (by decide)
  obtain ⟨e, he⟩ := Sample.retrying_sends 1 (by decide)
  have hEarly : ((Sending.log Sample.retrying 6)[0]?).map (fun e => sentEarly Sample.sendTask e.round) = some true := by
    decide +kernel
  have hSkip : ((Sending.log Sample.retrying 6)[1]?).map Send.skipPreflight = some true := by decide +kernel
  rw [ha] at hEarly
  rw [he] at hSkip
  have hEarly := Option.some.inj hEarly
  have hSkip := Option.some.inj hSkip
  obtain ⟨hFirst, -⟩ := early_only_first Sample.retrying ha
  obtain ⟨-, hOption⟩ := early_only_first Sample.retrying he
  exact ⟨a, e, ha, he, hEarly, hFirst hEarly, hSkip, (hOption hSkip).1⟩

end SolanaVrf
