import SolanaVrf.Service.Sending

/-! # The send loop past the time to live

Under a host clock that does not run backwards, a task goes from fulfilments to purges once and
for good. The sleep after an address error may end too early, so that the same fulfilment is
refused again; how often is bounded by the seconds that are missing.
-/

namespace SolanaVrf
set_option autoImplicit false

open Pod Transition Sender

/-! ## Readings that a stamp can place -/

/-- A time at most a minute before the stamp of `created` and within the three days that stamps tell apart. -/
structure Placed (created : Int64) (t : Int) : Prop where
  nonneg : 0 ≤ t
  after : created.toInt / 4 - 15 ≤ t / 4
  before : t / 4 < created.toInt / 4 + 65521

/-- Seconds since the unit of the stamp began. -/
def sinceStamp (created : Int64) (t : Int) : Int := t - 4 * (created.toInt / 4)

section

variable {created now later : Int64} {item : QueueItem}

theorem hostAgeSecs_of_placed (hStamp : item.createdAt = QueueItem.createdAtFrom created)
    (hCreated : 0 ≤ created.toInt) (hPlaced : Placed created now.toInt) :
    (hostAgeSecs now item : Int) = max 0 (4 * (now.toInt / 4 - created.toInt / 4)) := by
  obtain ⟨hNow, hAfter, hBefore⟩ := hPlaced
  have hDistance := distance_eq hStamp hCreated hNow
  rw [hostAgeSecs_eq]
  split <;> omega

theorem expired_iff_sinceStamp (hStamp : item.createdAt = QueueItem.createdAtFrom created)
    (hCreated : 0 ≤ created.toInt) (hPlaced : Placed created now.toInt) :
    hostAgeSecs now item > QUEUE_TTL_SECONDS ↔ 124 ≤ sinceStamp created now.toInt := by
  have hAge := hostAgeSecs_of_placed hStamp hCreated hPlaced
  unfold sinceStamp QUEUE_TTL_SECONDS
  omega

/-- How many fulfilments an address error can still turn down from a time on: one before the stamp's
unit, one up to the age of 120 seconds, and one for each of the last three seconds of that age. -/
def sleepsLeft (created : Int64) (t : Int) : Nat :=
  if sinceStamp created t < 0 then 5
  else if sinceStamp created t < 121 then 4
  else (124 - sinceStamp created t).toNat

theorem sleepsLeft_antitone (created : Int64) {t t' : Int} (h : t ≤ t') : sleepsLeft created t' ≤ sleepsLeft created t := by
  have hLater : sinceStamp created t ≤ sinceStamp created t' := Int.sub_le_sub_right h _
  unfold sleepsLeft
  split <;> split <;> (try split) <;> (try split) <;> omega

theorem sleepsLeft_pos {t : Int} (h : sinceStamp created t < 124) : 1 ≤ sleepsLeft created t := by
  unfold sleepsLeft
  split <;> (try split) <;> omega

/-- A sleep that begins before expiry uses up one of them. -/
theorem sleepsLeft_sleep (hStamp : item.createdAt = QueueItem.createdAtFrom created) (hCreated : 0 ≤ created.toInt)
    (hPlaced : Placed created later.toInt) (hOrder : now.toInt ≤ later.toInt)
    (hFresh : sinceStamp created now.toInt < 124) :
    sleepsLeft created (later.toInt + untilExpiry later item) + 1 ≤ sleepsLeft created now.toInt := by
  have hAge := hostAgeSecs_of_placed hStamp hCreated hPlaced
  have hWake : sinceStamp created later.toInt < 0 → 61 ≤ sinceStamp created (later.toInt + untilExpiry later item) := by
    have hAfter := hPlaced.after
    unfold sinceStamp untilExpiry QUEUE_TTL_SECONDS
    omega
  have hWake' : 0 ≤ sinceStamp created later.toInt →
      121 ≤ sinceStamp created (later.toInt + untilExpiry later item) ∧
        sinceStamp created later.toInt < sinceStamp created (later.toInt + untilExpiry later item) := by
    unfold sinceStamp untilExpiry QUEUE_TTL_SECONDS
    omega
  have hLater : sinceStamp created now.toInt ≤ sinceStamp created later.toInt := Int.sub_le_sub_right hOrder _
  unfold sleepsLeft
  generalize sinceStamp created now.toInt = x at *
  generalize sinceStamp created later.toInt = y at *
  generalize sinceStamp created (later.toInt + untilExpiry later item) = z at *
  split <;> split <;> (try split) <;> (try split) <;> omega

end

/-! ## Rounds under a clock that does not run backwards -/

section

variable {ℓ : ℕ} {P : Type} [AddCommGroup P] [Module (ZMod ℓ) P] {C : Ristretto ℓ P}
  {env : Environment} {task : SendTask C} {created : Int64} {s : Sender} {r : Round} {tx : Transaction}

/-- The readings of a round come in the order in which the loop takes them, after the loop woke up, and
each lies where the stamp can place it. -/
structure Sender.Round.Steady (created : Int64) (wakeAt : Int) (r : Round) : Prop where
  woken : wakeAt ≤ r.now.toInt
  supplied : r.now.toInt ≤ r.supply.now.toInt
  answered : r.supply.now.toInt ≤ r.later.toInt
  resupplied : r.supply.now.toInt ≤ r.resupply.now.toInt
  now_placed : Placed created r.now.toInt
  supply_placed : Placed created r.supply.now.toInt
  later_placed : Placed created r.later.toInt
  resupply_placed : Placed created r.resupply.now.toInt

/-- The request's stamp is that of `created`, and every reading of the run comes in order and lies between a
minute before that stamp and three days after it. -/
structure Sending.Clocked (created : Int64) (run : (sending env task).Run) : Prop where
  stamp : task.item.createdAt = QueueItem.createdAtFrom created
  nonneg : 0 ≤ created.toInt
  begun : Placed created run.start.wakeAt
  rounds : ∀ n r, run.event n = .round r → r.Steady created (run.state n).wakeAt

namespace Sender

/-- An address error in a round that found the request fresh. -/
def Send.turnedDown (item : QueueItem) (e : Send) : Bool := e.round.answer.addressError && !e.round.expired item

/-- What the readings say about a state: whose prepared transaction was made in the past, and whose sleeps
are still to come. -/
structure Timed (env : Environment) (task : SendTask C) (created : Int64) (s : Sender) : Prop where
  prepared : ∀ tx, s.preparedTransaction = some tx → ∃ supply, task.prepareTransaction env supply s.attempts = some tx ∧
    supply.now.toInt ≤ s.wakeAt ∧ Placed created supply.now.toInt
  slept : s.log.countP (Send.turnedDown task.item) + sleepsLeft created s.wakeAt ≤ 5
  passed : ∀ e ∈ s.log, e.round.now.toInt ≤ s.wakeAt

/-- The log's part of one send, which may use up a sleep. -/
theorem Timed.record (h : Timed env task created s) (hSteady : r.Steady created s.wakeAt) {wakeAt : Int}
    (hWake : r.now.toInt ≤ wakeAt)
    (hSlept : sleepsLeft created wakeAt + (if (s.send task r tx).turnedDown task.item = true then 1 else 0) ≤
      sleepsLeft created s.wakeAt) :
    (s.record task r tx).log.countP (Send.turnedDown task.item) + sleepsLeft created wakeAt ≤ 5 ∧
      ∀ e ∈ (s.record task r tx).log, e.round.now.toInt ≤ wakeAt := by
  constructor
  · change (s.log ++ [s.send task r tx]).countP (Send.turnedDown task.item) + _ ≤ 5
    rw [List.countP_append, List.countP_singleton]
    have hBefore := h.slept
    omega
  · intro e he
    obtain hOld | hNew := List.mem_append.mp he
    · exact (h.passed e hOld).trans (hSteady.woken.trans hWake)
    · obtain rfl := List.mem_singleton.mp hNew
      exact hWake

theorem expired_iff_of_steady {wakeAt : Int} (hStamp : task.item.createdAt = QueueItem.createdAtFrom created)
    (hCreated : 0 ≤ created.toInt) (hSteady : r.Steady created wakeAt) :
    r.expired task.item = true ↔ 124 ≤ sinceStamp created r.now.toInt :=
  decide_eq_true_iff.trans (expired_iff_sinceStamp hStamp hCreated hSteady.now_placed)

theorem sinceStamp_lt_of_turnedDown {e : Send} {wakeAt : Int}
    (hStamp : task.item.createdAt = QueueItem.createdAtFrom created) (hCreated : 0 ≤ created.toInt)
    (hSteady : e.round.Steady created wakeAt) (hDown : e.turnedDown task.item = true) :
    sinceStamp created e.round.now.toInt < 124 := by
  by_contra hLate
  have hExpired := (expired_iff_of_steady hStamp hCreated hSteady).mpr (not_lt.mp hLate)
  rw [Send.turnedDown, hExpired, Bool.not_true, Bool.and_false] at hDown
  cases hDown

theorem Timed.sleep (h : Timed env task created s) (hStamp : task.item.createdAt = QueueItem.createdAtFrom created)
    (hCreated : 0 ≤ created.toInt) (hSteady : r.Steady created s.wakeAt) :
    Timed env task created ((s.record task r tx).sleep task r) := by
  have hOrder : r.now.toInt ≤ r.later.toInt := hSteady.supplied.trans hSteady.answered
  have hUsed : sleepsLeft created (r.later.toInt + untilExpiry r.later task.item) +
      (if (s.send task r tx).turnedDown task.item = true then 1 else 0) ≤ sleepsLeft created s.wakeAt := by
    have hWoken := sleepsLeft_antitone created hSteady.woken
    split
    · rename_i hDown
      have hFresh := @sinceStamp_lt_of_turnedDown _ _ _ _ _ task created _ _ hStamp hCreated hSteady hDown
      exact (sleepsLeft_sleep hStamp hCreated hSteady.later_placed hOrder hFresh).trans hWoken
    · exact (sleepsLeft_antitone created (by omega)).trans hWoken
  obtain ⟨hSlept, hPassed⟩ := h.record hSteady (by omega) hUsed
  refine ⟨?_, hSlept, hPassed⟩
  rintro _ ⟨⟩

theorem Timed.retry (h : Timed env task created s) (hSteady : r.Steady created s.wakeAt)
    (hAnswer : r.answer.addressError = false) :
    Timed env task created ((s.record task r tx).retry env task r) := by
  have hWakes : r.now.toInt ≤ if sentEarly task r = true then r.resupply.now.toInt else r.now.toInt := by
    split
    · exact hSteady.supplied.trans hSteady.resupplied
    · exact le_refl _
  have hKept : (s.send task r tx).turnedDown task.item = false := by
    change (r.answer.addressError && _) = false
    rw [hAnswer, Bool.false_and]
  have hUsed : sleepsLeft created (if sentEarly task r = true then r.resupply.now.toInt else r.now.toInt) +
      (if (s.send task r tx).turnedDown task.item = true then 1 else 0) ≤ sleepsLeft created s.wakeAt := by
    rw [hKept, if_neg Bool.false_ne_true, Nat.add_zero]
    exact sleepsLeft_antitone created (hSteady.woken.trans hWakes)
  obtain ⟨hSlept, hPassed⟩ := h.record hSteady hWakes hUsed
  refine ⟨?_, hSlept, hPassed⟩
  intro tx' hPrepared
  change (if sentEarly task r = true then _ else none) = some tx' at hPrepared
  split at hPrepared
  · rename_i hEarly
    refine ⟨r.resupply, hPrepared, ?_, hSteady.resupply_placed⟩
    change _ ≤ if sentEarly task r = true then r.resupply.now.toInt else r.now.toInt
    rw [if_pos hEarly]
  · cases hPrepared

/-- A fresh round sends what the program's instruction is at one of its readings; an expired one a purge. -/
theorem Timed.instruction (h : Timed env task created s) (hStamp : task.item.createdAt = QueueItem.createdAtFrom created)
    (hCreated : 0 ≤ created.toInt) (hSteady : r.Steady created s.wakeAt) (hTx : s.transaction env task r = some tx) :
    (tx.instructions[1]? = task.instruction env r.now ∨ tx.instructions[1]? = task.instruction env r.supply.now) ∧
      (r.expired task.item = true →
        tx.instructions[1]? = some (Sdk.purgeExpiredRequests env task.client.pubkey task.queueMeta.index)) := by
  have hExpired := expired_iff_of_steady hStamp hCreated hSteady
  have hSupply (hPrepared : task.prepareTransaction env r.supply s.attempts = some tx) :
      tx.instructions[1]? = task.instruction env r.supply.now := SendTask.instruction_of_prepareTransaction hPrepared
  unfold Sender.transaction at hTx
  split at hTx
  · rename_i hPrepared hFresh
    cases hTx
    refine ⟨Or.inl ?_, fun hOld => ?_⟩
    · obtain ⟨supply, hMade, hBefore, hPlaced⟩ := h.prepared _ hPrepared
      have hEarlier : sinceStamp created supply.now.toInt ≤ sinceStamp created r.now.toInt :=
        Int.sub_le_sub_right (hBefore.trans hSteady.woken) _
      have hNow : ¬ 124 ≤ sinceStamp created r.now.toInt := fun hLate => by
        rw [hExpired.mpr hLate] at hFresh
        cases hFresh
      have hThen : ¬ hostAgeSecs supply.now task.item > QUEUE_TTL_SECONDS := by
        rw [expired_iff_sinceStamp hStamp hCreated hPlaced]
        omega
      have hStill : ¬ hostAgeSecs r.now task.item > QUEUE_TTL_SECONDS := by
        rw [expired_iff_sinceStamp hStamp hCreated hSteady.now_placed]
        exact hNow
      rw [SendTask.instruction_of_prepareTransaction hMade]
      exact prepareInstruction_of_fresh env task.client _ _ _ _ _ (Nat.not_lt.mp hStill) (Nat.not_lt.mp hThen)
    · rw [hOld] at hFresh
      cases hFresh
  · refine ⟨Or.inr (hSupply hTx), fun hOld => ?_⟩
    have hLater : sinceStamp created r.now.toInt ≤ sinceStamp created r.supply.now.toInt :=
      Int.sub_le_sub_right hSteady.supplied _
    have hPast : hostAgeSecs r.supply.now task.item > QUEUE_TTL_SECONDS :=
      (expired_iff_sinceStamp hStamp hCreated hSteady.supply_placed).mpr ((hExpired.mp hOld).trans hLater)
    rw [hSupply hTx, SendTask.instruction, prepareInstruction, if_pos hPast]

end Sender

namespace Sending

variable {run : (sending env task).Run}

theorem Clocked.timed (h : Clocked created run) (n : Nat) :
    (run.state n).running = true → Timed env task created (run.state n) := by
  induction n with
  | zero =>
    intro _
    obtain ⟨supply, prepared, hPrepared, hStart⟩ := run.initial
    have hBegun := h.begun
    change Timed env task created run.start
    rw [hStart] at hBegun ⊢
    refine ⟨?_, ?_, ?_⟩
    · rintro _ ⟨⟩
      exact ⟨supply, hPrepared, le_refl _, hBegun⟩
    · change 0 + sleepsLeft created _ ≤ 5
      unfold sleepsLeft
      split <;> (try split) <;> omega
    · intro e he
      cases he
  | succ n ih =>
    obtain hNext | ⟨r, tx, hEvent, hRound, -, hNext | ⟨-, hNext⟩ | ⟨hAnswer, hNext⟩⟩ := step_cases run n
    · rw [hNext]
      rintro ⟨⟩
    · rw [hNext]
      rintro ⟨⟩
    · rw [hNext]
      exact fun _ => (ih hRound.1).sleep h.stamp h.nonneg (h.rounds n r hEvent)
    · rw [hNext]
      exact fun _ => (ih hRound.1).retry (h.rounds n r hEvent) hAnswer

/-- Every send was made in a timed state, by a round whose readings come in order. -/
theorem Clocked.sent_in (h : Clocked created run) {n i : Nat} {e : Send} (he : (log run n)[i]? = some e) :
    ∃ k, log run k = (log run n).take i ∧ Timed env task created (run.state k) ∧
      e.round.Steady created (run.state k).wakeAt ∧
      (run.state k).transaction env task e.round = some e.transaction := by
  obtain ⟨k, -, hBefore, -, -, r, tx, hEvent, hAllowed, hTx, rfl⟩ := Sending.sent_in run he
  exact ⟨k, hBefore, h.timed k hAllowed.1, h.rounds k r hEvent, hTx⟩

theorem Clocked.now_le (h : Clocked created run) {n i j : Nat} {a b : Send} (hOrder : i < j)
    (ha : (log run n)[i]? = some a) (hb : (log run n)[j]? = some b) : a.round.now.toInt ≤ b.round.now.toInt := by
  obtain ⟨k, hBefore, hTimed, hSteady, -⟩ := h.sent_in hb
  have hMem : a ∈ (run.state k).log := by
    change a ∈ log run k
    rw [hBefore]
    exact List.mem_of_getElem? ((List.getElem?_take_of_lt hOrder).trans ha)
  exact (hTimed.passed a hMem).trans hSteady.woken

end Sending

/-- Under a clock that does not run backwards and reads from a minute before the stamp to three days after
it, every send carries the program's instruction as of one of its round's own readings, and from the first
round that finds the request expired on every send is a purge. -/
theorem sends_follow_expiry (run : (sending env task).Run) (hClocked : Sending.Clocked created run) {n i : Nat} {e : Send}
    (he : (Sending.log run n)[i]? = some e) :
    (e.transaction.instructions[1]? = task.instruction env e.round.now ∨
        e.transaction.instructions[1]? = task.instruction env e.round.supply.now) ∧
      (hostAgeSecs e.round.now task.item > QUEUE_TTL_SECONDS → ∀ j e', i ≤ j → (Sending.log run n)[j]? = some e' →
        e'.transaction.instructions[1]? =
          some (Sdk.purgeExpiredRequests env task.client.pubkey task.queueMeta.index)) := by
  obtain ⟨k, -, hTimed, hSteady, hTx⟩ := hClocked.sent_in he
  obtain ⟨hReading, -⟩ := hTimed.instruction hClocked.stamp hClocked.nonneg hSteady hTx
  refine ⟨hReading, fun hOld j e' hOrder he' => ?_⟩
  obtain ⟨k', -, hTimed', hSteady', hTx'⟩ := hClocked.sent_in he'
  obtain ⟨-, hPurge⟩ := hTimed'.instruction hClocked.stamp hClocked.nonneg hSteady' hTx'
  have hLater : e.round.now.toInt ≤ e'.round.now.toInt := by
    obtain rfl | hLt := hOrder.eq_or_lt
    · rw [Option.some.inj (he.symm.trans he')]
    · exact hClocked.now_le hLt he he'
  have hPast := (expired_iff_sinceStamp hClocked.stamp hClocked.nonneg hSteady.now_placed).mp hOld
  refine hPurge ((expired_iff_of_steady hClocked.stamp hClocked.nonneg hSteady').mpr (hPast.trans ?_))
  exact Int.sub_le_sub_right hLater _

end

namespace Sample

theorem steady_roundAt {attemptSlot : UInt64} {now : Int64} {answer : Answer} {wakeAt : Int} {r : Round}
    (hEvent : roundAt attemptSlot now answer = .round r) (hWoken : wakeAt ≤ now.toInt)
    (hAfter : 1699999944 ≤ now.toInt) (hBefore : now.toInt < 1700262084) : r.Steady 1700000000 wakeAt := by
  cases hEvent
  have hPlaced : Placed 1700000000 now.toInt := by
    have hUnit : Int64.toInt 1700000000 / 4 = 425000000 := by decide
    constructor <;> omega
  exact ⟨hWoken, le_refl _, le_refl _, le_refl _, hPlaced, hPlaced, hPlaced, hPlaced⟩

theorem retrying_steady : ∀ n r, retrying.event n = .round r → r.Steady 1700000000 (retrying.state n).wakeAt
  | 0, _, h => steady_roundAt h (by decide +kernel) (by decide) (by decide)
  | 1, _, h => steady_roundAt h (by decide +kernel) (by decide) (by decide)
  | 2, _, h => steady_roundAt h (by decide +kernel) (by decide) (by decide)
  | 3, _, h => steady_roundAt h (by decide +kernel) (by decide) (by decide)
  | 4, _, h => steady_roundAt h (by decide +kernel) (by decide) (by decide)
  | n + 5, r, h => by
    have hAbort : retrying.event (n + 5) = .abort := by
      cases n <;> rfl
    cases hAbort.symm.trans h

theorem retrying_clocked : Sending.Clocked 1700000000 retrying where
  stamp := by decide +kernel
  nonneg := by decide
  begun := by constructor <;> decide
  rounds := retrying_steady

theorem retrying_expired : ∃ e, (Sending.log retrying 6)[3]? = some e ∧
    hostAgeSecs e.round.now sendTask.item > QUEUE_TTL_SECONDS := by
  obtain ⟨e, he⟩ := retrying_sends 3 (by decide)
  have hNow : ((Sending.log retrying 6)[3]?).map (fun e => e.round.now) = some 1700000124 := by decide +kernel
  rw [he] at hNow
  refine ⟨e, he, ?_⟩
  rw [show e.round.now = 1700000124 from Option.some.inj hNow]
  decide +kernel

end Sample

/-- The third send finds the request expired, and so do all after it. -/
theorem sends_follow_expiry_purges : ∃ e e', (Sending.log Sample.retrying 6)[3]? = some e ∧
    (Sending.log Sample.retrying 6)[4]? = some e' ∧
    e'.transaction.instructions[1]? =
      some (Sdk.purgeExpiredRequests Sample.curveRuntime.toEnvironment Sample.client.pubkey 0) := by
  obtain ⟨e, he, hOld⟩ := Sample.retrying_expired
  obtain ⟨e', he'⟩ := Sample.retrying_sends 4 (by decide)
  obtain ⟨-, hPurges⟩ := sends_follow_expiry Sample.retrying Sample.retrying_clocked he
  exact ⟨e, e', he, he', hPurges hOld 4 e' (by decide) he'⟩

section

variable {ℓ : ℕ} {P : Type} [AddCommGroup P] [Module (ZMod ℓ) P] {C : Ristretto ℓ P}
  {env : Environment} {task : SendTask C} {created : Int64}

/-- Under such a clock the sleep after an address error ends too early at most four times: no more than five
fulfilments of a task are refused with that error, although they do not count as attempts. -/
theorem refused_fulfilments_bounded (run : (sending env task).Run) (hClocked : Sending.Clocked created run) (n : Nat) :
    (Sending.log run n).countP (fun e => e.round.answer = .refused (some ANCHOR_CONSTRAINT_ADDRESS_ERROR) ∧
      hostAgeSecs e.round.now task.item ≤ QUEUE_TTL_SECONDS) ≤ 5 := by
  have hSame : (fun e : Send => decide (e.round.answer = .refused (some ANCHOR_CONSTRAINT_ADDRESS_ERROR) ∧
      hostAgeSecs e.round.now task.item ≤ QUEUE_TTL_SECONDS)) = Send.turnedDown task.item := by
    funext e
    rw [Bool.decide_and, Send.turnedDown, Answer.addressError, Round.expired, ← decide_not]
    simp only [gt_iff_lt, not_lt]
  rw [hSame]
  obtain hEmpty | ⟨before, last, hLog, hLast⟩ := Sending.log_cases run n
  · rw [hEmpty]
    exact Nat.zero_le 5
  · obtain ⟨k, hBefore, hTimed, hSteady, -⟩ := hClocked.sent_in hLast
    have hSlept := hTimed.slept
    change (Sending.log run k).countP _ + _ ≤ 5 at hSlept
    rw [hBefore, hLog, List.take_left' rfl] at hSlept
    rw [hLog, List.countP_append, List.countP_singleton]
    split
    · rename_i hDown
      have hFresh := sinceStamp_lt_of_turnedDown hClocked.stamp hClocked.nonneg hSteady hDown
      have hLeft := (sleepsLeft_pos hFresh).trans (sleepsLeft_antitone created hSteady.woken)
      omega
    · omega

end

/-- Two of the sample's sends are refused before expiry. -/
theorem refused_fulfilments_bounded_sample :
    (Sending.log Sample.retrying 6).countP (fun e => e.round.answer = .refused (some ANCHOR_CONSTRAINT_ADDRESS_ERROR) ∧
      hostAgeSecs e.round.now Sample.sendTask.item ≤ QUEUE_TTL_SECONDS) = 2 ∧
    (Sending.log Sample.retrying 6).countP (fun e => e.round.answer = .refused (some ANCHOR_CONSTRAINT_ADDRESS_ERROR) ∧
      hostAgeSecs e.round.now Sample.sendTask.item ≤ QUEUE_TTL_SECONDS) ≤ 5 :=
  ⟨by decide +kernel, refused_fulfilments_bounded Sample.retrying Sample.retrying_clocked 6⟩

end SolanaVrf
