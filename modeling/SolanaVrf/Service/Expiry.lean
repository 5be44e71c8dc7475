import SolanaVrf.Service.Fulfilment
import SolanaVrf.Chain.Expiry

/-! # Expiry as the service sees it

The service decides by its own clock when to replace a fulfilment by a purge, with the
program's rule and one exception: a stamp slightly in the future has age zero. After an
error of the callback that will not go away it sleeps until, by its reckoning, the request
has expired.
-/

namespace SolanaVrf
set_option autoImplicit false

open Pod Fallible QueueItem

/-! ## Two readings of one stamp -/

/-- The distance of the stamps decides the age; the last 15 distances are those of the future. -/
theorem hostAgeSecs_eq (now : Int64) (item : QueueItem) :
    hostAgeSecs now item = if (createdAtFrom now - item.createdAt).toNat = 0 ∨
      65521 ≤ (createdAtFrom now - item.createdAt).toNat then 0 else 4 * (createdAtFrom now - item.createdAt).toNat := by
  have hNow := (createdAtFrom now).toNat_lt
  have hStamp := item.createdAt.toNat_lt
  have hSkew : item.createdAt - createdAtFrom now ≤ CLOCK_SKEW_UNITS ↔
      (createdAtFrom now - item.createdAt).toNat = 0 ∨ 65521 ≤ (createdAtFrom now - item.createdAt).toNat := by
    rw [UInt16.le_iff_toNat_le, UInt16.toNat_sub, UInt16.toNat_sub]
    change _ ≤ 15 ↔ _
    omega
  rw [hostAgeSecs, ageSecs_eq]
  exact if_congr hSkew rfl rfl

/-- A stamp is read as one of the future up to 15 units ahead. -/
example : hostAgeSecs 1699999940 Sample.item = 0 ∧ hostAgeSecs 1699999936 Sample.item = 262080 := by decide +kernel

theorem distance_eq {created now : Int64} {item : QueueItem} (hStamp : item.createdAt = createdAtFrom created)
    (hCreated : 0 ≤ created.toInt) (hNow : 0 ≤ now.toInt) :
    ((createdAtFrom now - item.createdAt).toNat : Int) = (now.toInt / 4 - created.toInt / 4) % 65536 := by
  have hAge := ageSecs_of_stamp hStamp hCreated hNow
  rw [ageSecs_eq] at hAge
  omega

theorem distance_later {now later : Int64} {item : QueueItem} {secs : Nat} (hNow : 0 ≤ now.toInt)
    (hLater : later.toInt = now.toInt + secs) :
    ((createdAtFrom later - item.createdAt).toNat : Int) =
      ((createdAtFrom now - item.createdAt).toNat + ((now.toInt + secs) / 4 - now.toInt / 4)) % 65536 := by
  have hFrom := createdAtFrom_toNat hNow
  have hTo := createdAtFrom_toNat (t := later) (by omega)
  have hStamp := item.createdAt.toNat_lt
  rw [UInt16.toNat_sub, UInt16.toNat_sub]
  omega

section

variable {c t h : Int64} {item : QueueItem}

/-- A host that trails the cluster by at most a minute reads no age above the program's, whatever the stamp:
the ages that the minute would carry past the end of the clock read as zero. -/
theorem hostAgeSecs_le (hHost : 0 ≤ h.toInt) (hTrails : h.toInt ≤ t.toInt) (hSkew : t.toInt - 60 ≤ h.toInt) :
    hostAgeSecs h item ≤ item.ageSecs (createdAtFrom t) := by
  have hMoved := @distance_later h t item (t.toInt - h.toInt).toNat hHost (by omega)
  rw [hostAgeSecs_eq, ageSecs_eq]
  split <;> omega

theorem hostAgeSecs_bounds (hStamp : item.createdAt = createdAtFrom c) (hCreated : 0 ≤ c.toInt)
    (hLater : c.toInt ≤ t.toInt) (hHost : 0 ≤ h.toInt) (hTrails : h.toInt ≤ t.toInt)
    (hSkew : t.toInt - 60 ≤ h.toInt) (hRecent : t.toInt - c.toInt < 262080) :
    hostAgeSecs h item ≤ item.ageSecs (createdAtFrom t) ∧
      item.ageSecs (createdAtFrom t) ≤ hostAgeSecs h item + 60 ∧
      (h = t → hostAgeSecs h item = item.ageSecs (createdAtFrom t)) := by
  have hHostDistance := distance_eq hStamp hCreated hHost
  have hDistance := distance_eq hStamp hCreated (hHost.trans hTrails)
  refine ⟨hostAgeSecs_le hHost hTrails hSkew, ?_⟩
  rw [hostAgeSecs_eq, ageSecs_eq]
  constructor
  · split <;> omega
  · rintro rfl
    split <;> omega

end

/-! ## Agreement -/

section

variable {ℓ : ℕ} {P : Type} [AddCommGroup P] [Module (ZMod ℓ) P] {C : Ristretto ℓ P}

/-- A host that trails the cluster by at most a minute reads an age that is not above the program's
and at most a minute below it; where it builds a purge instead of a fulfilment, the program's purge
removes the request. -/
theorem oracle_and_program_agree_on_expiry {c t h : Int64} {item : QueueItem}
    (hStamp : item.createdAt = createdAtFrom c) (hCreated : 0 ≤ c.toInt) (hLater : c.toInt ≤ t.toInt)
    (hHost : 0 ≤ h.toInt) (hTrails : h.toInt ≤ t.toInt) (hSkew : t.toInt - 60 ≤ h.toInt)
    (hRecent : t.toInt - c.toInt < 262080) :
    hostAgeSecs h item ≤ item.ageSecs (createdAtFrom t) ∧
      item.ageSecs (createdAtFrom t) ≤ hostAgeSecs h item + 60 ∧
      (hostAgeSecs h item > QUEUE_TTL_SECONDS →
        (∀ (env : Environment) (client : OracleClient C) (vrfInput : Bytes 32) (preparedVrf : PreparedVrf)
          (queue : Pubkey) (queueMeta : Queue) (accountBytes : List UInt8),
          prepareInstruction env client h item vrfInput preparedVrf queue queueMeta accountBytes =
            some (Sdk.purgeExpiredRequests env client.pubkey queueMeta.index)) ∧
        ∀ (rt : Runtime) (slot : UInt64) (accounts : List AccountInfo) (data : List UInt8) (l l' : Ledger)
          (k oracle : Pubkey) (paid : Nat) (L : List Record), Pending (l k) L →
          processPurgeExpiredRequests rt ⟨slot, t⟩ accounts data l = .ok (l', .purged k oracle paid) →
          ∃ L', Lists (l' k) L' ∧ ∀ r ∈ L', r.item ≠ item) ∧
      (h = t → hostAgeSecs h item = item.ageSecs (createdAtFrom t)) := by
  obtain ⟨hLe, hWithin, hSame⟩ := hostAgeSecs_bounds hStamp hCreated hLater hHost hTrails hSkew hRecent
  refine ⟨hLe, hWithin, fun hOld => ⟨fun env client vrfInput preparedVrf queue queueMeta accountBytes => ?_, ?_⟩, hSame⟩
  · rw [prepareInstruction, if_pos hOld]
  · intro rt slot accounts data l l' k oracle paid L hPending hPurge
    obtain ⟨_, _, _, hReceipt, hPurged⟩ := processPurgeExpiredRequests_effect hPurge
    cases hReceipt
    obtain ⟨hPending', -, -⟩ := hPurged.pending L hPending
    refine ⟨_, hPending'.lists, ?_⟩
    rintro r hr rfl
    have hKept := (List.mem_filter.mp hr).2
    have hExpired : expired (createdAtFrom t) r.item = true := decide_eq_true (Nat.lt_of_lt_of_le hOld hLe)
    rw [hExpired] at hKept
    cases hKept

end

/-- A host 50 seconds behind purges a request of 200 seconds. -/
theorem oracle_and_program_agree_on_expiry_sample :
    itemsOf (Sample.requesting.ledger 4 Sample.queueKey).data = some [Sample.item] ∧
    prepareInstruction Sample.curveRuntime.toEnvironment Sample.client 1700000150 Sample.item Sample.requestId
      Sample.vrf Sample.queueKey Sample.header (Sample.requesting.ledger 4 Sample.queueKey).data =
      some (Sdk.purgeExpiredRequests Sample.curveRuntime.toEnvironment Sample.client.pubkey 0) ∧
    ∃ (l' : Ledger) (L : List Record), processPurgeExpiredRequests Sample.curveRuntime ⟨600, 1700000200⟩
        [Sample.writable Sample.oracle, Sample.writable Sample.queueKey] (queueIndexLayout.encode 0)
        (Sample.requesting.ledger 4) = .ok (l', .purged Sample.queueKey Sample.oracle 500000) ∧
      Lists (l' Sample.queueKey) L ∧ ∀ r ∈ L, r.item ≠ Sample.item := by
  obtain ⟨-, -, hExpired, -⟩ := @oracle_and_program_agree_on_expiry _ _ _ _ Sample.curve 1700000000 1700000200 1700000150
    Sample.item rfl (by decide) (by decide) (by decide) (by decide) (by decide) (by decide)
  obtain ⟨hPrepare, hRemoves⟩ := hExpired (by decide +kernel)
  refine ⟨Sample.requesting_items, hPrepare _ _ _ _ _ _ _, ?_⟩
  obtain ⟨l', hPurge⟩ : ∃ l', processPurgeExpiredRequests Sample.curveRuntime ⟨600, 1700000200⟩
      [Sample.writable Sample.oracle, Sample.writable Sample.queueKey] (queueIndexLayout.encode 0)
      (Sample.requesting.ledger 4) = .ok (l', .purged Sample.queueKey Sample.oracle 500000) :=
    exists_eq_ok_of_snd (by decide +kernel)
  obtain ⟨book, hBook⟩ := Sample.requesting.exists_book Sample.queueKey
  have hPending := (hBook.booked 4).pending (Sample.requesting_isQueue 4 (by decide) (Nat.le_refl 4))
  obtain ⟨L, hLists, hGone⟩ := hRemoves _ _ _ _ _ _ _ _ _ _ hPending hPurge
  exact ⟨l', L, hPurge, hLists, hGone⟩

/-! ## Waiting for expiry -/

section

variable {ℓ : ℕ} {P : Type} [AddCommGroup P] [Module (ZMod ℓ) P] {C : Ristretto ℓ P}

/-- The instruction of one round of the send loop: the prepared one, unless the request has expired since. -/
def roundInstruction (env : Environment) (client : OracleClient C) (prepared : Option Instruction) (now : Int64)
    (item : QueueItem) (vrfInput : Bytes 32) (preparedVrf : PreparedVrf) (queue : Pubkey) (queueMeta : Queue)
    (accountBytes : List UInt8) : Option Instruction :=
  match prepared, decide (hostAgeSecs now item > QUEUE_TTL_SECONDS) with
  | some ix, false => some ix
  | _, _ => prepareInstruction env client now item vrfInput preparedVrf queue queueMeta accountBytes

/-- The sleep of the send loop after an address error of the callback, in seconds. The prepared
transaction has been taken by then, so the next round prepares one. -/
def untilExpiry (now : Int64) (item : QueueItem) : Nat :=
  (QUEUE_TTL_SECONDS - hostAgeSecs now item) + 1

/-- The sleep is long enough exactly in the last second of a stamp, for a stamp that is not ahead of
the host's: the stamps of the two times are then 31 units apart, and else 30 at most. -/
theorem expired_after_wait_iff {now later : Int64} {item : QueueItem} (hNow : 0 ≤ now.toInt)
    (hFresh : hostAgeSecs now item ≤ QUEUE_TTL_SECONDS)
    (hLater : later.toInt = now.toInt + untilExpiry now item) :
    hostAgeSecs later item > QUEUE_TTL_SECONDS ↔
      now.toInt % 4 = 3 ∧ (createdAtFrom now - item.createdAt).toNat ≤ 30 := by
  have hMoved := @distance_later _ _ item _ hNow hLater
  have hStamp := (createdAtFrom now - item.createdAt).toNat_lt
  unfold untilExpiry at hMoved
  rw [hostAgeSecs_eq] at hFresh hMoved ⊢
  simp only [QUEUE_TTL_SECONDS] at hFresh hMoved ⊢
  by_cases hAhead : (createdAtFrom now - item.createdAt).toNat = 0 ∨
      65521 ≤ (createdAtFrom now - item.createdAt).toNat
  · rw [if_pos hAhead] at hMoved
    split <;> omega
  · rw [if_neg hAhead] at hMoved hFresh
    split <;> omega

theorem roundInstruction_none (env : Environment) (client : OracleClient C) (now : Int64) (item : QueueItem)
    (vrfInput : Bytes 32) (preparedVrf : PreparedVrf) (queue : Pubkey) (queueMeta : Queue)
    (accountBytes : List UInt8) :
    roundInstruction env client none now item vrfInput preparedVrf queue queueMeta accountBytes =
      prepareInstruction env client now item vrfInput preparedVrf queue queueMeta accountBytes := rfl

theorem prepareInstruction_of_fresh (env : Environment) (client : OracleClient C) {now later : Int64}
    {item : QueueItem} (vrfInput : Bytes 32) (preparedVrf : PreparedVrf) (queue : Pubkey) (queueMeta : Queue)
    (accountBytes : List UInt8) (hFresh : hostAgeSecs now item ≤ QUEUE_TTL_SECONDS)
    (hLater : hostAgeSecs later item ≤ QUEUE_TTL_SECONDS) :
    prepareInstruction env client later item vrfInput preparedVrf queue queueMeta accountBytes =
      prepareInstruction env client now item vrfInput preparedVrf queue queueMeta accountBytes := by
  rw [prepareInstruction, prepareInstruction, if_neg (Nat.not_lt.mpr hFresh), if_neg (Nat.not_lt.mpr hLater)]

/-- Exactly when the round after an address error finds the request expired and purges it. At every
other time it builds the fulfilment that has just failed. -/
theorem wait_for_expiry_exact (env : Environment) (client : OracleClient C) (now later : Int64) (item : QueueItem)
    (vrfInput : Bytes 32) (preparedVrf : PreparedVrf) (queue : Pubkey) (queueMeta : Queue)
    (accountBytes : List UInt8) (hNow : 0 ≤ now.toInt) (hFresh : hostAgeSecs now item ≤ QUEUE_TTL_SECONDS)
    (hLater : later.toInt = now.toInt + untilExpiry now item) :
    (hostAgeSecs later item > QUEUE_TTL_SECONDS ∧
        roundInstruction env client none later item vrfInput preparedVrf queue queueMeta accountBytes =
          some (Sdk.purgeExpiredRequests env client.pubkey queueMeta.index) ↔
      now.toInt % 4 = 3 ∧ (createdAtFrom now - item.createdAt).toNat ≤ 30) ∧
    (¬ (now.toInt % 4 = 3 ∧ (createdAtFrom now - item.createdAt).toNat ≤ 30) →
      roundInstruction env client none later item vrfInput preparedVrf queue queueMeta accountBytes =
        prepareInstruction env client now item vrfInput preparedVrf queue queueMeta accountBytes) := by
  have hExact := expired_after_wait_iff hNow hFresh hLater
  rw [roundInstruction_none]
  refine ⟨⟨fun hPurge => hExact.mp hPurge.1, fun hPhase => ?_⟩, fun hPhase => ?_⟩
  · have hOld := hExact.mpr hPhase
    refine ⟨hOld, ?_⟩
    rw [prepareInstruction, if_pos hOld]
  · have hStill : hostAgeSecs later item ≤ QUEUE_TTL_SECONDS := Nat.not_lt.mp fun hOld => hPhase (hExact.mp hOld)
    exact prepareInstruction_of_fresh env client vrfInput preparedVrf queue queueMeta accountBytes hFresh hStill

end

/-- In the last second of a stamp the sleep suffices: after 121 seconds the age reads 124. -/
theorem wait_for_expiry_exact_sample :
    hostAgeSecs 1700000003 Sample.item = 0 ∧ hostAgeSecs 1700000124 Sample.item > QUEUE_TTL_SECONDS ∧
    roundInstruction Sample.curveRuntime.toEnvironment Sample.client none 1700000124 Sample.item Sample.requestId
      Sample.vrf Sample.queueKey Sample.header (Sample.requesting.ledger 4 Sample.queueKey).data =
      some (Sdk.purgeExpiredRequests Sample.curveRuntime.toEnvironment Sample.client.pubkey 0) := by
  obtain ⟨hExact, -⟩ := wait_for_expiry_exact Sample.curveRuntime.toEnvironment Sample.client 1700000003 1700000124
    Sample.item Sample.requestId Sample.vrf Sample.queueKey Sample.header
    (Sample.requesting.ledger 4 Sample.queueKey).data (by decide) (by decide +kernel) (by decide +kernel)
  obtain ⟨hOld, hRound⟩ := hExact.mpr (by decide +kernel)
  exact ⟨by decide +kernel, hOld, hRound⟩

/-- A request stamped at the start of a unit and refused in the same second: 121 seconds later the age
still reads 120, and the next round sends the same fulfilment. -/
theorem wait_for_expiry_too_short :
    0 ≤ Int64.toInt 1700000000 ∧ hostAgeSecs 1700000000 Sample.item ≤ QUEUE_TTL_SECONDS ∧
    Int64.toInt 1700000121 = Int64.toInt 1700000000 + untilExpiry 1700000000 Sample.item ∧
    ¬ hostAgeSecs 1700000121 Sample.item > QUEUE_TTL_SECONDS ∧
    roundInstruction Sample.curveRuntime.toEnvironment Sample.client none 1700000121 Sample.item Sample.requestId
      Sample.vrf Sample.queueKey Sample.header (Sample.requesting.ledger 4 Sample.queueKey).data =
      some Sample.fulfilment := by
  refine ⟨?_, ?_, ?_, ?_, ?_⟩ <;> decide +kernel

end SolanaVrf
