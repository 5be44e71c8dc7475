import SolanaVrf.Chain.LifeCycle

/-! # Stamps and true ages

A request carries the time of its acceptance in units of four seconds, modulo 2^16. A purge
subtracts stamps of that width. What that says about the true age depends on where both times
lie within their units, and on how often the stamps have come round.
-/

namespace SolanaVrf
set_option autoImplicit false

open Pod Fallible QueueItem

theorem createdAtFrom_toNat {t : Int64} (h : 0 ≤ t.toInt) :
    (createdAtFrom t).toNat = t.toInt.toNat / 4 % 2 ^ 16 := by
  have hUnit : CREATED_AT_UNIT_SECS.toInt = 4 := by decide
  have hMax : t.toInt < 2 ^ 63 := t.toInt_lt
  have hQuotient : (t / CREATED_AT_UNIT_SECS).toInt = t.toInt / 4 := by
    rw [Int64.toInt_div, hUnit, Int.tdiv_eq_ediv_of_nonneg h, Int.bmod_eq_of_le]
    · omega
    · omega
  have hNonneg : 0 ≤ t / CREATED_AT_UNIT_SECS := by
    rw [Int64.le_iff_toInt_le, hQuotient]
    change (0 : Int) ≤ _
    omega
  rw [createdAtFrom, UInt64.toNat_toUInt16, Int64.toNat_toUInt64_of_le hNonneg, Int64.toNatClampNeg, hQuotient]
  omega

theorem ageSecs_eq (item : QueueItem) (nowStamp : UInt16) :
    item.ageSecs nowStamp = 4 * (nowStamp - item.createdAt).toNat := Nat.mul_comm _ _

theorem ageSecs_of_stamp {created now : Int64} {item : QueueItem} (hStamp : item.createdAt = createdAtFrom created)
    (hCreated : 0 ≤ created.toInt) (hNow : 0 ≤ now.toInt) :
    (item.ageSecs (createdAtFrom now) : Int) = 4 * ((now.toInt / 4 - created.toInt / 4) % 65536) := by
  rw [ageSecs_eq, hStamp, UInt16.toNat_sub, createdAtFrom_toNat hNow, createdAtFrom_toNat hCreated]
  omega

theorem expired_iff {created now : Int64} {item : QueueItem} (hStamp : item.createdAt = createdAtFrom created)
    (hCreated : 0 ≤ created.toInt) (hNow : 0 ≤ now.toInt) :
    expired (createdAtFrom now) item = true ↔ 30 < (now.toInt / 4 - created.toInt / 4) % 65536 := by
  have hAge := ageSecs_of_stamp hStamp hCreated hNow
  have hTtl : QUEUE_TTL_SECONDS = 120 := rfl
  rw [expired, decide_eq_true_iff, hTtl]
  omega

/-- An item this old reads as expired: four-second units lose less than one unit, and the stamp has
not yet come round to the time to live. -/
theorem expired_of_age {created now : Int64} {item : QueueItem} (hStamp : item.createdAt = createdAtFrom created)
    (hEpoch : 0 ≤ created.toInt) (hOld : 124 ≤ now.toInt - created.toInt)
    (hRecent : now.toInt - created.toInt < 262140) : expired (createdAtFrom now) item = true := by
  rw [expired_iff hStamp hEpoch (by omega)]
  omega

/-- Within the time to live nothing reads as expired, however often the stamps have come round. -/
theorem age_of_expired {created now : Int64} {item : QueueItem} (hStamp : item.createdAt = createdAtFrom created)
    (hEpoch : 0 ≤ created.toInt) (hLater : created.toInt ≤ now.toInt)
    (hExpired : expired (createdAtFrom now) item = true) : 120 < now.toInt - created.toInt := by
  rw [expired_iff hStamp hEpoch (by omega)] at hExpired
  omega

/-! ## Purges -/

section

variable {rt : Runtime} {run : ChainRun rt} {k : Pubkey} {book : Nat → List Entry}

theorem Follows.stamp (h : Follows run k book) {n : Nat} {e : Entry} (he : e ∈ book n) :
    e.record.item.createdAt = createdAtFrom (run.clock e.serial).unixTimestamp := by
  obtain ⟨-, acc, hBy⟩ := (h.provenance n).2 e he
  rw [hBy.record, ← hBy.clock]
  rfl

/-- A purge of a queue lists afterwards a sublist of the requests it listed before. A request
accepted at clock time `c` is removed at time `t` only after its time to live, in any case from 124
seconds on until its stamp comes round, and in general according to the distance of the stamps. -/
theorem purge_honours_time_to_live (rt : Runtime) (run : ChainRun rt) (k : Pubkey) (n : Nat) (clock : Clock)
    (accounts : List AccountInfo) (data : List UInt8) (l' : Ledger) (oracle : Pubkey) (paid : Nat)
    (hPurge : processPurgeExpiredRequests rt clock accounts data (run.ledger n) =
      .ok (l', .purged k oracle paid)) :
    ∃ before after : List Entry, Lists (run.ledger n k) (before.map Entry.record) ∧
      Lists (l' k) (after.map Entry.record) ∧ after.Sublist before ∧
      ∀ e ∈ before, (∃ acc, run.receipt e.serial = some (.requested acc) ∧ acc.queue = k ∧
          e.record = acc.record rt.toEnvironment) ∧
        ∀ c t : Int, c = (run.clock e.serial).unixTimestamp.toInt → t = clock.unixTimestamp.toInt → 0 ≤ c → c ≤ t →
          (e ∉ after → t - c > 120) ∧ (124 ≤ t - c → t - c < 262140 → e ∉ after) ∧
            (e ∈ after ↔ (t / 4 - c / 4) % 65536 ≤ 30) := by
  obtain ⟨_, _, _, hReceipt, hPurged⟩ := processPurgeExpiredRequests_effect hPurge
  cases hReceipt
  obtain ⟨book, hBook⟩ := run.exists_book k
  have hPending := (hBook.booked n).pending hPurged.isQueue
  obtain ⟨hPending', -, -⟩ := hPurged.pending _ hPending
  rw [List.filter_map] at hPending'
  refine ⟨book n, _, hPending.lists, hPending'.lists, List.filter_sublist, fun e he => ⟨?_, ?_⟩⟩
  · obtain ⟨-, acc, hBy⟩ := (hBook.provenance n).2 e he
    exact ⟨acc, hBy.receipt, hBy.queue, hBy.record⟩
  · rintro c t rfl rfl hEpoch hLater
    have hStamp := hBook.stamp he
    have hKept : e ∈ (book n).filter ((fun r => !expired (createdAtFrom clock.unixTimestamp) r.item) ∘ Entry.record) ↔
        ¬expired (createdAtFrom clock.unixTimestamp) e.record.item = true := by
      rw [List.mem_filter, and_iff_right he]
      simp
    rw [hKept, not_not]
    refine ⟨age_of_expired hStamp hEpoch hLater, expired_of_age hStamp hEpoch, ?_⟩
    rw [expired_iff hStamp hEpoch (by omega), not_lt]

end

/-- The request of the sample run is listed, and a purge 124 seconds later leaves none. -/
theorem purge_honours_time_to_live_sample :
    ∃ (l' : Ledger) (paid : Nat) (before : List Entry), processPurgeExpiredRequests Sample.runtime ⟨600, 1700000124⟩
        [Sample.writable Sample.oracle, Sample.writable Sample.queueKey] (queueIndexLayout.encode 0)
        (Sample.run.ledger 4) = .ok (l', .purged Sample.queueKey Sample.oracle paid) ∧
      Lists (Sample.run.ledger 4 Sample.queueKey) (before.map Entry.record) ∧ before.length = 1 ∧
      Lists (l' Sample.queueKey) [] := by
  obtain ⟨l', hPurge⟩ : ∃ l', processPurgeExpiredRequests Sample.runtime ⟨600, 1700000124⟩
      [Sample.writable Sample.oracle, Sample.writable Sample.queueKey] (queueIndexLayout.encode 0)
      (Sample.run.ledger 4) = .ok (l', .purged Sample.queueKey Sample.oracle 500000) :=
    exists_eq_ok_of_snd (by decide +kernel)
  obtain ⟨before, after, hBefore, hAfter, hSublist, hRule⟩ := purge_honours_time_to_live Sample.runtime Sample.run
    Sample.queueKey 4 ⟨600, 1700000124⟩ _ _ l' Sample.oracle 500000 hPurge
  have hNone : after = [] := by
    refine List.eq_nil_iff_forall_not_mem.mpr fun e he => ?_
    obtain ⟨⟨acc, hReceipt, -⟩, hTimes⟩ := hRule e (hSublist.subset he)
    have hClock : (Sample.run.clock e.serial).unixTimestamp = 1700000000 := by
      rw [(Sample.requested_eq hReceipt).1, Sample.clock_early 3 (by decide)]
      rfl
    obtain ⟨-, hRemoved, -⟩ := hTimes 1700000000 1700000124 (by rw [hClock]; rfl) rfl (by decide) (by decide)
    exact hRemoved (by decide) (by decide) he
  have hCount : (QueueAccount.load (Sample.run.ledger 4 Sample.queueKey).data).toOption.map
      (fun q => q.header.itemCount.toNat) = some 1 := by decide +kernel
  have hLength : before.length = 1 := by
    obtain ⟨-, q, hLoad, hItems, -⟩ := hBefore
    rw [hLoad] at hCount
    rw [List.length_map] at hItems
    exact hItems.symm.trans (Option.some.inj hCount)
  rw [hNone] at hAfter
  exact ⟨l', 500000, before, hPurge, hBefore, hLength, hAfter⟩

end SolanaVrf
