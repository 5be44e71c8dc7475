import SolanaVrf.Lib.Refresh
import SolanaVrf.Lib.Pod

/-! # The blockhash cache and the fee cache

Both are refreshed under a lock by whoever finds them too old. The blockhash cache also takes
pushed blocks and never goes back to an older slot; the fee cache keeps its last estimate when
the endpoint fails, and then asks again only after the usual time. Times are nanoseconds.
-/

namespace SolanaVrf
set_option autoImplicit false

open Pod Transition Refresh

/-! ## Blockhashes -/

structure CacheData where
  blockhash : Bytes 32
  slot : Nat
  timestamp : Int
deriving DecidableEq

namespace CacheData

variable (c : CacheData)

def apply (blockhash : Bytes 32) (slot : Nat) (now : Int) : CacheData :=
  if slot < c.slot then c else ⟨blockhash, slot, now⟩

/-- The result of a fetch, or a pushed block; a failed fetch changes nothing. -/
def write (fetched : Option (Bytes 32 × Nat)) (now : Int) : CacheData :=
  match fetched with
  | some (blockhash, slot) => c.apply blockhash slot now
  | none => c

end CacheData

/-- `refresh_if_stale` with its `max_age`, and `set_blockhash`. -/
def blockhashPolicy : Policy CacheData Nat (Option (Bytes 32 × Nat)) where
  fresh c maxAge now := now - c.timestamp ≤ maxAge
  store := CacheData.write
  quick := false
  pushed fetched := fetched.isSome

abbrev BlockhashMark := Mark CacheData Nat (Option (Bytes 32 × Nat))

namespace CacheData

variable {c start : CacheData}

theorem write_cases (c : CacheData) (fetched : Option (Bytes 32 × Nat)) (now : Int) :
    c.write fetched now = c ∧ (∀ blockhash slot, fetched = some (blockhash, slot) → slot < c.slot) ∨
      ∃ blockhash slot, fetched = some (blockhash, slot) ∧ c.slot ≤ slot ∧
        c.write fetched now = ⟨blockhash, slot, now⟩ := by
  unfold write
  cases fetched with
  | none => exact Or.inl ⟨rfl, by rintro _ _ ⟨⟩⟩
  | some fetched =>
    obtain ⟨blockhash, slot⟩ := fetched
    change c.apply blockhash slot now = _ ∧ _ ∨ _
    unfold apply
    split
    · rename_i hOld
      exact Or.inl ⟨rfl, by rintro _ _ ⟨⟩; exact hOld⟩
    · rename_i hNew
      refine Or.inr ⟨blockhash, slot, rfl, Nat.not_lt.mp hNew, ?_⟩
      change c.apply blockhash slot now = _
      exact if_neg hNew

/-- The cache holds the initial block or a stored one. -/
theorem replay_stored (start : CacheData) (history : List BlockhashMark) :
    replay blockhashPolicy start history = start ∨ ∃ blockhash slot now,
      Mark.stored (some (blockhash, slot)) now ∈ history ∧
        replay blockhashPolicy start history = ⟨blockhash, slot, now⟩ := by
  induction history with
  | nil => exact Or.inl rfl
  | cons m earlier ih =>
    have hKept (hSame : replay blockhashPolicy start (m :: earlier) = replay blockhashPolicy start earlier) :
        replay blockhashPolicy start (m :: earlier) = start ∨ ∃ blockhash slot now,
          Mark.stored (some (blockhash, slot)) now ∈ m :: earlier ∧
            replay blockhashPolicy start (m :: earlier) = ⟨blockhash, slot, now⟩ := by
      rw [hSame]
      obtain hStart | ⟨blockhash, slot, now, hMem, hHolds⟩ := ih
      · exact Or.inl hStart
      · exact Or.inr ⟨blockhash, slot, now, List.mem_cons_of_mem _ hMem, hHolds⟩
    cases m with
    | content kind now cache => exact hKept rfl
    | begun kind now cache => exact hKept rfl
    | stored result now =>
      obtain ⟨hSame, -⟩ | ⟨blockhash, slot, rfl, -, hNew⟩ :=
        write_cases (replay blockhashPolicy start earlier) result now
      · exact hKept hSame
      · exact Or.inr ⟨blockhash, slot, now, List.mem_cons_self, hNew⟩

theorem slot_le_write (c : CacheData) (fetched : Option (Bytes 32 × Nat)) (now : Int) :
    c.slot ≤ (c.write fetched now).slot := by
  obtain ⟨hSame, -⟩ | ⟨blockhash, slot, -, hLe, hNew⟩ := write_cases c fetched now
  · rw [hSame]
  · rw [hNew]
    exact hLe

/-- No stored slot is above the cached one. -/
theorem slot_le_replay (start : CacheData) (history : List BlockhashMark) :
    start.slot ≤ (replay blockhashPolicy start history).slot ∧
    ∀ blockhash slot now, Mark.stored (some (blockhash, slot)) now ∈ history →
      slot ≤ (replay blockhashPolicy start history).slot := by
  induction history with
  | nil => exact ⟨Nat.le_refl _, by rintro _ _ _ ⟨⟩⟩
  | cons m earlier ih =>
    cases m with
    | content kind now cache =>
      exact ⟨ih.1, fun blockhash slot now hMem => ih.2 blockhash slot now (List.mem_of_ne_of_mem (by rintro ⟨⟩) hMem)⟩
    | begun kind now cache =>
      exact ⟨ih.1, fun blockhash slot now hMem => ih.2 blockhash slot now (List.mem_of_ne_of_mem (by rintro ⟨⟩) hMem)⟩
    | stored result now =>
      change start.slot ≤ ((replay blockhashPolicy start earlier).write result now).slot ∧ ∀ blockhash slot now', _ →
        slot ≤ ((replay blockhashPolicy start earlier).write result now).slot
      have hRises := slot_le_write (replay blockhashPolicy start earlier) result now
      refine ⟨ih.1.trans hRises, fun blockhash slot now' hMem => ?_⟩
      obtain hLast | hOld := List.mem_cons.mp hMem
      · cases hLast
        obtain ⟨hSame, hBelow⟩ | ⟨_, _, hResult, -, hNew⟩ :=
          write_cases (replay blockhashPolicy start earlier) (some (blockhash, slot)) now
        · rw [hSame]
          exact Nat.le_of_lt (hBelow blockhash slot rfl)
        · cases hResult
          rw [hNew]
      · exact (ih.2 blockhash slot now' hOld).trans hRises

/-- A result that took effect stamps the cache, and later ones stamp it later. -/
theorem timestamp_replay {history later earlier : List BlockhashMark} {blockhash : Bytes 32} {slot : Nat} {now : Int}
    (hSound : Sound blockhashPolicy start history)
    (hHistory : history = later ++ .stored (some (blockhash, slot)) now :: earlier)
    (hTook : (replay blockhashPolicy start earlier).slot ≤ slot) :
    now ≤ (replay blockhashPolicy start history).timestamp := by
  subst hHistory
  induction later with
  | nil =>
    obtain ⟨-, hBelow⟩ | ⟨_, _, hResult, -, hNew⟩ :=
      write_cases (replay blockhashPolicy start earlier) (some (blockhash, slot)) now
    · exact absurd (hBelow blockhash slot rfl) (Nat.not_lt.mpr hTook)
    · change now ≤ ((replay blockhashPolicy start earlier).write (some (blockhash, slot)) now).timestamp
      rw [hNew]
  | cons m later ih =>
    obtain ⟨-, hTimes, hBefore⟩ := hSound
    have hStamp := ih hBefore
    have hLater := hTimes (.stored (some (blockhash, slot)) now) (List.mem_append_right _ List.mem_cons_self)
    cases m with
    | content kind now' cache => exact hStamp
    | begun kind now' cache => exact hStamp
    | stored result now' =>
      change now ≤ (CacheData.write (replay blockhashPolicy start
        (later ++ .stored (some (blockhash, slot)) now :: earlier)) result now').timestamp
      obtain ⟨hSame, -⟩ | ⟨_, _, -, -, hNew⟩ := write_cases (replay blockhashPolicy start
        (later ++ .stored (some (blockhash, slot)) now :: earlier)) result now'
      · rw [hSame]
        exact hStamp
      · rw [hNew]
        exact hLater

end CacheData

/-- In every interleaving of refreshes, drops of callers and pushed blocks: the cached block is the initial
one or one that was delivered, with its own slot; no delivered slot is above it; no two callers fetch at
once; and nobody fetches within its `max_age` of a delivery that took effect. -/
theorem blockhash_cache_follows_slots {start : CacheData} (run : (Refresh.machine blockhashPolicy start).Run) (n : Nat) :
    ((run.state n).cache = start ∨ ∃ blockhash slot now,
      Mark.stored (some (blockhash, slot)) now ∈ (run.state n).history ∧
        (run.state n).cache = ⟨blockhash, slot, now⟩) ∧
    start.slot ≤ (run.state n).cache.slot ∧
    (∀ blockhash slot now, Mark.stored (some (blockhash, slot)) now ∈ (run.state n).history →
      slot ≤ (run.state n).cache.slot) ∧
    (run.state n).callers.countP Caller.fetches ≤ 1 ∧
    ∀ later (maxAge : Nat) now cache middle blockhash slot now' earlier, (run.state n).history =
        later ++ .begun maxAge now cache :: (middle ++ .stored (some (blockhash, slot)) now' :: earlier) →
      (replay blockhashPolicy start earlier).slot ≤ slot → now' + (maxAge : Int) < now := by
  obtain ⟨hCache, hSound, -⟩ := told run n
  rw [hCache]
  obtain ⟨hStart, hStored⟩ := CacheData.slot_le_replay start (run.state n).history
  refine ⟨CacheData.replay_stored start _, hStart, hStored, one_fetch run n, ?_⟩
  intro later maxAge now cache middle blockhash slot now' earlier hHistory hTook
  rw [hHistory] at hSound
  obtain ⟨⟨hFound, hStale⟩, -, hEarlier⟩ := hSound.split
  have hStamp := CacheData.timestamp_replay hEarlier rfl hTook
  have hOld : ¬ now - cache.timestamp ≤ maxAge := of_decide_eq_false hStale
  rw [hFound] at hOld
  omega

/-! ## Fees -/

def PRIORITY_FEE_MAX_AGE : Int := 10000000000

def DEFAULT_PRIORITY_FEE_MICRO_LAMPORTS : Nat := 10000

namespace FeeCache

/-- The last estimate, or the default before the first. -/
def lastKnown (cache : Option (Nat × Int)) : Nat := (cache.map Prod.fst).getD DEFAULT_PRIORITY_FEE_MICRO_LAMPORTS

/-- `cached_priority_fee` finds something. -/
def recent (cache : Option (Nat × Int)) (now : Int) : Bool := cache.any fun c => now - c.2 < PRIORITY_FEE_MAX_AGE

end FeeCache

/-- `priority_fee`: on a rollup the answer is 0 at once. An estimate that failed or came too late is `none`. -/
def feePolicy : Policy (Option (Nat × Int)) Bool (Option Nat) where
  fresh cache rollup now := rollup || FeeCache.recent cache now
  store cache estimate now := some (estimate.getD (FeeCache.lastKnown cache), now)
  quick := true
  pushed _ := false

abbrev FeeMark := Mark (Option (Nat × Int)) Bool (Option Nat)

namespace FeeCache

/-- The answer to a caller that is content with the cache. -/
def answer (rollup : Bool) (cache : Option (Nat × Int)) : Nat := if rollup then 0 else lastKnown cache

/-- The estimates that came in time, latest first. -/
def estimates : List FeeMark → List Nat
  | [] => []
  | .stored (some fee) _ :: earlier => fee :: estimates earlier
  | .stored none _ :: earlier => estimates earlier
  | .content _ _ _ :: earlier => estimates earlier
  | .begun _ _ _ :: earlier => estimates earlier

theorem lastKnown_replay (history : List FeeMark) :
    lastKnown (replay feePolicy none history) = (estimates history).headD DEFAULT_PRIORITY_FEE_MICRO_LAMPORTS := by
  induction history with
  | nil => rfl
  | cons m earlier ih =>
    cases m with
    | content kind now cache => exact ih
    | begun kind now cache => exact ih
    | stored estimate now =>
      cases estimate with
      | some fee => rfl
      | none => exact ih

/-- A cache in which something was stored has the time of the last store, which is not before any other. -/
theorem stamped_replay {history : List FeeMark} (hSound : Sound feePolicy none history) {estimate : Option Nat}
    {now : Int} (hMem : Mark.stored estimate now ∈ history) :
    ∃ fee stamp, replay feePolicy none history = some (fee, stamp) ∧ now ≤ stamp := by
  induction history with
  | nil => cases hMem
  | cons m earlier ih =>
    obtain ⟨-, hTimes, hBefore⟩ := hSound
    cases m with
    | content kind now' cache => exact ih hBefore (List.mem_of_ne_of_mem (by rintro ⟨⟩) hMem)
    | begun kind now' cache => exact ih hBefore (List.mem_of_ne_of_mem (by rintro ⟨⟩) hMem)
    | stored estimate' now' =>
      refine ⟨_, now', rfl, ?_⟩
      obtain hLast | hOld := List.mem_cons.mp hMem
      · cases hLast
        exact Int.le_refl _
      · exact hTimes _ hOld

end FeeCache

/-- In every interleaving: the cached fee is the latest estimate that came in time, or the default before
the first; no two callers ask the endpoint at once; nobody asks within ten seconds of an answer, a failed
one included, or on a rollup; and an answer from the cache is 0 on a rollup, else less than ten seconds old. -/
theorem fee_requests_spaced (run : (Refresh.machine feePolicy none).Run) (n : Nat) :
    FeeCache.lastKnown (run.state n).cache =
      (FeeCache.estimates (run.state n).history).headD DEFAULT_PRIORITY_FEE_MICRO_LAMPORTS ∧
    (run.state n).callers.countP Caller.fetches ≤ 1 ∧
    (∀ later rollup now cache earlier, (run.state n).history = later ++ .begun rollup now cache :: earlier →
      rollup = false ∧ ∀ estimate now', Mark.stored estimate now' ∈ earlier → now' + PRIORITY_FEE_MAX_AGE ≤ now) ∧
    (∀ later rollup now cache earlier, (run.state n).history = later ++ .content rollup now cache :: earlier →
      FeeCache.answer rollup cache = 0 ∧ rollup = true ∨
        ∃ fee stamp, cache = some (fee, stamp) ∧ FeeCache.answer rollup cache = fee ∧
          now < stamp + PRIORITY_FEE_MAX_AGE) := by
  obtain ⟨hCache, hSound, -⟩ := told run n
  refine ⟨?_, one_fetch run n, ?_, ?_⟩
  · rw [hCache]
    exact FeeCache.lastKnown_replay _
  · intro later rollup now cache earlier hHistory
    rw [hHistory] at hSound
    obtain ⟨⟨hFound, hStale⟩, -, hEarlier⟩ := hSound.split
    obtain ⟨hRollup, hOld⟩ := Bool.or_eq_false_iff.mp hStale
    refine ⟨hRollup, fun estimate now' hMem => ?_⟩
    obtain ⟨fee, stamp, hReplay, hStamp⟩ := FeeCache.stamped_replay hEarlier hMem
    rw [hFound, hReplay] at hOld
    have hAge : ¬ now - stamp < PRIORITY_FEE_MAX_AGE := of_decide_eq_false hOld
    omega
  · intro later rollup now cache earlier hHistory
    rw [hHistory] at hSound
    obtain ⟨⟨-, hFresh⟩, -, -⟩ := hSound.split
    cases rollup with
    | true => exact Or.inl ⟨rfl, rfl⟩
    | false =>
      cases cache with
      | none => cases hFresh
      | some c =>
        have hAge : now - c.2 < PRIORITY_FEE_MAX_AGE := of_decide_eq_true hFresh
        exact Or.inr ⟨c.1, c.2, rfl, rfl, by omega⟩

end SolanaVrf
