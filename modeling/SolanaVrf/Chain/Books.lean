import SolanaVrf.Chain.World

/-! # The book of a queue

For one queue address the chain refines a book: the list of its pending requests, each
under the number of the event that accepted it. A request is entered when it is accepted
and leaves by its fulfilment or by a purge; every other event keeps the book. While the
account is a queue it holds exactly the booked records.
-/

namespace SolanaVrf
set_option autoImplicit false

open Pod Transition

/-- A fulfilment that is entitled to the record: by the queue's oracle, on the right id, with a
valid proof under the registered key, in a later slot. -/
structure Fulfils (rt : Runtime) (clock : Clock) (l : Ledger) (k : Pubkey) (p : Prepared) (r : Record) : Prop
    extends Taken rt clock p.oracle.key p.vrfPubkey p.args r where
  queue : p.queue.key = k
  signed : p.oracle.isSigner = true
  derives : ∃ index, k = (rt.oracleQueuePda p.oracle.key index).1
  registered : ∃ o, IsOracle (l (rt.oracleDataPda p.oracle.key).1) o ∧ o.vrfPubkey = p.vrfPubkey

def Record.stale (clock : Clock) (r : Record) : Bool :=
  expired (QueueItem.createdAtFrom clock.unixTimestamp) r.item

def due (k : Pubkey) (r : Record) : Nat := if isFeeExemptEphemeralQueue k then 0 else r.cost

/-- Event number `n` on the book of the queue at `k`. -/
inductive BookStep (rt : Runtime) (k : Pubkey) (n : Nat) (clock : Clock) (l : Ledger) :
    Option Receipt → List Entry → List Entry → Prop
  | idle {receipt : Option Receipt} {L : List Entry} (hOther : receipt.bind Receipt.queue? ≠ some k) :
      BookStep rt k n clock l receipt L L
  | accepted {L : List Entry} (acc : Accepted) (i : Nat) (hQueue : acc.queue = k) (hClock : acc.clock = clock)
      (hCharged : acc.charged = due k (acc.record rt.toEnvironment))
      (hDisc : acc.args.callbackDiscriminator.length ≤ 8) (hIndex : i ≤ L.length) :
      BookStep rt k n clock l (some (.requested acc)) L (L.insertIdx i ⟨n, acc.record rt.toEnvironment⟩)
  | fulfilled {L : List Entry} {e : Entry} (p : Prepared) (hEntry : L[p.index]? = some e)
      (hFulfils : Fulfils rt clock l k p e.record) :
      BookStep rt k n clock l (some (.provided p (due k e.record))) L (L.eraseIdx p.index)
  | purged {L : List Entry} (oracle : Pubkey) :
      BookStep rt k n clock l
        (some (.purged k oracle ((L.filter fun e => e.record.stale clock).map fun e => due k e.record).sum))
        L (L.filter fun e => !e.record.stale clock)
  | closed (identity : Pubkey) (index : UInt8) : BookStep rt k n clock l (some (.closed identity index k)) [] []
  | delegated (identity : Pubkey) (index : UInt8) : BookStep rt k n clock l (some (.delegated identity index k)) [] []

def Booked (a : Account) (L : List Entry) : Prop :=
  Pending a (L.map Entry.record) ∨ ¬IsQueue a ∧ L = []

namespace Booked

variable {a a' : Account} {L : List Entry}

theorem of_not_queue (h : ¬IsQueue a) : Booked a [] := Or.inr ⟨h, rfl⟩

theorem eq_nil (h : Booked a L) (hNot : ¬IsQueue a) : L = [] := by
  obtain hPending | ⟨-, rfl⟩ := h
  · exact absurd hPending.isQueue hNot
  · rfl

theorem pending (h : Booked a L) (hQueue : IsQueue a) : Pending a (L.map Entry.record) := by
  obtain hPending | ⟨hNot, -⟩ := h
  · exact hPending
  · exact absurd hQueue hNot

theorem external {env : Environment} {k : Pubkey} (h : Booked a L) (hExternal : ExternalAt env k a a') :
    Booked a' L := by
  obtain hPending | ⟨hNot, rfl⟩ := h
  · exact Or.inl (hExternal.pending hPending)
  · exact .of_not_queue (hExternal.isQueue_iff.not.mpr hNot)

end Booked

/-! ## What is due -/

theorem Accepted.charged_eq_due {env : Environment} {acc : Accepted}
    (h : acc.charged = SolanaVrf.charged acc.queue acc.highPriority) : acc.charged = due acc.queue (acc.record env) := by
  have hCost : (acc.record env).cost = cost acc.highPriority := by
    change cost (acc.highPriority.toUInt8 == 1) = cost acc.highPriority
    cases acc.highPriority <;> rfl
  rw [h, SolanaVrf.charged, due, hCost]

theorem purgePaid_eq_sum_due (k : Pubkey) (L : List Record) :
    purgePaid k (L.map Record.cost).sum = (L.map (due k)).sum := by
  unfold purgePaid due
  split
  · simp
  · rfl

/-! ## Simulation -/

variable {rt : Runtime} {clock : Clock} {l l' : Ledger} {k : Pubkey} {L : List Entry}

/-- What an instruction does to a queue is a step of its book. -/
theorem QueueEffect.booked {receipt : Receipt} (h : QueueEffect rt clock l k receipt l') (n : Nat)
    (hPending : Pending (l k) (L.map Entry.record)) :
    ∃ L', BookStep rt k n clock l (some receipt) L L' ∧ Booked (l' k) L' := by
  cases h with
  | external hOther h => exact ⟨L, .idle hOther, Or.inl (h.pending hPending)⟩
  | @requested _ acc h hk =>
    subst hk
    obtain ⟨i, hIndex, hPending', -⟩ := h.pending _ hPending
    rw [List.length_map] at hIndex
    refine ⟨_, .accepted acc i rfl h.clock (acc.charged_eq_due h.charged) h.discriminator hIndex, Or.inl ?_⟩
    rwa [List.map_insertIdx]
  | @provided _ p paid h hk =>
    subst hk
    obtain ⟨r, hAt, hTaken, hItem, hPending', -⟩ := h.pending hPending
    obtain ⟨e, hEntry, rfl⟩ : ∃ e, L[p.index]? = some e ∧ e.record = r := by simpa using hAt
    obtain ⟨l₁, l₂, hPrepares, -⟩ := h.callback
    have hPaid : paid = due p.queue.key e.record := by
      rw [h.paid, feeFor, due, hItem]
      rfl
    subst hPaid
    refine ⟨_, .fulfilled p hEntry ⟨hTaken, rfl, hPrepares.signed, hPrepares.derives, hPrepares.registered⟩,
      Or.inl ?_⟩
    rwa [← List.eraseIdx_map]
  | @purged _ oracle paid h =>
    obtain ⟨hPending', hPaid, -⟩ := h.pending _ hPending
    rw [purgePaid_eq_sum_due, List.filter_map, List.map_map] at hPaid
    subst hPaid
    refine ⟨_, .purged oracle, Or.inl ?_⟩
    rwa [List.filter_map] at hPending'
  | paused h => exact ⟨L, .idle (by simp [Receipt.queue?]), Or.inl (h.pending _ hPending).1⟩
  | closed hEmptied hNot identity index =>
    obtain rfl := List.map_eq_nil_iff.mp (hEmptied _ hPending)
    exact ⟨[], .closed identity index, .of_not_queue hNot⟩
  | delegated hEmptied hNot identity index =>
    obtain rfl := List.map_eq_nil_iff.mp (hEmptied _ hPending)
    exact ⟨[], .delegated identity index, .of_not_queue hNot⟩

theorem Effect.booked {receipt : Receipt} (h : Effect rt clock l receipt l') (n : Nat) (hBooked : Booked (l k) L) :
    ∃ L', BookStep rt k n clock l (some receipt) L L' ∧ Booked (l' k) L' := by
  obtain hPending | ⟨hNot, rfl⟩ := hBooked
  · exact (h.at_queue hPending.isQueue).booked n hPending
  · refine ⟨[], .idle fun hk => hNot (h.isQueue hk), ?_⟩
    by_cases hQueue : IsQueue (l' k)
    · obtain ⟨identity, index, rfl, hOpened⟩ := h.born hNot hQueue
      exact Or.inl hOpened.empty
    · exact .of_not_queue hQueue

structure Follows (run : ChainRun rt) (k : Pubkey) (book : Nat → List Entry) : Prop where
  start : book 0 = []
  booked : ∀ n, Booked (run.ledger n k) (book n)
  steps : ∀ n, BookStep rt k n (run.clock n) (run.ledger n) (run.receipt n) (book n) (book (n + 1))

theorem ChainRun.exists_book (run : ChainRun rt) (k : Pubkey) : ∃ book, Follows run k book := by
  have hStart : Booked (run.start.ledger k) [] :=
    .of_not_queue fun hQueue => not_queue_of_zero (run.initial.zeroed k hQueue.1) hQueue
  have hStep (n : Nat) (L : List Entry) (hBooked : Booked (run.ledger n k) L) :
      ∃ L', BookStep rt k n (run.clock n) (run.ledger n) (run.receipt n) L L' ∧
        Booked (run.ledger (n + 1) k) L' := by
    obtain ⟨receipt, hReceipt, hEffect⟩ | ⟨hReceipt, hExternal⟩ := run.step_cases n
    · rw [hReceipt]
      exact hEffect.booked n hBooked
    · rw [hReceipt]
      exact ⟨L, .idle (by simp), hBooked.external (hExternal k)⟩
  obtain ⟨book, hZero, hBook⟩ := run.simulate (fun w => Booked (w.ledger k))
    (fun n => BookStep rt k n (run.clock n) (run.ledger n) (run.receipt n)) hStart hStep
  exact ⟨book, hZero, fun n => (hBook n).1, fun n => (hBook n).2⟩

/-! ## Entries of a book -/

/-- The entry was made by the request accepted at its serial number. -/
structure EnteredBy (run : ChainRun rt) (k : Pubkey) (e : Entry) (acc : Accepted) : Prop where
  receipt : run.receipt e.serial = some (.requested acc)
  queue : acc.queue = k
  clock : acc.clock = run.clock e.serial
  charged : acc.charged = due k e.record
  discriminator : acc.args.callbackDiscriminator.length ≤ 8
  record : e.record = acc.record rt.toEnvironment

namespace BookStep

variable {n : Nat} {receipt : Option Receipt} {L' : List Entry}

theorem mem (h : BookStep rt k n clock l receipt L L') {e : Entry} (he : e ∈ L') :
    e ∈ L ∨ ∃ acc, receipt = some (.requested acc) ∧ acc.queue = k ∧ acc.clock = clock ∧
      acc.charged = due k (acc.record rt.toEnvironment) ∧ acc.args.callbackDiscriminator.length ≤ 8 ∧
      e = ⟨n, acc.record rt.toEnvironment⟩ := by
  cases h with
  | idle hOther => exact Or.inl he
  | accepted acc i hQueue hClock hCharged hDisc hIndex =>
    rw [List.mem_insertIdx hIndex] at he
    obtain rfl | he := he
    · exact Or.inr ⟨acc, rfl, hQueue, hClock, hCharged, hDisc, rfl⟩
    · exact Or.inl he
  | fulfilled p hEntry hFulfils => exact Or.inl ((List.eraseIdx_sublist _ _).subset he)
  | purged oracle => exact Or.inl (List.mem_of_mem_filter he)
  | closed _ _ => exact Or.inl he
  | delegated _ _ => exact Or.inl he

theorem nodup (h : BookStep rt k n clock l receipt L L') (hBelow : ∀ e ∈ L, e.serial < n)
    (hNodup : (L.map Entry.serial).Nodup) : (L'.map Entry.serial).Nodup := by
  cases h with
  | idle hOther => exact hNodup
  | accepted acc i hQueue hClock hCharged hDisc hIndex =>
    have hPerm := (List.perm_insertIdx ⟨n, acc.record rt.toEnvironment⟩ L hIndex).map Entry.serial
    refine hPerm.nodup_iff.mpr (List.nodup_cons.mpr ⟨?_, hNodup⟩)
    rintro hMem
    obtain ⟨e, he, hSerial⟩ := List.mem_map.mp hMem
    exact absurd hSerial (Nat.ne_of_lt (hBelow e he))
  | fulfilled p hEntry hFulfils => exact hNodup.sublist ((List.eraseIdx_sublist _ _).map Entry.serial)
  | purged oracle => exact hNodup.sublist (List.filter_sublist.map Entry.serial)
  | closed _ _ => exact hNodup
  | delegated _ _ => exact hNodup

/-- An entry leaves only by its own fulfilment, which removes nothing else, or by a purge that
finds it expired. -/
theorem leaves (h : BookStep rt k n clock l receipt L L') {e : Entry} (he : e ∈ L) (hGone : e ∉ L') :
    (∃ p paid, receipt = some (.provided p paid) ∧ Fulfils rt clock l k p e.record ∧
      ∀ e' ∈ L, e' ≠ e → e' ∈ L') ∨
    ∃ oracle paid, receipt = some (.purged k oracle paid) ∧ e.record.stale clock = true := by
  cases h with
  | idle hOther => exact absurd he hGone
  | accepted acc i hQueue hClock hCharged hDisc hIndex =>
    exact absurd ((List.mem_insertIdx hIndex).mpr (Or.inr he)) hGone
  | @fulfilled _ taken p hEntry hFulfils =>
    have hOthers : ∀ e' ∈ L, e' ≠ taken → e' ∈ L.eraseIdx p.index := by
      intro e' he' hne
      obtain ⟨i, hi⟩ := List.mem_iff_getElem?.mp he'
      refine List.mem_eraseIdx_iff_getElem?.mpr ⟨i, ?_, hi⟩
      rintro rfl
      rw [hi] at hEntry
      exact hne (Option.some.inj hEntry)
    obtain rfl : e = taken := by
      by_contra hne
      exact hGone (hOthers e he hne)
    exact Or.inl ⟨p, _, rfl, hFulfils, hOthers⟩
  | purged oracle =>
    refine Or.inr ⟨oracle, _, rfl, ?_⟩
    by_contra hFresh
    exact hGone (List.mem_filter.mpr ⟨he, by simpa using hFresh⟩)
  | closed _ _ => exact absurd he hGone
  | delegated _ _ => exact absurd he hGone

end BookStep

namespace Follows

variable {run : ChainRun rt} {book : Nat → List Entry}

theorem pending_of_mem (h : Follows run k book) {n : Nat} {e : Entry} (he : e ∈ book n) :
    Pending (run.ledger n k) ((book n).map Entry.record) := by
  obtain hPending | ⟨-, hNil⟩ := h.booked n
  · exact hPending
  · rw [hNil] at he
    cases he

/-- Every entry was made by an earlier request, and by one request only. -/
theorem provenance (h : Follows run k book) (n : Nat) :
    ((book n).map Entry.serial).Nodup ∧
      ∀ e ∈ book n, e.serial < n ∧ ∃ acc, EnteredBy run k e acc := by
  induction n with
  | zero =>
    rw [h.start]
    exact ⟨List.nodup_nil, by simp⟩
  | succ n ih =>
    obtain ⟨hNodup, hEntered⟩ := ih
    refine ⟨(h.steps n).nodup (fun e he => (hEntered e he).1) hNodup, ?_⟩
    intro e he
    obtain he | ⟨acc, hReceipt, hQueue, hClock, hCharged, hDisc, rfl⟩ := (h.steps n).mem he
    · obtain ⟨hLt, hBy⟩ := hEntered e he
      exact ⟨Nat.lt_succ_of_lt hLt, hBy⟩
    · exact ⟨Nat.lt_succ_self n, acc, hReceipt, hQueue, hClock, hCharged, hDisc, rfl⟩

theorem entered (h : Follows run k book) {n : Nat} {acc : Accepted}
    (hReceipt : run.receipt n = some (.requested acc)) (hQueue : acc.queue = k) :
    (⟨n, acc.record rt.toEnvironment⟩ : Entry) ∈ book (n + 1) := by
  have hStep := h.steps n
  rw [hReceipt] at hStep
  generalize book (n + 1) = L' at hStep ⊢
  cases hStep with
  | idle hOther => exact absurd (congrArg some hQueue) hOther
  | accepted acc i hQueue hClock hCharged hDisc hIndex =>
    exact (List.mem_insertIdx hIndex).mpr (Or.inl rfl)

/-- An entry that has left does not come back. -/
theorem gone (h : Follows run k book) {n m : Nat} {e : Entry} (hSerial : e.serial < n) (hGone : e ∉ book n)
    (hle : n ≤ m) : e ∉ book m := by
  induction m, hle using Nat.le_induction with
  | base => exact hGone
  | succ m hle ih =>
    intro he
    obtain he | ⟨acc, -, -, -, -, -, rfl⟩ := (h.steps m).mem he
    · exact ih he
    · exact Nat.not_lt.mpr hle hSerial

end Follows

end SolanaVrf
