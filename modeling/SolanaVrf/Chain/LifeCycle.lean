import SolanaVrf.Chain.Books

/-! # The life cycle of a request

What the book of a queue says of one request, from its acceptance to the step that removes
it, in terms of what the program itself reads from the account.
-/

namespace SolanaVrf
set_option autoImplicit false

open Pod Transition

variable {rt : Runtime} {run : ChainRun rt} {k : Pubkey} {book : Nat → List Entry}

/-- The account shows the booked requests while it is a queue, and none are booked otherwise. -/
theorem Follows.shows (h : Follows run k book) (n : Nat) :
    (IsQueue (run.ledger n k) → Lists (run.ledger n k) ((book n).map Entry.record)) ∧
      (¬IsQueue (run.ledger n k) → book n = []) :=
  ⟨fun hQueue => ((h.booked n).pending hQueue).lists, fun hNot => (h.booked n).eq_nil hNot⟩

/-- A queue with a pending request is neither closed nor delegated. -/
theorem Follows.held (h : Follows run k book) {n : Nat} (hPending : book n ≠ []) (accounts : List AccountInfo)
    (data : List UInt8) (l' : Ledger) (identity : Pubkey) (index : UInt8) :
    processCloseOracleQueue rt accounts data (run.ledger n) ≠ .ok (l', .closed identity index k) ∧
      processDelegateOracleQueue rt accounts data (run.ledger n) ≠ .ok (l', .delegated identity index k) := by
  have hBooked := h.booked n
  constructor
  · intro hClose
    obtain ⟨identity, index, hClosed, hReceipt⟩ := processCloseOracleQueue_effect hClose
    cases hReceipt
    exact hPending (List.map_eq_nil_iff.mp (hClosed.emptied _ (hBooked.pending hClosed.isQueue)))
  · intro hDelegate
    obtain ⟨identity, index, hDelegated, hReceipt⟩ := processDelegateOracleQueue_effect hDelegate
    cases hReceipt
    exact hPending (List.map_eq_nil_iff.mp (hDelegated.emptied _ (hBooked.pending hDelegated.isQueue)))

/-- Every accepted request is pending with unchanged fields and payload from the step that accepts
it until one step removes it for good: a fulfilment entitled to it, which removes nothing else, or a
purge at which it has expired. While it is pending its queue can be neither closed nor delegated. -/
theorem request_life_cycle (rt : Runtime) (run : ChainRun rt) (k : Pubkey) :
    ∃ book : Nat → List Entry,
      (∀ n, (IsQueue (run.ledger n k) → Lists (run.ledger n k) ((book n).map Entry.record)) ∧
        (¬IsQueue (run.ledger n k) → book n = [])) ∧
      (∀ n, ((book n).map Entry.serial).Nodup ∧
        ∀ e ∈ book n, e.serial < n ∧ ∃ acc, run.receipt e.serial = some (.requested acc) ∧ acc.queue = k ∧
          e.record = acc.record rt.toEnvironment) ∧
      (∀ n acc, run.receipt n = some (.requested acc) → acc.queue = k →
        (⟨n, acc.record rt.toEnvironment⟩ : Entry) ∈ book (n + 1)) ∧
      (∀ n, ∀ e ∈ book n, e ∈ book (n + 1) ∨ (∀ m, n < m → e ∉ book m) ∧
        ((∃ p paid, run.receipt n = some (.provided p paid) ∧
            Fulfils rt (run.clock n) (run.ledger n) k p e.record ∧ ∀ e' ∈ book n, e' ≠ e → e' ∈ book (n + 1)) ∨
          ∃ oracle paid, run.receipt n = some (.purged k oracle paid) ∧
            e.record.item.ageSecs (QueueItem.createdAtFrom (run.clock n).unixTimestamp) > QUEUE_TTL_SECONDS)) ∧
      ∀ n, book n ≠ [] → ∀ accounts data l' identity index,
        processCloseOracleQueue rt accounts data (run.ledger n) ≠ .ok (l', .closed identity index k) ∧
          processDelegateOracleQueue rt accounts data (run.ledger n) ≠ .ok (l', .delegated identity index k) := by
  obtain ⟨book, hBook⟩ := run.exists_book k
  refine ⟨book, hBook.shows, ?_, fun n acc => hBook.entered, ?_, fun n => hBook.held⟩
  · intro n
    obtain ⟨hNodup, hEntered⟩ := hBook.provenance n
    refine ⟨hNodup, fun e he => ?_⟩
    obtain ⟨hLt, acc, hBy⟩ := hEntered e he
    exact ⟨hLt, acc, hBy.receipt, hBy.queue, hBy.record⟩
  · intro n e he
    by_cases hStays : e ∈ book (n + 1)
    · exact Or.inl hStays
    · refine Or.inr ⟨fun m hm => ?_, ?_⟩
      · have hLt := ((hBook.provenance n).2 e he).1
        exact hBook.gone (Nat.lt_succ_of_lt hLt) hStays hm
      · obtain hFulfilled | ⟨oracle, paid, hReceipt, hStale⟩ := (hBook.steps n).leaves he hStays
        · exact Or.inl hFulfilled
        · exact Or.inr ⟨oracle, paid, hReceipt, of_decide_eq_true hStale⟩

end SolanaVrf
