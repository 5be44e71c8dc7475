import SolanaVrf.Chain.Books
import Mathlib.Algebra.BigOperators.Group.Finset.Basic
import Mathlib.Algebra.BigOperators.Intervals

/-! # Fees: solvency and conservation

Every event moves the sum due on the book by what it charges less what it pays out, and
moves the lamports of the queue at least as far. A queue is opened rent exempt, so it
always holds its rent and everything due.
-/

namespace SolanaVrf
set_option autoImplicit false

open Pod Fallible Transition

variable {rt : Runtime} {clock : Clock} {l l' : Ledger} {k : Pubkey} {L L' : List Entry} {n : Nat}

def chargedIn (k : Pubkey) : Option Receipt → Nat
  | some (.requested acc) => if acc.queue = k then acc.charged else 0
  | _ => 0

def paidOut (k : Pubkey) : Option Receipt → Nat
  | some (.provided p paid) => if p.queue.key = k then paid else 0
  | some (.purged queue _ paid) => if queue = k then paid else 0
  | _ => 0

theorem no_fees {receipt : Option Receipt} (h : receipt.bind Receipt.queue? ≠ some k) :
    chargedIn k receipt = 0 ∧ paidOut k receipt = 0 := by
  cases receipt with
  | none => exact ⟨rfl, rfl⟩
  | some receipt =>
    cases receipt with
    | requested acc => exact ⟨if_neg fun hk => h (congrArg some hk), rfl⟩
    | provided p paid => exact ⟨rfl, if_neg fun hk => h (congrArg some hk)⟩
    | purged queue oracle paid => exact ⟨rfl, if_neg fun hk => h (congrArg some hk)⟩
    | _ => exact ⟨rfl, rfl⟩

theorem due_of_paying (hPaying : isFeeExemptEphemeralQueue k = false) (r : Record) : due k r = r.cost := by
  rw [due, hPaying, if_neg Bool.false_ne_true]

def totalDue (k : Pubkey) (L : List Entry) : Nat := (L.map fun e => due k e.record).sum

theorem totalDue_eraseIdx {i : Nat} {e : Entry} (h : L[i]? = some e) :
    totalDue k (L.eraseIdx i) + due k e.record = totalDue k L := by
  induction L generalizing i with
  | nil => cases h
  | cons head L ih =>
    cases i with
    | zero =>
      cases h
      simp only [totalDue, List.eraseIdx_cons_zero, List.map_cons, List.sum_cons]
      omega
    | succ i =>
      have hRest := ih h
      simp only [totalDue, List.eraseIdx_cons_succ, List.map_cons, List.sum_cons] at hRest ⊢
      omega

theorem totalDue_filter (p : Entry → Bool) (L : List Entry) :
    totalDue k (L.filter fun e => !p e) + totalDue k (L.filter p) = totalDue k L := by
  induction L with
  | nil => rfl
  | cons e L ih =>
    simp only [totalDue] at ih ⊢
    cases hp : p e with
    | true => simp [hp]; omega
    | false => simp [hp]; omega

theorem BookStep.totalDue_add {receipt : Option Receipt} (h : BookStep rt k n clock l receipt L L') :
    totalDue k L' + paidOut k receipt = totalDue k L + chargedIn k receipt := by
  cases h with
  | idle hOther =>
    obtain ⟨hIn, hOut⟩ := no_fees hOther
    rw [hIn, hOut]
  | accepted acc i hQueue hClock hCharged hDisc hIndex =>
    have hPerm := (List.perm_insertIdx ⟨n, acc.record rt.toEnvironment⟩ L hIndex).map fun e => due k e.record
    rw [totalDue, hPerm.sum_eq, List.map_cons, List.sum_cons]
    simp only [paidOut, chargedIn, if_pos hQueue, hCharged, totalDue]
    omega
  | fulfilled p hEntry hFulfils =>
    simp only [paidOut, chargedIn, if_pos hFulfils.queue]
    exact totalDue_eraseIdx hEntry
  | purged oracle =>
    simp only [paidOut, chargedIn, if_pos]
    exact totalDue_filter _ L
  | closed _ _ => rfl
  | delegated _ _ => rfl

/-! ## Lamports -/

theorem ExternalAt.keeps_lamports {env : Environment} {a a' : Account} (h : ExternalAt env k a a')
    (hQueue : IsQueue a) : a'.data.length = a.data.length ∧ a.lamports ≤ a'.lamports := by
  obtain ⟨-, hData, hLamports⟩ := h.owned hQueue.1
  rw [hData]
  exact ⟨rfl, hLamports⟩

/-- A queue that stays a queue keeps its size, and its lamports follow the fees. -/
theorem QueueEffect.lamports {receipt : Receipt} (h : QueueEffect rt clock l k receipt l') {R : List Record}
    (hPending : Pending (l k) R) (hQueue : IsQueue (l' k)) :
    (l' k).data.length = (l k).data.length ∧
      (l k).lamports + chargedIn k (some receipt) ≤ (l' k).lamports + paidOut k (some receipt) := by
  cases h with
  | external hOther h =>
    obtain ⟨hIn, hOut⟩ : chargedIn k (some receipt) = 0 ∧ paidOut k (some receipt) = 0 := no_fees hOther
    rw [hIn, hOut]
    exact h.keeps_lamports hPending.isQueue
  | requested h hk =>
    subst hk
    obtain ⟨i, -, -, hLength⟩ := h.pending _ hPending
    simp only [chargedIn, paidOut, if_true]
    exact ⟨hLength, h.lamports.ge⟩
  | provided h hk =>
    subst hk
    obtain ⟨r, -, -, -, -, hLength, hLamports⟩ := h.pending hPending
    simp only [chargedIn, paidOut, if_true]
    exact ⟨hLength, hLamports⟩
  | purged h =>
    obtain ⟨-, -, hLength⟩ := h.pending _ hPending
    simp only [chargedIn, paidOut, if_true]
    exact ⟨hLength, h.lamports.ge⟩
  | paused h => exact ⟨(h.pending _ hPending).2, h.lamports.ge⟩
  | closed hEmptied hNot _ _ => exact absurd hQueue hNot
  | delegated hEmptied hNot _ _ => exact absurd hQueue hNot

/-! ## Along a run -/

namespace Follows

variable {run : ChainRun rt} {book : Nat → List Entry}

theorem solvent (h : Follows run k book) (n : Nat) (hQueue : IsQueue (run.ledger n k)) :
    rt.minimumBalance (run.ledger n k).data.length + totalDue k (book n) ≤ (run.ledger n k).lamports := by
  induction n with
  | zero => exact absurd hQueue (not_queue_of_zero (run.initial.zeroed k hQueue.1))
  | succ n ih =>
    have hDue := (h.steps n).totalDue_add
    obtain ⟨receipt, hReceipt, hEffect⟩ | ⟨hReceipt, hExternal⟩ := run.step_cases n
    · rw [hReceipt] at hDue
      by_cases hBefore : IsQueue (run.ledger n k)
      · obtain ⟨hLength, hLamports⟩ :=
          (hEffect.at_queue hBefore).lamports ((h.booked n).pending hBefore) hQueue
        have hSolvent := ih hBefore
        rw [hLength]
        omega
      · -- the queue has just been opened, and nothing is booked yet
        obtain ⟨identity, index, rfl, hOpened⟩ := hEffect.born hBefore hQueue
        have hOther : (some receipt).bind Receipt.queue? ≠ some _ := fun hk => hBefore (hEffect.isQueue hk)
        obtain ⟨hIn, -⟩ := no_fees hOther
        rw [(h.booked n).eq_nil hBefore, hIn] at hDue
        have hRent := hOpened.rent
        change totalDue _ _ + _ = 0 at hDue
        omega
    · rw [hReceipt] at hDue
      have hBefore := (hExternal k).isQueue_iff.mp hQueue
      obtain ⟨hLength, hLamports⟩ := (hExternal k).keeps_lamports hBefore
      have hSolvent := ih hBefore
      simp only [paidOut, chargedIn] at hDue
      rw [hLength]
      omega

theorem conserved (h : Follows run k book) (n : Nat) :
    ∑ t ∈ Finset.range n, paidOut k (run.receipt t) + totalDue k (book n) =
      ∑ t ∈ Finset.range n, chargedIn k (run.receipt t) := by
  induction n with
  | zero =>
    rw [h.start]
    rfl
  | succ n ih =>
    have hDue := (h.steps n).totalDue_add
    rw [Finset.sum_range_succ, Finset.sum_range_succ]
    omega

/-- The sum due is what was charged for the requests still pending. -/
theorem totalDue_eq_charged (h : Follows run k book) (n : Nat) :
    totalDue k (book n) =
      ∑ s ∈ (Finset.range n).filter (fun s => s ∈ (book n).map Entry.serial), chargedIn k (run.receipt s) := by
  obtain ⟨hNodup, hEntered⟩ := h.provenance n
  have hSerials : (Finset.range n).filter (fun s => s ∈ (book n).map Entry.serial) =
      ((book n).map Entry.serial).toFinset := by
    ext s
    simp only [Finset.mem_filter, Finset.mem_range, List.mem_toFinset, and_iff_right_iff_imp, List.mem_map]
    rintro ⟨e, he, rfl⟩
    exact (hEntered e he).1
  have hEach : (book n).map (fun e => due k e.record) =
      ((book n).map Entry.serial).map fun s => chargedIn k (run.receipt s) := by
    rw [List.map_map]
    refine List.map_congr_left fun e he => ?_
    obtain ⟨-, acc, hBy⟩ := hEntered e he
    rw [Function.comp_apply, hBy.receipt]
    simp only [chargedIn, if_pos hBy.queue, hBy.charged]
  rw [hSerials, List.sum_toFinset _ hNodup, ← hEach, totalDue]

/-- What was paid out is what was charged for the requests that have left. -/
theorem paid_eq_charged (h : Follows run k book) (n : Nat) :
    ∑ t ∈ Finset.range n, paidOut k (run.receipt t) =
      ∑ s ∈ (Finset.range n).filter (fun s => s ∉ (book n).map Entry.serial), chargedIn k (run.receipt s) := by
  have hTotal := h.conserved n
  have hSplit := Finset.sum_filter_add_sum_filter_not (Finset.range n)
    (fun s => s ∈ (book n).map Entry.serial) fun s => chargedIn k (run.receipt s)
  rw [h.totalDue_eq_charged] at hTotal
  omega

theorem fulfilment_funded (h : Follows run k book) (hPaying : isFeeExemptEphemeralQueue k = false) {n : Nat} {accounts : List AccountInfo} {data : List UInt8}
    {l₁ l₂ : Ledger} {p : Prepared}
    (hPrepare : prepareCallback rt (run.clock n) accounts data (run.ledger n) = .ok (l₁, p))
    (hk : p.queue.key = k) (hInvoke : rt.invokeSigned p.invocation l₁ = .ok l₂) :
    transferFee k p.oracle.key p.item.cost l₂ ≠ .error (.program .insufficientFunds) := by
  obtain ⟨hPrepares, -⟩ := prepareCallback_effect hPrepare
  subst hk
  have hQueue := hPrepares.isQueue
  obtain ⟨r, hAt, -, hItem, -, hPending, -⟩ := hPrepares.pending _ ((h.booked n).pending hQueue)
  obtain ⟨e, hEntry, rfl⟩ : ∃ e, (book n)[p.index]? = some e ∧ e.record = r := by simpa using hAt
  obtain ⟨-, -, hLamports⟩ := (rt.external_of_invokeSigned _ _ _ hInvoke p.queue.key).owned hPending.isQueue.1
  obtain ⟨q, rfl⟩ := hPrepares.stored
  rw [storeQueue_lamports] at hLamports
  have hSolvent := h.solvent n hQueue
  have hShare := totalDue_eraseIdx (k := p.queue.key) hEntry
  rw [due_of_paying hPaying] at hShare
  refine transferFee_ne_insufficient ?_
  rw [hItem]
  change e.record.cost ≤ _
  omega

theorem purge_funded (h : Follows run k book) (hPaying : isFeeExemptEphemeralQueue k = false) {n : Nat}
    (hQueue : IsQueue (run.ledger n k)) {now : UInt16} {q q' : QueueAccount} {total : Nat}
    (hOpen : openQueue (run.ledger n) k = .ok q) (hPurge : purgeQueue now q = .ok (q', total)) (oracle : Pubkey) :
    transferFee k oracle total (storeQueue (run.ledger n) k q') ≠ .error (.program .insufficientFunds) := by
  obtain ⟨q₀, recs, hHosts, hLive⟩ := (h.booked n).pending hQueue
  rw [hHosts.openQueue_eq] at hOpen
  cases hOpen
  obtain ⟨q₁, recs', hEq, -⟩ := purgeQueue_eq hHosts.represents now
  rw [hEq] at hPurge
  cases hPurge
  have hSolvent := h.solvent n hQueue
  have hLe := sum_filter_le (fun r => expired now r.item) (recs.filter Record.live)
  have hTotal : totalDue k (book n) = ((recs.filter Record.live).map Record.cost).sum := by
    rw [hLive, totalDue, List.map_map]
    exact congrArg List.sum (List.map_congr_left fun e _ => due_of_paying hPaying e.record)
  refine transferFee_ne_insufficient ?_
  rw [storeQueue_lamports]
  omega

end Follows

/-- A queue that pays fees always holds its rent and the cost of every pending request, so neither a
fulfilment nor a purge finds it short, and what these two move to the oracle is, over any run,
exactly what was charged for the requests that have left. -/
theorem fee_solvency_and_conservation (rt : Runtime) (run : ChainRun rt) (k : Pubkey)
    (hPaying : isFeeExemptEphemeralQueue k = false) :
    ∃ book : Nat → List Entry,
      (∀ n, IsQueue (run.ledger n k) → Lists (run.ledger n k) ((book n).map Entry.record) ∧
        rt.minimumBalance (run.ledger n k).data.length + ((book n).map fun e => e.item.cost).sum ≤
          (run.ledger n k).lamports) ∧
      (∀ n accounts data l₁ p l₂, prepareCallback rt (run.clock n) accounts data (run.ledger n) = .ok (l₁, p) →
        p.queue.key = k → rt.invokeSigned p.invocation l₁ = .ok l₂ →
        transferFee k p.oracle.key p.item.cost l₂ ≠ .error (.program .insufficientFunds)) ∧
      (∀ n now q q' total oracle, IsQueue (run.ledger n k) → openQueue (run.ledger n) k = .ok q →
        purgeQueue now q = .ok (q', total) →
        transferFee k oracle total (storeQueue (run.ledger n) k q') ≠ .error (.program .insufficientFunds)) ∧
      (∀ n acc, run.receipt n = some (.requested acc) → acc.queue = k → acc.charged = cost acc.highPriority ∧
        (run.ledger (n + 1) k).lamports = (run.ledger n k).lamports + acc.charged) ∧
      (∀ n p paid, run.receipt n = some (.provided p paid) → p.queue.key = k →
        ∃ l₁ l₂, Prepares rt (run.clock n) p (run.ledger n) l₁ ∧ rt.invokeSigned p.invocation l₁ = .ok l₂ ∧
          (run.ledger (n + 1) k).lamports + paid = (l₂ k).lamports ∧
          (run.ledger (n + 1) p.oracle.key).lamports = (l₂ p.oracle.key).lamports + paid) ∧
      (∀ n oracle paid, run.receipt n = some (.purged k oracle paid) →
        (run.ledger (n + 1) k).lamports + paid = (run.ledger n k).lamports ∧
          (run.ledger (n + 1) oracle).lamports = (run.ledger n oracle).lamports + paid) ∧
      ∀ n, ∑ t ∈ Finset.range n, paidOut k (run.receipt t) =
        ∑ s ∈ (Finset.range n).filter (fun s => s ∉ (book n).map Entry.serial), chargedIn k (run.receipt s) := by
  obtain ⟨book, hBook⟩ := run.exists_book k
  refine ⟨book, ?_, ?_, ?_, ?_, ?_, ?_, hBook.paid_eq_charged⟩
  · intro n hQueue
    refine ⟨((hBook.booked n).pending hQueue).lists, ?_⟩
    have hSolvent := hBook.solvent n hQueue
    rwa [totalDue, List.map_congr_left fun e _ => due_of_paying hPaying e.record] at hSolvent
  · intro n accounts data l₁ p l₂ hPrepare hk hInvoke
    exact hBook.fulfilment_funded hPaying hPrepare hk hInvoke
  · intro n now q q' total oracle hQueue hOpen hPurge
    exact hBook.purge_funded hPaying hQueue hOpen hPurge oracle
  · intro n acc hReceipt hk
    subst hk
    cases run.effect hReceipt with
    | requested h =>
      refine ⟨?_, h.lamports⟩
      rw [h.charged, charged, hPaying, if_neg Bool.false_ne_true]
  · intro n p paid hReceipt hk
    subst hk
    cases run.effect hReceipt with
    | provided h =>
      obtain ⟨l₁, l₂, hPrepares, hInvoke, hCollect⟩ := h.callback
      obtain ⟨-, -, hQueue, hOracle, -⟩ := collectFee_effect hCollect
      rw [← h.paid] at hQueue hOracle
      exact ⟨l₁, l₂, hPrepares, hInvoke, hQueue, hOracle⟩
  · intro n oracle paid hReceipt
    cases run.effect hReceipt with
    | purged h => exact ⟨h.lamports, h.credited⟩

theorem fee_solvency_and_conservation_sample : isFeeExemptEphemeralQueue Sample.queueKey = false ∧
    ∃ book : Nat → List Entry,
      Sample.runtime.minimumBalance 200 + ((book 4).map fun e => e.item.cost).sum ≤
        (Sample.run.ledger 4 Sample.queueKey).lamports ∧
      500000 = ∑ s ∈ (Finset.range 6).filter (fun s => s ∉ (book 6).map Entry.serial),
        chargedIn Sample.queueKey (Sample.run.receipt s) := by
  have hPaying : isFeeExemptEphemeralQueue Sample.queueKey = false := by decide +kernel
  have hQueue : IsQueue (Sample.run.ledger 4 Sample.queueKey) ∧
      (Sample.run.ledger 4 Sample.queueKey).data.length = 200 := by
    unfold IsQueue
    decide +kernel
  obtain ⟨book, hSolvent, -, -, -, -, -, hPaid⟩ :=
    fee_solvency_and_conservation Sample.runtime Sample.run Sample.queueKey hPaying
  refine ⟨hPaying, book, ?_, ?_⟩
  · rw [← hQueue.2]
    exact (hSolvent 4 hQueue.1).2
  · rw [← hPaid 6]
    decide +kernel

end SolanaVrf
