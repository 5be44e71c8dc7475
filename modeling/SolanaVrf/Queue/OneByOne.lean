import SolanaVrf.Queue.Refinement

/-! # Single-pass and one-by-one removal

`remove_items_matching` frees the matching records in one pass and trims once. Removing the
first matching item by its logical index, again and again, trims after every removal. Both
perform the same writes: freeing a record and lowering the cursor act on different bytes, and
only the last trim shows.
-/

namespace SolanaVrf
set_option autoImplicit false

open Pod Slices Tiling QueueAccount

/-- Removes the first item the predicate matches until there is none; `fuel` bounds the calls. -/
def removeOneByOne (p : QueueItem → Bool) : Nat → QueueAccount → Option (QueueAccount × List QueueItem)
  | 0, _ => none
  | fuel + 1, q => do
    let items ← q.iterItems
    match items.findIdx? p with
    | none => return (q, [])
    | some index =>
      match ← q.removeItem index with
      | (.error _, _) => none
      | (.ok item, q) =>
        let (q, rest) ← removeOneByOne p fuel q
        return (q, item :: rest)

/-! ## Several trims -/

namespace QueueAccount

theorem withHeader_withHeader (q : QueueAccount) (h h' : Queue) :
    (q.withHeader h).withHeader h' = q.withHeader h' := by
  apply eq_of_header_drop
  · rw [header_withHeader, header_withHeader]
  · rw [drop_withHeader, drop_withHeader, drop_withHeader]

theorem trimTo_trimTo (q : QueueAccount) {e e' : Nat} (hLe : e' ≤ e) (hLt : e < 2 ^ 32) :
    (q.trimTo e).trimTo e' = q.trimTo e' := by
  have hEnd := toNat_ofNat32 hLt
  have hEnd' := toNat_ofNat32 (Nat.lt_of_le_of_lt hLe hLt)
  by_cases hBelow : UInt32.ofNat e < q.header.cursor
  · have hBelow' : UInt32.ofNat e' < q.header.cursor := by
      rw [UInt32.lt_iff_toNat_lt] at hBelow ⊢
      omega
    rw [trimTo, trimTo, trimTo, if_pos hBelow, if_pos hBelow', setCursor, header_withHeader]
    split
    · rw [setCursor, header_withHeader, withHeader_withHeader]
      rfl
    · rename_i hNot
      have hSame : UInt32.ofNat e = UInt32.ofNat e' := by
        rw [UInt32.lt_iff_toNat_lt] at hNot
        apply UInt32.toNat_inj.mp
        dsimp only at hNot
        omega
      rw [hSame]
      rfl
  · have hStays : q.trimTo e = q := if_neg hBelow
    rw [hStays]

theorem foldl_unmark_trimTo (q : QueueAccount) (e : Nat) (ms : List (Nat × Record))
    (hPos : ∀ m ∈ ms, 12 ≤ m.1) : ms.foldl unmark (q.trimTo e) = (ms.foldl unmark q).trimTo e := by
  induction ms generalizing q with
  | nil => rfl
  | cons m ms ih =>
    rw [List.foldl_cons, List.foldl_cons, unmark_trimTo q (hPos m List.mem_cons_self) e]
    exact ih (q.unmark m) fun m' hMem => hPos m' (List.mem_cons_of_mem m hMem)

end QueueAccount

/-! ## The pass of a pure predicate -/

section

variable (p : QueueItem → Bool) {recs xs ys : List Record} {r : Record} {q : QueueAccount}

def Record.hit (r : Record) : Bool := r.live && p r.item

def cleared (recs : List Record) : List Record := recs.map fun r => if r.hit p then r.free else r

theorem cleared_cons (r : Record) (recs : List Record) :
    cleared p (r :: recs) = (if r.hit p then r.free else r) :: cleared p recs := rfl

theorem sweep_pure {σ : Type} (onRemoved : σ → QueueItem → σ) (s : σ) (recs : List Record) (pos : Nat) :
    sweep (fun s item => (p item, s)) onRemoved s recs =
      (cleared p recs, ((freed pos recs (cleared p recs)).map fun m => m.2.free.item).foldl onRemoved s) := by
  induction recs generalizing s pos with
  | nil => rfl
  | cons r recs ih =>
    rw [cleared_cons, sweep, freed, Record.hit]
    cases hLive : r.live with
    | false =>
      rw [ih s (pos + alignUp r.size)]
      rfl
    | true =>
      cases hPred : p r.item with
      | false =>
        dsimp only
        rw [ih s (pos + alignUp r.size)]
        simp [hLive]
      | true =>
        dsimp only
        rw [ih (onRemoved s r.free.item) (pos + alignUp r.size)]
        rfl

theorem cleared_pruned (recs : List Record) : Pruned recs (cleared p recs) := by
  have hPruned := sweep_pruned (fun (s : Unit) item => (p item, s)) (fun s _ => s) () recs
  rwa [sweep_pure p _ _ _ 0] at hPruned

theorem cleared_append (xs ys : List Record) : cleared p (xs ++ ys) = cleared p xs ++ cleared p ys :=
  List.map_append

theorem freed_append (pos : Nat) (xs ys : List Record) :
    freed pos (xs ++ ys) (cleared p (xs ++ ys)) =
      freed pos xs (cleared p xs) ++ freed (slots.endAfter pos xs) ys (cleared p ys) := by
  induction xs generalizing pos with
  | nil => rfl
  | cons r xs ih =>
    rw [List.cons_append, cleared_cons, cleared_cons, freed, freed, ih (pos + alignUp r.size),
      slots.endAfter_cons, slots_span]
    cases r.live && !(if r.hit p then r.free else r).live with
    | true => rfl
    | false => rfl

theorem freed_pos {pos : Nat} (recs recs' : List Record) {m : Nat × Record} (hMem : m ∈ freed pos recs recs') :
    pos ≤ m.1 := by
  induction recs generalizing pos recs' with
  | nil => cases hMem
  | cons r recs ih =>
    cases recs' with
    | nil => cases hMem
    | cons r' recs' =>
      rw [freed] at hMem
      split at hMem
      · obtain rfl | hMem := List.mem_cons.mp hMem
        · exact Nat.le_refl _
        · exact Nat.le_trans (Nat.le_add_right _ _) (ih recs' hMem)
      · exact Nat.le_trans (Nat.le_add_right _ _) (ih recs' hMem)

theorem cleared_of_no_hit (h : ∀ r ∈ recs, r.hit p = false) : cleared p recs = recs := by
  rw [cleared]
  conv_rhs => rw [← List.map_id recs]
  apply List.map_congr_left
  intro r hMem
  rw [h r hMem]
  rfl

theorem freed_self (pos : Nat) (recs : List Record) : freed pos recs recs = [] := by
  induction recs generalizing pos with
  | nil => rfl
  | cons r recs ih => rw [freed, ih, Bool.and_not_self, if_neg Bool.false_ne_true]

theorem trim_append_holes {holes : List Record} (h : ∀ r ∈ holes, r.live = false) :
    trim (recs ++ holes) = trim recs := by
  induction holes using List.reverseRecOn with
  | nil => rw [List.append_nil]
  | append_singleton holes hole ih =>
    rw [← List.append_assoc, trim_concat, h hole (by simp), if_neg Bool.false_ne_true]
    exact ih fun r hMem => h r (List.mem_append_left _ hMem)

theorem endAfter_trim_le (pos : Nat) (recs : List Record) :
    slots.endAfter pos (trim recs) ≤ slots.endAfter pos recs := by
  obtain ⟨holes, hSplit, -⟩ := trim_split recs
  conv_rhs => rw [hSplit, Shape.endAfter_append]
  exact slots.le_endAfter _ holes

theorem pass_trim (recs : List Record) (pos : Nat) :
    freed pos (trim recs) (cleared p (trim recs)) = freed pos recs (cleared p recs) ∧
      trim (cleared p (trim recs)) = trim (cleared p recs) := by
  obtain ⟨holes, hSplit, hHoles⟩ := trim_split recs
  have hNone : cleared p holes = holes :=
    cleared_of_no_hit p fun r hMem => by rw [Record.hit, hHoles r hMem, Bool.false_and]
  constructor
  · conv_rhs => rw [hSplit]
    rw [freed_append, hNone, freed_self, List.append_nil]
  · conv_rhs => rw [hSplit]
    rw [cleared_append, hNone, trim_append_holes hHoles]

/-- Freeing the first match leaves the rest of the pass. -/
theorem pass_cons (hNone : ∀ x ∈ xs, x.hit p = false) (hHit : r.hit p = true) (ys : List Record) (pos : Nat) :
    freed pos (xs ++ r :: ys) (cleared p (xs ++ r :: ys)) =
        (slots.endAfter pos xs, r) :: freed pos (xs ++ r.free :: ys) (cleared p (xs ++ r.free :: ys)) ∧
      cleared p (xs ++ r :: ys) = cleared p (xs ++ r.free :: ys) := by
  have hLive : r.live = true := (Bool.and_eq_true _ _ ▸ hHit).1
  have hHead : cleared p (r :: ys) = r.free :: cleared p ys := by
    rw [cleared_cons, hHit, if_pos rfl]
  have hFree : cleared p (r.free :: ys) = r.free :: cleared p ys := rfl
  constructor
  · rw [freed_append, freed_append, cleared_of_no_hit p hNone, freed_self, hHead, hFree, freed, freed, hLive]
    rfl
  · rw [cleared_append, cleared_append, hHead, hFree]

def passed (q : QueueAccount) (recs : List Record) : QueueAccount :=
  ((freed itemsStart recs (cleared p recs)).foldl unmark q).trimTo
    (slots.endAfter itemsStart (trim (cleared p recs)))

def removedItems (recs : List Record) : List QueueItem :=
  (freed itemsStart recs (cleared p recs)).map fun m => m.2.free.item

theorem Represents.removeItemsMatching_pure {σ : Type} (h : Represents q recs)
    (onRemoved : σ → QueueItem → σ) (s : σ) :
    q.removeItemsMatching (fun s item => (p item, s)) onRemoved s =
      some (passed p q recs, (removedItems p recs).foldl onRemoved s) := by
  obtain ⟨q', hEq, -, -, -, rfl⟩ := h.removeItemsMatching_eq (fun s item => (p item, s)) onRemoved s
  rw [hEq, sweep_pure p onRemoved s recs itemsStart]
  rfl

theorem Represents.after_pass (h : Represents q recs) :
    Represents (passed p q recs) (trim (cleared p recs)) ∧ Framed q (passed p q recs) ∧
      slots.Tiled (passed p q recs).acc itemsStart (cleared p recs) := by
  obtain ⟨q', -, hRep, hFramed, hTiled, hBody⟩ :=
    h.removeItemsMatching_eq (fun (s : Unit) item => (p item, s)) (fun s _ => s) ()
  rw [sweep_pure p _ _ _ itemsStart] at hRep hTiled hBody
  have hPassed : q' = passed p q recs := hBody
  rw [← hPassed]
  exact ⟨hRep, hFramed, hTiled⟩

/-! ## One by one -/

theorem no_hit_of_findIdx? (h : ((recs.filter Record.live).map Record.item).findIdx? p = none) :
    ∀ r ∈ recs, r.hit p = false := by
  intro r hMem
  rw [Record.hit, Bool.and_eq_false_imp]
  intro hLive
  exact List.findIdx?_eq_none_iff.mp h _ (List.mem_map_of_mem (List.mem_filter.mpr ⟨hMem, hLive⟩))

theorem first_hit {i : Nat} (hFound : (((xs ++ r :: ys).filter Record.live).map Record.item).findIdx? p = some i)
    (hLive : r.live = true) (hIndex : xs.countP Record.live = i) :
    (∀ x ∈ xs, x.hit p = false) ∧ r.hit p = true := by
  rw [List.filter_append, List.filter_cons_of_pos hLive, List.map_append, List.findIdx?_append] at hFound
  rw [← length_filter_live, ← List.length_map Record.item] at hIndex
  cases hBefore : ((xs.filter Record.live).map Record.item).findIdx? p with
  | some j =>
    rw [hBefore, Option.some_or] at hFound
    cases hFound
    have hLt := (List.findIdx?_eq_some_iff_findIdx_eq.mp hBefore).1
    omega
  | none =>
    rw [hBefore, Option.none_or, List.map_cons, List.findIdx?_cons] at hFound
    constructor
    · exact no_hit_of_findIdx? p hBefore
    · cases hPred : p r.item with
      | true => rw [Record.hit, hLive, hPred]; rfl
      | false =>
        rw [hPred] at hFound
        obtain ⟨j, hRest, hSum⟩ := Option.map_eq_some_iff.mp hFound
        obtain ⟨k, -, hSucc⟩ := Option.map_eq_some_iff.mp hRest
        omega

/-- Removing the first match by its index leaves the body the same pass ends in. -/
theorem Represents.passed_remove (h : Represents q (xs ++ r :: ys)) (hNone : ∀ x ∈ xs, x.hit p = false)
    (hHit : r.hit p = true) :
    passed p ((q.unmark (slots.endAfter itemsStart xs, r)).trimTo
        (slots.endAfter itemsStart (trim (xs ++ r.free :: ys)))) (trim (xs ++ r.free :: ys)) =
      passed p q (xs ++ r :: ys) ∧
    removedItems p (xs ++ r :: ys) = r.free.item :: removedItems p (trim (xs ++ r.free :: ys)) := by
  have hLive : r.live = true := (Bool.and_eq_true _ _ ▸ hHit).1
  obtain ⟨-, hStored, -⟩ := h.free_one hLive
  obtain ⟨hFreed, hCleared⟩ := pass_cons p hNone hHit ys itemsStart
  obtain ⟨hFreedTrim, hClearedTrim⟩ := pass_trim p (xs ++ r.free :: ys) itemsStart
  have hStart (m : Nat × Record) (hMem : m ∈ freed itemsStart (xs ++ r.free :: ys)
      (cleared p (xs ++ r.free :: ys))) : 12 ≤ m.1 := Nat.le_trans (by decide) (freed_pos _ _ hMem)
  have hLe : slots.endAfter itemsStart (trim (cleared p (xs ++ r.free :: ys))) ≤
      slots.endAfter itemsStart (trim (xs ++ r.free :: ys)) := by
    rw [← hClearedTrim, ← (cleared_pruned p (trim (xs ++ r.free :: ys))).endAfter_eq]
    exact endAfter_trim_le itemsStart _
  have hLt := Nat.lt_of_le_of_lt (endAfter_trim_le itemsStart (xs ++ r.free :: ys)) hStored.end_lt
  constructor
  · rw [passed, passed, hFreedTrim, hClearedTrim, foldl_unmark_trimTo _ _ _ hStart,
      trimTo_trimTo _ hLe hLt, hFreed, hCleared]
    rfl
  · rw [removedItems, removedItems, hFreed, hFreedTrim, List.map_cons]

theorem Represents.removeOneByOne_eq {fuel : Nat} (h : Represents q recs)
    (hFuel : recs.countP (Record.hit p) < fuel) :
    removeOneByOne p fuel q = some (passed p q recs, removedItems p recs) := by
  -- induction on the calls allowed, each of which frees one match
  induction fuel generalizing q recs with
  | zero => cases hFuel
  | succ fuel ih =>
    rw [removeOneByOne, h.iterItems_eq]
    simp only [Option.bind_eq_bind, Option.bind_some]
    cases hFound : ((recs.filter Record.live).map Record.item).findIdx? p with
    | none =>
      rw [passed, removedItems, cleared_of_no_hit p (no_hit_of_findIdx? p hFound), freed_self, h.trimmed, List.foldl_nil, h.trimTo_end]
      rfl
    | some i =>
      have hLt : i < recs.countP Record.live := by
        have hBound := (List.findIdx?_eq_some_iff_findIdx_eq.mp hFound).1
        rwa [List.length_map, length_filter_live] at hBound
      obtain ⟨hLe, -⟩ | ⟨xs, r, ys, q', rfl, hLive, hIndex, hEq, hRep, -, -, rfl⟩ := h.removeItem_eq i
      · omega
      obtain ⟨hNone, hHit⟩ := first_hit p hFound hLive hIndex
      obtain ⟨hPassed, hItems⟩ := h.passed_remove p hNone hHit
      have hCount : (trim (xs ++ r.free :: ys)).countP (Record.hit p) < fuel := by
        obtain ⟨holes, hSplit, -⟩ := trim_split (xs ++ r.free :: ys)
        have hLe : (trim (xs ++ r.free :: ys)).countP (Record.hit p) ≤ (xs ++ r.free :: ys).countP (Record.hit p) := by
          conv_rhs => rw [hSplit]
          exact (List.sublist_append_left _ holes).countP_le
        rw [List.countP_append, List.countP_cons_of_neg (by simp [Record.hit])] at hLe
        rw [List.countP_append, List.countP_cons_of_pos hHit] at hFuel
        omega
      simp only [hEq, Option.bind_some, ih hRep hCount, hPassed, hItems, Option.pure_def]

/-! ## Reachable bodies -/

/-- The bodies the program can leave in a queue account. -/
inductive Reachable : QueueAccount → Prop
  | fresh {n : Nat} {q : QueueAccount} (hLow : 12 ≤ n) (hHigh : n + 8 ≤ 2 ^ 32)
      (hLoad : load (AccountDiscriminator.queue.toBytes ++ List.replicate n 0) = .ok q) : Reachable q
  | call {q q' : QueueAccount} {call : Call} {outcome : Outcome} (h : Reachable q)
      (hDisc : call.discriminatorLength ≤ 8) (hApply : call.apply q = some (outcome, q')) : Reachable q'
  | setIndex {q : QueueAccount} (h : Reachable q) (index : UInt8) : Reachable (q.setIndex index)
  | setPaused {q : QueueAccount} (h : Reachable q) (paused : UInt8) : Reachable (q.setPaused paused)

theorem Reachable.represents (h : Reachable q) : ∃ recs, Represents q recs := by
  induction h with
  | fresh hLow hHigh hLoad =>
    obtain ⟨q₀, hLoad₀, hRep, -⟩ := load_zeroed hLow hHigh
    rw [hLoad₀] at hLoad
    cases hLoad
    exact ⟨[], hRep⟩
  | @call q q' call outcome _ hDisc hApply ih =>
    obtain ⟨recs, hRep⟩ := ih
    have hHolds : Holds q ((recs.filter Record.live).map (Entry.mk 0)) := ⟨recs, hRep, by simp [Function.comp_def]⟩
    obtain ⟨outcome', q'', L, hApply', -, recs', hRep', -⟩ := hHolds.apply 0 call hDisc
    rw [hApply] at hApply'
    cases hApply'
    exact ⟨recs', hRep'⟩
  | setIndex _ index ih =>
    obtain ⟨recs, hRep⟩ := ih
    exact ⟨recs, hRep.withHeader _ rfl rfl⟩
  | setPaused _ paused ih =>
    obtain ⟨recs, hRep⟩ := ih
    exact ⟨recs, hRep.withHeader _ rfl rfl⟩

/-- One pass with a predicate and removals of the first match by logical index, repeated until
none is left, end in the same bytes and hand out the same items in the same order. -/
theorem single_pass_eq_one_by_one (h : Reachable q) (p : QueueItem → Bool) :
    ∃ q' removed,
      (∀ {σ : Type} (onRemoved : σ → QueueItem → σ) (s : σ),
        q.removeItemsMatching (fun s item => (p item, s)) onRemoved s =
          some (q', removed.foldl onRemoved s)) ∧
      ∀ fuel, q.len < fuel → removeOneByOne p fuel q = some (q', removed) := by
  obtain ⟨recs, hRep⟩ := h.represents
  refine ⟨passed p q recs, removedItems p recs, fun onRemoved s => hRep.removeItemsMatching_pure p onRemoved s, ?_⟩
  intro fuel hFuel
  apply hRep.removeOneByOne_eq p
  have hLe : recs.countP (Record.hit p) ≤ recs.countP Record.live := by
    apply List.countP_mono_left
    intro r _ hHit
    exact (Bool.and_eq_true _ _ ▸ hHit).1
  rw [len, hRep.count] at hFuel
  omega

end

theorem Reachable.run {q q' : QueueAccount} {calls : List Call} {outcomes : List Outcome} (h : Reachable q)
    (hDisc : ∀ call ∈ calls, call.discriminatorLength ≤ 8) (hRun : Call.run q calls = some (outcomes, q')) :
    Reachable q' := by
  induction calls generalizing q outcomes with
  | nil =>
    cases hRun
    exact h
  | cons call calls ih =>
    simp only [Call.run, Option.bind_eq_bind, Option.bind_eq_some_iff] at hRun
    obtain ⟨⟨outcome, q₁⟩, hApply, ⟨rest, q₂⟩, hRest, hLast⟩ := hRun
    cases hLast
    exact ih (h.call (hDisc call List.mem_cons_self) hApply)
      (fun call hMem => hDisc call (List.mem_cons_of_mem _ hMem)) hRest

/-- Four requests, the second of which has been removed; the last one ends off the alignment. -/
def mixedCalls : List Call :=
  let base : QueueItem := QueueItem.layout.decode (List.replicate 96 0)
  [.addItem { base with slot := 1 } [1, 2, 3] [] [4, 5], .addItem { base with slot := 7 } [6] [⟨ID, 1⟩] [],
    .addItem { base with slot := 1 } [] [] [], .addItem { base with slot := 1 } [9] [] [8, 8], .removeItem 1]

def mixedQueue : Option QueueAccount :=
  match load (AccountDiscriminator.queue.toBytes ++ List.replicate 600 0) with
  | .ok q => (Call.run q mixedCalls).map Prod.snd
  | .error _ => none

theorem mixedQueue_reachable {q : QueueAccount} (h : mixedQueue = some q) : Reachable q := by
  unfold mixedQueue at h
  split at h
  · rename_i q₀ hLoad
    obtain ⟨⟨outcomes, q'⟩, hRun, rfl⟩ := Option.map_eq_some_iff.mp h
    refine (Reachable.fresh (by decide) (by decide) hLoad).run ?_ hRun
    simp [mixedCalls, Call.discriminatorLength, Call.insertion?]
  · cases h

theorem single_pass_eq_one_by_one_mixed :
    (mixedQueue.bind fun q => removeOneByOne (fun item => item.argsLen == 2) 4 q).map
        (fun x => (x.1.header.itemCount, x.1.header.cursor, x.2.length)) = some (1, 352, 2) ∧
    ∃ q q' removed, mixedQueue = some q ∧ Reachable q ∧
      q.removeItemsMatching (fun s item => (item.argsLen == 2, s)) (fun s item => s ++ [item]) [] =
        some (q', removed.foldl (fun s item => s ++ [item]) []) ∧
      ∀ fuel, q.len < fuel → removeOneByOne (fun item => item.argsLen == 2) fuel q = some (q', removed) := by
  refine ⟨by decide +kernel, ?_⟩
  obtain ⟨q, hQueue⟩ := Option.isSome_iff_exists.mp (show mixedQueue.isSome = true by decide +kernel)
  have hReachable := mixedQueue_reachable hQueue
  obtain ⟨q', removed, hPass, hSteps⟩ := single_pass_eq_one_by_one hReachable fun item => item.argsLen == 2
  exact ⟨q, q', removed, hQueue, hReachable, hPass _ _, hSteps⟩

end SolanaVrf
