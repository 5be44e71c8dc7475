import SolanaVrf.Queue.Determined

/-! # The layout of reachable bodies

The records a scan visits lie end to end from offset 16, each described exactly by its own
item, the last one live, with the cursor at its end. The layout is stated over what
`scan_items` reports, so that it can be read without the list of records that proves it.
-/

namespace SolanaVrf
set_option autoImplicit false

open Pod Slices Tiling QueueAccount

/-! ## Visits -/

namespace Visit

def live (v : Visit) : Bool := v.item.used == 1

def payloadEnd (v : Visit) : Nat :=
  v.itemPos + 96 + v.item.callbackDiscriminatorLen.toNat + 33 * v.item.metasLen.toNat + v.item.argsLen.toNat

end Visit

def QueueAccount.visited (q : QueueAccount) : Option (List Visit) :=
  (q.scanItems (R := Unit) (fun vs logicalIndex itemPos next item =>
    (vs ++ [⟨logicalIndex, itemPos, next, item⟩], none)) []).map Prod.fst

variable {q : QueueAccount} {recs : List Record}

theorem foldl_concat {α : Type} (xs out : List α) : xs.foldl (fun out x => out ++ [x]) out = out ++ xs := by
  induction xs generalizing out with
  | nil => rw [List.append_nil]; rfl
  | cons x xs ih => rw [List.foldl_cons, ih, List.append_assoc, List.singleton_append]

theorem Stored.visited_eq (h : Stored q recs) : q.visited = some (visits 0 itemsStart recs) := by
  rw [visited, h.scanItems_eq, walk_fold, Option.map_some, foldl_concat, List.nil_append]

theorem visits_split {index pos : Nat} {before after : List Visit} {v : Visit}
    (h : visits index pos recs = before ++ v :: after) :
    ∃ xs r ys, recs = xs ++ r :: ys ∧ before = visits index pos xs ∧
      v = r.visit (index + xs.countP Record.live) (slots.endAfter pos xs) ∧
      after = visits (index + (xs ++ [r]).countP Record.live) (slots.endAfter pos (xs ++ [r])) ys := by
  induction recs generalizing index pos before with
  | nil =>
    rw [visits] at h
    simp at h
  | cons r recs ih =>
    rw [visits_cons] at h
    cases before with
    | nil =>
      obtain ⟨rfl, rfl⟩ := List.cons_eq_cons.mp h
      refine ⟨[], r, recs, rfl, rfl, by simp, ?_⟩
      rw [List.nil_append, ← index_cons, Shape.endAfter_cons, Shape.endAfter_nil, slots_span]
      rfl
    | cons v' before =>
      obtain ⟨rfl, hRest⟩ := List.cons_eq_cons.mp h
      obtain ⟨xs, r', ys, rfl, rfl, rfl, rfl⟩ := ih hRest
      refine ⟨r :: xs, r', ys, rfl, rfl, ?_, ?_⟩
      · rw [index_cons, Shape.endAfter_cons, slots_span]
      · rw [index_cons, List.cons_append, Shape.endAfter_cons, slots_span]

theorem exists_of_mem_visits {index pos : Nat} {v : Visit} (h : v ∈ visits index pos recs) :
    ∃ xs r ys, recs = xs ++ r :: ys ∧ v = r.visit (index + xs.countP Record.live) (slots.endAfter pos xs) := by
  obtain ⟨before, after, hSplit⟩ := List.append_of_mem h
  obtain ⟨xs, r, ys, hRecs, -, hVisit, -⟩ := visits_split hSplit
  exact ⟨xs, r, ys, hRecs, hVisit⟩

theorem countP_visits (index pos : Nat) (recs : List Record) :
    (visits index pos recs).countP Visit.live = recs.countP Record.live := by
  induction recs generalizing index pos with
  | nil => rfl
  | cons r recs ih => rw [visits_cons, List.countP_cons, List.countP_cons, ih]; rfl

theorem Record.Placed.payloadEnd {r : Record} {pos : Nat} (h : r.Placed pos) (index : Nat) :
    (r.visit index pos).payloadEnd = pos + r.size := by
  change pos + 96 + r.item.callbackDiscriminatorLen.toNat + 33 * r.item.metasLen.toNat + r.item.argsLen.toNat = _
  rw [h.discLen, h.metasLen, h.argsLen, Record.size]
  omega

/-! ## The layout -/

/-- What the visits of a scan say about the body. -/
structure Layout (q : QueueAccount) (vs : List Visit) : Prop where
  start : ∀ v, vs.head? = some v → v.itemPos = 16
  contiguous : vs.IsChain fun v w => w.itemPos = v.next
  aligned : ∀ v ∈ vs, v.itemPos % 8 = 0 ∧ v.next = alignUp v.payloadEnd
  offsets : ∀ v ∈ vs, v.item.callbackDiscriminatorOffset.toNat = v.itemPos + 96 ∧
    v.item.metasOffset.toNat = v.itemPos + 96 + v.item.callbackDiscriminatorLen.toNat ∧
    v.item.argsOffset.toNat =
      v.itemPos + 96 + v.item.callbackDiscriminatorLen.toNat + 33 * v.item.metasLen.toNat
  inside : ∀ v ∈ vs, Queue.layout.size ≤ v.itemPos ∧ v.payloadEnd ≤ q.acc.length
  disjoint : vs.Pairwise fun v w => v.payloadEnd ≤ w.itemPos
  lastLive : ∀ v, vs.getLast? = some v → v.live = true
  cursor : vs = [] ∧ q.header.cursor.toNat = 16 ∨ ∃ v, vs.getLast? = some v ∧
    (q.header.cursor.toNat = v.payloadEnd ∨ q.header.cursor.toNat = alignUp v.payloadEnd)
  cursor_le : q.header.cursor.toNat ≤ q.acc.length
  count : q.header.itemCount.toNat = vs.countP Visit.live

theorem visits_chain (index pos : Nat) (recs : List Record) :
    (visits index pos recs).IsChain fun v w => w.itemPos = v.next := by
  induction recs generalizing index pos with
  | nil => exact .nil
  | cons r recs ih =>
    cases recs with
    | nil => exact .singleton _
    | cons r' recs => exact .cons_cons rfl (ih _ _)

theorem visits_disjoint {acc : List UInt8} {pos : Nat} (index : Nat) (h : slots.Tiled acc pos recs) :
    (visits index pos recs).Pairwise fun v w => v.payloadEnd ≤ w.itemPos := by
  induction recs generalizing index pos with
  | nil => exact .nil
  | cons r recs ih =>
    obtain ⟨hPlaced, -, hRest⟩ := h
    rw [visits_cons]
    refine .cons ?_ (ih _ hRest)
    intro w hw
    obtain ⟨xs, r', ys, -, rfl⟩ := exists_of_mem_visits hw
    have hAlign := le_alignUp r.size
    have hAfter := slots.le_endAfter (pos + alignUp r.size) xs
    rw [hPlaced.payloadEnd]
    exact Nat.le_trans (Nat.add_le_add_left hAlign pos) hAfter

theorem getLast?_visits_concat (index pos : Nat) (xs : List Record) (r : Record) :
    (visits index pos (xs ++ [r])).getLast? =
      some (r.visit (index + xs.countP Record.live) (slots.endAfter pos xs)) := by
  rw [visits_append, visits_cons]
  exact List.getLast?_concat

theorem Represents.layout (h : Represents q recs) (hCursor : q.header.cursor.toNat ≤ q.acc.length) :
    Layout q (visits 0 itemsStart recs) where
  start v hv := by
    cases recs with
    | nil => cases hv
    | cons r recs => cases hv; rfl
  contiguous := visits_chain 0 itemsStart recs
  aligned v hv := by
    obtain ⟨xs, r, ys, rfl, rfl⟩ := exists_of_mem_visits hv
    obtain ⟨hPlaced, -⟩ := h.tiled.at
    refine ⟨hPlaced.aligned, ?_⟩
    rw [hPlaced.payloadEnd, alignUp_add hPlaced.aligned]
    rfl
  offsets v hv := by
    obtain ⟨xs, r, ys, rfl, rfl⟩ := exists_of_mem_visits hv
    obtain ⟨hPlaced, -⟩ := h.tiled.at
    change r.item.callbackDiscriminatorOffset.toNat = _ ∧ r.item.metasOffset.toNat = _ + _ + r.item.callbackDiscriminatorLen.toNat ∧
      r.item.argsOffset.toNat = _ + _ + r.item.callbackDiscriminatorLen.toNat + 33 * r.item.metasLen.toNat
    rw [hPlaced.discLen, hPlaced.metasLen]
    exact ⟨hPlaced.discOffset, hPlaced.metasOffset, hPlaced.argsOffset⟩
  inside v hv := by
    obtain ⟨xs, r, ys, rfl, rfl⟩ := exists_of_mem_visits hv
    obtain ⟨hPlaced, -⟩ := h.tiled.at
    have hLe := h.tiled.image_le_length
    rw [slots_image, Record.length_bytes] at hLe
    rw [hPlaced.payloadEnd]
    exact ⟨Nat.le_trans (by decide) (slots.le_endAfter itemsStart xs), hLe⟩
  disjoint := visits_disjoint 0 h.tiled
  lastLive v hv := by
    obtain rfl | ⟨xs, r, rfl⟩ := List.eq_nil_or_concat recs
    · cases hv
    · rw [List.concat_eq_append] at h hv
      rw [getLast?_visits_concat] at hv
      cases hv
      have hLast := (trim_eq_self_iff _).mp h.trimmed (by simp)
      rwa [List.getLast_append_singleton] at hLast
  cursor := by
    obtain rfl | ⟨xs, r, rfl⟩ := List.eq_nil_or_concat recs
    · exact Or.inl ⟨rfl, h.cursor.elim id id⟩
    · rw [List.concat_eq_append] at h ⊢
      obtain ⟨hPlaced, -⟩ := h.tiled.at
      refine Or.inr ⟨_, getLast?_visits_concat _ _ _ _, ?_⟩
      have hEnds := h.cursor
      rw [lastEnd_concat, Shape.endAfter_append, Shape.endAfter_cons, Shape.endAfter_nil, slots_span] at hEnds
      rw [hPlaced.payloadEnd, alignUp_add hPlaced.aligned]
      exact hEnds
  cursor_le := hCursor
  count := by rw [countP_visits, h.count]

theorem Reachable.cursor_le (h : Reachable q) (hBody : 16 ≤ q.acc.length) :
    q.header.cursor.toNat ≤ q.acc.length := by
  induction h with
  | fresh hLow hHigh hLoad =>
    obtain ⟨q₀, hLoad₀, hRep, -⟩ := load_zeroed hLow hHigh
    rw [hLoad₀] at hLoad
    cases hLoad
    rw [hRep.cursor_of_nil]
    exact hBody
  | @call q q' call outcome hReachable hDisc hApply ih =>
    obtain ⟨recs, hRep⟩ := hReachable.represents
    obtain ⟨outcome', captured, c', recs', payload, hCursor, hAll⟩ :=
      call.perform_determined (by omega) q.acc.length q.header.cursor recs
    obtain ⟨q'', hPerform, hShows, -⟩ := hAll q ⟨hRep, rfl, rfl⟩
    rw [Call.apply_eq_perform, hPerform] at hApply
    cases hApply
    rw [hShows.length_eq] at hBody ⊢
    rw [hShows.cursor_eq]
    exact hCursor (ih hBody)
  | setIndex _ index ih =>
    rw [QueueAccount.setIndex, length_withHeader] at hBody ⊢
    rw [header_withHeader]
    exact ih hBody
  | setPaused _ paused ih =>
    rw [QueueAccount.setPaused, length_withHeader] at hBody ⊢
    rw [header_withHeader]
    exact ih hBody

/-! ## Casts and saturating arithmetic -/

/-- No narrowing cast of an operation on the body loses a bit and none of its saturating
operations saturates. -/
structure Exact (q : QueueAccount) (vs : List Visit) : Prop where
  /-- The results of the scans: `span.item_pos as u32` and `last_used_end_aligned as u32`. -/
  scan : ∀ v ∈ vs, (UInt32.ofNat v.itemPos).toNat = v.itemPos ∧ (UInt32.ofNat v.next).toNat = v.next
  /-- The position and the end of an item that fits, and the fields `write_item_at` casts. -/
  write : ∀ (pos : Nat) (base : QueueItem) (disc : List UInt8) (metas : List CompactAccountMeta) (args : List UInt8),
    pos % 8 = 0 → disc.length ≤ 8 → metas.length ≤ 25 → args.length ≤ 512 →
    pos + itemSize disc metas args ≤ q.acc.length →
    (UInt32.ofNat pos).toNat = pos ∧
      (UInt32.ofNat (pos + itemSize disc metas args)).toNat = pos + itemSize disc metas args ∧
      (Record.written pos base disc metas args).Placed pos
  /-- The `usize` sums of `item_layout` and of the room check. -/
  sums : ∀ (disc : List UInt8) (metas : List CompactAccountMeta) (args : List UInt8),
    disc.length ≤ 8 → metas.length ≤ 25 → args.length ≤ 512 →
    alignUp q.header.cursor.toNat + itemSize disc metas args < 2 ^ 64
  /-- `item_count.saturating_add(1)` -/
  add : (saturatingAdd32 q.header.itemCount 1).toNat = q.header.itemCount.toNat + 1
  /-- `item_count.saturating_sub(1)`, once for each of the live items an operation removes. -/
  sub : ∀ k ≤ vs.countP Visit.live,
    ((fun count => saturatingSub32 count 1)^[k] q.header.itemCount).toNat + k = q.header.itemCount.toNat

theorem iterate_saturatingSub32 {count : UInt32} {k : Nat} (hk : k ≤ count.toNat) :
    ((fun count => saturatingSub32 count 1)^[k] count).toNat + k = count.toNat := by
  induction k generalizing count with
  | zero => rfl
  | succ k ih =>
    have hStep := saturatingSub32_toNat (a := count) (by omega)
    have hRest := @ih (saturatingSub32 count 1) (by omega)
    rw [Function.iterate_succ_apply]
    omega

theorem Represents.exact (h : Represents q recs) : Exact q (visits 0 itemsStart recs) where
  scan v hv := by
    obtain ⟨xs, r, ys, rfl, rfl⟩ := exists_of_mem_visits hv
    have hEnd := h.end_lt
    rw [Shape.endAfter_append, Shape.endAfter_cons, slots_span] at hEnd
    have hAfter := slots.le_endAfter (slots.endAfter itemsStart xs + alignUp r.size) ys
    exact ⟨toNat_ofNat32 (show slots.endAfter itemsStart xs < 2 ^ 32 by omega),
      toNat_ofNat32 (show slots.endAfter itemsStart xs + alignUp r.size < 2 ^ 32 by omega)⟩
  write pos base disc metas args hPos hDisc hMetas hArgs hRoom := by
    have hSmall := h.small
    have hEnd : pos + itemSize disc metas args < 2 ^ 32 := by omega
    exact ⟨toNat_ofNat32 (by omega), toNat_ofNat32 hEnd,
      Record.written_placed hPos (by omega) (by omega) (by omega) hEnd⟩
  sums disc metas args hDisc hMetas hArgs := by
    have hEnd := h.end_lt
    rw [h.alignUp_cursor, itemSize]
    omega
  add := saturatingAdd32_toNat h.count_lt
  sub k hk := by
    rw [countP_visits, ← h.count] at hk
    exact iterate_saturatingSub32 hk

/-- Every body that insertions and removals can leave has the layout, and their arithmetic on it is exact. -/
theorem queue_layout_invariant (h : Reachable q) (hBody : 16 ≤ q.acc.length) :
    ∃ vs, q.visited = some vs ∧ Layout q vs ∧ Exact q vs := by
  obtain ⟨recs, hRep⟩ := h.represents
  exact ⟨_, hRep.visited_eq, hRep.layout (h.cursor_le hBody), hRep.exact⟩

theorem queue_layout_invariant_mixed :
    ∃ q vs, mixedQueue = some q ∧ q.visited = some vs ∧ vs.map Visit.live = [true, false, true, true] ∧
      vs.map Visit.itemPos = [16, 120, 256, 352] ∧ q.header.cursor = 451 ∧ Layout q vs ∧ Exact q vs := by
  have hFound : mixedQueue.any (fun q => decide (16 ≤ q.acc.length ∧ q.header.cursor = 451 ∧
      q.visited.map (fun vs => (vs.map Visit.live, vs.map Visit.itemPos)) =
        some ([true, false, true, true], [16, 120, 256, 352]))) = true := by decide +kernel
  cases hQueue : mixedQueue with
  | none =>
    rw [hQueue] at hFound
    cases hFound
  | some q =>
    rw [hQueue, Option.any_some] at hFound
    obtain ⟨hBody, hCursor, hVisits⟩ := of_decide_eq_true hFound
    obtain ⟨vs, hVisited, hLayout, hExact⟩ := queue_layout_invariant (mixedQueue_reachable hQueue) hBody
    rw [hVisited, Option.map_some, Option.some_inj, Prod.mk.injEq] at hVisits
    exact ⟨q, vs, rfl, hVisited, hVisits.1, hVisits.2, hCursor, hLayout, hExact⟩

end SolanaVrf
