import SolanaVrf.Queue.Insert

/-! # Removal

Removal clears the flag of a record in place and lowers the cursor over trailing holes.
The payload bytes of a removed record stay where they were, which is what lets a
fulfilment read the callback after the item has been taken off the queue.
-/

namespace SolanaVrf
set_option autoImplicit false

open Pod Slices Tiling QueueAccount

variable {σ : Type} {q : QueueAccount} {recs xs ys : List Record} {r : Record}

/-! ## Clearing one flag -/

theorem splice_free {acc : List UInt8} {pos : Nat} (h : slice acc pos r.bytes.length = r.bytes) :
    splice acc pos (QueueItem.layout.encode r.free.item) = splice acc pos r.free.bytes := by
  have hFits : pos + r.bytes.length ≤ acc.length :=
    le_length_of_slice (by rw [Record.length_bytes, Record.size]; omega) h rfl
  have hItem := QueueItem.layout.length_encode r.item
  have hFree := QueueItem.layout.length_encode r.free.item
  have hBytes : r.bytes.length = (QueueItem.layout.encode r.item).length + r.payload.length := by
    rw [Record.bytes, List.length_append]
  have hPayload : slice acc (pos + (QueueItem.layout.encode r.free.item).length) r.payload.length =
      r.payload := by
    rw [hBytes, slice_add, Record.bytes] at h
    rw [hFree, ← hItem]
    refine (List.append_inj' h ?_).2
    rw [length_slice (by omega)]
  have hRoom : pos + (QueueItem.layout.encode r.free.item ++ r.payload).length ≤ acc.length := by
    rw [List.length_append]
    omega
  rw [Record.bytes, Record.free_payload, ← splice_splice_append hRoom]
  refine (splice_eq_self ?_ ?_).symm
  · rw [length_splice (by omega)]
    omega
  · rw [slice_splice_disjoint (by omega) (Or.inr (Nat.le_refl _)), hPayload]

theorem free_at (hTiled : slots.Tiled q.acc itemsStart (xs ++ r :: ys)) :
    ∃ q', q.copyFromSlice (slots.endAfter itemsStart xs) (QueueItem.layout.encode r.free.item) = some q' ∧
      q'.header = q.header ∧ q'.acc.length = q.acc.length ∧
      slots.Tiled q'.acc itemsStart (xs ++ r.free :: ys) := by
  obtain ⟨hPlaced, hImage⟩ := hTiled.at
  have hLe := hTiled.image_le_length
  rw [slots_image, Record.length_bytes] at hLe
  have hItem := QueueItem.layout.length_encode r.free.item
  have hSize : 96 ≤ r.size := by rw [Record.size]; omega
  rw [QueueItem.layout_size] at hItem
  have hStart : 12 ≤ slots.endAfter itemsStart xs :=
    Nat.le_trans (by decide) (slots.le_endAfter itemsStart xs)
  obtain ⟨q', hCopy, hAcc⟩ := copyFromSlice_eq_some q (slots.endAfter itemsStart xs)
    (QueueItem.layout.encode r.free.item) (by omega)
  refine ⟨q', hCopy, header_of_splice hAcc (by omega) hStart, ?_, ?_⟩
  · rw [hAcc, length_splice (by omega)]
  · rw [hAcc, splice_free hImage]
    exact hTiled.replace rfl hPlaced.free (by rwa [slots_image, Record.length_bytes, Record.free_size])

/-! ## Bodies as header and rest -/

namespace QueueAccount

theorem eq_of_header_drop {q q' : QueueAccount} (hHeader : q.header = q'.header)
    (hDrop : q.acc.drop 12 = q'.acc.drop 12) : q = q' := by
  have hTake (q : QueueAccount) : q.acc.take 12 = Queue.layout.encode q.header := by
    have hLe := q.header_le
    rw [Queue.layout_size] at hLe
    rw [header, Queue.layout.encode_decode _ (length_slice (by rw [Nat.zero_add]; exact q.header_le))]
    rfl
  apply eq_of_acc
  rw [← List.take_append_drop 12 q.acc, ← List.take_append_drop 12 q'.acc, hTake, hTake, hHeader, hDrop]

theorem drop_splice_congr {acc acc' src : List UInt8} {pos : Nat}
    (hDrop : acc.drop 12 = acc'.drop 12) (hRoom : pos + src.length ≤ acc.length)
    (hRoom' : pos + src.length ≤ acc'.length) :
    (splice acc pos src).drop 12 = (splice acc' pos src).drop 12 := by
  apply List.ext_getElem?
  intro i
  have hAt : acc[12 + i]? = acc'[12 + i]? := by
    rw [← List.getElem?_drop, hDrop, List.getElem?_drop]
  rw [List.getElem?_drop, List.getElem?_drop, getElem?_splice hRoom, getElem?_splice hRoom']
  split
  · exact hAt
  · split
    · rfl
    · exact hAt

/-- Frees the record found at a position and counts one item less. -/
def unmark (q : QueueAccount) (m : Nat × Record) : QueueAccount :=
  let freed := (q.copyFromSlice m.1 (QueueItem.layout.encode m.2.free.item)).getD q
  freed.setItemCount (saturatingSub32 freed.header.itemCount 1)

theorem copyFromSlice_frame (q : QueueAccount) {pos : Nat} (src : List UInt8) (hPos : 12 ≤ pos) :
    ((q.copyFromSlice pos src).getD q).header = q.header ∧
      ((q.copyFromSlice pos src).getD q).acc.length = q.acc.length := by
  unfold copyFromSlice
  split
  · rename_i hRoom
    exact ⟨header_of_splice rfl hRoom hPos, length_splice hRoom⟩
  · exact ⟨rfl, rfl⟩

theorem copyFromSlice_drop_congr {q q' : QueueAccount} (pos : Nat) (src : List UInt8)
    (hDrop : q.acc.drop 12 = q'.acc.drop 12) :
    ((q.copyFromSlice pos src).getD q).acc.drop 12 = ((q'.copyFromSlice pos src).getD q').acc.drop 12 := by
  have hLength : q.acc.length = q'.acc.length := by
    have hLe := q.header_le
    have hLe' := q'.header_le
    have hDrops := congrArg List.length hDrop
    rw [List.length_drop, List.length_drop] at hDrops
    rw [Queue.layout_size] at hLe hLe'
    omega
  unfold copyFromSlice
  by_cases hRoom : pos + src.length ≤ q.acc.length
  · rw [dif_pos hRoom, dif_pos (hLength ▸ hRoom)]
    exact drop_splice_congr hDrop hRoom (hLength ▸ hRoom)
  · rw [dif_neg hRoom, dif_neg (hLength ▸ hRoom)]
    exact hDrop

theorem unmark_header {q : QueueAccount} {m : Nat × Record} (hPos : 12 ≤ m.1) :
    (q.unmark m).header = { q.header with itemCount := saturatingSub32 q.header.itemCount 1 } := by
  rw [unmark, setItemCount, header_withHeader, (q.copyFromSlice_frame _ hPos).1]

theorem unmark_drop_congr {q q' : QueueAccount} (m : Nat × Record)
    (hDrop : q.acc.drop 12 = q'.acc.drop 12) : (q.unmark m).acc.drop 12 = (q'.unmark m).acc.drop 12 := by
  rw [unmark, unmark, setItemCount, setItemCount, drop_withHeader, drop_withHeader]
  exact copyFromSlice_drop_congr _ _ hDrop

theorem unmark_trimTo (q : QueueAccount) {m : Nat × Record} (hPos : 12 ≤ m.1) (e : Nat) :
    (q.trimTo e).unmark m = (q.unmark m).trimTo e := by
  unfold trimTo
  rw [unmark_header hPos]
  dsimp only
  split
  · apply eq_of_header_drop
    · rw [unmark_header hPos, setCursor, setCursor, header_withHeader, header_withHeader, unmark_header hPos]
    · rw [setCursor, setCursor, drop_withHeader]
      exact unmark_drop_congr m (drop_withHeader q _)
  · rfl

end QueueAccount

theorem lastEnd_free (pos : Nat) : lastEnd pos (xs ++ r.free :: ys) = lastEnd pos (xs ++ r :: ys) := by
  obtain rfl | ⟨init, last, rfl⟩ := List.eq_nil_or_concat ys
  · rw [lastEnd_concat, lastEnd_concat, Record.free_size]
  · rw [List.concat_eq_append, ← List.cons_append, ← List.cons_append, ← List.append_assoc,
      ← List.append_assoc, lastEnd_concat, lastEnd_concat]
    simp

/-! ## Trailing holes -/

theorem Stored.trimTo_trim (h : Stored q recs) :
    Represents (q.trimTo (slots.endAfter itemsStart (trim recs))) (trim recs) ∧
      Framed q (q.trimTo (slots.endAfter itemsStart (trim recs))) ∧
      (q.trimTo (slots.endAfter itemsStart (trim recs))).acc.drop 12 = q.acc.drop 12 := by
  obtain ⟨holes, hSplit, -⟩ := trim_split recs
  have hEnd : slots.endAfter itemsStart (trim recs) < 2 ^ 32 := by
    have hAll := h.end_lt
    rw [hSplit, Shape.endAfter_append] at hAll
    have hLe := slots.le_endAfter (slots.endAfter itemsStart (trim recs)) holes
    omega
  have hTiled : slots.Tiled q.acc itemsStart (trim recs) := by
    have hTiled := h.tiled
    rw [hSplit] at hTiled
    exact hTiled.take
  have hCount : q.header.itemCount.toNat = (trim recs).countP Record.live := by
    rw [countP_live_trim, h.count]
  unfold trimTo
  split
  · rw [setCursor]
    refine ⟨⟨⟨(tiled_withHeader _ _).mpr hTiled, ?_, Or.inr ?_, ?_⟩, trim_trim recs⟩, ⟨?_, ?_, ?_⟩,
      drop_withHeader _ _⟩
    · rw [header_withHeader]
      exact hCount
    · rw [header_withHeader]
      exact toNat_ofNat32 hEnd
    · rw [length_withHeader]
      exact h.small
    · rw [length_withHeader]
    · rw [header_withHeader]
    · rw [header_withHeader]
  · rename_i hNot
    rw [UInt32.lt_iff_toNat_lt, toNat_ofNat32 hEnd] at hNot
    -- a trailing hole would lie below the cursor
    have hSame : trim recs = recs := by
      cases holes with
      | nil => rw [List.append_nil] at hSplit; exact hSplit.symm
      | cons hole holes =>
        exfalso
        have hLast := size_le_lastEnd itemsStart (trim recs) hole holes
        rw [← hSplit] at hLast
        have hLe := (lastEnd_le_endAfter itemsStart recs).1
        have hSize : 96 ≤ hole.size := by rw [Record.size]; omega
        rcases h.cursor with hCursor | hCursor <;> omega
    rw [hSame]
    exact ⟨⟨h, hSame⟩, Framed.refl q, rfl⟩

theorem Stored.trimTrailingHoles_eq (h : Stored q recs) :
    q.trimTrailingHoles = some (q.trimTo (slots.endAfter itemsStart (trim recs))) := by
  rw [trimTrailingHoles, h.scanItems_eq, walk_fold, foldl_lastUsed]
  rfl

/-! ## Removal by logical index -/

theorem Stored.free_one (h : Stored q (xs ++ r :: ys)) (hLive : r.live = true) :
    (q.setItemCount (saturatingSub32 q.header.itemCount 1)).copyFromSlice (slots.endAfter itemsStart xs)
        (QueueItem.layout.encode r.free.item) = some (q.unmark (slots.endAfter itemsStart xs, r)) ∧
      Stored (q.unmark (slots.endAfter itemsStart xs, r)) (xs ++ r.free :: ys) ∧
      Framed q (q.unmark (slots.endAfter itemsStart xs, r)) := by
  have hPos : 12 ≤ slots.endAfter itemsStart xs := Nat.le_trans (by decide) (slots.le_endAfter itemsStart xs)
  have hTiled := (tiled_withHeader q
    { q.header with itemCount := saturatingSub32 q.header.itemCount 1 }).mpr h.tiled
  obtain ⟨q', hCopy, hHeader, hLength, hTiled'⟩ := free_at hTiled
  rw [header_withHeader] at hHeader
  rw [length_withHeader] at hLength
  -- the count is written first here and last in the single pass
  have hSame : q' = q.unmark (slots.endAfter itemsStart xs, r) := by
    apply eq_of_header_drop
    · rw [hHeader, unmark_header hPos]
    · have hDrop := copyFromSlice_drop_congr (slots.endAfter itemsStart xs)
        (QueueItem.layout.encode r.free.item)
        (drop_withHeader q { q.header with itemCount := saturatingSub32 q.header.itemCount 1 })
      rw [hCopy, Option.getD_some] at hDrop
      rw [hDrop, unmark, setItemCount, drop_withHeader]
  have hCount := h.count
  rw [List.countP_append, List.countP_cons_of_pos hLive] at hCount
  rw [← hSame]
  refine ⟨hCopy, ⟨hTiled', ?_, ?_, ?_⟩, hLength, ?_, ?_⟩
  · rw [hHeader, List.countP_append, List.countP_cons_of_neg (by simp)]
    dsimp only
    rw [saturatingSub32_toNat (by omega)]
    omega
  · rw [hHeader, lastEnd_free]
    have hCursor := h.cursor
    rw [Shape.endAfter_append, Shape.endAfter_cons] at hCursor ⊢
    exact hCursor
  · rw [hLength]
    exact h.small
  · rw [hHeader]
  · rw [hHeader]

theorem Represents.removeItem_absent (h : Represents q recs) {i : Nat} (hAbsent : recs.countP Record.live ≤ i) :
    q.removeItem i = some (.error SolanaVrfError.invalidQueueIndex.toProgramError, q) := by
  rw [removeItem, h.scanItems_eq, walk_pure,
    findSome?_logicalIndex_none (fun v => (v.itemPos, v.item)) itemsStart (by omega)]
  rfl

theorem Represents.removeItem_at (h : Represents q (xs ++ r :: ys)) (hLive : r.live = true) :
    q.removeItem (xs.countP Record.live) = some (.ok r.free.item,
      (q.unmark (slots.endAfter itemsStart xs, r)).trimTo
        (slots.endAfter itemsStart (trim (xs ++ r.free :: ys)))) := by
  obtain ⟨hCopy, hStored, -⟩ := h.free_one hLive
  rw [removeItem, h.scanItems_eq, walk_pure,
    findSome?_logicalIndex_at (fun v => (v.itemPos, v.item)) xs ys itemsStart hLive]
  simp only [Option.bind_eq_bind, Option.bind_some, Record.visit, Option.pure_def]
  rw [← Record.free_item, hCopy, Option.bind_some, hStored.trimTrailingHoles_eq, Option.bind_some]

theorem Represents.after_remove (h : Represents q (xs ++ r :: ys)) (hLive : r.live = true) :
    let q' := (q.unmark (slots.endAfter itemsStart xs, r)).trimTo
      (slots.endAfter itemsStart (trim (xs ++ r.free :: ys)))
    Represents q' (trim (xs ++ r.free :: ys)) ∧ Framed q q' ∧
      slots.Tiled q'.acc itemsStart (xs ++ r.free :: ys) := by
  obtain ⟨-, hStored, hFramed⟩ := h.free_one hLive
  obtain ⟨hRep, hFramed', hDrop⟩ := hStored.trimTo_trim
  exact ⟨hRep, hFramed.trans hFramed', tiled_of_drop_eq hStored.tiled hDrop⟩

/-- `remove_item` returns the freed item, keeps all other records and all payload bytes. -/
theorem Represents.removeItem_eq (h : Represents q recs) (i : Nat) :
    recs.countP Record.live ≤ i ∧
      q.removeItem i = some (.error SolanaVrfError.invalidQueueIndex.toProgramError, q) ∨
    ∃ xs r ys q', recs = xs ++ r :: ys ∧ r.live = true ∧ xs.countP Record.live = i ∧
      q.removeItem i = some (.ok r.free.item, q') ∧
      Represents q' (trim (xs ++ r.free :: ys)) ∧ Framed q q' ∧
      slots.Tiled q'.acc itemsStart (xs ++ r.free :: ys) ∧
      q' = (q.unmark (slots.endAfter itemsStart xs, r)).trimTo
        (slots.endAfter itemsStart (trim (xs ++ r.free :: ys))) := by
  rcases Nat.lt_or_ge i (recs.countP Record.live) with hLt | hLe
  · obtain ⟨xs, r, ys, rfl, hLive, rfl⟩ := exists_live_split hLt
    obtain ⟨hRep, hFramed, hTiled⟩ := h.after_remove hLive
    exact Or.inr ⟨xs, r, ys, _, rfl, hLive, rfl, h.removeItem_at hLive, hRep, hFramed, hTiled, rfl⟩
  · exact Or.inl ⟨hLe, h.removeItem_absent hLe⟩

/-! ## Removal by predicate -/

/-- A pass over the records that frees live ones and changes nothing else. -/
inductive Pruned : List Record → List Record → Prop
  | nil : Pruned [] []
  | keep (r : Record) {recs recs' : List Record} (h : Pruned recs recs') : Pruned (r :: recs) (r :: recs')
  | free (r : Record) {recs recs' : List Record} (hLive : r.live = true) (h : Pruned recs recs') :
      Pruned (r :: recs) (r.free :: recs')

namespace Pruned

variable {recs' : List Record}

theorem endAfter_eq (h : Pruned recs recs') (pos : Nat) :
    slots.endAfter pos recs' = slots.endAfter pos recs := by
  induction h generalizing pos with
  | nil => rfl
  | keep r _ ih => rw [Shape.endAfter_cons, Shape.endAfter_cons, ih]
  | free r _ _ ih =>
    rw [Shape.endAfter_cons, Shape.endAfter_cons, ih, slots_span, slots_span, Record.free_size]

theorem lastEnd_eq (h : Pruned recs recs') (pos : Nat) : lastEnd pos recs' = lastEnd pos recs := by
  induction h generalizing pos with
  | nil => rfl
  | keep r h ih =>
    cases h with
    | nil => rfl
    | keep _ _ => exact ih _
    | free _ _ _ => exact ih _
  | free r _ h ih =>
    cases h with
    | nil => rfl
    | keep _ _ => exact ih _
    | free _ _ _ => exact ih _

end Pruned

def freed : Nat → List Record → List Record → List (Nat × Record)
  | pos, r :: recs, r' :: recs' =>
    if r.live && !r'.live then (pos, r) :: freed (pos + alignUp r.size) recs recs'
    else freed (pos + alignUp r.size) recs recs'
  | _, _, _ => []

section

variable (pred : σ → QueueItem → Bool × σ) (onRemoved : σ → QueueItem → σ)

/-- The records the loop leaves and the state its closures reach. -/
def sweep : σ → List Record → List Record × σ
  | s, [] => ([], s)
  | s, r :: recs =>
    if r.live then
      match pred s r.item with
      | (true, s) => ((r.free :: (sweep (onRemoved s r.free.item) recs).1),
          (sweep (onRemoved s r.free.item) recs).2)
      | (false, s) => (r :: (sweep s recs).1, (sweep s recs).2)
    else (r :: (sweep s recs).1, (sweep s recs).2)

theorem sweep_pruned (s : σ) (recs : List Record) : Pruned recs (sweep pred onRemoved s recs).1 := by
  induction recs generalizing s with
  | nil => exact .nil
  | cons r recs ih =>
    unfold sweep
    cases hLive : r.live with
    | false => exact .keep r (ih s)
    | true =>
      rw [if_pos rfl]
      obtain ⟨remove, s'⟩ := pred s r.item
      cases remove with
      | false => exact .keep r (ih s')
      | true => exact .free r hLive (ih _)

/-- Removal on a list whose elements show an item, with no holes between them. -/
def retain {α : Type} (shown : α → QueueItem) : σ → List α → List α × σ
  | s, [] => ([], s)
  | s, a :: rest =>
    match pred s (shown a) with
    | (true, s) => retain shown (onRemoved s { shown a with used := 0 }) rest
    | (false, s) => (a :: (retain shown s rest).1, (retain shown s rest).2)

theorem retain_sublist {α : Type} (shown : α → QueueItem) (s : σ) (rest : List α) :
    (retain pred onRemoved shown s rest).1.Sublist rest := by
  induction rest generalizing s with
  | nil => exact List.Sublist.refl _
  | cons a rest ih =>
    unfold retain
    obtain ⟨remove, s'⟩ := pred s (shown a)
    cases remove with
    | true => exact (ih _).cons a
    | false => exact (ih s').cons_cons a

theorem retain_map {α β : Type} (shown : β → QueueItem) (f : α → β) (s : σ) (rest : List α) :
    retain pred onRemoved shown s (rest.map f) =
      ((retain pred onRemoved (fun a => shown (f a)) s rest).1.map f,
        (retain pred onRemoved (fun a => shown (f a)) s rest).2) := by
  induction rest generalizing s with
  | nil => rfl
  | cons a rest ih =>
    rw [List.map_cons]
    unfold retain
    obtain ⟨remove, s'⟩ := pred s (shown (f a))
    cases remove with
    | true => exact ih _
    | false => dsimp only; rw [ih s', List.map_cons]

theorem sweep_live (s : σ) (recs : List Record) :
    ((sweep pred onRemoved s recs).1.filter Record.live, (sweep pred onRemoved s recs).2) =
      retain pred onRemoved Record.item s (recs.filter Record.live) := by
  induction recs generalizing s with
  | nil => rfl
  | cons r recs ih =>
    unfold sweep
    cases hLive : r.live with
    | false =>
      rw [if_neg Bool.false_ne_true, List.filter_cons_of_neg (by simp [hLive]),
        List.filter_cons_of_neg (by simp [hLive])]
      exact ih s
    | true =>
      rw [if_pos rfl, List.filter_cons_of_pos hLive, retain]
      obtain ⟨remove, s'⟩ := pred s r.item
      cases remove with
      | false =>
        dsimp only
        rw [List.filter_cons_of_pos hLive, ← ih s']
      | true =>
        dsimp only
        rw [List.filter_cons_of_neg (by simp)]
        exact ih _

theorem foldl_visits_index (i j pos last : Nat) (recs : List Record) :
    (visits i pos recs).foldl (fun last v => if v.item.used = 1 then v.next else last) last =
      (visits j pos recs).foldl (fun last v => if v.item.used = 1 then v.next else last) last := by
  induction recs generalizing i j pos last with
  | nil => rfl
  | cons r recs ih => exact ih _ _ _ _

/-- What the loop has done to the body once it has passed the records `ys`. -/
structure Swept (q q' : QueueAccount) (xs ys ys' : List Record) : Prop where
  tiled : slots.Tiled q'.acc itemsStart (xs ++ ys')
  length : q'.acc.length = q.acc.length
  count : q'.header.itemCount.toNat + ys.countP Record.live =
    q.header.itemCount.toNat + ys'.countP Record.live
  cursor : q'.header.cursor = q.header.cursor
  index : q'.header.index = q.header.index
  paused : q'.header.paused = q.header.paused
  body : q' = (freed (slots.endAfter itemsStart xs) ys ys').foldl unmark q

theorem Swept.cons {q q₁ q' : QueueAccount} {r' : Record} {ys' : List Record}
    (hLength : q₁.acc.length = q.acc.length)
    (hCount : q₁.header.itemCount.toNat + (if r.live then 1 else 0) =
      q.header.itemCount.toNat + (if r'.live then 1 else 0))
    (hCursor : q₁.header.cursor = q.header.cursor) (hIndex : q₁.header.index = q.header.index)
    (hPaused : q₁.header.paused = q.header.paused) (hSize : r'.size = r.size)
    (hBody : q₁ = if r.live && !r'.live then q.unmark (slots.endAfter itemsStart xs, r) else q)
    (h : Swept q₁ q' (xs ++ [r']) ys ys') : Swept q q' xs (r :: ys) (r' :: ys') := by
  refine ⟨?_, h.length.trans hLength, ?_, h.cursor.trans hCursor, h.index.trans hIndex,
    h.paused.trans hPaused, ?_⟩
  · have hTiled := h.tiled
    rwa [List.append_assoc] at hTiled
  · have hRest := h.count
    rw [List.countP_cons, List.countP_cons]
    omega
  · rw [h.body, hBody, slots.endAfter_append, slots.endAfter_cons, slots.endAfter_nil, slots_span, hSize, freed]
    split
    · rfl
    · rfl

/-! One iteration at a record, whatever the iterations after it do. -/

theorem header_fits {stop pos : Nat} (hStop : pos + r.size ≤ stop) : pos + QueueItem.layout.size ≤ stop := by
  rw [Record.size] at hStop
  rw [QueueItem.layout_size]
  omega

theorem removeMatchingFrom_hole {stop fuel last : Nat} {s : σ}
    (hTiled : slots.Tiled q.acc itemsStart (xs ++ r :: ys)) (hStop : slots.endAfter itemsStart xs + r.size ≤ stop)
    (hDead : r.item.used ≠ 1) :
    removeMatchingFrom stop pred onRemoved (fuel + 1) (slots.endAfter itemsStart xs) last q s =
      removeMatchingFrom stop pred onRemoved fuel (slots.endAfter itemsStart xs + alignUp r.size) last q s := by
  obtain ⟨hPlaced, hImage⟩ := hTiled.at
  rw [removeMatchingFrom, if_pos (header_fits hStop), slice_item hImage]
  simp only [Option.bind_eq_bind, Option.bind_some, readItemUnaligned, QueueItem.layout.decode_encode,
    itemNext_eq hPlaced, if_neg hDead]

theorem removeMatchingFrom_kept {stop fuel last : Nat} {s s' : σ}
    (hTiled : slots.Tiled q.acc itemsStart (xs ++ r :: ys)) (hStop : slots.endAfter itemsStart xs + r.size ≤ stop)
    (hLive : r.item.used = 1) (hPred : pred s r.item = (false, s')) :
    removeMatchingFrom stop pred onRemoved (fuel + 1) (slots.endAfter itemsStart xs) last q s =
      removeMatchingFrom stop pred onRemoved fuel (slots.endAfter itemsStart xs + alignUp r.size)
        (slots.endAfter itemsStart xs + alignUp r.size) q s' := by
  obtain ⟨hPlaced, hImage⟩ := hTiled.at
  rw [removeMatchingFrom, if_pos (header_fits hStop), slice_item hImage]
  simp only [Option.bind_eq_bind, Option.bind_some, readItemUnaligned, QueueItem.layout.decode_encode,
    itemNext_eq hPlaced, if_pos hLive, hPred]

theorem removeMatchingFrom_freed {stop fuel last : Nat} {s s' : σ} {q₁ : QueueAccount}
    (hTiled : slots.Tiled q.acc itemsStart (xs ++ r :: ys)) (hStop : slots.endAfter itemsStart xs + r.size ≤ stop)
    (hLive : r.item.used = 1) (hPred : pred s r.item = (true, s'))
    (hCopy : q.copyFromSlice (slots.endAfter itemsStart xs) (QueueItem.layout.encode r.free.item) = some q₁) :
    removeMatchingFrom stop pred onRemoved (fuel + 1) (slots.endAfter itemsStart xs) last q s =
      removeMatchingFrom stop pred onRemoved fuel (slots.endAfter itemsStart xs + alignUp r.size) last
        (q₁.setItemCount (saturatingSub32 q₁.header.itemCount 1)) (onRemoved s' r.free.item) := by
  obtain ⟨hPlaced, hImage⟩ := hTiled.at
  rw [Record.free_item] at hCopy
  rw [removeMatchingFrom, if_pos (header_fits hStop), slice_item hImage]
  simp only [Option.bind_eq_bind, Option.bind_some, readItemUnaligned, QueueItem.layout.decode_encode,
    itemNext_eq hPlaced, if_pos hLive, hPred, hCopy, Record.free_item]

/-- From the position after `xs` the loop runs over `ys`, leaves `ys'` and ends in the state `s'`. -/
def SweepsTo (stop fuel last : Nat) (q : QueueAccount) (s : σ) (xs ys ys' : List Record) (s' : σ) : Prop :=
  ∃ q', removeMatchingFrom stop pred onRemoved fuel (slots.endAfter itemsStart xs) last q s =
      some ((visits 0 (slots.endAfter itemsStart xs) ys').foldl
        (fun last v => if v.item.used = 1 then v.next else last) last, q', s') ∧
    Swept q q' xs ys ys'

section

variable {pred onRemoved} {stop fuel last : Nat} {s s' s'' : σ} {ys' : List Record}

theorem SweepsTo.nil (hTiled : slots.Tiled q.acc itemsStart xs) (hFuel : 0 < fuel)
    (hCovers : Covers stop (slots.endAfter itemsStart xs) []) :
    SweepsTo pred onRemoved stop fuel last q s xs [] [] s := by
  cases fuel with
  | zero => cases hFuel
  | succ fuel =>
    have hStop : ¬slots.endAfter itemsStart xs + QueueItem.layout.size ≤ stop := by
      rw [QueueItem.layout_size]
      exact Nat.not_le.mpr hCovers
    refine ⟨q, ?_, by rwa [List.append_nil], rfl, rfl, rfl, rfl, rfl, rfl⟩
    rw [removeMatchingFrom, if_neg hStop]
    rfl

theorem SweepsTo.skip (hTiled : slots.Tiled q.acc itemsStart (xs ++ r :: ys))
    (hStop : slots.endAfter itemsStart xs + r.size ≤ stop) (hDead : r.item.used ≠ 1)
    (h : SweepsTo pred onRemoved stop fuel last q s (xs ++ [r]) ys ys' s') :
    SweepsTo pred onRemoved stop (fuel + 1) last q s xs (r :: ys) (r :: ys') s' := by
  obtain ⟨q', hLoop, hSwept⟩ := h
  rw [slots.endAfter_append, slots.endAfter_cons, slots.endAfter_nil, slots_span] at hLoop
  refine ⟨q', ?_, hSwept.cons rfl rfl rfl rfl rfl rfl (by simp)⟩
  rw [removeMatchingFrom_hole pred onRemoved hTiled hStop hDead, hLoop, visits, List.foldl_cons,
    foldl_visits_index 0, if_neg hDead]

theorem SweepsTo.keep (hTiled : slots.Tiled q.acc itemsStart (xs ++ r :: ys))
    (hStop : slots.endAfter itemsStart xs + r.size ≤ stop) (hLive : r.item.used = 1)
    (hPred : pred s r.item = (false, s'))
    (h : SweepsTo pred onRemoved stop fuel (slots.endAfter itemsStart (xs ++ [r])) q s' (xs ++ [r]) ys ys' s'') :
    SweepsTo pred onRemoved stop (fuel + 1) last q s xs (r :: ys) (r :: ys') s'' := by
  obtain ⟨q', hLoop, hSwept⟩ := h
  rw [slots.endAfter_append, slots.endAfter_cons, slots.endAfter_nil, slots_span] at hLoop
  refine ⟨q', ?_, hSwept.cons rfl rfl rfl rfl rfl rfl (by simp)⟩
  rw [removeMatchingFrom_kept pred onRemoved hTiled hStop hLive hPred, hLoop, visits, List.foldl_cons,
    foldl_visits_index 0, if_pos hLive]

theorem SweepsTo.free (hTiled : slots.Tiled q.acc itemsStart (xs ++ r :: ys))
    (hStop : slots.endAfter itemsStart xs + r.size ≤ stop) (hLive : r.live = true)
    (hPred : pred s r.item = (true, s')) (hCount : 0 < q.header.itemCount.toNat)
    (h : ∀ q₁ : QueueAccount, slots.Tiled q₁.acc itemsStart ((xs ++ [r.free]) ++ ys) →
      q₁.header.itemCount.toNat = q.header.itemCount.toNat - 1 →
      SweepsTo pred onRemoved stop fuel last q₁ (onRemoved s' r.free.item) (xs ++ [r.free]) ys ys' s'') :
    SweepsTo pred onRemoved stop (fuel + 1) last q s xs (r :: ys) (r.free :: ys') s'' := by
  obtain ⟨q₁, hCopy, hHeader, hLength, hTiled₁⟩ := free_at hTiled
  have hCount₁ : (saturatingSub32 q.header.itemCount 1).toNat = q.header.itemCount.toNat - 1 :=
    saturatingSub32_toNat hCount
  have hUsed : r.item.used = 1 := by simpa [Record.live] using hLive
  obtain ⟨q', hLoop, hSwept⟩ := h (q₁.setItemCount (saturatingSub32 q₁.header.itemCount 1))
    (by rw [List.append_assoc]; exact (tiled_withHeader _ _).mpr hTiled₁)
    (by rw [setItemCount, header_withHeader, hHeader]; exact hCount₁)
  rw [slots.endAfter_append, slots.endAfter_cons, slots.endAfter_nil, slots_span] at hLoop
  refine ⟨q', ?_, hSwept.cons ?_ ?_ ?_ ?_ ?_ r.free_size ?_⟩
  · rw [removeMatchingFrom_freed pred onRemoved hTiled hStop hUsed hPred hCopy, ← Record.free_size, hLoop, visits,
      List.foldl_cons, foldl_visits_index 0]
    rfl
  · rw [setItemCount, length_withHeader, hLength]
  · rw [setItemCount, header_withHeader, hHeader, hLive, Record.free_live]
    dsimp only
    simp only [if_true, Bool.false_eq_true, if_false]
    omega
  · rw [setItemCount, header_withHeader, hHeader]
  · rw [setItemCount, header_withHeader, hHeader]
  · rw [setItemCount, header_withHeader, hHeader]
  · rw [hLive, Record.free_live, unmark, hCopy]
    rfl

end

theorem removeMatchingFrom_eq {stop : Nat} (ys xs : List Record) (q : QueueAccount) (fuel last : Nat)
    (s : σ) (hTiled : slots.Tiled q.acc itemsStart (xs ++ ys))
    (hCovers : Covers stop (slots.endAfter itemsStart xs) ys) (hFuel : ys.length < fuel)
    (hCount : ys.countP Record.live ≤ q.header.itemCount.toNat) :
    SweepsTo pred onRemoved stop fuel last q s xs ys (sweep pred onRemoved s ys).1
      (sweep pred onRemoved s ys).2 := by
  -- induction on the records still ahead, with those behind already swept
  induction ys generalizing xs q fuel last s with
  | nil => exact .nil (by rwa [List.append_nil] at hTiled) hFuel hCovers
  | cons r ys ih =>
    cases fuel with
    | zero => cases hFuel
    | succ fuel =>
      obtain ⟨hStop, hCovers⟩ := hCovers
      have hFuel : ys.length < fuel := Nat.lt_of_succ_lt_succ hFuel
      have hCovers (r' : Record) (hSize : r'.size = r.size) :
          Covers stop (slots.endAfter itemsStart (xs ++ [r'])) ys := by
        rwa [slots.endAfter_append, slots.endAfter_cons, slots.endAfter_nil, slots_span, hSize]
      have hTiled' : slots.Tiled q.acc itemsStart ((xs ++ [r]) ++ ys) := by rwa [List.append_assoc]
      have hUsed : r.live = true ↔ r.item.used = 1 := by simp [Record.live]
      rw [List.countP_cons] at hCount
      unfold sweep
      cases hLive : r.live with
      | false =>
        have hDead : r.item.used ≠ 1 := by rw [Ne, ← hUsed, hLive]; exact Bool.false_ne_true
        exact .skip hTiled hStop hDead (ih _ _ _ _ _ hTiled' (hCovers r rfl) hFuel (by omega))
      | true =>
        rw [if_pos hLive] at hCount
        rw [if_pos rfl]
        cases hPred : pred s r.item with
        | mk remove s' =>
          cases remove with
          | false =>
            exact .keep hTiled hStop (hUsed.mp hLive) hPred
              (ih _ _ _ _ _ hTiled' (hCovers r rfl) hFuel (by omega))
          | true =>
            refine .free hTiled hStop hLive hPred (by omega) fun q₁ hTiled₁ hCount₁ => ?_
            exact ih _ _ _ _ _ hTiled₁ (hCovers r.free r.free_size) hFuel (by omega)

theorem Represents.removeItemsMatching_eq (h : Represents q recs) (s : σ) :
    ∃ q', q.removeItemsMatching pred onRemoved s = some (q', (sweep pred onRemoved s recs).2) ∧
      Represents q' (trim (sweep pred onRemoved s recs).1) ∧ Framed q q' ∧
      slots.Tiled q'.acc itemsStart (sweep pred onRemoved s recs).1 ∧
      q' = ((freed itemsStart recs (sweep pred onRemoved s recs).1).foldl unmark q).trimTo
        (slots.endAfter itemsStart (trim (sweep pred onRemoved s recs).1)) := by
  have hPruned := sweep_pruned pred onRemoved s recs
  have hCount := h.count
  obtain ⟨q₁, hLoop, hSwept⟩ := removeMatchingFrom_eq pred onRemoved recs [] q (q.acc.length + 1)
    itemsStart s h.tiled h.covers h.length_lt (by omega)
  have hCount₁ := hSwept.count
  have hStored : Stored q₁ (sweep pred onRemoved s recs).1 := by
    refine ⟨hSwept.tiled, by omega, ?_, ?_⟩
    · rw [hSwept.cursor, hPruned.lastEnd_eq, hPruned.endAfter_eq]
      exact h.cursor
    · rw [hSwept.length]
      exact h.small
  obtain ⟨hRep, hFramed, hDrop⟩ := hStored.trimTo_trim
  have hFramed₁ : Framed q q₁ := ⟨hSwept.length, hSwept.index, hSwept.paused⟩
  refine ⟨_, ?_, hRep, hFramed₁.trans hFramed, tiled_of_drop_eq hStored.tiled hDrop, by rw [hSwept.body]; rfl⟩
  rw [Shape.endAfter_nil, foldl_lastUsed] at hLoop
  rw [removeItemsMatching, hLoop]
  rfl

end

end SolanaVrf
