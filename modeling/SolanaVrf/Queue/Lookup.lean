import SolanaVrf.Queue.Scan

/-! # Lookups in a represented body

Each lookup of the account is computed from the list of records: `iter_items` lists the
live items in order, the searches return the first visit that qualifies, and the hole
search also reports where the last live record ends.
-/

namespace SolanaVrf
set_option autoImplicit false

open Pod Slices Tiling QueueAccount

variable {R : Type}

def Record.visit (index pos : Nat) (r : Record) : Visit := ⟨index, pos, pos + alignUp r.size, r.item⟩

theorem visits_cons (index pos : Nat) (r : Record) (recs : List Record) :
    visits index pos (r :: recs) = r.visit index pos ::
      visits (if r.live then index + 1 else index) (pos + alignUp r.size) recs := rfl

/-! ## First matches -/

theorem findSome?_visits_eq_some (F : Visit → Option R) {recs : List Record} {index pos : Nat} {x : R}
    (h : (visits index pos recs).findSome? F = some x) :
    ∃ xs r ys, recs = xs ++ r :: ys ∧
      F (r.visit (index + xs.countP Record.live) (slots.endAfter pos xs)) = some x ∧
      (visits index pos xs).findSome? F = none := by
  induction recs generalizing index pos with
  | nil => cases h
  | cons r recs ih =>
    rw [visits_cons, List.findSome?_cons] at h
    cases hHead : F (r.visit index pos) with
    | some y =>
      rw [hHead] at h
      refine ⟨[], r, recs, rfl, ?_, rfl⟩
      simpa [hHead] using h
    | none =>
      rw [hHead] at h
      obtain ⟨xs, r', ys, rfl, hFound, hNone⟩ := ih h
      refine ⟨r :: xs, r', ys, rfl, ?_, ?_⟩
      · rw [← hFound, index_cons, Shape.endAfter_cons, slots_span]
      · rw [visits_cons, List.findSome?_cons, hHead]
        exact hNone

theorem findSome?_visits_eq_none (F : Visit → Option R) {xs ys : List Record} {r : Record}
    {index pos : Nat} (h : (visits index pos (xs ++ r :: ys)).findSome? F = none) :
    F (r.visit (index + xs.countP Record.live) (slots.endAfter pos xs)) = none := by
  rw [visits_append, List.findSome?_append, Option.or_eq_none_iff] at h
  exact List.findSome?_eq_none_iff.mp h.2 _ List.mem_cons_self

theorem exists_live_split {recs : List Record} {i : Nat} (h : i < recs.countP Record.live) :
    ∃ xs r ys, recs = xs ++ r :: ys ∧ r.live = true ∧ xs.countP Record.live = i := by
  induction recs generalizing i with
  | nil => simp at h
  | cons r recs ih =>
    cases hLive : r.live with
    | false =>
      rw [List.countP_cons_of_neg (by simp [hLive])] at h
      obtain ⟨xs, r', ys, rfl, hLive', hCount⟩ := ih h
      exact ⟨r :: xs, r', ys, rfl, hLive', by rw [List.countP_cons_of_neg (by simp [hLive]), hCount]⟩
    | true =>
      cases i with
      | zero => exact ⟨[], r, recs, rfl, hLive, rfl⟩
      | succ i =>
        rw [List.countP_cons_of_pos hLive] at h
        obtain ⟨xs, r', ys, rfl, hLive', hCount⟩ := ih (Nat.lt_of_succ_lt_succ h)
        exact ⟨r :: xs, r', ys, rfl, hLive', by rw [List.countP_cons_of_pos hLive, hCount]⟩

theorem length_filter_live (recs : List Record) :
    (recs.filter Record.live).length = recs.countP Record.live :=
  List.countP_eq_length_filter.symm

/-- Live records are numbered below the count of live ones. -/
theorem findSome?_logicalIndex_none (g : Visit → R) {recs : List Record} {i index : Nat} (pos : Nat)
    (hLe : index + recs.countP Record.live ≤ i) :
    (visits index pos recs).findSome?
      (fun v => if v.item.used = 1 ∧ v.logicalIndex = i then some (g v) else none) = none := by
  induction recs generalizing index pos with
  | nil => rfl
  | cons r recs ih =>
    rw [visits_cons, List.findSome?_cons]
    cases hLive : r.live with
    | true =>
      rw [List.countP_cons_of_pos hLive] at hLe
      rw [if_neg (fun h => by have hIndex : index = i := h.2; omega), if_pos rfl]
      exact ih _ (by omega)
    | false =>
      have hUsed : r.item.used ≠ 1 := by simpa [Record.live] using hLive
      rw [List.countP_cons_of_neg (by simp [hLive])] at hLe
      rw [if_neg (fun h => hUsed h.1), if_neg Bool.false_ne_true]
      exact ih _ hLe

theorem findSome?_logicalIndex_at (g : Visit → R) (xs ys : List Record) {r : Record} (pos : Nat)
    (hLive : r.live = true) :
    (visits 0 pos (xs ++ r :: ys)).findSome?
      (fun v => if v.item.used = 1 ∧ v.logicalIndex = xs.countP Record.live then some (g v) else none) =
      some (g (r.visit (xs.countP Record.live) (slots.endAfter pos xs))) := by
  have hUsed : r.item.used = 1 := by simpa [Record.live] using hLive
  rw [visits_append, List.findSome?_append, findSome?_logicalIndex_none g pos (by omega), Option.none_or,
    Nat.zero_add, visits_cons, List.findSome?_cons, if_pos ⟨hUsed, rfl⟩]

/-! ## Folds -/

theorem foldl_items (recs : List Record) (index pos : Nat) (out : List QueueItem) :
    (visits index pos recs).foldl (fun out v => if v.item.used = 1 then out ++ [v.item] else out) out =
      out ++ (recs.filter Record.live).map Record.item := by
  induction recs generalizing index pos out with
  | nil => simp [visits]
  | cons r recs ih =>
    rw [visits, List.foldl_cons, ih]
    by_cases hUsed : r.item.used = 1
    · have hLive : r.live = true := by simpa [Record.live] using hUsed
      rw [if_pos hUsed, List.filter_cons_of_pos hLive]
      simp
    · have hLive : ¬r.live = true := by simpa [Record.live] using hUsed
      rw [if_neg hUsed, List.filter_cons_of_neg hLive]

/-- The running maximum of the live ends is the end of the trimmed records. -/
theorem foldl_lastUsed (recs : List Record) (index pos : Nat) :
    (visits index pos recs).foldl (fun last v => if v.item.used = 1 then v.next else last) pos =
      slots.endAfter pos (trim recs) := by
  induction recs using List.reverseRecOn with
  | nil => simp [visits, trim]
  | append_singleton recs r ih =>
    rw [visits_append, List.foldl_append, ih, trim_concat, visits, visits, List.foldl_cons,
      List.foldl_nil]
    by_cases hUsed : r.item.used = 1
    · have hLive : r.live = true := by simpa [Record.live] using hUsed
      simp [hUsed, hLive]
    · have hLive : r.live = false := by simpa [Record.live] using hUsed
      simp [hUsed, hLive]

def holeAt (requiredSpan : Nat) (v : Visit) : Option ReusableSpan :=
  if v.item.used ≠ 1 ∧ v.next - v.itemPos = requiredSpan then some ⟨v.itemPos, v.logicalIndex⟩ else none

theorem foldl_reusable (requiredSpan : Nat) (vs : List Visit) (scan : QueueScan) :
    vs.foldl (fun (scan : QueueScan) v =>
      if v.item.used = 1 then { scan with lastUsedEndAligned := v.next }
      else if scan.reusableSpan.isNone ∧ v.next - v.itemPos = requiredSpan then
        { scan with reusableSpan := some ⟨v.itemPos, v.logicalIndex⟩ }
      else scan) scan =
    ⟨vs.foldl (fun last v => if v.item.used = 1 then v.next else last) scan.lastUsedEndAligned,
      scan.reusableSpan.or (vs.findSome? (holeAt requiredSpan))⟩ := by
  induction vs generalizing scan with
  | nil => simp
  | cons v vs ih =>
    rw [List.foldl_cons, ih, List.foldl_cons, List.findSome?_cons]
    by_cases hUsed : v.item.used = 1
    · simp [hUsed, holeAt]
    · by_cases hSpan : v.next - v.itemPos = requiredSpan
      · cases hReuse : scan.reusableSpan <;> simp [hUsed, hSpan, hReuse, holeAt]
      · simp [hUsed, hSpan, holeAt]

/-! ## The account's lookups -/

variable {q : QueueAccount} {recs : List Record}

theorem Stored.iterItems_eq (h : Stored q recs) :
    q.iterItems = some ((recs.filter Record.live).map Record.item) := by
  rw [iterItems, h.scanItems_eq, walk_fold, foldl_items]
  simp

theorem ne_of_findSome?_id {id : Bytes 32} (hMiss : (visits 0 itemsStart recs).findSome?
      (fun v => if v.item.used = 1 ∧ v.item.id = id then some (v.logicalIndex, v.item) else none) = none)
    {r : Record} (hr : r ∈ recs) (hLive : r.live = true) : r.item.id ≠ id := by
  intro hId
  obtain ⟨xs, ys, rfl⟩ := List.append_of_mem hr
  have hAt := findSome?_visits_eq_none _ hMiss
  have hUsed : r.item.used = 1 := by simpa [Record.live] using hLive
  simp [Record.visit, hUsed, hId] at hAt

theorem Stored.findItemById_eq (h : Stored q recs) (id : Bytes 32) :
    q.findItemById id = some none ∧ (∀ r ∈ recs, r.live = true → r.item.id ≠ id) ∨
    ∃ xs r ys, recs = xs ++ r :: ys ∧ r.live = true ∧ r.item.id = id ∧
      q.findItemById id = some (some (xs.countP Record.live, r.item)) ∧
      ∀ x ∈ xs, x.live = true → x.item.id ≠ id := by
  rw [findItemById, h.scanItems_eq, walk_pure]
  simp only [Option.bind_eq_bind, Option.bind_some, Option.pure_def]
  cases hFind : (visits 0 itemsStart recs).findSome?
      (fun v => if v.item.used = 1 ∧ v.item.id = id then some (v.logicalIndex, v.item) else none) with
  | none => exact Or.inl ⟨rfl, fun r hr => ne_of_findSome?_id hFind hr⟩
  | some found =>
    obtain ⟨xs, r, ys, rfl, hFound, hBefore⟩ := findSome?_visits_eq_some _ hFind
    rw [Nat.zero_add] at hFound
    split at hFound
    · rename_i hMatch
      cases hFound
      have hUsed : r.item.used = 1 := hMatch.1
      exact Or.inr ⟨xs, r, ys, rfl, by simpa [Record.live] using hUsed, hMatch.2, rfl,
        fun x hx => ne_of_findSome?_id hBefore hx⟩
    · cases hFound

theorem Stored.getItemByIndex_eq (h : Stored q recs) (i : Nat) :
    q.getItemByIndex i = some (((recs.filter Record.live).map Record.item)[i]?) := by
  rw [getItemByIndex, h.scanItems_eq, walk_pure]
  simp only [Option.bind_eq_bind, Option.bind_some, Option.pure_def]
  rcases Nat.lt_or_ge i (recs.countP Record.live) with hLt | hLe
  · obtain ⟨xs, r, ys, rfl, hLive, rfl⟩ := exists_live_split hLt
    rw [findSome?_logicalIndex_at (fun v => v.item) xs ys itemsStart hLive, List.filter_append,
      List.filter_cons_of_pos hLive, List.map_append,
      List.getElem?_append_right (by rw [List.length_map, length_filter_live])]
    simp [length_filter_live, Record.visit]
  · rw [findSome?_logicalIndex_none (fun v => v.item) itemsStart (by omega),
      List.getElem?_eq_none (by rw [List.length_map, length_filter_live]; exact hLe)]

/-! ## Payloads -/

/-- The accessors of a tiled record return its payload, whether or not it is still live. -/
theorem payload_eq {acc : List UInt8} {xs ys : List Record} {r : Record}
    (h : slots.Tiled acc itemsStart (xs ++ r :: ys)) :
    r.item.callbackDiscriminator acc = some r.discriminator ∧
      r.item.accountMetas acc = some r.metas ∧ r.item.callbackArgs acc = some r.args := by
  obtain ⟨hPlaced, hImage⟩ := h.at
  have hLe := h.image_le_length
  rw [slots_image, Record.length_bytes, Record.size] at hLe
  rw [slots_image, Record.length_bytes] at hImage
  have hItem := QueueItem.layout.length_encode r.item
  rw [QueueItem.layout_size] at hItem
  have hMetas : (CompactAccountMeta.layout.encodeAll r.metas).length = 33 * r.metas.length := by simp
  -- each accessor reads a window of the record's image
  have hWindow (before window after : List UInt8) (hBytes : r.bytes = before ++ window ++ after) :
      slice acc (slots.endAfter itemsStart xs + before.length) window.length = window := by
    have hSize : before.length + window.length ≤ r.size := by
      rw [← Record.length_bytes, hBytes, List.length_append, List.length_append]
      omega
    have hSub := slice_slice acc (slots.endAfter itemsStart xs) hSize
    rw [hImage, hBytes, slice, List.append_assoc, List.drop_left, List.take_left] at hSub
    exact hSub.symm
  have hDisc := hWindow (QueueItem.layout.encode r.item) r.discriminator
    (CompactAccountMeta.layout.encodeAll r.metas ++ r.args) (by simp [Record.bytes, Record.payload])
  have hMetasWindow := hWindow (QueueItem.layout.encode r.item ++ r.discriminator)
    (CompactAccountMeta.layout.encodeAll r.metas) r.args (by simp [Record.bytes, Record.payload])
  have hArgs := hWindow (QueueItem.layout.encode r.item ++ r.discriminator ++
    CompactAccountMeta.layout.encodeAll r.metas) r.args [] (by simp [Record.bytes, Record.payload])
  rw [hItem] at hDisc
  rw [List.length_append, hItem, hMetas, ← Nat.add_assoc] at hMetasWindow
  rw [List.length_append, List.length_append, hItem, hMetas, ← Nat.add_assoc, ← Nat.add_assoc] at hArgs
  refine ⟨?_, ?_, ?_⟩
  · rw [QueueItem.callbackDiscriminator, hPlaced.discOffset, hPlaced.discLen,
      read?_eq_some (by omega), hDisc]
  · rw [QueueItem.accountMetas, hPlaced.metasOffset, hPlaced.metasLen, CompactAccountMeta.layout_size,
      Nat.mul_comm, read?_eq_some (by omega), hMetasWindow, Option.map_some,
      CompactAccountMeta.layout.decodeAll_encodeAll]
  · rw [QueueItem.callbackArgs, hPlaced.argsOffset, hPlaced.argsLen, read?_eq_some (by omega), hArgs]

/-! ## Opening an account -/

theorem load_append {body : List UInt8} (h : Queue.layout.size ≤ body.length) :
    load (AccountDiscriminator.queue.toBytes ++ body) =
      .ok (if (QueueAccount.mk body h).header.cursor = 0 then
        (QueueAccount.mk body h).setCursor (UInt32.ofNat itemsStart) else ⟨body, h⟩) := by
  have hLength : AccountDiscriminator.queue.toBytes.length = 8 := AccountDiscriminator.length_toBytes _
  have hData : ¬(AccountDiscriminator.queue.toBytes ++ body).length < 8 := by
    rw [List.length_append]
    omega
  rw [load, if_neg hData, List.take_left' hLength, if_neg (not_not.mpr rfl)]
  simp only [List.drop_left' hLength]
  rw [dif_neg (Nat.not_lt.mpr h)]
  split <;> rfl

theorem Stored.load_eq {body : List UInt8} {h : Queue.layout.size ≤ body.length}
    (hStored : Stored ⟨body, h⟩ recs) :
    load (AccountDiscriminator.queue.toBytes ++ body) = .ok ⟨body, h⟩ := by
  rw [load_append h, if_neg]
  intro hZero
  -- a cursor in use lies past the header
  have hStart := slots.le_endAfter itemsStart recs
  have hLast := (lastEnd_le_endAfter itemsStart recs).2
  have hPos : itemsStart = 16 := rfl
  obtain hCursor | hCursor := hStored.cursor
  · rw [hZero] at hCursor
    change 0 = _ at hCursor
    omega
  · rw [hZero] at hCursor
    change 0 = _ at hCursor
    omega

theorem load_zeroed {n : Nat} (hLow : 12 ≤ n) (hHigh : n + 8 ≤ 2 ^ 32) :
    ∃ q, load (AccountDiscriminator.queue.toBytes ++ List.replicate n 0) = .ok q ∧ Represents q [] ∧
      q.acc.length = n ∧ q.header.paused = 0 ∧ ∀ b ∈ q.acc.drop 12, b = 0 := by
  have hSize : Queue.layout.size ≤ (List.replicate n (0 : UInt8)).length := by simpa using hLow
  have hHeader : (QueueAccount.mk (List.replicate n 0) hSize).header = Queue.layout.decode (List.replicate 12 0) := by
    rw [header, slice, Queue.layout_size, List.drop_zero, List.take_replicate, Nat.min_eq_left hLow]
  have hZero : (QueueAccount.mk (List.replicate n 0) hSize).header.cursor = 0 := by
    rw [hHeader]
    decide
  refine ⟨_, load_append hSize, ?_, ?_, ?_, ?_⟩
  · rw [if_pos hZero, setCursor]
    refine ⟨⟨trivial, ?_, Or.inl ?_, ?_⟩, rfl⟩
    · rw [header_withHeader, hHeader]
      decide
    · rw [header_withHeader]
      rfl
    · rw [length_withHeader]
      simpa using hHigh
  · rw [if_pos hZero, setCursor, length_withHeader]
    simp
  · rw [if_pos hZero, setCursor, header_withHeader, hHeader]
    decide
  · rw [if_pos hZero, setCursor, drop_withHeader, List.drop_replicate]
    exact fun b hb => List.eq_of_mem_replicate hb

/-! ## Holes -/

theorem Represents.scanForReusableSpan_eq (h : Represents q recs) (requiredSpan : Nat) :
    q.scanForReusableSpan requiredSpan = some ⟨slots.endAfter itemsStart recs,
      (visits 0 itemsStart recs).findSome? (holeAt requiredSpan)⟩ := by
  rw [scanForReusableSpan, h.scanItems_eq, walk_fold, foldl_reusable, foldl_lastUsed, h.trimmed]
  simp

end SolanaVrf
