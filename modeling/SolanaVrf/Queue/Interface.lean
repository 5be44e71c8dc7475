import SolanaVrf.Queue.Layout
import Mathlib.Order.Bounds.Basic

/-! # What callers rely on

When an insertion succeeds, where it writes and what a failed one leaves; and that the
logical indices of all operations number the same list, the one `iter_items` returns.
-/

namespace SolanaVrf
set_option autoImplicit false

open Pod Slices Tiling QueueAccount

variable {q : QueueAccount} {recs : List Record}

/-! ## Room for an insertion -/

/-- A hole of the span at the offset, with a live item after it. -/
def FreeSpan (vs : List Visit) (span pos : Nat) : Prop :=
  ∃ before v after, vs = before ++ v :: after ∧ v.itemPos = pos ∧ v.live = false ∧
    v.next - v.itemPos = span ∧ ∃ w ∈ after, w.live = true

/-- The aligned end of the last live item, the start of the region if there is none. -/
def lastLiveEnd (vs : List Visit) : Nat :=
  vs.foldl (fun last v => if v.item.used = 1 then v.next else last) 16

/-- Where an item of the unaligned size goes: into the first hole of its aligned size, or past the last item. -/
def InsertionOffset (vs : List Visit) (size pos : Nat) : Prop :=
  IsLeast {p | FreeSpan vs (alignUp size) p} pos ∨
    (∀ p, ¬FreeSpan vs (alignUp size) p) ∧ pos = lastLiveEnd vs

theorem Represents.lastLiveEnd_eq (h : Represents q recs) :
    lastLiveEnd (visits 0 itemsStart recs) = slots.endAfter itemsStart recs := by
  have hFold := foldl_lastUsed recs 0 itemsStart
  rw [h.trimmed] at hFold
  exact hFold

theorem Represents.freeSpan_iff (h : Represents q recs) {span pos : Nat} :
    FreeSpan (visits 0 itemsStart recs) span pos ↔
      ∃ xs hole ys, recs = xs ++ hole :: ys ∧ hole.isHole span = true ∧ pos = slots.endAfter itemsStart xs := by
  constructor
  · rintro ⟨before, v, after, hSplit, rfl, hDead, hSpan, -⟩
    obtain ⟨xs, hole, ys, hRecs, -, rfl, -⟩ := visits_split hSplit
    have hSize : alignUp hole.size = span := by rw [← hSpan]; exact (Nat.add_sub_cancel_left _ _).symm
    exact ⟨xs, hole, ys, hRecs, Record.isHole_iff.mpr ⟨hDead, hSize⟩, rfl⟩
  · rintro ⟨xs, hole, ys, rfl, hHole, rfl⟩
    obtain ⟨hDead, hSpan⟩ := Record.isHole_iff.mp hHole
    obtain ⟨init, r, rfl, hLive⟩ := h.hole_split hDead
    rw [visits_append, visits_cons]
    refine ⟨_, _, _, rfl, rfl, hDead, ?_, ?_⟩
    · rw [← hSpan]
      exact Nat.add_sub_cancel_left _ _
    · rw [visits_append, visits_cons]
      exact ⟨r.visit _ _, List.mem_append_right _ List.mem_cons_self, hLive⟩

/-- The hole the search returns is the lowest one. -/
theorem Represents.isLeast_hole {xs ys : List Record} {hole : Record} {span : Nat}
    (h : Represents q (xs ++ hole :: ys)) (hHole : hole.isHole span = true)
    (hFirst : ∀ r ∈ xs, r.isHole span = false) :
    IsLeast {p | FreeSpan (visits 0 itemsStart (xs ++ hole :: ys)) span p} (slots.endAfter itemsStart xs) := by
  refine ⟨h.freeSpan_iff.mpr ⟨xs, hole, ys, rfl, hHole, rfl⟩, ?_⟩
  intro p hp
  obtain ⟨xs', hole', ys', hSplit, hHole', rfl⟩ := h.freeSpan_iff.mp hp
  -- the other hole is not among `xs`, so `xs` lies before it
  obtain ⟨mid, rfl, -⟩ | ⟨mid, rfl, hRest⟩ := List.append_eq_append_iff.mp hSplit
  · rw [Shape.endAfter_append]
    exact slots.le_endAfter _ mid
  · cases mid with
    | nil => rw [List.append_nil]
    | cons r mid =>
      obtain ⟨rfl, -⟩ := List.cons_eq_cons.mp hRest
      have hNot := hFirst hole' (by simp)
      rw [hHole'] at hNot
      cases hNot

section

variable {τ : Type}

theorem Represents.inserted_at {xs ys : List Record} {base : QueueItem} {disc : List UInt8}
    {metas : List CompactAccountMeta} {args : List UInt8} {idFromPos : τ → UInt32 → Bytes 32 × τ} {s : τ}
    (h : Represents q (xs ++ insertedAt (slots.endAfter itemsStart xs) base disc metas args idFromPos s :: ys)) :
    slots.endAfter itemsStart xs < 2 ^ 32 ∧
      slice q.acc (slots.endAfter itemsStart xs) (itemSize disc metas args) =
        (insertedAt (slots.endAfter itemsStart xs) base disc metas args idFromPos s).bytes := by
  have hImage := h.tiled.at.2
  have hLe := h.tiled.image_le_length
  have hSmall := h.small
  rw [slots_image, Record.length_bytes] at hImage
  exact ⟨by omega, hImage⟩

/-- A call of `add_item_with_id` succeeds exactly if the limits hold and a hole or the end of the
account takes the item; the closure is called once, with the offset of the new item, and a failed call
neither calls it nor changes a byte. -/
theorem insertion_exactly_when_it_fits (h : Reachable q) (base : QueueItem) (disc : List UInt8)
    (metas : List CompactAccountMeta) (args : List UInt8) (idFromPos : τ → UInt32 → Bytes 32 × τ) (s : τ)
    (hDisc : disc.length ≤ 8) :
    ∃ vs result q' s', q.visited = some vs ∧
      q.addItemWithId base disc metas args idFromPos s = some (result, q', s') ∧
      (result = .error SolanaVrfError.argumentSizeTooLarge.toProgramError ↔
        metas.length > 25 ∨ args.length > 512) ∧
      (¬(metas.length > 25 ∨ args.length > 512) →
        ((∃ k, result = .ok k) ↔ (∃ pos, FreeSpan vs (alignUp (itemSize disc metas args)) pos) ∨
          lastLiveEnd vs + itemSize disc metas args ≤ q.acc.length) ∧
        ((¬∃ k, result = .ok k) → result = .error .accountDataTooSmall)) ∧
      (∀ k, result = .ok k → ∃ pos, InsertionOffset vs (itemSize disc metas args) pos ∧ pos < 2 ^ 32 ∧
        s' = (idFromPos s (UInt32.ofNat pos)).2 ∧
        slice q'.acc pos (itemSize disc metas args) =
          (Record.written pos { base with id := (idFromPos s (UInt32.ofNat pos)).1 } disc metas args).bytes) ∧
      ∀ e, result = .error e → q' = q ∧ s' = s := by
  obtain ⟨recs, hRep⟩ := h.represents
  have hDisc : disc.length < 2 ^ 16 := by omega
  refine ⟨visits 0 itemsStart recs, ?_⟩
  by_cases hLarge : metas.length > 25 ∨ args.length > 512
  · refine ⟨_, q, s, hRep.visited_eq, addItemWithId_tooLarge hLarge, iff_of_true rfl hLarge,
      fun hSmall => absurd hLarge hSmall, ?_, fun _ _ => ⟨rfl, rfl⟩⟩
    rintro k ⟨⟩
  obtain ⟨xs, hole, ys, rfl, hHole, hFirst⟩ | hNone := first_hole_cases (alignUp (itemSize disc metas args)) recs
  · obtain ⟨q', hEq, hRep', hFramed, -⟩ := addItemWithId_reuse base idFromPos s hRep hDisc hLarge hFirst hHole
    refine ⟨_, q', _, hRep.visited_eq, hEq, iff_of_false ?_ hLarge, fun _ => ⟨iff_of_true ⟨_, rfl⟩ ?_, ?_⟩, ?_, ?_⟩
    · rintro ⟨⟩
    · exact Or.inl ⟨_, hRep.freeSpan_iff.mpr ⟨xs, hole, ys, rfl, hHole, rfl⟩⟩
    · exact fun hFailed => absurd ⟨_, rfl⟩ hFailed
    · intro k _
      obtain ⟨hPos, hBytes⟩ := hRep'.inserted_at
      exact ⟨_, Or.inl (hRep.isLeast_hole hHole hFirst), hPos, rfl, hBytes⟩
    · rintro e ⟨⟩
  have hNoHole (p : Nat) : ¬FreeSpan (visits 0 itemsStart recs) (alignUp (itemSize disc metas args)) p := by
    intro hp
    obtain ⟨xs, hole, ys, rfl, hHole, -⟩ := hRep.freeSpan_iff.mp hp
    rw [hNone hole (by simp)] at hHole
    cases hHole
  rcases Nat.lt_or_ge q.acc.length (slots.endAfter itemsStart recs + itemSize disc metas args) with hFull | hRoom
  · refine ⟨_, q, s, hRep.visited_eq, addItemWithId_full hRep hLarge hNone hFull, iff_of_false ?_ hLarge,
      fun _ => ⟨iff_of_false ?_ ?_, fun _ => rfl⟩, ?_, fun _ _ => ⟨rfl, rfl⟩⟩
    · rintro ⟨⟩
    · rintro ⟨k, ⟨⟩⟩
    · rw [hRep.lastLiveEnd_eq]
      rintro (⟨p, hp⟩ | hFits)
      · exact hNoHole p hp
      · omega
    · rintro k ⟨⟩
  · obtain ⟨q', hEq, hRep', hFramed, -⟩ := addItemWithId_append base idFromPos s hRep hDisc hLarge hNone hRoom
    refine ⟨_, q', _, hRep.visited_eq, hEq, iff_of_false ?_ hLarge, fun _ => ⟨iff_of_true ⟨_, rfl⟩ ?_, ?_⟩, ?_, ?_⟩
    · rintro ⟨⟩
    · rw [hRep.lastLiveEnd_eq]
      exact Or.inr hRoom
    · exact fun hFailed => absurd ⟨_, rfl⟩ hFailed
    · intro k _
      obtain ⟨hPos, hBytes⟩ := hRep'.inserted_at
      exact ⟨_, Or.inr ⟨hNoHole, hRep.lastLiveEnd_eq.symm⟩, hPos, rfl, hBytes⟩
    · rintro e ⟨⟩

end

/-- The hole between the first two live requests is taken by a request of its span; the log of the
closure holds its offset alone. -/
theorem insertion_exactly_when_it_fits_mixed :
    ∃ q vs q' pos, mixedQueue = some q ∧ q.visited = some vs ∧
      q.addItemWithId (QueueItem.layout.decode (List.replicate 96 0)) [6, 6] [⟨ID, 0⟩] [7]
        (fun log pos => (⟨toLe 32 pos.toNat, by simp [length_toLe]⟩, log ++ [pos])) [] =
        some (.ok 1, q', [UInt32.ofNat pos]) ∧
      InsertionOffset vs 132 pos ∧ UInt32.ofNat pos = 120 := by
  have hFound : mixedQueue.any (fun q =>
      (q.addItemWithId (QueueItem.layout.decode (List.replicate 96 0)) [6, 6] [⟨ID, 0⟩] [7]
        (fun log pos => (⟨toLe 32 pos.toNat, by simp [length_toLe]⟩, log ++ [pos])) []).any
        fun x => decide (x.1 = .ok 1 ∧ x.2.2 = [120])) = true := by decide +kernel
  cases hQueue : mixedQueue with
  | none =>
    rw [hQueue] at hFound
    cases hFound
  | some q =>
    obtain ⟨vs, result, q', s', hVisited, hEq, -, -, hOk, -⟩ := insertion_exactly_when_it_fits
      (mixedQueue_reachable hQueue) (QueueItem.layout.decode (List.replicate 96 0)) [6, 6] [⟨ID, 0⟩] [7]
      (fun log pos => (⟨toLe 32 pos.toNat, by simp [length_toLe]⟩, log ++ [pos])) [] (by decide)
    rw [hQueue, Option.any_some, hEq, Option.any_some] at hFound
    obtain ⟨rfl, rfl⟩ := of_decide_eq_true hFound
    obtain ⟨pos, hOffset, -, hLog, -⟩ := hOk 1 rfl
    exact ⟨q, vs, q', pos, rfl, hVisited, by rw [hEq, hLog]; rfl, hOffset, (List.singleton_inj.mp hLog).symm⟩

/-! ## Logical indices -/

theorem first_index_iff {α : Type} {p : α → Prop} {xs ys : List α} {a b : α} {i : Nat}
    (hBefore : ∀ x ∈ xs, ¬p x) (ha : p a) :
    (xs ++ a :: ys)[i]? = some b ∧ p b ∧ (∀ j < i, ∀ c, (xs ++ a :: ys)[j]? = some c → ¬p c) ↔
      xs.length = i ∧ a = b := by
  constructor
  · rintro ⟨hAt, hb, hFirst⟩
    obtain hLt | rfl | hGt := Nat.lt_trichotomy i xs.length
    · rw [List.getElem?_append_left hLt] at hAt
      exact absurd hb (hBefore b (List.mem_of_getElem? hAt))
    · rw [List.getElem?_append_right (Nat.le_refl _), Nat.sub_self] at hAt
      exact ⟨rfl, Option.some.inj hAt⟩
    · exact absurd ha (hFirst xs.length hGt a (by simp))
  · rintro ⟨rfl, rfl⟩
    refine ⟨by simp, ha, ?_⟩
    intro j hj c hc
    rw [List.getElem?_append_left hj] at hc
    exact hBefore c (List.mem_of_getElem? hc)

theorem Represents.find_iff (h : Represents q recs) (id : Bytes 32) :
    (∀ i item, q.findItemById id = some (some (i, item)) ↔
      ((recs.filter Record.live).map Record.item)[i]? = some item ∧ item.id = id ∧
      ∀ j < i, ∀ other, ((recs.filter Record.live).map Record.item)[j]? = some other → other.id ≠ id) ∧
    (q.findItemById id = some none ↔ ∀ item ∈ (recs.filter Record.live).map Record.item, item.id ≠ id) := by
  obtain ⟨hFind, hNone⟩ | ⟨xs, r, ys, rfl, hLive, hId, hFind, hBefore⟩ := h.findItemById_eq id
  · have hAll : ∀ item ∈ (recs.filter Record.live).map Record.item, item.id ≠ id := by
      intro item hItem
      obtain ⟨r, hr, rfl⟩ := List.mem_map.mp hItem
      exact hNone r (List.mem_of_mem_filter hr) (List.mem_filter.mp hr).2
    rw [hFind]
    refine ⟨fun i item => iff_of_false ?_ ?_, iff_of_true rfl hAll⟩
    · rintro ⟨⟩
    · rintro ⟨hAt, hSame, -⟩
      exact hAll item (List.mem_of_getElem? hAt) hSame
  · have hItems : ∀ item ∈ (xs.filter Record.live).map Record.item, ¬item.id = id := by
      intro item hItem
      obtain ⟨x, hx, rfl⟩ := List.mem_map.mp hItem
      exact hBefore x (List.mem_of_mem_filter hx) (List.mem_filter.mp hx).2
    rw [hFind, List.filter_append, List.filter_cons_of_pos hLive, List.map_append, List.map_cons]
    constructor
    · intro i item
      rw [first_index_iff hItems hId, List.length_map, length_filter_live, Option.some_inj, Option.some_inj,
        Prod.mk.injEq]
    · refine iff_of_false (fun hEq => by cases hEq) ?_
      intro hAll
      exact hAll r.item (by simp) hId

theorem Represents.remove_items (h : Represents q recs) {i : Nat} {item : QueueItem}
    (hItem : ((recs.filter Record.live).map Record.item)[i]? = some item) :
    ∃ q', q.removeItem i = some (.ok { item with used := 0 }, q') ∧
      q'.iterItems = some (((recs.filter Record.live).map Record.item).eraseIdx i) := by
  have hLt : i < recs.countP Record.live := by
    have hBound := (List.getElem?_eq_some_iff.mp hItem).1
    rwa [List.length_map, length_filter_live] at hBound
  obtain ⟨xs, r, ys, rfl, hLive, rfl⟩ := exists_live_split hLt
  obtain ⟨hRep, -, -⟩ := h.after_remove hLive
  have hLength : xs.countP Record.live = ((xs.filter Record.live).map Record.item).length := by
    rw [List.length_map, length_filter_live]
  rw [List.filter_append, List.filter_cons_of_pos hLive, List.map_append, List.map_cons] at hItem ⊢
  rw [hLength, List.getElem?_append_right (Nat.le_refl _), Nat.sub_self] at hItem
  cases hItem
  refine ⟨_, h.removeItem_at hLive, ?_⟩
  rw [hRep.iterItems_eq, filter_live_trim, List.filter_append, List.filter_cons_of_neg (by simp), List.map_append,
    hLength, List.eraseIdx_append_of_length_le (Nat.le_refl _), Nat.sub_self]
  rfl

theorem Represents.insert_items {τ : Type} {base : QueueItem} {disc : List UInt8}
    {metas : List CompactAccountMeta} {args : List UInt8} {idFromPos : τ → UInt32 → Bytes 32 × τ} {s s' : τ}
    {k : Nat} {q' : QueueAccount} (h : Represents q recs) (hDisc : disc.length < 2 ^ 16)
    (hEq : q.addItemWithId base disc metas args idFromPos s = some (.ok k, q', s')) :
    ∃ pos recs', Represents q' recs' ∧ k ≤ (recs.filter Record.live).length ∧ recs'.filter Record.live =
      (recs.filter Record.live).insertIdx k (insertedAt pos base disc metas args idFromPos s) := by
  by_cases hLarge : metas.length > MAX_CALLBACK_ACCOUNTS ∨ args.length > 512
  · rw [addItemWithId_tooLarge hLarge] at hEq
    cases hEq
  obtain ⟨pos, k', recs', q'', hAdd, hInserts, hRep', -⟩ | ⟨hAdd, -, -⟩ :=
    addItemWithId_eq base idFromPos s h hDisc hLarge
  · rw [hAdd] at hEq
    cases hEq
    obtain ⟨hFilter, hIndex⟩ := hInserts.filter_live rfl
    exact ⟨pos, recs', hRep', hIndex, hFilter⟩
  · rw [hAdd] at hEq
    cases hEq

/-- What a successful insertion is seen to have done. -/
theorem Represents.inserted_call {call : Call} {req : Insertion} {k : Nat} {q' : QueueAccount}
    (h : Represents q recs) (hCall : call.insertion? = some req) (hDisc : req.discriminator.length < 2 ^ 16)
    (hApply : call.apply q = some (.index k, q')) :
    ∃ pos recs', Represents q' recs' ∧ k ≤ (recs.filter Record.live).length ∧
      recs'.filter Record.live = (recs.filter Record.live).insertIdx k (req.storedAt pos) := by
  cases call with
  | addItem base disc metas args =>
    cases hCall
    obtain ⟨⟨result, q₁⟩, hAdd, hOutcome⟩ := Option.map_eq_some_iff.mp hApply
    rw [QueueAccount.addItem, Option.bind_eq_bind, Option.bind_eq_some_iff] at hAdd
    obtain ⟨⟨result', q₂, s'⟩, hEq, hLast⟩ := hAdd
    cases hLast
    cases result with
    | error e => cases hOutcome
    | ok k' =>
      cases hOutcome
      exact h.insert_items hDisc hEq
  | addItemWithId base disc metas args idFromPos s =>
    cases hCall
    obtain ⟨⟨result, q₁, s'⟩, hEq, hOutcome⟩ := Option.map_eq_some_iff.mp hApply
    cases result with
    | error e => cases hOutcome
    | ok k' =>
      cases hOutcome
      exact h.insert_items hDisc hEq
  | removeItem i => cases hCall
  | removeItemsMatching pred onRemoved s => cases hCall

/-- Lookup by index, lookup by id, removal by index and the index an insertion returns all number
the items in the order of `iter_items`. -/
theorem logical_indices_agree (h : Reachable q) :
    ∃ L, q.iterItems = some L ∧
      (∀ i, q.getItemByIndex i = some L[i]?) ∧
      (∀ id, (∀ i item, q.findItemById id = some (some (i, item)) ↔ L[i]? = some item ∧ item.id = id ∧
          ∀ j < i, ∀ other, L[j]? = some other → other.id ≠ id) ∧
        (q.findItemById id = some none ↔ ∀ item ∈ L, item.id ≠ id)) ∧
      (∀ i, L.length ≤ i → q.removeItem i = some (.error SolanaVrfError.invalidQueueIndex.toProgramError, q)) ∧
      (∀ i item, L[i]? = some item → ∃ q', q.removeItem i = some (.ok { item with used := 0 }, q') ∧
        q'.iterItems = some (L.eraseIdx i)) ∧
      ∀ (call : Call) (req : Insertion) (k : Nat) (q' : QueueAccount), call.insertion? = some req →
        req.discriminator.length < 2 ^ 16 → call.apply q = some (.index k, q') →
        ∃ pos, k ≤ L.length ∧ q'.iterItems = some (L.insertIdx k (req.storedAt pos).item) ∧
          q'.getItemByIndex k = some (some (req.storedAt pos).item) ∧
          (req.storedAt pos).item.callbackDiscriminator q'.acc = some req.discriminator ∧
          (req.storedAt pos).item.accountMetas q'.acc = some req.metas ∧
          (req.storedAt pos).item.callbackArgs q'.acc = some req.args := by
  obtain ⟨recs, hRep⟩ := h.represents
  refine ⟨_, hRep.iterItems_eq, hRep.getItemByIndex_eq, hRep.find_iff, fun i hi => ?_,
    fun i item hItem => hRep.remove_items hItem, ?_⟩
  · rw [List.length_map, length_filter_live] at hi
    exact hRep.removeItem_absent hi
  · intro call req k q' hCall hDisc hApply
    obtain ⟨pos, recs', hRep', hIndex, hFilter⟩ := hRep.inserted_call hCall hDisc hApply
    have hMem : req.storedAt pos ∈ recs'.filter Record.live := by
      rw [hFilter]
      exact (List.mem_insertIdx hIndex).mpr (Or.inl rfl)
    obtain ⟨xs, ys, hSplit⟩ := List.append_of_mem (List.mem_of_mem_filter hMem)
    have hItems : q'.iterItems =
        some (((recs.filter Record.live).map Record.item).insertIdx k (req.storedAt pos).item) := by
      rw [hRep'.iterItems_eq, hFilter, List.map_insertIdx]
    refine ⟨pos, by rwa [List.length_map], hItems, ?_, payload_eq (hSplit ▸ hRep'.tiled)⟩
    rw [hRep'.getItemByIndex_eq, hFilter, List.map_insertIdx, List.getElem?_insertIdx_self,
      if_pos (by rwa [List.length_map])]

theorem logical_indices_agree_mixed :
    ∃ q L, mixedQueue = some q ∧ q.iterItems = some L ∧ L.map QueueItem.argsLen = [2, 0, 2] ∧
      (∀ i, q.getItemByIndex i = some L[i]?) ∧
      ∃ item q', L[1]? = some item ∧ q.removeItem 1 = some (.ok { item with used := 0 }, q') ∧
        q'.iterItems = some (L.eraseIdx 1) := by
  have hFound : mixedQueue.any (fun q =>
      decide (q.iterItems.map (fun L => L.map QueueItem.argsLen) = some [2, 0, 2])) = true := by decide +kernel
  cases hQueue : mixedQueue with
  | none =>
    rw [hQueue] at hFound
    cases hFound
  | some q =>
    obtain ⟨L, hItems, hGet, -, -, hRemove, -⟩ := logical_indices_agree (mixedQueue_reachable hQueue)
    rw [hQueue, Option.any_some, hItems, Option.map_some] at hFound
    have hLengths := Option.some.inj (of_decide_eq_true hFound)
    obtain ⟨item, hItem⟩ : ∃ item, L[1]? = some item := by
      refine ⟨_, List.getElem?_eq_getElem ?_⟩
      have hLength := congrArg List.length hLengths
      rw [List.length_map] at hLength
      rw [hLength]
      decide
    obtain ⟨q', hEq, hErased⟩ := hRemove 1 item hItem
    exact ⟨q, L, rfl, hItems, hLengths, hGet, item, q', hItem, hEq, hErased⟩

end SolanaVrf
