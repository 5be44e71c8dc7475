import SolanaVrf.Queue.Layout

/-! # Operations on arbitrary bytes

`load` looks at the discriminator and the length only, so a corrupted account reaches the
operations with an arbitrary cursor and arbitrary records. No invariant is assumed here. A
scan strides by lengths it reads, but by at least the size of an item, and it stops before
the end of the data; every write is preceded by a check of its end.
-/

namespace SolanaVrf
set_option autoImplicit false

open Pod Slices QueueAccount

/-! ## Strides -/

theorem item_le_itemNext (pos : Nat) (item : QueueItem) : pos + 96 ≤ itemNext pos item := by
  refine Nat.le_trans ?_ (le_alignUp _)
  rw [QueueItem.layout_size]
  omega

/-- A list of visits inside `stop`, each at least an item apart from the next one. -/
structure Strides (stop pos : Nat) (vs : List Visit) : Prop where
  inside : ∀ v ∈ vs, pos ≤ v.itemPos ∧ v.itemPos + 96 ≤ stop
  advances : ∀ v ∈ vs, v.itemPos + 96 ≤ v.next
  length_le : 96 * vs.length ≤ stop - pos

theorem Strides.nil (stop pos : Nat) : Strides stop pos [] := ⟨by simp, by simp, by simp⟩

theorem Strides.cons {stop pos : Nat} {vs : List Visit} {item : QueueItem} (index : Nat)
    (hFits : pos + 96 ≤ stop) (h : Strides stop (itemNext pos item) vs) :
    Strides stop pos (⟨index, pos, itemNext pos item, item⟩ :: vs) := by
  have hNext := item_le_itemNext pos item
  have hLength := h.length_le
  refine ⟨?_, ?_, ?_⟩
  · intro v hv
    obtain rfl | hv := List.mem_cons.mp hv
    · exact ⟨Nat.le_refl _, hFits⟩
    · obtain ⟨hLow, hHigh⟩ := h.inside v hv
      exact ⟨by omega, hHigh⟩
  · intro v hv
    obtain rfl | hv := List.mem_cons.mp hv
    · exact hNext
    · exact h.advances v hv
  · rw [List.length_cons]
    omega

/-- `fuel` iterations reach past `stop` from `pos`. -/
def Enough (stop pos fuel : Nat) : Prop := 0 < fuel ∧ stop < pos + 96 * fuel

theorem Enough.next {stop pos fuel next : Nat} (h : Enough stop pos (fuel + 1)) (hFits : pos + 96 ≤ stop)
    (hNext : pos + 96 ≤ next) : Enough stop next fuel := by
  obtain ⟨-, hReach⟩ := h
  exact ⟨by omega, by omega⟩

theorem enough_of_div {length stop fuel : Nat} (hStop : stop ≤ length) (hFuel : length / 96 < fuel) :
    Enough stop itemsStart fuel := by
  have hReach := Nat.lt_mul_of_div_lt hFuel (by decide)
  exact ⟨by omega, by omega⟩

theorem exists_enough (stop pos : Nat) : ∃ n, Enough stop pos n := ⟨stop + 1, by omega, by omega⟩

/-! ## Scans -/

/-- Whatever the bytes are, a scan with enough iterations visits one list of strides. -/
theorem scanFrom_total {acc : List UInt8} {stop : Nat} (hStop : stop ≤ acc.length) (index pos : Nat) :
    ∃ vs, Strides stop pos vs ∧ ∀ {σ R : Type} (visit : σ → Nat → Nat → Nat → QueueItem → σ × Option R) (s : σ)
      (fuel : Nat), Enough stop pos fuel → scanFrom acc stop visit fuel index pos s = some (walk visit vs s) := by
  obtain ⟨n, hn⟩ := exists_enough stop pos
  induction n generalizing index pos with
  | zero => exact absurd hn.1 (Nat.lt_irrefl 0)
  | succ n ih =>
    rcases Nat.lt_or_ge stop (pos + 96) with hEnd | hFits
    · refine ⟨[], .nil stop pos, ?_⟩
      intro σ R visit s fuel hFuel
      obtain ⟨fuel, rfl⟩ := Nat.exists_eq_succ_of_ne_zero (Nat.pos_iff_ne_zero.mp hFuel.1)
      rw [scanFrom, if_neg (by rw [QueueItem.layout_size]; omega)]
      rfl
    · -- the item read at `pos` decides where the rest of the scan starts
      have hRead : read? acc pos 96 = some (slice acc pos 96) := read?_eq_some (by omega)
      generalize hItem : readItemUnaligned (slice acc pos 96) = item
      have hNext := item_le_itemNext pos item
      obtain ⟨vs, hStrides, hRest⟩ := ih (if item.used = 1 then index + 1 else index) (itemNext pos item)
        (hn.next hFits hNext)
      refine ⟨_, hStrides.cons index hFits, ?_⟩
      intro σ R visit s fuel hFuel
      obtain ⟨fuel, rfl⟩ := Nat.exists_eq_succ_of_ne_zero (Nat.pos_iff_ne_zero.mp hFuel.1)
      rw [scanFrom, if_pos (by rw [QueueItem.layout_size]; exact hFits), QueueItem.layout_size, hRead]
      simp only [Option.bind_eq_bind, Option.bind_some, hItem, walk]
      rcases visit s index pos (itemNext pos item) item with ⟨s', _ | result⟩
      · exact hRest visit s' fuel (hFuel.next hFits hNext)
      · rfl

/-- The visits of a scan of the body, and that any visitor is called along them. -/
structure Scans (q : QueueAccount) (vs : List Visit) : Prop where
  strides : Strides q.acc.length itemsStart vs
  walks : ∀ {σ R : Type} (visit : σ → Nat → Nat → Nat → QueueItem → σ × Option R) (s : σ),
    q.scanItems visit s = some (walk visit vs s)

theorem exists_scans (q : QueueAccount) : ∃ vs, Scans q vs := by
  have hStop : min q.acc.length q.header.cursor.toNat ≤ q.acc.length := Nat.min_le_left _ _
  obtain ⟨vs, hStrides, hScan⟩ := scanFrom_total hStop 0 itemsStart
  refine ⟨vs, ⟨fun v hv => ?_, hStrides.advances, ?_⟩, fun visit s => ?_⟩
  · obtain ⟨hLow, hHigh⟩ := hStrides.inside v hv
    exact ⟨hLow, Nat.le_trans hHigh hStop⟩
  · exact Nat.le_trans hStrides.length_le (Nat.sub_le_sub_right hStop _)
  · refine hScan visit s _ (enough_of_div hStop ?_)
    exact Nat.lt_succ_of_le (Nat.div_le_self _ _)

namespace Scans

variable {q : QueueAccount} {vs : List Visit}

theorem visited_eq (h : Scans q vs) : q.visited = some vs := by
  rw [visited, h.walks, walk_fold, Option.map_some, foldl_concat, List.nil_append]

theorem length_le (h : Scans q vs) : vs.length ≤ q.acc.length / 96 := by
  have hLength := h.strides.length_le
  omega

end Scans

/-! ## Lookups and removals -/

theorem iterItems_total (q : QueueAccount) : q.iterItems.isSome = true := by
  obtain ⟨vs, h⟩ := exists_scans q
  rw [iterItems, h.walks]
  rfl

theorem getItemByIndex_total (q : QueueAccount) (index : Nat) : (q.getItemByIndex index).isSome = true := by
  obtain ⟨vs, h⟩ := exists_scans q
  rw [getItemByIndex, h.walks]
  rfl

theorem findItemById_total (q : QueueAccount) (id : Bytes 32) : (q.findItemById id).isSome = true := by
  obtain ⟨vs, h⟩ := exists_scans q
  rw [findItemById, h.walks]
  rfl

theorem trimTrailingHoles_total (q : QueueAccount) : ∃ q', q.trimTrailingHoles = some q' := by
  obtain ⟨vs, h⟩ := exists_scans q
  rw [trimTrailingHoles, h.walks]
  exact ⟨_, rfl⟩

theorem copyItem_total (q : QueueAccount) {pos : Nat} (item : QueueItem) (hFits : pos + 96 ≤ q.acc.length) :
    ∃ q', q.copyFromSlice pos (QueueItem.layout.encode item) = some q' ∧ q'.acc.length = q.acc.length := by
  have hItem := QueueItem.layout.length_encode item
  rw [QueueItem.layout_size] at hItem
  obtain ⟨q', hCopy, hAcc⟩ := copyFromSlice_eq_some q pos (QueueItem.layout.encode item) (by omega)
  exact ⟨q', hCopy, by rw [hAcc, length_splice (by omega)]⟩

theorem removeItem_total (q : QueueAccount) (index : Nat) : (q.removeItem index).isSome = true := by
  obtain ⟨vs, h⟩ := exists_scans q
  rw [removeItem, h.walks, walk_pure]
  simp only [Option.bind_eq_bind, Option.bind_some]
  cases hFind : vs.findSome? fun v => if v.item.used = 1 ∧ v.logicalIndex = index then some (v.itemPos, v.item)
      else none with
  | none => rfl
  | some found =>
    obtain ⟨pos, item⟩ := found
    -- the item lies where the scan has read it
    obtain ⟨v, hv, hMatch⟩ := List.exists_of_findSome?_eq_some hFind
    have hPos : v.itemPos = pos := by
      split at hMatch
      · cases hMatch
        rfl
      · cases hMatch
    obtain ⟨-, hFits⟩ := h.strides.inside v hv
    rw [hPos] at hFits
    obtain ⟨q₁, hCopy, -⟩ := copyItem_total (q.setItemCount (saturatingSub32 q.header.itemCount 1))
      { item with used := 0 } (by rw [setItemCount, length_withHeader]; exact hFits)
    obtain ⟨q₂, hTrim⟩ := trimTrailingHoles_total q₁
    simp only [hCopy, hTrim, Option.bind_some]
    rfl

section

variable {σ : Type}

theorem removeMatchingFrom_total (pred : σ → QueueItem → Bool × σ) (onRemoved : σ → QueueItem → σ) {stop : Nat}
    (pos last : Nat) (q : QueueAccount) (s : σ) (hStop : stop ≤ q.acc.length) :
    ∃ result, ∀ fuel, Enough stop pos fuel →
      removeMatchingFrom stop pred onRemoved fuel pos last q s = some result := by
  obtain ⟨n, hn⟩ := exists_enough stop pos
  induction n generalizing pos last q s with
  | zero => exact absurd hn.1 (Nat.lt_irrefl 0)
  | succ n ih =>
    rcases Nat.lt_or_ge stop (pos + 96) with hEnd | hFits
    · refine ⟨(last, q, s), fun fuel hFuel => ?_⟩
      obtain ⟨fuel, rfl⟩ := Nat.exists_eq_succ_of_ne_zero (Nat.pos_iff_ne_zero.mp hFuel.1)
      rw [removeMatchingFrom, if_neg (by rw [QueueItem.layout_size]; omega)]
    · have hRead : read? q.acc pos 96 = some (slice q.acc pos 96) := read?_eq_some (by omega)
      generalize hItem : readItemUnaligned (slice q.acc pos 96) = item
      have hNext := item_le_itemNext pos item
      -- one iteration and then the rest, from where the item read here ends
      have hLift (rest : Nat → Option (Nat × QueueAccount × σ))
          (hRest : ∃ result, ∀ fuel, Enough stop (itemNext pos item) fuel → rest fuel = some result)
          (hStep : ∀ fuel, removeMatchingFrom stop pred onRemoved (fuel + 1) pos last q s = rest fuel) :
          ∃ result, ∀ fuel, Enough stop pos fuel →
            removeMatchingFrom stop pred onRemoved fuel pos last q s = some result := by
        obtain ⟨result, hResult⟩ := hRest
        refine ⟨result, fun fuel hFuel => ?_⟩
        obtain ⟨fuel, rfl⟩ := Nat.exists_eq_succ_of_ne_zero (Nat.pos_iff_ne_zero.mp hFuel.1)
        rw [hStep, hResult fuel (hFuel.next hFits hNext)]
      have hUnfold (fuel : Nat) := removeMatchingFrom.eq_2 stop pred onRemoved pos last q s fuel
      simp only [QueueItem.layout_size, if_pos hFits, hRead, Option.bind_eq_bind, Option.bind_some, hItem] at hUnfold
      by_cases hUsed : item.used = 1
      · simp only [if_pos hUsed] at hUnfold
        rcases hPred : pred s item with ⟨_ | _, s'⟩
        · simp only [hPred] at hUnfold
          exact hLift _ (ih _ _ q s' hStop (hn.next hFits hNext)) hUnfold
        · obtain ⟨q₁, hCopy, hLength⟩ := copyItem_total q { item with used := 0 } (Nat.le_trans hFits hStop)
          simp only [hPred, hCopy, Option.bind_some] at hUnfold
          refine hLift _ (ih _ _ _ _ ?_ (hn.next hFits hNext)) hUnfold
          rw [setItemCount, length_withHeader, hLength]
          exact hStop
      · simp only [if_neg hUsed] at hUnfold
        exact hLift _ (ih _ _ q s hStop (hn.next hFits hNext)) hUnfold

/-- The pass returns, and within as many iterations as items fit into the body. -/
theorem removeItemsMatching_total (q : QueueAccount) (pred : σ → QueueItem → Bool × σ)
    (onRemoved : σ → QueueItem → σ) (s : σ) :
    ∃ result, (∀ fuel, q.acc.length / 96 < fuel → removeMatchingFrom (min q.acc.length q.header.cursor.toNat) pred
        onRemoved fuel itemsStart itemsStart q s = some result) ∧
      q.removeItemsMatching pred onRemoved s = some (result.2.1.trimTo result.1, result.2.2) := by
  have hStop : min q.acc.length q.header.cursor.toNat ≤ q.acc.length := Nat.min_le_left _ _
  obtain ⟨result, hPass⟩ := removeMatchingFrom_total pred onRemoved itemsStart itemsStart q s hStop
  refine ⟨result, fun fuel hFuel => hPass fuel (enough_of_div hStop hFuel), ?_⟩
  rw [removeItemsMatching, hPass _ (enough_of_div hStop (Nat.lt_succ_of_le (Nat.div_le_self _ _)))]
  rfl

/-! ## Insertions -/

variable {base : QueueItem} {disc args : List UInt8} {metas : List CompactAccountMeta}

theorem writeItemAt_total (q : QueueAccount) (pos : Nat) (base : QueueItem) (disc : List UInt8)
    (metas : List CompactAccountMeta) (args : List UInt8) :
    q.writeItemAt pos base disc metas args = some (.error .accountDataTooSmall, q) ∨
      ∃ argsEnd q', q.writeItemAt pos base disc metas args = some (.ok argsEnd, q') := by
  rcases Nat.lt_or_ge q.acc.length (pos + (Record.written pos base disc metas args).size) with hFull | hRoom
  · left
    rw [Record.size, ← Nat.add_assoc, ← Nat.add_assoc, ← Nat.add_assoc] at hFull
    rw [writeItemAt]
    exact if_pos hFull
  · right
    obtain ⟨q', hWrite, -⟩ := writeItemAt_eq hRoom
    exact ⟨_, q', hWrite⟩

def Inserted (result : Except ProgramError Nat) : Prop := (∃ k, result = .ok k) ∨ result = .error .accountDataTooSmall

theorem reuseSpan_total (q : QueueAccount) (span : ReusableSpan) (idFromPos : σ → UInt32 → Bytes 32 × σ) (s : σ) :
    ∃ result q' s', q.reuseSpan span base disc metas args idFromPos s = some (result, q', s') ∧ Inserted result := by
  obtain hFull | ⟨argsEnd, q', hWrite⟩ := writeItemAt_total q span.itemPos
    { base with id := (idFromPos s (UInt32.ofNat span.itemPos)).1 } disc metas args
  · simp only [reuseSpan, hFull, Option.bind_eq_bind, Option.bind_some, Option.pure_def]
    exact ⟨_, _, _, rfl, Or.inr rfl⟩
  · simp only [reuseSpan, hWrite, Option.bind_eq_bind, Option.bind_some, Option.pure_def]
    exact ⟨_, _, _, rfl, Or.inl ⟨_, rfl⟩⟩

theorem alignCursor_total (q : QueueAccount) (hRoom : alignUp q.header.cursor.toNat ≤ q.acc.length) :
    ∃ q', q.alignCursor (alignUp q.header.cursor.toNat) = some q' := by
  unfold alignCursor
  split
  · have hLe := le_alignUp q.header.cursor.toNat
    obtain ⟨q', hFill, -⟩ := copyFromSlice_eq_some q q.header.cursor.toNat
      (List.replicate (alignUp q.header.cursor.toNat - q.header.cursor.toNat) 0)
      (by rw [List.length_replicate]; omega)
    dsimp only
    rw [hFill]
    exact ⟨_, rfl⟩
  · exact ⟨q, rfl⟩

theorem appendItem_total (q : QueueAccount) (layout : QueueItemLayout) (idFromPos : σ → UInt32 → Bytes 32 × σ) (s : σ) :
    ∃ result q' s', q.appendItem layout base disc metas args idFromPos s = some (result, q', s') ∧
      Inserted result := by
  rcases Nat.lt_or_ge q.acc.length (alignUp q.header.cursor.toNat + layout.totalNeeded) with hFull | hRoom
  · refine ⟨_, q, s, ?_, Or.inr rfl⟩
    rw [appendItem]
    exact if_pos hFull
  · obtain ⟨q₁, hAlign⟩ := alignCursor_total q (by omega)
    have hFits : ¬alignUp q.header.cursor.toNat + layout.totalNeeded > q.acc.length := Nat.not_lt.mpr hRoom
    obtain hWrite | ⟨argsEnd, q₂, hWrite⟩ := writeItemAt_total q₁ q₁.header.cursor.toNat
      { base with id := (idFromPos s (UInt32.ofNat q₁.header.cursor.toNat)).1 } disc metas args
    · simp only [appendItem, if_neg hFits, hAlign, hWrite, Option.bind_eq_bind, Option.bind_some, Option.pure_def]
      exact ⟨_, _, _, rfl, Or.inr rfl⟩
    · simp only [appendItem, if_neg hFits, hAlign, hWrite, Option.bind_eq_bind, Option.bind_some, Option.pure_def]
      exact ⟨_, _, _, rfl, Or.inl ⟨_, rfl⟩⟩

theorem addItemWithId_total (q : QueueAccount) (base : QueueItem) (disc : List UInt8)
    (metas : List CompactAccountMeta) (args : List UInt8) (idFromPos : σ → UInt32 → Bytes 32 × σ) (s : σ) :
    ∃ result q' s', q.addItemWithId base disc metas args idFromPos s = some (result, q', s') ∧
      ((metas.length > 25 ∨ args.length > 512) ∧
          result = .error SolanaVrfError.argumentSizeTooLarge.toProgramError ∨
        ¬(metas.length > 25 ∨ args.length > 512) ∧ Inserted result) := by
  by_cases hLarge : metas.length > 25 ∨ args.length > 512
  · exact ⟨_, q, s, addItemWithId_tooLarge hLarge, Or.inl ⟨hLarge, rfl⟩⟩
  obtain ⟨vs, h⟩ := exists_scans q
  obtain ⟨scan, hScan⟩ : ∃ scan, q.scanForReusableSpan (alignUp (itemSize disc metas args)) = some scan := by
    rw [scanForReusableSpan, h.walks]
    exact ⟨_, rfl⟩
  suffices hResult : ∃ result q' s', q.addItemWithId base disc metas args idFromPos s = some (result, q', s') ∧
      Inserted result by
    obtain ⟨result, q', s', hEq, hInserted⟩ := hResult
    exact ⟨result, q', s', hEq, Or.inr ⟨hLarge, hInserted⟩⟩
  rw [addItemWithId, itemLayout_eq hLarge]
  simp only [hScan, Option.bind_eq_bind, Option.bind_some]
  cases scan.reusableSpan with
  | none => exact appendItem_total _ _ idFromPos s
  | some span =>
    dsimp only
    split
    · exact reuseSpan_total _ _ idFromPos s
    · exact appendItem_total _ _ idFromPos s

end

/-! ## Loaded accounts -/

theorem load_ok_iff (data : List UInt8) :
    (∃ q, load data = .ok q) ↔ data.take 8 = AccountDiscriminator.queue.toBytes ∧ 20 ≤ data.length := by
  have hHeader : Queue.layout.size = 12 := Queue.layout_size
  constructor
  · rintro ⟨q, hLoad⟩
    unfold load at hLoad
    split at hLoad
    · cases hLoad
    split at hLoad
    · cases hLoad
    rename_i hShort hDisc
    dsimp only at hLoad
    split at hLoad
    · cases hLoad
    rename_i hBody
    rw [List.length_drop] at hBody
    exact ⟨(not_not.mp hDisc).symm, by omega⟩
  · rintro ⟨hDisc, hLength⟩
    rw [← List.take_append_drop 8 data, hDisc]
    exact ⟨_, load_append (by rw [List.length_drop]; omega)⟩

theorem length_of_load {data : List UInt8} {q : QueueAccount} (hLoad : load data = .ok q) :
    q.acc.length + 8 = data.length := by
  obtain ⟨hDisc, hLength⟩ := (load_ok_iff data).mp ⟨q, hLoad⟩
  have hHeader : Queue.layout.size = 12 := Queue.layout_size
  have hBody : Queue.layout.size ≤ (data.drop 8).length := by rw [List.length_drop]; omega
  have hLength' : (data.drop 8).length + 8 = data.length := by rw [List.length_drop]; omega
  rw [← List.take_append_drop 8 data, hDisc, load_append hBody] at hLoad
  cases hLoad
  split
  · rw [setCursor, length_withHeader]
    exact hLength'
  · exact hLength'

/-- Every operation returns, no scan visits more than `limit` records, and nothing is read or written
outside the body. -/
structure OperationsTotal (q : QueueAccount) (limit : Nat) : Prop where
  /-- The visits of every scan; `next - item_pos` does not underflow on any of them. -/
  scan : ∃ vs, q.visited = some vs ∧ vs.length ≤ limit ∧
    (∀ v ∈ vs, 16 ≤ v.itemPos ∧ v.itemPos + 96 ≤ q.acc.length ∧ v.itemPos ≤ v.next) ∧
    ∀ {σ R : Type} (visit : σ → Nat → Nat → Nat → QueueItem → σ × Option R) (s : σ),
      q.scanItems visit s = some (walk visit vs s)
  iterItems : q.iterItems.isSome = true
  getItemByIndex : ∀ index, (q.getItemByIndex index).isSome = true
  findItemById : ∀ id, (q.findItemById id).isSome = true
  removeItem : ∀ index, (q.removeItem index).isSome = true
  /-- The pass has a loop of its own, which `limit` iterations and the final test complete. -/
  removeItemsMatching : ∀ {σ : Type} (pred : σ → QueueItem → Bool × σ) (onRemoved : σ → QueueItem → σ) (s : σ),
    (q.removeItemsMatching pred onRemoved s).isSome = true ∧
      (removeMatchingFrom (min q.acc.length q.header.cursor.toNat) pred onRemoved (limit + 1) itemsStart itemsStart
        q s).isSome = true
  addItemWithId : ∀ {σ : Type} (base : QueueItem) (disc : List UInt8) (metas : List CompactAccountMeta)
    (args : List UInt8) (idFromPos : σ → UInt32 → Bytes 32 × σ) (s : σ),
    ∃ result q' s', q.addItemWithId base disc metas args idFromPos s = some (result, q', s') ∧
      ((metas.length > 25 ∨ args.length > 512) ∧
          result = .error SolanaVrfError.argumentSizeTooLarge.toProgramError ∨
        ¬(metas.length > 25 ∨ args.length > 512) ∧ Inserted result)
  /-- The gap that is cleared before an append, whatever the scan has trimmed the cursor to. -/
  gap : ∀ e, (q.trimTo e).header.cursor.toNat ≤ alignUp (q.trimTo e).header.cursor.toNat

/-- `load` accepts any bytes behind the discriminator, and on all of them the operations are total. -/
theorem queue_operations_total (data : List UInt8) :
    ((∃ q, load data = .ok q) ↔ data.take 8 = AccountDiscriminator.queue.toBytes ∧ 20 ≤ data.length) ∧
      ∀ q, load data = .ok q → OperationsTotal q (data.length / 96) := by
  refine ⟨load_ok_iff data, fun q hLoad => ?_⟩
  have hLength := length_of_load hLoad
  have hDiv : q.acc.length / 96 ≤ data.length / 96 := Nat.div_le_div_right (by omega)
  obtain ⟨vs, hScans⟩ := exists_scans q
  refine ⟨⟨vs, hScans.visited_eq, Nat.le_trans hScans.length_le hDiv, fun v hv => ?_, hScans.walks⟩,
    iterItems_total q, getItemByIndex_total q, findItemById_total q, removeItem_total q,
    fun pred onRemoved s => ?_, addItemWithId_total q, fun e => le_alignUp _⟩
  · obtain ⟨hLow, hHigh⟩ := hScans.strides.inside v hv
    have hNext := hScans.strides.advances v hv
    exact ⟨hLow, hHigh, by omega⟩
  · obtain ⟨result, hPass, hRemove⟩ := removeItemsMatching_total q pred onRemoved s
    rw [hRemove, hPass _ (Nat.lt_succ_of_le hDiv)]
    exact ⟨rfl, rfl⟩

/-- All ones behind the discriminator: the cursor points far past the end. -/
theorem queue_operations_total_ones :
    ∃ q, load (AccountDiscriminator.queue.toBytes ++ List.replicate 300 255) = .ok q ∧
      q.header.cursor = 4294967295 ∧ OperationsTotal q 3 := by
  obtain ⟨hAccepts, hTotal⟩ := queue_operations_total (AccountDiscriminator.queue.toBytes ++ List.replicate 300 255)
  have hLength : (AccountDiscriminator.queue.toBytes ++ List.replicate 300 255).length = 308 := by
    rw [List.length_append, AccountDiscriminator.length_toBytes, List.length_replicate]
  rw [hLength] at hAccepts hTotal
  obtain ⟨q, hLoad⟩ := hAccepts.mpr ⟨List.take_left' (AccountDiscriminator.length_toBytes _), by decide⟩
  have hCursor : (load (AccountDiscriminator.queue.toBytes ++ List.replicate 300 255)).toOption.map
      (fun q => q.header.cursor) = some 4294967295 := by decide +kernel
  rw [hLoad] at hCursor
  exact ⟨q, hLoad, Option.some.inj hCursor, hTotal q hLoad⟩

end SolanaVrf
