import SolanaVrf.Queue.Lookup

/-! # Insertion

An insertion writes one record, either over a hole of the same span or past the last
record. Both are instances of the tiling rules; the rest is the bookkeeping of the
header and of the 32-bit casts.
-/

namespace SolanaVrf
set_option autoImplicit false

open Pod Slices Tiling QueueAccount

variable {σ : Type}

structure Framed (q q' : QueueAccount) : Prop where
  length : q'.acc.length = q.acc.length
  index : q'.header.index = q.header.index
  paused : q'.header.paused = q.header.paused

theorem Framed.refl (q : QueueAccount) : Framed q q := ⟨rfl, rfl, rfl⟩

theorem Framed.trans {q₁ q₂ q₃ : QueueAccount} (h₁ : Framed q₁ q₂) (h₂ : Framed q₂ q₃) : Framed q₁ q₃ :=
  ⟨h₂.length.trans h₁.length, h₂.index.trans h₁.index, h₂.paused.trans h₁.paused⟩

theorem toNat_ofNat32 {n : Nat} (h : n < 2 ^ 32) : (UInt32.ofNat n).toNat = n := by
  rw [UInt32.toNat_ofNat']
  exact Nat.mod_eq_of_lt h

theorem saturatingAdd32_toNat {a : UInt32} (h : a.toNat + 1 < 2 ^ 32) :
    (saturatingAdd32 a 1).toNat = a.toNat + 1 := by
  have hOne : (1 : UInt32).toNat = 1 := rfl
  rw [saturatingAdd32, hOne, if_pos h, UInt32.toNat_add, hOne, Nat.mod_eq_of_lt h]

theorem saturatingSub32_toNat {a : UInt32} (h : 0 < a.toNat) :
    (saturatingSub32 a 1).toNat = a.toNat - 1 := by
  have hLe : (1 : UInt32) ≤ a := UInt32.le_iff_toNat_le.mpr h
  rw [saturatingSub32, if_pos hLe, UInt32.toNat_sub_of_le a 1 hLe]
  rfl

/-! ## Writing one record -/

theorem writeItemAt_eq {q : QueueAccount} {pos : Nat} {base : QueueItem} {disc : List UInt8}
    {metas : List CompactAccountMeta} {args : List UInt8}
    (hRoom : pos + (Record.written pos base disc metas args).size ≤ q.acc.length) :
    ∃ q', q.writeItemAt pos base disc metas args =
        some (.ok (pos + (Record.written pos base disc metas args).size), q') ∧
      q'.acc = splice q.acc pos (Record.written pos base disc metas args).bytes := by
  have hSize : (Record.written pos base disc metas args).size =
    96 + disc.length + 33 * metas.length + args.length := rfl
  have hMetas : (CompactAccountMeta.layout.encodeAll metas).length = 33 * metas.length := by simp
  have hItem := QueueItem.layout.length_encode (Record.written pos base disc metas args).item
  rw [QueueItem.layout_size] at hItem
  rw [hSize] at hRoom ⊢
  -- payload fields are written left to right, the item last
  obtain ⟨q₁, hq₁, hAcc₁⟩ := copyFromSlice_eq_some q (pos + 96) disc (by omega)
  have hLen₁ : q₁.acc.length = q.acc.length := by rw [hAcc₁, length_splice (by omega)]
  obtain ⟨q₂, hq₂, hAcc₂⟩ := copyFromSlice_eq_some q₁ (pos + 96 + disc.length)
    (CompactAccountMeta.layout.encodeAll metas) (by omega)
  have hLen₂ : q₂.acc.length = q.acc.length := by rw [hAcc₂, length_splice (by omega), hLen₁]
  obtain ⟨q₃, hq₃, hAcc₃⟩ := copyFromSlice_eq_some q₂ (pos + 96 + disc.length + 33 * metas.length)
    args (by omega)
  have hLen₃ : q₃.acc.length = q.acc.length := by rw [hAcc₃, length_splice (by omega), hLen₂]
  obtain ⟨q₄, hq₄, hAcc₄⟩ := copyFromSlice_eq_some q₃ pos
    (QueueItem.layout.encode (Record.written pos base disc metas args).item) (by omega)
  have hFields : q₂.acc =
      splice q.acc (pos + 96) (disc ++ CompactAccountMeta.layout.encodeAll metas) := by
    rw [hAcc₂, hAcc₁, splice_splice_append (by rw [List.length_append]; omega)]
  have hPayload : q₃.acc =
      splice q.acc (pos + 96) (Record.written pos base disc metas args).payload := by
    have hLeft : (disc ++ CompactAccountMeta.layout.encodeAll metas).length =
        disc.length + 33 * metas.length := by rw [List.length_append, hMetas]
    rw [hAcc₃, hFields, Nat.add_assoc (pos + 96), ← hLeft,
      splice_splice_append (by rw [List.length_append, hLeft]; omega)]
    rfl
  refine ⟨q₄, ?_, ?_⟩
  · have hFits : ¬pos + 96 + disc.length + 33 * metas.length + args.length > q.acc.length := by omega
    have hEnd : pos + 96 + disc.length + 33 * metas.length + args.length =
        pos + (96 + disc.length + 33 * metas.length + args.length) := by omega
    simp only [writeItemAt, QueueItem.layout_size, CompactAccountMeta.layout_size]
    rw [if_neg hFits, hq₁, Option.bind_eq_bind, Option.bind_some, hq₂, Option.bind_some, hq₃,
      Option.bind_some, ← hEnd]
    change (q₃.copyFromSlice pos (QueueItem.layout.encode (Record.written pos base disc metas args).item)).bind
      _ = _
    rw [hq₄]
    rfl
  · rw [hAcc₄, hPayload, Record.bytes, ← hItem,
      splice_splice_adjacent (by
        rw [List.length_append, Record.length_payload, hItem]
        change pos + (96 + (disc.length + 33 * metas.length + args.length)) ≤ _
        omega)]

/-! ## Over a hole -/

variable {q : QueueAccount} {recs : List Record}

theorem Represents.withHeader (h : Represents q recs) (header : Queue)
    (hCount : header.itemCount = q.header.itemCount) (hCursor : header.cursor = q.header.cursor) :
    Represents (q.withHeader header) recs := by
  refine ⟨⟨(tiled_withHeader _ _).mpr h.tiled, ?_, ?_, ?_⟩, h.trimmed⟩
  · rw [header_withHeader, hCount, h.count]
  · rw [header_withHeader, hCursor]
    exact h.cursor
  · rw [length_withHeader]
    exact h.small

theorem Stored.end_lt (h : Stored q recs) : slots.endAfter itemsStart recs < 2 ^ 32 := by
  by_cases hne : recs = []
  · subst hne
    decide
  · have hLength := lastEnd_le_length h.tiled hne
    have hLt := (lastEnd_le_endAfter itemsStart recs).2
    have hSmall := h.small
    omega

theorem Stored.cursor_le (h : Stored q recs) : q.header.cursor.toNat ≤ slots.endAfter itemsStart recs := by
  have hLe := (lastEnd_le_endAfter itemsStart recs).1
  rcases h.cursor with hCursor | hCursor <;> omega

theorem Stored.trimTo_end (h : Stored q recs) : q.trimTo (slots.endAfter itemsStart recs) = q := by
  rw [trimTo, if_neg]
  rw [UInt32.lt_iff_toNat_lt, toNat_ofNat32 h.end_lt]
  exact Nat.not_lt.mpr h.cursor_le

theorem Stored.count_lt (h : Stored q recs) : q.header.itemCount.toNat + 1 < 2 ^ 32 := by
  have hCount := h.count
  have hLe := List.countP_le_length (p := Record.live) (l := recs)
  have hSmall := h.small
  rcases h.covers.length_lt with rfl | hLt
  · simp only [List.countP_nil] at hCount
    omega
  · omega

namespace Represents

/-- A hole is never last, so a live record follows it. -/
theorem hole_split {xs ys : List Record} {hole : Record} (h : Represents q (xs ++ hole :: ys))
    (hHole : hole.live = false) : ∃ init r, ys = init ++ [r] ∧ r.live = true := by
  rcases List.eq_nil_or_concat ys with rfl | ⟨init, r, rfl⟩
  · have hLast := (trim_eq_self_iff _).mp h.trimmed (by simp)
    rw [List.getLast_append_singleton, hHole] at hLast
    cases hLast
  · refine ⟨init, r, List.concat_eq_append .., ?_⟩
    have hLast := (trim_eq_self_iff _).mp h.trimmed (by simp)
    simpa using hLast

/-- Replacing a hole by a live record of the same span. -/
theorem replace_hole {xs ys : List Record} {hole new : Record} {q' : QueueAccount}
    (h : Represents q (xs ++ hole :: ys)) (hHole : hole.live = false) (hNew : new.live = true)
    (hSpan : alignUp new.size = alignUp hole.size) (hPlaced : new.Placed (slots.endAfter itemsStart xs))
    (hAcc : q'.acc = splice q.acc (slots.endAfter itemsStart xs) new.bytes)
    (hRoom : slots.endAfter itemsStart xs + new.size ≤ q.acc.length) :
    Represents (q'.setItemCount (saturatingAdd32 q'.header.itemCount 1)) (xs ++ new :: ys) ∧
      Framed q (q'.setItemCount (saturatingAdd32 q'.header.itemCount 1)) := by
  obtain ⟨init, r, rfl, hLive⟩ := h.hole_split hHole
  have hStart : 12 ≤ slots.endAfter itemsStart xs :=
    Nat.le_trans (by decide) (slots.le_endAfter itemsStart xs)
  have hRoom' : slots.endAfter itemsStart xs + new.bytes.length ≤ q.acc.length := by
    rwa [Record.length_bytes]
  have hHeader : q'.header = q.header := header_of_splice hAcc hRoom' hStart
  have hLength : q'.acc.length = q.acc.length := by rw [hAcc, length_splice hRoom']
  have hSame (x : Record) : xs ++ x :: (init ++ [r]) = (xs ++ x :: init) ++ [r] := by simp
  have hEnd : slots.endAfter itemsStart (xs ++ new :: (init ++ [r])) =
      slots.endAfter itemsStart (xs ++ hole :: (init ++ [r])) := by
    simp [hSpan]
  have hLast : lastEnd itemsStart (xs ++ new :: (init ++ [r])) =
      lastEnd itemsStart (xs ++ hole :: (init ++ [r])) := by
    rw [hSame, hSame, lastEnd_concat, lastEnd_concat]
    simp [hSpan]
  refine ⟨⟨⟨?_, ?_, ?_, ?_⟩, ?_⟩, ?_, ?_, ?_⟩
  · rw [setItemCount, tiled_withHeader, hAcc]
    exact h.tiled.replace hSpan hPlaced hRoom'
  · have hLt := h.count_lt
    rw [setItemCount, header_withHeader]
    rw [hHeader, saturatingAdd32_toNat hLt, h.count]
    simp only [List.countP_append, List.countP_cons, hNew, hHole]
    simp
    omega
  · rw [setItemCount, header_withHeader, hHeader, hLast, hEnd]
    exact h.cursor
  · rw [setItemCount, length_withHeader, hLength]
    exact h.small
  · rw [hSame, trim_concat, hLive]
    simp
  · rw [setItemCount, length_withHeader, hLength]
  · rw [setItemCount, header_withHeader, hHeader]
  · rw [setItemCount, header_withHeader, hHeader]

theorem hole_room {xs ys : List Record} {hole : Record} (h : Represents q (xs ++ hole :: ys))
    (hHole : hole.live = false) : slots.endAfter itemsStart xs + alignUp hole.size ≤ q.acc.length := by
  obtain ⟨init, r, rfl, _⟩ := h.hole_split hHole
  have hTiled := h.tiled
  rw [show xs ++ hole :: (init ++ [r]) = (xs ++ hole :: init) ++ r :: [] by simp] at hTiled
  have hLe := hTiled.image_le_length
  rw [Shape.endAfter_append, Shape.endAfter_cons, slots_span] at hLe
  have hEnd := slots.le_endAfter (slots.endAfter itemsStart xs + alignUp hole.size) init
  omega

/-! ## Past the last record -/

theorem alignUp_cursor (h : Represents q recs) :
    alignUp q.header.cursor.toNat = slots.endAfter itemsStart recs := by
  have hStart : itemsStart % 8 = 0 := by decide
  rcases h.cursor with hCursor | hCursor
  · rw [hCursor, alignUp_lastEnd recs hStart]
  · rw [hCursor, alignUp_of_mod (endAfter_mod recs hStart)]

theorem fill_gap {q' : QueueAccount} {gap : List UInt8} (h : Represents q recs)
    (hGap : q.header.cursor.toNat + gap.length = slots.endAfter itemsStart recs)
    (hRoom : slots.endAfter itemsStart recs ≤ q.acc.length)
    (hAcc : q'.acc = splice q.acc q.header.cursor.toNat gap) (hne : recs ≠ []) :
    slots.Tiled q'.acc itemsStart recs ∧ q'.header = q.header ∧ q'.acc.length = q.acc.length := by
  have hFits : q.header.cursor.toNat + gap.length ≤ q.acc.length := by omega
  have hLow : lastEnd itemsStart recs ≤ q.header.cursor.toNat := by
    have hLe := (lastEnd_le_endAfter itemsStart recs).1
    rcases h.cursor with hCursor | hCursor <;> omega
  refine ⟨?_, header_of_splice hAcc hFits ?_, by rw [hAcc, length_splice hFits]⟩
  · apply h.tiled.congr_images
    rintro xs r ys rfl
    have hBefore := size_le_lastEnd itemsStart xs r ys
    rw [hAcc, slots_image, Record.length_bytes]
    exact slice_splice_disjoint hFits (Or.inl (by omega))
  · obtain ⟨init, r, rfl⟩ := List.eq_nil_or_concat recs |>.resolve_left hne
    rw [List.concat_eq_append, lastEnd_concat] at hLow
    have hEnd := slots.le_endAfter itemsStart init
    have hStart : 12 ≤ itemsStart := by decide
    omega

theorem snoc {q₁ q₂ : QueueAccount} {new : Record} (h : Represents q recs)
    (hTiled : slots.Tiled q₁.acc itemsStart recs) (hLen : q₁.acc.length = q.acc.length)
    (hCount : q₁.header.itemCount = q.header.itemCount) (hIndex : q₁.header.index = q.header.index)
    (hPaused : q₁.header.paused = q.header.paused) (hNew : new.live = true)
    (hPlaced : new.Placed (slots.endAfter itemsStart recs))
    (hAcc : q₂.acc = splice q₁.acc (slots.endAfter itemsStart recs) new.bytes)
    (hRoom : slots.endAfter itemsStart recs + new.size ≤ q.acc.length) :
    let q₃ := q₂.setCursor (UInt32.ofNat (slots.endAfter itemsStart recs + new.size))
    let q₄ := q₃.setItemCount (saturatingAdd32 q₃.header.itemCount 1)
    q₃.header.itemCount = q.header.itemCount ∧ Represents q₄ (recs ++ [new]) ∧ Framed q q₄ := by
  intro q₃ q₄
  have hStart : 12 ≤ slots.endAfter itemsStart recs :=
    Nat.le_trans (by decide) (slots.le_endAfter itemsStart recs)
  have hRoom' : slots.endAfter itemsStart recs + new.bytes.length ≤ q₁.acc.length := by
    rwa [Record.length_bytes, hLen]
  have hHeader : q₂.header = q₁.header := header_of_splice hAcc hRoom' hStart
  have hLength : q₂.acc.length = q.acc.length := by rw [hAcc, length_splice hRoom', hLen]
  have hCount₃ : q₃.header.itemCount = q.header.itemCount := by
    simp only [q₃, setCursor, header_withHeader, hHeader, hCount]
  have hSmall := h.small
  refine ⟨hCount₃, ⟨⟨?_, ?_, Or.inl ?_, ?_⟩, ?_⟩, ?_, ?_, ?_⟩
  · simp only [q₄, q₃, setItemCount, setCursor, tiled_withHeader, hAcc]
    exact hTiled.snoc hPlaced hRoom'
  · simp only [q₄, setItemCount, header_withHeader, hCount₃]
    rw [saturatingAdd32_toNat h.count_lt, h.count, List.countP_append]
    simp [hNew]
  · simp only [q₄, q₃, setItemCount, setCursor, header_withHeader]
    rw [toNat_ofNat32 (by omega), lastEnd_concat]
  · simp only [q₄, q₃, setItemCount, setCursor, length_withHeader, hLength]
    exact hSmall
  · rw [trim_concat, hNew]
    simp
  · simp only [q₄, q₃, setItemCount, setCursor, length_withHeader, hLength]
  · simp only [q₄, q₃, setItemCount, setCursor, header_withHeader, hHeader, hIndex]
  · simp only [q₄, q₃, setItemCount, setCursor, header_withHeader, hHeader, hPaused]

end Represents

/-! ## The whole insertion -/

/-- `new` goes into the first hole of its span, or past the last record if there is none. -/
inductive Inserts (new : Record) : List Record → List Record → Nat → Nat → Prop
  | reuse (xs : List Record) (hole : Record) (ys : List Record) (hHole : hole.live = false)
      (hSpan : alignUp new.size = alignUp hole.size) :
      Inserts new (xs ++ hole :: ys) (xs ++ new :: ys) (slots.endAfter itemsStart xs)
        (xs.countP Record.live)
  | append (xs : List Record) (hNone : ∀ r ∈ xs, r.live = false → alignUp r.size ≠ alignUp new.size) :
      Inserts new xs (xs ++ [new]) (slots.endAfter itemsStart xs) (xs.countP Record.live)

theorem Inserts.pos_lt {new : Record} {recs' : List Record} {pos k : Nat} (h : Inserts new recs recs' pos k)
    (hRep : Represents q recs) : pos < 2 ^ 32 := by
  have hEnd := hRep.end_lt
  cases h with
  | reuse xs hole ys _ _ =>
    rw [Shape.endAfter_append] at hEnd
    exact Nat.lt_of_le_of_lt (slots.le_endAfter _ _) hEnd
  | append _ _ => exact hEnd

section

variable {base : QueueItem} {disc args : List UInt8}
  {metas : List CompactAccountMeta} {idFromPos : σ → UInt32 → Bytes 32 × σ} {s : σ}

theorem reuseSpan_eq {xs ys : List Record} {hole new : Record} {pos : Nat}
    (h : Represents q (xs ++ hole :: ys)) (hHole : hole.live = false)
    (hPos : pos = slots.endAfter itemsStart xs)
    (hWritten : new = .written pos { base with id := (idFromPos s (UInt32.ofNat pos)).1 } disc metas args)
    (hSpan : alignUp new.size = alignUp hole.size) (hPlaced : new.Placed pos) :
    ∃ q', q.reuseSpan ⟨pos, xs.countP Record.live⟩ base disc metas args idFromPos s =
        some (.ok (xs.countP Record.live), q', (idFromPos s (UInt32.ofNat pos)).2) ∧
      Represents q' (xs ++ new :: ys) ∧ Framed q q' ∧ q'.header.cursor = q.header.cursor := by
  have hRoom : pos + new.size ≤ q.acc.length := by
    have hHoleRoom := h.hole_room hHole
    have hAlign := le_alignUp new.size
    omega
  rw [hWritten] at hRoom
  obtain ⟨q₁, hWrite, hAcc⟩ := writeItemAt_eq hRoom
  rw [← hWritten] at hRoom hAcc
  have hNew : new.live = true := by rw [hWritten, Record.written_live]
  rw [hPos] at hRoom hAcc hPlaced
  obtain ⟨hRep, hFramed⟩ := h.replace_hole hHole hNew hSpan hPlaced hAcc hRoom
  have hHeader : q₁.header = q.header := header_of_splice hAcc (by rwa [Record.length_bytes])
    (Nat.le_trans (by decide) (slots.le_endAfter itemsStart xs))
  refine ⟨_, ?_, hRep, hFramed, by rw [setItemCount, header_withHeader, hHeader]⟩
  simp only [reuseSpan, hWrite, Option.bind_eq_bind, Option.bind_some, Option.pure_def]

/-- The gap before the cursor's alignment is cleared and the cursor moved over it. -/
theorem alignCursor_eq (h : Represents q recs)
    (hRoom : slots.endAfter itemsStart recs ≤ q.acc.length) :
    ∃ q', q.alignCursor (slots.endAfter itemsStart recs) = some q' ∧
      slots.Tiled q'.acc itemsStart recs ∧ q'.acc.length = q.acc.length ∧
      q'.header = { q.header with cursor := UInt32.ofNat (slots.endAfter itemsStart recs) } := by
  by_cases hAligned : slots.endAfter itemsStart recs = q.header.cursor.toNat
  · refine ⟨q, by rw [alignCursor, if_neg (not_not.mpr hAligned)]; rfl, h.tiled, rfl, ?_⟩
    rw [hAligned, UInt32.ofNat_toNat]
  · have hLe := h.cursor_le
    have hne : recs ≠ [] := by
      rintro rfl
      rcases h.cursor with hCursor | hCursor
      · exact hAligned hCursor.symm
      · exact hAligned hCursor.symm
    have hGap : q.header.cursor.toNat + (List.replicate
        (slots.endAfter itemsStart recs - q.header.cursor.toNat) (0 : UInt8)).length =
        slots.endAfter itemsStart recs := by
      rw [List.length_replicate]
      omega
    obtain ⟨filled, hFilled, hAcc⟩ := copyFromSlice_eq_some q q.header.cursor.toNat _
      (Nat.le_trans (Nat.le_of_eq hGap) hRoom)
    obtain ⟨hTiled, hHeader, hLength⟩ := h.fill_gap hGap hRoom hAcc hne
    refine ⟨filled.setCursor (UInt32.ofNat (slots.endAfter itemsStart recs)), ?_, ?_, ?_, ?_⟩
    · simp only [alignCursor, if_pos hAligned, hFilled]
      rfl
    · exact (tiled_withHeader _ _).mpr hTiled
    · rw [setCursor, length_withHeader, hLength]
    · rw [setCursor, header_withHeader, hHeader]

theorem appendItem_eq {new : Record} {pos : Nat} (layout : QueueItemLayout) (h : Represents q recs)
    (hPos : pos = slots.endAfter itemsStart recs)
    (hWritten : new = .written pos { base with id := (idFromPos s (UInt32.ofNat pos)).1 } disc metas args)
    (hNeeded : layout.totalNeeded = new.size) (hPlaced : new.Placed pos)
    (hRoom : pos + new.size ≤ q.acc.length) :
    ∃ q', q.appendItem layout base disc metas args idFromPos s =
        some (.ok (recs.countP Record.live), q', (idFromPos s (UInt32.ofNat pos)).2) ∧
      Represents q' (recs ++ [new]) ∧ Framed q q' ∧ q'.header.cursor = UInt32.ofNat (pos + new.size) := by
  subst hPos
  obtain ⟨q₁, hAlign, hTiled, hLength, hHeader⟩ := alignCursor_eq h (by omega)
  have hCursor : q₁.header.cursor.toNat = slots.endAfter itemsStart recs := by
    rw [hHeader]
    exact toNat_ofNat32 h.end_lt
  rw [hWritten, ← hLength] at hRoom
  obtain ⟨q₂, hWrite, hAcc⟩ := writeItemAt_eq hRoom
  rw [← hWritten] at hAcc hWrite
  rw [← hWritten, hLength] at hRoom
  have hNew : new.live = true := by rw [hWritten, Record.written_live]
  obtain ⟨hCount, hRep, hFramed⟩ := h.snoc hTiled hLength (by rw [hHeader]) (by rw [hHeader])
    (by rw [hHeader]) hNew hPlaced hAcc hRoom
  refine ⟨_, ?_, hRep, hFramed, by simp only [setItemCount, setCursor, header_withHeader]⟩
  have hFits : ¬slots.endAfter itemsStart recs + new.size > q.acc.length := Nat.not_lt.mpr hRoom
  simp only [appendItem, h.alignUp_cursor, hNeeded]
  rw [if_neg hFits, hAlign]
  simp only [Option.bind_eq_bind, Option.bind_some, hCursor, hWrite, Option.pure_def, hCount, h.count]

theorem appendItem_full {layout : QueueItemLayout} (h : Represents q recs)
    (hRoom : q.acc.length < slots.endAfter itemsStart recs + layout.totalNeeded) :
    q.appendItem layout base disc metas args idFromPos s = some (.error .accountDataTooSmall, q, s) := by
  simp only [appendItem, h.alignUp_cursor]
  rw [if_pos hRoom]

theorem addItemWithId_tooLarge (hLarge : metas.length > MAX_CALLBACK_ACCOUNTS ∨ args.length > 512) :
    q.addItemWithId base disc metas args idFromPos s =
      some (.error SolanaVrfError.argumentSizeTooLarge.toProgramError, q, s) := by
  rw [addItemWithId, itemLayout, if_pos hLarge]

def insertedAt (pos : Nat) (base : QueueItem) (disc : List UInt8) (metas : List CompactAccountMeta)
    (args : List UInt8) (idFromPos : σ → UInt32 → Bytes 32 × σ) (s : σ) : Record :=
  .written pos { base with id := (idFromPos s (UInt32.ofNat pos)).1 } disc metas args

theorem insertedAt_placed {pos : Nat} (hPos : pos % 8 = 0) (hDisc : disc.length < 2 ^ 16)
    (hSmall : ¬(metas.length > MAX_CALLBACK_ACCOUNTS ∨ args.length > 512))
    (hEnd : pos + (insertedAt pos base disc metas args idFromPos s).size < 2 ^ 32) :
    (insertedAt pos base disc metas args idFromPos s).Placed pos := by
  rw [not_or, Nat.not_lt, Nat.not_lt, MAX_CALLBACK_ACCOUNTS] at hSmall
  exact Record.written_placed hPos hDisc (by omega) (by omega) hEnd

def itemSize (disc : List UInt8) (metas : List CompactAccountMeta) (args : List UInt8) : Nat :=
  96 + disc.length + 33 * metas.length + args.length

theorem itemLayout_eq (hSmall : ¬(metas.length > MAX_CALLBACK_ACCOUNTS ∨ args.length > 512)) :
    itemLayout disc metas args = .ok ⟨itemSize disc metas args, alignUp (itemSize disc metas args)⟩ := by
  rw [itemLayout, if_neg hSmall, QueueItem.layout_size, CompactAccountMeta.layout_size]
  rfl

theorem addItemWithId_found {layout : QueueItemLayout} {span : ReusableSpan} (h : Represents q recs)
    (hLayout : itemLayout disc metas args = .ok layout)
    (hFind : (visits 0 itemsStart recs).findSome? (holeAt layout.requiredSpan) = some span)
    (hBelow : span.itemPos < q.header.cursor.toNat) :
    q.addItemWithId base disc metas args idFromPos s =
      q.reuseSpan span base disc metas args idFromPos s := by
  rw [addItemWithId, hLayout]
  simp only [h.scanForReusableSpan_eq, Option.bind_eq_bind, Option.bind_some, h.trimTo_end, hFind, if_pos hBelow]

theorem addItemWithId_notFound {layout : QueueItemLayout} (h : Represents q recs)
    (hLayout : itemLayout disc metas args = .ok layout)
    (hFind : (visits 0 itemsStart recs).findSome? (holeAt layout.requiredSpan) = none) :
    q.addItemWithId base disc metas args idFromPos s =
      q.appendItem layout base disc metas args idFromPos s := by
  rw [addItemWithId, hLayout]
  simp only [h.scanForReusableSpan_eq, Option.bind_eq_bind, Option.bind_some, h.trimTo_end, hFind]

/-! ### The search for a hole -/

def Record.isHole (span : Nat) (r : Record) : Bool := !r.live && alignUp r.size == span

theorem Record.isHole_iff {span : Nat} {r : Record} :
    r.isHole span = true ↔ r.live = false ∧ alignUp r.size = span := by
  simp [isHole]

theorem holeAt_visit (span index pos : Nat) (r : Record) :
    holeAt span (r.visit index pos) = if r.isHole span then some ⟨pos, index⟩ else none := by
  simp [holeAt, Record.visit, Record.isHole, Record.live]

theorem findSome?_holeAt_none {span : Nat} (hNone : ∀ r ∈ recs, r.isHole span = false) (index pos : Nat) :
    (visits index pos recs).findSome? (holeAt span) = none := by
  induction recs generalizing index pos with
  | nil => rfl
  | cons r recs ih =>
    have hHead := holeAt_visit span index pos r
    rw [hNone r List.mem_cons_self, if_neg Bool.false_ne_true] at hHead
    rw [visits_cons, List.findSome?_cons, hHead]
    exact ih (fun r' hr => hNone r' (List.mem_cons_of_mem _ hr)) _ _

theorem findSome?_holeAt_some {span : Nat} {xs : List Record} {hole : Record} (ys : List Record)
    (hFirst : ∀ r ∈ xs, r.isHole span = false) (hHole : hole.isHole span = true) :
    (visits 0 itemsStart (xs ++ hole :: ys)).findSome? (holeAt span) =
      some ⟨slots.endAfter itemsStart xs, xs.countP Record.live⟩ := by
  have hHead := holeAt_visit span (xs.countP Record.live) (slots.endAfter itemsStart xs) hole
  rw [hHole, if_pos rfl] at hHead
  rw [visits_append, List.findSome?_append, findSome?_holeAt_none hFirst, Option.none_or, Nat.zero_add,
    visits_cons, List.findSome?_cons, hHead]

/-! ### The three results -/

theorem addItemWithId_reuse {xs ys : List Record} {hole : Record} (base : QueueItem)
    (idFromPos : σ → UInt32 → Bytes 32 × σ) (s : σ) (h : Represents q (xs ++ hole :: ys))
    (hDisc : disc.length < 2 ^ 16) (hSmall : ¬(metas.length > MAX_CALLBACK_ACCOUNTS ∨ args.length > 512))
    (hFirst : ∀ r ∈ xs, r.isHole (alignUp (itemSize disc metas args)) = false)
    (hHole : hole.isHole (alignUp (itemSize disc metas args)) = true) :
    ∃ q', q.addItemWithId base disc metas args idFromPos s = some (.ok (xs.countP Record.live), q',
        (idFromPos s (UInt32.ofNat (slots.endAfter itemsStart xs))).2) ∧
      Represents q' (xs ++ insertedAt (slots.endAfter itemsStart xs) base disc metas args idFromPos s :: ys) ∧
      Framed q q' ∧ q'.header.cursor = q.header.cursor := by
  obtain ⟨hDead, hSpan⟩ := Record.isHole_iff.mp hHole
  have hRoom := h.hole_room hDead
  have hAlign := le_alignUp (itemSize disc metas args)
  have hLimit := h.small
  have hEnd : slots.endAfter itemsStart xs + itemSize disc metas args < 2 ^ 32 := by omega
  have hPlaced : (insertedAt (slots.endAfter itemsStart xs) base disc metas args idFromPos s).Placed
      (slots.endAfter itemsStart xs) :=
    insertedAt_placed (endAfter_mod xs (by decide)) hDisc hSmall hEnd
  obtain ⟨q', hEq, hRep, hFramed, hCursor⟩ := reuseSpan_eq h hDead rfl rfl hSpan.symm hPlaced
  refine ⟨q', ?_, hRep, hFramed, hCursor⟩
  -- the hole precedes a live record, hence lies below the cursor
  have hBelow : slots.endAfter itemsStart xs < q.header.cursor.toNat := by
    have hLast := size_le_lastEnd itemsStart xs hole ys
    have hLe := (lastEnd_le_endAfter itemsStart (xs ++ hole :: ys)).1
    have hPos : 96 ≤ hole.size := by rw [Record.size]; omega
    rcases h.cursor with hCursor | hCursor <;> omega
  rw [addItemWithId_found h (itemLayout_eq hSmall) (findSome?_holeAt_some ys hFirst hHole) hBelow, hEq]

theorem addItemWithId_append (base : QueueItem) (idFromPos : σ → UInt32 → Bytes 32 × σ) (s : σ)
    (h : Represents q recs) (hDisc : disc.length < 2 ^ 16)
    (hSmall : ¬(metas.length > MAX_CALLBACK_ACCOUNTS ∨ args.length > 512))
    (hNone : ∀ r ∈ recs, r.isHole (alignUp (itemSize disc metas args)) = false)
    (hRoom : slots.endAfter itemsStart recs + itemSize disc metas args ≤ q.acc.length) :
    ∃ q', q.addItemWithId base disc metas args idFromPos s = some (.ok (recs.countP Record.live), q',
        (idFromPos s (UInt32.ofNat (slots.endAfter itemsStart recs))).2) ∧
      Represents q' (recs ++ [insertedAt (slots.endAfter itemsStart recs) base disc metas args idFromPos s]) ∧
      Framed q q' ∧
      q'.header.cursor = UInt32.ofNat (slots.endAfter itemsStart recs + itemSize disc metas args) := by
  have hLimit := h.small
  have hEnd : slots.endAfter itemsStart recs + itemSize disc metas args < 2 ^ 32 := by omega
  have hPlaced : (insertedAt (slots.endAfter itemsStart recs) base disc metas args idFromPos s).Placed
      (slots.endAfter itemsStart recs) :=
    insertedAt_placed (endAfter_mod recs (by decide)) hDisc hSmall hEnd
  obtain ⟨q', hEq, hRest⟩ := appendItem_eq
    ⟨itemSize disc metas args, alignUp (itemSize disc metas args)⟩ h rfl rfl rfl hPlaced hRoom
  refine ⟨q', ?_, hRest⟩
  rw [addItemWithId_notFound h (itemLayout_eq hSmall) (findSome?_holeAt_none hNone 0 itemsStart), hEq]

theorem addItemWithId_full (h : Represents q recs)
    (hSmall : ¬(metas.length > MAX_CALLBACK_ACCOUNTS ∨ args.length > 512))
    (hNone : ∀ r ∈ recs, r.isHole (alignUp (itemSize disc metas args)) = false)
    (hFull : q.acc.length < slots.endAfter itemsStart recs + itemSize disc metas args) :
    q.addItemWithId base disc metas args idFromPos s = some (.error .accountDataTooSmall, q, s) := by
  rw [addItemWithId_notFound h (itemLayout_eq hSmall) (findSome?_holeAt_none hNone 0 itemsStart)]
  exact appendItem_full h hFull

theorem first_hole_cases (span : Nat) (recs : List Record) :
    (∃ xs hole ys, recs = xs ++ hole :: ys ∧ hole.isHole span = true ∧ ∀ r ∈ xs, r.isHole span = false) ∨
      ∀ r ∈ recs, r.isHole span = false := by
  cases hFind : recs.find? (Record.isHole span) with
  | some hole =>
    obtain ⟨hHole, xs, ys, hSplit, hFirst⟩ := List.find?_eq_some_iff_append.mp hFind
    exact Or.inl ⟨xs, hole, ys, hSplit, hHole, fun r hr => by simpa using hFirst r hr⟩
  | none => exact Or.inr fun r hr => by simpa using List.find?_eq_none.mp hFind r hr

/-- An insertion that passes the size limits either writes one record and counts it, or finds no
room and changes nothing. -/
theorem addItemWithId_eq (base : QueueItem) (idFromPos : σ → UInt32 → Bytes 32 × σ) (s : σ)
    (h : Represents q recs) (hDisc : disc.length < 2 ^ 16)
    (hSmall : ¬(metas.length > MAX_CALLBACK_ACCOUNTS ∨ args.length > 512)) :
    (∃ pos k recs' q',
      q.addItemWithId base disc metas args idFromPos s =
        some (.ok k, q', (idFromPos s (UInt32.ofNat pos)).2) ∧
      Inserts (insertedAt pos base disc metas args idFromPos s) recs recs' pos k ∧
      Represents q' recs' ∧ Framed q q') ∨
    q.addItemWithId base disc metas args idFromPos s = some (.error .accountDataTooSmall, q, s) ∧
      q.acc.length < slots.endAfter itemsStart recs + itemSize disc metas args ∧
      ∀ r ∈ recs, r.isHole (alignUp (itemSize disc metas args)) = false := by
  obtain ⟨xs, hole, ys, rfl, hHole, hFirst⟩ | hNone := first_hole_cases (alignUp (itemSize disc metas args)) recs
  · obtain ⟨hDead, hSpan⟩ := Record.isHole_iff.mp hHole
    obtain ⟨q', hEq, hRep, hFramed, -⟩ := addItemWithId_reuse base idFromPos s h hDisc hSmall hFirst hHole
    exact Or.inl ⟨_, _, _, q', hEq, .reuse xs hole ys hDead hSpan.symm, hRep, hFramed⟩
  · rcases Nat.lt_or_ge q.acc.length (slots.endAfter itemsStart recs + itemSize disc metas args) with hFull | hRoom
    · exact Or.inr ⟨addItemWithId_full h hSmall hNone hFull, hFull, hNone⟩
    · obtain ⟨q', hEq, hRep, hFramed, -⟩ := addItemWithId_append base idFromPos s h hDisc hSmall hNone hRoom
      refine Or.inl ⟨_, _, _, q', hEq, .append recs ?_, hRep, hFramed⟩
      intro r hr hDead hSpan
      have hHole : r.isHole (alignUp (itemSize disc metas args)) = true := Record.isHole_iff.mpr ⟨hDead, hSpan⟩
      rw [hNone r hr] at hHole
      cases hHole

end

end SolanaVrf
