import SolanaVrf.Queue.Records

/-! # Scans see exactly the records

The traversal of `scan_items` is a walk over the list of visits that the records
prescribe: their positions, logical indices and items. Every lookup is then a fact
about that list. `Covers` says that the scan bound admits all records and no more.
-/

namespace SolanaVrf
set_option autoImplicit false

open Pod Slices Tiling QueueAccount

variable {σ R : Type}

/-! ## Header updates and raw writes -/

namespace QueueAccount

theorem eq_of_acc {q q' : QueueAccount} (h : q.acc = q'.acc) : q = q' := by
  cases q
  cases q'
  simpa using h

theorem header_room (q : QueueAccount) (h : Queue) :
    0 + (Queue.layout.encode h).length ≤ q.acc.length := by
  rw [Queue.layout.length_encode, Nat.zero_add]
  exact q.header_le

@[simp] theorem header_withHeader (q : QueueAccount) (h : Queue) : (q.withHeader h).header = h := by
  have hSame := slice_splice_self (q.header_room h)
  rw [Queue.layout.length_encode] at hSame
  rw [header, withHeader, hSame, Queue.layout.decode_encode]

@[simp] theorem length_withHeader (q : QueueAccount) (h : Queue) :
    (q.withHeader h).acc.length = q.acc.length := length_splice (q.header_room h)

theorem drop_withHeader (q : QueueAccount) (h : Queue) :
    (q.withHeader h).acc.drop 12 = q.acc.drop 12 := by
  have hRoom := q.header_room h
  exact drop_splice_of_le hRoom (by rw [Queue.layout.length_encode]; exact Nat.le_refl _)

theorem tiled_of_drop_eq {acc acc' : List UInt8} {recs : List Record} (h : slots.Tiled acc itemsStart recs)
    (hDrop : acc'.drop 12 = acc.drop 12) : slots.Tiled acc' itemsStart recs := by
  apply h.congr
  intro start count hStart _
  exact slice_of_drop_eq hDrop (Nat.le_trans (by decide) hStart)

theorem tiled_withHeader (q : QueueAccount) (h : Queue) {recs : List Record} :
    slots.Tiled (q.withHeader h).acc itemsStart recs ↔ slots.Tiled q.acc itemsStart recs :=
  ⟨fun hTiled => tiled_of_drop_eq hTiled (q.drop_withHeader h).symm,
    fun hTiled => tiled_of_drop_eq hTiled (q.drop_withHeader h)⟩

theorem copyFromSlice_eq_some (q : QueueAccount) (start : Nat) (src : List UInt8)
    (h : start + src.length ≤ q.acc.length) :
    ∃ q', q.copyFromSlice start src = some q' ∧ q'.acc = splice q.acc start src :=
  ⟨_, dif_pos h, rfl⟩

theorem header_of_splice {q q' : QueueAccount} {start : Nat} {src : List UInt8}
    (hAcc : q'.acc = splice q.acc start src) (h : start + src.length ≤ q.acc.length)
    (hStart : 12 ≤ start) : q'.header = q.header := by
  rw [header, header, hAcc, slice_splice_disjoint h (Or.inl (by simpa using hStart))]

end QueueAccount

/-! ## Visits -/

structure Visit where
  logicalIndex : Nat
  itemPos : Nat
  next : Nat
  item : QueueItem

def visits : Nat → Nat → List Record → List Visit
  | _, _, [] => []
  | index, pos, r :: recs => ⟨index, pos, pos + alignUp r.size, r.item⟩ ::
      visits (if r.live then index + 1 else index) (pos + alignUp r.size) recs

/-- A fold over visits that stops at the first result. -/
def walk (visit : σ → Nat → Nat → Nat → QueueItem → σ × Option R) : List Visit → σ → σ × Option R
  | [], s => (s, none)
  | v :: rest, s =>
    match visit s v.logicalIndex v.itemPos v.next v.item with
    | (s, some result) => (s, some result)
    | (s, none) => walk visit rest s

theorem index_cons (index : Nat) (r : Record) (recs : List Record) :
    (if r.live then index + 1 else index) + recs.countP Record.live = index + (r :: recs).countP Record.live := by
  rw [List.countP_cons]
  split
  · omega
  · rfl

theorem visits_append (index pos : Nat) (xs ys : List Record) :
    visits index pos (xs ++ ys) =
      visits index pos xs ++ visits (index + xs.countP Record.live) (slots.endAfter pos xs) ys := by
  induction xs generalizing index pos with
  | nil => simp [visits]
  | cons r xs ih =>
    simp only [List.cons_append, visits, ih, index_cons, Shape.endAfter_cons, slots_span]

theorem walk_pure (f : Nat → Nat → Nat → QueueItem → Option R) (vs : List Visit) :
    walk (fun (_ : Unit) index pos next item => ((), f index pos next item)) vs () =
      ((), vs.findSome? fun v => f v.logicalIndex v.itemPos v.next v.item) := by
  induction vs with
  | nil => rfl
  | cons v vs ih =>
    simp only [walk, List.findSome?_cons]
    cases f v.logicalIndex v.itemPos v.next v.item with
    | none => exact ih
    | some result => rfl

theorem walk_fold (f : σ → Nat → Nat → Nat → QueueItem → σ) (vs : List Visit) (s : σ) :
    walk (R := R) (fun s index pos next item => (f s index pos next item, none)) vs s =
      (vs.foldl (fun s v => f s v.logicalIndex v.itemPos v.next v.item) s, none) := by
  induction vs generalizing s with
  | nil => rfl
  | cons v vs ih => exact ih _

/-! ## The scan bound -/

/-- Every record starts and ends below `stop`, and no item fits after the last one. -/
def Covers (stop : Nat) : Nat → List Record → Prop
  | pos, [] => stop < pos + 96
  | pos, r :: recs => pos + r.size ≤ stop ∧ Covers stop (pos + alignUp r.size) recs

theorem Covers.length_lt {stop pos : Nat} {recs : List Record} (h : Covers stop pos recs) :
    recs = [] ∨ pos + recs.length < stop := by
  induction recs generalizing pos with
  | nil => exact Or.inl rfl
  | cons r recs ih =>
    obtain ⟨hLe, hRest⟩ := h
    have hAlign := le_alignUp r.size
    have hSize : 96 ≤ r.size := by rw [Record.size]; omega
    right
    rw [List.length_cons]
    rcases ih hRest with rfl | hLt
    · simp only [List.length_nil]
      omega
    · omega

theorem covers_of_bounds {stop pos : Nat} {recs : List Record} (hLow : recs ≠ [] → lastEnd pos recs ≤ stop)
    (hHigh : stop < slots.endAfter pos recs + 96) : Covers stop pos recs := by
  induction recs generalizing pos with
  | nil => simpa [Covers] using hHigh
  | cons r recs ih =>
    rw [Shape.endAfter_cons, slots_span] at hHigh
    have hLow := hLow (by simp)
    cases recs with
    | nil => exact ⟨hLow, ih (by simp) hHigh⟩
    | cons r' recs =>
      have hStep : lastEnd pos (r :: r' :: recs) = lastEnd (pos + alignUp r.size) (r' :: recs) := rfl
      rw [hStep] at hLow
      obtain ⟨hNext, hRest⟩ := ih (fun _ => hLow) hHigh
      have hAlign := le_alignUp r.size
      exact ⟨by omega, hNext, hRest⟩

theorem lastEnd_le_length {acc : List UInt8} {pos : Nat} {recs : List Record}
    (h : slots.Tiled acc pos recs) (hne : recs ≠ []) : lastEnd pos recs ≤ acc.length := by
  obtain ⟨init, r, rfl⟩ := List.eq_nil_or_concat recs |>.resolve_left hne
  rw [List.concat_eq_append] at h ⊢
  rw [lastEnd_concat]
  simpa using h.image_le_length

namespace Stored

variable {q : QueueAccount} {recs : List Record}

theorem covers (h : Stored q recs) :
    Covers (min q.acc.length q.header.cursor.toNat) itemsStart recs := by
  obtain ⟨hLe, hLt⟩ := lastEnd_le_endAfter itemsStart recs
  apply covers_of_bounds
  · intro hne
    have hLength := lastEnd_le_length h.tiled hne
    rcases h.cursor with hCursor | hCursor <;> omega
  · rcases h.cursor with hCursor | hCursor <;> omega

theorem length_lt (h : Stored q recs) : recs.length < q.acc.length + 1 := by
  rcases h.covers.length_lt with rfl | hLt
  · simp
  · omega

end Stored

/-! ## The traversal -/

theorem slice_item {acc : List UInt8} {pos : Nat} {r : Record}
    (h : slice acc pos r.bytes.length = r.bytes) :
    read? acc pos QueueItem.layout.size = some (QueueItem.layout.encode r.item) := by
  have hFits : pos + r.bytes.length ≤ acc.length :=
    le_length_of_slice (by rw [Record.length_bytes, Record.size]; omega) h rfl
  have hSize : 96 ≤ r.bytes.length := by rw [Record.length_bytes, Record.size]; omega
  rw [read?_eq_some (by rw [QueueItem.layout_size]; omega)]
  have hSub : slice (slice acc pos r.bytes.length) 0 QueueItem.layout.size =
      slice acc (pos + 0) QueueItem.layout.size :=
    slice_slice acc pos (by rw [QueueItem.layout_size]; omega)
  rw [Nat.add_zero, h] at hSub
  rw [← hSub, slice, List.drop_zero, Record.bytes,
    List.take_left' (QueueItem.layout.length_encode r.item)]

theorem scanFrom_walk (acc : List UInt8) (stop : Nat)
    (visit : σ → Nat → Nat → Nat → QueueItem → σ × Option R) (recs : List Record)
    (fuel index pos : Nat) (s : σ) (hTiled : slots.Tiled acc pos recs) (hCovers : Covers stop pos recs)
    (hFuel : recs.length < fuel) :
    scanFrom acc stop visit fuel index pos s = some (walk visit (visits index pos recs) s) := by
  induction recs generalizing fuel index pos s with
  | nil =>
    cases fuel with
    | zero => cases hFuel
    | succ fuel =>
      have hStop : ¬pos + QueueItem.layout.size ≤ stop := by
        rw [QueueItem.layout_size]
        exact Nat.not_le.mpr hCovers
      rw [scanFrom, if_neg hStop]
      rfl
  | cons r recs ih =>
    cases fuel with
    | zero => cases hFuel
    | succ fuel =>
      obtain ⟨hPlaced, hImage, hRest⟩ := hTiled
      rw [slots_span] at hRest
      obtain ⟨hLe, hCovers⟩ := hCovers
      have hStop : pos + QueueItem.layout.size ≤ stop := by
        rw [QueueItem.layout_size]
        rw [Record.size] at hLe
        omega
      rw [scanFrom, if_pos hStop, slice_item hImage]
      simp only [Option.bind_eq_bind, Option.bind_some, readItemUnaligned,
        QueueItem.layout.decode_encode, visits, walk, itemNext_eq hPlaced]
      rcases hVisit : visit s index pos (pos + alignUp r.size) r.item with ⟨s', _ | result⟩
      · dsimp only
        rw [ih fuel _ _ s' hRest hCovers (by simpa using hFuel)]
        simp only [Record.live, beq_iff_eq]
      · rfl

theorem Stored.scanItems_eq {q : QueueAccount} {recs : List Record} (h : Stored q recs)
    (visit : σ → Nat → Nat → Nat → QueueItem → σ × Option R) (s : σ) :
    q.scanItems visit s = some (walk visit (visits 0 itemsStart recs) s) :=
  scanFrom_walk _ _ visit recs _ 0 _ s h.tiled h.covers h.length_lt

end SolanaVrf
