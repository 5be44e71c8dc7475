import SolanaVrf.Api.QueueAccount
import SolanaVrf.Lib.Tiling
import Mathlib.Data.List.DropRight

/-! # Records of the variable region and what a body represents

A record is an item together with the payload it points at, live or freed: freeing
only clears the flag, so the image of a hole stays in place until its span is reused.
`Represents` ties a body to the list of its records; it is the invariant of every
queue operation.
-/

namespace SolanaVrf
set_option autoImplicit false

open Pod Slices Tiling QueueAccount

/-! ## Alignment -/

theorem alignUp_def (x : Nat) : alignUp x = (x + 7) / 8 * 8 := rfl

theorem le_alignUp (x : Nat) : x ≤ alignUp x := by rw [alignUp_def]; omega

theorem alignUp_lt (x : Nat) : alignUp x < x + 8 := by rw [alignUp_def]; omega

theorem alignUp_mod (x : Nat) : alignUp x % 8 = 0 := by rw [alignUp_def]; omega

theorem alignUp_of_mod {x : Nat} (h : x % 8 = 0) : alignUp x = x := by rw [alignUp_def]; omega

theorem alignUp_add {pos x : Nat} (h : pos % 8 = 0) : alignUp (pos + x) = pos + alignUp x := by
  rw [alignUp_def, alignUp_def]
  omega

/-! ## Records -/

structure Record where
  item : QueueItem
  discriminator : List UInt8
  metas : List CompactAccountMeta
  args : List UInt8
deriving DecidableEq

namespace Record

def live (r : Record) : Bool := r.item.used == 1

def payload (r : Record) : List UInt8 :=
  r.discriminator ++ CompactAccountMeta.layout.encodeAll r.metas ++ r.args

def bytes (r : Record) : List UInt8 := QueueItem.layout.encode r.item ++ r.payload

def size (r : Record) : Nat := 96 + r.discriminator.length + 33 * r.metas.length + r.args.length

theorem length_payload (r : Record) :
    r.payload.length = r.discriminator.length + 33 * r.metas.length + r.args.length := by
  simp [payload, Nat.add_assoc]

@[simp] theorem length_bytes (r : Record) : r.bytes.length = r.size := by
  rw [bytes, List.length_append, QueueItem.layout.length_encode, length_payload, size,
    QueueItem.layout_size]
  omega

/-- The item's own description of its payload is right at offset `pos`. -/
structure Placed (r : Record) (pos : Nat) : Prop where
  aligned : pos % 8 = 0
  discOffset : r.item.callbackDiscriminatorOffset.toNat = pos + 96
  metasOffset : r.item.metasOffset.toNat = pos + 96 + r.discriminator.length
  argsOffset : r.item.argsOffset.toNat = pos + 96 + r.discriminator.length + 33 * r.metas.length
  discLen : r.item.callbackDiscriminatorLen.toNat = r.discriminator.length
  metasLen : r.item.metasLen.toNat = r.metas.length
  argsLen : r.item.argsLen.toNat = r.args.length

def free (r : Record) : Record := { r with item := { r.item with used := 0 } }

@[simp] theorem free_live (r : Record) : r.free.live = false := rfl

@[simp] theorem free_size (r : Record) : r.free.size = r.size := rfl

@[simp] theorem free_payload (r : Record) : r.free.payload = r.payload := rfl

@[simp] theorem free_item (r : Record) : r.free.item = { r.item with used := 0 } := rfl

theorem Placed.free {r : Record} {pos : Nat} (h : r.Placed pos) : r.free.Placed pos :=
  ⟨h.aligned, h.discOffset, h.metasOffset, h.argsOffset, h.discLen, h.metasLen, h.argsLen⟩

/-- The record `write_item_at` leaves at offset `pos`. -/
def written (pos : Nat) (base : QueueItem) (discriminator : List UInt8)
    (metas : List CompactAccountMeta) (args : List UInt8) : Record where
  item := { base with
    callbackDiscriminatorOffset := UInt32.ofNat (pos + 96)
    callbackDiscriminatorLen := UInt16.ofNat discriminator.length
    metasOffset := UInt32.ofNat (pos + 96 + discriminator.length)
    metasLen := UInt16.ofNat metas.length
    argsOffset := UInt32.ofNat (pos + 96 + discriminator.length + 33 * metas.length)
    argsLen := UInt16.ofNat args.length
    used := 1 }
  discriminator := discriminator
  metas := metas
  args := args

@[simp] theorem written_live (pos : Nat) (base : QueueItem) (disc : List UInt8)
    (metas : List CompactAccountMeta) (args : List UInt8) :
    (written pos base disc metas args).live = true := rfl

theorem written_placed {pos : Nat} {base : QueueItem} {disc : List UInt8}
    {metas : List CompactAccountMeta} {args : List UInt8} (hPos : pos % 8 = 0)
    (hDisc : disc.length < 2 ^ 16) (hMetas : metas.length < 2 ^ 16) (hArgs : args.length < 2 ^ 16)
    (hEnd : pos + (written pos base disc metas args).size < 2 ^ 32) :
    (written pos base disc metas args).Placed pos := by
  change pos + (96 + disc.length + 33 * metas.length + args.length) < 2 ^ 32 at hEnd
  have h32 (n : Nat) (h : n < 2 ^ 32) : (UInt32.ofNat n).toNat = n := by
    rw [UInt32.toNat_ofNat']
    exact Nat.mod_eq_of_lt h
  have h16 (n : Nat) (h : n < 2 ^ 16) : (UInt16.ofNat n).toNat = n := by
    rw [UInt16.toNat_ofNat']
    exact Nat.mod_eq_of_lt h
  exact ⟨hPos, h32 _ (by omega), h32 _ (by omega), h32 _ (by omega), h16 _ hDisc, h16 _ hMetas,
    h16 _ hArgs⟩

end Record

/-! ## Positions -/

/-- The variable region is tiled by records, each rounded up to the alignment. -/
def slots : Shape Record UInt8 where
  span r := alignUp r.size
  image := Record.bytes
  fits := Record.Placed
  image_pos r := by rw [Record.length_bytes, Record.size]; omega
  image_le r := by rw [Record.length_bytes]; exact le_alignUp _

@[simp] theorem slots_span (r : Record) : slots.span r = alignUp r.size := rfl

@[simp] theorem slots_image (r : Record) : slots.image r = r.bytes := rfl

def lastEnd : Nat → List Record → Nat
  | pos, [] => pos
  | pos, [r] => pos + r.size
  | pos, r :: recs => lastEnd (pos + alignUp r.size) recs

theorem lastEnd_concat (pos : Nat) (recs : List Record) (r : Record) :
    lastEnd pos (recs ++ [r]) = slots.endAfter pos recs + r.size := by
  induction recs generalizing pos with
  | nil => simp [lastEnd]
  | cons head recs ih =>
    have hStep : lastEnd pos (head :: (recs ++ [r])) =
        lastEnd (pos + alignUp head.size) (recs ++ [r]) := by
      cases recs <;> rfl
    rw [List.cons_append, hStep, ih]
    simp

theorem endAfter_mod {pos : Nat} (recs : List Record) (h : pos % 8 = 0) :
    slots.endAfter pos recs % 8 = 0 := by
  induction recs generalizing pos with
  | nil => simpa using h
  | cons r recs ih =>
    rw [Shape.endAfter_cons]
    apply ih
    have := alignUp_mod r.size
    rw [slots_span]
    omega

theorem lastEnd_le_endAfter (pos : Nat) (recs : List Record) :
    lastEnd pos recs ≤ slots.endAfter pos recs ∧ slots.endAfter pos recs < lastEnd pos recs + 8 := by
  rcases List.eq_nil_or_concat recs with rfl | ⟨init, r, rfl⟩
  · simp [lastEnd]
  · have hLe := le_alignUp r.size
    have hLt := alignUp_lt r.size
    rw [List.concat_eq_append, lastEnd_concat]
    simp only [Shape.endAfter_append, Shape.endAfter_cons, Shape.endAfter_nil, slots_span]
    omega

theorem size_le_lastEnd (pos : Nat) (xs : List Record) (r : Record) (ys : List Record) :
    slots.endAfter pos xs + r.size ≤ lastEnd pos (xs ++ r :: ys) := by
  rcases List.eq_nil_or_concat ys with rfl | ⟨init, z, rfl⟩
  · rw [lastEnd_concat]
  · rw [List.concat_eq_append, ← List.cons_append, ← List.append_assoc, lastEnd_concat,
      Shape.endAfter_append, Shape.endAfter_cons, slots_span]
    have hAlign := le_alignUp r.size
    have hEnd := slots.le_endAfter (slots.endAfter pos xs + alignUp r.size) init
    omega

theorem alignUp_lastEnd {pos : Nat} (recs : List Record) (h : pos % 8 = 0) :
    alignUp (lastEnd pos recs) = slots.endAfter pos recs := by
  obtain ⟨hLe, hLt⟩ := lastEnd_le_endAfter pos recs
  have hMod := endAfter_mod recs h
  rw [alignUp_def]
  omega

theorem itemNext_eq {r : Record} {pos : Nat} (h : r.Placed pos) :
    itemNext pos r.item = pos + alignUp r.size := by
  rw [← alignUp_add h.aligned]
  have hSize : pos + 96 + r.discriminator.length + r.metas.length * 33 + r.args.length =
      pos + r.size := by
    rw [Record.size]
    omega
  simp only [itemNext, h.discLen, h.metasLen, h.argsLen, QueueItem.layout_size,
    CompactAccountMeta.layout_size, hSize]

/-! ## Representation -/

def trim (recs : List Record) : List Record := recs.rdropWhile fun r => !r.live

/-- The body holds these records and the header agrees with them. -/
structure Stored (q : QueueAccount) (recs : List Record) : Prop where
  tiled : slots.Tiled q.acc itemsStart recs
  count : q.header.itemCount.toNat = recs.countP Record.live
  cursor : q.header.cursor.toNat = lastEnd itemsStart recs ∨
    q.header.cursor.toNat = slots.endAfter itemsStart recs
  small : q.acc.length + 8 ≤ 2 ^ 32

/-- Between operations no hole is left at the end. -/
structure Represents (q : QueueAccount) (recs : List Record) : Prop extends Stored q recs where
  trimmed : trim recs = recs

theorem trim_eq_self_iff (recs : List Record) :
    trim recs = recs ↔ ∀ hne : recs ≠ [], (recs.getLast hne).live = true := by
  rw [trim, List.rdropWhile_eq_self_iff]
  simp

theorem trim_concat (recs : List Record) (r : Record) :
    trim (recs ++ [r]) = if r.live then recs ++ [r] else trim recs := by
  rw [trim, List.rdropWhile_concat]
  cases r.live <;> simp [trim]

theorem trim_trim (recs : List Record) : trim (trim recs) = trim recs :=
  List.rdropWhile_idempotent _ _

theorem trim_split (recs : List Record) :
    ∃ holes, recs = trim recs ++ holes ∧ ∀ r ∈ holes, r.live = false := by
  induction recs using List.reverseRecOn with
  | nil => exact ⟨[], by simp [trim], by simp⟩
  | append_singleton recs r ih =>
    rw [trim_concat]
    cases hLive : r.live with
    | true => exact ⟨[], by simp, by simp⟩
    | false =>
      obtain ⟨holes, hSplit, hHoles⟩ := ih
      refine ⟨holes ++ [r], ?_, ?_⟩
      · simp only [Bool.false_eq_true, if_false]
        rw [← List.append_assoc, ← hSplit]
      · intro x hx
        rcases List.mem_append.mp hx with hx | hx
        · exact hHoles x hx
        · rw [List.mem_singleton.mp hx, hLive]

theorem filter_live_trim (recs : List Record) :
    (trim recs).filter Record.live = recs.filter Record.live := by
  obtain ⟨holes, hSplit, hHoles⟩ := trim_split recs
  have hNone : holes.filter Record.live = [] :=
    List.filter_eq_nil_iff.mpr (fun r hr => by simp [hHoles r hr])
  conv_rhs => rw [hSplit, List.filter_append, hNone, List.append_nil]

theorem countP_live_trim (recs : List Record) :
    (trim recs).countP Record.live = recs.countP Record.live := by
  rw [List.countP_eq_length_filter, List.countP_eq_length_filter, filter_live_trim]

end SolanaVrf
