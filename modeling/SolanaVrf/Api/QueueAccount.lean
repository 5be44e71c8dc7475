import SolanaVrf.Api.Queue

/-! # The queue account

`QueueAccount` is the account body: the header overlays its first 12 bytes and the
variable region follows from offset 16. Methods on `&mut self` return the body they
leave even when they return an error; `none` is a panic (or, for the scanning loops, a
bound on the number of iterations that was too small, which no body exceeds).
Positions are `usize` values and are natural numbers here; the header fields keep the
widths of the source. Closures that mutate what they capture thread a state.
-/

namespace SolanaVrf
set_option autoImplicit false

open Pod Slices

def saturatingAdd32 (a b : UInt32) : UInt32 :=
  if a.toNat + b.toNat < 2 ^ 32 then a + b else UInt32.ofNat (2 ^ 32 - 1)

def saturatingSub32 (a b : UInt32) : UInt32 := if b ≤ a then a - b else 0

structure QueueAccount where
  acc : List UInt8
  header_le : Queue.layout.size ≤ acc.length
deriving DecidableEq

structure ReusableSpan where
  itemPos : Nat
  logicalIndex : Nat
deriving DecidableEq

structure QueueScan where
  lastUsedEndAligned : Nat
  reusableSpan : Option ReusableSpan
deriving DecidableEq

structure QueueItemLayout where
  totalNeeded : Nat
  requiredSpan : Nat
deriving DecidableEq

namespace QueueAccount

variable {σ R : Type}

/-- `align_of::<QueueItem>()` is 8; masking with `!(align - 1)` rounds down to a multiple of it. -/
def alignUp (x : Nat) : Nat :=
  let align := 8
  (x + align - 1) / align * align

def itemsStart : Nat := alignUp Queue.layout.size

/-! ## Header and raw writes -/

def header (q : QueueAccount) : Queue := Queue.layout.decode (slice q.acc 0 Queue.layout.size)

def withHeader (q : QueueAccount) (h : Queue) : QueueAccount where
  acc := splice q.acc 0 (Queue.layout.encode h)
  header_le := by
    rw [length_splice (by rw [Queue.layout.length_encode, Nat.zero_add]; exact q.header_le)]
    exact q.header_le

def setItemCount (q : QueueAccount) (n : UInt32) : QueueAccount :=
  q.withHeader { q.header with itemCount := n }

def setCursor (q : QueueAccount) (n : UInt32) : QueueAccount :=
  q.withHeader { q.header with cursor := n }

def setIndex (q : QueueAccount) (n : UInt8) : QueueAccount :=
  q.withHeader { q.header with index := n }

def setPaused (q : QueueAccount) (n : UInt8) : QueueAccount :=
  q.withHeader { q.header with paused := n }

/-- `self.acc[start..start + src.len()].copy_from_slice(src)` -/
def copyFromSlice (q : QueueAccount) (start : Nat) (src : List UInt8) : Option QueueAccount :=
  if h : start + src.length ≤ q.acc.length then
    some ⟨splice q.acc start src, by rw [length_splice h]; exact q.header_le⟩
  else none

def load (data : List UInt8) : Except ProgramError QueueAccount :=
  if data.length < 8 then .error .invalidAccountData
  else if AccountDiscriminator.queue.toBytes ≠ data.take 8 then .error .invalidAccountData
  else
    let body := data.drop 8
    if h : body.length < Queue.layout.size then .error .invalidAccountData
    else
      let q : QueueAccount := ⟨body, Nat.le_of_not_lt h⟩
      -- a freshly created account: cursor 0 means "no data yet"
      if q.header.cursor = 0 then .ok (q.setCursor (UInt32.ofNat itemsStart)) else .ok q

/-! ## Scanning -/

def readItemUnaligned (bytes : List UInt8) : QueueItem := QueueItem.layout.decode bytes

def itemNext (cursor : Nat) (item : QueueItem) : Nat :=
  let metasBytes := item.metasLen.toNat * CompactAccountMeta.layout.size
  alignUp (cursor + QueueItem.layout.size + item.callbackDiscriminatorLen.toNat + metasBytes +
    item.argsLen.toNat)

def scanFrom (acc : List UInt8) (stop : Nat)
    (visit : σ → Nat → Nat → Nat → QueueItem → σ × Option R) :
    Nat → Nat → Nat → σ → Option (σ × Option R)
  | 0, _, _, _ => none
  | fuel + 1, usedIndex, cursor, s =>
    if cursor + QueueItem.layout.size ≤ stop then do
      let bytes ← read? acc cursor QueueItem.layout.size
      let item := readItemUnaligned bytes
      let next := itemNext cursor item
      match visit s usedIndex cursor next item with
      | (s, some result) => some (s, some result)
      | (s, none) => scanFrom acc stop visit fuel (if item.used = 1 then usedIndex + 1 else usedIndex) next s
    else some (s, none)

/-- `visit` receives the logical index, the item's offset, the next item's offset and the item. -/
def scanItems (q : QueueAccount) (visit : σ → Nat → Nat → Nat → QueueItem → σ × Option R) (s : σ) :
    Option (σ × Option R) :=
  scanFrom q.acc (min q.acc.length q.header.cursor.toNat) visit (q.acc.length + 1) 0 itemsStart s

def scanForReusableSpan (q : QueueAccount) (requiredSpan : Nat) : Option QueueScan := do
  let (scan, _) ← q.scanItems (R := Unit) (fun scan logicalIndex itemPos next item =>
    (if item.used = 1 then { scan with lastUsedEndAligned := next }
     else if scan.reusableSpan.isNone ∧ next - itemPos = requiredSpan then
       { scan with reusableSpan := some ⟨itemPos, logicalIndex⟩ }
     else scan, none)) (⟨itemsStart, none⟩ : QueueScan)
  return scan

/-! ## Insertion -/

def writeItemAt (q : QueueAccount) (itemPos : Nat) (baseItem : QueueItem) (discriminator : List UInt8)
    (metas : List CompactAccountMeta) (args : List UInt8) :
    Option (Except ProgramError Nat × QueueAccount) :=
  let discOff := itemPos + QueueItem.layout.size
  let metasOff := discOff + discriminator.length
  let argsOff := metasOff + CompactAccountMeta.layout.size * metas.length
  let argsEnd := argsOff + args.length
  if argsEnd > q.acc.length then some (.error .accountDataTooSmall, q)
  else do
    let q ← q.copyFromSlice discOff discriminator
    let q ← q.copyFromSlice metasOff (CompactAccountMeta.layout.encodeAll metas)
    let q ← q.copyFromSlice argsOff args
    let item := { baseItem with
      callbackDiscriminatorOffset := UInt32.ofNat discOff
      callbackDiscriminatorLen := UInt16.ofNat discriminator.length
      metasOffset := UInt32.ofNat metasOff
      metasLen := UInt16.ofNat metas.length
      argsOffset := UInt32.ofNat argsOff
      argsLen := UInt16.ofNat args.length
      used := 1 }
    let q ← q.copyFromSlice itemPos (QueueItem.layout.encode item)
    return (.ok argsEnd, q)

def itemLayout (discriminator : List UInt8) (metas : List CompactAccountMeta) (args : List UInt8) :
    Except ProgramError QueueItemLayout :=
  if metas.length > MAX_CALLBACK_ACCOUNTS ∨ args.length > 512 then
    .error SolanaVrfError.argumentSizeTooLarge.toProgramError
  else
    let totalNeeded := QueueItem.layout.size + discriminator.length +
      CompactAccountMeta.layout.size * metas.length + args.length
    .ok ⟨totalNeeded, alignUp totalNeeded⟩

/-- The branch of `add_item_with_id` that writes into a freed span. -/
def reuseSpan (q : QueueAccount) (span : ReusableSpan) (baseItem : QueueItem) (discriminator : List UInt8)
    (metas : List CompactAccountMeta) (args : List UInt8) (idFromPos : σ → UInt32 → Bytes 32 × σ) (s : σ) :
    Option (Except ProgramError Nat × QueueAccount × σ) := do
  let (id, s) := idFromPos s (UInt32.ofNat span.itemPos)
  let (written, q) ← q.writeItemAt span.itemPos { baseItem with id := id } discriminator metas args
  match written with
  | .error e => return (.error e, q, s)
  | .ok _ =>
    return (.ok span.logicalIndex, q.setItemCount (saturatingAdd32 q.header.itemCount 1), s)

/-- Zero-fills up to the aligned offset and moves the cursor there. -/
def alignCursor (q : QueueAccount) (aligned : Nat) : Option QueueAccount :=
  if aligned ≠ q.header.cursor.toNat then do
    let start := q.header.cursor.toNat
    let filled ← q.copyFromSlice start (List.replicate (aligned - start) 0)
    pure (filled.setCursor (UInt32.ofNat aligned))
  else pure q

/-- The branch of `add_item_with_id` that writes past the last item. -/
def appendItem (q : QueueAccount) (layout : QueueItemLayout) (baseItem : QueueItem)
    (discriminator : List UInt8) (metas : List CompactAccountMeta) (args : List UInt8)
    (idFromPos : σ → UInt32 → Bytes 32 × σ) (s : σ) :
    Option (Except ProgramError Nat × QueueAccount × σ) :=
  let aligned := alignUp q.header.cursor.toNat
  if aligned + layout.totalNeeded > q.acc.length then some (.error .accountDataTooSmall, q, s)
  else do
    let q ← q.alignCursor aligned
    let itemPos := q.header.cursor.toNat
    let (id, s) := idFromPos s (UInt32.ofNat itemPos)
    let (written, q) ← q.writeItemAt itemPos { baseItem with id := id } discriminator metas args
    match written with
    | .error e => return (.error e, q, s)
    | .ok argsEnd =>
      let q := q.setCursor (UInt32.ofNat argsEnd)
      let logicalIndex := q.header.itemCount.toNat
      return (.ok logicalIndex, q.setItemCount (saturatingAdd32 q.header.itemCount 1), s)

/-- Lowers the cursor to `lastUsedEndAligned`, never raises it. -/
def trimTo (q : QueueAccount) (lastUsedEndAligned : Nat) : QueueAccount :=
  if UInt32.ofNat lastUsedEndAligned < q.header.cursor then
    q.setCursor (UInt32.ofNat lastUsedEndAligned)
  else q

def addItemWithId (q : QueueAccount) (baseItem : QueueItem) (discriminator : List UInt8)
    (metas : List CompactAccountMeta) (args : List UInt8) (idFromPos : σ → UInt32 → Bytes 32 × σ) (s : σ) :
    Option (Except ProgramError Nat × QueueAccount × σ) :=
  match itemLayout discriminator metas args with
  | .error e => some (.error e, q, s)
  | .ok layout => do
    let scan ← q.scanForReusableSpan layout.requiredSpan
    let q := q.trimTo scan.lastUsedEndAligned
    match scan.reusableSpan with
    | some span =>
      if span.itemPos < q.header.cursor.toNat then
        q.reuseSpan span baseItem discriminator metas args idFromPos s
      else q.appendItem layout baseItem discriminator metas args idFromPos s
    | none => q.appendItem layout baseItem discriminator metas args idFromPos s

def addItem (q : QueueAccount) (baseItem : QueueItem) (discriminator : List UInt8)
    (metas : List CompactAccountMeta) (args : List UInt8) :
    Option (Except ProgramError Nat × QueueAccount) := do
  let (result, q, _) ← q.addItemWithId baseItem discriminator metas args
    (fun (_ : Unit) _ => (baseItem.id, ())) ()
  return (result, q)

/-! ## Lookup -/

def iterItems (q : QueueAccount) : Option (List QueueItem) := do
  let (out, _) ← q.scanItems (R := Unit) (fun out _ _ _ item =>
    (if item.used = 1 then out ++ [item] else out, none)) ([] : List QueueItem)
  return out

def getItemByIndex (q : QueueAccount) (index : Nat) : Option (Option QueueItem) := do
  let (_, found) ← q.scanItems (fun (_ : Unit) logicalIndex _ _ item =>
    ((), if item.used = 1 ∧ logicalIndex = index then some item else none)) ()
  return found

def findItemById (q : QueueAccount) (id : Bytes 32) : Option (Option (Nat × QueueItem)) := do
  let (_, found) ← q.scanItems (fun (_ : Unit) logicalIndex _ _ item =>
    ((), if item.used = 1 ∧ item.id = id then some (logicalIndex, item) else none)) ()
  return found

def isEmpty (q : QueueAccount) : Bool := q.header.itemCount == 0

def len (q : QueueAccount) : Nat := q.header.itemCount.toNat

/-! ## Removal -/

def trimTrailingHoles (q : QueueAccount) : Option QueueAccount := do
  let (lastUsedEndAligned, _) ← q.scanItems (R := Unit) (fun last _ _ next item =>
    (if item.used = 1 then next else last, none)) itemsStart
  return q.trimTo lastUsedEndAligned

def removeItem (q : QueueAccount) (index : Nat) : Option (Except ProgramError QueueItem × QueueAccount) := do
  let (_, found) ← q.scanItems (fun (_ : Unit) logicalIndex itemPos _ item =>
    ((), if item.used = 1 ∧ logicalIndex = index then some (itemPos, item) else none)) ()
  match found with
  | none => return (.error SolanaVrfError.invalidQueueIndex.toProgramError, q)
  | some (itemPos, item) =>
    let item := { item with used := 0 }
    let q := q.setItemCount (saturatingSub32 q.header.itemCount 1)
    let q ← q.copyFromSlice itemPos (QueueItem.layout.encode item)
    let q ← q.trimTrailingHoles
    return (.ok item, q)

def removeMatchingFrom (stop : Nat) (pred : σ → QueueItem → Bool × σ) (onRemoved : σ → QueueItem → σ) :
    Nat → Nat → Nat → QueueAccount → σ → Option (Nat × QueueAccount × σ)
  | 0, _, _, _, _ => none
  | fuel + 1, cursor, lastUsedEndAligned, q, s =>
    if cursor + QueueItem.layout.size ≤ stop then do
      let bytes ← read? q.acc cursor QueueItem.layout.size
      let item := readItemUnaligned bytes
      let next := itemNext cursor item
      if item.used = 1 then
        match pred s item with
        | (true, s) =>
          let item := { item with used := 0 }
          let q ← q.copyFromSlice cursor (QueueItem.layout.encode item)
          let q := q.setItemCount (saturatingSub32 q.header.itemCount 1)
          removeMatchingFrom stop pred onRemoved fuel next lastUsedEndAligned q (onRemoved s item)
        | (false, s) => removeMatchingFrom stop pred onRemoved fuel next next q s
      else removeMatchingFrom stop pred onRemoved fuel next lastUsedEndAligned q s
    else some (lastUsedEndAligned, q, s)

/-- `pred` and `on_removed` may both mutate what they capture, here one state `s`. -/
def removeItemsMatching (q : QueueAccount) (pred : σ → QueueItem → Bool × σ)
    (onRemoved : σ → QueueItem → σ) (s : σ) : Option (QueueAccount × σ) := do
  let stop := min q.acc.length q.header.cursor.toNat
  let (lastUsedEndAligned, q, s) ←
    removeMatchingFrom stop pred onRemoved (q.acc.length + 1) itemsStart itemsStart q s
  return (q.trimTo lastUsedEndAligned, s)

end QueueAccount

/-- `Queue::try_from_bytes`: the header of full account data. -/
def Queue.tryFromBytes (data : List UInt8) : Except ProgramError Queue :=
  if data.length < 8 + Queue.layout.size then .error .invalidAccountData
  else if AccountDiscriminator.queue.toBytes ≠ data.take 8 then .error .invalidAccountData
  else .ok (Queue.layout.decode (slice data 8 Queue.layout.size))

end SolanaVrf
