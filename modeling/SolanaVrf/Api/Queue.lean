import SolanaVrf.Platform.Ledger
import SolanaVrf.Lib.Slices

/-! # Queue header, queue items and their byte layouts

The records are `repr(C)` plain-old-data, so each is a layout: the item takes 96 bytes,
the header 12 and a compact account meta 33. Payload accessors read windows of the
account body (the data after the 8-byte discriminator) and fail where slicing would panic.
-/

namespace SolanaVrf
set_option autoImplicit false

open Pod Slices

structure Queue where
  itemCount : UInt32
  cursor : UInt32
  index : UInt8
  paused : UInt8
  padding : Bytes 2
deriving DecidableEq

namespace Queue

def fields : UInt32 × UInt32 × UInt8 × UInt8 × Bytes 2 ≃ Queue where
  toFun f := ⟨f.1, f.2.1, f.2.2.1, f.2.2.2.1, f.2.2.2.2⟩
  invFun q := (q.itemCount, q.cursor, q.index, q.paused, q.padding)
  left_inv _ := rfl
  right_inv _ := rfl

def layout : Layout Queue :=
  (Layout.u32.prod (Layout.u32.prod (Layout.u8.prod (Layout.u8.prod (Layout.bytes 2))))).via fields

@[simp] theorem layout_size : layout.size = 12 := by decide

end Queue

structure QueueItem where
  slot : UInt64
  id : Bytes 32
  callbackProgramId : Bytes 32
  callbackDiscriminatorOffset : UInt32
  metasOffset : UInt32
  argsOffset : UInt32
  callbackDiscriminatorLen : UInt16
  metasLen : UInt16
  argsLen : UInt16
  priorityRequest : UInt8
  used : UInt8
  identityMode : UInt8
  identityBump : UInt8
  createdAt : UInt16
deriving DecidableEq

structure CompactAccountMeta where
  pubkey : Bytes 32
  isWritable : UInt8
deriving DecidableEq

namespace CompactAccountMeta

def fields : Bytes 32 × UInt8 ≃ CompactAccountMeta where
  toFun f := ⟨f.1, f.2⟩
  invFun m := (m.pubkey, m.isWritable)
  left_inv _ := rfl
  right_inv _ := rfl

def layout : Layout CompactAccountMeta := ((Layout.bytes 32).prod Layout.u8).via fields

@[simp] theorem layout_size : layout.size = 33 := by decide

end CompactAccountMeta

namespace QueueItem

def fields : UInt64 × Bytes 32 × Bytes 32 × UInt32 × UInt32 × UInt32 × UInt16 × UInt16 × UInt16 ×
    UInt8 × UInt8 × UInt8 × UInt8 × UInt16 ≃ QueueItem where
  toFun
    | (slot, id, program, discOff, metasOff, argsOff, discLen, metasLen, argsLen, priority, used, mode,
        bump, created) =>
      ⟨slot, id, program, discOff, metasOff, argsOff, discLen, metasLen, argsLen, priority, used, mode,
        bump, created⟩
  invFun i := (i.slot, i.id, i.callbackProgramId, i.callbackDiscriminatorOffset, i.metasOffset,
    i.argsOffset, i.callbackDiscriminatorLen, i.metasLen, i.argsLen, i.priorityRequest, i.used,
    i.identityMode, i.identityBump, i.createdAt)
  left_inv _ := rfl
  right_inv _ := rfl

def layout : Layout QueueItem :=
  (Layout.u64.prod <| (Layout.bytes 32).prod <| (Layout.bytes 32).prod <| Layout.u32.prod <|
    Layout.u32.prod <| Layout.u32.prod <| Layout.u16.prod <| Layout.u16.prod <| Layout.u16.prod <|
    Layout.u8.prod <| Layout.u8.prod <| Layout.u8.prod <| Layout.u8.prod Layout.u16).via fields

@[simp] theorem layout_size : layout.size = 96 := by decide

/-! ## Creation stamps -/

def CREATED_AT_UNIT_SECS : Int64 := 4

/-- Division truncates towards zero and the cast keeps the low 16 bits. -/
def createdAtFrom (unixTimestamp : Int64) : UInt16 :=
  (unixTimestamp / CREATED_AT_UNIT_SECS).toUInt64.toUInt16

def ageSecs (item : QueueItem) (nowStamp : UInt16) : Nat :=
  (nowStamp - item.createdAt).toNat * CREATED_AT_UNIT_SECS.toInt.toNat

/-! ## Payload accessors -/

def callbackDiscriminator (item : QueueItem) (acc : List UInt8) : Option (List UInt8) :=
  read? acc item.callbackDiscriminatorOffset.toNat item.callbackDiscriminatorLen.toNat

def accountMetas (item : QueueItem) (acc : List UInt8) : Option (List CompactAccountMeta) :=
  (read? acc item.metasOffset.toNat (item.metasLen.toNat * CompactAccountMeta.layout.size)).map
    (CompactAccountMeta.layout.decodeAll item.metasLen.toNat)

def callbackArgs (item : QueueItem) (acc : List UInt8) : Option (List UInt8) :=
  read? acc item.argsOffset.toNat item.argsLen.toNat

end QueueItem

/-! ## Account metas -/

structure SerializableAccountMeta where
  pubkey : Bytes 32
  isSigner : Bool
  isWritable : Bool
deriving DecidableEq

def CompactAccountMeta.ofSerializable (val : SerializableAccountMeta) : CompactAccountMeta where
  pubkey := val.pubkey
  isWritable := if val.isWritable then 1 else 0

def CompactAccountMeta.toAccountMeta (m : CompactAccountMeta) : AccountMeta where
  pubkey := m.pubkey
  isSigner := false
  isWritable := m.isWritable != 0

/-- The compact form keeps the key and the writable flag and drops the signer flag. -/
theorem CompactAccountMeta.toAccountMeta_ofSerializable (val : SerializableAccountMeta) :
    (ofSerializable val).toAccountMeta = ⟨val.pubkey, false, val.isWritable⟩ := by
  cases val with
  | mk pubkey isSigner isWritable => cases isWritable <;> rfl

end SolanaVrf
