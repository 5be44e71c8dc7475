import Mathlib.Data.List.Basic
import Mathlib.Data.Vector.Basic
import Mathlib.Tactic.Ring

/-! # Plain-old-data layouts

A layout fixes a width and a bijection between the values of a type and the byte
strings of that width. Words are little-endian; records are concatenations of their
fields. Both round trips are fields of the structure, so a layout without padding
bytes is the only kind that can be built.
-/

namespace Pod
set_option autoImplicit false

abbrev Bytes (n : Nat) : Type := List.Vector UInt8 n

/-! ## Little-endian words -/

def toLe : Nat → Nat → List UInt8
  | 0, _ => []
  | width + 1, n => UInt8.ofNat n :: toLe width (n / 256)

def ofLe : List UInt8 → Nat
  | [] => 0
  | byte :: rest => byte.toNat + 256 * ofLe rest

@[simp] theorem length_toLe (width n : Nat) : (toLe width n).length = width := by
  induction width generalizing n with
  | zero => rfl
  | succ width ih => simp [toLe, ih]

def leBytes (width n : Nat) : Bytes width := ⟨toLe width n, length_toLe width n⟩

theorem ofLe_toLe (width n : Nat) : ofLe (toLe width n) = n % 256 ^ width := by
  induction width generalizing n with
  | zero => simp [toLe, ofLe, Nat.mod_one]
  | succ width ih =>
    have hByte : (UInt8.ofNat n).toNat = n % 256 := by simp
    rw [toLe, ofLe, ih, hByte, Nat.pow_succ', Nat.mod_mul]

theorem ofLe_lt (bytes : List UInt8) : ofLe bytes < 256 ^ bytes.length := by
  induction bytes with
  | nil => simp [ofLe]
  | cons byte rest ih =>
    have hByte : byte.toNat < 256 := byte.toNat_lt
    rw [ofLe, List.length_cons, Nat.pow_succ]
    omega

theorem toLe_ofLe (bytes : List UInt8) : toLe bytes.length (ofLe bytes) = bytes := by
  induction bytes with
  | nil => rfl
  | cons byte rest ih =>
    have hByte : byte.toNat < 256 := byte.toNat_lt
    have hDiv : (byte.toNat + 256 * ofLe rest) / 256 = ofLe rest := by omega
    have hMod : UInt8.ofNat (byte.toNat + 256 * ofLe rest) = byte := by
      apply UInt8.toNat_inj.mp
      simp only [UInt8.toNat_ofNat']
      omega
    rw [List.length_cons, ofLe, toLe, hDiv, hMod, ih]

theorem toLe_inj {width m n : Nat} (hm : m < 256 ^ width) (hn : n < 256 ^ width)
    (h : toLe width m = toLe width n) : m = n := by
  have hValue := congrArg ofLe h
  rwa [ofLe_toLe, ofLe_toLe, Nat.mod_eq_of_lt hm, Nat.mod_eq_of_lt hn] at hValue

/-! ## Layouts -/

/-- `decode` is total for convenience; only its values on `size` bytes are constrained. -/
structure Layout (α : Type) where
  size : Nat
  encode : α → List UInt8
  decode : List UInt8 → α
  length_encode : ∀ a, (encode a).length = size
  decode_encode : ∀ a, decode (encode a) = a
  encode_decode : ∀ bytes, bytes.length = size → encode (decode bytes) = bytes

namespace Layout

variable {α β : Type}

/-- A machine word of `width` bytes, given by its numeric value. -/
def word (width : Nat) (ofNat : Nat → α) (toNat : α → Nat)
    (hLt : ∀ a, toNat a < 256 ^ width) (hLeft : ∀ a, ofNat (toNat a) = a)
    (hRight : ∀ n, n < 256 ^ width → toNat (ofNat n) = n) : Layout α where
  size := width
  encode a := toLe width (toNat a)
  decode bytes := ofNat (ofLe bytes)
  length_encode a := length_toLe width _
  decode_encode a := by rw [ofLe_toLe, Nat.mod_eq_of_lt (hLt a), hLeft]
  encode_decode bytes h := by
    subst h
    rw [hRight _ (ofLe_lt bytes), toLe_ofLe]

def u8 : Layout UInt8 :=
  word 1 UInt8.ofNat UInt8.toNat (fun a => by simpa using a.toNat_lt) (fun a => by simp)
    (fun n h => by simpa using Nat.mod_eq_of_lt h)

def u16 : Layout UInt16 :=
  word 2 UInt16.ofNat UInt16.toNat (fun a => by simpa using a.toNat_lt) (fun a => by simp)
    (fun n h => by simpa using Nat.mod_eq_of_lt h)

def u32 : Layout UInt32 :=
  word 4 UInt32.ofNat UInt32.toNat (fun a => by simpa using a.toNat_lt) (fun a => by simp)
    (fun n h => by simpa using Nat.mod_eq_of_lt h)

def u64 : Layout UInt64 :=
  word 8 UInt64.ofNat UInt64.toNat (fun a => by simpa using a.toNat_lt) (fun a => by simp)
    (fun n h => by simpa using Nat.mod_eq_of_lt h)

/-- A byte array field. Short input is padded, which no well-sized read reaches. -/
def bytes (n : Nat) : Layout (Bytes n) where
  size := n
  encode v := v.toList
  decode input := ⟨(input ++ List.replicate n 0).take n, by simp⟩
  length_encode v := v.2
  decode_encode v := by
    apply Subtype.ext
    change (v.toList ++ List.replicate n 0).take n = v.toList
    rw [List.take_append_of_le_length (by simp), List.take_of_length_le (by simp)]
  encode_decode input h := by
    change (input ++ List.replicate n 0).take n = input
    rw [List.take_append_of_le_length (by omega), List.take_of_length_le (by omega)]

def prod (p : Layout α) (q : Layout β) : Layout (α × β) where
  size := p.size + q.size
  encode ab := p.encode ab.1 ++ q.encode ab.2
  decode input := (p.decode (input.take p.size), q.decode (input.drop p.size))
  length_encode ab := by rw [List.length_append, p.length_encode, q.length_encode]
  decode_encode ab := by
    rw [List.take_left' (p.length_encode ab.1), List.drop_left' (p.length_encode ab.1),
      p.decode_encode, q.decode_encode]
  encode_decode input h := by
    rw [p.encode_decode _ (by simp; omega), q.encode_decode _ (by simp; omega),
      List.take_append_drop]

/-- The same layout read through a bijection, used to name the fields of a record. -/
def via (p : Layout α) (e : α ≃ β) : Layout β where
  size := p.size
  encode b := p.encode (e.symm b)
  decode input := e (p.decode input)
  length_encode b := p.length_encode _
  decode_encode b := by rw [p.decode_encode, e.apply_symm_apply]
  encode_decode input h := by rw [e.symm_apply_apply, p.encode_decode input h]

/-- Reads a value only from input of exactly the layout's size. -/
def tryFromBytes (p : Layout α) (input : List UInt8) : Option α :=
  if input.length = p.size then some (p.decode input) else none

theorem tryFromBytes_encode (p : Layout α) (a : α) : p.tryFromBytes (p.encode a) = some a := by
  rw [tryFromBytes, if_pos (p.length_encode a), p.decode_encode]

theorem tryFromBytes_eq_some_iff (p : Layout α) (input : List UInt8) (a : α) :
    p.tryFromBytes input = some a ↔ input = p.encode a := by
  constructor
  · intro h
    unfold tryFromBytes at h
    split at h
    · rename_i hSize
      rw [← Option.some.inj h, p.encode_decode input hSize]
    · cases h
  · rintro rfl
    exact p.tryFromBytes_encode a

/-! ## Arrays of one layout -/

def encodeAll (p : Layout α) (values : List α) : List UInt8 := values.flatMap p.encode

def decodeAll (p : Layout α) : Nat → List UInt8 → List α
  | 0, _ => []
  | count + 1, input => p.decode (input.take p.size) :: decodeAll p count (input.drop p.size)

@[simp] theorem length_encodeAll (p : Layout α) (values : List α) :
    (p.encodeAll values).length = p.size * values.length := by
  induction values with
  | nil => simp [encodeAll]
  | cons a values ih =>
    have hCons : p.encodeAll (a :: values) = p.encode a ++ p.encodeAll values := rfl
    rw [hCons, List.length_append, p.length_encode, ih, List.length_cons]
    ring

theorem decodeAll_encodeAll (p : Layout α) (values : List α) :
    p.decodeAll values.length (p.encodeAll values) = values := by
  induction values with
  | nil => rfl
  | cons a values ih =>
    have hCons : p.encodeAll (a :: values) = p.encode a ++ p.encodeAll values := rfl
    rw [hCons, List.length_cons, decodeAll, List.take_left' (p.length_encode a),
      List.drop_left' (p.length_encode a), p.decode_encode, ih]

end Layout

end Pod
