import Mathlib.Data.ZMod.Basic
import Mathlib.Algebra.Field.ZMod
import SolanaVrf.Api.Verify

/-! # The group behind the curve calls

Both crates compute in one group of prime order: the oracle through a curve library on
points and scalars, the program through syscalls on 32-byte encodings. `Ristretto` is that
group with its encoding; `Implements` says what a syscall does on encodings of its points.
-/

namespace SolanaVrf
set_option autoImplicit false

open Pod

/-- A basepoint and a point encoding for a group of exponent `ℓ`. -/
structure Ristretto (ℓ : ℕ) (P : Type) [AddCommGroup P] [Module (ZMod ℓ) P] where
  basepoint : P
  compress : P → Bytes 32
  decompress : Bytes 32 → Option P
  basepoint_ne_zero : basepoint ≠ 0
  decompress_compress : ∀ p, decompress (compress p) = some p
  order_le : ℓ ≤ 256 ^ 32

/-! ## Scalars -/

namespace Scalar

variable {ℓ : ℕ}

def toBytes (x : ZMod ℓ) : Bytes 32 := leBytes 32 x.val

variable (ℓ) in
def fromBytesModOrder (b : Bytes 32) : ZMod ℓ := (ofLe b.toList : ℕ)

variable (ℓ) in
/-- Only the reduced representative of a scalar decodes. -/
def fromCanonicalBytes (b : Bytes 32) : Option (ZMod ℓ) :=
  if ofLe b.toList < ℓ then some (fromBytesModOrder ℓ b) else none

theorem fromCanonicalBytes_toBytes [NeZero ℓ] (hOrder : ℓ ≤ 256 ^ 32) (x : ZMod ℓ) :
    fromCanonicalBytes ℓ (toBytes x) = some x := by
  have hValue : ofLe (toBytes x).toList = x.val := by
    change ofLe (toLe 32 x.val) = x.val
    rw [ofLe_toLe, Nat.mod_eq_of_lt (lt_of_lt_of_le x.val_lt hOrder)]
  rw [fromCanonicalBytes, fromBytesModOrder, hValue, if_pos x.val_lt, ZMod.natCast_zmod_val]

theorem toBytes_of_fromCanonicalBytes {b : Bytes 32} {x : ZMod ℓ}
    (h : fromCanonicalBytes ℓ b = some x) : toBytes x = b := by
  rw [fromCanonicalBytes] at h
  split at h
  · next hLt =>
    cases h
    apply Subtype.ext
    change toLe 32 (fromBytesModOrder ℓ b).val = b.toList
    have hRound := toLe_ofLe b.toList
    rwa [b.toList_length, ← ZMod.val_cast_of_lt hLt] at hRound
  · cases h

end Scalar

namespace Ristretto

variable {ℓ : ℕ} {P : Type} [AddCommGroup P] [Module (ZMod ℓ) P]

/-- Every point has one encoding: what decodes is what `compress` gives back. -/
def Canonical (C : Ristretto ℓ P) : Prop := ∀ b p, C.decompress b = some p → C.compress p = b

theorem compress_injective (C : Ristretto ℓ P) : Function.Injective C.compress := by
  intro p q h
  have hDecoded := C.decompress_compress p
  rw [h, C.decompress_compress q] at hDecoded
  exact (Option.some.inj hDecoded).symm

theorem compress_beq [DecidableEq P] (C : Ristretto ℓ P) (p q : P) :
    (C.compress p == C.compress q) = (p == q) := by
  rw [Bool.eq_iff_iff, beq_iff_eq, beq_iff_eq, C.compress_injective.eq_iff]

/-- The curve calls on encodings of points and scalars; each fails on what does not decode. -/
structure Implements (C : Ristretto ℓ P) (sys : Syscalls) : Prop where
  basepoint : C.decompress RISTRETTO_BASEPOINT_POINT = some C.basepoint
  validate : ∀ b, sys.validateRistretto b = (C.decompress b).isSome
  multiply : ∀ s b, sys.multiplyRistretto s b = do
    let x ← Scalar.fromCanonicalBytes ℓ s
    let p ← C.decompress b
    return C.compress (x • p)
  add : ∀ a b, sys.addRistretto a b = do
    let p ← C.decompress a
    let q ← C.decompress b
    return C.compress (p + q)
  reduce : ∀ b, sys.scalarFromBytesModOrder b = Scalar.toBytes (Scalar.fromBytesModOrder ℓ b)

def syscalls (C : Ristretto ℓ P) (hash : List UInt8 → Bytes 32) : Syscalls where
  hash := hash
  validateRistretto b := (C.decompress b).isSome
  multiplyRistretto s b := do
    let x ← Scalar.fromCanonicalBytes ℓ s
    let p ← C.decompress b
    return C.compress (x • p)
  addRistretto a b := do
    let p ← C.decompress a
    let q ← C.decompress b
    return C.compress (p + q)
  scalarFromBytesModOrder b := Scalar.toBytes (Scalar.fromBytesModOrder ℓ b)

theorem implements_syscalls (C : Ristretto ℓ P) (hash : List UInt8 → Bytes 32)
    (hBasepoint : C.decompress RISTRETTO_BASEPOINT_POINT = some C.basepoint) :
    C.Implements (C.syscalls hash) where
  basepoint := hBasepoint
  validate _ := rfl
  multiply _ _ := rfl
  add _ _ := rfl
  reduce _ := rfl

end Ristretto

/-! ## A small group

The integers modulo 7 with a partial encoding: the basepoint is 1 under its real encoding, and a
string that encodes no point is not decoded.
-/

namespace Small

instance factPrimeSeven : Fact (Nat.Prime 7) := ⟨by decide⟩

def compress (p : ZMod 7) : Bytes 32 := if p = 1 then RISTRETTO_BASEPOINT_POINT else leBytes 32 p.val

def points : List (ZMod 7) := [0, 1, 2, 3, 4, 5, 6]

def curve : Ristretto 7 (ZMod 7) where
  basepoint := 1
  compress := compress
  decompress b := points.find? fun p => compress p = b
  basepoint_ne_zero := by decide
  decompress_compress := by decide +kernel
  order_le := by decide +kernel

theorem canonical : curve.Canonical := by
  intro b p h
  have hFound : decide (compress p = b) = true := List.find?_some (p := fun p => decide (compress p = b)) h
  exact of_decide_eq_true hFound

/-- A checksum in the place of the hash; two of its eight values encode no point. -/
def hash (bytes : List UInt8) : Bytes 32 := leBytes 32 ((bytes.map UInt8.toNat).sum % 8)

def sys : Syscalls := curve.syscalls hash

theorem implements : curve.Implements sys := curve.implements_syscalls hash (by decide +kernel)

end Small

end SolanaVrf
