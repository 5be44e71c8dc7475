import SolanaVrf.Platform.Runtime

/-! # The on-chain proof check

`verify_vrf` of the program's api crate: both Schnorr equations are evaluated by curve
syscalls on encodings, any failing syscall rejects, and the two sides are compared as
encodings.
-/

namespace SolanaVrf
set_option autoImplicit false

open Pod

def VRF_PREFIX_CHALLENGE : List UInt8 := ascii "VRF-Ephem-Challenge"
def VRF_PREFIX_HASH_TO_POINT : List UInt8 := ascii "VRF-Ephem-v2-HashToRistretto"
def VRF_PREFIX_HASH_TO_SCALAR : List UInt8 := ascii "VRF-Ephem-HashToScalar"

def RISTRETTO_BASEPOINT_POINT : Bytes 32 :=
  ⟨[226, 242, 174, 10, 106, 188, 78, 113, 168, 132, 169, 97, 197, 0, 81, 95, 88, 227, 11, 106, 165,
    130, 221, 141, 182, 166, 89, 69, 224, 141, 45, 118], rfl⟩

def HASH_TO_POINT_MAX_ATTEMPTS : Nat := 512

namespace Verify

variable (sys : Syscalls)

/-- `attempts` more candidates, from `counter` on. -/
def hashToPointFrom (input : List UInt8) : Nat → Nat → Option (Bytes 32)
  | 0, _ => none
  | attempts + 1, counter =>
    let candidate := sys.hashv [VRF_PREFIX_HASH_TO_POINT, toLe 2 counter, input]
    if sys.validateRistretto candidate then some candidate
    else hashToPointFrom input attempts (counter + 1)

def hashToPoint (input : List UInt8) : Option (Bytes 32) :=
  hashToPointFrom sys input HASH_TO_POINT_MAX_ATTEMPTS 0

def hashToScalar (input : Bytes 32) : Bytes 32 :=
  sys.scalarFromBytesModOrder (sys.hash (VRF_PREFIX_HASH_TO_SCALAR ++ input.toList))

/-- The challenge binds the output, both commitments, the key and the input. -/
def challenge (pk input outputCompressed commitmentBase commitmentHash : Bytes 32) : Bytes 32 :=
  let challengeInput := [VRF_PREFIX_CHALLENGE, outputCompressed.toList, commitmentBase.toList,
    commitmentHash.toList, pk.toList, input.toList].flatten
  hashToScalar sys (sys.hash challengeInput)

/-- The two Schnorr equations for a challenge `c`; `none` is one of the early `return false`. -/
def equations (pk h outputCompressed commitmentBase commitmentHash s c : Bytes 32) : Option Bool := do
  let lhsBase ← sys.multiplyRistretto s RISTRETTO_BASEPOINT_POINT
  let rhsBaseR ← sys.multiplyRistretto c pk
  let rhsBase ← sys.addRistretto commitmentBase rhsBaseR
  let lhsHash ← sys.multiplyRistretto s h
  let rhsHashR ← sys.multiplyRistretto c outputCompressed
  let rhsHash ← sys.addRistretto commitmentHash rhsHashR
  return lhsBase == rhsBase && lhsHash == rhsHash

def verifyVrf (pk input outputCompressed : Bytes 32) (proof : Bytes 32 × Bytes 32 × Bytes 32) : Bool :=
  let (commitmentBase, commitmentHash, s) := proof
  match hashToPoint sys input.toList with
  | none => false
  | some h =>
    let c := challenge sys pk input outputCompressed commitmentBase commitmentHash
    (equations sys pk h outputCompressed commitmentBase commitmentHash s c).getD false

theorem verifyVrf_eq_true_iff {pk input output commitmentBase commitmentHash s : Bytes 32} :
    verifyVrf sys pk input output (commitmentBase, commitmentHash, s) = true ↔
      ∃ h, hashToPoint sys input.toList = some h ∧
        equations sys pk h output commitmentBase commitmentHash s
          (challenge sys pk input output commitmentBase commitmentHash) = some true := by
  rw [verifyVrf]
  cases hPoint : hashToPoint sys input.toList with
  | none => simp
  | some h => simp [Option.getD_eq_iff]

end Verify

end SolanaVrf
