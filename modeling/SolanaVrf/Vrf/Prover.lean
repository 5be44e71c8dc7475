import SolanaVrf.Vrf.Group

/-! # The oracle's VRF

`compute_vrf` and `verify_vrf` of the oracle's crate, on points and scalars of the group.
The crate writes out its own domain prefixes, its own search for a hash point and its own
challenge transcript. A panic of the crate is `none`.
-/

namespace SolanaVrf
set_option autoImplicit false

open Pod

namespace Vrf

def VRF_PREFIX_HASH_TO_POINT : List UInt8 := ascii "VRF-Ephem-v2-HashToRistretto"
def VRF_PREFIX_HASH_TO_SCALAR : List UInt8 := ascii "VRF-Ephem-HashToScalar"
def VRF_PREFIX_NONCE : List UInt8 := ascii "VRF-Ephem-Nonce"
def VRF_PREFIX_CHALLENGE : List UInt8 := ascii "VRF-Ephem-Challenge"

def HASH_TO_POINT_MAX_ATTEMPTS : Nat := 512

/-- Key derivation from a salt, key material and an info string, expanded to 64 bytes. -/
abbrev Hkdf := List UInt8 → List UInt8 → List UInt8 → Bytes 64

abbrev Proof (ℓ : ℕ) := Bytes 32 × Bytes 32 × ZMod ℓ

def okmScalar (ℓ : ℕ) (okm : Bytes 64) : ZMod ℓ := Scalar.fromBytesModOrder ℓ (okm.take 32)

variable {ℓ : ℕ} {P : Type} [AddCommGroup P] [Module (ZMod ℓ) P]
variable (C : Ristretto ℓ P) (hash : List UInt8 → Bytes 32) (hkdf : Hkdf)

def generateVrfKeypair (keypair : Bytes 64) : ZMod ℓ × P :=
  let sk := okmScalar ℓ (hkdf (ascii "VRF-Solana-SecretKey") keypair.toList (ascii "VRF-Key"))
  (sk, sk • C.basepoint)

/-- `attempts` more candidates, from `counter` on; a search that runs out panics. -/
def hashToPointFrom (input : List UInt8) : Nat → Nat → Option P
  | 0, _ => none
  | attempts + 1, counter =>
    let candidate := hash [VRF_PREFIX_HASH_TO_POINT, toLe 2 counter, input].flatten
    match C.decompress candidate with
    | some point => some point
    | none => hashToPointFrom input attempts (counter + 1)

def hashToPoint (input : List UInt8) : Option P :=
  hashToPointFrom C hash input HASH_TO_POINT_MAX_ATTEMPTS 0

variable (ℓ) in
def hashToScalar (input : Bytes 32) : ZMod ℓ :=
  Scalar.fromBytesModOrder ℓ (hash (VRF_PREFIX_HASH_TO_SCALAR ++ input.toList))

variable (ℓ) in
/-- The transcript both functions of the crate concatenate, reduced to a scalar. -/
def challenge (pk input output commitmentBase commitmentHash : Bytes 32) : ZMod ℓ :=
  let challengeInput := [VRF_PREFIX_CHALLENGE, output.toList, commitmentBase.toList,
    commitmentHash.toList, pk.toList, input.toList].flatten
  hashToScalar ℓ hash (hash challengeInput)

def nonce (sk : ZMod ℓ) (input : Bytes 32) : ZMod ℓ :=
  let ikm := (Scalar.toBytes sk).toList ++ input.toList
  okmScalar ℓ (hkdf VRF_PREFIX_NONCE ikm (ascii "VRF-Nonce"))

def computeVrf (sk : ZMod ℓ) (input : Bytes 32) : Option (Bytes 32 × Proof ℓ) := do
  let h ← hashToPoint C hash input.toList
  let vrfOutput := sk • h
  let pk := sk • C.basepoint
  let k := nonce hkdf sk input
  let commitmentBase := k • C.basepoint
  let commitmentHash := k • h
  let c := challenge ℓ hash (C.compress pk) input (C.compress vrfOutput) (C.compress commitmentBase)
    (C.compress commitmentHash)
  let s := k + c * sk
  return (C.compress vrfOutput, C.compress commitmentBase, C.compress commitmentHash, s)

/-- The three encodings are decoded before the search for the hash point, which may panic. -/
def verifyVrf [DecidableEq P] (pk : P) (input outputCompressed : Bytes 32) (proof : Proof ℓ) : Option Bool :=
  let (commitmentBaseCompressed, commitmentHashCompressed, s) := proof
  match C.decompress outputCompressed, C.decompress commitmentBaseCompressed,
    C.decompress commitmentHashCompressed with
  | some output, some commitmentBase, some commitmentHash => do
    let h ← hashToPoint C hash input.toList
    let c := challenge ℓ hash (C.compress pk) input outputCompressed commitmentBaseCompressed
      commitmentHashCompressed
    return s • C.basepoint == commitmentBase + c • pk && s • h == commitmentHash + c • output
  | _, _, _ => some false

end Vrf

end SolanaVrf
