import SolanaVrf.Lib.EqualityProof
import SolanaVrf.Vrf.Prover

/-! # The two crates compute the same proof system

The program's check on encodings is the equality proof on the points they decode to. From
this the three results about the pair: what the oracle computes the program accepts, the
two verifiers return the same answer on every string, and against a wrong output only one
challenge can be answered.
-/

namespace SolanaVrf
set_option autoImplicit false

open Pod EqualityProof

variable {ℓ : ℕ} {P : Type} [AddCommGroup P] [Module (ZMod ℓ) P] {C : Ristretto ℓ P} {sys : Syscalls}

/-- The points behind the five encodings a check reads. -/
structure Decodes (C : Ristretto ℓ P) (pk h output commitmentBase commitmentHash : Bytes 32)
    (y p z a b : P) : Prop where
  pk : C.decompress pk = some y
  point : C.decompress h = some p
  output : C.decompress output = some z
  commitmentBase : C.decompress commitmentBase = some a
  commitmentHash : C.decompress commitmentHash = some b

namespace Ristretto.Implements

/-! ## Hash points and challenges -/

/-- The two searches stop at the same candidate. -/
theorem hashToPointFrom_eq (hImpl : C.Implements sys) (input : List UInt8) (attempts counter : Nat) :
    Vrf.hashToPointFrom C sys.hash input attempts counter =
      (Verify.hashToPointFrom sys input attempts counter).bind C.decompress := by
  induction attempts generalizing counter with
  | zero => rfl
  | succ attempts ih =>
    -- the prefixes of the two crates are separate constants with one value
    have hCandidate : sys.hash [Vrf.VRF_PREFIX_HASH_TO_POINT, toLe 2 counter, input].flatten =
        sys.hashv [VRF_PREFIX_HASH_TO_POINT, toLe 2 counter, input] := rfl
    rw [Vrf.hashToPointFrom, Verify.hashToPointFrom, hImpl.validate, hCandidate]
    cases hPoint : C.decompress (sys.hashv [VRF_PREFIX_HASH_TO_POINT, toLe 2 counter, input]) with
    | none => simp [ih]
    | some point => simp [hPoint]

theorem hashToPoint_eq (hImpl : C.Implements sys) (input : List UInt8) :
    Vrf.hashToPoint C sys.hash input = (Verify.hashToPoint sys input).bind C.decompress :=
  hImpl.hashToPointFrom_eq input _ _

theorem challenge_eq (hImpl : C.Implements sys) (pk input output commitmentBase commitmentHash : Bytes 32) :
    Verify.challenge sys pk input output commitmentBase commitmentHash =
      Scalar.toBytes (Vrf.challenge ℓ sys.hash pk input output commitmentBase commitmentHash) := by
  rw [Verify.challenge, Verify.hashToScalar, hImpl.reduce]
  rfl

/-! ## The two equations -/

variable {pk h output commitmentBase commitmentHash s c : Bytes 32} {y p z a b : P}

theorem decodes_of_equations (hImpl : C.Implements sys) {answer : Bool}
    (hEquations : Verify.equations sys pk h output commitmentBase commitmentHash s c = some answer) :
    ∃ (y p z a b : P) (s' c' : ZMod ℓ), Decodes C pk h output commitmentBase commitmentHash y p z a b ∧
      s = Scalar.toBytes s' ∧ c = Scalar.toBytes c' := by
  simp only [Verify.equations, hImpl.multiply, hImpl.add, bind, pure, Option.bind_eq_some_iff] at hEquations
  obtain ⟨_, ⟨s', hs, _⟩, _, ⟨c', hc, y, hPk, _⟩, _, ⟨a, hBase, _⟩, _, ⟨_, _, p, hPoint, _⟩, _,
    ⟨_, _, z, hOutput, _⟩, _, ⟨b, hHash, _⟩, _⟩ := hEquations
  exact ⟨y, p, z, a, b, s', c', ⟨hPk, hPoint, hOutput, hBase, hHash⟩,
    (Scalar.toBytes_of_fromCanonicalBytes hs).symm, (Scalar.toBytes_of_fromCanonicalBytes hc).symm⟩

theorem equations_of_decodes [NeZero ℓ] (hImpl : C.Implements sys)
    (hDecodes : Decodes C pk h output commitmentBase commitmentHash y p z a b) (s c : ZMod ℓ) :
    Verify.equations sys pk h output commitmentBase commitmentHash (Scalar.toBytes s) (Scalar.toBytes c) =
      some (C.compress (s • C.basepoint) == C.compress (a + c • y) &&
        C.compress (s • p) == C.compress (b + c • z)) := by
  obtain ⟨hPk, hPoint, hOutput, hBase, hHash⟩ := hDecodes
  simp [Verify.equations, hImpl.multiply, hImpl.add, hImpl.basepoint,
    Scalar.fromCanonicalBytes_toBytes C.order_le, hPk, hPoint, hOutput, hBase, hHash, C.decompress_compress]

theorem decodes_of_computeVrf (hImpl : C.Implements sys) {hkdf : Vrf.Hkdf} {sk s : ZMod ℓ} {input : Bytes 32}
    (hCompute : Vrf.computeVrf C sys.hash hkdf sk input = some (output, commitmentBase, commitmentHash, s)) :
    ∃ h p, Verify.hashToPoint sys input.toList = some h ∧
      Decodes C (C.compress (sk • C.basepoint)) h output commitmentBase commitmentHash (sk • C.basepoint) p
        (sk • p) (Vrf.nonce hkdf sk input • C.basepoint) (Vrf.nonce hkdf sk input • p) ∧
      s = Vrf.nonce hkdf sk input + Vrf.challenge ℓ sys.hash (C.compress (sk • C.basepoint)) input output
        commitmentBase commitmentHash * sk := by
  rw [Vrf.computeVrf, hImpl.hashToPoint_eq, Option.bind_eq_bind, Option.bind_eq_some_iff] at hCompute
  obtain ⟨p, hp, hCompute⟩ := hCompute
  obtain ⟨h, hPoint, hDecode⟩ := Option.bind_eq_some_iff.mp hp
  obtain ⟨rfl, rfl, rfl, rfl⟩ : _ = output ∧ _ = commitmentBase ∧ _ = commitmentHash ∧ _ = s := by
    simpa only [Option.pure_def, Option.some.injEq, Prod.mk.injEq] using hCompute
  refine ⟨h, p, hPoint, ?_, rfl⟩
  exact ⟨C.decompress_compress _, hDecode, C.decompress_compress _, C.decompress_compress _,
    C.decompress_compress _⟩

theorem verifyVrf_of_decodes [NeZero ℓ] (hImpl : C.Implements sys) {input : Bytes 32}
    (hPoint : Verify.hashToPoint sys input.toList = some h)
    (hDecodes : Decodes C pk h output commitmentBase commitmentHash y p z a b) {s c : ZMod ℓ}
    (hChallenge : c = Vrf.challenge ℓ sys.hash pk input output commitmentBase commitmentHash)
    (hBase : s • C.basepoint = a + c • y) (hHash : s • p = b + c • z) :
    Verify.verifyVrf sys pk input output (commitmentBase, commitmentHash, Scalar.toBytes s) = true := by
  refine (Verify.verifyVrf_eq_true_iff sys).mpr ⟨h, hPoint, ?_⟩
  rw [hImpl.challenge_eq, ← hChallenge, hImpl.equations_of_decodes hDecodes, hBase, hHash, beq_self_eq_true,
    beq_self_eq_true]
  rfl

/-- The program accepts what the oracle computes, whatever the order of the group. -/
theorem verifyVrf_of_computeVrf [NeZero ℓ] (hImpl : C.Implements sys) {hkdf : Vrf.Hkdf} {sk s : ZMod ℓ}
    {input : Bytes 32}
    (hCompute : Vrf.computeVrf C sys.hash hkdf sk input = some (output, commitmentBase, commitmentHash, s)) :
    Verify.verifyVrf sys (C.compress (sk • C.basepoint)) input output
      (commitmentBase, commitmentHash, Scalar.toBytes s) = true := by
  obtain ⟨h, p, hPoint, hDecodes, rfl⟩ := hImpl.decodes_of_computeVrf hCompute
  exact hImpl.verifyVrf_of_decodes hPoint hDecodes rfl (by rw [add_smul, mul_smul]) (by rw [add_smul, mul_smul])

theorem verifies_of_computeVrf [DecidableEq P] (hImpl : C.Implements sys) {hkdf : Vrf.Hkdf} {sk s : ZMod ℓ}
    {input : Bytes 32}
    (hCompute : Vrf.computeVrf C sys.hash hkdf sk input = some (output, commitmentBase, commitmentHash, s)) :
    Vrf.verifyVrf C sys.hash (sk • C.basepoint) input output (commitmentBase, commitmentHash, s) = some true := by
  obtain ⟨h, p, hPoint, hDecodes, rfl⟩ := hImpl.decodes_of_computeVrf hCompute
  have hSearch : Vrf.hashToPoint C sys.hash input.toList = some p := by
    rw [hImpl.hashToPoint_eq, hPoint]
    exact hDecodes.point
  rw [Vrf.verifyVrf]
  simp only [hDecodes.output, hDecodes.commitmentBase, hDecodes.commitmentHash, hSearch, Option.bind_eq_bind,
    Option.bind_some, add_smul, mul_smul, beq_self_eq_true]
  rfl

variable [Fact ℓ.Prime]

theorem equations_eq_accepts (hImpl : C.Implements sys)
    (hDecodes : Decodes C pk h output commitmentBase commitmentHash y p z a b) (s c : ZMod ℓ) :
    Verify.equations sys pk h output commitmentBase commitmentHash (Scalar.toBytes s) (Scalar.toBytes c) =
      some true ↔ Accepts C.basepoint p y z a b c s := by
  rw [hImpl.equations_of_decodes hDecodes, Option.some.injEq, Bool.and_eq_true, beq_iff_eq, beq_iff_eq,
    C.compress_injective.eq_iff, C.compress_injective.eq_iff]
  constructor
  · rintro ⟨hBase, hHash⟩
    exact ⟨hBase, hHash⟩
  · rintro ⟨hBase, hHash⟩
    exact ⟨hBase, hHash⟩

/-- What the program accepts is an answer of the equality proof on the decoded points. -/
theorem accepts_of_equations (hImpl : C.Implements sys)
    (hEquations : Verify.equations sys pk h output commitmentBase commitmentHash s c = some true) :
    ∃ (y p z a b : P) (s' c' : ZMod ℓ), Decodes C pk h output commitmentBase commitmentHash y p z a b ∧
      s = Scalar.toBytes s' ∧ c = Scalar.toBytes c' ∧ Accepts C.basepoint p y z a b c' s' := by
  obtain ⟨y, p, z, a, b, s', c', hDecodes, rfl, rfl⟩ := hImpl.decodes_of_equations hEquations
  exact ⟨y, p, z, a, b, s', c', hDecodes, rfl, rfl, (hImpl.equations_eq_accepts hDecodes s' c').mp hEquations⟩

theorem accepts_of_equations_pair (hImpl : C.Implements sys) {s' c' : Bytes 32}
    (hEquations : Verify.equations sys pk h output commitmentBase commitmentHash s c = some true)
    (hEquations' : Verify.equations sys pk h output commitmentBase commitmentHash s' c' = some true) :
    ∃ (y p z a b : P) (t t' d d' : ZMod ℓ), Decodes C pk h output commitmentBase commitmentHash y p z a b ∧
      c = Scalar.toBytes d ∧ c' = Scalar.toBytes d' ∧
      Accepts C.basepoint p y z a b d t ∧ Accepts C.basepoint p y z a b d' t' := by
  obtain ⟨y, p, z, a, b, t, d, hDecodes, rfl, rfl, hAccepts⟩ := hImpl.accepts_of_equations hEquations
  obtain ⟨_, _, _, _, _, t', d', _, rfl, rfl, _⟩ := hImpl.accepts_of_equations hEquations'
  exact ⟨y, p, z, a, b, t, t', d, d', hDecodes, rfl, rfl, hAccepts,
    (hImpl.equations_eq_accepts hDecodes t' d').mp hEquations'⟩

theorem equations_challenge_unique (hImpl : C.Implements sys) {x : ZMod ℓ} {s' c' : Bytes 32}
    (hPk : C.decompress pk = some (x • C.basepoint)) (hPoint : C.decompress h = some p)
    (hFalse : C.decompress output ≠ some (x • p))
    (hEquations : Verify.equations sys pk h output commitmentBase commitmentHash s c = some true)
    (hEquations' : Verify.equations sys pk h output commitmentBase commitmentHash s' c' = some true) :
    c = c' := by
  obtain ⟨y, q, z, a, b, t, t', d, d', hDecodes, rfl, rfl, hAccepts, hAccepts'⟩ :=
    hImpl.accepts_of_equations_pair hEquations hEquations'
  obtain rfl : x • C.basepoint = y := Option.some.inj (hPk.symm.trans hDecodes.pk)
  obtain rfl : p = q := Option.some.inj (hPoint.symm.trans hDecodes.point)
  have hOutput : z ≠ x • p := by
    rintro rfl
    exact hFalse hDecodes.output
  rw [hAccepts.challenge_unique C.basepoint_ne_zero hOutput hAccepts']

end Ristretto.Implements

variable [Fact ℓ.Prime]

/-- Whatever the oracle computes for its key and an input, the program accepts. -/
theorem vrf_completeness (C : Ristretto ℓ P) (sys : Syscalls) (hImpl : C.Implements sys) (hkdf : Vrf.Hkdf)
    (sk : ZMod ℓ) (input output commitmentBase commitmentHash : Bytes 32) (s : ZMod ℓ)
    (hCompute : Vrf.computeVrf C sys.hash hkdf sk input = some (output, commitmentBase, commitmentHash, s)) :
    Verify.verifyVrf sys (C.compress (sk • C.basepoint)) input output
      (commitmentBase, commitmentHash, Scalar.toBytes s) = true := by
  exact hImpl.verifyVrf_of_computeVrf hCompute

/-- A checksum in the place of the key derivation. -/
def Small.hkdf (salt ikm info : List UInt8) : Bytes 64 :=
  leBytes 64 ((salt ++ ikm ++ info).map UInt8.toNat).sum

theorem vrf_completeness_small :
    Vrf.computeVrf Small.curve Small.hash Small.hkdf 3 (leBytes 32 6) =
      some (leBytes 32 6, leBytes 32 6, leBytes 32 5, 6) ∧
    Verify.verifyVrf Small.sys (Small.compress 3) (leBytes 32 6) (leBytes 32 6)
      (leBytes 32 6, leBytes 32 5, Scalar.toBytes (6 : ZMod 7)) = true := by
  have hCompute : Vrf.computeVrf Small.curve Small.hash Small.hkdf 3 (leBytes 32 6) =
      some (leBytes 32 6, leBytes 32 6, leBytes 32 5, 6) := by decide +kernel
  exact ⟨hCompute, vrf_completeness Small.curve Small.sys Small.implements Small.hkdf 3 _ _ _ _ 6 hCompute⟩

/-- A wrong output leaves one challenge that can be answered, whatever the input and response;
two answered challenges put one scalar behind the key and the output. -/
theorem vrf_output_uniqueness (C : Ristretto ℓ P) (sys : Syscalls) (hImpl : C.Implements sys) :
    (∀ (x : ZMod ℓ) (pk h output commitmentBase commitmentHash : Bytes 32) (p : P),
      C.decompress pk = some (x • C.basepoint) → C.decompress h = some p →
      C.decompress output ≠ some (x • p) →
      ∃ cStar : Bytes 32,
        (∀ s c, Verify.equations sys pk h output commitmentBase commitmentHash s c = some true → c = cStar) ∧
        ∀ input s, Verify.hashToPoint sys input.toList = some h →
          Verify.verifyVrf sys pk input output (commitmentBase, commitmentHash, s) = true →
          Verify.challenge sys pk input output commitmentBase commitmentHash = cStar) ∧
    ∀ pk h output commitmentBase commitmentHash s s' c c' : Bytes 32,
      Verify.equations sys pk h output commitmentBase commitmentHash s c = some true →
      Verify.equations sys pk h output commitmentBase commitmentHash s' c' = some true → c ≠ c' →
      ∃ (x : ZMod ℓ) (p : P), C.decompress pk = some (x • C.basepoint) ∧ C.decompress h = some p ∧
        C.decompress output = some (x • p) := by
  constructor
  · intro x pk h output commitmentBase commitmentHash p hPk hPoint hFalse
    have hUnique : ∃ cStar : Bytes 32, ∀ s c,
        Verify.equations sys pk h output commitmentBase commitmentHash s c = some true → c = cStar := by
      by_cases hAny : ∃ s c, Verify.equations sys pk h output commitmentBase commitmentHash s c = some true
      · obtain ⟨s', cStar, hStar⟩ := hAny
        exact ⟨cStar, fun s c hc => hImpl.equations_challenge_unique hPk hPoint hFalse hc hStar⟩
      · exact ⟨h, fun s c hc => absurd ⟨s, c, hc⟩ hAny⟩
    obtain ⟨cStar, hStar⟩ := hUnique
    refine ⟨cStar, hStar, ?_⟩
    intro input s hSearch hVerify
    obtain ⟨h', hSearch', hEquations⟩ := (Verify.verifyVrf_eq_true_iff sys).mp hVerify
    obtain rfl : h = h' := Option.some.inj (hSearch.symm.trans hSearch')
    exact hStar s _ hEquations
  · intro pk h output commitmentBase commitmentHash s s' c c' hEquations hEquations' hne
    obtain ⟨y, p, z, a, b, t, t', d, d', hDecodes, rfl, rfl, hAccepts, hAccepts'⟩ :=
      hImpl.accepts_of_equations_pair hEquations hEquations'
    obtain ⟨x, rfl, rfl⟩ := hAccepts.extract hAccepts' fun hSame => hne (congrArg Scalar.toBytes hSame)
    exact ⟨x, p, hDecodes.pk, hDecodes.point, hDecodes.output⟩

/-- For the key 3 and the hash point 2 the output 5 is wrong, and 4 is the challenge left. -/
theorem vrf_output_uniqueness_small :
    Verify.equations Small.sys (Small.compress 3) (Small.compress 2) (Small.compress 5) (Small.compress 2)
      (Small.compress 1) (leBytes 32 0) (leBytes 32 4) = some true ∧
    ∀ s c, Verify.equations Small.sys (Small.compress 3) (Small.compress 2) (Small.compress 5)
      (Small.compress 2) (Small.compress 1) s c = some true → c = leBytes 32 4 := by
  have hAnswered : Verify.equations Small.sys (Small.compress 3) (Small.compress 2) (Small.compress 5)
      (Small.compress 2) (Small.compress 1) (leBytes 32 0) (leBytes 32 4) = some true := by decide +kernel
  obtain ⟨cStar, hUnique, -⟩ := (vrf_output_uniqueness Small.curve Small.sys Small.implements).1 3
    (Small.compress 3) (Small.compress 2) (Small.compress 5) (Small.compress 2) (Small.compress 1) 2
    (by decide +kernel) (by decide +kernel) (by decide +kernel)
  refine ⟨hAnswered, fun s c hc => ?_⟩
  rw [hUnique s c hc, hUnique _ _ hAnswered]

/-- The oracle's check and the program's give one answer, on strings that decode and on those
that do not. -/
theorem verifiers_agree [DecidableEq P] (C : Ristretto ℓ P) (hCanonical : C.Canonical) (sys : Syscalls)
    (hImpl : C.Implements sys) (pk : Bytes 32) (y : P) (hPk : C.decompress pk = some y) (input : Bytes 32)
    (hFound : (Vrf.hashToPoint C sys.hash input.toList).isSome)
    (output commitmentBase commitmentHash : Bytes 32) (s : ZMod ℓ) :
    Vrf.verifyVrf C sys.hash y input output (commitmentBase, commitmentHash, s) =
      some (Verify.verifyVrf sys pk input output (commitmentBase, commitmentHash, Scalar.toBytes s)) := by
  rw [hImpl.hashToPoint_eq] at hFound
  obtain ⟨p, hp⟩ := Option.isSome_iff_exists.mp hFound
  obtain ⟨h, hPoint, hDecode⟩ := Option.bind_eq_some_iff.mp hp
  have hSearch : Vrf.hashToPoint C sys.hash input.toList = some p := (hImpl.hashToPoint_eq _).trans hp
  by_cases hAll : ∃ z a b, Decodes C pk h output commitmentBase commitmentHash y p z a b
  · obtain ⟨z, a, b, hDecodes⟩ := hAll
    rw [Vrf.verifyVrf, Verify.verifyVrf, hPoint]
    simp only [hDecodes.output, hDecodes.commitmentBase, hDecodes.commitmentHash, hSearch,
      hImpl.challenge_eq, hImpl.equations_of_decodes hDecodes, hCanonical pk y hPk, C.compress_beq]
    rfl
  · -- some encoding fails: the oracle's check stops before the search, the program's at a curve call
    have hRefused : Verify.verifyVrf sys pk input output
        (commitmentBase, commitmentHash, Scalar.toBytes s) = false := by
      rw [Bool.eq_false_iff]
      intro hVerify
      obtain ⟨h', hPoint', hEquations⟩ := (Verify.verifyVrf_eq_true_iff sys).mp hVerify
      obtain ⟨y', p', z, a, b, _, _, hDecodes, _⟩ := hImpl.decodes_of_equations hEquations
      exact hAll ⟨z, a, b, hPk, hDecode, hDecodes.output, hDecodes.commitmentBase, hDecodes.commitmentHash⟩
    rw [hRefused, Vrf.verifyVrf]
    split
    · next z a b hOutput hBase hHash => exact absurd ⟨z, a, b, hPk, hDecode, hOutput, hBase, hHash⟩ hAll
    · rfl

/-- The honest proof, and the same proof with an output that does not decode. -/
theorem verifiers_agree_small :
    Vrf.verifyVrf Small.curve Small.hash 3 (leBytes 32 6) (leBytes 32 6) (leBytes 32 6, leBytes 32 5, 6) =
      some (Verify.verifyVrf Small.sys (Small.compress 3) (leBytes 32 6) (leBytes 32 6)
        (leBytes 32 6, leBytes 32 5, Scalar.toBytes (6 : ZMod 7))) ∧
    Vrf.verifyVrf Small.curve Small.hash 3 (leBytes 32 6) (leBytes 32 7) (leBytes 32 6, leBytes 32 5, 6) =
      some (Verify.verifyVrf Small.sys (Small.compress 3) (leBytes 32 6) (leBytes 32 7)
        (leBytes 32 6, leBytes 32 5, Scalar.toBytes (6 : ZMod 7))) := by
  have hPk : Small.curve.decompress (Small.compress 3) = some 3 := by decide +kernel
  have hFound : (Vrf.hashToPoint Small.curve Small.sys.hash (leBytes 32 6).toList).isSome := by decide +kernel
  exact ⟨verifiers_agree Small.curve Small.canonical Small.sys Small.implements _ 3 hPk _ hFound _ _ _ 6,
    verifiers_agree Small.curve Small.canonical Small.sys Small.implements _ 3 hPk _ hFound _ _ _ 6⟩

end SolanaVrf
