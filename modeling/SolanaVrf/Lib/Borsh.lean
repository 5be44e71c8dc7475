import SolanaVrf.Lib.Pod

/-! # Prefix decoders with exact round trips

A codec reads a value off the front of a byte list and returns the rest. Decoding
inverts encoding on valid values, and whatever is accepted is the encoding of a valid
value followed by the rest, so every accepted input has exactly one reading.
-/

namespace Borsh
set_option autoImplicit false

open Pod

structure Codec (α : Type) where
  valid : α → Prop
  encode : α → List UInt8
  decode : List UInt8 → Option (α × List UInt8)
  decode_encode : ∀ a rest, valid a → decode (encode a ++ rest) = some (a, rest)
  eq_encode : ∀ input a rest, decode input = some (a, rest) → valid a ∧ input = encode a ++ rest

namespace Codec

variable {α β : Type}

def ofLayout (p : Layout α) : Codec α where
  valid _ := True
  encode := p.encode
  decode input := if p.size ≤ input.length then some (p.decode (input.take p.size), input.drop p.size) else none
  decode_encode a rest _ := by
    rw [if_pos (by rw [List.length_append, p.length_encode]; omega), List.take_left' (p.length_encode a),
      List.drop_left' (p.length_encode a), p.decode_encode]
  eq_encode input a rest h := by
    split at h
    · rename_i hSize
      cases h
      refine ⟨trivial, ?_⟩
      rw [p.encode_decode _ (by rw [List.length_take]; omega), List.take_append_drop]
    · cases h

def bool : Codec Bool where
  valid _ := True
  encode b := [if b then 1 else 0]
  decode
    | [] => none
    | head :: rest => if head = 0 then some (false, rest) else if head = 1 then some (true, rest) else none
  decode_encode b rest _ := by cases b <;> rfl
  eq_encode input b rest h := by
    cases input with
    | nil => cases h
    | cons head tail =>
      dsimp only at h
      split at h
      · rename_i hZero
        cases h
        exact ⟨trivial, by simp [hZero]⟩
      · split at h
        · rename_i hOne
          cases h
          exact ⟨trivial, by simp [hOne]⟩
        · cases h

def prod (p : Codec α) (q : Codec β) : Codec (α × β) where
  valid ab := p.valid ab.1 ∧ q.valid ab.2
  encode ab := p.encode ab.1 ++ q.encode ab.2
  decode input := (p.decode input).bind fun x => (q.decode x.2).map fun y => ((x.1, y.1), y.2)
  decode_encode ab rest h := by
    rw [List.append_assoc, p.decode_encode _ _ h.1, Option.bind_some, q.decode_encode _ _ h.2]
    rfl
  eq_encode input ab rest h := by
    obtain ⟨⟨a, mid⟩, hLeft, h⟩ := Option.bind_eq_some_iff.mp h
    obtain ⟨⟨b, rest'⟩, hRight, h⟩ := Option.map_eq_some_iff.mp h
    cases h
    obtain ⟨hValid, rfl⟩ := p.eq_encode _ _ _ hLeft
    obtain ⟨hValid', rfl⟩ := q.eq_encode _ _ _ hRight
    exact ⟨⟨hValid, hValid'⟩, by simp⟩

def via (p : Codec α) (e : α ≃ β) : Codec β where
  valid b := p.valid (e.symm b)
  encode b := p.encode (e.symm b)
  decode input := (p.decode input).map fun x => (e x.1, x.2)
  decode_encode b rest h := by
    rw [p.decode_encode _ _ h]
    simp
  eq_encode input b rest h := by
    obtain ⟨⟨a, rest'⟩, hDecode, h⟩ := Option.map_eq_some_iff.mp h
    cases h
    simpa using p.eq_encode _ _ _ hDecode

/-! ## Vectors -/

def decodeMany (p : Codec α) : Nat → List UInt8 → Option (List α × List UInt8)
  | 0, input => some ([], input)
  | count + 1, input =>
    (p.decode input).bind fun x => (decodeMany p count x.2).map fun y => (x.1 :: y.1, y.2)

theorem decodeMany_flatMap (p : Codec α) (values : List α) (rest : List UInt8)
    (h : ∀ a ∈ values, p.valid a) :
    p.decodeMany values.length (values.flatMap p.encode ++ rest) = some (values, rest) := by
  induction values with
  | nil => rfl
  | cons a values ih =>
    rw [List.length_cons, decodeMany, List.flatMap_cons, List.append_assoc,
      p.decode_encode _ _ (h a List.mem_cons_self), Option.bind_some,
      ih fun b hb => h b (List.mem_cons_of_mem _ hb)]
    rfl

theorem eq_flatMap_of_decodeMany (p : Codec α) (count : Nat) (input : List UInt8) (values : List α)
    (rest : List UInt8) (h : p.decodeMany count input = some (values, rest)) :
    values.length = count ∧ (∀ a ∈ values, p.valid a) ∧ input = values.flatMap p.encode ++ rest := by
  induction count generalizing input values with
  | zero =>
    cases h
    simp
  | succ count ih =>
    obtain ⟨⟨a, mid⟩, hHead, h⟩ := Option.bind_eq_some_iff.mp h
    obtain ⟨⟨tail, rest'⟩, hTail, h⟩ := Option.map_eq_some_iff.mp h
    cases h
    obtain ⟨hValid, rfl⟩ := p.eq_encode _ _ _ hHead
    obtain ⟨hLength, hAll, hMid⟩ := ih mid tail hTail
    dsimp only at hMid
    refine ⟨by simp [hLength], ?_, by simp [hMid]⟩
    intro b hb
    obtain rfl | hb := List.mem_cons.mp hb
    · exact hValid
    · exact hAll b hb

def vec (p : Codec α) : Codec (List α) where
  valid values := values.length < 2 ^ 32 ∧ ∀ a ∈ values, p.valid a
  encode values := toLe 4 values.length ++ values.flatMap p.encode
  decode input :=
    if 4 ≤ input.length then p.decodeMany (ofLe (input.take 4)) (input.drop 4) else none
  decode_encode values rest h := by
    have hLength : (toLe 4 values.length).length = 4 := length_toLe _ _
    have hSmall : values.length % 256 ^ 4 = values.length := Nat.mod_eq_of_lt (by simpa using h.1)
    rw [List.append_assoc, if_pos (by rw [List.length_append]; omega), List.take_left' hLength,
      List.drop_left' hLength, ofLe_toLe, hSmall, p.decodeMany_flatMap values rest h.2]
  eq_encode input values rest h := by
    split at h
    · rename_i hSize
      obtain ⟨hLength, hAll, hRest⟩ := p.eq_flatMap_of_decodeMany _ _ _ _ h
      have hTake : (input.take 4).length = 4 := by rw [List.length_take]; omega
      have hLt : ofLe (input.take 4) < 256 ^ 4 := by
        have hBound := ofLe_lt (input.take 4)
        rwa [hTake] at hBound
      have hWord := toLe_ofLe (input.take 4)
      rw [hTake] at hWord
      refine ⟨⟨by omega, hAll⟩, ?_⟩
      rw [hLength, hWord, List.append_assoc, ← hRest, List.take_append_drop]
    · cases h

/-- Decoding that must use up the input. -/
def decodeAll (p : Codec α) (input : List UInt8) : Option α :=
  match p.decode input with
  | some (a, []) => some a
  | _ => none

theorem decodeAll_eq_some_iff (p : Codec α) (input : List UInt8) (a : α) :
    p.decodeAll input = some a ↔ p.valid a ∧ input = p.encode a := by
  constructor
  · intro h
    unfold decodeAll at h
    split at h
    · rename_i b hDecode
      cases h
      simpa using p.eq_encode _ _ _ hDecode
    · cases h
  · rintro ⟨hValid, rfl⟩
    have hDecode := p.decode_encode a [] hValid
    rw [List.append_nil] at hDecode
    rw [decodeAll, hDecode]

end Codec

end Borsh
