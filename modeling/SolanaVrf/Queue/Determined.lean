import SolanaVrf.Queue.OneByOne

/-! # What the operations depend on

A freed record keeps its bytes, and past the cursor whatever was written there stays. No
operation reads any of it: what a call returns, what its closures are given and the records
it leaves are fixed by the length of the body, its cursor and its records. A drained body
therefore behaves as one that was never used.
-/

namespace SolanaVrf
set_option autoImplicit false

open Pod Slices Tiling QueueAccount

/-- What the operations see of a body. -/
structure Shows (q : QueueAccount) (n : Nat) (c : UInt32) (recs : List Record) : Prop
    extends Represents q recs where
  length_eq : q.acc.length = n
  cursor_eq : q.header.cursor = c

variable {q : QueueAccount} {recs : List Record}

/-! ## The cursor under removals -/

def lowered (c : UInt32) (e : Nat) : UInt32 := if UInt32.ofNat e < c then UInt32.ofNat e else c

theorem lowered_le (c : UInt32) (e : Nat) : (lowered c e).toNat ≤ c.toNat := by
  unfold lowered
  split
  · rename_i hBelow
    exact Nat.le_of_lt (UInt32.lt_iff_toNat_lt.mp hBelow)
  · exact Nat.le_refl _

theorem trimTo_cursor (q : QueueAccount) (e : Nat) :
    (q.trimTo e).header.cursor = lowered q.header.cursor e := by
  unfold trimTo lowered
  split
  · rw [setCursor, header_withHeader]
  · rfl

theorem foldl_unmark_cursor (ms : List (Nat × Record)) (q : QueueAccount) (hPos : ∀ m ∈ ms, 12 ≤ m.1) :
    (ms.foldl unmark q).header.cursor = q.header.cursor := by
  induction ms generalizing q with
  | nil => rfl
  | cons m ms ih =>
    rw [List.foldl_cons, ih _ fun m' hMem => hPos m' (List.mem_cons_of_mem m hMem),
      unmark_header (hPos m List.mem_cons_self)]

/-! ## Each operation -/

section

variable {τ : Type}

theorem insert_determined (base : QueueItem) {disc : List UInt8} (metas : List CompactAccountMeta)
    (args : List UInt8) (idFromPos : τ → UInt32 → Bytes 32 × τ) (s : τ) (hDisc : disc.length < 2 ^ 16)
    (n : Nat) (c : UInt32) (recs : List Record) :
    ∃ result s' c' recs', (c.toNat ≤ n → c'.toNat ≤ n) ∧ ∀ q, Shows q n c recs →
      ∃ q', q.addItemWithId base disc metas args idFromPos s = some (result, q', s') ∧ Shows q' n c' recs' := by
  by_cases hLarge : metas.length > MAX_CALLBACK_ACCOUNTS ∨ args.length > 512
  · exact ⟨_, s, c, recs, id, fun q h => ⟨q, addItemWithId_tooLarge hLarge, h⟩⟩
  obtain ⟨xs, hole, ys, rfl, hHole, hFirst⟩ | hNone := first_hole_cases (alignUp (itemSize disc metas args)) recs
  · refine ⟨.ok (xs.countP Record.live), (idFromPos s (UInt32.ofNat (slots.endAfter itemsStart xs))).2, c,
      xs ++ insertedAt (slots.endAfter itemsStart xs) base disc metas args idFromPos s :: ys, id, fun q h => ?_⟩
    obtain ⟨q', hEq, hRep, hFramed, hCursor⟩ :=
      addItemWithId_reuse base idFromPos s h.toRepresents hDisc hLarge hFirst hHole
    exact ⟨q', hEq, hRep, hFramed.length.trans h.length_eq, hCursor.trans h.cursor_eq⟩
  rcases Nat.lt_or_ge n (slots.endAfter itemsStart recs + itemSize disc metas args) with hFull | hRoom
  · refine ⟨_, s, c, recs, id, fun q h => ⟨q, addItemWithId_full h.toRepresents hLarge hNone ?_, h⟩⟩
    rw [h.length_eq]
    exact hFull
  · refine ⟨.ok (recs.countP Record.live), (idFromPos s (UInt32.ofNat (slots.endAfter itemsStart recs))).2,
      UInt32.ofNat (slots.endAfter itemsStart recs + itemSize disc metas args),
      recs ++ [insertedAt (slots.endAfter itemsStart recs) base disc metas args idFromPos s], ?_, fun q h => ?_⟩
    · intro _
      rw [UInt32.toNat_ofNat']
      exact Nat.le_trans (Nat.mod_le _ _) hRoom
    · obtain ⟨q', hEq, hRep, hFramed, hCursor⟩ := addItemWithId_append base idFromPos s h.toRepresents hDisc hLarge
        hNone (by rw [h.length_eq]; exact hRoom)
      exact ⟨q', hEq, hRep, hFramed.length.trans h.length_eq, hCursor⟩

/-- The payload of a removed item stays readable, and it is the removed record's. -/
theorem remove_determined (i n : Nat) (c : UInt32) (recs : List Record) :
    ∃ result c' recs' payload, (c.toNat ≤ n → c'.toNat ≤ n) ∧ ∀ q, Shows q n c recs →
      ∃ q', q.removeItem i = some (result, q') ∧ Shows q' n c' recs' ∧
        ∀ item, result = .ok item → item.callbackDiscriminator q'.acc = some (Record.discriminator payload) ∧
          item.accountMetas q'.acc = some payload.metas ∧ item.callbackArgs q'.acc = some payload.args := by
  rcases Nat.lt_or_ge i (recs.countP Record.live) with hLt | hLe
  · obtain ⟨xs, r, ys, rfl, hLive, rfl⟩ := exists_live_split hLt
    refine ⟨.ok r.free.item, lowered c (slots.endAfter itemsStart (trim (xs ++ r.free :: ys))),
      trim (xs ++ r.free :: ys), r, Nat.le_trans (lowered_le _ _), fun q h => ?_⟩
    obtain ⟨hRep, hFramed, hTiled⟩ := h.after_remove hLive
    refine ⟨_, h.removeItem_at hLive, ⟨hRep, hFramed.length.trans h.length_eq, ?_⟩, ?_⟩
    · have hPos : 12 ≤ slots.endAfter itemsStart xs := Nat.le_trans (by decide) (slots.le_endAfter itemsStart xs)
      rw [trimTo_cursor, unmark_header hPos, h.cursor_eq]
    · rintro item hItem
      cases hItem
      exact payload_eq hTiled
  · refine ⟨_, c, recs, ⟨QueueItem.layout.decode [], [], [], []⟩, id, fun q h => ⟨q, h.removeItem_absent hLe, h, ?_⟩⟩
    rintro item hItem
    cases hItem

theorem removeMatching_determined (pred : τ → QueueItem → Bool × τ) (onRemoved : τ → QueueItem → τ) (s : τ)
    (n : Nat) (c : UInt32) (recs : List Record) :
    ∃ s' c' recs', (c.toNat ≤ n → c'.toNat ≤ n) ∧ ∀ q, Shows q n c recs →
      ∃ q', q.removeItemsMatching pred onRemoved s = some (q', s') ∧ Shows q' n c' recs' := by
  refine ⟨(sweep pred onRemoved s recs).2,
    lowered c (slots.endAfter itemsStart (trim (sweep pred onRemoved s recs).1)),
    trim (sweep pred onRemoved s recs).1, Nat.le_trans (lowered_le _ _), fun q h => ?_⟩
  obtain ⟨q', hEq, hRep, hFramed, -, hBody⟩ := h.removeItemsMatching_eq pred onRemoved s
  refine ⟨q', hEq, hRep, hFramed.length.trans h.length_eq, ?_⟩
  rw [hBody, trimTo_cursor, foldl_unmark_cursor _ _ fun m hMem => Nat.le_trans (by decide) (freed_pos _ _ hMem),
    h.cursor_eq]

end

/-! ## Observations -/

/-- A call together with what its closures have captured when it returns. -/
def Call.perform (q : QueueAccount) : Call → Option (Outcome × (Σ τ : Type, τ) × QueueAccount)
  | addItem base discriminator metas args =>
    (q.addItem base discriminator metas args).map fun x => (ofIndex x.1, ⟨Unit, ()⟩, x.2)
  | @addItemWithId τ base discriminator metas args idFromPos s =>
    (q.addItemWithId base discriminator metas args idFromPos s).map fun x => (ofIndex x.1, ⟨τ, x.2.2⟩, x.2.1)
  | removeItem index => (q.removeItem index).map fun x => (ofItem x.1, ⟨Unit, ()⟩, x.2)
  | @removeItemsMatching τ pred onRemoved s =>
    (q.removeItemsMatching pred onRemoved s).map fun x => (.done, ⟨τ, x.2⟩, x.1)

theorem Call.apply_eq_perform (q : QueueAccount) (call : Call) :
    call.apply q = (call.perform q).map fun x => (x.1, x.2.2) := by
  cases call with
  | addItem base disc metas args => rw [apply, perform, Option.map_map]; rfl
  | addItemWithId base disc metas args idFromPos s => rw [apply, perform, Option.map_map]; rfl
  | removeItem i => rw [apply, perform, Option.map_map]; rfl
  | removeItemsMatching pred onRemoved s => rw [apply, perform, Option.map_map]; rfl

def Outcome.item? : Outcome → Option QueueItem
  | removed item => some item
  | _ => none

def payloadReads (acc : List UInt8) (item : QueueItem) :
    Option (List UInt8) × Option (List CompactAccountMeta) × Option (List UInt8) :=
  (item.callbackDiscriminator acc, item.accountMetas acc, item.callbackArgs acc)

/-- Everything a caller can learn from one call: what it returned, what its closures were given, and
then the header, the listed items and the payloads of these and of the item the call returned. -/
structure Observation : Type 1 where
  outcome : Outcome
  captured : Σ τ : Type, τ
  itemCount : UInt32
  cursor : UInt32
  items : List QueueItem
  payloads : List (Option (List UInt8) × Option (List CompactAccountMeta) × Option (List UInt8))

def Call.observe (q : QueueAccount) (call : Call) : Option (Observation × QueueAccount) :=
  (call.perform q).bind fun (outcome, captured, q) =>
    q.iterItems.map fun items => (⟨outcome, captured, q.header.itemCount, q.header.cursor, items,
      (outcome.item?.toList ++ items).map (payloadReads q.acc)⟩, q)

def Call.observeAll (q : QueueAccount) : List Call → Option (List Observation × QueueAccount)
  | [] => some ([], q)
  | call :: calls => do
    let (observation, q) ← call.observe q
    let (observations, q) ← observeAll q calls
    return (observation :: observations, q)

theorem Call.perform_determined (call : Call) (hDisc : call.discriminatorLength < 2 ^ 16) (n : Nat) (c : UInt32)
    (recs : List Record) :
    ∃ outcome captured c' recs' payload, (c.toNat ≤ n → c'.toNat ≤ n) ∧ ∀ q, Shows q n c recs →
      ∃ q', call.perform q = some (outcome, captured, q') ∧ Shows q' n c' recs' ∧
        ∀ item, outcome.item? = some item → payloadReads q'.acc item = payload := by
  cases call with
  | addItem base disc metas args =>
    obtain ⟨result, s', c', recs', hCursor, hAll⟩ := insert_determined base metas args
      (fun (_ : Unit) _ => (base.id, ())) () hDisc n c recs
    refine ⟨ofIndex result, ⟨Unit, ()⟩, c', recs', (none, none, none), hCursor, fun q h => ?_⟩
    obtain ⟨q', hEq, hShows⟩ := hAll q h
    refine ⟨q', ?_, hShows, ?_⟩
    · rw [perform, QueueAccount.addItem, hEq]
      rfl
    · cases result <;> rintro item ⟨⟩
  | addItemWithId base disc metas args idFromPos s =>
    obtain ⟨result, s', c', recs', hCursor, hAll⟩ := insert_determined base metas args idFromPos s hDisc n c recs
    refine ⟨ofIndex result, ⟨_, s'⟩, c', recs', (none, none, none), hCursor, fun q h => ?_⟩
    obtain ⟨q', hEq, hShows⟩ := hAll q h
    refine ⟨q', ?_, hShows, ?_⟩
    · rw [perform, hEq]
      rfl
    · cases result <;> rintro item ⟨⟩
  | removeItem i =>
    obtain ⟨result, c', recs', payload, hCursor, hAll⟩ := remove_determined i n c recs
    refine ⟨ofItem result, ⟨Unit, ()⟩, c', recs',
      (some payload.discriminator, some payload.metas, some payload.args), hCursor, fun q h => ?_⟩
    obtain ⟨q', hEq, hShows, hPayload⟩ := hAll q h
    refine ⟨q', ?_, hShows, ?_⟩
    · rw [perform, hEq]
      rfl
    · intro item hItem
      cases result with
      | error e => cases hItem
      | ok item' =>
        cases hItem
        obtain ⟨hDisc, hMetas, hArgs⟩ := hPayload _ rfl
        rw [payloadReads, hDisc, hMetas, hArgs]
  | removeItemsMatching pred onRemoved s =>
    obtain ⟨s', c', recs', hCursor, hAll⟩ := removeMatching_determined pred onRemoved s n c recs
    refine ⟨.done, ⟨_, s'⟩, c', recs', (none, none, none), hCursor, fun q h => ?_⟩
    obtain ⟨q', hEq, hShows⟩ := hAll q h
    refine ⟨q', ?_, hShows, fun item hItem => by cases hItem⟩
    rw [perform, hEq]
    rfl

theorem Represents.payloadReads_eq (h : Represents q recs) :
    ((recs.filter Record.live).map Record.item).map (payloadReads q.acc) =
      (recs.filter Record.live).map fun r => (some r.discriminator, some r.metas, some r.args) := by
  rw [List.map_map]
  apply List.map_congr_left
  intro r hr
  obtain ⟨xs, ys, rfl⟩ := List.append_of_mem (List.mem_of_mem_filter hr)
  obtain ⟨hDisc, hMetas, hArgs⟩ := payload_eq h.tiled
  change payloadReads q.acc r.item = _
  rw [payloadReads, hDisc, hMetas, hArgs]

theorem Call.observe_determined (call : Call) (hDisc : call.discriminatorLength < 2 ^ 16) (n : Nat) (c : UInt32)
    (recs : List Record) :
    ∃ observation c' recs', ∀ q, Shows q n c recs →
      ∃ q', call.observe q = some (observation, q') ∧ Shows q' n c' recs' := by
  obtain ⟨outcome, captured, c', recs', payload, -, hAll⟩ := call.perform_determined hDisc n c recs
  refine ⟨⟨outcome, captured, UInt32.ofNat (recs'.countP Record.live), c',
    (recs'.filter Record.live).map Record.item, outcome.item?.toList.map (fun _ => payload) ++
      (recs'.filter Record.live).map fun r => (some r.discriminator, some r.metas, some r.args)⟩,
    c', recs', fun q h => ?_⟩
  obtain ⟨q', hEq, hShows, hPayload⟩ := hAll q h
  have hCount : q'.header.itemCount = UInt32.ofNat (recs'.countP Record.live) := by
    rw [← hShows.count, UInt32.ofNat_toNat]
  have hReturned : outcome.item?.toList.map (payloadReads q'.acc) = outcome.item?.toList.map fun _ => payload := by
    cases hItem : outcome.item? with
    | none => rfl
    | some item => exact congrArg (· :: []) (hPayload item hItem)
  refine ⟨q', ?_, hShows⟩
  rw [observe, hEq, Option.bind_some]
  dsimp only
  rw [hShows.iterItems_eq]
  simp only [Option.map_some, List.map_append, hReturned, hShows.payloadReads_eq, hCount, hShows.cursor_eq]

theorem Call.observeAll_determined (calls : List Call) (hDisc : ∀ call ∈ calls, call.discriminatorLength < 2 ^ 16)
    (n : Nat) (c : UInt32) (recs : List Record) :
    ∃ observations, ∀ q, Shows q n c recs → ∃ q', observeAll q calls = some (observations, q') := by
  induction calls generalizing c recs with
  | nil => exact ⟨[], fun q _ => ⟨q, rfl⟩⟩
  | cons call calls ih =>
    obtain ⟨observation, c₁, recs₁, hFirst⟩ := call.observe_determined (hDisc call List.mem_cons_self) n c recs
    obtain ⟨observations, hRest⟩ := ih (fun call hCall => hDisc call (List.mem_cons_of_mem _ hCall)) c₁ recs₁
    refine ⟨observation :: observations, fun q h => ?_⟩
    obtain ⟨q₁, hEq, hShows⟩ := hFirst q h
    obtain ⟨q', hEq'⟩ := hRest q₁ hShows
    refine ⟨q', ?_⟩
    simp only [observeAll, hEq, Option.bind_eq_bind, Option.bind_some, hEq', Option.pure_def]

/-! ## Drained bodies -/

theorem Represents.nil_of_drained (h : Represents q recs) (hDrained : q.iterItems = some []) : recs = [] := by
  rw [h.iterItems_eq] at hDrained
  have hNone := List.filter_eq_nil_iff.mp (List.map_eq_nil_iff.mp (Option.some.inj hDrained))
  rw [← h.trimmed, trim, List.rdropWhile_eq_nil_iff]
  intro r hr
  simpa using hNone r hr

theorem Represents.cursor_of_nil (h : Represents q []) : q.header.cursor = UInt32.ofNat itemsStart := by
  apply UInt32.toNat_inj.mp
  exact h.cursor.elim id id

/-- A reachable body without items and a zeroed account of its length answer every sequence of
calls alike, down to the offsets their closures are given and the bytes of every payload. -/
theorem drained_queue_as_good_as_new (h : Reachable q) (hDrained : q.iterItems = some []) :
    ∃ q₀, load (AccountDiscriminator.queue.toBytes ++ List.replicate q.acc.length 0) = .ok q₀ ∧
      ∀ calls : List Call, (∀ call ∈ calls, call.discriminatorLength < 2 ^ 16) →
        ∃ observations q' q₀', Call.observeAll q calls = some (observations, q') ∧
          Call.observeAll q₀ calls = some (observations, q₀') := by
  obtain ⟨recs, hRep⟩ := h.represents
  obtain rfl := hRep.nil_of_drained hDrained
  obtain ⟨q₀, hLoad, hFresh, hLength, -⟩ := load_zeroed q.header_le hRep.small
  refine ⟨q₀, hLoad, fun calls hDisc => ?_⟩
  obtain ⟨observations, hAll⟩ :=
    Call.observeAll_determined calls hDisc q.acc.length (UInt32.ofNat itemsStart) []
  obtain ⟨q', hEq⟩ := hAll q ⟨hRep, rfl, hRep.cursor_of_nil⟩
  obtain ⟨q₀', hEq₀⟩ := hAll q₀ ⟨hFresh, hLength, hFresh.cursor_of_nil⟩
  exact ⟨observations, q', q₀', hEq, hEq₀⟩

/-- The requests of `mixedQueue` are removed, one by its index and the others in one pass. -/
def drainedQueue : Option QueueAccount := mixedQueue.bind fun q =>
  (Call.run q [.removeItem 1, .removeItemsMatching (fun (s : Unit) _ => (true, s)) (fun s _ => s) ()]).map Prod.snd

theorem drainedQueue_reachable {q : QueueAccount} (h : drainedQueue = some q) : Reachable q := by
  obtain ⟨q₁, hMixed, hLast⟩ := Option.bind_eq_some_iff.mp h
  obtain ⟨⟨outcomes, q'⟩, hRun, rfl⟩ := Option.map_eq_some_iff.mp hLast
  refine (mixedQueue_reachable hMixed).run ?_ hRun
  simp [Call.discriminatorLength, Call.insertion?]

theorem drained_queue_as_good_as_new_mixed :
    ∃ q q₀, drainedQueue = some q ∧ (q.acc.drop 16).any (fun b => b != 0) = true ∧
      load (AccountDiscriminator.queue.toBytes ++ List.replicate q.acc.length 0) = .ok q₀ ∧
      ∃ observations q' q₀', Call.observeAll q mixedCalls = some (observations, q') ∧
        Call.observeAll q₀ mixedCalls = some (observations, q₀') := by
  have hFound : drainedQueue.any (fun q => decide (q.iterItems = some []) &&
      (q.acc.drop 16).any fun b => b != 0) = true := by decide +kernel
  cases hQueue : drainedQueue with
  | none =>
    rw [hQueue] at hFound
    cases hFound
  | some q =>
    rw [hQueue, Option.any_some, Bool.and_eq_true] at hFound
    obtain ⟨q₀, hLoad, hAll⟩ :=
      drained_queue_as_good_as_new (drainedQueue_reachable hQueue) (of_decide_eq_true hFound.1)
    refine ⟨q, q₀, rfl, hFound.2, hLoad, hAll mixedCalls ?_⟩
    simp [mixedCalls, Call.discriminatorLength, Call.insertion?]

end SolanaVrf
