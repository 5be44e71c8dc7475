import SolanaVrf.Chain.Accounts
import SolanaVrf.Queue.Refinement
import Mathlib.Algebra.Order.BigOperators.Group.List

/-! # Queue accounts on the ledger

A queue account holds a represented body after its discriminator. The three request
instructions act on it through one open, one queue operation and one store; the lemmas
here say what each leaves in terms of the records.
-/

namespace SolanaVrf
set_option autoImplicit false

open Pod Slices Tiling Fallible QueueAccount

def IsQueue (a : Account) : Prop := a.owner = ID ∧ a.data.take 8 = AccountDiscriminator.queue.toBytes

instance (a : Account) : Decidable (IsQueue a) := inferInstanceAs (Decidable (_ ∧ _))

structure Hosts (a : Account) (q : QueueAccount) (recs : List Record) : Prop where
  owner : a.owner = ID
  data : a.data = AccountDiscriminator.queue.toBytes ++ q.acc
  represents : Represents q recs

variable {rt : Runtime} {l l' : Ledger} {k : Pubkey} {q : QueueAccount} {recs : List Record}

namespace Hosts

theorem isQueue {a : Account} (h : Hosts a q recs) : IsQueue a :=
  ⟨h.owner, by rw [h.data, List.take_left' (AccountDiscriminator.length_toBytes _)]⟩

theorem openQueue_eq (h : Hosts (l k) q recs) : openQueue l k = .ok q := by
  rw [openQueue, h.data, h.represents.load_eq]
  rfl

theorem tryFromBytes_eq {a : Account} (h : Hosts a q recs) : Queue.tryFromBytes a.data = .ok q.header := by
  have hLength : AccountDiscriminator.queue.toBytes.length = 8 := AccountDiscriminator.length_toBytes _
  have hSize := q.header_le
  have hLong : ¬(AccountDiscriminator.queue.toBytes ++ q.acc).length < 8 + Queue.layout.size := by
    rw [List.length_append]
    omega
  rw [h.data, Queue.tryFromBytes, if_neg hLong, List.take_left' hLength,
    if_neg (not_not.mpr rfl), slice, List.drop_left' hLength]
  rfl

theorem queueHeader_eq (h : Hosts (l k) q recs) : queueHeader l k = .ok q.header := by
  rw [queueHeader, h.tryFromBytes_eq]
  rfl

theorem storeQueue_eq (h : Hosts (l k) q recs) (q' : QueueAccount) :
    storeQueue l k q' = l.setData k (AccountDiscriminator.queue.toBytes ++ q'.acc) := by
  rw [storeQueue, h.data, List.take_left' (AccountDiscriminator.length_toBytes _)]

theorem store (h : Hosts (l k) q recs) {q' : QueueAccount} {recs' : List Record} (hRep : Represents q' recs') :
    Hosts (storeQueue l k q' k) q' recs' := by
  rw [h.storeQueue_eq, Ledger.setData_self]
  exact ⟨h.owner, rfl, hRep⟩

end Hosts

theorem storeQueue_of_ne {k' : Pubkey} (q : QueueAccount) (h : k' ≠ k) : storeQueue l k q k' = l k' :=
  Ledger.setData_of_ne _ h

theorem storeQueue_lamports (q : QueueAccount) : (storeQueue l k q k).lamports = (l k).lamports := by
  rw [storeQueue, Ledger.setData_self]

/-! ## Pending requests -/

/-- The account is a queue and these are its pending requests, in logical order. -/
def Pending (a : Account) (L : List Record) : Prop :=
  ∃ q recs, Hosts a q recs ∧ recs.filter Record.live = L

/-- What the program itself reads of them: the count, the items and their payloads. -/
def Lists (a : Account) (L : List Record) : Prop :=
  a.owner = ID ∧ ∃ q, load a.data = .ok q ∧ q.header.itemCount.toNat = L.length ∧
    q.iterItems = some (L.map Record.item) ∧
    ∀ r ∈ L, r.item.callbackDiscriminator q.acc = some r.discriminator ∧
      r.item.accountMetas q.acc = some r.metas ∧ r.item.callbackArgs q.acc = some r.args

namespace Pending

variable {a a' : Account} {L : List Record}

theorem isQueue (h : Pending a L) : IsQueue a := by
  obtain ⟨q, recs, hHosts, -⟩ := h
  exact hHosts.isQueue

theorem congr (h : Pending a L) (hOwner : a'.owner = a.owner) (hData : a'.data = a.data) : Pending a' L := by
  obtain ⟨q, recs, hHosts, hLive⟩ := h
  exact ⟨q, recs, ⟨hOwner.trans hHosts.owner, hData.trans hHosts.data, hHosts.represents⟩, hLive⟩

theorem lists (h : Pending a L) : Lists a L := by
  obtain ⟨q, recs, hHosts, rfl⟩ := h
  have hRep := hHosts.represents
  refine ⟨hHosts.owner, q, ?_, ?_, hRep.iterItems_eq, ?_⟩
  · rw [hHosts.data]
    exact hRep.load_eq
  · rw [hRep.count, length_filter_live]
  · intro r hr
    obtain ⟨xs, ys, rfl⟩ := List.append_of_mem (List.mem_of_mem_filter hr)
    exact payload_eq hRep.tiled

end Pending

theorem offset_ge {acc : List UInt8} {pos : Nat} {recs : List Record} (h : slots.Tiled acc pos recs) :
    ∀ r ∈ recs, pos + 96 ≤ r.item.callbackDiscriminatorOffset.toNat := by
  intro r hr
  obtain ⟨xs, ys, rfl⟩ := List.append_of_mem hr
  have hPlaced : r.Placed _ := h.at.1
  rw [hPlaced.discOffset]
  exact Nat.add_le_add_right (slots.le_endAfter pos xs) 96

theorem offsets_distinct {acc : List UInt8} {pos : Nat} {recs : List Record} (h : slots.Tiled acc pos recs) :
    (recs.map fun r => r.item.callbackDiscriminatorOffset).Nodup := by
  induction recs generalizing pos with
  | nil => exact List.nodup_nil
  | cons r recs ih =>
    obtain ⟨hPlaced, hImage, hRest⟩ := h
    refine List.nodup_cons.mpr ⟨fun hMem => ?_, ih hRest⟩
    obtain ⟨r', hr', hSame⟩ := List.mem_map.mp hMem
    have hGe := offset_ge hRest r' hr'
    dsimp only at hSame
    have hHead : r.item.callbackDiscriminatorOffset.toNat = pos + 96 := hPlaced.discOffset
    have hSpan : 0 < slots.span r := Nat.lt_of_lt_of_le (slots.image_pos r) (slots.image_le r)
    rw [hSame] at hGe
    omega

theorem Pending.offsets_nodup {a : Account} {L : List Record} (h : Pending a L) :
    (L.map fun r => r.item.callbackDiscriminatorOffset).Nodup := by
  obtain ⟨q, recs, hHosts, rfl⟩ := h
  exact (offsets_distinct hHosts.represents.tiled).sublist (List.filter_sublist.map _)

/-! ## Requests -/

def Accepted.record (env : Environment) (a : Accepted) : Record :=
  .written a.position.toNat
    { baseItem a.args a.clock a.highPriority a.isScoped
        (if a.isScoped then (env.scopedIdentityPda a.args.callbackProgramId).2 else 0) with
      id := requestId env.toSyscalls a.args a.slothash a.clock a.position }
    a.args.callbackDiscriminator (a.args.callbackAccountsMetas.map CompactAccountMeta.ofSerializable)
    a.args.callbackArgs

theorem enqueue_effect (h : Hosts (l k) q recs) {clock : Clock} {args : RequestRandomness} {slothash : Bytes 32}
    {highPriority isScoped : Bool} {bump : UInt8} {position : UInt32}
    (hOk : enqueue rt clock args slothash highPriority isScoped bump k l = .ok (l', position)) :
    q.header.paused = 0 ∧ args.callbackDiscriminator.length ≤ 8 ∧ ∃ i q' recs',
      Inserts (.written position.toNat
        { baseItem args clock highPriority isScoped bump with
          id := requestId rt.toSyscalls args slothash clock position } args.callbackDiscriminator
        (args.callbackAccountsMetas.map CompactAccountMeta.ofSerializable) args.callbackArgs)
        recs recs' position.toNat i ∧
      Represents q' recs' ∧ Framed q q' ∧ l' = storeQueue l k q' := by
  obtain ⟨_, _, hOk⟩ := bind_eq_ok.mp hOk
  obtain ⟨_, hOpen, hOk⟩ := bind_eq_ok.mp hOk
  rw [h.openQueue_eq] at hOpen
  cases hOpen
  obtain ⟨hPaused, hOk⟩ := require_bind_eq_ok.mp hOk
  obtain ⟨hDisc, hOk⟩ := require_bind_eq_ok.mp hOk
  refine ⟨hPaused, hDisc, ?_⟩
  dsimp only at hOk
  have hRep := h.represents
  by_cases hLarge : (args.callbackAccountsMetas.map CompactAccountMeta.ofSerializable).length >
      MAX_CALLBACK_ACCOUNTS ∨ args.callbackArgs.length > 512
  · rw [addItemWithId_tooLarge hLarge] at hOk
    cases hOk
  · obtain ⟨pos, i, recs', q', hEq, hInserts, hRep', hFramed⟩ | ⟨hEq, -, -⟩ :=
      addItemWithId_eq (baseItem args clock highPriority isScoped bump)
        (fun (_ : UInt32) idx => (requestId rt.toSyscalls args slothash clock idx, idx)) 0 hRep
        (Nat.lt_of_le_of_lt hDisc (by decide)) hLarge
    · rw [hEq] at hOk
      cases hOk
      have hPos : (UInt32.ofNat pos).toNat = pos := toNat_ofNat32 (hInserts.pos_lt hRep)
      refine ⟨i, q', recs', ?_, hRep', hFramed, rfl⟩
      rw [hPos]
      exact hInserts
    · rw [hEq] at hOk
      cases hOk

/-! ## Fulfilments -/

theorem live_split_unique {xs xs' ys ys' : List Record} {r r' : Record} (h : xs ++ r :: ys = xs' ++ r' :: ys')
    (hLive : r.live = true) (hLive' : r'.live = true)
    (hIndex : xs.countP Record.live = xs'.countP Record.live) : xs = xs' ∧ r = r' ∧ ys = ys' := by
  induction xs generalizing xs' with
  | nil =>
    cases xs' with
    | nil => simpa using h
    | cons x xs' =>
      rw [List.nil_append, List.cons_append, List.cons.injEq] at h
      rw [← h.1, List.countP_cons_of_pos hLive] at hIndex
      cases hIndex
  | cons x xs ih =>
    cases xs' with
    | nil =>
      rw [List.nil_append, List.cons_append, List.cons.injEq] at h
      rw [h.1, List.countP_cons_of_pos hLive'] at hIndex
      cases hIndex
    | cons x' xs' =>
      rw [List.cons_append, List.cons_append, List.cons.injEq] at h
      obtain ⟨rfl, hRest⟩ := h
      rw [List.countP_cons, List.countP_cons] at hIndex
      obtain ⟨rfl, hSame⟩ := ih hRest (Nat.add_right_cancel hIndex)
      exact ⟨rfl, hSame⟩

/-- A request that passed every check of a fulfilment, and the body its removal leaves. -/
structure Taken (rt : Runtime) (clock : Clock) (oracle : Pubkey) (vrfPubkey : Bytes 32)
    (args : ProvideRandomness) (r : Record) : Prop where
  id : r.item.id = args.input
  unnamed : ∀ m ∈ r.metas, m.pubkey ≠ oracle
  later : r.item.slot < clock.slot
  verified : Verify.verifyVrf rt.toSyscalls vrfPubkey args.input args.output
    (args.commitmentBaseCompressed, args.commitmentHashCompressed, args.scalar) = true

theorem takeRequest_effect (h : Represents q recs) {clock : Clock} {oracle : Pubkey} {vrfPubkey : Bytes 32}
    {args : ProvideRandomness} {index : Nat} {item : QueueItem} {payload : Payload} {q' : QueueAccount}
    (hOk : takeRequest rt clock oracle vrfPubkey args q = .ok (index, item, payload, q')) :
    ∃ xs r ys, recs = xs ++ r :: ys ∧ r.live = true ∧ xs.countP Record.live = index ∧
      Taken rt clock oracle vrfPubkey args r ∧ item = r.free.item ∧
      payload = ⟨r.metas, r.discriminator, r.args⟩ ∧
      Represents q' (trim (xs ++ r.free :: ys)) ∧ Framed q q' ∧
      slots.Tiled q'.acc itemsStart (xs ++ r.free :: ys) := by
  obtain ⟨found, hFind, hOk⟩ := bind_eq_ok.mp hOk
  obtain ⟨⟨i, it⟩, hFound, hOk⟩ := bind_eq_ok.mp hOk
  obtain ⟨named, hNamed, hOk⟩ := bind_eq_ok.mp hOk
  obtain ⟨hUnnamed, hOk⟩ := require_bind_eq_ok.mp hOk
  obtain ⟨hLater, hOk⟩ := require_bind_eq_ok.mp hOk
  obtain ⟨hVerified, hOk⟩ := require_bind_eq_ok.mp hOk
  obtain ⟨⟨removed, q₁⟩, hRemove, hOk⟩ := bind_eq_ok.mp hOk
  obtain ⟨removedItem, hRemoved, hOk⟩ := bind_eq_ok.mp hOk
  obtain ⟨metas, hMetas, hOk⟩ := bind_eq_ok.mp hOk
  obtain ⟨disc, hDisc, hOk⟩ := bind_eq_ok.mp hOk
  obtain ⟨argsBytes, hArgs, hOk⟩ := bind_eq_ok.mp hOk
  cases hOk
  rw [okOr_eq_ok] at hFind hFound hNamed hRemove hMetas hDisc hArgs
  subst hFound
  obtain ⟨hNone, -⟩ | ⟨xs, r, ys, rfl, hLive, hId, hSome, -⟩ := h.findItemById_eq args.input
  · rw [hNone] at hFind
    cases hFind
  rw [hSome] at hFind
  cases hFind
  obtain ⟨hLe, -⟩ | ⟨xs', r', ys', q'', hSplit, hLive', hIndex, hEq, hRep, hFramed, hTiled, -⟩ :=
    h.removeItem_eq (xs.countP Record.live)
  · rw [List.countP_append, List.countP_cons_of_pos hLive] at hLe
    omega
  obtain ⟨rfl, rfl, rfl⟩ := live_split_unique hSplit hLive hLive' hIndex.symm
  rw [hEq] at hRemove
  cases hRemove
  cases hRemoved
  -- the payload is read back from the freed record, which is still tiled
  obtain ⟨hDisc', hMetas', hArgs'⟩ := payload_eq hTiled
  rw [hDisc'] at hDisc
  rw [hMetas'] at hMetas
  rw [hArgs'] at hArgs
  cases hDisc
  cases hMetas
  cases hArgs
  rw [(payload_eq h.tiled).2.1] at hNamed
  cases hNamed
  refine ⟨xs, r, ys, rfl, hLive, rfl, ⟨hId, ?_, hLater, hVerified⟩, rfl, rfl, hRep, hFramed, hTiled⟩
  simpa using hUnnamed

/-! ## Purges -/

/-- A predicate without state filters, and the removed items are folded in order. -/
theorem retain_pure {σ : Type} (drop : QueueItem → Bool) (onRemoved : σ → QueueItem → σ) (s : σ) (L : List Record) :
    retain (fun s item => (drop item, s)) onRemoved Record.item s L =
      (L.filter fun r => !drop r.item,
        ((L.filter fun r => drop r.item).map fun r => r.free.item).foldl onRemoved s) := by
  induction L generalizing s with
  | nil => rfl
  | cons r L ih =>
    rw [retain]
    cases hDrop : drop r.item with
    | true =>
      rw [List.filter_cons_of_neg (by simp [hDrop]), List.filter_cons_of_pos (by simp [hDrop])]
      exact ih _
    | false =>
      rw [List.filter_cons_of_pos (by simp [hDrop]), List.filter_cons_of_neg (by simp [hDrop])]
      dsimp only
      rw [ih]

def Record.cost (r : Record) : Nat := r.item.cost

theorem Record.cost_le (r : Record) : r.cost ≤ 800000 := by
  unfold Record.cost QueueItem.cost SolanaVrf.cost
  split <;> decide

theorem foldl_saturatingAdd64 (L : List Record) (total : Nat) (h : total + (L.map Record.cost).sum < u64Limit) :
    (L.map fun r => r.free.item).foldl (fun total item => saturatingAdd64 total item.cost) total =
      total + (L.map Record.cost).sum := by
  induction L generalizing total with
  | nil => rfl
  | cons r L ih =>
    rw [List.map_cons, List.sum_cons] at h
    have hStep : saturatingAdd64 total r.free.item.cost = total + r.cost := by
      change min (total + r.cost) (u64Limit - 1) = total + r.cost
      omega
    rw [List.map_cons, List.foldl_cons, hStep, ih _ (by omega), List.map_cons, List.sum_cons]
    omega

theorem Stored.cost_lt (h : Stored q recs) : ((recs.filter Record.live).map Record.cost).sum < u64Limit := by
  have hSum : ((recs.filter Record.live).map Record.cost).sum ≤
      ((recs.filter Record.live).map Record.cost).length * 800000 := by
    refine List.sum_le_card_nsmul _ _ ?_
    simp only [List.mem_map]
    rintro c ⟨r, -, rfl⟩
    exact r.cost_le
  have hCount := q.header.itemCount.toNat_lt
  rw [h.count, ← length_filter_live] at hCount
  rw [List.length_map] at hSum
  unfold u64Limit
  omega

theorem sum_filter_le (p : Record → Bool) (L : List Record) :
    ((L.filter p).map Record.cost).sum ≤ (L.map Record.cost).sum :=
  List.Sublist.sum_le_sum (List.filter_sublist.map _) (by simp)

/-- A purge returns, drops exactly the expired requests and adds up what they cost. -/
theorem purgeQueue_eq (h : Represents q recs) (now : UInt16) :
    ∃ q' recs', purgeQueue now q =
        .ok (q', (((recs.filter Record.live).filter fun r => expired now r.item).map Record.cost).sum) ∧
      Represents q' recs' ∧
      recs'.filter Record.live = (recs.filter Record.live).filter (fun r => !expired now r.item) ∧
      Framed q q' := by
  obtain ⟨q', hEq, hRep, hFramed, -, -⟩ := h.removeItemsMatching_eq (fun total item => (expired now item, total))
    (fun total item => saturatingAdd64 total item.cost) 0
  have hSweep := sweep_live (fun total item => (expired now item, total))
    (fun total item => saturatingAdd64 total item.cost) 0 recs
  have hFits := Nat.lt_of_le_of_lt (sum_filter_le (fun r => expired now r.item) _) h.cost_lt
  rw [retain_pure, foldl_saturatingAdd64 _ 0 (by omega), Nat.zero_add, Prod.mk.injEq] at hSweep
  refine ⟨q', _, ?_, hRep, ?_, hFramed⟩
  · rw [purgeQueue, hEq, ← hSweep.2]
    rfl
  · rw [filter_live_trim, hSweep.1]

end SolanaVrf
