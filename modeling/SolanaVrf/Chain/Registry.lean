import SolanaVrf.Chain.World
import Mathlib.Data.Set.Card
import Mathlib.Data.Set.Function

/-! # Oracles and their open queues

For one oracle the chain refines an enrolment: the key it is registered with, if it is,
and the set of its queue indices in use. Registration starts with no queue in use, and
ends only when there is none; the counter in the oracle's account is the size of the set.
-/

namespace SolanaVrf
set_option autoImplicit false

open Pod Transition

variable {rt : Runtime} {clock : Clock} {l l' : Ledger} {k : Pubkey} {receipt : Receipt}

/-- A queue in use: its discriminator is written, and the program owns it or has delegated it. -/
def InUse (a : Account) : Prop :=
  (a.owner = ID ∨ a.owner = delegationProgramId) ∧ a.data.take 8 = AccountDiscriminator.queue.toBytes

def Settled (a : Account) : Prop :=
  Unborn a ∨ a.owner = ID ∨ a.owner = delegationProgramId ∧ a.data.take 8 = AccountDiscriminator.queue.toBytes

theorem InUse.head {a : Account} (h : InUse a) : a.data.headD 0 = 3 := headD_of_take h.2

theorem IsQueue.inUse {a : Account} (h : IsQueue a) : InUse a := ⟨Or.inl h.1, h.2⟩

theorem IsQueue.not_oracle {a : Account} (h : IsQueue a) (o : Oracle) : ¬IsOracle a o := fun hIs => hIs.not_queue h

theorem IsOracle.not_inUse {a : Account} {o : Oracle} (h : IsOracle a o) : ¬InUse a := by
  intro hUse
  have hTag := hUse.head
  rw [h.tag] at hTag
  cases hTag

theorem not_inUse_of_zero {a : Account} (h : ∀ b ∈ a.data, b = 0) : ¬InUse a := by
  intro hUse
  have hTag := hUse.head
  rw [headD_of_zero h] at hTag
  cases hTag

theorem Unborn.zeroed {a : Account} (h : Unborn a) : ∀ b ∈ a.data, b = 0 := by simp [h.2]

theorem Blank.zeroed {a : Account} (h : Blank a) : ∀ b ∈ a.data, b = 0 := by
  obtain ⟨-, hZero⟩ | hUnborn := h
  · exact hZero
  · exact hUnborn.zeroed

theorem not_inUse_of_registry {a : Account} (h : a.data.take 8 = AccountDiscriminator.oracles.toBytes) : ¬InUse a := by
  intro hUse
  have hTag := hUse.head
  rw [headD_of_take h] at hTag
  cases hTag

theorem not_oracle_of_zero {a : Account} (h : ∀ b ∈ a.data, b = 0) (o : Oracle) : ¬IsOracle a o :=
  fun hIs => hIs.not_zero h

theorem not_oracle_of_registry {a : Account} (h : a.data.take 8 = AccountDiscriminator.oracles.toBytes) (o : Oracle) :
    ¬IsOracle a o := by
  intro hIs
  have hTag := hIs.tag
  rw [headD_of_take h] at hTag
  cases hTag

theorem IsOracle.unique {a : Account} {o o' : Oracle} (h : IsOracle a o) (h' : IsOracle a o') : o = o' := by
  have hDecode := congrArg Oracle.layout.decode (h.data.symm.trans h'.data)
  rwa [Oracle.layout.decode_encode, Oracle.layout.decode_encode] at hDecode

/-! ## Foreign code -/

theorem ExternalAt.settled {env : Environment} {a a' : Account} (h : ExternalAt env k a a') (hReserved : env.Reserved k)
    (hSettled : Settled a) : Settled a' := by
  obtain ⟨hOwner, hEmpty⟩ | hOwner | ⟨hOwner, hTag⟩ := hSettled
  · obtain ⟨hOwner', hData⟩ := h.unborn hReserved hOwner
    exact Or.inl ⟨hOwner', hData.trans hEmpty⟩
  · exact Or.inr (Or.inl (h.owned hOwner).1)
  · obtain ⟨hOwner', hData⟩ := h.delegated hReserved hOwner
    exact Or.inr (Or.inr ⟨hOwner', hData.trans hTag⟩)

theorem ExternalAt.inUse_iff {env : Environment} {a a' : Account} (h : ExternalAt env k a a')
    (hReserved : env.Reserved k) (hSettled : Settled a) : InUse a' ↔ InUse a := by
  obtain hUnborn | hOwner | ⟨hOwner, hTag⟩ := hSettled
  · obtain ⟨-, hData⟩ := h.unborn hReserved hUnborn.1
    have hUnborn' : ¬InUse a' := not_inUse_of_zero (by rw [hData]; exact hUnborn.zeroed)
    exact iff_of_false hUnborn' (not_inUse_of_zero hUnborn.zeroed)
  · obtain ⟨hOwner', hData, -⟩ := h.owned hOwner
    unfold InUse
    rw [hData, hOwner', hOwner]
  · obtain ⟨hOwner', hData⟩ := h.delegated hReserved hOwner
    exact iff_of_true ⟨Or.inr hOwner', hData.trans hTag⟩ ⟨Or.inr hOwner, hTag⟩

/-! ## One account -/

def Receipt.identity? : Receipt → Option Pubkey
  | registered o _ => some o
  | unregistered o => some o
  | opened o _ => some o
  | closed o _ _ => some o
  | _ => none

inductive Change (rt : Runtime) (k : Pubkey) (a a' : Account) : Receipt → Prop
  | external {receipt : Receipt} (h : ExternalAt rt.toEnvironment k a a') : Change rt k a a' receipt
  | queue {receipt : Receipt} (hBefore : IsQueue a) (hAfter : IsQueue a') : Change rt k a a' receipt
  | registry {receipt : Receipt} (hBefore : a.data.take 8 = AccountDiscriminator.oracles.toBytes)
      (hAfter : a'.data.take 8 = AccountDiscriminator.oracles.toBytes) (hOwned : a.owner = ID → a'.owner = ID) :
      Change rt k a a' receipt
  | zeroed {receipt : Receipt} (hBefore : Blank a) (hOwner : a'.owner = ID) (hAfter : ∀ b ∈ a'.data, b = 0) :
      Change rt k a a' receipt
  | opened {o : Pubkey} {i : UInt8} (hk : k = (rt.oracleQueuePda o i).1) (hBefore : Blank a) (hAfter : IsQueue a') :
      Change rt k a a' (.opened o i)
  | closed {o queue : Pubkey} {i : UInt8} (hk : k = (rt.oracleQueuePda o i).1) (hBefore : IsQueue a)
      (hAfter : Unborn a') : Change rt k a a' (.closed o i queue)
  | delegated {receipt : Receipt} (hBefore : IsQueue a) (hOwner : a'.owner = delegationProgramId)
      (hData : a'.data = a.data) : Change rt k a a' receipt
  | registered {o : Pubkey} {key : Bytes 32} {slot : UInt64} (hk : k = (rt.oracleDataPda o).1) (hBefore : Unborn a)
      (hAfter : IsOracle a' ⟨key, slot, 0⟩) : Change rt k a a' (.registered o key)
  | unregistered {o : Pubkey} {orc : Oracle} (hk : k = (rt.oracleDataPda o).1) (hBefore : IsOracle a orc)
      (hDrained : orc.openQueues = 0) (hAfter : Unborn a') : Change rt k a a' (.unregistered o)
  | countedUp {o : Pubkey} {i : UInt8} {orc : Oracle} (hk : k = (rt.oracleDataPda o).1) (hBefore : IsOracle a orc)
      (hAfter : IsOracle a' { orc with openQueues := saturatingIncr orc.openQueues }) : Change rt k a a' (.opened o i)
  | countedDown {o queue : Pubkey} {i : UInt8} {orc : Oracle} (hk : k = (rt.oracleDataPda o).1)
      (hBefore : IsOracle a orc) (hAfter : IsOracle a' { orc with openQueues := saturatingDecr orc.openQueues }) :
      Change rt k a a' (.closed o i queue)

theorem Effect.change (h : Effect rt clock l receipt l') (k : Pubkey) : Change rt k (l k) (l' k) receipt := by
  cases h with
  | initialized h =>
    by_cases hk : k = rt.oraclesPda.1
    · subst hk
      exact .zeroed (Or.inr h.before) h.owner h.zeroed
    · exact .external (h.others k hk)
  | @registered _ args h =>
    by_cases hData : k = (rt.oracleDataPda args.identity).1
    · subst hData
      exact .registered rfl h.absent h.present
    · by_cases hk : k = rt.oraclesPda.1
      · subst hk
        exact .registry h.before h.after h.owned
      · exact .external (h.others k hk hData)
  | @unregistered _ args h =>
    by_cases hData : k = (rt.oracleDataPda args.identity).1
    · subst hData
      obtain ⟨orc, hIs, hDrained⟩ := h.drained
      exact .unregistered rfl hIs hDrained h.absent
    · by_cases hk : k = rt.oraclesPda.1
      · subst hk
        exact .registry h.before h.after h.owned
      · exact .external (h.others k hk hData)
  | @grown _ o i h =>
    by_cases hk : k = (rt.oracleQueuePda o i).1
    · subst hk
      exact .zeroed h.blank h.owner h.zeroed
    · exact .external (h.others k hk)
  | @opened _ o i h =>
    by_cases hk : k = (rt.oracleQueuePda o i).1
    · exact .opened hk (hk ▸ h.blank) (hk ▸ h.empty.isQueue)
    · by_cases hData : k = (rt.oracleDataPda o).1
      · subst hData
        obtain ⟨orc, hIs, hIs'⟩ := h.counted
        exact .countedUp rfl hIs hIs'
      · exact .external (h.others k hk hData)
  | @requested _ acc h =>
    by_cases hk : k = acc.queue
    · subst hk
      exact .queue h.isQueue h.isQueue'
    · exact .external (h.others k hk)
  | @provided _ p paid h =>
    by_cases hk : k = p.queue.key
    · subst hk
      exact .queue h.isQueue h.isQueue'
    · exact .external (h.others hk)
  | @purged _ queue oracle paid h =>
    by_cases hk : k = queue
    · subst hk
      exact .queue h.isQueue h.isQueue'
    · exact .external (h.others k hk)
  | @paused _ queue h =>
    by_cases hk : k = queue
    · subst hk
      exact .queue h.isQueue h.isQueue'
    · rw [h.others k hk]
      exact .external (.refl _)
  | @closed _ o i h =>
    by_cases hk : k = (rt.oracleQueuePda o i).1
    · exact .closed hk (hk ▸ h.isQueue) (hk ▸ h.unborn)
    · by_cases hData : k = (rt.oracleDataPda o).1
      · subst hData
        obtain ⟨orc, hIs, hIs'⟩ := h.counted
        exact .countedDown rfl hIs hIs'
      · exact .external (h.others k hk hData)
  | @delegated _ o i h =>
    by_cases hk : k = (rt.oracleQueuePda o i).1
    · subst hk
      exact .delegated h.isQueue h.delegates.owner h.delegates.data
    · exact .external (h.delegates.others k hk)

namespace Change

variable {a a' : Account}

theorem settled (h : Change rt k a a' receipt) (hReserved : rt.Reserved k) (hSettled : Settled a) : Settled a' := by
  cases h with
  | external h => exact h.settled hReserved hSettled
  | queue _ hAfter => exact Or.inr (Or.inl hAfter.1)
  | registry hBefore _ hOwned =>
    obtain ⟨-, hEmpty⟩ | hOwner | ⟨-, hTag⟩ := hSettled
    · rw [hEmpty] at hBefore
      cases hBefore
    · exact Or.inr (Or.inl (hOwned hOwner))
    · rw [hBefore] at hTag
      cases hTag
  | zeroed _ hOwner _ => exact Or.inr (Or.inl hOwner)
  | opened _ _ hAfter => exact Or.inr (Or.inl hAfter.1)
  | closed _ _ hAfter => exact Or.inl hAfter
  | delegated hBefore hOwner hData => exact Or.inr (Or.inr ⟨hOwner, by rw [hData, hBefore.2]⟩)
  | registered _ _ hAfter => exact Or.inr (Or.inl hAfter.owner)
  | unregistered _ _ _ hAfter => exact Or.inl hAfter
  | countedUp _ _ hAfter => exact Or.inr (Or.inl hAfter.owner)
  | countedDown _ _ hAfter => exact Or.inr (Or.inl hAfter.owner)

theorem inUse (h : Change rt k a a' receipt) (hReserved : rt.Reserved k) (hSettled : Settled a) :
    (InUse a' ↔ InUse a) ∨
    (∃ o i, receipt = .opened o i ∧ k = (rt.oracleQueuePda o i).1 ∧ ¬InUse a ∧ InUse a') ∨
    ∃ o i queue, receipt = .closed o i queue ∧ k = (rt.oracleQueuePda o i).1 ∧ InUse a ∧ ¬InUse a' := by
  cases h with
  | external h => exact Or.inl (h.inUse_iff hReserved hSettled)
  | queue hBefore hAfter => exact Or.inl (iff_of_true hAfter.inUse hBefore.inUse)
  | registry hBefore hAfter _ =>
    exact Or.inl (iff_of_false (not_inUse_of_registry hAfter) (not_inUse_of_registry hBefore))
  | zeroed hBefore _ hAfter =>
    exact Or.inl (iff_of_false (not_inUse_of_zero hAfter) (not_inUse_of_zero hBefore.zeroed))
  | opened hk hBefore hAfter =>
    exact Or.inr (Or.inl ⟨_, _, rfl, hk, not_inUse_of_zero hBefore.zeroed, hAfter.inUse⟩)
  | closed hk hBefore hAfter =>
    exact Or.inr (Or.inr ⟨_, _, _, rfl, hk, hBefore.inUse, not_inUse_of_zero hAfter.zeroed⟩)
  | delegated hBefore hOwner hData =>
    exact Or.inl (iff_of_true ⟨Or.inr hOwner, by rw [hData, hBefore.2]⟩ hBefore.inUse)
  | registered _ hBefore hAfter =>
    exact Or.inl (iff_of_false hAfter.not_inUse (not_inUse_of_zero hBefore.zeroed))
  | unregistered _ hBefore _ hAfter =>
    exact Or.inl (iff_of_false (not_inUse_of_zero hAfter.zeroed) hBefore.not_inUse)
  | countedUp _ hBefore hAfter => exact Or.inl (iff_of_false hAfter.not_inUse hBefore.not_inUse)
  | countedDown _ hBefore hAfter => exact Or.inl (iff_of_false hAfter.not_inUse hBefore.not_inUse)

/-- Unless the instruction names the oracle whose account this is, the account stays what it was. -/
theorem isOracle_iff (h : Change rt k a a' receipt)
    (hOther : ∀ o, receipt.identity? = some o → k ≠ (rt.oracleDataPda o).1) (orc : Oracle) :
    IsOracle a' orc ↔ IsOracle a orc := by
  cases h with
  | external h => exact h.isOracle_iff
  | queue hBefore hAfter => exact iff_of_false (hAfter.not_oracle orc) (hBefore.not_oracle orc)
  | registry hBefore hAfter _ =>
    exact iff_of_false (not_oracle_of_registry hAfter orc) (not_oracle_of_registry hBefore orc)
  | zeroed hBefore _ hAfter =>
    exact iff_of_false (not_oracle_of_zero hAfter orc) (not_oracle_of_zero hBefore.zeroed orc)
  | opened _ hBefore hAfter =>
    exact iff_of_false (hAfter.not_oracle orc) (not_oracle_of_zero hBefore.zeroed orc)
  | closed _ hBefore hAfter =>
    exact iff_of_false (not_oracle_of_zero hAfter.zeroed orc) (hBefore.not_oracle orc)
  | delegated hBefore hOwner _ =>
    refine iff_of_false (fun hIs => ?_) (hBefore.not_oracle orc)
    exact absurd (hIs.owner.symm.trans hOwner) (by decide)
  | registered hk _ _ => exact absurd hk (hOther _ rfl)
  | unregistered hk _ _ _ => exact absurd hk (hOther _ rfl)
  | countedUp hk _ _ => exact absurd hk (hOther _ rfl)
  | countedDown hk _ _ => exact absurd hk (hOther _ rfl)

end Change

/-! ## Enrolments -/

structure Enrolment where
  key : Option (Bytes 32)
  queues : Finset UInt8

inductive EnrolStep (o : Pubkey) : Option Receipt → Enrolment → Enrolment → Prop
  | idle {receipt : Option Receipt} {e : Enrolment} (hOther : receipt.bind Receipt.identity? ≠ some o) :
      EnrolStep o receipt e e
  | registered (key : Bytes 32) : EnrolStep o (some (.registered o key)) ⟨none, ∅⟩ ⟨some key, ∅⟩
  | unregistered (key : Bytes 32) : EnrolStep o (some (.unregistered o)) ⟨some key, ∅⟩ ⟨none, ∅⟩
  | opened {key : Bytes 32} {queues : Finset UInt8} (i : UInt8) (hNew : i ∉ queues) :
      EnrolStep o (some (.opened o i)) ⟨some key, queues⟩ ⟨some key, insert i queues⟩
  | closed {key : Bytes 32} {queues : Finset UInt8} (i : UInt8) (queue : Pubkey) (hOpen : i ∈ queues) :
      EnrolStep o (some (.closed o i queue)) ⟨some key, queues⟩ ⟨some key, queues.erase i⟩

structure Enrolled (env : Environment) (o : Pubkey) (l : Ledger) (e : Enrolment) : Prop where
  inUse : ∀ i, i ∈ e.queues ↔ InUse (l (env.oracleQueuePda o i).1)
  present : ∀ key, e.key = some key → ∃ orc, IsOracle (l (env.oracleDataPda o).1) orc ∧ orc.vrfPubkey = key ∧
    orc.openQueues.toNat = e.queues.card
  absent : e.key = none → (∀ orc, ¬IsOracle (l (env.oracleDataPda o).1) orc) ∧ e.queues = ∅

/-- Derivation does not confuse the queues or the data accounts of these oracles. -/
structure DerivesApart (env : Environment) (S : Set Pubkey) : Prop where
  queues : ∀ o ∈ S, ∀ o' ∈ S, ∀ i i', (env.oracleQueuePda o i).1 = (env.oracleQueuePda o' i').1 → o = o' ∧ i = i'
  oracles : Set.InjOn (fun o => (env.oracleDataPda o).1) S

namespace Enrolled

variable {o : Pubkey} {e : Enrolment} {orc : Oracle}

theorem key_of_oracle (h : Enrolled rt.toEnvironment o l e) (hIs : IsOracle (l (rt.oracleDataPda o).1) orc) :
    e.key = some orc.vrfPubkey ∧ orc.openQueues.toNat = e.queues.card := by
  cases hKey : e.key with
  | none => exact absurd hIs ((h.absent hKey).1 orc)
  | some key =>
    obtain ⟨orc', hIs', rfl, hCount⟩ := h.present key hKey
    obtain rfl := hIs.unique hIs'
    exact ⟨rfl, hCount⟩

theorem eq_of_absent (h : Enrolled rt.toEnvironment o l e)
    (hAbsent : ∀ orc, ¬IsOracle (l (rt.oracleDataPda o).1) orc) : e = ⟨none, ∅⟩ := by
  obtain ⟨key, queues⟩ := e
  cases key with
  | none =>
    obtain rfl : queues = ∅ := (h.absent rfl).2
    rfl
  | some key =>
    obtain ⟨orc, hIs, -⟩ := h.present key rfl
    exact absurd hIs (hAbsent orc)

end Enrolled

theorem card_le_256 (queues : Finset UInt8) : queues.card ≤ 256 := by
  have hCard := Finset.card_le_card_of_injOn (s := queues) (t := Finset.range 256) UInt8.toNat
    (fun i _ => Finset.mem_coe.mpr (Finset.mem_range.mpr i.toNat_lt)) (fun i _ j _ h => UInt8.toNat_inj.mp h)
  rwa [Finset.card_range] at hCard

theorem saturatingIncr_toNat {n : UInt64} (h : n.toNat ≤ 256) : (saturatingIncr n).toNat = n.toNat + 1 := by
  rw [saturatingIncr, if_pos (by omega), UInt64.toNat_add, Nat.mod_eq_of_lt]
  · rfl
  · change n.toNat + 1 < 2 ^ 64
    omega

theorem saturatingDecr_toNat {n : UInt64} (h : 0 < n.toNat) : (saturatingDecr n).toNat + 1 = n.toNat := by
  have hne : n ≠ 0 := by
    rintro rfl
    cases h
  rw [saturatingDecr, if_neg hne, UInt64.toNat_sub_of_le]
  · change n.toNat - 1 + 1 = n.toNat
    omega
  · rw [UInt64.le_iff_toNat_le]
    exact h

/-! ## Simulation -/

section

variable {o : Pubkey} {e : Enrolment} {S : Set Pubkey}

theorem reserved_queue (env : Environment) (o : Pubkey) (i : UInt8) : env.Reserved (env.oracleQueuePda o i).1 :=
  Or.inr (Or.inr ⟨o, i, rfl⟩)

/-- A queue of `o` goes in or out of use only by an instruction on that very queue. -/
theorem Effect.inUse_iff (h : Effect rt clock l receipt l') (hSettled : ∀ k, rt.Reserved k → Settled (l k))
    (hApart : DerivesApart rt.toEnvironment S) (ho : o ∈ S) (hNamed : ∀ o', receipt.identity? = some o' → o' ∈ S)
    {i : UInt8} (hOpened : receipt ≠ .opened o i) (hClosed : ∀ queue, receipt ≠ .closed o i queue) :
    InUse (l' (rt.oracleQueuePda o i).1) ↔ InUse (l (rt.oracleQueuePda o i).1) := by
  have hReserved := reserved_queue rt.toEnvironment o i
  obtain hSame | ⟨o', i', rfl, hk, -⟩ | ⟨o', i', queue, rfl, hk, -⟩ :=
    (h.change (rt.oracleQueuePda o i).1).inUse hReserved (hSettled _ hReserved)
  · exact hSame
  · obtain ⟨rfl, rfl⟩ := hApart.queues o ho o' (hNamed o' rfl) i i' hk
    exact absurd rfl hOpened
  · obtain ⟨rfl, rfl⟩ := hApart.queues o ho o' (hNamed o' rfl) i i' hk
    exact absurd rfl (hClosed queue)

theorem Enrolled.congr (h : Enrolled rt.toEnvironment o l e)
    (hInUse : ∀ i, InUse (l' (rt.oracleQueuePda o i).1) ↔ InUse (l (rt.oracleQueuePda o i).1))
    (hOracle : ∀ orc, IsOracle (l' (rt.oracleDataPda o).1) orc ↔ IsOracle (l (rt.oracleDataPda o).1) orc) :
    Enrolled rt.toEnvironment o l' e := by
  refine ⟨fun i => (h.inUse i).trans (hInUse i).symm, fun key hKey => ?_, fun hKey => ?_⟩
  · simp only [hOracle]
    exact h.present key hKey
  · simp only [hOracle]
    exact h.absent hKey

theorem Registered.enrolled {args : ModifyOracle} (h : Registered rt clock args l l')
    (hEnrolled : Enrolled rt.toEnvironment args.identity l e)
    (hInUse : ∀ i, InUse (l' (rt.oracleQueuePda args.identity i).1) ↔ InUse (l (rt.oracleQueuePda args.identity i).1)) :
    ∃ e', EnrolStep args.identity (some (.registered args.identity args.oraclePubkey)) e e' ∧
      Enrolled rt.toEnvironment args.identity l' e' := by
  obtain rfl := hEnrolled.eq_of_absent (not_oracle_of_zero h.absent.zeroed)
  refine ⟨_, .registered args.oraclePubkey, fun i => (hEnrolled.inUse i).trans (hInUse i).symm, ?_, nofun⟩
  rintro key ⟨⟩
  exact ⟨_, h.present, rfl, rfl⟩

theorem Unregistered.enrolled {args : ModifyOracle} (h : Unregistered rt args l l')
    (hEnrolled : Enrolled rt.toEnvironment args.identity l e)
    (hInUse : ∀ i, InUse (l' (rt.oracleQueuePda args.identity i).1) ↔ InUse (l (rt.oracleQueuePda args.identity i).1)) :
    ∃ e', EnrolStep args.identity (some (.unregistered args.identity)) e e' ∧
      Enrolled rt.toEnvironment args.identity l' e' := by
  obtain ⟨orc, hIs, hDrained⟩ := h.drained
  obtain ⟨hKey, hCount⟩ := hEnrolled.key_of_oracle hIs
  rw [hDrained] at hCount
  have hNone := Finset.card_eq_zero.mp hCount.symm
  obtain ⟨key, queues⟩ := e
  obtain rfl : key = some orc.vrfPubkey := hKey
  obtain rfl : queues = ∅ := hNone
  exact ⟨_, .unregistered orc.vrfPubkey, fun i => (hEnrolled.inUse i).trans (hInUse i).symm, nofun,
    fun _ => ⟨not_oracle_of_zero h.absent.zeroed, rfl⟩⟩

theorem Opened.enrolled {i : UInt8} (h : Opened rt o i l l') (hEnrolled : Enrolled rt.toEnvironment o l e)
    (hInUse : ∀ j, j ≠ i → (InUse (l' (rt.oracleQueuePda o j).1) ↔ InUse (l (rt.oracleQueuePda o j).1))) :
    ∃ e', EnrolStep o (some (.opened o i)) e e' ∧ Enrolled rt.toEnvironment o l' e' := by
  obtain ⟨orc, hIs, hIs'⟩ := h.counted
  obtain ⟨hKey, hCount⟩ := hEnrolled.key_of_oracle hIs
  obtain ⟨key, queues⟩ := e
  obtain rfl : key = some orc.vrfPubkey := hKey
  have hNew : i ∉ queues := fun hMem => not_inUse_of_zero h.blank.zeroed ((hEnrolled.inUse i).mp hMem)
  refine ⟨_, .opened i hNew, fun j => ?_, ?_, nofun⟩
  · by_cases hj : j = i
    · subst hj
      exact iff_of_true (Finset.mem_insert_self _ _) h.empty.isQueue.inUse
    · rw [hInUse j hj, Finset.mem_insert, or_iff_right hj]
      exact hEnrolled.inUse j
  · rintro key ⟨⟩
    refine ⟨_, hIs', rfl, ?_⟩
    -- there are 256 indices, so the counter is far from saturation
    have hBound := card_le_256 queues
    change orc.openQueues.toNat = queues.card at hCount
    rw [saturatingIncr_toNat (by omega), Finset.card_insert_of_notMem hNew, hCount]

theorem QueueClosed.enrolled {i : UInt8} (h : QueueClosed rt o i l l') (hEnrolled : Enrolled rt.toEnvironment o l e)
    (hInUse : ∀ j, j ≠ i → (InUse (l' (rt.oracleQueuePda o j).1) ↔ InUse (l (rt.oracleQueuePda o j).1))) :
    ∃ e', EnrolStep o (some (.closed o i (rt.oracleQueuePda o i).1)) e e' ∧ Enrolled rt.toEnvironment o l' e' := by
  obtain ⟨orc, hIs, hIs'⟩ := h.counted
  obtain ⟨hKey, hCount⟩ := hEnrolled.key_of_oracle hIs
  obtain ⟨key, queues⟩ := e
  obtain rfl : key = some orc.vrfPubkey := hKey
  have hOpen : i ∈ queues := (hEnrolled.inUse i).mpr h.isQueue.inUse
  refine ⟨_, .closed i _ hOpen, fun j => ?_, ?_, nofun⟩
  · by_cases hj : j = i
    · subst hj
      exact iff_of_false (Finset.notMem_erase _ _) (not_inUse_of_zero h.unborn.zeroed)
    · rw [hInUse j hj, Finset.mem_erase, and_iff_right hj]
      exact hEnrolled.inUse j
  · rintro key ⟨⟩
    refine ⟨_, hIs', rfl, ?_⟩
    change orc.openQueues.toNat = queues.card at hCount
    have hPos := Finset.card_pos.mpr ⟨i, hOpen⟩
    have hDecr := saturatingDecr_toNat (n := orc.openQueues) (by omega)
    rw [Finset.card_erase_of_mem hOpen]
    change (saturatingDecr orc.openQueues).toNat = _
    omega

theorem Effect.enrolled (h : Effect rt clock l receipt l') (hSettled : ∀ k, rt.Reserved k → Settled (l k))
    (hApart : DerivesApart rt.toEnvironment S) (ho : o ∈ S) (hNamed : ∀ o', receipt.identity? = some o' → o' ∈ S)
    (hEnrolled : Enrolled rt.toEnvironment o l e) :
    ∃ e', EnrolStep o (some receipt) e e' ∧ Enrolled rt.toEnvironment o l' e' := by
  have hInUse (i : UInt8) := h.inUse_iff hSettled hApart ho hNamed (i := i)
  by_cases hOther : receipt.identity? = some o
  · cases h with
    | registered h =>
      cases hOther
      exact h.enrolled hEnrolled fun i => hInUse i nofun nofun
    | unregistered h =>
      cases hOther
      exact h.enrolled hEnrolled fun i => hInUse i nofun nofun
    | opened h =>
      cases hOther
      exact h.enrolled hEnrolled fun j hj => hInUse j (fun hEq => by cases hEq; exact hj rfl) nofun
    | closed h =>
      cases hOther
      exact h.enrolled hEnrolled fun j hj => hInUse j nofun fun queue hEq => by cases hEq; exact hj rfl
    | _ => cases hOther
  · refine ⟨e, .idle hOther, hEnrolled.congr (fun i => ?_) ?_⟩
    · exact hInUse i (fun hEq => hOther (by rw [hEq]; rfl)) fun queue hEq => hOther (by rw [hEq]; rfl)
    · exact (h.change (rt.oracleDataPda o).1).isOracle_iff fun o' ho' hk =>
        hOther (by rw [ho', hApart.oracles ho (hNamed o' ho') hk])

end

/-! ## Along a run -/

def ChainRun.identities (run : ChainRun rt) : Set Pubkey :=
  { o | ∃ n receipt, run.receipt n = some receipt ∧ receipt.identity? = some o }

theorem ChainRun.identities_subset {run : ChainRun rt} {receipts : List (Option Receipt)}
    (hReceipts : ∀ n, run.receipt n = (receipts[n]?).join) {o : Pubkey}
    (hNamed : ∀ r ∈ receipts, (r.bind Receipt.identity?).all (· == o) = true) : run.identities ⊆ {o} := by
  rintro o' ⟨n, receipt, hReceipt, hIdentity⟩
  rw [hReceipts, Option.join_eq_some_iff] at hReceipt
  have hSame := hNamed _ (List.mem_of_getElem? hReceipt)
  rw [Option.bind_some, hIdentity] at hSame
  exact eq_of_beq hSame

theorem ChainRun.settled (run : ChainRun rt) (n : Nat) (k : Pubkey) (hReserved : rt.Reserved k) :
    Settled (run.ledger n k) := by
  refine run.invariant (P := fun w => Settled (w.ledger k)) ?_ ?_ n
  · intro w hGenesis
    exact Or.inl (hGenesis.reserved k hReserved)
  · intro w e hAllowed hSettled
    obtain ⟨receipt, -, hEffect⟩ | ⟨-, hExternal⟩ := World.step_cases hAllowed
    · exact (hEffect.change k).settled hReserved hSettled
    · exact (hExternal k).settled hReserved hSettled

structure Enrols (run : ChainRun rt) (o : Pubkey) (enrolment : Nat → Enrolment) : Prop where
  start : enrolment 0 = ⟨none, ∅⟩
  enrolled : ∀ n, Enrolled rt.toEnvironment o (run.ledger n) (enrolment n)
  steps : ∀ n, EnrolStep o (run.receipt n) (enrolment n) (enrolment (n + 1))

theorem ChainRun.exists_enrolment (run : ChainRun rt) (hApart : DerivesApart rt.toEnvironment run.identities)
    {o : Pubkey} (ho : o ∈ run.identities) : ∃ enrolment, Enrols run o enrolment := by
  have hStart : Enrolled rt.toEnvironment o run.start.ledger ⟨none, ∅⟩ := by
    refine ⟨fun i => ?_, nofun, fun _ => ⟨?_, rfl⟩⟩
    · exact iff_of_false (Finset.notMem_empty i)
        (not_inUse_of_zero (run.initial.reserved _ (reserved_queue _ o i)).zeroed)
    · exact not_oracle_of_zero (run.initial.reserved _ (Or.inr (Or.inl ⟨o, rfl⟩))).zeroed
  have hStep (n : Nat) (e : Enrolment) (hEnrolled : Enrolled rt.toEnvironment o (run.ledger n) e) :
      ∃ e', EnrolStep o (run.receipt n) e e' ∧ Enrolled rt.toEnvironment o (run.ledger (n + 1)) e' := by
    obtain ⟨receipt, hReceipt, hEffect⟩ | ⟨hReceipt, hExternal⟩ := run.step_cases n
    · rw [hReceipt]
      exact hEffect.enrolled (run.settled n) hApart ho (fun o' ho' => ⟨n, receipt, hReceipt, ho'⟩) hEnrolled
    · rw [hReceipt]
      refine ⟨e, .idle nofun, hEnrolled.congr (fun i => ?_) fun orc => (hExternal _).isOracle_iff⟩
      exact (hExternal _).inUse_iff (reserved_queue _ o i) (run.settled n _ (reserved_queue _ o i))
  obtain ⟨enrolment, hZero, hEnrolment⟩ := run.simulate (fun w => Enrolled rt.toEnvironment o w.ledger)
    (fun n => EnrolStep o (run.receipt n)) hStart hStep
  exact ⟨enrolment, hZero, fun n => (hEnrolment n).1, fun n => (hEnrolment n).2⟩

namespace Enrols

variable {run : ChainRun rt} {o : Pubkey} {enrolment : Nat → Enrolment}

/-- A key in force was registered, with no queue in use, and has been in force ever since. -/
theorem registration (h : Enrols run o enrolment) {n : Nat} {key : Bytes 32} (hKey : (enrolment n).key = some key) :
    ∃ s, s < n ∧ run.receipt s = some (.registered o key) ∧ (enrolment s).queues = ∅ ∧
      ∀ m, s < m → m ≤ n → (enrolment m).key = some key := by
  induction n with
  | zero =>
    rw [h.start] at hKey
    cases hKey
  | succ n ih =>
    have hEarlier (hSame : (enrolment n).key = some key) : ∃ s, s < n + 1 ∧
        run.receipt s = some (.registered o key) ∧ (enrolment s).queues = ∅ ∧
        ∀ m, s < m → m ≤ n + 1 → (enrolment m).key = some key := by
      obtain ⟨s, hs, hReceipt, hNone, hSince⟩ := ih hSame
      refine ⟨s, Nat.lt_succ_of_lt hs, hReceipt, hNone, fun m hm hm' => ?_⟩
      obtain hlt | rfl := Nat.lt_or_eq_of_le hm'
      · exact hSince m hm (Nat.le_of_lt_succ hlt)
      · exact hKey
    have hStep := h.steps n
    generalize hReceipt : run.receipt n = receipt at hStep
    generalize hBefore : enrolment n = e at hStep
    generalize hAfter : enrolment (n + 1) = e' at hStep
    rw [hAfter] at hKey
    cases hStep with
    | idle _ => exact hEarlier (by rw [hBefore, hKey])
    | registered key' =>
      cases hKey
      refine ⟨n, Nat.lt_succ_self n, hReceipt, by rw [hBefore], fun m hm hm' => ?_⟩
      obtain rfl : m = n + 1 := Nat.le_antisymm hm' hm
      rw [hAfter]
    | unregistered _ => cases hKey
    | opened _ _ => exact hEarlier (by rw [hBefore, hKey])
    | closed _ _ _ => exact hEarlier (by rw [hBefore, hKey])

end Enrols

/-- The counter of a registered oracle is the number of its queues in use and is never saturated; a
queue in use has its oracle registered, with one key since before the queue was opened. -/
theorem open_queue_accounting (rt : Runtime) (run : ChainRun rt)
    (hApart : DerivesApart rt.toEnvironment run.identities) (o : Pubkey) (ho : o ∈ run.identities) (n : Nat) :
    (∀ orc, IsOracle (run.ledger n (rt.oracleDataPda o).1) orc →
      orc.openQueues.toNat = Set.ncard { i | InUse (run.ledger n (rt.oracleQueuePda o i).1) }) ∧
    (∀ i, run.receipt n = some (.opened o i) → ∃ orc, IsOracle (run.ledger n (rt.oracleDataPda o).1) orc ∧
      IsOracle (run.ledger (n + 1) (rt.oracleDataPda o).1)
        { orc with openQueues := saturatingIncr orc.openQueues } ∧
      (saturatingIncr orc.openQueues).toNat = orc.openQueues.toNat + 1) ∧
    (∀ i queue, run.receipt n = some (.closed o i queue) →
      ∃ orc, IsOracle (run.ledger n (rt.oracleDataPda o).1) orc ∧
        IsOracle (run.ledger (n + 1) (rt.oracleDataPda o).1)
          { orc with openQueues := saturatingDecr orc.openQueues } ∧
        (saturatingDecr orc.openQueues).toNat + 1 = orc.openQueues.toNat) ∧
    ∀ i, InUse (run.ledger n (rt.oracleQueuePda o i).1) →
      ∃ s key, s < n ∧ run.receipt s = some (.registered o key) ∧
        ¬InUse (run.ledger s (rt.oracleQueuePda o i).1) ∧
        ∀ m, s < m → m ≤ n →
          ∃ orc, IsOracle (run.ledger m (rt.oracleDataPda o).1) orc ∧ orc.vrfPubkey = key := by
  obtain ⟨enrolment, hEnrols⟩ := run.exists_enrolment hApart ho
  have hEnrolled := hEnrols.enrolled n
  refine ⟨?_, ?_, ?_, ?_⟩
  · intro orc hIs
    have hSet : { i | InUse (run.ledger n (rt.oracleQueuePda o i).1) } = ↑(enrolment n).queues :=
      Set.ext fun i => (hEnrolled.inUse i).symm
    rw [hSet, Set.ncard_coe_finset]
    exact (hEnrolled.key_of_oracle hIs).2
  · intro i hReceipt
    cases run.effect hReceipt with
    | opened h =>
      obtain ⟨orc, hIs, hIs'⟩ := h.counted
      have hCount := (hEnrolled.key_of_oracle hIs).2
      have hBound := card_le_256 (enrolment n).queues
      exact ⟨orc, hIs, hIs', saturatingIncr_toNat (by omega)⟩
  · intro i queue hReceipt
    cases run.effect hReceipt with
    | closed h =>
      obtain ⟨orc, hIs, hIs'⟩ := h.counted
      have hCount := (hEnrolled.key_of_oracle hIs).2
      have hPos := Finset.card_pos.mpr ⟨i, (hEnrolled.inUse i).mpr h.isQueue.inUse⟩
      exact ⟨orc, hIs, hIs', saturatingDecr_toNat (by omega)⟩
  · intro i hUse
    have hMem := (hEnrolled.inUse i).mpr hUse
    cases hKey : (enrolment n).key with
    | none =>
      rw [(hEnrolled.absent hKey).2] at hMem
      exact absurd hMem (Finset.notMem_empty i)
    | some key =>
      obtain ⟨s, hs, hReceipt, hNone, hSince⟩ := hEnrols.registration hKey
      refine ⟨s, key, hs, hReceipt, ?_, fun m hm hm' => ?_⟩
      · rw [← (hEnrols.enrolled s).inUse i, hNone]
        exact Finset.notMem_empty i
      · obtain ⟨orc, hIs, hSame, -⟩ := (hEnrols.enrolled m).present key (hSince m hm hm')
        exact ⟨orc, hIs, hSame⟩

def Sample.indexOf (k : Pubkey) : UInt8 := if k = queueKey then 0 else k.head

theorem Sample.indexOf_oracleQueuePda (i : UInt8) :
    indexOf (runtime.oracleQueuePda oracle i).1 = i := by
  have hAll : ∀ n < 256, indexOf (runtime.oracleQueuePda oracle (UInt8.ofNat n)).1 = UInt8.ofNat n := by
    decide +kernel
  have hIndex := hAll i.toNat i.toNat_lt
  rwa [UInt8.ofNat_toNat] at hIndex

theorem Sample.derivesApart_of {env : Environment} (hFind : env.findProgramAddress = findProgramAddress)
    {S : Set Pubkey} (hS : S ⊆ {oracle}) : DerivesApart env S where
  queues o ho o' ho' i i' h := by
    obtain rfl : o = oracle := hS ho
    obtain rfl : o' = oracle := hS ho'
    rw [Environment.oracleQueuePda, Environment.oracleQueuePda, hFind] at h
    exact ⟨rfl, Function.LeftInverse.injective indexOf_oracleQueuePda h⟩
  oracles o ho o' ho' _ := (hS ho).trans (hS ho').symm

theorem Sample.derivesApart : DerivesApart Sample.environment Sample.run.identities :=
  derivesApart_of rfl (ChainRun.identities_subset receipt_eq (by decide +kernel))

theorem open_queue_accounting_sample : Sample.oracle ∈ Sample.run.identities ∧
    ∃ orc : Oracle, IsOracle (Sample.run.ledger 3 Sample.oracleDataKey)
        { orc with openQueues := saturatingIncr orc.openQueues } ∧
      (saturatingIncr orc.openQueues).toNat = orc.openQueues.toNat + 1 := by
  have hMem : Sample.oracle ∈ Sample.run.identities := ⟨1, _, Sample.receipt_eq 1, rfl⟩
  obtain ⟨-, hOpened, -⟩ := open_queue_accounting Sample.runtime Sample.run Sample.derivesApart Sample.oracle hMem 2
  obtain ⟨orc, -, hOracle, hCount⟩ := hOpened 0 (Sample.receipt_eq 2)
  have hKey : (Sample.runtime.oracleDataPda Sample.oracle).1 = Sample.oracleDataKey := by decide +kernel
  rw [hKey] at hOracle
  exact ⟨hMem, orc, hOracle, hCount⟩

end SolanaVrf
