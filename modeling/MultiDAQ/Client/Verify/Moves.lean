import Mathlib.Data.Int.ConditionallyCompleteOrder
import Mathlib.Order.ConditionallyCompleteLattice.Basic
import MultiDAQ.Client.Verify.FixedBad

/-!
# The working lists under the channel moves

The lists ok, bad, on and off are kept by hand: every move edits two to four of them. What they have
to satisfy together is `Consistent`, and every move keeps it, whatever channel it is applied to. The
lists that the constructor builds satisfy it unless the loop of `sync_power_state` skips a channel:
a channel whose power state cannot be read is removed from the list under that loop, so that the
channel after it is left in the ok list, and neither on nor off (`startLists_consistent_iff`).
-/

namespace MultiDAQ.Client

open MultiDAQ.Lib MultiDAQ.Lib.Interaction

/-! ## Sorted lists without duplicates -/

section Sorted

variable {l : List Int} {ch x : Int}

theorem sortedLT_sorted (h : l.Nodup) : (sorted l).SortedLT :=
  List.sortedLT_iff_nodup_and_sortedLE.2
    ⟨(List.perm_insertionSort _ l).nodup_iff.2 h, List.sortedLE_insertionSort⟩

theorem nodup_appendNew (h : l.Nodup) : (appendNew l ch).Nodup := by
  unfold appendNew
  split
  next => exact h
  next hch => exact List.nodup_append_comm.1 (List.nodup_cons.2 ⟨hch, h⟩)

theorem sortedLT_erase (h : l.SortedLT) : (sorted (l.erase ch)).SortedLT :=
  sortedLT_sorted (h.nodup.erase ch)

theorem sortedLT_appendNew (h : l.SortedLT) : (sorted (appendNew l ch)).SortedLT :=
  sortedLT_sorted (nodup_appendNew h.nodup)

theorem mem_erase_sortedLT (h : l.SortedLT) : x ∈ l.erase ch ↔ x ≠ ch ∧ x ∈ l :=
  h.nodup.mem_erase_iff

end Sorted

namespace HvLists

variable {s : HvLists} {ch x : Int}

/-! ## The invariant -/

/-- The working lists are strictly increasing. -/
structure Increasing (s : HvLists) : Prop where
  ok : s.okCh.SortedLT
  bad : s.badCh.SortedLT
  on : s.onCh.SortedLT
  off : s.offCh.SortedLT

/-- What the working lists say about one channel. -/
structure ConsistentAt (s : HvLists) (ch : Int) : Prop where
  ok_of_on : ch ∈ s.onCh → ch ∈ s.okCh
  not_on_and_off : ¬ (ch ∈ s.onCh ∧ ch ∈ s.offCh)
  not_ok_and_bad : ¬ (ch ∈ s.okCh ∧ ch ∈ s.badCh)
  powered : ch ∈ s.okCh → ch ∈ s.onCh ∨ ch ∈ s.offCh

/-- The on list is contained in the ok list, on and off are disjoint, ok and bad are disjoint, every
ok channel is in exactly one of on and off, and the four lists are strictly increasing. -/
structure Consistent (s : HvLists) : Prop where
  on_subset_ok : s.onCh ⊆ s.okCh
  disjoint_on_off : s.onCh.Disjoint s.offCh
  disjoint_ok_bad : s.okCh.Disjoint s.badCh
  ok_powered : ∀ ch ∈ s.okCh, Xor (ch ∈ s.onCh) (ch ∈ s.offCh)
  increasing : s.Increasing

theorem consistent_iff : s.Consistent ↔ s.Increasing ∧ ∀ ch, s.ConsistentAt ch := by
  constructor
  · intro h
    refine ⟨h.increasing, fun ch => ⟨fun hon => h.on_subset_ok hon, fun hc => ?_, fun hc => ?_,
      fun hok => Xor.or (h.ok_powered ch hok)⟩⟩
    · exact h.disjoint_on_off hc.1 hc.2
    · exact h.disjoint_ok_bad hc.1 hc.2
  · rintro ⟨hinc, h⟩
    refine ⟨fun ch hon => (h ch).ok_of_on hon, fun ch hon hoff => ?_, fun ch hok hbad => ?_,
      fun ch hok => ?_, hinc⟩
    · exact (h ch).not_on_and_off ⟨hon, hoff⟩
    · exact (h ch).not_ok_and_bad ⟨hok, hbad⟩
    · rcases (h ch).powered hok with hon | hoff
      · exact .inl ⟨hon, fun hoff => (h ch).not_on_and_off ⟨hon, hoff⟩⟩
      · exact .inr ⟨hoff, fun hon => (h ch).not_on_and_off ⟨hon, hoff⟩⟩

/-! ## One move -/

theorem Increasing.moveToOk (h : s.Increasing) : (s.moveToOk ch).Increasing where
  ok := sortedLT_appendNew h.ok
  bad := sortedLT_erase h.bad
  on := h.on
  off := by
    show (sorted _).SortedLT
    refine sortedLT_sorted ?_
    split
    next hch => exact List.nodup_append_comm.1 (List.nodup_cons.2 ⟨hch.1, h.off.nodup⟩)
    next => exact h.off.nodup

theorem Increasing.moveToBad (h : s.Increasing) : (s.moveToBad ch).Increasing where
  ok := sortedLT_erase h.ok
  bad := sortedLT_appendNew h.bad
  on := sortedLT_erase h.on
  off := sortedLT_appendNew h.off

theorem Increasing.moveToOn (h : s.Increasing) : (s.moveToOn ch).Increasing := by
  unfold HvLists.moveToOn
  split
  · exact h
  · exact ⟨h.ok, h.bad, sortedLT_appendNew h.on, sortedLT_erase h.off⟩

theorem Increasing.moveToOff (h : s.Increasing) : (s.moveToOff ch).Increasing where
  ok := h.ok
  bad := h.bad
  on := sortedLT_erase h.on
  off := sortedLT_appendNew h.off

theorem Increasing.withdraw (h : s.Increasing) : (s.withdraw ch).Increasing where
  ok := sortedLT_erase h.ok
  bad := sortedLT_erase h.bad
  on := sortedLT_erase h.on
  off := sortedLT_erase h.off

theorem ConsistentAt.moveToOk (hinc : s.Increasing) (h : s.ConsistentAt x) :
    (s.moveToOk ch).ConsistentAt x := by
  obtain ⟨hon, honoff, hokbad, hpow⟩ := h
  have hok' : x ∈ (s.moveToOk ch).okCh ↔ x ∈ s.okCh ∨ x = ch :=
    (mem_sorted _ _).trans (mem_appendNew _ _ _)
  have hbad' : x ∈ (s.moveToOk ch).badCh ↔ x ≠ ch ∧ x ∈ s.badCh :=
    (mem_sorted _ _).trans (mem_erase_sortedLT hinc.bad)
  have hon' : (s.moveToOk ch).onCh = s.onCh := rfl
  have hoff' : x ∈ (s.moveToOk ch).offCh ↔ x ∈ s.offCh ∨ x = ch ∧ ch ∉ s.onCh := by
    refine (mem_sorted _ _).trans ?_
    split <;> grind
  constructor <;> grind

theorem ConsistentAt.moveToBad (hinc : s.Increasing) (h : s.ConsistentAt x) :
    (s.moveToBad ch).ConsistentAt x := by
  obtain ⟨hon, honoff, hokbad, hpow⟩ := h
  constructor <;> simp only [HvLists.moveToBad, mem_sorted, mem_appendNew,
    mem_erase_sortedLT hinc.ok, mem_erase_sortedLT hinc.on] <;> grind

theorem ConsistentAt.moveToOn (hinc : s.Increasing) (h : s.ConsistentAt x) :
    (s.moveToOn ch).ConsistentAt x := by
  unfold HvLists.moveToOn
  split
  next => exact h
  next hch =>
    obtain ⟨hon, honoff, hokbad, hpow⟩ := h
    constructor <;> simp only [mem_sorted, mem_appendNew, mem_erase_sortedLT hinc.off] <;> grind

theorem ConsistentAt.moveToOff (hinc : s.Increasing) (h : s.ConsistentAt x) :
    (s.moveToOff ch).ConsistentAt x := by
  obtain ⟨hon, honoff, hokbad, hpow⟩ := h
  constructor <;> simp only [HvLists.moveToOff, mem_sorted, mem_appendNew,
    mem_erase_sortedLT hinc.on] <;> grind

theorem ConsistentAt.withdraw (hinc : s.Increasing) (h : s.ConsistentAt x) :
    (s.withdraw ch).ConsistentAt x := by
  obtain ⟨hon, honoff, hokbad, hpow⟩ := h
  constructor <;> simp only [HvLists.withdraw, mem_sorted, mem_erase_sortedLT hinc.ok,
    mem_erase_sortedLT hinc.bad, mem_erase_sortedLT hinc.on, mem_erase_sortedLT hinc.off] <;> grind

theorem Consistent.of_move {s' : HvLists} (h : s.Consistent) (hinc : s.Increasing → s'.Increasing)
    (hat : ∀ x, s.Increasing → s.ConsistentAt x → s'.ConsistentAt x) : s'.Consistent := by
  obtain ⟨hs, hall⟩ := consistent_iff.1 h
  exact consistent_iff.2 ⟨hinc hs, fun x => hat x hs (hall x)⟩

/-- The fixed-bad and missing-serial lists do not matter. -/
theorem Consistent.of_lists {s' : HvLists} (h : s.Consistent) (hok : s'.okCh = s.okCh)
    (hbad : s'.badCh = s.badCh) (hon : s'.onCh = s.onCh) (hoff : s'.offCh = s.offCh) :
    s'.Consistent := by
  cases s
  cases s'
  cases hok
  cases hbad
  cases hon
  cases hoff
  exact ⟨h.on_subset_ok, h.disjoint_on_off, h.disjoint_ok_bad, h.ok_powered,
    ⟨h.increasing.ok, h.increasing.bad, h.increasing.on, h.increasing.off⟩⟩

end HvLists

/-! ## Sequences of moves -/

/-- The moves of a channel, by the list it is moved to or removed from. -/
inductive HvMove
  | ok
  | bad
  | on
  | off
  | fixedBad
  | missingSerial
  | removeFromFixedBad
  | removeFromMissingSerial
  deriving DecidableEq, Repr

def HvLists.move (s : HvLists) : HvMove × Int → HvLists
  | (.ok, ch) => s.moveToOk ch
  | (.bad, ch) => s.moveToBad ch
  | (.on, ch) => s.moveToOn ch
  | (.off, ch) => s.moveToOff ch
  | (.fixedBad, ch) => s.moveToFixedBad ch
  | (.missingSerial, ch) => s.moveToMissingSerial ch
  | (.removeFromFixedBad, ch) => s.removeFromFixedBad ch
  | (.removeFromMissingSerial, ch) => s.removeFromMissingSerial ch

theorem HvLists.Consistent.move {s : HvLists} (h : s.Consistent) (m : HvMove × Int) :
    (s.move m).Consistent := by
  obtain ⟨m, ch⟩ := m
  have hbad (t : HvLists) (ht : t.Consistent) : (t.moveToBad ch).Consistent :=
    ht.of_move (·.moveToBad) fun _ hinc hat => hat.moveToBad hinc
  have hwithdraw : (s.withdraw ch).Consistent :=
    h.of_move (·.withdraw) fun _ hinc hat => hat.withdraw hinc
  cases m with
  | ok => exact h.of_move (·.moveToOk) fun _ hinc hat => hat.moveToOk hinc
  | bad => exact hbad s h
  | on => exact h.of_move (·.moveToOn) fun _ hinc hat => hat.moveToOn hinc
  | off => exact h.of_move (·.moveToOff) fun _ hinc hat => hat.moveToOff hinc
  | fixedBad => exact hwithdraw.of_lists rfl rfl rfl rfl
  | missingSerial => exact hwithdraw.of_lists rfl rfl rfl rfl
  | removeFromFixedBad => exact hbad _ (h.of_lists rfl rfl rfl rfl)
  | removeFromMissingSerial => exact hbad _ (h.of_lists rfl rfl rfl rfl)

/-! ## The lists at the start -/

/-- The channels that answer the startup scan, in order. -/
def scannedOk (fixedBadChannels : List Int) (bus : HvBus) : List Int :=
  ((ChannelsArg.all.chList 7).filter (· ∉ fixedBadChannels)).filter fun ch =>
    (bus.answer (.readAddress ch) 0).isOk

/-- The board answers the two reads of the power state. -/
def readable (bus : HvBus) (ch : Int) : Bool :=
  (bus.answer (.getStatus ch) 0).isOk && (bus.answer (.getAlarm ch) 0).isOk

/-- The lists that the constructor leaves. -/
def startLists (fixedBadChannels : List Int) (bus : HvBus) : HvLists :=
  (HV.init fixedBadChannels bus { state := {} }).2.state

/-- The channel that the loop over the ok list skips: the one after the first that cannot be
read. -/
def skippedAtStart (bus : HvBus) : List Int → List Int
  | [] => []
  | ch :: rest => if readable bus ch then skippedAtStart bus rest else rest.take 1

theorem skippedAtStart_eq_nil {bus : HvBus} : ∀ {l : List Int}, l.SortedLT →
    (skippedAtStart bus l = [] ↔ ∀ ch ∈ l, ∀ ch' ∈ l, ch < ch' → readable bus ch)
  | [], _ => ⟨fun _ => nofun, fun _ => rfl⟩
  | ch :: rest, h => by
    obtain ⟨hlt, hrest⟩ := List.pairwise_cons.1 h.pairwise
    have ih : skippedAtStart bus rest = [] ↔ _ :=
      skippedAtStart_eq_nil (List.sortedLT_iff_pairwise.2 hrest)
    unfold skippedAtStart
    split
    next hch =>
      rw [ih]
      constructor
      · intro hall x hx y hy hxy
        rcases List.mem_cons.1 hx with rfl | hxr
        · exact hch
        · rcases List.mem_cons.1 hy with rfl | hyr
          · have := hlt x hxr
            omega
          · exact hall x hxr y hyr hxy
      · exact fun hall x hx y hy => hall x (.tail _ hx) y (.tail _ hy)
    next hch =>
      cases rest with
      | nil =>
        refine ⟨fun _ x hx y hy hxy => ?_, fun _ => rfl⟩
        obtain rfl := List.mem_singleton.1 hx
        obtain rfl := List.mem_singleton.1 hy
        omega
      | cons c rest =>
        refine ⟨fun hnil => (List.cons_ne_nil _ _ hnil).elim, fun hall => ?_⟩
        exact absurd (hall ch (.head _) c (.tail _ (.head _)) (hlt c (.head _))) hch

section Start

variable {bus : HvBus} {ch : Int} {pending xs : List Int} {w : World HvLists HvCall}

/-- The channels of `pending` are ok and have no power state; the other ones are consistent. -/
structure Syncing (pending : List Int) (s : HvLists) : Prop where
  increasing : s.Increasing
  unpowered : ∀ ch ∈ pending, ch ∈ s.okCh ∧ ch ∉ s.badCh ∧ ch ∉ s.onCh ∧ ch ∉ s.offCh
  synced : ∀ ch, ch ∉ pending → s.ConsistentAt ch

theorem Syncing.of_mem {s : HvLists} {pending' : List Int} (h : Syncing pending s)
    (hmem : ∀ ch, ch ∈ pending ↔ ch ∈ pending') : Syncing pending' s :=
  ⟨h.increasing, fun ch hch => h.unpowered ch ((hmem ch).2 hch),
    fun ch hch => h.synced ch fun hc => hch ((hmem ch).1 hc)⟩

theorem Syncing.consistent_iff {s : HvLists} (h : Syncing pending s) :
    s.Consistent ↔ pending = [] := by
  constructor
  · intro hs
    refine List.eq_nil_iff_forall_not_mem.2 fun ch hch => ?_
    obtain ⟨hok, -, hon, hoff⟩ := h.unpowered ch hch
    rcases Xor.or (hs.ok_powered ch hok) with hc | hc
    · exact hon hc
    · exact hoff hc
  · rintro rfl
    exact HvLists.consistent_iff.2 ⟨h.increasing, fun ch => h.synced ch List.not_mem_nil⟩

/-- A move that makes its own channel consistent and leaves the others alone. -/
theorem Syncing.of_move {s s' : HvLists} (h : Syncing (ch :: pending) s) (hch : ch ∉ pending)
    (hinc : s'.Increasing) (hself : s'.ConsistentAt ch)
    (hne : ∀ x, x ≠ ch → (x ∈ s'.okCh ↔ x ∈ s.okCh) ∧ (x ∈ s'.badCh ↔ x ∈ s.badCh) ∧
      (x ∈ s'.onCh ↔ x ∈ s.onCh) ∧ (x ∈ s'.offCh ↔ x ∈ s.offCh)) : Syncing pending s' := by
  refine ⟨hinc, fun x hx => ?_, fun x hx => ?_⟩
  · have hxch : x ≠ ch := fun heq => hch (heq ▸ hx)
    obtain ⟨hok, hbad, hon, hoff⟩ := hne x hxch
    rw [hok, hbad, hon, hoff]
    exact h.unpowered x (.tail _ hx)
  · by_cases hxch : x = ch
    · exact hxch ▸ hself
    · obtain ⟨hok, hbad, hon, hoff⟩ := hne x hxch
      obtain ⟨h₁, h₂, h₃, h₄⟩ := h.synced x fun hmem => hx (List.mem_of_ne_of_mem hxch hmem)
      constructor <;> simp only [hok, hbad, hon, hoff] <;> assumption

theorem Syncing.moveToOn {s : HvLists} (h : Syncing (ch :: pending) s) (hch : ch ∉ pending) :
    Syncing pending (s.moveToOn ch) := by
  obtain ⟨hok, hbad, hon, hoff⟩ := h.unpowered ch (.head _)
  have hmove : s.moveToOn ch = { s with
      offCh := sorted (s.offCh.erase ch), onCh := sorted (appendNew s.onCh ch) } :=
    if_neg (not_not.2 hok)
  refine h.of_move hch h.increasing.moveToOn ?_ fun x hx => ?_
  · rw [hmove]
    constructor <;> simp only [mem_sorted, mem_appendNew, mem_erase_sortedLT h.increasing.off] <;>
      grind
  · rw [hmove]
    simp only [mem_sorted, mem_appendNew, mem_erase_sortedLT h.increasing.off]
    grind

theorem Syncing.moveToOff {s : HvLists} (h : Syncing (ch :: pending) s) (hch : ch ∉ pending) :
    Syncing pending (s.moveToOff ch) := by
  obtain ⟨hok, hbad, hon, hoff⟩ := h.unpowered ch (.head _)
  refine h.of_move hch h.increasing.moveToOff ?_ fun x hx => ?_
  · constructor <;> simp only [HvLists.moveToOff, mem_sorted, mem_appendNew,
      mem_erase_sortedLT h.increasing.on] <;> grind
  · simp only [HvLists.moveToOff, mem_sorted, mem_appendNew, mem_erase_sortedLT h.increasing.on]
    grind

theorem Syncing.moveToBad {s : HvLists} (h : Syncing (ch :: pending) s) (hch : ch ∉ pending) :
    Syncing pending (s.moveToBad ch) := by
  obtain ⟨hok, hbad, hon, hoff⟩ := h.unpowered ch (.head _)
  refine h.of_move hch h.increasing.moveToBad ?_ fun x hx => ?_
  · constructor <;> simp only [HvLists.moveToBad, mem_sorted, mem_appendNew,
      mem_erase_sortedLT h.increasing.on, mem_erase_sortedLT h.increasing.ok] <;> grind
  · simp only [HvLists.moveToBad, mem_sorted, mem_appendNew, mem_erase_sortedLT h.increasing.on,
      mem_erase_sortedLT h.increasing.ok]
    grind

/-- The power state of the channels has not been read. -/
def Unread (chs : List Int) (w : World HvLists HvCall) : Prop :=
  ∀ ch ∈ chs, HvCall.getStatus ch ∉ w.calls ∧ HvCall.getAlarm ch ∉ w.calls

theorem Unread.issue {c : HvCall} (h : Unread xs w)
    (hc : ∀ ch ∈ xs, c ≠ .getStatus ch ∧ c ≠ .getAlarm ch) : Unread xs (w.issue c) := by
  intro x hx
  obtain ⟨hs, ha⟩ := h x hx
  obtain ⟨hcs, hca⟩ := hc x hx
  simp only [World.issue_calls, List.mem_append, List.mem_singleton, not_or]
  exact ⟨⟨hs, hcs.symm⟩, ha, hca.symm⟩

/-- The loop before it reads `ch`, with `xs` to come. -/
def Before (ch : Int) (pending xs : List Int) (w : World HvLists HvCall) : Prop :=
  Syncing (ch :: pending) w.state ∧ Unread (ch :: xs) w

theorem triple_readStatusAlarm (hch : ch ∉ xs) :
    Triple bus (Before ch pending xs) (HV.readStatusAlarm ch)
      (fun _ w => (Syncing (ch :: pending) w.state ∧ Unread xs w) ∧ readable bus ch = true)
      fun w => (Syncing (ch :: pending) w.state ∧ Unread xs w) ∧ readable bus ch = false := by
  have hne : ∀ x ∈ xs, ch ≠ x := fun x hx heq => hch (heq ▸ hx)
  have hafter {w : World HvLists HvCall} (hw : Before ch pending xs w) :
      Unread xs (w.issue (.getStatus ch)) :=
    Unread.issue (fun x hx => hw.2 x (.tail _ hx))
      fun x hx => ⟨fun heq => hne x hx (HvCall.getStatus.inj heq), nofun⟩
  unfold HV.readStatusAlarm
  refine triple_bind (Q := fun _ w => Syncing (ch :: pending) w.state ∧ Unread xs w ∧
    HvCall.getAlarm ch ∉ w.calls ∧ (bus.answer (.getStatus ch) 0).isOk) (triple_map ?_) fun _ =>
      triple_bind (triple_map ?_) fun _ => triple_pure fun w hw => hw
  · refine triple_call (fun w a hw ha => ?_) fun w e hw he => ?_
    · have hfirst : w.calls.count (.getStatus ch) = 0 := List.count_eq_zero.2 (hw.2 ch (.head _)).1
      rw [hfirst] at ha
      refine ⟨hw.1, hafter hw, ?_, by rw [ha]; rfl⟩
      simpa using (hw.2 ch (.head _)).2
    · have hfirst : w.calls.count (.getStatus ch) = 0 := List.count_eq_zero.2 (hw.2 ch (.head _)).1
      rw [hfirst] at he
      exact ⟨⟨hw.1, hafter hw⟩, by rw [readable, he]; rfl⟩
  · have hissue {w : World HvLists HvCall} (hw : Unread xs w) :
        Unread xs (w.issue (.getAlarm ch)) :=
      hw.issue fun x hx => ⟨nofun, fun heq => hne x hx (HvCall.getAlarm.inj heq)⟩
    refine triple_call (fun w a hw ha => ?_) fun w e hw he => ?_
    · obtain ⟨hs, hu, halarm, hst⟩ := hw
      rw [List.count_eq_zero.2 halarm] at ha
      exact ⟨⟨hs, hissue hu⟩, by rw [readable, hst, ha]; rfl⟩
    · obtain ⟨hs, hu, halarm, hst⟩ := hw
      rw [List.count_eq_zero.2 halarm] at he
      exact ⟨⟨hs, hissue hu⟩, by rw [readable, he, Bool.and_eq_false_iff]; exact .inr rfl⟩

theorem triple_syncChannel (hxs : ch ∉ xs) (hch : ch ∉ pending) :
    Triple bus (Before ch pending xs) (attempt (HV.syncChannel ch) (HV.moveToBad ch))
      (fun r w => (Syncing pending w.state ∧ Unread xs w) ∧ r.isSome = readable bus ch)
      fun _ => False := by
  have hread : Triple bus (Before ch pending xs) (HV.syncChannel ch)
      (fun _ w => (Syncing pending w.state ∧ Unread xs w) ∧ readable bus ch = true)
      fun w => (Syncing (ch :: pending) w.state ∧ Unread xs w) ∧ readable bus ch = false := by
    refine triple_bind (triple_readStatusAlarm hxs) fun r => ?_
    obtain ⟨status, alarm⟩ := r
    dsimp only
    split
    · exact triple_modify fun w hw => ⟨⟨hw.1.1.moveToOn hch, hw.1.2⟩, hw.2⟩
    · exact triple_modify fun w hw => ⟨⟨hw.1.1.moveToOff hch, hw.1.2⟩, hw.2⟩
  refine triple_try (triple_map (hread.conseq (fun _ h => h) (fun _ w hw => ⟨hw.1, hw.2.symm⟩)
    fun _ h => h)) fun _ => triple_bind (triple_modify fun w hw => ?_) fun _ =>
      triple_pure fun w hw => hw
  exact ⟨⟨hw.1.1.moveToBad hch, hw.1.2⟩, hw.2.symm⟩

/-- The loop over a list of its own leaves no channel of it without a power state. -/
theorem triple_syncPowerState_copy : ∀ {xs kept : List Int}, (xs ++ kept).Nodup →
    Triple bus (fun w => Syncing (xs ++ kept) w.state ∧ Unread xs w) (HV.syncPowerState false xs)
      (fun _ w => Syncing kept w.state) fun _ => False
  | [], kept, _ => triple_pure fun w hw => hw.1
  | ch :: xs, kept, h => by
    obtain ⟨hch, hrest⟩ := List.nodup_cons.1 h
    unfold HV.syncPowerState
    refine triple_bind (triple_syncChannel (fun hx => hch (List.mem_append_left _ hx)) hch)
      fun r => ?_
    have hloop := triple_syncPowerState_copy hrest
    cases r with
    | some _ => exact hloop.conseq (fun w hw => hw.1) (fun _ _ h => h) fun _ h => h
    | none => exact hloop.conseq (fun w hw => hw.1) (fun _ _ h => h) fun _ h => h

/-- The loop over the ok list itself leaves the skipped channel without one. -/
theorem triple_syncPowerState_shared : ∀ {xs : List Int}, xs.Nodup →
    Triple bus (fun w => Syncing xs w.state ∧ Unread xs w) (HV.syncPowerState true xs)
      (fun _ w => Syncing (skippedAtStart bus xs) w.state) fun _ => False
  | [], _ => triple_pure fun w hw => hw.1
  | ch :: xs, h => by
    obtain ⟨hch, hrest⟩ := List.nodup_cons.1 h
    unfold HV.syncPowerState
    refine triple_bind (triple_syncChannel hch hch) fun r => ?_
    cases r with
    | some _ =>
      refine Triple.conseq (P := fun w => (Syncing xs w.state ∧ Unread xs w) ∧
        readable bus ch = true) ?_ (fun w hw => ⟨hw.1, hw.2.symm⟩) (fun _ _ h => h) fun _ h => h
      intro w hw
      rw [skippedAtStart, if_pos hw.2]
      exact triple_syncPowerState_shared hrest w hw.1
    | none =>
      refine Triple.conseq (P := fun w => (Syncing xs w.state ∧ Unread xs w) ∧
        ¬ readable bus ch = true) ?_ (fun w hw => ⟨hw.1, by rw [← hw.2]; exact Bool.false_ne_true⟩)
        (fun _ _ h => h) fun _ h => h
      intro w hw
      rw [skippedAtStart, if_neg hw.2]
      cases xs with
      | nil => exact hw.1.1
      | cons c xs =>
        have hperm : (xs ++ [c]).Nodup := List.nodup_append_comm.1 hrest
        have hmem (x : Int) : x ∈ c :: xs ↔ x ∈ xs ++ [c] := by
          rw [List.mem_append, List.mem_singleton, List.mem_cons, or_comm]
        exact triple_syncPowerState_copy hperm w
          ⟨hw.1.1.of_mem hmem, fun x hx => hw.1.2 x (.tail _ hx)⟩

/-! ## The constructor -/

/-- The scan before it asks the channels `xs`. -/
structure Asking (pending xs : List Int) (w : World HvLists HvCall) : Prop where
  state : w.state = {}
  unread : Unread pending w
  unasked : ∀ ch ∈ xs, .readAddress ch ∉ w.calls

theorem Asking.issue (h : Asking pending (ch :: xs) w) (hch : ch ∉ xs) :
    Asking pending xs (w.issue (.readAddress ch)) := by
  refine ⟨h.state, h.unread.issue fun _ _ => ⟨nofun, nofun⟩, fun x hx hmem => ?_⟩
  rcases List.mem_append.1 hmem with hmem | hmem
  · exact h.unasked x (.tail _ hx) hmem
  · exact hch (HvCall.readAddress.inj (List.mem_singleton.1 hmem) ▸ hx)

theorem triple_checkAddress_scan (hch : ch ∉ xs) :
    Triple bus (Asking pending (ch :: xs)) (HVModBus.checkAddress ch)
      (fun r w => Asking pending xs w ∧ (bus.answer (.readAddress ch) 0).isOk = r)
      fun _ => False := by
  have hfirst {w : World HvLists HvCall} (hw : Asking pending (ch :: xs) w) :
      w.calls.count (.readAddress ch) = 0 := List.count_eq_zero.2 (hw.unasked ch (.head _))
  refine triple_try (triple_map (triple_call (fun w a hw ha => ?_) fun w e hw he => ?_)) fun _ =>
    triple_pure fun w hw => hw
  · rw [hfirst hw] at ha
    exact ⟨hw.issue hch, by rw [ha]; rfl⟩
  · rw [hfirst hw] at he
    exact ⟨hw.issue hch, by rw [he]; rfl⟩

theorem triple_scan : ∀ {xs : List Int}, xs.Nodup →
    (∀ ch ∈ xs, 1 ≤ ch ∧ ch ≤ HVModBus.numChannels) →
    Triple bus (Asking pending xs)
      (mapEach xs fun ch => attempt (HV.addressAnswers ch) (pure ()))
      (fun r w => (w.state = {} ∧ Unread pending w) ∧
        r = xs.map fun ch => (ch, some (bus.answer (.readAddress ch) 0).isOk)) fun _ => False
  | [], _, _ => triple_pure fun w hw => ⟨⟨hw.state, hw.unread⟩, rfl⟩
  | ch :: xs, h, hb => by
    obtain ⟨hch, hrest⟩ := List.nodup_cons.1 h
    have hcheck : HV.addressAnswers ch = HVModBus.checkAddress ch :=
      if_pos (decide_eq_true (hb ch (.head _)))
    refine triple_bind (Q := fun r w => Asking pending xs w ∧
      some (bus.answer (.readAddress ch) 0).isOk = r) ?_ fun r => ?_
    · show Triple _ _ (attempt (HV.addressAnswers ch) (pure ())) _ _
      rw [hcheck]
      exact triple_try (triple_map ((triple_checkAddress_scan hch).conseq (fun _ h => h)
        (fun r w hw => ⟨hw.1, congrArg some hw.2⟩) fun _ h => h)) fun _ _ hw => False.elim hw
    · intro w hw
      obtain ⟨hask, rfl⟩ := hw
      refine triple_bind (triple_scan hrest fun x hx => hb x (.tail _ hx)) (fun r' =>
        triple_pure fun w hw => ?_) w hask
      exact ⟨hw.1, by rw [hw.2]; rfl⟩

theorem triple_checkChannel_scan (h : xs.Nodup)
    (hb : ∀ ch ∈ xs, 1 ≤ ch ∧ ch ≤ HVModBus.numChannels) :
    Triple bus (Asking pending xs) (HV.checkChannel xs)
      (fun r w => (w.state = {} ∧ Unread pending w) ∧
        r.1 = xs.filter (fun ch => (bus.answer (.readAddress ch) 0).isOk) ∧
        r.2 = xs.filter fun ch => !(bus.answer (.readAddress ch) 0).isOk) fun _ => False := by
  have hfilter (p : Int × Option Bool → Bool) (f : Int → Int × Option Bool)
      (hf : ∀ ch, (f ch).1 = ch) : ((xs.map f).filter p).map Prod.fst = xs.filter (p ∘ f) := by
    rw [List.filter_map, List.map_map]
    exact (List.map_congr_left fun ch _ => hf ch).trans (List.map_id' _)
  refine triple_bind (triple_scan h hb) fun r => triple_pure fun w hw => ⟨hw.1, ?_, ?_⟩
  · rw [hw.2]
    refine (hfilter _ _ fun _ => rfl).trans (List.filter_congr fun ch _ => ?_)
    simp
  · rw [hw.2]
    refine (hfilter _ _ fun _ => rfl).trans (List.filter_congr fun ch _ => ?_)
    simp

/-- Channels that are in none of the working lists can be marked fixed bad without a change to
them. -/
theorem foldl_moveToFixedBad_of_notMem : ∀ (chs : List Int) {s : HvLists}, s.Increasing →
    (∀ ch ∈ chs, ch ∉ s.okCh ∧ ch ∉ s.badCh ∧ ch ∉ s.onCh ∧ ch ∉ s.offCh) →
    ∃ fixedBad, chs.foldl HvLists.moveToFixedBad s = { s with fixedBad := fixedBad }
  | [], s, _, _ => ⟨s.fixedBad, rfl⟩
  | ch :: chs, s, hinc, h => by
    have hsame {l : List Int} (hl : l.SortedLT) (hch : ch ∉ l) : sorted (l.erase ch) = l := by
      rw [List.erase_of_not_mem hch]
      exact hl.sortedLE.pairwise.insertionSort_eq
    obtain ⟨hok, hbad, hon, hoff⟩ := h ch (.head _)
    have hmove : s.moveToFixedBad ch = { s with fixedBad := appendNew s.fixedBad ch } := by
      unfold HvLists.moveToFixedBad HvLists.withdraw
      rw [hsame hinc.ok hok, hsame hinc.bad hbad, hsame hinc.on hon, hsame hinc.off hoff]
    obtain ⟨fixedBad, heq⟩ := foldl_moveToFixedBad_of_notMem chs
      (s := { s with fixedBad := appendNew s.fixedBad ch }) ⟨hinc.ok, hinc.bad, hinc.on, hinc.off⟩
      fun x hx => h x (.tail _ hx)
    exact ⟨fixedBad, by rw [List.foldl_cons, hmove, heq]⟩

end Start

/-- At the start the ok channels are the ones that answered the scan, and all of them have a power
state but the skipped one. -/
theorem syncing_startLists (fixedBadChannels : List Int) (bus : HvBus) :
    Syncing (skippedAtStart bus (scannedOk fixedBadChannels bus))
      (startLists fixedBadChannels bus) := by
  set scan := (ChannelsArg.all.chList 7).filter (· ∉ fixedBadChannels) with hscan
  have hscanLT : scan.SortedLT :=
    (List.Pairwise.filter _ (List.sortedLT_iff_pairwise.1 (by decide))).sortedLT
  have hbounds : ∀ ch ∈ scan, 1 ≤ ch ∧ ch ≤ HVModBus.numChannels := fun ch hch =>
    (by decide : ∀ ch ∈ ChannelsArg.all.chList 7, 1 ≤ ch ∧ ch ≤ HVModBus.numChannels) ch
      (List.mem_filter.1 hch).1
  set ok := scannedOk fixedBadChannels bus with hok
  set bad := scan.filter fun ch => !(bus.answer (.readAddress ch) 0).isOk with hbad
  have hstart : Asking ok scan { state := {} } :=
    ⟨rfl, fun _ _ => ⟨List.not_mem_nil, List.not_mem_nil⟩, fun _ _ => List.not_mem_nil⟩
  have hcheck := @triple_checkChannel_scan bus _ _ hscanLT.nodup hbounds _ hstart
  have hokLT : ok.SortedLT := (hscanLT.pairwise.filter _).sortedLT
  have hinc : ({ okCh := ok, badCh := bad } : HvLists).Increasing :=
    ⟨hokLT, (hscanLT.pairwise.filter _).sortedLT, List.Pairwise.nil.sortedLT,
      List.Pairwise.nil.sortedLT⟩
  obtain ⟨fixedBad, hfold⟩ := foldl_moveToFixedBad_of_notMem fixedBadChannels hinc
    fun ch hch => by
      have hnot : ch ∉ scan := fun h => by simpa [hch] using (List.mem_filter.1 h).2
      exact ⟨fun h => hnot (List.mem_of_mem_filter h), fun h => hnot (List.mem_of_mem_filter h),
        List.not_mem_nil, List.not_mem_nil⟩
  have hsync : Syncing ok { okCh := ok, badCh := bad, fixedBad := fixedBad } := by
    refine ⟨⟨hinc.ok, hinc.bad, hinc.on, hinc.off⟩, fun ch hch => ⟨hch, fun h => ?_,
      List.not_mem_nil, List.not_mem_nil⟩, fun ch hch => ⟨nofun, nofun, fun h => hch h.1,
        fun h => (hch h).elim⟩⟩
    have h₁ := (List.mem_filter.1 hch).2
    have h₂ := (List.mem_filter.1 h).2
    simp_all
  unfold startLists HV.init
  rcases hr : HV.checkChannel scan bus { state := {} } with ⟨_ | ⟨ok', bad'⟩, w⟩ <;>
    rw [hr] at hcheck
  · exact hcheck.elim
  obtain ⟨⟨-, hunread⟩, rfl, rfl⟩ := hcheck
  rw [bind_of_ok hr]
  have hrun : (modify (fun _ => { okCh := ok, badCh := bad }) >>= fun _ =>
      forEach fixedBadChannels HV.moveToFixedBad : HvM Unit) bus w = (.ok (), { w with
        state := { okCh := ok, badCh := bad, fixedBad := fixedBad } }) :=
    (forEach_modify (fun ch s => HvLists.moveToFixedBad s ch) fixedBadChannels _).trans
      (congrArg (fun s => ((.ok (), ⟨s, w.calls⟩) :
        Except String Unit × World HvLists HvCall)) hfold)
  have hloop := @triple_syncPowerState_shared bus _ hokLT.nodup
    { w with state := { okCh := ok, badCh := bad, fixedBad := fixedBad } } ⟨hsync, hunread⟩
  show Syncing _ (((modify (fun _ => { okCh := ok, badCh := bad }) >>= fun _ =>
    forEach fixedBadChannels HV.moveToFixedBad) >>= fun _ =>
      HV.getOkChannels >>= HV.syncPowerState true : HvM Unit) bus w).2.state
  rw [bind_of_ok hrun]
  have hend : ∀ r : Except String Unit × World HvLists HvCall,
      Ends (fun _ w => Syncing (skippedAtStart bus ok) w.state) (fun _ => False) r →
        Syncing (skippedAtStart bus ok) r.2.state := by
    rintro ⟨_ | _, w⟩ h
    · exact h.elim
    · exact h
  exact hend _ hloop

/-- The lists of the constructor, and all that any moves make of them, are consistent exactly when
no channel is skipped: every channel that answers the scan, but the highest of them, answers the
reads of its power state as well. -/
theorem startLists_consistent_iff (fixedBadChannels : List Int) (bus : HvBus) :
    (∀ moves : List (HvMove × Int),
      (run HvLists.move (startLists fixedBadChannels bus) moves).Consistent) ↔
    ∀ ch ∈ scannedOk fixedBadChannels bus, ∀ ch' ∈ scannedOk fixedBadChannels bus, ch < ch' →
      readable bus ch := by
  have hsorted : (scannedOk fixedBadChannels bus).SortedLT :=
    ((List.Pairwise.filter _ (List.sortedLT_iff_pairwise.1 (by decide))).filter _).sortedLT
  rw [← skippedAtStart_eq_nil hsorted,
    ← (syncing_startLists fixedBadChannels bus).consistent_iff]
  constructor
  · intro h
    exact h []
  · intro h moves
    exact run_invariant (C := fun _ _ => True) (fun s m hs _ => hs.move m) h
      (meets_of_forall (fun _ _ => trivial) _)

/-- Channel 1 answers the scan and not the read of its status: channel 2, which answers everything,
is ok and neither on nor off. -/
theorem startLists_skipped :
    let s := startLists [] (silentOn (.getStatus 1))
    2 ∈ s.okCh ∧ 2 ∉ s.onCh ∧ 2 ∉ s.offCh ∧
      ¬ ∀ moves : List (HvMove × Int), (run HvLists.move s moves).Consistent := by
  have hok : 2 ∈ (startLists [] (silentOn (.getStatus 1))).okCh := by decide +kernel
  have hon : 2 ∉ (startLists [] (silentOn (.getStatus 1))).onCh := by decide +kernel
  have hoff : 2 ∉ (startLists [] (silentOn (.getStatus 1))).offCh := by decide +kernel
  refine ⟨hok, hon, hoff, fun h => ?_⟩
  rcases Xor.or ((h []).ok_powered 2 hok) with hc | hc
  · exact hon hc
  · exact hoff hc

end MultiDAQ.Client
