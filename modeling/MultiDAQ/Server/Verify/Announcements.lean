import MultiDAQ.Server.ClientLiveness

/-!
# When a client is marked announced

The planes of a client are looked at one after the other and before the lock of the announcement is
taken, so a loss may take the client off a plane in between; and the removal from every plane is
taken back in part by an admission that comes before it is finished. In a run in which neither
happens, every completion of the client is announced by one notification, and when no notification
is in progress the client is marked announced exactly when it is on all planes
(`announced_iff_complete`).
-/

namespace MultiDAQ.Server

open MultiDAQ.Lib

/-- Every completion is followed by the announcement of one plane before the next one. -/
inductive Paired : List LivenessEvent → Prop
  | nil : Paired []
  | snoc {history : List LivenessEvent} (h : Paired history) (plane : CommandPlane) :
      Paired (history ++ [.completed, .announced plane])

instance (P : CommandPlane → Prop) [DecidablePred P] : Decidable (∀ p, P p) :=
  decidable_of_iff (∀ p ∈ CommandPlane.all, P p)
    ⟨fun h p => h p (by cases p <;> decide), fun h p _ => h p⟩

namespace ManagerThread

/-- The notification in the thread has found the client on the plane `q`, and has not found it
missing on another. -/
def HasSeen (q : CommandPlane) : ManagerThread → Prop
  | .checking left missing => missing = false ∧ q ∉ left
  | .announcing => True
  | _ => False

instance (q : CommandPlane) : (t : ManagerThread) → Decidable (t.HasSeen q)
  | .checking _ _ => inferInstanceAs (Decidable (_ ∧ _))
  | .announcing => .isTrue trivial
  | .idle | .losing _ | .reported _ | .removing _ _ | .discarding _ | .adding => .isFalse fun h => h

/-- The thread will discard the mark of the client. -/
def Discards : ManagerThread → Prop
  | .removing _ _ | .discarding _ => True
  | _ => False

/-- The notification in the thread has not found the client missing. -/
def Notifies : ManagerThread → Prop
  | .checking _ missing => missing = false
  | .announcing => True
  | _ => False

/-- The removals of the thread are done. -/
def Removed : ManagerThread → Prop
  | .removing [] _ | .discarding _ => True
  | _ => False

/-- The last removal of a loss is the one from its own plane. -/
def RemovesLast (plane : CommandPlane) : ManagerThread → Prop
  | .removing left _ => left <:+ plane.removedWith
  | _ => True

end ManagerThread

namespace ClientLiveness

variable {s : ClientLiveness} {plane p q : CommandPlane} {t : ManagerThread}

/-- The condition of the next step of a thread. -/
def UndisturbedAt (s : ClientLiveness) (plane : CommandPlane) : ManagerThread → Prop
  | .removing (p :: _) _ => (s.complete = true → s.clientAnnounced = true) ∧
      ∀ q, s.onPlane q = true → (s.remove p).onPlane q = false → ∀ r, ¬ (s.thread r).HasSeen q
  | .adding => s.canAdd plane = true → s.complete = false → (s.add plane).complete = true →
      s.clientAnnounced = false
  | _ => True

/-- What a removal and an addition must not meet: a notification that has seen the client on a plane
it is taken off, a complete client that is not announced yet, and a client that is made complete
while it is still marked. -/
def Undisturbed (s : ClientLiveness) : LivenessAction → Prop
  | .next plane => s.UndisturbedAt plane (s.thread plane)
  | _ => True

instance (s : ClientLiveness) (plane : CommandPlane) :
    (t : ManagerThread) → Decidable (s.UndisturbedAt plane t)
  | .removing (_ :: _) _ => inferInstanceAs (Decidable (_ ∧ _))
  | .adding => inferInstanceAs (Decidable (_ → _ → _ → _))
  | .removing [] _ | .idle | .losing _ | .reported _ | .discarding _ | .checking _ _
  | .announcing => .isTrue trivial

instance (s : ClientLiveness) : (a : LivenessAction) → Decidable (Undisturbed s a)
  | .next plane => inferInstanceAs (Decidable (s.UndisturbedAt plane (s.thread plane)))
  | .join _ | .lose _ => .isTrue trivial

structure Inv (s : ClientLiveness) : Prop where
  /-- What a notification has seen is still there. -/
  seen : ∀ r q, (s.thread r).HasSeen q → s.onPlane q = true
  /-- A loss that is about to discard the mark has taken the client off its plane. -/
  removed : ∀ r, (s.thread r).Removed → s.onPlane r = false
  pending : ∀ r, (s.thread r).RemovesLast r
  notified : s.complete = true → s.clientAnnounced = false → ∃ r, (s.thread r).Notifies
  marked : s.complete = false → s.clientAnnounced = true → ∃ r, (s.thread r).Discards
  history : if s.complete = true ∧ s.clientAnnounced = false
    then ∃ h, Paired h ∧ s.history = h ++ [.completed] else Paired s.history

theorem complete_iff : s.complete = true ↔ ∀ p, s.onPlane p = true := by
  unfold complete CommandPlane.all
  simp only [List.all_cons, List.all_nil, Bool.and_true, Bool.and_eq_true]
  constructor
  · rintro ⟨hc, ha, hm⟩ p
    cases p with
    | control => exact hc
    | acquisition => exact ha
    | monitoring => exact hm
  · exact fun h => ⟨h _, h _, h _⟩

theorem complete_eq_false (h : s.onPlane p = false) : s.complete = false := by
  cases hc : s.complete with
  | false => rfl
  | true => exact nomatch h.symm.trans (complete_iff.1 hc p)

theorem inv_init : Inv {} where
  seen _ _ h := h.elim
  removed _ h := h.elim
  pending _ := trivial
  notified h := by cases h
  marked _ := nofun
  history := .nil

/-! ## A step that moves no client -/

@[simp] theorem goTo_thread_self : (s.goTo plane t).thread plane = t :=
  Function.update_self ..

theorem goTo_thread_of_ne (h : p ≠ plane) : (s.goTo plane t).thread p = s.thread p :=
  Function.update_of_ne h ..

/-- The thread of a plane goes on. -/
theorem Inv.goTo (hs : s.Inv) (hseen : ∀ q, t.HasSeen q → s.onPlane q = true)
    (hremoved : t.Removed → s.onPlane plane = false)
    (hpending : t.RemovesLast plane)
    (hnotifies : s.complete = true → s.clientAnnounced = false → (s.thread plane).Notifies →
      t.Notifies)
    (hdiscards : s.complete = false → s.clientAnnounced = true → (s.thread plane).Discards →
      t.Discards) : (s.goTo plane t).Inv := by
  have hthread {P : CommandPlane → ManagerThread → Prop} (hp : P plane t)
      (hall : ∀ r, r ≠ plane → P r (s.thread r)) (r : CommandPlane) :
      P r ((s.goTo plane t).thread r) := by
    by_cases hr : r = plane
    · rw [hr, goTo_thread_self]
      exact hp
    · rw [goTo_thread_of_ne hr]
      exact hall r hr
  have hexists {P : ManagerThread → Prop} (hp : P (s.thread plane) → P t)
      (h : ∃ r, P (s.thread r)) : ∃ r, P ((s.goTo plane t).thread r) := by
    obtain ⟨r, hr⟩ := h
    refine ⟨r, ?_⟩
    by_cases hrp : r = plane
    · rw [hrp, goTo_thread_self]
      exact hp (hrp ▸ hr)
    · rw [goTo_thread_of_ne hrp]
      exact hr
  exact {
    seen := hthread (P := fun _ u => ∀ q, u.HasSeen q → s.onPlane q = true) hseen
      fun r _ => hs.seen r
    removed := hthread (P := fun r u => u.Removed → s.onPlane r = false) hremoved
      fun r _ => hs.removed r
    pending := hthread hpending fun r _ => hs.pending r
    notified := fun hc ha => hexists (hnotifies hc ha) (hs.notified hc ha)
    marked := fun hc ha => hexists (hdiscards hc ha) (hs.marked hc ha)
    history := hs.history }

/-- A thread goes on to where it neither removes nor notifies. -/
theorem Inv.goTo_of_not (hs : s.Inv) (hseen : ∀ q, ¬ t.HasSeen q) (hremoved : ¬ t.Removed)
    (hpending : t.RemovesLast plane) (hnotifies : ¬ (s.thread plane).Notifies)
    (hdiscards : ¬ (s.thread plane).Discards) : (s.goTo plane t).Inv :=
  hs.goTo (fun q hq => (hseen q hq).elim) (fun h => (hremoved h).elim) hpending
    (fun _ _ h => (hnotifies h).elim) fun _ _ h => (hdiscards h).elim

theorem afterLoss_cases (readmits : Bool) :
    afterLoss readmits = .adding ∨ afterLoss readmits = .idle := by
  unfold afterLoss
  split
  · exact .inl rfl
  · exact .inr rfl

theorem Inv.checked (hs : s.Inv) {left : List CommandPlane} {missing : Bool}
    (hthread : s.thread plane = .checking (p :: left) missing) :
    (s.goTo plane (.checking left (missing || !s.onPlane p))).Inv := by
  refine hs.goTo (fun q hq => ?_) (fun h => h.elim) trivial (fun hc _ h => ?_) fun _ _ h => ?_
  · obtain ⟨hmissing, hleft⟩ := hq
    obtain ⟨hm, hp⟩ := Bool.or_eq_false_iff.1 hmissing
    by_cases hqp : q = p
    · rw [hqp]
      simpa using hp
    · refine hs.seen plane q ?_
      rw [hthread]
      exact ⟨hm, fun hmem => (List.mem_cons.1 hmem).elim hqp hleft⟩
  · rw [hthread] at h
    show (missing || !s.onPlane p) = false
    rw [show missing = false from h, complete_iff.1 hc p]
    rfl
  · rw [hthread] at h
    exact h.elim

theorem Inv.checkedAll (hs : s.Inv) {missing : Bool}
    (hthread : s.thread plane = .checking [] missing) :
    (s.goTo plane (if missing then .idle else .announcing)).Inv := by
  cases missing with
  | true =>
    refine hs.goTo_of_not (fun _ h => h) (fun h => h) trivial ?_ ?_
    · rw [hthread]
      exact nofun
    · rw [hthread]
      exact fun h => h
  | false =>
    refine hs.goTo (fun q _ => hs.seen plane q ?_) (fun h => h.elim) trivial (fun _ _ _ => trivial)
      fun _ _ h => ?_
    · rw [hthread]
      exact ⟨rfl, List.not_mem_nil⟩
    · rw [hthread] at h
      exact h.elim

/-! ## The steps that change what is kept of the client -/

theorem remove_le (q : CommandPlane) (h : (s.remove p).onPlane q = true) : s.onPlane q = true := by
  unfold remove at h
  dsimp only at h
  split at h
  · cases h
  · by_cases hq : q = p
    · rw [hq, Function.update_self] at h
      cases h
    · rwa [Function.update_of_ne hq] at h

theorem remove_self : (s.remove p).onPlane p = false := by
  unfold remove
  dsimp only
  split
  · rfl
  · exact Function.update_self ..

/-- A removal that meets no notification. -/
theorem Inv.removing (hs : s.Inv) {left : List CommandPlane} {readmits : Bool}
    (hthread : s.thread plane = .removing (p :: left) readmits)
    (hc : Undisturbed s (.next plane)) :
    ((s.remove p).goTo plane (.removing left readmits)).Inv := by
  replace hc : s.UndisturbedAt plane (s.thread plane) := hc
  rw [hthread] at hc
  obtain ⟨hannounced, hunseen⟩ := hc
  have hgone : (s.remove p).complete = false := complete_eq_false remove_self
  have hlast : (p :: left) <:+ plane.removedWith := by
    have h := hs.pending plane
    rwa [hthread] at h
  have hremove : (s.remove p).Inv := {
    seen := fun r q hq => by
      cases hp : (s.remove p).onPlane q with
      | true => rfl
      | false => exact absurd hq (hunseen q (hs.seen r q hq) hp r)
    removed := fun r hr => by
      cases hp : (s.remove p).onPlane r with
      | true => exact nomatch (hs.removed r hr).symm.trans (remove_le r hp)
      | false => rfl
    pending := hs.pending
    notified := fun hcomplete => nomatch hgone.symm.trans hcomplete
    marked := fun _ _ => ⟨plane, by
      show (s.thread plane).Discards
      rw [hthread]
      trivial⟩
    history := by
      rw [if_neg (by rw [hgone]; exact fun h => nomatch h.1)]
      have hh := hs.history
      rwa [if_neg] at hh
      rintro ⟨hcomplete, hnot⟩
      exact nomatch hnot.symm.trans (hannounced hcomplete) }
  refine hremove.goTo (fun q hq => hq.elim) (fun hr => ?_) ?_ (fun h => nomatch hgone.symm.trans h)
    fun _ _ _ => trivial
  · cases left with
    | nil =>
      have hp : plane = p := by
        cases plane <;> simp [CommandPlane.removedWith, List.suffix_cons_iff] at hlast <;>
          exact hlast.symm
      rw [hp]
      exact remove_self
    | cons _ _ => exact hr.elim
  · exact (List.suffix_cons p left).trans hlast

theorem Inv.discarded (hs : s.Inv) {readmits : Bool}
    (hthread : s.thread plane = .discarding readmits) :
    ((s.discard plane).goTo plane (afterLoss readmits)).Inv := by
  have hoff : s.onPlane plane = false := hs.removed plane (by rw [hthread]; trivial)
  have hgone : s.complete = false := complete_eq_false hoff
  have hhist : Paired s.history := by
    have hh := hs.history
    rwa [if_neg (by rw [hgone]; exact fun h => nomatch h.1)] at hh
  have hgone' : (s.discard plane).complete = false := hgone
  have hdiscard : (s.discard plane).Inv := {
    seen := hs.seen
    removed := hs.removed
    pending := hs.pending
    notified := fun hc => nomatch hgone'.symm.trans hc
    marked := fun _ h => nomatch h
    history := by
      rw [if_neg (by rw [hgone']; exact fun h => nomatch h.1)]
      exact hhist }
  have hgoTo {t : ManagerThread} (hseen : ∀ q, ¬ t.HasSeen q) (hremoved : ¬ t.Removed)
      (hpending : t.RemovesLast plane) : ((s.discard plane).goTo plane t).Inv :=
    hdiscard.goTo (fun q hq => (hseen q hq).elim) (fun h => (hremoved h).elim) hpending
      (fun hc => nomatch hgone'.symm.trans hc) fun _ h => nomatch h
  rcases afterLoss_cases readmits with h | h <;> rw [h] <;>
    exact hgoTo (fun _ h => h) (fun h => h) trivial

theorem le_add (q : CommandPlane) (h : s.onPlane q = true) : (s.add p).onPlane q = true := by
  show Function.update s.onPlane p true q = true
  by_cases hq : q = p
  · rw [hq, Function.update_self]
  · rw [Function.update_of_ne hq]
    exact h

theorem add_history : (s.add p).history =
    if (s.add p).complete && !s.complete then s.history ++ [.completed] else s.history := rfl

theorem add_of_ne (h : q ≠ p) : (s.add p).onPlane q = s.onPlane q :=
  Function.update_of_ne h ..

/-- An addition that completes the client finds it unmarked. -/
theorem Inv.added (hs : s.Inv) (hthread : s.thread plane = .adding)
    (hcan : s.canAdd plane = true) (hc : Undisturbed s (.next plane)) :
    ((s.add plane).goTo plane (.checking CommandPlane.all false)).Inv := by
  have hc : s.complete = false → (s.add plane).complete = true → s.clientAnnounced = false := by
    replace hc : s.UndisturbedAt plane (s.thread plane) := hc
    rw [hthread] at hc
    exact hc hcan
  have hgrow : s.complete = true → (s.add plane).complete = true := fun h =>
    complete_iff.2 fun q => le_add q (complete_iff.1 h q)
  have hother {P : ManagerThread → Prop} (hnot : ¬ P .adding) (h : ∃ r, P (s.thread r)) :
      ∃ r, P (((s.add plane).goTo plane (.checking CommandPlane.all false)).thread r) := by
    obtain ⟨r, hr⟩ := h
    refine ⟨r, ?_⟩
    rw [goTo_thread_of_ne]
    · exact hr
    · rintro rfl
      exact hnot (hthread ▸ hr)
  exact {
    seen := fun r q hq => by
      by_cases hr : r = plane
      · rw [hr, goTo_thread_self] at hq
        exact absurd (by cases q <;> decide) hq.2
      · rw [goTo_thread_of_ne hr] at hq
        exact le_add q (hs.seen r q hq)
    removed := fun r hrem => by
      by_cases hr : r = plane
      · rw [hr, goTo_thread_self] at hrem
        exact hrem.elim
      · rw [goTo_thread_of_ne hr] at hrem
        exact (add_of_ne hr).trans (hs.removed r hrem)
    pending := fun r => by
      by_cases hr : r = plane
      · rw [hr, goTo_thread_self]
        trivial
      · rw [goTo_thread_of_ne hr]
        exact hs.pending r
    notified := fun _ _ => ⟨plane, by rw [goTo_thread_self]; exact rfl⟩
    marked := fun hgone hmark => by
      refine hother (fun h => h) (hs.marked ?_ hmark)
      cases h : s.complete with
      | false => rfl
      | true => exact nomatch hgone.symm.trans (hgrow h)
    history := by
      show if (s.add plane).complete = true ∧ s.clientAnnounced = false
        then ∃ h, Paired h ∧ (s.add plane).history = h ++ [.completed]
        else Paired (s.add plane).history
      have hh := hs.history
      rw [add_history]
      cases hbefore : s.complete with
      | true =>
        rw [hgrow hbefore]
        rw [hbefore] at hh
        exact hh
      | false =>
        rw [if_neg (by rw [hbefore]; exact fun h => nomatch h.1)] at hh
        cases hafter : (s.add plane).complete with
        | true =>
          rw [if_pos ⟨rfl, hc hbefore hafter⟩]
          exact ⟨s.history, hh, rfl⟩
        | false =>
          rw [if_neg fun h => nomatch h.1]
          exact hh }

/-- The notification that announces the client finds it complete. -/
theorem Inv.announced (hs : s.Inv) (hthread : s.thread plane = .announcing) :
    ((s.announce plane).goTo plane .idle).Inv := by
  have hcomplete : s.complete = true := complete_iff.2 fun q =>
    hs.seen plane q (by rw [hthread]; trivial)
  cases hmark : s.clientAnnounced with
  | true =>
    rw [show s.announce plane = s from if_pos hmark]
    exact hs.goTo (fun _ h => h.elim) (fun h => h.elim) trivial
      (fun _ h => nomatch hmark.symm.trans h) fun h => nomatch hcomplete.symm.trans h
  | false =>
    obtain ⟨h, hpaired, hhist⟩ : ∃ h, Paired h ∧ s.history = h ++ [.completed] := by
      have hh := hs.history
      rwa [if_pos ⟨hcomplete, hmark⟩] at hh
    have hann : s.announce plane = { s with
        clientAnnounced := true, clientSeen := true, lossReported := fun _ => false
        history := s.history ++ [.announced plane] } := if_neg (by rw [hmark]; nofun)
    have hinv : (s.announce plane).Inv := by
      rw [hann]
      refine ⟨hs.seen, hs.removed, hs.pending, fun _ => nofun,
        fun hgone => (nomatch hcomplete.symm.trans hgone), ?_⟩
      rw [if_neg fun h => nomatch h.2]
      show Paired (s.history ++ [.announced plane])
      rw [hhist, List.append_assoc]
      exact .snoc hpaired plane
    refine hinv.goTo (fun _ h => h.elim) (fun h => h.elim) trivial (fun _ hnot => ?_)
      fun hgone => ?_
    · rw [hann] at hnot
      cases hnot
    · rw [hann] at hgone
      exact nomatch hcomplete.symm.trans hgone

/-! ## Runs -/

theorem Inv.next (hs : s.Inv) (hc : Undisturbed s (.next plane)) : (s.next plane).Inv := by
  unfold ClientLiveness.next
  split
  next => exact hs
  next readmits hthread =>
    have hreported : ({ s with
        lossReported := Function.update s.lossReported plane true } : ClientLiveness).Inv :=
      ⟨hs.seen, hs.removed, hs.pending, hs.notified, hs.marked, hs.history⟩
    refine hreported.goTo_of_not (fun _ h => h) (fun h => h) trivial ?_ ?_
    · rw [show _ = _ from hthread]
      exact fun h => h
    · rw [show _ = _ from hthread]
      exact fun h => h
  next readmits hthread =>
    have hnot : ¬ (s.thread plane).Notifies ∧ ¬ (s.thread plane).Discards := by
      rw [hthread]
      exact ⟨fun h => h, fun h => h⟩
    split
    · refine hs.goTo_of_not (fun _ h => h) (fun h => ?_) (List.suffix_refl _) hnot.1 hnot.2
      cases plane <;> exact h
    · rcases afterLoss_cases readmits with h | h <;> rw [h] <;>
        exact hs.goTo_of_not (fun _ h => h) (fun h => h) trivial hnot.1 hnot.2
  next readmits hthread =>
    refine hs.goTo (fun _ h => h.elim) (fun _ => hs.removed plane ?_) trivial (fun _ _ h => ?_)
      fun _ _ _ => trivial
    · rw [hthread]
      trivial
    · rw [hthread] at h
      exact h
  next p left readmits hthread => exact hs.removing hthread hc
  next readmits hthread => exact hs.discarded hthread
  next hthread =>
    split
    next hcan => exact hs.added hthread hcan hc
    next =>
      refine hs.goTo_of_not (fun _ h => h) (fun h => h) trivial ?_ ?_
      · rw [hthread]
        exact fun h => h
      · rw [hthread]
        exact fun h => h
  next missing hthread => exact hs.checkedAll hthread
  next p left missing hthread => exact hs.checked hthread
  next hthread => exact hs.announced hthread

theorem Inv.step (hs : s.Inv) (a : LivenessAction) (hc : Undisturbed s a) : (s.step a).Inv := by
  have hidle {plane : CommandPlane} {t : ManagerThread} (h : s.thread plane = .idle)
      (hseen : ∀ q, ¬ t.HasSeen q) (hremoved : ¬ t.Removed) (hpending : t.RemovesLast plane) :
      (s.goTo plane t).Inv := by
    refine hs.goTo_of_not hseen hremoved hpending ?_ ?_ <;> rw [h] <;> exact fun h => h
  cases a with
  | join plane =>
    unfold ClientLiveness.step
    dsimp only
    split
    next h =>
      split
      · exact hidle h (fun _ h => h) (fun h => h) trivial
      · exact hidle h (fun _ h => h) (fun h => h) trivial
    next => exact hs
  | lose plane =>
    unfold ClientLiveness.step
    dsimp only
    split
    next h => exact hidle h (fun _ h => h) (fun h => h) trivial
    next => exact hs
  | next plane => exact hs.next hc

/-- No notification is in progress. -/
def Quiescent (s : ClientLiveness) : Prop := ∀ p, s.thread p = .idle

/-- In an undisturbed run the client is marked announced exactly when it is on all planes, whenever
no notification is in progress, and every completion has been announced by one notification. -/
theorem announced_iff_complete (as : List LivenessAction)
    (h : Meets ClientLiveness.step Undisturbed {} as) :
    ∀ pre, pre <+: as → Quiescent (run ClientLiveness.step {} pre) →
      ((run ClientLiveness.step {} pre).clientAnnounced = true ↔
        ∀ p, (run ClientLiveness.step {} pre).onPlane p = true) ∧
      Paired (run ClientLiveness.step {} pre).history := by
  intro pre hpre hidle
  have hs : (run ClientLiveness.step {} pre).Inv :=
    run_invariant_along (I := Inv) (fun s a hs hc => hs.step a hc) inv_init h hpre
  generalize run ClientLiveness.step {} pre = s at hs hidle
  have hmarked : s.complete = true → s.clientAnnounced = true := by
    intro hc
    cases hmark : s.clientAnnounced with
    | true => rfl
    | false =>
      obtain ⟨r, hr⟩ := hs.notified hc hmark
      rw [hidle r] at hr
      exact hr.elim
  refine ⟨⟨fun hmark => complete_iff.1 ?_, fun hall => hmarked (complete_iff.2 hall)⟩, ?_⟩
  · cases hc : s.complete with
    | true => rfl
    | false =>
      obtain ⟨r, hr⟩ := hs.marked hc hmark
      rw [hidle r] at hr
      exact hr.elim
  · have hh := hs.history
    rwa [if_neg] at hh
    rintro ⟨hc, hmark⟩
    exact nomatch hmark.symm.trans (hmarked hc)

/-- The thread of a plane admits the client and looks at the three planes. -/
def admission (plane : CommandPlane) : List LivenessAction :=
  .join plane :: List.replicate 5 (.next plane)

/-- The admissions on the three planes one after the other. -/
theorem announced_after_admissions :
    Paired (run ClientLiveness.step {} (admission .control ++ admission .acquisition ++
      admission .monitoring ++ [.next .monitoring])).history := by
  have hidle : Quiescent (run ClientLiveness.step {} (admission .control ++ admission .acquisition ++
      admission .monitoring ++ [.next .monitoring])) := by
    intro p
    cases p <;> rfl
  exact (announced_iff_complete _ (by decide +kernel) _ (List.prefix_refl _) hidle).2

/-- The notification of the monitoring plane has found the client on all planes when the acquisition
plane is lost; then it marks the client announced. -/
theorem announced_while_lost :
    let s := run ClientLiveness.step {} (admission .control ++ admission .acquisition ++
      admission .monitoring ++ .lose .acquisition :: List.replicate 5 (.next .acquisition) ++
      [.next .monitoring])
    Quiescent s ∧ s.clientAnnounced = true ∧ s.onPlane .acquisition = false ∧
      ¬ (s.clientAnnounced = true ↔ ∀ p, s.onPlane p = true) := by
  refine ⟨fun p => by cases p <;> rfl, rfl, rfl, fun h => ?_⟩
  exact nomatch h.1 rfl .acquisition

end ClientLiveness

end MultiDAQ.Server
