import MultiDAQ.Server.SessionLosses
import MultiDAQ.Lib.Run

/-!
# A session without clients

A session whose acquiring clients are all lost does not go on waiting. The losses are looked at
where a client is lost, and where the acquiring clients are noted; both under one lock, so that one
of them sees the last loss. The stop event is set after the lock is left: until then the thread that
has seen the loss is about to set it.
-/

namespace MultiDAQ.Server.SessionLosses

open MultiDAQ.Lib

variable {s : SessionLosses} {reported : List ClientId}

/-! ## What has been reported -/

/-- The clients reported as lost since the session has noted its clients. The code does not keep
them. -/
def noteReported (s : SessionLosses) (reported : List ClientId) : LossAction → List ClientId
  | .registerClients _ => if s.phase = .idle then [] else reported
  | .onClientLost thread client plane =>
    if s.noticing thread ∨ plane = .monitoring then reported else client :: reported
  | _ => reported

def watch (x : SessionLosses × List ClientId) (a : LossAction) : SessionLosses × List ClientId :=
  (x.1.step a, x.1.noteReported x.2 a)

/-- The clients reported as lost at the end of a run. -/
def reportedAfter (as : List LossAction) : List ClientId := (run watch ({}, []) as).2

theorem run_watch_fst (as : List LossAction) (x : SessionLosses × List ClientId) :
    (run watch x as).1 = run step x.1 as := by
  induction as generalizing x with
  | nil => rfl
  | cons a as ih => exact ih (watch x a)

/-! ## The invariant -/

/-- Some clients acquire, and every one of them is noted as lost. -/
def AllLost (s : SessionLosses) : Prop :=
  s.acquiringClients ≠ [] ∧ ∀ client ∈ s.acquiringClients, (s.lostClients.get? client).isSome

/-- The stop is requested, or a thread is about to request it. -/
def Stopping (s : SessionLosses) : Prop :=
  s.stopRequested = true ∨ (∃ thread, s.noticing thread = true) ∨ s.phase = .published true

/-- Only the thread of the session leaves this state, and it requests the stop first. -/
theorem Stopping.of_not_published {phase : SessionRun} (h : Stopping s)
    (hne : s.phase ≠ .published true) : Stopping { s with phase } := by
  rcases h with hstop | hnoticing | hpublished
  · exact .inl hstop
  · exact .inr (.inl hnoticing)
  · exact absurd hpublished hne

theorem allAcquiringClientsLost_iff : s.allAcquiringClientsLost = true ↔ AllLost s := by
  unfold allAcquiringClientsLost AllLost Dict.contains
  simp

structure Inv (s : SessionLosses) (reported : List ClientId) : Prop where
  /-- Before the acquiring clients are noted there are none. -/
  before : s.phase = .idle ∨ s.phase = .starting → s.acquiringClients = []
  acquiring : s.acquiringClients ⊆ s.sessionClients
  /-- No report of a client of the session is dropped. -/
  noted : ∀ client ∈ reported, client ∈ s.sessionClients → (s.lostClients.get? client).isSome
  stopping : AllLost s → Stopping s

theorem inv_init : Inv {} [] where
  before _ := rfl
  acquiring := List.nil_subset _
  noted _ h := absurd h List.not_mem_nil
  stopping h := absurd rfl h.1

/-- A step that changes no set keeps the invariant, if it takes no stop away. -/
theorem Inv.of_eq {s' : SessionLosses} (h : Inv s reported)
    (hsession : s'.sessionClients = s.sessionClients)
    (hacquiring : s'.acquiringClients = s.acquiringClients)
    (hlost : s'.lostClients = s.lostClients)
    (hbefore : s'.phase = .idle ∨ s'.phase = .starting → s'.acquiringClients = [])
    (hstop : AllLost s → Stopping s → Stopping s') : Inv s' reported where
  before := hbefore
  acquiring := by rw [hacquiring, hsession]; exact h.acquiring
  noted := by rw [hsession, hlost]; exact h.noted
  stopping hall := by
    have hall' : AllLost s := by
      unfold AllLost at hall
      rw [hacquiring, hlost] at hall
      exact hall
    exact hstop hall' (h.stopping hall')

theorem Inv.publish (h : Inv s reported) {acquiring : List ClientId}
    (hsub : acquiring ⊆ s.sessionClients) : Inv (s.publish acquiring) reported where
  before hrun := by rcases hrun with hrun | hrun <;> cases hrun
  acquiring := hsub
  noted := h.noted
  stopping hall := .inr (.inr (congrArg SessionRun.published (allAcquiringClientsLost_iff.2 hall)))

/-- A report is noted, unless it is already; the thread that notes the last one is to request the
stop. -/
theorem Inv.onClientLost (h : Inv s reported) (thread : Nat) (client : ClientId)
    {plane : CommandPlane} (hplane : plane ≠ .monitoring) :
    Inv (s.onClientLost thread client plane) (client :: reported) := by
  unfold SessionLosses.onClientLost
  rw [if_neg hplane]
  split
  · next hout =>
    refine { h with noted := fun c hc hmem => ?_ }
    rcases List.mem_cons.1 hc with rfl | hc
    · exact absurd hmem hout
    · exact h.noted c hc hmem
  · split
    · next hlost =>
      refine { h with noted := fun c hc hmem => ?_ }
      rcases List.mem_cons.1 hc with rfl | hc
      · exact hlost
      · exact h.noted c hc hmem
    · refine ⟨h.before, h.acquiring, fun c hc hmem => ?_, fun hall => .inr (.inl ⟨thread, ?_⟩)⟩
      · show ((s.lostClients.set client plane).get? c).isSome
        rw [Dict.get?_set]
        split
        · rfl
        · next hne =>
          rcases List.mem_cons.1 hc with rfl | hc
          · exact absurd rfl hne
          · exact h.noted c hc hmem
      · show Function.update s.noticing thread _ thread = true
        rw [Function.update_self]
        exact allAcquiringClientsLost_iff.2 hall

theorem Inv.step (h : Inv s reported) (a : LossAction) :
    Inv (s.step a) (s.noteReported reported a) := by
  cases a with
  | beginSession =>
    dsimp only [SessionLosses.step, noteReported]
    split
    · next hidle =>
      -- between two sessions nobody acquires
      exact h.of_eq rfl rfl rfl h.before fun hall => absurd (h.before (.inl hidle)) hall.1
    · exact h
  | registerClients clients =>
    dsimp only [SessionLosses.step, noteReported]
    split
    · next hidle =>
      have hnone := h.before (.inl hidle)
      refine ⟨fun _ => hnone, ?_, fun c hc => absurd hc List.not_mem_nil, ?_⟩
      · show s.acquiringClients ⊆ clients
        rw [hnone]
        exact List.nil_subset _
      · intro hall
        exact absurd hnone hall.1
    · exact h
  | publish acquiring =>
    dsimp only [SessionLosses.step, noteReported]
    split
    · next hsub => exact h.publish hsub.2
    · exact h
  | giveUp =>
    dsimp only [SessionLosses.step, noteReported]
    split
    · next hrun =>
      have hnone := h.before (.inr hrun)
      exact h.of_eq rfl rfl rfl (fun _ => hnone) fun hall => absurd hnone hall.1
    · exact h
  | stopAtStart =>
    dsimp only [SessionLosses.step, noteReported]
    split
    · exact h.of_eq rfl rfl rfl (by rintro (hrun | hrun) <;> cases hrun) fun _ _ => .inl rfl
    · exact h
  | beginWait =>
    dsimp only [SessionLosses.step, noteReported]
    split
    · next hrun =>
      refine h.of_eq rfl rfl rfl ?_ fun _ hstop => ?_
      · dsimp only
        split
        · rintro (hrun | hrun) <;> cases hrun
        · rintro (hrun | hrun) <;> cases hrun
      · -- the wait begins when the stop for the losses at the start has been requested
        exact hstop.of_not_published (by rw [hrun]; nofun)
    · exact h
  | endWait timedOut =>
    dsimp only [SessionLosses.step, noteReported]
    split
    · next hrun =>
      refine h.of_eq rfl rfl rfl (by rintro (hrun | hrun) <;> cases hrun) fun _ hstop => ?_
      exact hstop.of_not_published (by rw [hrun.1]; nofun)
    · exact h
  | readLosses =>
    dsimp only [SessionLosses.step, noteReported]
    split
    · next hrun =>
      refine h.of_eq rfl rfl rfl (by rintro (hrun | hrun) <;> cases hrun) fun _ hstop => ?_
      exact hstop.of_not_published (by rw [hrun]; nofun)
    · exact h
  | leave =>
    dsimp only [SessionLosses.step, noteReported]
    split
    · exact ⟨fun _ => rfl, List.nil_subset _, fun c _ hmem => absurd hmem List.not_mem_nil,
        fun hall => absurd rfl hall.1⟩
    · exact h
  | onClientLost thread client plane =>
    dsimp only [SessionLosses.step, noteReported]
    split
    · next hbusy => rw [if_pos (.inl hbusy)]; exact h
    · next hfree =>
      by_cases hplane : plane = .monitoring
      · rw [if_pos (.inr hplane), SessionLosses.onClientLost, if_pos hplane]
        exact h
      · rw [if_neg (not_or.2 ⟨hfree, hplane⟩)]
        exact h.onClientLost thread client hplane
  | requestStop thread =>
    dsimp only [SessionLosses.step, noteReported]
    split
    · exact h.of_eq rfl rfl rfl h.before fun _ _ => .inl rfl
    · exact h
  | stop => exact h.of_eq rfl rfl rfl h.before fun _ _ => .inl rfl

/-! ## The session is woken -/

/-- Every acquiring client has been reported as lost. -/
def AllReported (s : SessionLosses) (reported : List ClientId) : Prop :=
  s.acquiringClients ≠ [] ∧ s.acquiringClients ⊆ reported

instance : Decidable (AllReported s reported) :=
  inferInstanceAs (Decidable (s.acquiringClients ≠ [] ∧ s.acquiringClients ⊆ reported))

theorem Inv.allLost (h : Inv s reported) (hall : AllReported s reported) : AllLost s :=
  ⟨hall.1, fun c hc => h.noted c (hall.2 hc) (h.acquiring hc)⟩

/-- A session whose acquiring clients have all been reported as lost is being stopped. If it waits,
and every thread has returned from `on_client_lost`, its stop is requested and its wait ends. -/
structure Woken (s : SessionLosses) (reported : List ClientId) : Prop where
  stopping : AllReported s reported → Stopping s
  wakes : AllReported s reported → s.phase = .waiting → (∀ thread, s.noticing thread = false) →
    s.stopRequested = true ∧ (s.step (.endWait false)).phase = .stopped

theorem Inv.woken (h : Inv s reported) : Woken s reported where
  stopping hall := h.stopping (h.allLost hall)
  wakes hall hwaiting hreturned := by
    have hstop : s.stopRequested = true := by
      rcases h.stopping (h.allLost hall) with hstop | ⟨thread, hstop⟩ | hstop
      · exact hstop
      · rw [hreturned thread] at hstop
        cases hstop
      · rw [hwaiting] at hstop
        cases hstop
    refine ⟨hstop, ?_⟩
    dsimp only [SessionLosses.step]
    rw [if_pos ⟨hwaiting, .inl hstop⟩]

theorem session_woken (as : List LossAction) : Woken (run step {} as) (reportedAfter as) := by
  have hinv : Inv (run watch ({}, []) as).1 (run watch ({}, []) as).2 := by
    have hstep (x : SessionLosses × List ClientId) (a : LossAction) (h : Inv x.1 x.2)
        (_ : True) : Inv (watch x a).1 (watch x a).2 := h.step a
    exact run_invariant hstep inv_init (meets_of_forall (fun _ _ => trivial) _)
  rw [run_watch_fst] at hinv
  exact hinv.woken

/-! ## Before the stop is requested -/

/-- One client is lost while it is being started, and then noted as acquiring. -/
def lossAtStart : List LossAction :=
  [.beginSession, .registerClients [[1]], .onClientLost 0 [1] .acquisition, .publish [[1]]]

/-- The stop event is set a step after the loss has been noticed. -/
theorem stop_not_requested :
    ¬(AllReported (run step {} lossAtStart) (reportedAfter lossAtStart) →
      (run step {} lossAtStart).stopRequested = true) := by
  decide

end MultiDAQ.Server.SessionLosses
