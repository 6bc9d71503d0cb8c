import MultiDAQ.Server.Verify.SessionCleanup

/-!
# What a session reports

The result of every client of a session, against what the calls were answered: a client is a success
only if it was enabled, not lost, and every step of its finalization succeeded; a client that is not
has an error, and one of these is missing.
-/

namespace MultiDAQ.Server

open MultiDAQ.Lib MultiDAQ.Lib.Interaction MultiDAQ.Lib.Recorder
open AcquisitionService (PyError RegisterValue bitAnd)

namespace AcquisitionSession

variable {α : Type} [DecidableEq α] {dev : Peers α}

theorem get?_initialResults (clients : List α) (client : α) :
    (initialResults clients).get? client = if client ∈ clients then some {} else none := by
  have hfold : ∀ (l : List α) (d : Dict α ClientResult),
      (l.foldl (fun d client => d.set client {}) d).get? client =
        if client ∈ l then some {} else d.get? client := by
    intro l
    induction l with
    | nil => intro d; rfl
    | cons c l ih =>
      intro d
      rw [List.foldl_cons, ih, Dict.get?_set]
      by_cases hl : client ∈ l <;> by_cases hc : client = c <;> simp [hl, hc]
  exact hfold clients .empty

theorem get?_foldl_modify {υ : Type} (f : α → υ → υ) (client : α) : ∀ {l : List α}, l.Nodup →
    ∀ d : Dict α υ, (l.foldl (fun d c => d.modify c (f c)) d).get? client =
      if client ∈ l then (d.get? client).map (f client) else d.get? client
  | [], _, d => rfl
  | c :: l, hnodup, d => by
    obtain ⟨hc, hl⟩ := List.nodup_cons.1 hnodup
    rw [List.foldl_cons, get?_foldl_modify f client hl, Dict.get?_modify]
    by_cases hclient : client = c
    · subst hclient
      simp [hc]
    · simp [hclient]

/-- What the result of a client says: `t₁` is the record up to the end of the wait, and `t₂` that of
the finalization. -/
structure Report (clients : List α) (reset : Bool) (lost : Dict α String) (client : α)
    (result : ClientResult) (t₁ t₂ : List (SessionExchange α)) : Prop where
  error : result.success = true ↔ result.error = none
  success : result.success = true → Enabled client t₁ ∧ lost.get? client = none ∧
    ∀ step ∈ finalSteps reset, Tried (step.Records client) true t₂
  failure : clients.Nodup → result.success = false → ¬ Enabled client t₁ ∨
    lost.get? client ≠ none ∨ ∃ step ∈ finalSteps reset, Tried (step.Records client) false t₂

/-- Every client has a result, and what the results say. The losses are read when the wait ends; where
no file could be opened there is no wait and no loss. -/
def Reported (clients : List α) (reset : Bool) (results : Dict α ClientResult)
    (t : List (SessionExchange α)) : Prop :=
  (∀ c, c ∈ results.keys ↔ c ∈ clients) ∧ ∃ t₁ t₂ lost, t = t₁ ++ t₂ ∧
    (t₂ = [] ∧ lost = .empty ∨ ∃ t₃, t₂ = ⟨.readLosses, .ok lost⟩ :: t₃) ∧
      ∀ client result, results.get? client = some result →
        Report clients reset lost client result t₁ t₂

theorem get?_startResults (started : Started α) (clients : List α) (client : α) :
    ((initialResults clients).mapVals (noteStart started)).get? client =
      if client ∈ clients then some (noteStart started client {}) else none := by
  rw [Dict.get?_mapVals, get?_initialResults]
  split
  · rfl
  · rfl

/-- A client whose file was not opened has an error. -/
theorem report_of_unopened {clients : List α} {started : Started α} {reset : Bool}
    {lost : Dict α String} {client : α} {t₁ t₂ : List (SessionExchange α)}
    (h : Launched clients started t₁) (hclient : client ∈ clients)
    (hopened : client ∉ started.opened) :
    Report clients reset lost client (noteStart started client {}) t₁ t₂ where
  error := by
    have herror := (h.covered client hclient).resolve_left hopened
    exact ⟨(fun hsuccess => by cases hsuccess), fun hnone => absurd hnone herror⟩
  success hsuccess := by cases hsuccess
  failure _ _ := by
    refine .inl fun hen => ?_
    obtain ⟨x, hx, henables⟩ := hen.enables
    exact hopened (h.enables client x hx henables)

/-- A session in which no file was opened. -/
theorem reported_of_unopened {clients : List α} {started : Started α} {reset : Bool}
    {t : List (SessionExchange α)} (h : Launched clients started t) (hopened : started.opened = []) :
    Reported clients reset ((initialResults clients).mapVals (noteStart started)) t := by
  refine ⟨fun c => ?_, t, [], .empty, (List.append_nil t).symm, .inl ⟨rfl, rfl⟩,
    fun c result hget => ?_⟩
  · rw [Dict.mem_keys, get?_startResults]
    split <;> simp_all
  · rw [get?_startResults] at hget
    split at hget
    · next hclient =>
      cases hget
      exact report_of_unopened h hclient (hopened ▸ List.not_mem_nil)
    · cases hget

/-- A client whose file was opened. -/
theorem report_of_ended {clients : List α} {started : Started α} {reset : Bool}
    {numericIds : Dict α (Option String)} {lost : Dict α String} {results : Dict α Bool}
    {client : α} {t₁ t₂ t₃ : List (SessionExchange α)} (h : Launched clients started t₁)
    (hended : Ended reset numericIds started.opened lost results t₃) (ht : t₃ <:+: t₂)
    (hopened : client ∈ started.opened) :
    Report clients reset lost client
      (noteEnd results lost client (noteStart started client {})) t₁ t₂ := by
  unfold noteEnd
  cases hlost : lost.get? client with
  | some plane =>
    exact {
      error := ⟨(fun hsuccess => by cases hsuccess), fun hnone => by cases hnone⟩
      success := fun hsuccess => by cases hsuccess
      failure := fun _ _ => .inr (.inl (by rw [hlost]; exact Option.some_ne_none plane)) }
  | none =>
    obtain ⟨hresult, hall⟩ | ⟨hresult, step, hstep, hfail⟩ :=
      (hended.alive client hopened hlost).verdict
    · simp only [hresult, Option.getD_some, Bool.true_and, if_true]
      refine ⟨Option.isNone_iff_eq_none, fun hsuccess => ?_, fun hclients hsuccess => ?_⟩
      · exact ⟨h.enabled client hopened (Option.isNone_iff_eq_none.1 hsuccess), hlost,
          fun step hstep => (hall step hstep).mono ht⟩
      · refine .inl fun hen => ?_
        have hnone : (noteStart started client {}).error = none := h.no_error hclients client hen
        dsimp only at hsuccess
        rw [hnone] at hsuccess
        cases hsuccess
    · simp only [hresult, Option.getD_some, Bool.false_and]
      exact {
        error := ⟨(fun hsuccess => by cases hsuccess), fun hnone => by cases hnone⟩
        success := fun hsuccess => by cases hsuccess
        failure := fun _ _ => .inr (.inr ⟨step, hstep, hfail.mono ht⟩) }

/-- A session that was finalized. -/
theorem reported_of_ended {clients : List α} {started : Started α} {reset : Bool}
    {numericIds : Dict α (Option String)} {lost : Dict α String} {results : Dict α Bool}
    {t₁ t₃ : List (SessionExchange α)} (h : Launched clients started t₁)
    (t₂ : List (SessionExchange α))
    (hended : Ended reset numericIds started.opened lost results t₃) :
    Reported clients reset (started.opened.foldl (fun d client =>
      d.modify client (noteEnd results lost client))
        ((initialResults clients).mapVals (noteStart started)))
      (t₁ ++ (⟨.readLosses, .ok lost⟩ :: (t₂ ++ t₃))) := by
  have hget : ∀ c, (started.opened.foldl (fun d client =>
      d.modify client (noteEnd results lost client))
        ((initialResults clients).mapVals (noteStart started))).get? c =
      if c ∈ clients then some (if c ∈ started.opened then
        noteEnd results lost c (noteStart started c {}) else noteStart started c {}) else none := by
    intro c
    rw [get?_foldl_modify _ _ h.nodup, get?_startResults]
    by_cases hc : c ∈ clients <;> by_cases ho : c ∈ started.opened <;> simp [hc, ho]
  refine ⟨fun c => ?_, t₁, _, lost, rfl, .inr ⟨_, rfl⟩, fun c result hresult => ?_⟩
  · rw [Dict.mem_keys, hget]
    by_cases hc : c ∈ clients <;> simp [hc]
  · rw [hget] at hresult
    split at hresult
    · next hclient =>
      cases hresult
      split
      · next hopened =>
        exact report_of_ended h hended
          (((List.suffix_append t₂ t₃).trans (List.suffix_cons _ _)).isInfix) hopened
      · next hopened => exact report_of_unopened h hclient hopened
    · cases hresult

theorem emits_reported (s : SessionParams α) (clients : List α) :
    Emits dev (runAcquisitionSession s clients) (Ending
      (Reported clients s.resetTriggerConfig) fun _ _ => True) := by
  unfold runAcquisitionSession
  split
  · next hempty =>
    have hnil := List.isEmpty_iff.1 hempty
    subst hnil
    exact emits_pure ⟨fun c => by simp [Dict.mem_keys, get?_initialResults], [], [], .empty, rfl,
      .inl ⟨rfl, rfl⟩, fun c result hget => by cases hget⟩
  refine emits_bind (inert_resolveNumericIds clients) (fun _ _ _ => trivial) fun numericIds t₀ h₀ => ?_
  refine emits_bind (only_note (C := Inert) trivial) (fun _ _ _ => trivial) fun _ t' h' => ?_
  have hstart := List.forall_mem_append.2 ⟨h₀, h'⟩
  refine emits_bind (emits_body s clients) (fun _ _ _ => trivial) fun result t h => ?_
  obtain ⟨started, _ | lost⟩ := result
  · refine emits_pure ?_
    rw [List.append_nil, ← List.append_assoc]
    exact reported_of_unopened (Launched.prepend h.1 hstart) h.2
  · obtain ⟨t₁, t₂, rfl, hlaunch, -⟩ := h
    refine emits_bind (emits_finalize s numericIds started.opened lost) (fun _ _ _ => trivial)
      fun results t₃ hended => emits_pure ?_
    have hreported := reported_of_ended (Launched.prepend hlaunch hstart) t₂ hended
    simp only [List.append_assoc, List.append_nil, List.cons_append] at hreported ⊢
    exact hreported

/-- What a session that returns reports, however its calls were answered. -/
theorem session_reported (dev : Peers α) (s : SessionParams α) (clients : List α) :
    Ending (Reported clients s.resetTriggerConfig) (fun _ _ => True)
      (outcome dev (runAcquisitionSession s clients))
      (record dev (runAcquisitionSession s clients)) :=
  Emits.run (emits_reported s clients)

end AcquisitionSession

end MultiDAQ.Server
