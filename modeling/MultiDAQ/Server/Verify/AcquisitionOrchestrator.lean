import MultiDAQ.Server.Verify.HvOverride
import MultiDAQ.Server.AcquisitionOrchestrator

/-!
# The saved values go back once

Every exit of the preparation and of the session gives the saved values of a client back, and none
does so twice: what was restored, and what is still held, are at every step the values that the
overrides of the client saved (`Owes`). A client is overridden once at most. At the end nothing is
held, unless the restore of another client raised, which ends the loop over the clients (`Final`). The
saved values of an override name the channels that it changed, with what they held
(`saved_of_changed`, `changed_of_saved`), less the ones that have become bad.
-/

namespace MultiDAQ.Server

open MultiDAQ.Lib MultiDAQ.Lib.Interaction MultiDAQ.Client

namespace AcquisitionOrchestrator

variable {α : Type} [DecidableEq α]

/-! ## Overrides and restores -/

/-- An override command that was sent. -/
structure Override where
  acqInfo : Dict Int HV.ChannelConfig
  exchange : HvExchange

namespace Override

/-- The values that `_prepare_and_start` saves of it. -/
def saved (o : Override) : Option (Dict Int SetPoints) :=
  (o.exchange.outcome o.acqInfo).bind fun outcome =>
    if outcome.previous.entries ≠ [] then some outcome.previous else none

/-- The client after the override. -/
def after (o : Override) : World HvLists HvCall := o.exchange.after o.acqInfo

end Override

/-- The client that a call overrides or restores. -/
def OrchCall.target? : OrchCall α → Option α
  | .applyHvOverride client _ | .restoreHvOverride client _ => some client
  | _ => none

section Histories

variable (services : Services α) (x : α)

/-- What the `n`-th issue of a call adds to the overrides of the client. -/
def overrideOf : OrchCall α → Nat → List Override
  | .applyHvOverride client acqInfo, n =>
    if client = x then
      match services.answer (.applyHvOverride client acqInfo) n with
      | .ok exchange => [{ acqInfo := acqInfo, exchange := exchange }]
      | .error _ => []
    else []
  | _, _ => []

/-- The overrides of the client. -/
def overridesOf (calls : List (OrchCall α)) : List Override :=
  accumulate (fun c n overrides => overrides ++ overrideOf services x c n) [] calls

/-- The values with which a call restores the client. -/
def restoreOf : OrchCall α → List (Dict Int SetPoints)
  | .restoreHvOverride client previous => if client = x then [previous] else []
  | _ => []

/-- The values with which the client was restored. -/
def restoresOf (calls : List (OrchCall α)) : List (Dict Int SetPoints) := calls.flatMap (restoreOf x)

/-- The client, if the `n`-th issue of the call is a restore that raises. -/
def raisedRestoreOf : OrchCall α → Nat → List α
  | .restoreHvOverride client previous, n =>
    match services.answer (.restoreHvOverride client previous) n with
    | .ok _ => []
    | .error _ => [client]
  | _, _ => []

/-- The clients whose restore raised. -/
def raisedRestores (calls : List (OrchCall α)) : List α :=
  accumulate (fun c n clients => clients ++ raisedRestoreOf services c n) [] calls

end Histories

variable {services : Services α} {x : α} {calls : List (OrchCall α)}

@[simp] theorem overridesOf_append_single {c : OrchCall α} :
    overridesOf services x (calls ++ [c]) =
      overridesOf services x calls ++ overrideOf services x c (calls.count c) :=
  accumulate_append_single ..

@[simp] theorem restoresOf_append_single {c : OrchCall α} :
    restoresOf x (calls ++ [c]) = restoresOf x calls ++ restoreOf x c := by
  simp [restoresOf]

@[simp] theorem raisedRestores_append_single {c : OrchCall α} :
    raisedRestores services (calls ++ [c]) =
      raisedRestores services calls ++ raisedRestoreOf services c (calls.count c) :=
  accumulate_append_single ..

theorem overrideOf_other {c : OrchCall α} {n : Nat} (h : OrchCall.target? c ≠ some x) :
    overrideOf services x c n = [] := by
  unfold overrideOf
  split
  · exact if_neg fun heq => h (congrArg some heq)
  · rfl

theorem restoreOf_other {c : OrchCall α} (h : OrchCall.target? c ≠ some x) : restoreOf x c = [] := by
  unfold restoreOf
  split
  · exact if_neg fun heq => h (congrArg some heq)
  · rfl

/-! ## The account of one client -/

/-- The saved values of the overrides of `x` are those it was restored with, and `held`. -/
structure Owes (services : Services α) (x : α) (k : Nat) (held : List (Dict Int SetPoints))
    (w : World (HvPrevious α) (OrchCall α)) : Prop where
  balance : restoresOf x w.calls ++ held = (overridesOf services x w.calls).filterMap Override.saved
  overrides : (overridesOf services x w.calls).length ≤ k

/-- The values still held are those in `hv_previous`. -/
def Accounted (services : Services α) (x : α) (k : Nat) (w : World (HvPrevious α) (OrchCall α)) :
    Prop :=
  Owes services x k (w.state.get? x).toList w

variable {k : Nat} {held : List (Dict Int SetPoints)} {w : World (HvPrevious α) (OrchCall α)}

theorem Owes.mono (h : Owes services x 0 held w) : Owes services x 1 held w :=
  ⟨h.balance, h.overrides.trans (Nat.zero_le 1)⟩

theorem Owes.issue {c : OrchCall α} (h : Owes services x k held w)
    (hc : OrchCall.target? c ≠ some x) : Owes services x k held (w.issue c) := by
  refine ⟨?_, ?_⟩
  · simpa [overrideOf_other hc, restoreOf_other hc] using h.balance
  · simpa [overrideOf_other hc] using h.overrides

theorem Accounted.issue {c : OrchCall α} (h : Accounted services x k w)
    (hc : OrchCall.target? c ≠ some x) : Accounted services x k (w.issue c) :=
  Owes.issue h hc

/-- The restore of another client than `x` has raised. -/
def Lost (services : Services α) (x : α) (w : World (HvPrevious α) (OrchCall α)) : Prop :=
  ∃ y ∈ raisedRestores services w.calls, y ≠ x

theorem Lost.issue {c : OrchCall α} (h : Lost services x w) : Lost services x (w.issue c) := by
  obtain ⟨y, hy, hyx⟩ := h
  refine ⟨y, ?_, hyx⟩
  rw [World.issue_calls, raisedRestores_append_single]
  exact List.mem_append_left _ hy

/-- The restore of a client raises. -/
theorem mem_raisedRestores {y : α} {previous : Dict Int SetPoints} {e : String}
    (h : services.answer (.restoreHvOverride y previous)
      (calls.count (.restoreHvOverride y previous)) = .error e) :
    y ∈ raisedRestores services (calls ++ [.restoreHvOverride y previous]) := by
  rw [raisedRestores_append_single]
  refine List.mem_append_right _ ?_
  unfold raisedRestoreOf
  dsimp only
  rw [h]
  exact List.mem_singleton_self y

/-- A call that concerns no override of `x`. -/
theorem keeps_service {c : OrchCall α} (hc : OrchCall.target? c ≠ some x) :
    Keeps services (Accounted services x k) (call c) :=
  keeps_call fun _ hw => hw.issue hc

/-! ## The restore -/

/-- The restore of another client. -/
theorem restoreClient_other {y : α} (hyx : y ≠ x) (held : Option (Dict Int SetPoints)) :
    Triple services (fun w => Accounted services x k w ∧ w.state.get? x = held) (restoreClient y)
      (fun _ w => Accounted services x k w ∧ w.state.get? x = held)
      fun w => Accounted services x k w ∧ Lost services x w := by
  have hissue (previous : Dict Int SetPoints) :
      OrchCall.target? (.restoreHvOverride y previous) ≠ some x :=
    fun heq => hyx (Option.some.inj heq)
  refine triple_bind (Q := fun _ w => Accounted services x k w ∧ w.state.get? x = held)
    (triple_read fun w hw => hw) fun previous? => ?_
  cases previous? with
  | none => exact triple_pure fun w hw => hw
  | some previous =>
    refine triple_bind (Q := fun _ w => Accounted services x k w ∧ w.state.get? x = held)
      (triple_modify fun w hw => ?_) fun _ => triple_bind (triple_call
        (Q := fun _ w => Accounted services x k w ∧ w.state.get? x = held)
          (fun w _ hw _ => ⟨hw.1.issue (hissue previous), hw.2⟩) fun w e hw hanswer => ?_)
            fun _ => triple_pure fun w hw => hw
    · have hget : (w.state.erase y).get? x = w.state.get? x := by
        rw [Dict.get?_erase, if_neg hyx.symm]
      refine ⟨?_, hget.trans hw.2⟩
      unfold Accounted
      rw [World.update_state, hget]
      exact ⟨hw.1.balance, hw.1.overrides⟩
    · exact ⟨hw.1.issue (hissue previous), y, mem_raisedRestores hanswer, hyx⟩

/-- The restore of the client itself, whether it raises or not. -/
theorem restoreClient_self : Triple services (Accounted services x k) (restoreClient x)
    (fun _ w => Accounted services x k w ∧ w.state.get? x = none)
    fun w => Accounted services x k w ∧ w.state.get? x = none := by
  refine triple_bind (triple_read (Q := fun previous? w => Accounted services x k w ∧
    w.state.get? x = previous?) fun w hw => ⟨hw, rfl⟩) fun previous? => ?_
  cases previous? with
  | none => exact triple_pure fun w hw => hw
  | some previous =>
    have hissue (w : World (HvPrevious α) (OrchCall α))
        (hw : Owes services x k [previous] w ∧ w.state.get? x = none) :
        Accounted services x k (w.issue (.restoreHvOverride x previous)) ∧
          (w.issue (.restoreHvOverride x previous)).state.get? x = none := by
      obtain ⟨⟨hbalance, hover⟩, hget⟩ := hw
      refine ⟨⟨?_, ?_⟩, hget⟩
      · rw [World.issue_state, hget]
        simpa [overrideOf, restoreOf] using hbalance
      · simpa [overrideOf] using hover
    refine triple_bind (Q := fun _ w => Owes services x k [previous] w ∧ w.state.get? x = none)
      (triple_modify fun w hw => ?_) fun _ => triple_bind
        (Q := fun _ w => Accounted services x k w ∧ w.state.get? x = none)
          (triple_call (fun w _ hw _ => hissue w hw) fun w _ hw _ => hissue w hw)
            fun _ => triple_pure fun w hw => hw
    obtain ⟨⟨hbalance, hover⟩, hget⟩ := hw
    rw [hget] at hbalance
    exact ⟨⟨hbalance, hover⟩, by rw [World.update_state, Dict.get?_erase, if_pos rfl]⟩

/-- `_restore_hv_overrides` leaves nothing of the clients that it restores, unless the restore of
another client raises. -/
theorem triple_restoreHvOverrides (among : α → Bool) :
    Triple services (Accounted services x k) (restoreHvOverrides among)
      (fun _ w => Accounted services x k w ∧ (among x = true → w.state.get? x = none))
      fun w => Accounted services x k w ∧
        (among x = true → w.state.get? x = none ∨ Lost services x w) := by
  have hlost : ∀ w, Accounted services x k w ∧ Lost services x w → Accounted services x k w ∧
      (among x = true → w.state.get? x = none ∨ Lost services x w) :=
    fun _ hw => ⟨hw.1, fun _ => .inr hw.2⟩
  refine triple_bind (triple_read (Q := fun clients w => Accounted services x k w ∧
    clients = w.state.keys.filter among) fun w hw => ⟨hw, rfl⟩) fun clients w hw => ?_
  obtain ⟨hacc, rfl⟩ := hw
  by_cases hmem : x ∈ w.state.keys.filter among
  · have hnodup : (w.state.keys.filter among).Nodup := w.state.nodup.filter _
    refine triple_bind (triple_mapEach_turn hmem hnodup
      (restoreClient_self.imp_error fun _ hw => ⟨hw.1, fun _ => .inl hw.2⟩) fun y _ hyx =>
        ⟨fun w hw => ?_, fun _ => (restoreClient_other hyx none).imp_error hlost⟩)
          (fun _ => triple_pure fun w hw => ?_) w hacc
    · exact (restoreClient_other hyx (w.state.get? x) w ⟨hw, rfl⟩).imp (fun _ _ h => h.1) hlost
    · obtain ⟨⟨-, -, hdone⟩, -⟩ := hw
      exact ⟨hdone.1, fun _ => hdone.2⟩
  · refine triple_bind (triple_mapEach (I := fun v => Accounted services x k v ∧
      v.state.get? x = w.state.get? x) fun y hy => (restoreClient_other
        (fun heq : y = x => hmem (heq ▸ hy)) (w.state.get? x)).imp_error hlost)
          (fun _ => triple_pure fun v hv => ?_) w ⟨hacc, rfl⟩
    refine ⟨hv.1.1, fun hamong => hv.1.2.trans ?_⟩
    by_contra hget
    exact hmem (List.mem_filter.2 ⟨Dict.lookup_isSome.1 (Option.isSome_iff_ne_none.2 hget), hamong⟩)

theorem keeps_restoreHvOverrides (among : α → Bool) :
    Keeps services (Accounted services x k) (restoreHvOverrides among) :=
  (triple_restoreHvOverrides among).imp_result (fun _ _ hw => hw.1) fun _ hw => hw.1

/-- Nothing is held any more. -/
def Settled (services : Services α) (x : α) (k : Nat) (w : World (HvPrevious α) (OrchCall α)) :
    Prop :=
  Accounted services x k w ∧ w.state.get? x = none

theorem Settled.owes (h : Settled services x k w) : Owes services x k [] w := by
  have hacc := h.1
  unfold Accounted at hacc
  rwa [h.2] at hacc

/-- At the end the values still held are those of no client, or the restore of another one has
raised. -/
def Final (services : Services α) (x : α) (w : World (HvPrevious α) (OrchCall α)) : Prop :=
  ∃ held, Owes services x 1 held w ∧ (held = [] ∨ Lost services x w)

theorem Owes.final (h : Owes services x 1 [] w) : Final services x w := ⟨[], h, .inl rfl⟩

theorem keeps_final {c : OrchCall α} (hc : OrchCall.target? c ≠ some x) :
    Keeps services (Final services x) (call c) :=
  keeps_call fun _ ⟨held, howes, hlost⟩ => ⟨held, howes.issue hc, hlost.imp_right Lost.issue⟩

/-- What is restored at last is all that was saved, unless the restore of another client raises. -/
theorem settle_restoreHvOverrides :
    Triple services (Accounted services x 1) (restoreHvOverrides fun _ => true)
      (fun _ => Settled services x 1)
      fun w => Accounted services x 1 w ∧ Final services x w := by
  refine (triple_restoreHvOverrides fun _ => true).imp_result (fun _ _ hw => ⟨hw.1, hw.2 rfl⟩)
    fun w hw => ⟨hw.1, _, hw.1, (hw.2 rfl).imp_left fun hget => ?_⟩
  rw [hget]
  rfl

/-- The last restore is tried, and what it raises is only logged. -/
theorem final_restoreHvOverrides :
    Triple services (Accounted services x 1)
      (tryExcept (restoreHvOverrides fun _ => true) fun _ => pure [])
      (fun _ => Final services x) fun _ => False :=
  triple_try (settle_restoreHvOverrides.imp_result (fun _ _ hw => hw.owes.final)
    fun _ hw => hw.2) fun _ => triple_pure fun _ hw => hw

/-! ## The steps -/

theorem keeps_disableStep (clients : List α) :
    Keeps services (Accounted services x k) (disableStep clients) :=
  keeps_mapEach_bind (fun _ _ => keeps_service nofun) fun _ _ => keeps_pure _

theorem keeps_selectionStep (mode : Option AcquisitionMode) (active : List α) :
    Keeps services (Accounted services x k) (selectionStep mode active) := by
  have hother {c : OrchCall α} (hc : OrchCall.target? c = none) : OrchCall.target? c ≠ some x := by
    rw [hc]
    exact (Option.some_ne_none x).symm
  unfold selectionStep
  split
  · exact keeps_map (keeps_mapEach fun _ _ => keeps_map (keeps_service (hother rfl)))
  · split
    · exact keeps_pure _
    · exact keeps_bind (keeps_service (hother rfl)) fun _ => keeps_pure _

theorem keeps_calibrationStep (mode : Option AcquisitionMode) (channels : Dict α (List Int)) :
    Keeps services (Accounted services x k) (calibrationStep mode channels) := by
  unfold calibrationStep
  split
  · exact keeps_map (keeps_mapEach fun _ _ => keeps_bind (keeps_service nofun) fun _ =>
      keeps_pure _)
  · exact keeps_pure _

/-- What follows once the values are saved. -/
theorem keeps_leave (client : α) (left : List Int) : Keeps services (Accounted services x k)
    (if left = [] then do
      let _ ← restoreHvOverrides (· = client)
      pure none
    else pure (some left) : OrchM α (Option (List Int))) := by
  split
  · exact keeps_bind (keeps_restoreHvOverrides _) fun _ => keeps_pure none
  · exact keeps_pure _

/-- The override of another client. -/
theorem applyOverride_other {y : α} (hyx : y ≠ x) (channels : List Int)
    (hvOverride : Dict Int HV.ChannelConfig) :
    Keeps services (Accounted services x k) (applyOverride y channels hvOverride) := by
  have htarget : OrchCall.target? (.applyHvOverride y hvOverride) ≠ some x :=
    fun heq => hyx (Option.some.inj heq)
  refine keeps_bind (keeps_service htarget) fun (exchange : HvExchange) => ?_
  dsimp only
  split
  · exact keeps_pure none
  · split
    · refine keeps_bind (keeps_modify fun w hw => ?_) fun _ => keeps_leave y _
      unfold Accounted
      rw [World.update_state, Dict.get?_set, if_neg hyx.symm]
      exact ⟨hw.balance, hw.overrides⟩
    · exact keeps_leave y _

/-- The values that an override saves. -/
def savedOf (hvOverride : Dict Int HV.ChannelConfig) (exchange : HvExchange) :
    List (Dict Int SetPoints) :=
  (Override.saved { acqInfo := hvOverride, exchange := exchange }).toList

section Saved

variable {hvOverride : Dict Int HV.ChannelConfig} {exchange : HvExchange}

theorem savedOf_of_none (h : exchange.outcome hvOverride = none) :
    savedOf hvOverride exchange = [] := by
  unfold savedOf Override.saved
  rw [h]
  rfl

theorem savedOf_of_some {outcome : HvOutcome} (h : exchange.outcome hvOverride = some outcome) :
    savedOf hvOverride exchange =
      if outcome.previous.entries ≠ [] then [outcome.previous] else [] := by
  unfold savedOf Override.saved
  rw [h, Option.bind_some]
  split <;> rfl

end Saved

theorem filterMap_single {β γ : Type} (f : β → Option γ) (b : β) :
    [b].filterMap f = (f b).toList := by
  cases h : f b <;> simp [h]

theorem triple_sendOverride (hvOverride : Dict Int HV.ChannelConfig) :
    Triple services (Accounted services x 0) (call (OrchCall.applyHvOverride x hvOverride))
      (fun (exchange : HvExchange) w => Owes services x 1 (savedOf hvOverride exchange) w ∧
        w.state.get? x = none) (Accounted services x 1) := by
  have hstart : ∀ w, Accounted services x 0 w → overridesOf services x w.calls = [] ∧
      restoresOf x w.calls = [] ∧ w.state.get? x = none := by
    intro w hw
    have hnone := List.length_eq_zero_iff.1 (Nat.le_zero.1 hw.overrides)
    have hbalance := hw.balance
    rw [hnone, List.filterMap_nil, List.append_eq_nil_iff] at hbalance
    exact ⟨hnone, hbalance.1, Option.toList_eq_nil_iff.1 hbalance.2⟩
  refine triple_call (fun w exchange hw hanswer => ?_) fun w e hw hanswer => ?_
  · obtain ⟨hover, hrest, hget⟩ := hstart w hw
    have hfirst : overridesOf services x (w.calls ++ [.applyHvOverride x hvOverride]) =
        [{ acqInfo := hvOverride, exchange := exchange }] := by
      simp [overrideOf, hover, hanswer]
    refine ⟨⟨?_, hfirst ▸ Nat.le_refl 1⟩, hget⟩
    rw [World.issue_calls, hfirst, restoresOf_append_single, hrest]
    exact (filterMap_single Override.saved _).symm
  · obtain ⟨hover, hrest, hget⟩ := hstart w hw
    unfold Accounted
    rw [World.issue_state, hget]
    exact ⟨by simp [overrideOf, restoreOf, hover, hrest, hanswer],
      by simp [overrideOf, hover, hanswer]⟩

/-- The override of the client itself. -/
theorem applyOverride_self (channels : List Int) (hvOverride : Dict Int HV.ChannelConfig) :
    Triple services (Accounted services x 0) (applyOverride x channels hvOverride)
      (fun _ => Accounted services x 1) (Accounted services x 1) := by
  refine triple_bind (triple_sendOverride hvOverride) fun (exchange : HvExchange) => ?_
  cases houtcome : exchange.outcome hvOverride with
  | none =>
    rw [savedOf_of_none houtcome]
    refine triple_pure fun w hw => ?_
    unfold Accounted
    rw [hw.2]
    exact hw.1
  | some outcome =>
    rw [savedOf_of_some houtcome]
    dsimp only
    split
    · refine triple_bind (Q := fun _ => Accounted services x 1) (triple_modify fun w hw => ?_)
        fun _ => keeps_leave x _
      unfold Accounted
      rw [World.update_state, Dict.get?_set, if_pos rfl]
      exact ⟨hw.1.balance, hw.1.overrides⟩
    · refine (keeps_leave x _).conseq (fun w hw => ?_) (fun _ _ hw => hw) fun _ hw => hw
      unfold Accounted
      rw [hw.2]
      exact hw.1

/-- One client of step 4, another one. -/
theorem overrideClient_other {y : α} (hyx : y ≠ x) (channels : List Int) :
    Keeps services (Accounted services x k) (overrideClient channels y) := by
  refine keeps_bind (keeps_service nofun) fun (resolved : ResolvedOverride) => ?_
  dsimp only
  split
  · exact keeps_pure none
  · split
    · exact keeps_pure none
    · split
      · exact keeps_pure _
      · split
        · exact keeps_pure _
        · exact applyOverride_other hyx _ _

theorem pure_overridden (left? : Option (List Int)) :
    Triple services (Accounted services x 0) (pure left? : OrchM α (Option (List Int)))
      (fun _ => Accounted services x 1) (Accounted services x 1) :=
  triple_pure fun _ hw => hw.mono

/-- One client of step 4, the client itself. -/
theorem overrideClient_self (channels : List Int) :
    Triple services (Accounted services x 0) (overrideClient channels x)
      (fun _ => Accounted services x 1) (Accounted services x 1) := by
  have hresolve : Triple services (Accounted services x 0) (call (.resolveHvOverrides x))
      (fun _ => Accounted services x 0) (Accounted services x 1) :=
    (keeps_service (c := .resolveHvOverrides x) nofun).imp_error fun _ hw => hw.mono
  refine triple_bind hresolve fun (resolved : ResolvedOverride) => ?_
  dsimp only
  split
  · exact pure_overridden none
  · split
    · exact pure_overridden none
    · split
      · exact pure_overridden _
      · split
        · exact pure_overridden _
        · exact applyOverride_self _ _

/-- Step 4 overrides the client once at most. -/
theorem triple_overrideStep (channels : Dict α (List Int)) :
    Triple services (Accounted services x 0) (overrideStep channels)
      (fun _ => Accounted services x 1) (Accounted services x 1) := by
  by_cases hx : x ∈ channels.keys
  · have hloop : Triple services (Accounted services x 0)
        (mapEach channels.keys fun client => overrideClient (channelsOf channels client) client)
        (fun r w => (∃ left?, (x, left?) ∈ r ∧ Accounted services x 1 w) ∧
          r.map Prod.fst = channels.keys) (Accounted services x 1) :=
      triple_mapEach_turn hx channels.nodup (overrideClient_self _) fun y _ hyx =>
        ⟨(overrideClient_other hyx _).imp_error fun _ hw => hw.mono,
          fun _ => overrideClient_other hyx _⟩
    refine triple_map (hloop.imp_result (fun _ _ hw => ?_) fun _ hw => hw)
    obtain ⟨⟨-, -, hacc⟩, -⟩ := hw
    exact hacc
  · refine triple_map ((triple_mapEach fun y hy => overrideClient_other
      (fun heq : y = x => hx (heq ▸ hy)) _).imp_result (fun _ _ hw => hw.1.mono)
        fun _ hw => hw.mono)

theorem keeps_configureStep (channels : Dict α (List Int)) :
    Keeps services (Accounted services x k) (configureStep channels) := by
  refine keeps_mapEach_bind (fun client _ => ?_) fun _ _ => keeps_pure _
  refine keeps_bind (keeps_service nofun) fun (rcOk : Bool) => ?_
  split
  · exact keeps_pure true
  · exact keeps_bind (keeps_restoreHvOverrides _) fun _ => keeps_pure false

/-! ## The start and the session -/

/-- What the preparation leaves to be restored: nothing, or what the session holds. -/
def Handed (services : Services α) (x : α) :
    Option (SessionArgs α) → World (HvPrevious α) (OrchCall α) → Prop
  | none => Final services x
  | some session => Owes services x 1 (session.hvPrevious.get? x).toList

theorem triple_abandon (readyClients : List α) : Triple services (Accounted services x 1)
    (abandon readyClients) (Handed services x) (Accounted services x 1) := by
  refine triple_bind (keeps_service nofun) fun _ => triple_bind
    (settle_restoreHvOverrides.imp_error fun _ hw => hw.1) fun _ =>
      triple_pure fun w hw => hw.owes.final

theorem triple_startSession (readyClients : List α) : Triple services (Accounted services x 1)
    (startSession readyClients) (Handed services x) (Accounted services x 1) := by
  refine triple_bind (keeps_service nofun) fun _ => triple_bind (Q := fun hvPrevious w =>
    Accounted services x 1 w ∧ w.state = hvPrevious) (triple_read fun w hw => ⟨hw, rfl⟩)
      fun hvPrevious => ?_
  have hthread : Triple services (fun w : World (HvPrevious α) (OrchCall α) =>
      Accounted services x 1 w ∧ w.state = hvPrevious) (call OrchCall.startSessionThread)
        (fun _ w => Owes services x 1 (hvPrevious.get? x).toList w) (Accounted services x 1) := by
    refine triple_call (fun w _ hw _ => ?_) fun w _ hw _ => hw.1.issue nofun
    obtain ⟨hacc, rfl⟩ := hw
    exact Owes.issue hacc nofun
  exact triple_bind hthread fun _ => triple_bind (triple_modify
    (Q := fun _ => Owes services x 1 (hvPrevious.get? x).toList)
      fun w hw => ⟨hw.balance, hw.overrides⟩) fun _ => triple_pure fun w hw => hw

theorem triple_prepareAndStart (mode : Option AcquisitionMode) (clients : List α) :
    Triple services (Accounted services x 0) (prepareAndStart mode clients) (Handed services x)
      (Accounted services x 1) := by
  have hstep {β : Type} {p : OrchM α β} (h : Keeps services (Accounted services x 0) p) :
      Triple services (Accounted services x 0) p (fun _ => Accounted services x 0)
        (Accounted services x 1) :=
    h.imp_error fun _ hw => hw.mono
  refine triple_bind (hstep (keeps_disableStep clients)) fun active =>
    triple_bind (hstep (keeps_selectionStep mode active)) fun selected =>
    triple_bind (hstep (keeps_calibrationStep mode selected)) fun calibrated =>
    triple_bind (triple_overrideStep calibrated) fun overridden =>
    triple_bind (keeps_configureStep overridden) fun readyClients => ?_
  split
  · exact triple_bind (settle_restoreHvOverrides.imp_error fun _ hw => hw.1) fun _ =>
      triple_bind (Q := fun _ => Settled services x 1)
        (triple_call (fun w _ hw _ => ⟨hw.1.issue nofun, hw.2⟩) fun w _ hw _ =>
          hw.1.issue nofun) fun _ => triple_pure fun w hw => hw.owes.final
  · refine triple_bind (keeps_service nofun) fun (succeeded : Bool) => ?_
    split
    · exact triple_bind (keeps_service nofun) fun _ => triple_abandon readyClients
    · refine triple_bind (keeps_service nofun) fun (batch : Option String) => ?_
      split
      · exact triple_abandon readyClients
      · refine triple_bind (keeps_service nofun) fun (started : Bool) => ?_
        split
        · exact triple_abandon readyClients
        · exact triple_startSession readyClients

theorem triple_recoverStart : Triple services (Accounted services x 1) recoverStart
    (fun _ => Final services x) (Final services x) := by
  refine triple_bind (final_restoreHvOverrides.imp_error fun _ hw => hw.elim) fun _ =>
    triple_bind (keeps_final nofun) fun state => ?_
  cases state with
  | configuring => exact keeps_bind (keeps_final nofun) fun _ => keeps_pure ()
  | acquiring => exact keeps_final nofun
  | _ => exact keeps_pure ()

/-- Nothing has been overridden or restored. -/
theorem owes_start {w : World (HvPrevious α) (OrchCall α)} (h : w.calls = []) :
    Owes services x 0 [] w := by
  refine ⟨?_, ?_⟩ <;> rw [h]
  · rfl
  · exact Nat.le_refl 0

theorem triple_start (mode : Option AcquisitionMode) :
    Triple services (fun w => w.calls = []) (start mode) (Handed services x)
      (Final services x) := by
  let I : World (HvPrevious α) (OrchCall α) → Prop := fun w =>
    Owes services x 0 [] w ∧ w.state.get? x = none
  have hservice {c : OrchCall α} (hc : OrchCall.target? c ≠ some x) :
      Triple services I (call c) (fun _ => I) (Final services x) :=
    triple_call (fun _ _ hw _ => ⟨hw.1.issue hc, hw.2⟩) fun _ _ hw _ => (hw.1.mono.issue hc).final
  have hnone : Triple services I (pure none) (Handed services x) (Final services x) :=
    triple_pure fun _ hw => hw.1.mono.final
  refine triple_bind (Q := fun _ => I) (triple_modify fun w hw => ⟨owes_start hw, rfl⟩) fun _ =>
    triple_bind (hservice nofun) fun (state : ServerFSM) => ?_
  split
  · exact hnone
  refine triple_bind (hservice nofun) fun (valid : Bool) => ?_
  split
  · exact hnone
  refine triple_bind (hservice nofun) fun (operational : List α) =>
    triple_bind (hservice nofun) fun (connected : List α) => ?_
  dsimp only
  split
  · exact hnone
  refine triple_bind (hservice nofun) fun (started : Bool) => ?_
  split
  · exact hnone
  refine triple_try ((triple_prepareAndStart mode _).conseq (fun w hw => ?_) (fun _ _ hw => hw)
    fun _ hw => hw) fun _ => triple_bind triple_recoverStart fun _ => triple_pure fun _ hw => hw
  unfold Accounted
  rw [hw.2]
  exact hw.1

theorem triple_runSession (session : SessionArgs α) :
    Triple services (Handed services x (some session)) (runSession session)
      (fun _ => Final services x) (Final services x) := by
  refine triple_bind (Q := fun _ => Accounted services x 1)
    (triple_modify fun w hw => ⟨hw.balance, hw.overrides⟩) fun _ => ?_
  have hsession : Keeps services (Accounted services x 1)
      (call (OrchCall.runAcquisitionSession session.clients)) := keeps_service nofun
  refine triple_bind (triple_try hsession fun _ => triple_pure fun _ hw => hw)
    fun (success : Bool) => triple_bind
      (final_restoreHvOverrides.imp_error fun _ hw => hw.elim) fun unrestored => ?_
  exact keeps_bind (keeps_final nofun) fun _ => keeps_forEach fun _ _ => keeps_final nofun

/-- However a run ends, nothing is left to be restored, unless a restore has raised. -/
theorem triple_acquisitionRun (mode : Option AcquisitionMode) :
    Triple services (fun w => w.calls = []) (acquisitionRun mode)
      (fun _ => Final services x) (Final services x) := by
  refine triple_bind (triple_start mode) fun session? => ?_
  cases session? with
  | none => exact triple_pure fun _ hw => hw
  | some session => exact triple_runSession session

/-! ## What an override saves -/

open HvOverride in
/-- The saved values of a channel are what it held if the override changed it; a channel without saved
values is unchanged, or bad. -/
theorem previous_of_channel {hvPolicy : Option HvPolicy} {acqInfo : Dict Int HV.ChannelConfig}
    (haccepted : Accepted hvPolicy acqInfo.keys) (bus : HvBus) (stored : HvCall → Nat → Bool)
    (boards : Int → SetPoints) (w : World HvLists HvCall) (u : Int) :
    ∃ o w', applyHvOverride hvPolicy acqInfo true bus w = (.ok (some o), w') ∧
      (Truthful bus stored boards w'.calls →
        o.previous.get? u = none ∧ (u + 1 ∈ w'.state.badCh ∨
          setPointsAfter bus stored boards w'.calls (u + 1) =
            setPointsAfter bus stored boards w.calls (u + 1)) ∨
        o.previous.get? u = some (setPointsAfter bus stored boards w.calls (u + 1)) ∧
          setPointsAfter bus stored boards w'.calls (u + 1) ≠
            setPointsAfter bus stored boards w.calls (u + 1)) := by
  by_cases hu : u ∈ acqInfo.keys ∧ u + 1 ∈ w.state.okCh
  · obtain ⟨_, w', hrun, o, rfl, hover⟩ := (overridden_apply true haccepted hu.1 True
      (setPointsAfter bus stored boards w.calls (u + 1))).run ⟨fun _ => trivial, rfl, hu.2⟩
    refine ⟨o, w', hrun, fun ht => ?_⟩
    rcases hover with ⟨values, config, -, hprevious, hholding⟩ | ⟨hprevious, hbad | ⟨-, hholding⟩⟩
    · obtain ⟨-, rfl⟩ := hholding.truth ht
      rw [hprevious, hholding.setPoints]
      split
      · next hsame => exact .inl ⟨rfl, .inr hsame⟩
      · next hchanged => exact .inr ⟨rfl, hchanged⟩
    · exact .inl ⟨hprevious, .inl hbad⟩
    · exact .inl ⟨hprevious, .inr hholding.setPoints⟩
  · have hsteady : Steady (u + 1) fun v => setPointsAfter bus stored boards v.calls (u + 1) =
        setPointsAfter bus stored boards w.calls (u + 1) ∧
          (u + 1 ∈ v.state.okCh ↔ u + 1 ∈ w.state.okCh) :=
      ⟨fun hc hv => ⟨(setPointsAfter_other hc).trans hv.1, hv.2⟩,
        fun hx hv => ⟨hv.1, (mem_ok_moveToBad hx).trans hv.2⟩⟩
    obtain ⟨_, w', hrun, o, rfl, hprevious, hsame, -⟩ := (untouched_apply true haccepted hsteady
      fun v hv hmem hok => hu ⟨hmem, hv.2.1 hok⟩).run ⟨rfl, Iff.rfl⟩
    exact ⟨o, w', hrun, fun _ => .inl ⟨hprevious, .inr hsame⟩⟩

namespace Override

variable (o : Override) (stored : HvCall → Nat → Bool) (boards : Int → SetPoints) (ch : Int)

def before : SetPoints := setPointsAfter o.exchange.bus stored boards o.exchange.world.calls ch

/-- The override changed a register of the channel. -/
def Changed : Prop :=
  setPointsAfter o.exchange.bus stored boards o.after.calls ch ≠ o.before stored boards ch

/-- The reply arrived, and the reads of the set points returned what the boards held. -/
def Reliable : Prop :=
  o.exchange.replied = true ∧ Truthful o.exchange.bus stored boards o.after.calls

instance : Decidable (o.Changed stored boards ch) := inferInstanceAs (Decidable (_ ≠ _))

instance : Decidable (o.Reliable stored boards) := inferInstanceAs (Decidable (_ ∧ _))

variable {o stored boards}

theorem saved_of_run {outcome : HvOutcome} {w' : World HvLists HvCall}
    (hreplied : o.exchange.replied = true)
    (hrun : Server.applyHvOverride o.exchange.hvPolicy o.acqInfo true o.exchange.bus
      o.exchange.world = (.ok (some outcome), w')) :
    o.after = w' ∧ o.saved = if outcome.previous.entries ≠ [] then some outcome.previous else none := by
  have houtcome : o.exchange.outcome o.acqInfo = some outcome := by
    unfold HvExchange.outcome
    rw [if_pos hreplied, hrun]
    rfl
  refine ⟨congrArg Prod.snd hrun, ?_⟩
  unfold saved
  rw [houtcome, Option.bind_some]

theorem run_of_rejected (h : ¬ HvOverride.Accepted o.exchange.hvPolicy o.acqInfo.keys) :
    Server.applyHvOverride o.exchange.hvPolicy o.acqInfo true o.exchange.bus o.exchange.world =
      (.ok none, o.exchange.world) :=
  HvOverride.applyHvOverride_rejected true h o.exchange.world

theorem saved_of_rejected (h : ¬ HvOverride.Accepted o.exchange.hvPolicy o.acqInfo.keys) :
    o.saved = none := by
  have houtcome : o.exchange.outcome o.acqInfo = none := by
    unfold HvExchange.outcome
    rw [run_of_rejected h]
    exact ite_self none
  unfold saved
  rw [houtcome, Option.bind_none]

theorem not_changed_of_rejected (h : ¬ HvOverride.Accepted o.exchange.hvPolicy o.acqInfo.keys) :
    ¬ o.Changed stored boards ch := by
  unfold Changed after HvExchange.after before
  rw [run_of_rejected h]
  exact fun hchanged => hchanged rfl

/-- A channel that the override changed, and that is not bad, has its values saved. -/
theorem saved_of_changed (h : o.Reliable stored boards) (hchanged : o.Changed stored boards ch)
    (hbad : ch ∉ o.after.state.badCh) :
    ∃ previous, o.saved = some previous ∧
      previous.get? (ch - 1) = some (o.before stored boards ch) := by
  by_cases haccepted : HvOverride.Accepted o.exchange.hvPolicy o.acqInfo.keys
  · obtain ⟨outcome, w', hrun, hchannel⟩ := previous_of_channel haccepted o.exchange.bus stored
      boards o.exchange.world (ch - 1)
    obtain ⟨hafter, hsaved⟩ := saved_of_run h.1 hrun
    rw [Int.sub_add_cancel, ← hafter] at hchannel
    rcases hchannel h.2 with ⟨-, hbad' | hsame⟩ | ⟨hprevious, -⟩
    · exact absurd hbad' hbad
    · exact absurd hsame hchanged
    · have hne : outcome.previous.entries ≠ [] := List.ne_nil_of_mem (Dict.mem_entries.2 hprevious)
      exact ⟨_, hsaved.trans (if_pos hne), hprevious⟩
  · exact absurd hchanged (not_changed_of_rejected ch haccepted)

/-- An override that saved values has changed a channel. -/
theorem changed_of_saved (h : o.Reliable stored boards) {previous : Dict Int SetPoints}
    (hsaved : o.saved = some previous) : ∃ ch, o.Changed stored boards ch := by
  by_cases haccepted : HvOverride.Accepted o.exchange.hvPolicy o.acqInfo.keys
  · obtain ⟨outcome, w', hrun, -⟩ := previous_of_channel haccepted o.exchange.bus stored
      boards o.exchange.world 0
    obtain ⟨hafter, hsaved'⟩ := saved_of_run h.1 hrun
    rw [hsaved'] at hsaved
    split at hsaved
    · next hne =>
      obtain rfl := Option.some.inj hsaved
      obtain ⟨⟨u, values⟩, hmem⟩ := List.exists_mem_of_ne_nil _ hne
      obtain ⟨outcome', w'', hrun', hchannel⟩ := previous_of_channel haccepted o.exchange.bus stored
        boards o.exchange.world u
      obtain ⟨⟨⟩, rfl⟩ := Prod.mk.inj (hrun.symm.trans hrun')
      rw [← hafter] at hchannel
      rcases hchannel h.2 with ⟨hnone, -⟩ | ⟨-, hchanged⟩
      · rw [Dict.mem_entries.1 hmem] at hnone
        cases hnone
      · exact ⟨u + 1, hchanged⟩
    · cases hsaved
  · rw [saved_of_rejected haccepted] at hsaved
    cases hsaved

end Override

/-! ## The run -/

/-- The calls of a run, from its start to the end of its session. -/
def runCalls (services : Services α) (mode : Option AcquisitionMode) : List (OrchCall α) :=
  (acquisitionRun mode services { state := Dict.empty }).2.calls

/-- However a run ends, a client is restored with the values that its override saved, not twice and
with no others, and it is restored if the restore of no other client raised. The override saves the
values of every channel that it changed and that is not bad afterwards, and none where it changed
nothing, if its reply arrives. -/
theorem override_restored_once (services : Services α) (mode : Option AcquisitionMode) (x : α) :
    (restoresOf x (runCalls services mode) <+:
        (overridesOf services x (runCalls services mode)).filterMap Override.saved ∧
      (overridesOf services x (runCalls services mode)).length ≤ 1 ∧
      ((∀ y ∈ raisedRestores services (runCalls services mode), y = x) →
        restoresOf x (runCalls services mode) =
          (overridesOf services x (runCalls services mode)).filterMap Override.saved)) ∧
    ∀ o ∈ overridesOf services x (runCalls services mode), ∀ stored boards,
      o.Reliable stored boards →
        (∀ ch, o.Changed stored boards ch → ch ∉ o.after.state.badCh →
          ∃ previous, o.saved = some previous ∧
            previous.get? (ch - 1) = some (o.before stored boards ch)) ∧
        ∀ previous, o.saved = some previous → ∃ ch, o.Changed stored boards ch := by
  obtain ⟨held, howes, hlost⟩ : Final services x
      (acquisitionRun mode services { state := Dict.empty }).2 :=
    (triple_acquisitionRun mode).world rfl
  refine ⟨⟨⟨held, howes.balance⟩, howes.overrides, fun hraised => ?_⟩, fun o _ stored boards h =>
    ⟨fun ch hchanged hbad => Override.saved_of_changed ch h hchanged hbad,
      fun _ hsaved => Override.changed_of_saved h hsaved⟩⟩
  rcases hlost with rfl | ⟨y, hy, hyx⟩
  · exact (List.append_nil _).symm.trans howes.balance
  · exact absurd (hraised y hy) hyx

/-! ## One client -/

/-- Every step succeeds for client 0, whose override is `HvOverride.oneOverride`, up to the session,
which raises. -/
def oneServices (exchange : HvExchange) : Services Nat where
  answer
    | .getServerState, _ => .ok ServerFSM.ready
    | .buildTriggerConfiguration, _ => .ok true
    | .getOperationalClients, _ | .getConnectedClients, _ => .ok [0]
    | .processEvent _, _ | .disableRcChannels _, _ | .configureAcquisitionClient .., _ => .ok true
    | .getTestRcChannels _, _ => .ok [0, 1]
    | .getCalibrationExcludedChannels _, _ => .ok []
    | .prepareHvChannelsForAcquisition _, _ => .ok Dict.empty
    | .resolveHvOverrides _, _ => .ok {
        hvOverride := some HvOverride.oneOverride, excluded := Dict.empty, error := none }
    | .applyHvOverride .., _ | .restoreHvOverride .., _ => .ok exchange
    | .resolveBatchId _, _ => .ok (some "batch")
    | .runAcquisitionSession _, _ => .error "lost"
    | .beginSession, _ | .startSessionThread, _ => .ok ()
    | .closeSession _, _ | .removeOperationalClient _, _ => .ok ()
  rounds _ := 0

def oneExchange (thresholdAnswer : Except String Unit) : HvExchange where
  hvPolicy := some .fullControl
  bus := HvOverride.oneBus thresholdAnswer
  world := HvOverride.oneChannel
  replied := true

theorem override_restored_once_one :
    (restoresOf 0 (runCalls (oneServices (oneExchange (.ok ()))) (some .test))).map (·.get? 0) =
      [some { voltage := 700, threshold := 20 }] := by
  have hraised : raisedRestores (oneServices (oneExchange (.ok ())))
      (runCalls (oneServices (oneExchange (.ok ()))) (some .test)) = [] := by
    decide +kernel
  rw [(override_restored_once _ _ _).1.2.2 (by rw [hraised]; exact fun _ => nofun)]
  decide +kernel

/-- The write of the threshold fails after the one of the voltage: the override has changed a
register, and the client is not restored. -/
theorem override_changed_not_restored :
    (∃ o ∈ overridesOf (oneServices (oneExchange (.error "no answer"))) 0
        (runCalls (oneServices (oneExchange (.error "no answer"))) (some .test)),
      o.Reliable (fun _ _ => false) HvOverride.oneBoard ∧
        o.Changed (fun _ _ => false) HvOverride.oneBoard 1) ∧
    restoresOf 0 (runCalls (oneServices (oneExchange (.error "no answer"))) (some .test)) = [] := by
  decide +kernel

end AcquisitionOrchestrator

end MultiDAQ.Server
