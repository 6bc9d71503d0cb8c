import MultiDAQ.Server.TtpScan
import MultiDAQ.Server.Verify.SessionResults

/-!
# What a time-to-peak scan leaves between its points

A scan goes on to its next point, or closes, only when every file that a point may have opened has been
closed and every client that it enabled has been disabled; and it closes as a success only if every
client took its data in every point whose value it accepted.
-/

namespace MultiDAQ.Server

open MultiDAQ.Lib MultiDAQ.Lib.Interaction MultiDAQ.Lib.Recorder
open AcquisitionService (PyError)

namespace AcquisitionSession

variable {α : Type} [DecidableEq α] {dev : Peers α}

theorem among_session (s : SessionParams α) (clients : List α) :
    Only dev (AcquisitionSession.Among clients) (runAcquisitionSession s clients) := by
  unfold runAcquisitionSession
  split
  · exact only_pure _
  refine only_bind ((inert_resolveNumericIds clients).imp fun _ => Inert.among) fun numericIds =>
    only_bind (only_note trivial) fun _ => only_bind (only_finally (only_exceptException
      ((emits_acquire s clients).imp fun _ _ h => h.2)
      ((final_finalizeAfterError s clients).imp fun _ h => h.inert.among)) (only_note trivial))
      fun result => ?_
  obtain ⟨started, _ | lost⟩ := result
  · exact only_pure _
  · exact only_bind ((final_finalize s numericIds started.opened lost).imp
      fun _ h => h.inert.among) fun _ => only_pure _

end AcquisitionSession

namespace CalibrationOrchestrator

open AcquisitionSession

variable {α : Type}

/-! ## The calls of a scan -/

/-- The start of a point for one client, or the close of the scan. -/
def StartsPointOrCloses (x : SessionExchange α) : Prop :=
  (∃ client value, x.call = .writeRcRegister client 10 value) ∨ ∃ ok, x.call = .closeSession ok

/-- The call of a scan outside its sessions. -/
def BetweenSessions : SessionCall α → Prop
  | .writeRcRegister _ address _ => address = 10
  | .serverState | .processEvent _ | .closeSession _ => True
  | _ => False

/-- The client accepted the value of a point. -/
def AcceptsPoint (client : α) (x : SessionExchange α) : Prop :=
  ∃ value, x = ⟨.writeRcRegister client 10 value, .ok true⟩

theorem not_acceptsPoint_of_among {clients : List α} {client : α} {x : SessionExchange α}
    (h : AcquisitionSession.Among clients x.call) : ¬ AcceptsPoint client x := by
  rintro ⟨value, rfl⟩
  cases h.1

/-- No close of the scan. -/
def NoClose (c : SessionCall α) : Prop := ∀ ok, c ≠ .closeSession ok

theorem noClose_of_among {clients : List α} {c : SessionCall α}
    (h : AcquisitionSession.Among clients c) : NoClose c := by
  rintro ok rfl
  exact h

/-- What the stop of a scan calls. -/
def StopCall (c : SessionCall α) : Prop := c = .serverState ∨ c = .processEvent .stopRequested

/-- The client was enabled, and then disabled, flushed and its file closed, all of it confirmed. -/
def TookData (client : α) (t : List (SessionExchange α)) : Prop :=
  Enabled client t ∧ ∀ step ∈ finalSteps false, Tried (step.Records client) true t

theorem TookData.append {client : α} {t : List (SessionExchange α)} (h : TookData client t)
    (t' : List (SessionExchange α)) : TookData client (t ++ t') :=
  ⟨enabled_append.2 (.inl h.1), fun step hstep =>
    (h.2 step hstep).mono (List.prefix_append t t').isInfix⟩

theorem TookData.prepend {client : α} {t : List (SessionExchange α)} (h : TookData client t)
    (t' : List (SessionExchange α)) : TookData client (t' ++ t) :=
  ⟨enabled_append.2 (.inr h.1), fun step hstep =>
    (h.2 step hstep).mono (List.suffix_append t' t).isInfix⟩

variable [DecidableEq α] {dev : Peers α}

/-! ## Between two points -/

/-- Every file was closed after an OPEN, and every client disabled after it was enabled, except for
what is said of lost clients. -/
def CleanedUpAll (t : List (SessionExchange α)) : Prop :=
  ∀ client, Followed (OpensFor client) (fun _ post => ∃ clients, FileClosed clients client t post) t ∧
    Followed (EnablesFor client) (fun _ post => ClientDisabled client post) t

theorem fileClosed_append {clients : List α} {client : α} {t post : List (SessionExchange α)}
    (h : FileClosed clients client t post) (t' : List (SessionExchange α)) :
    FileClosed clients client (t ++ t') (post ++ t') := by
  obtain hclose | ⟨⟨lost, hmem, hlost⟩, id, hid, hshort⟩ := h
  · exact .inl (hclose.append t')
  · exact .inr ⟨⟨lost, List.mem_append_left _ hmem, hlost⟩, id,
      hid.trans (List.sublist_append_left t t'), hshort.mono (List.prefix_append post t').isInfix⟩

theorem fileClosed_prepend {clients : List α} {client : α} {t post : List (SessionExchange α)}
    (h : FileClosed clients client t post) (t' : List (SessionExchange α)) :
    FileClosed clients client (t' ++ t) post :=
  h.imp_right fun ⟨hlost, id, hid, hshort⟩ =>
    ⟨hlost, id, hid.trans (List.sublist_append_right t' t), hshort⟩

theorem clientDisabled_append {client : α} {post : List (SessionExchange α)}
    (h : ClientDisabled client post) (t' : List (SessionExchange α)) :
    ClientDisabled client (post ++ t') := by
  obtain ⟨ok, hdisable⟩ | ⟨lost, hmem, hlost⟩ := h
  · exact .inl ⟨ok, hdisable.mono (List.prefix_append post t').isInfix⟩
  · exact .inr ⟨lost, List.mem_append_left _ hmem, hlost⟩

theorem CleanedUpAll.append {clients : List α} {h t : List (SessionExchange α)}
    (hh : CleanedUpAll h) (ht : ∀ client, CleanedUp clients client t) : CleanedUpAll (h ++ t) := by
  intro client
  refine ⟨followed_append (hh client).1 ((ht client).1.imp fun x post hpost =>
    ⟨clients, fileClosed_prepend hpost h⟩) fun x _ post ⟨clients, hpost⟩ =>
      ⟨clients, fileClosed_append hpost t⟩,
    followed_append (hh client).2 (ht client).2 fun x _ post hpost => clientDisabled_append hpost t⟩

theorem CleanedUpAll.append_between {h t : List (SessionExchange α)} (hh : CleanedUpAll h)
    (ht : ∀ x ∈ t, BetweenSessions x.call) : CleanedUpAll (h ++ t) := by
  have hnone : ∀ client, CleanedUp [] client t := by
    refine fun client => ⟨followed_of_forall_not fun x hx hopen => ?_,
      followed_of_forall_not fun x hx hen => ?_⟩
    · obtain ⟨id, request, hcall⟩ := hopen
      have hbetween := ht x hx
      rw [hcall] at hbetween
      exact hbetween
    · obtain ⟨mask, hcall, -⟩ := hen
      have hbetween := ht x hx
      rw [hcall] at hbetween
      cases hbetween
  exact hh.append hnone

theorem guarded_between {h t : List (SessionExchange α)} (hh : CleanedUpAll h)
    (ht : ∀ x ∈ t, BetweenSessions x.call) :
    Guarded StartsPointOrCloses (fun _ h => CleanedUpAll h) h t := by
  induction t generalizing h with
  | nil => trivial
  | cons x t ih =>
    obtain ⟨hx, ht⟩ := List.forall_mem_cons.1 ht
    exact ⟨fun _ => hh, ih (hh.append_between (List.forall_mem_singleton.2 hx)) ht⟩

theorem guarded_session {clients : List α} {h t : List (SessionExchange α)}
    (ht : ∀ x ∈ t, AcquisitionSession.Among clients x.call) :
    Guarded StartsPointOrCloses (fun _ h => CleanedUpAll h) h t := by
  refine guarded_of_forall_not fun x hx hstart => ?_
  have hamong := ht x hx
  obtain ⟨client, value, hcall⟩ | ⟨ok, hcall⟩ := hstart
  · rw [hcall] at hamong
    cases hamong.1
  · rw [hcall] at hamong
    exact hamong

theorem stopCall_stopScan : Only dev StopCall (stopScan : SessionM α Unit) := by
  refine only_bind (only_ask (.inl rfl)) fun state => ?_
  split
  · exact only_bind (only_ask (.inr rfl)) fun _ => only_pure _
  · exact only_pure _

theorem between_setTtpRegister (clients : List α) (ttpValue : Int) :
    Only dev BetweenSessions (setTtpRegister clients ttpValue) :=
  only_foldEach fun _ _ _ => only_bind (only_ask rfl) fun ok => by
    split
    · exact only_pure _
    · exact only_pure _

/-- After `h` the program keeps to what comes before a point, and where it returns, all is cleaned up
again. -/
def Separates (dev : Peers α) (h : List (SessionExchange α)) {β : Type} (p : SessionM α β) : Prop :=
  Emits dev p fun r t => Guarded StartsPointOrCloses (fun _ h => CleanedUpAll h) h t ∧
    ∀ a, r = .ok a → CleanedUpAll (h ++ t)

theorem Separates.of_between {h : List (SessionExchange α)} {β : Type} {p : SessionM α β}
    (hh : CleanedUpAll h) (hp : Only dev BetweenSessions p) : Separates dev h p :=
  Emits.imp hp fun _ _ ht => ⟨guarded_between hh ht, fun _ _ => hh.append_between ht⟩

theorem Separates.session {h : List (SessionExchange α)} (hh : CleanedUpAll h)
    (s : SessionParams α) (clients : List α) : Separates dev h (runAcquisitionSession s clients) := by
  refine ((emits_session s clients).and (among_session s clients)).imp fun r t ⟨hsession, hamong⟩ =>
    ⟨guarded_session hamong, ?_⟩
  rintro a rfl
  obtain hbase | hclean := hsession
  · cases hbase
  · exact hh.append hclean

theorem Separates.bind {h : List (SessionExchange α)} {β γ : Type} {p : SessionM α β}
    {k : β → SessionM α γ} (hp : Separates dev h p)
    (hk : ∀ a h', CleanedUpAll h' → Separates dev h' (k a)) : Separates dev h (p >>= k) := by
  refine emits_bind hp (fun e t ht => ⟨ht.1, fun _ h => by cases h⟩) fun a t ht => ?_
  refine (hk a (h ++ t) (ht.2 a rfl)).imp fun r t' ht' => ⟨guarded_append ht.1 ht'.1, fun b hb => ?_⟩
  rw [← List.append_assoc]
  exact ht'.2 b hb

theorem Separates.runPoints (args : ScanArgs α) (clients : List α) :
    ∀ (values : List Int) (overallSuccess : Bool) (h : List (SessionExchange α)), CleanedUpAll h →
      Separates dev h (runPoints args clients values overallSuccess)
  | [], _, _, hh => .of_between hh (only_pure _)
  | ttpValue :: rest, overallSuccess, h, hh => by
    refine (Separates.of_between hh (only_ask (c := (SessionCall.serverState : SessionCall α))
      trivial)).bind fun state h₁ hh₁ => ?_
    split
    · exact .of_between hh₁ (only_pure _)
    refine (Separates.of_between hh₁ (between_setTtpRegister clients ttpValue)).bind
      fun ready h₂ hh₂ => ?_
    split
    · exact Separates.runPoints args clients rest overallSuccess h₂ hh₂
    · exact (Separates.session hh₂ _ ready).bind fun result h₃ hh₃ =>
        Separates.runPoints args clients rest _ h₃ hh₃

/-- However the calls of a scan are answered, and wherever it stops: when the next value is written to
a client, and when the scan closes, every file that an earlier point may have opened has been closed,
and every client that it enabled has been disabled or was found lost. -/
theorem scan_points_separated (dev : Peers α) (args : ScanArgs α) (clients : List α)
    (ttpValues : List Int) : Guarded StartsPointOrCloses (fun _ h => CleanedUpAll h) []
      (record dev (runTtpScanLoop args clients ttpValues)) := by
  have hscan : Separates dev [] (runTtpScanLoop args clients ttpValues) := by
    refine (Separates.runPoints args clients ttpValues true [] fun _ => ⟨trivial, trivial⟩).bind
      fun overallSuccess h₁ hh₁ => ?_
    have hstop : Only dev BetweenSessions (stopScan : SessionM α Unit) :=
      stopCall_stopScan.imp fun c hc => by
        obtain rfl | rfl := hc
        · trivial
        · trivial
    exact (Separates.of_between hh₁ hstop).bind fun _ h₂ hh₂ =>
      .of_between hh₂ (only_ask (c := (SessionCall.closeSession overallSuccess : SessionCall α))
        trivial)
  exact hscan.run.1

/-! ## The success of a scan -/

/-- In a session that succeeds every client takes its data. -/
theorem emits_session_success (s : SessionParams α) (clients : List α) :
    Emits dev (runAcquisitionSession s clients) (Ending
      (fun result t => sessionSuccess result = true → ∀ c ∈ clients, TookData c t)
      fun _ _ => True) := by
  refine (emits_reported s clients).imp fun r t h => ?_
  rcases r with e | results
  · trivial
  intro hsuccess c hc
  obtain ⟨hkeys, t₁, t₂, lost, rfl, -, hreport⟩ := h
  obtain ⟨result, hget⟩ := Dict.mem_keys.1 ((hkeys c).2 hc)
  unfold sessionSuccess at hsuccess
  have hall := (Bool.and_eq_true_iff.1 hsuccess).2
  have hresult : result.success = true := List.all_eq_true.1 hall (c, result) (Dict.mem_entries.2 hget)
  obtain ⟨henabled, -, hsteps⟩ := (hreport c result hget).success hresult
  refine ⟨enabled_append.2 (.inl henabled), fun step hstep =>
    (hsteps step ?_).mono (List.suffix_append t₁ t₂).isInfix⟩
  -- the reset of the trigger is the only further step
  cases hreset : s.resetTriggerConfig with
  | false => exact hstep
  | true =>
    simp only [finalSteps, Bool.false_eq_true, if_false, if_true, List.mem_append,
      List.mem_cons] at hstep ⊢
    tauto

theorem emits_setTtpRegister (clients : List α) (ttpValue : Int) :
    Emits dev (setTtpRegister clients ttpValue) (Ending
      (fun ready t => ∀ c, ∀ x ∈ t, AcceptsPoint c x → c ∈ ready) fun _ _ => True) := by
  refine emits_foldEach (I := fun _ ready t => ∀ c, ∀ x ∈ t, AcceptsPoint c x → c ∈ ready)
    (fun _ => List.forall_mem_nil _) ?_
  rintro done client rest ready t - hready
  refine emits_ask_bind (c := SessionCall.writeRcRegister client 10 ttpValue) (fun _ => trivial)
    fun (ok : Bool) => ?_
  have hnew : ∀ c, AcceptsPoint c
      (⟨.writeRcRegister client 10 ttpValue, .ok ok⟩ : SessionExchange α) →
      c = client ∧ ok = true := by
    rintro c ⟨value, heq⟩
    cases heq
    exact ⟨rfl, rfl⟩
  have hstep : ∀ ready' : List α, (∀ c ∈ ready, c ∈ ready') → (ok = true → client ∈ ready') →
      ∀ c, ∀ x ∈ t ++ [⟨.writeRcRegister client 10 ttpValue, .ok ok⟩], AcceptsPoint c x →
        c ∈ ready' := by
    intro ready' hsub hclient c x hx hacc
    rcases List.mem_append.1 hx with hx | hx
    · exact hsub c (hready c x hx hacc)
    · obtain rfl := List.mem_singleton.1 hx
      obtain ⟨rfl, hok⟩ := hnew c hacc
      exact hclient hok
  cases ok with
  | true =>
    exact emits_pure (hstep (ready ++ [client]) (fun c hc => List.mem_append_left _ hc)
      fun _ => List.mem_append_right _ List.mem_cons_self)
  | false => exact emits_pure (hstep ready (fun c hc => hc) fun h => by cases h)

theorem noClose_runPoints (args : ScanArgs α) (clients : List α) :
    ∀ (values : List Int) (overallSuccess : Bool),
      Only dev NoClose (runPoints args clients values overallSuccess)
  | [], _ => only_pure _
  | ttpValue :: rest, overallSuccess => by
    refine only_bind (only_ask (c := (SessionCall.serverState : SessionCall α))
      fun _ h => by cases h) fun state => ?_
    split
    · exact only_pure _
    refine only_bind (only_foldEach fun _ client _ => only_bind (only_ask
      (c := SessionCall.writeRcRegister client 10 ttpValue) fun _ h => by cases h) fun ok => ?_)
      fun ready => ?_
    · split
      · exact only_pure _
      · exact only_pure _
    split
    · exact noClose_runPoints args clients rest overallSuccess
    · exact only_bind ((among_session _ ready).imp fun _ => noClose_of_among) fun result =>
        noClose_runPoints args clients rest _

/-- The rounds of the loop are a success only if they were one before. -/
theorem emits_runPoints (args : ScanArgs α) (clients : List α) :
    ∀ (values : List Int) (overallSuccess : Bool),
      Emits dev (runPoints args clients values overallSuccess) fun r t => r = .ok true →
        overallSuccess = true ∧
          ∀ c, Followed (AcceptsPoint c) (fun _ post => TookData c post) t
  | [], _ => emits_pure fun h => ⟨Except.ok.inj h, fun _ => trivial⟩
  | ttpValue :: rest, overallSuccess => by
    have hstate : ∀ (reply : Except PyError ServerFSM) (t : List (SessionExchange α)),
        (∀ c, Followed (AcceptsPoint c) (fun _ post => TookData c post) t) →
        ∀ c, Followed (AcceptsPoint c) (fun _ post => TookData c post)
          (⟨.serverState, reply⟩ :: t) := by
      refine fun reply t ht c => ⟨?_, ht c⟩
      rintro ⟨value, heq⟩
      cases heq
    refine emits_ask_bind (c := (SessionCall.serverState : SessionCall α)) (fun _ h => by cases h)
      fun state => ?_
    split
    · exact emits_pure fun h => ⟨Except.ok.inj h, hstate _ _ fun _ => trivial⟩
    refine emits_bind (emits_setTtpRegister clients ttpValue) (fun _ _ _ h => by cases h)
      fun ready t hready => ?_
    have hready : ∀ c, ∀ x ∈ t, AcceptsPoint c x → c ∈ ready := hready
    split
    · next hempty =>
      rw [List.isEmpty_iff.1 hempty] at hready
      refine (emits_runPoints args clients rest overallSuccess).imp fun r t' ht' h => ?_
      refine ⟨(ht' h).1, hstate _ _ fun c => followed_append_right (fun x hx hacc _ => ?_)
        ((ht' h).2 c)⟩
      exact absurd (hready c x hx hacc) List.not_mem_nil
    · refine emits_bind ((emits_session_success _ ready).and (among_session _ ready))
        (fun _ _ _ h => by cases h) fun result t₁ ⟨hsuccess, hamong⟩ => ?_
      refine (emits_runPoints args clients rest _).imp fun r t₂ ht₂ h => ?_
      obtain ⟨hall, hrest⟩ := ht₂ h
      obtain ⟨hoverall, hresult⟩ := Bool.and_eq_true_iff.1 hall
      refine ⟨hoverall, hstate _ _ fun c => followed_append_right (fun x hx hacc t' => ?_)
        (followed_append_right (fun x hx hacc => ?_) (hrest c))⟩
      · exact ((hsuccess hresult c (hready c x hx hacc)).append t₂).prepend t'
      · exact absurd hacc (not_acceptsPoint_of_among (hamong x hx))

/-- A scan that closes as a success: every client whose write of a point's value was confirmed was
then enabled, and disabled, flushed and its file closed, all of it confirmed. -/
theorem scan_success_took_data (dev : Peers α) (args : ScanArgs α) (clients : List α)
    (ttpValues : List Int) :
    Guarded (fun x => x.call = .closeSession true) (fun _ h => ∀ c,
      Followed (AcceptsPoint c) (fun _ post => TookData c post) h) []
      (record dev (runTtpScanLoop args clients ttpValues)) := by
  have hscan : Emits dev (runTtpScanLoop args clients ttpValues) fun _ t =>
      Guarded (fun x => x.call = .closeSession true) (fun _ h => ∀ c,
        Followed (AcceptsPoint c) (fun _ post => TookData c post) h) [] t := by
    have hnone : ∀ {h t : List (SessionExchange α)}, (∀ x ∈ t, NoClose x.call) →
        Guarded (fun x => x.call = .closeSession true) (fun _ h => ∀ c,
          Followed (AcceptsPoint c) (fun _ post => TookData c post) h) h t :=
      fun ht => guarded_of_forall_not fun x hx => ht x hx true
    refine emits_bind ((emits_runPoints args clients ttpValues true).and
      (noClose_runPoints args clients ttpValues true)) (fun _ t ht => hnone ht.2)
      fun overallSuccess t₁ ht₁ => ?_
    have hstop : ∀ {t : List (SessionExchange α)}, (∀ x ∈ t, StopCall x.call) →
        ∀ x ∈ t, NoClose x.call := by
      rintro t ht x hx ok hcall
      obtain h | h := ht x hx <;> rw [hcall] at h <;> cases h
    refine emits_bind stopCall_stopScan
      (fun _ t ht => hnone (List.forall_mem_append.2 ⟨ht₁.2, hstop ht⟩)) fun _ t₂ ht₂ => ?_
    refine emits_ask (c := (SessionCall.closeSession overallSuccess : SessionCall α)) fun reply => ?_
    rw [← List.append_assoc]
    refine guarded_append (hnone (List.forall_mem_append.2 ⟨ht₁.2, hstop ht₂⟩))
      ⟨fun hclose c => ?_, trivial⟩
    obtain rfl : overallSuccess = true := by
      cases hclose
      rfl
    rw [List.nil_append]
    refine followed_append ((ht₁.1 rfl).2 c) (followed_of_forall_not ?_) fun x _ post h =>
      TookData.append h t₂
    rintro x hx ⟨value, rfl⟩
    obtain h | h := ht₂ _ hx <;> cases h
  exact hscan.run

end CalibrationOrchestrator

end MultiDAQ.Server
