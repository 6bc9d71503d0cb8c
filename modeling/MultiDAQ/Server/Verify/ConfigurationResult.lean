import MultiDAQ.Server.Startup
import MultiDAQ.Server.Verify.Liveness
import MultiDAQ.Server.Verify.Rejection

/-!
# The result of a configuration

Whatever is lost or admitted while clients are configured, the reports of `configure_clients` end
the configuration (`configuration_terminates`). A success report is accepted unless a successful
client still under configuration is off one of the two planes. Then the clients that succeeded and
were not lost are the operational ones; a report that is refused fails every client.
-/

namespace MultiDAQ.Server

open MultiDAQ.Lib

namespace Fleet

variable {ι : Type} [DecidableEq ι] {f : Fleet ι} {a : Act ι}

/-- No client under configuration is operational. -/
def TargetsIdle (f : Fleet ι) : Prop :=
  f.All fun _ m => m.state = .configuring → m.operational = false

/-- The action grants no flag and starts no configuration of a client by itself. -/
def Act.IsPerformed : Act ι → Prop
  | .clientEvent _ event => event = .acquisitionPlaneLost
  | .setOperational _ => False
  | _ => True

theorem targetsIdle_after (he : f.Enabled a) (ha : a.IsPerformed) (h : f.TargetsIdle) :
    (f.after a).TargetsIdle := by
  cases a with
  | idle | move _ _ | noteSource | clearPending => exact h
  | configure targets isPartial =>
    refine h.update fun i m _ hm hs => ?_
    by_cases hi : i ∈ targets
    · simp [hi]
    · simp only [hi, if_false] at hs
      simp [hm hs]
  | configured successful failed =>
    refine h.update fun i m _ hm hs => ?_
    by_cases hi : i ∈ failed
    · simp [hi] at hs
    · by_cases hi' : i ∈ successful
      · simp [hi, hi'] at hs
      · simp only [hi, hi', if_false] at hs ⊢
        simp [hm hs]
  | configurationFailed =>
    refine h.update fun i m _ hm hs => ?_
    by_cases hc : m.state = .configuring <;> simp [hc] at hs
  | acquire active =>
    refine h.update fun i m _ hm hs => ?_
    by_cases hi : i ∈ active <;> simp [hi] at hs ⊢
  | fatal | reset | clearOperational => exact h.update fun i m _ _ _ => rfl
  | finalize event terminal =>
    refine h.update fun i m _ hm hs => ?_
    cases ho : m.operational <;> simp [ho] at hs ⊢
  | finalized =>
    refine h.update fun i m _ hm hs => ?_
    cases ho : m.operational
    · simp [ho]
    · simp only [ho, if_true] at hs
      exact absurd (hm (Member.finalized_configuring hs)) (by simp [ho])
  | clientEvent j event =>
    obtain rfl : event = .acquisitionPlaneLost := ha
    refine h.update fun i m _ hm hs => ?_
    by_cases hij : i = j
    · simp [hij, acquisitionPlaneLost_ne] at hs
    · simp only [hij, if_false] at hs ⊢
      exact hm hs
  | enlist j identity =>
    intro i m hm hs
    simp only [after] at hm
    split at hm
    · obtain rfl := Option.some.inj hm
      cases hj : f.member j with
      | none => simp [hj, Member.admitted, Member.new] at hs
      | some m => exact h j m hj (by simpa [hj, Member.admitted] using hs)
    · exact h i m hm hs
  | forget j =>
    intro i m hm hs
    simp only [after] at hm
    split at hm
    · cases hm
    · exact h i m hm hs
  | clearMonitoring => exact h.update fun i m _ hm hs => hm hs
  | joinAcquisition _ | leaveAcquisition _ | clearAcquisition | joinMonitoring _
  | leaveMonitoring _ | dropOperational _ =>
    refine h.update fun i m _ hm => ?_
    split <;> first | exact hm | exact fun _ => rfl
  | _ => exact ha.elim

/-! ## The actions of a result -/

variable {i : ι} {successful failed : Set ι}

omit [DecidableEq ι] in
theorem mem_operational_update {g : ι → Member → Member} :
    i ∈ (f.update g).operational ↔ ∃ m, f.member i = some m ∧ (g i m).operational = true := by
  constructor
  · rintro ⟨m', hm', ho⟩
    obtain ⟨m, hm, rfl⟩ := Option.map_eq_some_iff.1 hm'
    exact ⟨m, hm, ho⟩
  · rintro ⟨m, hm, ho⟩
    exact ⟨g i m, congrArg (Option.map (g i)) hm, ho⟩

/-- A client that was configured, or lost meanwhile, ends up as `READY` or `ERROR`. -/
theorem settled_configured (hcovers : f.inState .configuring ⊆ successful ∪ failed)
    (h : f.Configured i) :
    i ∈ (f.after (.configured successful failed)).inState .ready ∨
      i ∈ (f.after (.configured successful failed)).inState .error := by
  obtain ⟨m, hm, hs⟩ : ∃ m, f.member i = some m ∧
      (i ∈ failed ∨ i ∈ successful ∨ m.state = .error) := by
    rcases h with h | ⟨m, hm, hs⟩
    · obtain ⟨m, hm, -⟩ := id h
      exact ⟨m, hm, (hcovers h).elim (fun hi => .inr (.inl hi)) .inl⟩
    · exact ⟨m, hm, .inr (.inr hs)⟩
  by_cases hf : i ∈ failed
  · exact .inr ((mem_inState_update (f := f)).2 ⟨m, hm, by simp [hf]⟩)
  · by_cases hi : i ∈ successful
    · exact .inl ((mem_inState_update (f := f)).2 ⟨m, hm, by simp [hf, hi]⟩)
    · exact .inr ((mem_inState_update (f := f)).2 ⟨m, hm, by simpa [hf, hi] using hs⟩)

theorem settled_configurationFailed (h : f.Configured i) :
    i ∈ (f.after .configurationFailed).inState .error := by
  refine (mem_inState_update (f := f)).2 ?_
  rcases h with ⟨m, hm, hs⟩ | ⟨m, hm, hs⟩ <;> exact ⟨m, hm, by simp [hs]⟩

/-- A result makes exactly the successful clients operational. -/
theorem operational_configured (hsuccessful : successful ⊆ f.inState .configuring)
    (h : i ∉ f.operational) :
    i ∈ (f.after (.configured successful failed)).operational ↔ i ∈ successful := by
  refine (mem_operational_update (f := f)).trans ⟨?_, fun hi => ?_⟩
  · rintro ⟨m, hm, ho⟩
    by_contra hi
    simp only [hi, if_false] at ho
    split at ho
    · exact h ⟨m, hm, ho⟩
    · cases ho
  · obtain ⟨m, hm, -⟩ := hsuccessful hi
    exact ⟨m, hm, by simp [hi]⟩

theorem not_operational_configurationFailed (h : i ∉ f.operational) :
    i ∉ (f.after .configurationFailed).operational := by
  intro hi
  obtain ⟨m, hm, ho⟩ := (mem_operational_update (f := f)).1 hi
  dsimp only at ho
  split at ho
  · exact h ⟨m, hm, ho⟩
  · cases ho

end Fleet

/-! ## The text of a report -/

theorem mem_dropWhile {α : Type} {p : α → Bool} {x : α} (hp : p x = false) :
    ∀ {l : List α}, x ∈ l → x ∈ l.dropWhile p
  | [], h => absurd h List.not_mem_nil
  | y :: l, h => by
    cases hy : p y with
    | false => simpa [List.dropWhile_cons, hy] using h
    | true =>
      have hne : x ≠ y := fun e => by simp [← e, hp] at hy
      simpa [List.dropWhile_cons, hy] using
        mem_dropWhile hp ((List.mem_cons.1 h).resolve_left hne)

/-- A text with a character that is no blank passes the check of the arguments. -/
theorem nonBlank_isSome {text : String} {c : Char} (hc : c ∈ text.toList)
    (hblank : pySpace c = false) : (nonBlank (some text)).isSome := by
  have hmem : c ∈ (strip text).toList := by
    unfold strip stripChars rstripChars
    rw [String.toList_ofList, List.mem_reverse]
    exact mem_dropWhile hblank (List.mem_reverse.2 (mem_dropWhile hblank hc))
  have hne : (strip text).isEmpty = false := by
    cases he : (strip text).isEmpty with
    | false => rfl
    | true =>
      rw [String.isEmpty_iff] at he
      rw [he] at hmem
      cases hmem
  simp [nonBlank, hne]

theorem source_nonBlank : (nonBlank (some "startup_service")).isSome := by decide

theorem successReport_plain (mode : String) (successful failed : List ClientId) (now : Nat) :
    (successReport mode successful failed now).Plain .configurationSucceeded where
  event := rfl
  reason := nonBlank_isSome (c := 'S') (by simp) (by decide)
  source := source_nonBlank
  requested := rfl

theorem failureReport_plain (mode : String) (failed : List ClientId) (now : Nat) :
    (failureReport mode failed now).Plain .configurationFailed where
  event := rfl
  reason := nonBlank_isSome (c := 'S') (by simp) (by decide)
  source := source_nonBlank
  requested := rfl

theorem fallbackReport_plain (now : Nat) : (fallbackReport now).Plain .configurationFailed where
  event := rfl
  reason := nonBlank_isSome (c := 'S') (by simp) (by decide)
  source := source_nonBlank
  requested := rfl

/-! ## The operations the server performs -/

/-- The operations the rest of the server performs: the liveness service sends the only client event
there is, and nothing sets the operational clients directly. -/
def ServerOp.IsPerformed : ServerOp → Prop
  | .processClientEvent c => c.event = some .acquisitionPlaneLost
  | .setOperationalClients _ => False
  | _ => True

namespace ServerState

variable {s : ServerState} {context : EventContext} {successful failed : List ClientId}

theorem isPerformed_act {op : ServerOp} {a : Fleet.Act ClientId} (hop : op.IsPerformed)
    (ha : op.Acts a) : a.IsPerformed := by
  cases op with
  | processEvent c => cases a <;> trivial
  | processClientEvent c =>
    rcases ha with rfl | ⟨cid, event, -, hevent, rfl⟩
    · trivial
    · exact Option.some.inj (hevent.symm.trans hop)
  | setOperationalClients _ => exact hop.elim
  | addControlClient _ _ _ => rcases ha with rfl | ⟨cid, -, -, rfl⟩ <;> trivial
  | addAcquisitionClient _ | addMonitoringClient _ =>
    rcases ha with rfl | ⟨cid, -, rfl⟩ <;> trivial
  | _ => cases ha; trivial

/-- After operations the server performs, no client under configuration is operational. -/
theorem targetsIdle_runOps {mode : String} {ops : List ServerOp}
    (h : ∀ op ∈ ops, op.IsPerformed) : ((init mode).runOps ops).fleet.TargetsIdle := by
  have hinit : (init mode).fleet.PendingAllowed ∧ (init mode).fleet.TargetsIdle :=
    ⟨nofun, fun i m hm => by cases hm⟩
  refine (run_invariant (I := fun s : ServerState => s.fleet.PendingAllowed ∧ s.fleet.TargetsIdle)
    (fun s op ⟨hp, hidle⟩ hop => ?_) hinit (meets_of_forall h _)).2
  obtain ⟨a, ha, he, hf⟩ := s.step_act op hp
  rw [hf]
  exact ⟨pendingAllowed_after ha hp, Fleet.targetsIdle_after he (isPerformed_act hop ha) hidle⟩

theorem IsReachable.sourceOk (h : s.IsReachable) : s.fleet.SourceOk :=
  reachable_fleet_invariant (fun _ => nofun) (fun _ _ _ _ he hs => Fleet.sourceOk_after he hs) h

theorem IsReachable.member_nil (h : s.IsReachable) : s.fleet.member [] = none := by
  refine reachable_fleet_invariant (I := fun f => f.member [] = none) (fun _ => rfl)
    (fun f op a ha _ hf => Fleet.member_none_after hf fun identity heq => ?_) h
  subst heq
  cases op <;> simp [ServerOp.Acts, Fleet.Act.OfEvent] at ha

/-! ## What a report does to a server that configures -/

/-- A transition is accepted exactly when the updates of its event are. -/
theorem transition_fst {event : ServerFSMEvent} {next : ServerFSM} (hn : next ≠ .finalizing)
    (he : event ≠ .configurationStarted) :
    (s.transition event next context none).1 =
      (s.applyEvent event (s.resolveNext event next) context).isSome := by
  simp only [transition, notePending, if_neg hn, Option.isSome_none, Bool.false_eq_true, if_false,
    noteSource_of_ne he]
  cases s.applyEvent event (s.resolveNext event next) context <;> rfl

theorem applyConfigurationFailed_isSome
    (hf : normalizeClientIds (context.metadata.failedClients.get
      ((s.listClientsInState .configuring).map .bytes)) = some failed) :
    (s.applyConfigurationFailed context).isSome ↔
      ∀ cid, cid ∈ failed ↔ cid ∈ s.fleet.inState .configuring := by
  have hsame : sameIds failed (s.listClientsInState .configuring) = true ↔
      ∀ cid, cid ∈ failed ↔ cid ∈ s.fleet.inState .configuring := by
    rw [sameIds_iff]
    exact forall_congr' fun cid => by rw [mem_listClientsInState]
  rw [← hsame]
  unfold applyConfigurationFailed
  simp only [hf]
  cases sameIds failed (s.listClientsInState .configuring) <;> simp

/-- A failure that names exactly the clients under configuration is accepted. -/
theorem transition_failed (hrun : s.runState = .configuring)
    (hf : normalizeClientIds (context.metadata.failedClients.get
      ((s.listClientsInState .configuring).map .bytes)) = some failed)
    (hall : ∀ cid, cid ∈ failed ↔ cid ∈ s.fleet.inState .configuring) :
    (s.transition .configurationFailed .connected context none).1 = true ∧
      (s.transition .configurationFailed .connected context none).2.fleet =
        s.fleet.after .configurationFailed := by
  have haccepted : (s.transition .configurationFailed .connected context none).1 = true :=
    (transition_fst (by decide) (by decide)).trans ((applyConfigurationFailed_isSome hf).2 hall)
  obtain ⟨a, ha, he, hacc, hfleet⟩ :=
    @transition_configurationFailed s context none .connected hrun rfl
  rcases act_of_configurationFailed ha he with rfl | rfl
  · exact absurd (haccepted.symm.trans hacc) nofun
  · exact ⟨haccepted, hfleet⟩

/-- A success is accepted exactly when its lists pass the checks. -/
theorem transition_succeeded (hrun : s.runState = .configuring)
    (hs : normalizeClientIds (context.metadata.successfulClients.get []) = some successful)
    (hf : normalizeClientIds (context.metadata.failedClients.get []) = some failed) :
    ((s.transition .configurationSucceeded .ready context none).1 = true ↔
        s.ResultOk successful failed) ∧
      ((s.transition .configurationSucceeded .ready context none).1 = true →
        (s.transition .configurationSucceeded .ready context none).2.fleet =
          s.fleet.after (.configured { i | i ∈ successful } { i | i ∈ failed })) := by
  have hfst : (s.transition .configurationSucceeded .ready context none).1 =
      (s.applyConfigurationSucceeded context).isSome := transition_fst (by decide) (by decide)
  rw [hfst]
  refine ⟨applyConfigurationSucceeded_isSome hs hf, fun hsome => ?_⟩
  obtain ⟨s₃, h₃⟩ := Option.isSome_iff_exists.1 hsome
  obtain ⟨successful', failed', hs', hf', hfleet⟩ := applyConfigurationSucceeded_fleet h₃
  obtain rfl := Option.some.inj (hs.symm.trans hs')
  obtain rfl := Option.some.inj (hf.symm.trans hf')
  simp only [transition, notePending, reduceCtorEq, if_false, Option.isSome_none,
    Bool.false_eq_true, resolveNext_of_ne, noteSource_of_ne, ne_eq, not_false_eq_true, applyEvent,
    h₃]
  rw [fleet_commit, hfleet, if_neg (by simp), if_pos (by simp [hrun]), if_pos (by simp [hrun])]
  rfl

/-- Dropping the lost clients keeps the clients of a result that are still under configuration; a
success without one becomes a failure. -/
theorem dropLostClients_report {event : ServerFSMEvent} (metadata : EventMetadata)
    (next : ServerFSM) (hrun : s.runState = .configuring)
    (he : event = .configurationSucceeded ∧ successful ≠ [] ∨ event = .configurationFailed)
    (hs : normalizeClientIds (metadata.successfulClients.get []) = some successful)
    (hf : ∀ d, normalizeClientIds (metadata.failedClients.get d) = some failed) :
    ∃ metadata' successful' failed',
      normalizeClientIds (metadata'.successfulClients.get []) = some successful' ∧
      (∀ d, normalizeClientIds (metadata'.failedClients.get d) = some failed') ∧
      (∀ cid, cid ∈ successful' ↔ cid ∈ successful ∧ cid ∈ s.fleet.inState .configuring) ∧
      (∀ cid, cid ∈ failed' ↔ cid ∈ failed ∧ cid ∈ s.fleet.inState .configuring) ∧
      s.dropLostClients event metadata next = some
        (if event = .configurationSucceeded ∧ successful' = [] then
          (.configurationFailed, metadata', .connected)
        else (event, metadata', next)) := by
  have hcond : s.runState = .configuring ∧
      (event = .configurationSucceeded ∨ event = .configurationFailed) :=
    ⟨hrun, he.imp And.left id⟩
  have hexpected (l : List ClientId) (cid : ClientId) :
      cid ∈ l.filter ((s.listClientsInState .configuring).contains ·) ↔
        cid ∈ l ∧ cid ∈ s.fleet.inState .configuring := by
    rw [List.mem_filter, List.contains_iff_mem, mem_listClientsInState]
  unfold dropLostClients
  simp only [if_pos hcond, hs, hf]
  split
  · next hall =>
    -- nobody was lost: the result stays as it is
    rw [List.all_eq_true] at hall
    have hmem (l : List ClientId) (hl : ∀ cid ∈ l, cid ∈ successful ++ failed) (cid : ClientId) :
        cid ∈ l ↔ cid ∈ l ∧ cid ∈ s.fleet.inState .configuring :=
      ⟨fun h => ⟨h, mem_listClientsInState.1 (List.contains_iff_mem.1 (hall cid (hl cid h)))⟩,
        And.left⟩
    refine ⟨metadata, successful, failed, hs, hf,
      hmem _ fun _ => List.mem_append_left _, hmem _ fun _ => List.mem_append_right _, ?_⟩
    have hne : ¬(event = .configurationSucceeded ∧ successful = []) := by
      rintro ⟨rfl, hnil⟩
      rcases he with ⟨-, hne⟩ | he
      · exact hne hnil
      · cases he
    rw [if_neg hne]
  · have hne (l : List ClientId) {ids : Option (List PyId)} (h : normalizeClientIds ids = some l) :
        ∀ cid ∈ l.filter ((s.listClientsInState .configuring).contains ·), cid ≠ [] :=
      fun cid hcid => ne_nil_of_mem_normalize h (List.mem_of_mem_filter hcid)
    obtain ⟨successful', hs', hsmem⟩ := normalizeClientIds_bytes (hne successful hs)
    obtain ⟨failed', hf', hfmem⟩ := normalizeClientIds_bytes (hne failed (hf []))
    refine ⟨{ metadata with
        successfulClients := .ids ((successful.filter
          ((s.listClientsInState .configuring).contains ·)).map .bytes)
        failedClients := .ids ((failed.filter
          ((s.listClientsInState .configuring).contains ·)).map .bytes) },
      successful', failed', hs', fun _ => hf',
      fun cid => (hsmem cid).trans (hexpected _ _), fun cid => (hfmem cid).trans (hexpected _ _),
      ?_⟩
    have hnil : successful' = [] ↔
        successful.filter ((s.listClientsInState .configuring).contains ·) = [] := by
      simp only [List.eq_nil_iff_forall_not_mem, hsmem]
    simp only [hnil]
    split <;> rfl

/-- The event a report is handled as, on a server that configures. -/
theorem processEvent_report {c : EventCall} {event : ServerFSMEvent} {next : ServerFSM}
    (hc : c.Plain event) (hrun : s.runState = .configuring)
    (ht : transitionTable .configuring event = some next)
    {event' : ServerFSMEvent} {metadata' : EventMetadata} {next' : ServerFSM}
    (hd : s.dropLostClients event c.metadata next = some (event', metadata', next')) :
    ∃ context, context.metadata = metadata' ∧
      s.processEvent c = s.transition event' next' context none := by
  obtain ⟨context, hv, hmetadata⟩ := hc.validated
  rw [← hmetadata] at hd
  rw [← hrun] at ht
  refine ⟨{ context with event := .inl event', metadata := metadata' }, rfl, ?_⟩
  simp only [processEvent, hv, ht, hd, hc.requested, Option.getD_none]

/-- A result of a configuration: no client succeeded and failed, and every client under
configuration did one of the two. -/
structure IsResult (s : ServerState) (successful failed : List ClientId) : Prop where
  ids : ∀ cid, cid ∈ successful ∨ cid ∈ failed → cid ≠ []
  disjoint : ∀ cid ∈ successful, cid ∉ failed
  covers : ∀ cid ∈ s.fleet.inState .configuring, cid ∈ successful ∨ cid ∈ failed

/-- What a result comes to that is accepted: without the lost clients, and as a failure if every
successful client is lost. -/
def Outcome (s : ServerState) (successful failed : List ClientId) (a : Fleet.Act ClientId) : Prop :=
  a = .configured { i | i ∈ successful ∧ i ∈ s.fleet.inState .configuring }
      { i | i ∈ failed ∧ i ∈ s.fleet.inState .configuring } ∨
    a = .configurationFailed ∧ ∀ cid ∈ successful, cid ∉ s.fleet.inState .configuring

variable (mode : String) (now : Nat)

/-- A success report is accepted exactly when every successful client that is still under
configuration is on both planes. -/
theorem processEvent_successReport (hrun : s.runState = .configuring)
    (h : s.IsResult successful failed) (hne : successful ≠ []) :
    ((s.processEvent (successReport mode successful failed now)).1 = true ↔
        ∀ cid ∈ successful, cid ∈ s.fleet.inState .configuring → cid ∈ s.fleet.common) ∧
      ((s.processEvent (successReport mode successful failed now)).1 = true →
        ∃ a, s.Outcome successful failed a ∧
          (s.processEvent (successReport mode successful failed now)).2.fleet =
            s.fleet.after a) := by
  obtain ⟨S, hS, hSmem⟩ := normalizeClientIds_bytes fun cid hcid => h.ids cid (.inl hcid)
  obtain ⟨F, hF, hFmem⟩ := normalizeClientIds_bytes fun cid hcid => h.ids cid (.inr hcid)
  have hSne : S ≠ [] := by
    obtain ⟨cid, hcid⟩ := List.exists_mem_of_ne_nil _ hne
    exact List.ne_nil_of_mem ((hSmem cid).2 hcid)
  obtain ⟨metadata, S', F', hS', hF', hSmem', hFmem', hd⟩ :=
    dropLostClients_report (successReport mode successful failed now).metadata .ready hrun (.inl ⟨rfl, hSne⟩)
      hS fun _ => hF
  simp only [hSmem] at hSmem'
  simp only [hFmem] at hFmem'
  by_cases hnil : S' = []
  · rw [if_pos ⟨rfl, hnil⟩] at hd
    obtain ⟨context, rfl, he⟩ := processEvent_report (successReport_plain _ _ _ _) hrun rfl hd
    have hlost : ∀ cid ∈ successful, cid ∉ s.fleet.inState .configuring := by
      intro cid hcid hconf
      have := (hSmem' cid).2 ⟨hcid, hconf⟩
      rw [hnil] at this
      cases this
    have hall : ∀ cid, cid ∈ F' ↔ cid ∈ s.fleet.inState .configuring := by
      intro cid
      rw [hFmem']
      exact ⟨And.right, fun hconf =>
        ⟨(h.covers cid hconf).resolve_left fun hcid => hlost cid hcid hconf, hconf⟩⟩
    obtain ⟨htrue, hfleet⟩ := transition_failed hrun (hF' _) hall
    rw [he]
    exact ⟨⟨fun _ cid hcid hconf => absurd hconf (hlost cid hcid), fun _ => htrue⟩,
      fun _ => ⟨_, .inr ⟨rfl, hlost⟩, hfleet⟩⟩
  · rw [if_neg fun hc => hnil hc.2] at hd
    obtain ⟨context, rfl, he⟩ := processEvent_report (successReport_plain _ _ _ _) hrun rfl hd
    obtain ⟨hiff, hfleet⟩ := transition_succeeded hrun hS' (hF' [])
    rw [he, hiff]
    constructor
    · constructor
      · intro hok cid hcid hconf
        exact hok.common cid ((hSmem' cid).2 ⟨hcid, hconf⟩)
      · intro hcommon
        refine ⟨hnil, fun cid hcid hcid' => ?_, fun cid => ?_, fun cid hcid => ?_⟩
        · exact h.disjoint cid ((hSmem' cid).1 hcid).1 ((hFmem' cid).1 hcid').1
        · rw [hSmem', hFmem', ← or_and_right]
          exact ⟨And.right, fun hconf => ⟨h.covers cid hconf, hconf⟩⟩
        · exact hcommon cid ((hSmem' cid).1 hcid).1 ((hSmem' cid).1 hcid).2
    · intro hok
      refine ⟨_, .inl rfl, (hfleet (hiff.2 hok)).trans ?_⟩
      have hset (l : List ClientId) (L : List ClientId)
          (hl : ∀ cid, cid ∈ L ↔ cid ∈ l ∧ cid ∈ s.fleet.inState .configuring) :
          ({ i | i ∈ L } : Set ClientId) = { i | i ∈ l ∧ i ∈ s.fleet.inState .configuring } :=
        Set.ext hl
      rw [hset _ _ hSmem', hset _ _ hFmem']

/-- The report that every client failed is accepted. -/
theorem processEvent_failureReport (hrun : s.runState = .configuring) (h : s.IsResult [] failed) :
    (s.processEvent (failureReport mode failed now)).2.fleet =
      s.fleet.after .configurationFailed := by
  obtain ⟨F, hF, hFmem⟩ := normalizeClientIds_bytes fun cid hcid => h.ids cid (.inr hcid)
  obtain ⟨metadata, S', F', -, hF', -, hFmem', hd⟩ :=
    dropLostClients_report (failureReport mode failed now).metadata .connected hrun (.inr rfl)
      (show _ = some [] from rfl) fun _ => hF
  rw [if_neg (by simp)] at hd
  obtain ⟨context, rfl, he⟩ := processEvent_report (failureReport_plain _ _ _) hrun rfl hd
  rw [he]
  refine (transition_failed hrun (hF' _) fun cid => ?_).2
  rw [hFmem', hFmem]
  exact ⟨And.right, fun hconf => ⟨(h.covers cid hconf).resolve_left List.not_mem_nil, hconf⟩⟩

/-- The bare report of a failure is accepted. -/
theorem processEvent_fallbackReport (hrun : s.runState = .configuring)
    (hids : s.fleet.member [] = none) :
    (s.processEvent (fallbackReport now)).2.fleet = s.fleet.after .configurationFailed := by
  have hd : s.dropLostClients .configurationFailed (fallbackReport now).metadata .connected =
      some (.configurationFailed, (fallbackReport now).metadata, .connected) := by
    simp [dropLostClients, fallbackReport, IdsEntry.get, normalizeClientIds, hrun]
  obtain ⟨context, hmetadata, he⟩ := processEvent_report (fallbackReport_plain now) hrun rfl hd
  have hne : ∀ cid ∈ s.listClientsInState .configuring, cid ≠ [] := by
    rintro _ hcid rfl
    obtain ⟨m, hm, -⟩ := mem_listClientsInState.1 hcid
    rw [hids] at hm
    cases hm
  obtain ⟨F, hF, hFmem⟩ := normalizeClientIds_bytes hne
  rw [he]
  refine (transition_failed hrun ?_ fun cid => (hFmem cid).trans mem_listClientsInState).2
  rw [hmetadata]
  exact hF

/-! ## The end of a configuration -/

/-- The success report is made and refused. -/
def Refuses (s : ServerState) (mode : String) (successful failed : List ClientId) (now : Nat) :
    Prop :=
  successful ≠ [] ∧ (s.processEvent (successReport mode successful failed now)).1 = false

variable {ops during between : List ServerOp}

/-- The reports come to the outcome of the result; if it is refused, to a failure after what other
threads did in between. -/
theorem reportConfiguration_fleet (hC : s.Configuring s.pendingConfigurationSource
      s.pendingConfigurationPartial) (h : s.IsResult successful failed)
    (hbetween : ∀ op ∈ between, op.IsLiveness) :
    ¬s.Refuses mode successful failed now ∧
        (∀ cid ∈ successful, cid ∈ s.fleet.inState .configuring → cid ∈ s.fleet.common) ∧
        (∃ a, s.Outcome successful failed a ∧
          (s.reportConfiguration mode successful failed between now).fleet = s.fleet.after a) ∨
      s.Refuses mode successful failed now ∧
        (∃ cid ∈ successful, cid ∈ s.fleet.inState .configuring ∧ cid ∉ s.fleet.common) ∧
        (s.reportConfiguration mode successful failed between now).fleet =
          (s.runOps between).fleet.after .configurationFailed := by
  by_cases hne : successful = []
  · subst hne
    exact .inl ⟨fun hr => hr.1 rfl, nofun, _, .inr ⟨rfl, nofun⟩,
      processEvent_failureReport mode now hC.runState h⟩
  · have hempty : successful.isEmpty = false := List.isEmpty_eq_false_iff.2 hne
    obtain ⟨hiff, haccepted⟩ :=
      processEvent_successReport mode now hC.runState h hne
    unfold reportConfiguration
    cases hr : (s.processEvent (successReport mode successful failed now)).1 with
    | true =>
      obtain ⟨a, ha, hfleet⟩ := haccepted hr
      refine .inl ⟨fun h => absurd (h.2.symm.trans hr) nofun, hiff.1 hr, a, ha, ?_⟩
      simpa [hempty, hr] using hfleet
    | false =>
      have hsame : (s.processEvent (successReport mode successful failed now)).2 = s :=
        processEvent_rejected (by simp [successReport]) hr
      have hlost : ¬∀ cid ∈ successful, cid ∈ s.fleet.inState .configuring →
          cid ∈ s.fleet.common := fun hall => absurd (hiff.2 hall) (by simp [hr])
      push Not at hlost
      refine .inr ⟨⟨hne, hr⟩, hlost, ?_⟩
      have hC' := hC.runOps hbetween
      simp only [hempty, hr, hsame, Bool.false_eq_true, if_false]
      exact processEvent_fallbackReport now hC'.runState hC'.ids

/-- What the losses leave of a configuration is a result of it still. -/
theorem isResult_runOps {source : Option ServerFSM} {isPartial : Bool}
    (hC : s.Configuring source isPartial) (hduring : ∀ op ∈ during, op.IsLiveness)
    (hdisjoint : ∀ cid ∈ successful, cid ∉ failed)
    (hcovers : ∀ cid, cid ∈ successful ∨ cid ∈ failed ↔ cid ∈ s.fleet.inState .configuring) :
    (s.runOps during).IsResult successful failed where
  ids := by
    rintro cid hcid rfl
    obtain ⟨m, hm, -⟩ := (hcovers []).1 hcid
    exact absurd (hC.ids.symm.trans hm) nofun
  disjoint := hdisjoint
  covers cid hcid := (hcovers cid).2 ((mem_configuring_runOps hC hduring).1 hcid).1

theorem Outcome.runState {a : Fleet.Act ClientId} (ha : s.Outcome successful failed a)
    (hsource : s.fleet.SourceOk) : (s.fleet.after a).runState ≠ .configuring := by
  rcases ha with rfl | ⟨rfl, -⟩
  · exact nofun
  · show s.pendingConfigurationSource.getD .connected ≠ .configuring
    cases hs : s.pendingConfigurationSource with
    | none => decide
    | some r => rcases hsource r hs with rfl | rfl <;> decide

theorem Outcome.settled {a : Fleet.Act ClientId} (ha : s.Outcome successful failed a)
    (h : s.IsResult successful failed) {cid : ClientId} (hcid : s.fleet.Configured cid) :
    cid ∈ (s.fleet.after a).inState .ready ∨ cid ∈ (s.fleet.after a).inState .error := by
  rcases ha with rfl | ⟨rfl, -⟩
  · exact Fleet.settled_configured
      (fun i hi => (h.covers i hi).imp (fun hi' => ⟨hi', hi⟩) fun hi' => ⟨hi', hi⟩) hcid
  · exact .inr (Fleet.settled_configurationFailed hcid)

theorem Outcome.operational {a : Fleet.Act ClientId} (ha : s.Outcome successful failed a)
    {cid : ClientId} (hcid : cid ∉ s.fleet.operational) :
    cid ∈ (s.fleet.after a).operational ↔
      cid ∈ successful ∧ cid ∈ s.fleet.inState .configuring := by
  rcases ha with rfl | ⟨rfl, hlost⟩
  · exact Fleet.operational_configured (fun i hi => hi.2) hcid
  · exact ⟨fun ho => absurd ho (Fleet.not_operational_configurationFailed hcid),
      fun hi => absurd hi.2 (hlost cid hi.1)⟩

/-- The reports of a configuration end it, whatever is lost or admitted while the clients are
configured and between the two reports. The success report is refused exactly when a successful
client that was not lost is off one of the two planes. Every client of the configuration that is
still registered is `READY` or `ERROR`; the operational ones are those that succeeded and were not
lost, and none if the report was refused. -/
theorem configuration_terminates {initialMode : String} (mode : String) (now : Nat)
    (hrun : ((init initialMode).runOps ops).runState = .configuring)
    (hduring : ∀ op ∈ during, op.IsLiveness) (hbetween : ∀ op ∈ between, op.IsLiveness)
    (hdisjoint : ∀ cid ∈ successful, cid ∉ failed)
    (hcovers : ∀ cid, cid ∈ successful ∨ cid ∈ failed ↔
      cid ∈ ((init initialMode).runOps ops).listClientsInState .configuring) :
    let s := (init initialMode).runOps ops
    let s₁ := s.runOps during
    let s₂ := s₁.reportConfiguration mode successful failed between now
    let refused := s₁.Refuses mode successful failed now
    s₂.runState ≠ .configuring ∧
    (refused ↔ ∃ cid ∈ successful, cid ∈ s₁.listClientsInState .configuring ∧
      cid ∉ s₁.commonPlaneClientIds) ∧
    (∀ cid, cid ∈ successful ∨ cid ∈ failed →
      (∀ op ∈ during, ¬op.Forgets cid) → (refused → ∀ op ∈ between, ¬op.Forgets cid) →
      cid ∈ s₂.listClientsInState .ready ∨ cid ∈ s₂.listClientsInState .error) ∧
    (∀ cid, cid ∈ successful ∨ cid ∈ failed →
      (∀ op ∈ ops, op.IsPerformed) ∨ cid ∉ s.operationalClientIds →
      (cid ∈ s₂.operationalClientIds ↔
        ¬refused ∧ cid ∈ successful ∧ ∀ op ∈ during, ¬op.Loses cid)) := by
  intro s s₁ s₂ refused
  have hreachable : s.IsReachable := ⟨initialMode, ops, rfl⟩
  have hC : s.Configuring s.pendingConfigurationSource s.pendingConfigurationPartial :=
    ⟨hreachable.pendingAllowed, hreachable.member_nil, hrun, rfl, rfl⟩
  have hC₁ : s₁.Configuring s₁.pendingConfigurationSource s₁.pendingConfigurationPartial := by
    have h := hC.runOps hduring
    exact ⟨h.pending, h.ids, h.runState, rfl, rfl⟩
  simp only [mem_listClientsInState, mem_commonPlaneClientIds,
    mem_operationalClientIds] at hcovers ⊢
  have hresult := isResult_runOps hC hduring hdisjoint hcovers
  have htarget {cid : ClientId} (hcid : cid ∈ successful ∨ cid ∈ failed) :
      s.fleet.Configured cid := .inl ((hcovers cid).1 hcid)
  -- a target that is not operational stays so until the report
  have hidle {cid : ClientId} (hcid : cid ∈ successful ∨ cid ∈ failed)
      (h : (∀ op ∈ ops, op.IsPerformed) ∨ cid ∉ s.fleet.operational) :
      cid ∉ s₁.fleet.operational := by
    refine not_operational_runOps hC hduring ?_
    rcases h with h | h
    · rintro ⟨m, hm, ho⟩
      obtain ⟨m', hm', hs⟩ := (hcovers cid).1 hcid
      obtain rfl := Option.some.inj (hm.symm.trans hm')
      exact absurd ((targetsIdle_runOps h cid m hm hs).symm.trans ho) nofun
    · exact h
  rcases reportConfiguration_fleet mode now hC₁ hresult hbetween with
    ⟨hnot, hcommon, a, ha, hfleet⟩ | ⟨hrefused, hoff, hfleet⟩
  · rw [show s₂.runState = s₂.fleet.runState from rfl, hfleet]
    refine ⟨ha.runState (hreachable.runOps during).sourceOk,
      ⟨fun h => absurd h hnot, fun ⟨cid, hcid, hconf, hoff⟩ => absurd (hcommon cid hcid hconf) hoff⟩,
      fun cid hcid hforgets _ => ha.settled hresult
        (configured_runOps hC hduring hforgets (htarget hcid)),
      fun cid hcid h => ?_⟩
    rw [ha.operational (hidle hcid h), mem_configuring_runOps hC hduring, ← hcovers]
    exact ⟨fun h => ⟨hnot, h.1, h.2.2⟩, fun h => ⟨h.2.1, hcid, h.2.2⟩⟩
  · have hfailed : (s₁.runOps between).Outcome [] [] .configurationFailed := .inr ⟨rfl, nofun⟩
    have hbetween₁ := hC₁.runOps hbetween
    rw [show s₂.runState = s₂.fleet.runState from rfl, hfleet]
    refine ⟨hfailed.runState ((hreachable.runOps during).runOps between).sourceOk,
      ⟨fun _ => hoff, fun _ => hrefused⟩, fun cid hcid hforgets hforgets' => .inr ?_,
      fun cid hcid h => ?_⟩
    · refine Fleet.settled_configurationFailed (configured_runOps hC₁ hbetween
        (hforgets' hrefused) ?_)
      exact configured_runOps hC hduring hforgets (htarget hcid)
    · refine ⟨fun ho => ?_, fun h => absurd hrefused h.1⟩
      refine absurd ho (Fleet.not_operational_configurationFailed ?_)
      exact not_operational_runOps hC₁ hbetween (hidle hcid h)

/-- The operations that start the configuration of two clients. -/
def configuringTwo : List ServerOp :=
  [.processEvent { event := some .controlConnectionSucceeded, reason := some "connect"
                   source := some "connection" },
   .processEvent { event := some .acquisitionConnectionSucceeded, reason := some "connect"
                   source := some "connection" },
   .addControlClient (.bytes [65]) none 0, .addAcquisitionClient (.bytes [65]),
   .addControlClient (.bytes [66]) none 0, .addAcquisitionClient (.bytes [66]),
   .processEvent { event := some .configurationStarted, reason := some "configure"
                   source := some "startup_service" }]

theorem configuringTwo_isPerformed : ∀ op ∈ configuringTwo, op.IsPerformed := by
  simp [configuringTwo, ServerOp.IsPerformed]

theorem configuringTwo_covers (cid : ClientId) :
    cid ∈ [[65], [66]] ∨ cid ∈ ([] : List ClientId) ↔
      cid ∈ ((init "test").runOps configuringTwo).listClientsInState .configuring := by
  have htargets : ((init "test").runOps configuringTwo).listClientsInState .configuring =
      [[65], [66]] := by decide
  simp [htargets]

/-- The loss of a client on the acquisition plane, and its return. -/
def lostAndBack : List ServerOp :=
  [.processClientEvent { clientId := .bytes [66], event := some .acquisitionPlaneLost
                         reason := some "lost", source := some "client_liveness_service" },
   .removeAcquisitionClient [66], .addAcquisitionClient (.bytes [66])]

theorem configuration_terminates_lostAndBack :
    let s₂ := (((init "test").runOps configuringTwo).runOps lostAndBack).reportConfiguration
      "test" [[65], [66]] [] [] 0
    s₂.runState ≠ .configuring ∧ [65] ∈ s₂.operationalClientIds ∧
      [66] ∉ s₂.operationalClientIds := by
  have hduring : ∀ op ∈ lostAndBack, op.IsLiveness := by
    simp only [lostAndBack, List.forall_mem_cons]
    exact ⟨⟨rfl, by decide, by decide⟩, trivial, trivial, List.forall_mem_nil _⟩
  obtain ⟨hrun, -, -, hoperational⟩ := configuration_terminates "test" 0 (by decide) hduring
    (List.forall_mem_nil _) (by decide) configuringTwo_covers
  have hmade : ¬(((init "test").runOps configuringTwo).runOps lostAndBack).Refuses "test"
      [[65], [66]] [] 0 := fun h => absurd h.2 (by decide)
  refine ⟨hrun, (hoperational [65] (.inl (by simp)) (.inl configuringTwo_isPerformed)).2
    ⟨hmade, by simp, ?_⟩, fun ho => ?_⟩
  · simp [lostAndBack, ServerOp.Loses]
  · have hlost := ((hoperational [66] (.inl (by simp)) (.inl configuringTwo_isPerformed)).1 ho).2.2
    exact hlost _ List.mem_cons_self rfl

/-- While a client lost on the control plane is being removed, a success report is refused, and the
client that succeeded and stays is not operational. -/
theorem survivor_not_operational :
    ¬∀ (initialMode : String) (ops during between : List ServerOp)
        (successful failed : List ClientId) (mode : String) (now : Nat),
      (∀ op ∈ ops, op.IsPerformed) → ((init initialMode).runOps ops).runState = .configuring →
      (∀ op ∈ during, op.IsLiveness) → (∀ op ∈ between, op.IsLiveness) →
      (∀ cid ∈ successful, cid ∉ failed) →
      (∀ cid, cid ∈ successful ∨ cid ∈ failed ↔
        cid ∈ ((init initialMode).runOps ops).listClientsInState .configuring) →
      ∀ cid, cid ∈ successful ∨ cid ∈ failed →
        (cid ∈ ((((init initialMode).runOps ops).runOps during).reportConfiguration
            mode successful failed between now).operationalClientIds ↔
          cid ∈ successful ∧ ∀ op ∈ during ++ between, ¬op.Loses cid) := by
  intro h
  have hoperational := (h "test" configuringTwo [.removeAcquisitionClient [66]]
    [.removeMonitoringClient [66], .removeClient [66]] [[65], [66]] [] "test" 0
    configuringTwo_isPerformed (by decide) (by simp [ServerOp.IsLiveness])
    (by simp [ServerOp.IsLiveness]) (by decide) configuringTwo_covers [65] (.inl (by simp))).2
    ⟨by simp, by simp [ServerOp.Loses]⟩
  exact absurd hoperational (by decide)

end ServerState

end MultiDAQ.Server
