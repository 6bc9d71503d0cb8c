import MultiDAQ.Client.FebService
import MultiDAQ.Client.Verify.TidyLists
import MultiDAQ.Client.Verify.Register39

/-!
# What the programming of the front-end boards leaves behind

Every channel that is ok and on is switched off before the first board is programmed, and only the
channels that were programmed are put into data mode and switched on again. So a call leaves the
other channels as they were exactly when it switches off none of them.
-/

namespace MultiDAQ.Client

open MultiDAQ.Lib MultiDAQ.Lib.Interaction

/-! ## Commands -/

section Commands

variable {s : HvService} {request : HvRequest} {bus : HvBus} {d : Delivery} {J : HvLists → Prop}

theorem submitCommand_keeps (h : Keeps bus (fun w => J w.state) (HV.handle request)) (hs : J s.hv) :
    J (s.submitCommand request bus d).2.1.hv := by
  cases d with
  | expired => exact hs
  | late issued => exact execute_keeps hs fun _ => h
  | answered => exact execute_keeps hs fun _ => h

/-- A request that is answered with OK has been handled. -/
theorem handled_of_ok {I : World HvLists HvCall → Prop}
    (h : Triple bus I (HV.handle request) (fun r w => r.status = .ok → J w.state) fun _ => True)
    (hs : I { state := s.hv }) (hok : (s.submitCommand request bus d).1.status = .ok) :
    J (s.submitCommand request bus d).2.1.hv := by
  have hresponse : Triple bus I (HvService.executeResponse s.hvPolicy request)
      (fun r w => r.status = .ok → J w.state) fun _ => True := by
    unfold HvService.executeResponse
    split
    · exact triple_try h fun _ => triple_pure fun _ _ herror => nomatch herror
    · exact triple_pure fun _ _ herror => nomatch herror
  have hend := hresponse _ hs
  obtain ⟨rfl, hexecuted⟩ := (submitCommand_ok s request bus d).1 hok
  show J (s.execute request bus).2.1.hv
  unfold HvService.execute at hexecuted ⊢
  rcases hrun : HvService.executeResponse s.hvPolicy request bus { state := s.hv } with ⟨_ | _, _⟩
  · rw [hrun] at hexecuted
    cases hexecuted
  · rw [hrun] at hexecuted hend
    exact hend hexecuted

theorem execute_of_raise {e : String} {w : World HvLists HvCall}
    (hallowed : s.hvPolicy.allows request = true)
    (h : HV.handle request bus { state := s.hv } = (.error e, w)) :
    s.execute request bus =
      ({ status := .error, error := some e }, { s with hv := w.state }, w.calls) := by
  unfold HvService.execute HvService.executeResponse
  rw [if_pos hallowed, tryExcept_of_error h]
  rfl

end Commands

namespace FebRun

variable {env : FebEnv} {s : FebRun} {request : FebRequest} {J : HvLists → Prop} {ch : Int}

/-- The channel lists. -/
abbrev lists (s : FebRun) : HvLists := s.hvService.hv

@[simp] theorem submitRc_lists {command : RcOperation} :
    (submitRc env command s).2.lists = s.lists := rfl

@[simp] theorem move_lists {f : HvLists → HvLists} : (s.move f).lists = f s.lists := rfl

theorem submitHv_keeps {command : HvRequest} {chs : List Int} (h : command.targets = some chs)
    (hJ : ∀ x ∈ chs, Apart x J) (hs : J s.lists) : J (submitHv env command s).2.lists :=
  submitCommand_keeps (keeps_handle_targets h hJ) hs

/-- A command of the restore that succeeds moves no channel to the bad list. -/
theorem submitHv_notBad {command : HvRequest} (h : command.restores = true)
    (hs : ch ∉ s.lists.badCh) (hok : (submitHv env command s).1 = true) :
    ch ∉ (submitHv env command s).2.lists.badCh :=
  handled_of_ok (J := fun s => ch ∉ s.badCh) (triple_handle_success h) hs
    (of_decide_eq_true hok)

theorem andThen_keeps {r : Bool × FebRun} {next : FebRun → Bool × FebRun} (hr : J r.2.lists)
    (hnext : ∀ s, J s.lists → J (next s).2.lists) : J (andThen r next).2.lists := by
  unfold andThen
  split
  · exact hnext r.2 hr
  · exact hr

theorem andThen_ok {r : Bool × FebRun} {next : FebRun → Bool × FebRun} :
    (andThen r next).1 = true ↔ r.1 = true ∧ (next r.2).1 = true := by
  unfold andThen
  by_cases hr : r.1 = true <;> simp [hr]

theorem andThen_eq {r : Bool × FebRun} {next : FebRun → Bool × FebRun} (h : r.1 = true) :
    andThen r next = next r.2 := if_pos h

/-! ## One channel -/

theorem bootAndFlash_keeps : ∀ (attempts : Nat) {s : FebRun}, J s.lists →
    J (bootAndFlash env ch attempts s).2.lists
  | 0, _, hs => hs
  | attempts + 1, _, hs => by
    refine andThen_keeps hs fun s hs => andThen_keeps hs fun s hs => ?_
    split
    · exact hs
    · exact hs
    · exact bootAndFlash_keeps attempts hs

theorem programSteps_keeps (hJ : Apart (ch + 1) J) (hs : J s.lists) :
    J (programSteps env request ch s).2.lists := by
  refine andThen_keeps ?_ fun s hs => andThen_keeps hs fun s hs => andThen_keeps hs fun s hs => ?_
  · split
    · exact bootAndFlash_keeps _ hs
    · exact hs
  · exact submitHv_keeps rfl (by simpa using hJ) hs

theorem programChannel_keeps (hJ : Apart (ch + 1) J) (hs : J s.lists) :
    J (programChannel env request ch s).2.lists := by
  have hsteps : J (programSteps env request ch s).2.lists := programSteps_keeps hJ hs
  unfold programChannel
  rcases hrun : programSteps env request ch s with ⟨_ | _, s'⟩ <;> rw [hrun] at hsteps
  · exact hJ.moveToBad hsteps
  · exact hJ.moveToOff (hJ.moveToOk hsteps)

/-- A channel that was programmed is not bad. -/
theorem programChannel_notBad (hs : s.lists.Tidy)
    (hok : (programChannel env request ch s).1 = true) :
    ch + 1 ∉ (programChannel env request ch s).2.lists.badCh := by
  have hsteps : (programSteps env request ch s).2.lists.Tidy :=
    programSteps_keeps (apart_tidy (ch + 1)) hs
  unfold programChannel at hok ⊢
  rcases hrun : programSteps env request ch s with ⟨_ | _, s'⟩
  · rw [hrun] at hok
    cases hok
  · rw [hrun] at hsteps
    show ch + 1 ∉ (s'.lists.moveToOk (ch + 1)).badCh
    simp [HvLists.moveToOk, mem_erase_sortedLT hsteps.increasing.bad]

/-! ## All channels -/

section Channels

variable {channels : List Int}

theorem programChannels_keeps : ∀ {channels : List Int} {s : FebRun},
    (∀ ch ∈ channels, Apart (ch + 1) J) → J s.lists →
      J (programChannels env request channels s).2.lists
  | [], _, _, hs => hs
  | ch :: rest, _, hJ, hs =>
    @programChannels_keeps rest _ (fun x hx => hJ x (List.mem_cons_of_mem ch hx))
      (programChannel_keeps (hJ ch List.mem_cons_self) hs)

theorem programChannels_cons (x : Int) (channels : List Int) (s : FebRun) :
    programChannels env request (x :: channels) s =
      let (success, s) := programChannel env request x s
      let ((successful, failed), s) := programChannels env request channels s
      (if success then (x :: successful, failed) else (successful, x :: failed), s) := rfl

/-- Every channel is successful or failed, and no other one is. -/
theorem mem_programChannels : ∀ {channels : List Int} {s : FebRun},
    ch ∈ channels ↔ ch ∈ (programChannels env request channels s).1.1 ∨
      ch ∈ (programChannels env request channels s).1.2
  | [], s => by simp [programChannels]
  | x :: channels, s => by
    rw [programChannels_cons]
    rcases programChannel env request x s with ⟨success, s₁⟩
    have ih := @mem_programChannels channels s₁
    dsimp only
    rcases hrest : programChannels env request channels s₁ with ⟨⟨successful, failed⟩, s₂⟩
    rw [hrest] at ih
    dsimp only at ih ⊢
    cases success <;> simp only [List.mem_cons, ih, if_true, Bool.false_eq_true, if_false] <;> tauto

/-- A channel that is bad after the loop failed, if it is one of the channels. -/
theorem programChannels_notBad : ∀ {channels : List Int} {s : FebRun}, s.lists.Tidy →
    ch ∈ channels → ch ∈ (programChannels env request channels s).1.2 ∨
      ch + 1 ∉ (programChannels env request channels s).2.lists.badCh
  | x :: channels, s, hs, hch => by
    have hstep : (programChannel env request x s).2.lists.Tidy :=
      programChannel_keeps (apart_tidy (x + 1)) hs
    have hself := @programChannel_notBad env s request x hs
    rw [programChannels_cons]
    rcases hfirst : programChannel env request x s with ⟨success, s₁⟩
    rw [hfirst] at hstep hself
    have hrest := @programChannels_notBad channels s₁ hstep
    have hkept := @programChannels_keeps env request (fun s => ch + 1 ∉ s.badCh) channels s₁
    dsimp only at hself ⊢
    rcases hlast : programChannels env request channels s₁ with ⟨⟨successful, failed⟩, s₂⟩
    rw [hlast] at hrest hkept
    by_cases hmem : ch ∈ channels
    · refine (hrest hmem).imp_left fun h => ?_
      cases success
      · exact List.mem_cons_of_mem x h
      · exact h
    · obtain rfl : ch = x := (List.mem_cons.1 hch).resolve_right hmem
      cases success
      · exact .inl List.mem_cons_self
      · refine .inr (hkept (fun y hy => apart_notBad fun heq => hmem ?_) (hself rfl))
        rwa [add_right_cancel heq]

end Channels

/-! ## The restore -/

theorem andThen_notBad {r : Bool × FebRun} {next : FebRun → Bool × FebRun}
    (hr : r.1 = true → ch ∉ r.2.lists.badCh)
    (hnext : ∀ s, ch ∉ s.lists.badCh → (next s).1 = true → ch ∉ (next s).2.lists.badCh)
    (hok : (andThen r next).1 = true) : ch ∉ (andThen r next).2.lists.badCh := by
  obtain ⟨hfirst, hlast⟩ := andThen_ok.1 hok
  rw [andThen_eq hfirst]
  exact hnext r.2 (hr hfirst) hlast

section Restore

variable {rt : FebRuntime} {channels : ChannelsArg} {successful : List Int}

theorem restoreHv_keeps (hJ : ∀ x ∈ requested channels, Apart x J) (hs : J s.lists) :
    J (restoreHv env rt channels s).2.lists := by
  unfold restoreHv
  split
  · exact hs
  · exact andThen_keeps (submitHv_keeps rfl hJ hs) fun s hs =>
      andThen_keeps (submitHv_keeps rfl hJ hs) fun s hs => submitHv_keeps rfl hJ hs
  · unfold restoreMultipmt
    split
    · exact hs
    · exact andThen_keeps (submitHv_keeps rfl hJ hs) fun s hs => submitHv_keeps rfl hJ hs
  · exact hs

theorem restoreHv_notBad (hs : ch ∉ s.lists.badCh) (hok : (restoreHv env rt channels s).1 = true) :
    ch ∉ (restoreHv env rt channels s).2.lists.badCh := by
  unfold restoreHv at hok ⊢
  split at hok
  · exact hs
  · exact andThen_notBad (submitHv_notBad rfl hs) (fun s hs => andThen_notBad
      (submitHv_notBad rfl hs) fun s hs => submitHv_notBad rfl hs) hok
  · unfold restoreMultipmt at hok ⊢
    split at hok
    · cases hok
    next hinfo =>
      rw [if_neg hinfo]
      exact andThen_notBad (submitHv_notBad rfl hs) (fun s hs => submitHv_notBad rfl hs) hok
  · exact hs

theorem requested_map_subset {x : Int} (hx : x ∈ requested (.list (successful.map (· + 1)))) :
    ∃ ch ∈ successful, ch + 1 = x :=
  List.mem_map.1 (mem_requested hx).2.2

theorem restoreAfterProgramming_keeps (hJ : ∀ ch ∈ successful, Apart (ch + 1) J) (hs : J s.lists) :
    J (restoreAfterProgramming env rt successful s).2.lists := by
  unfold restoreAfterProgramming
  split
  · exact hs
  · have hsent : J (submitRc env (.rcAcqStart (some (.list successful))) s).2.lists := hs
    generalize submitRc env (.rcAcqStart (some (.list successful))) s = sent at hsent ⊢
    obtain ⟨_ | _, s'⟩ := sent
    · exact hsent
    · refine restoreHv_keeps (fun x hx => ?_) hsent
      obtain ⟨ch, hch, rfl⟩ := requested_map_subset hx
      exact hJ ch hch

theorem restoreAfterProgramming_notBad (hs : ch ∉ s.lists.badCh)
    (hok : (restoreAfterProgramming env rt successful s).1.2 = true) :
    ch ∉ (restoreAfterProgramming env rt successful s).2.lists.badCh := by
  unfold restoreAfterProgramming at hok ⊢
  split at hok
  · cases hok
  next hne =>
    rw [if_neg hne]
    have hsent : ch ∉ (submitRc env (.rcAcqStart (some (.list successful))) s).2.lists.badCh := hs
    generalize submitRc env (.rcAcqStart (some (.list successful))) s = sent at hsent hok ⊢
    obtain ⟨_ | _, s'⟩ := sent
    · cases hok
    · exact restoreHv_notBad hsent hok

end Restore

/-! ## After the power-off -/

section All

variable {rt : FebRuntime} {channelList skipped failed : List Int}

theorem foldl_moveToBad_keeps : ∀ {failed : List Int} {l : HvLists},
    (∀ ch ∈ failed, Apart (ch + 1) J) → J l →
      J (failed.foldl (fun l ch => l.moveToBad (ch + 1)) l)
  | [], _, _, hl => hl
  | ch :: rest, _, hJ, hl => @foldl_moveToBad_keeps rest _
      (fun x hx => hJ x (List.mem_cons_of_mem ch hx)) ((hJ ch List.mem_cons_self).moveToBad hl)

theorem programAll_keeps (hJ : ∀ ch ∈ channelList, Apart (ch + 1) J) (hs : J s.lists) :
    J (programAll env rt request channelList skipped s).2.lists := by
  have hloop := @programChannels_keeps env request J channelList s hJ hs
  have hmem := fun ch => @mem_programChannels env request ch channelList s
  unfold programAll
  generalize programChannels env request channelList s = looped at hloop hmem ⊢
  obtain ⟨⟨successful, failed⟩, s₁⟩ := looped
  refine restoreAfterProgramming_keeps (fun ch hch => hJ ch ((hmem ch).2 (.inl hch))) ?_
  exact foldl_moveToBad_keeps (fun ch hch => hJ ch ((hmem ch).2 (.inr hch))) hloop

/-- A channel that is bad in the end failed, or its restore did, if it is one of the channels. -/
theorem programAll_notBad (hs : s.lists.Tidy) (hch : ch ∈ channelList) :
    ch ∈ (programAll env rt request channelList skipped s).1.failedChannels ∨
      (ch ∈ (programAll env rt request channelList skipped s).1.successfulChannels ∧
        (programAll env rt request channelList skipped s).1.hvRestoreOk = some false) ∨
      ch + 1 ∉ (programAll env rt request channelList skipped s).2.lists.badCh := by
  have hloop := @programChannels_notBad env request ch channelList s hs hch
  have hmem := (@mem_programChannels env request ch channelList s).1 hch
  unfold programAll
  generalize programChannels env request channelList s = looped at hloop hmem ⊢
  obtain ⟨⟨successful, failed⟩, s₁⟩ := looped
  by_cases hfailed : ch ∈ failed
  · exact .inl hfailed
  · have hsuccessful : ch ∈ successful := hmem.resolve_right hfailed
    have hmoved : ch + 1 ∉ (s₁.move fun l =>
        failed.foldl (fun l ch => l.moveToBad (ch + 1)) l).lists.badCh := by
      refine @foldl_moveToBad_keeps (fun s => ch + 1 ∉ s.badCh) failed s₁.lists (fun x hx => ?_)
        (hloop.resolve_left hfailed)
      exact apart_notBad fun heq => hfailed (add_right_cancel heq ▸ hx)
    have hrestored := @restoreAfterProgramming_notBad env _ _ rt successful hmoved
    right
    dsimp only
    generalize restoreAfterProgramming env rt successful _ = restored at hrestored ⊢
    obtain ⟨⟨dataModeOk, _ | _⟩, s₂⟩ := restored
    · exact .inl ⟨hsuccessful, rfl⟩
    · exact .inr (hrestored rfl)

end All

/-! ## The power-off -/

section Off

variable {rt : FebRuntime} {channelList skipped : List Int}

/-- The channels that are switched off first. -/
def okOn (s : FebRun) : List Int := sorted (s.lists.okCh.filter (· ∈ s.lists.onCh)).dedup

theorem mem_okOn : ch ∈ okOn s ↔ ch ∈ s.lists.okCh ∧ ch ∈ s.lists.onCh := by
  rw [okOn, mem_sorted, List.mem_dedup, List.mem_filter, decide_eq_true_eq]

theorem nodup_okOn (s : FebRun) : (okOn s).Nodup :=
  (List.perm_insertionSort _ _).nodup_iff.2 (List.nodup_dedup _)

theorem submitHv_eq {command : HvRequest} {d : Delivery} {bus : HvBus}
    (h : env.hv s.hvSent = (d, bus)) : submitHv env command s =
      (decide ((s.hvService.submitCommand command bus d).1.status = .ok),
        { s with
          hvService := (s.hvService.submitCommand command bus d).2.1
          hvSent := s.hvSent + 1 }) := by
  unfold submitHv
  rw [h]

/-- The power-off of these channels, with its answer. -/
abbrev switchOff (env : FebEnv) (s : FebRun) : Bool × FebRun :=
  submitHv env (.hvOffAndWait (.list (okOn s))) s

/-- A power-off that is not carried out: its request expires, or one of the channels does not
exist. -/
theorem switchOff_refused
    (h : (env.hv s.hvSent).1 = .expired ∨ ∃ ch ∈ okOn s, ch < 1 ∨ 7 < ch) :
    (switchOff env s).1 = false ∧ (switchOff env s).2.lists = s.lists := by
  rcases hsent : env.hv s.hvSent with ⟨d, bus⟩
  rw [hsent] at h
  rw [switchOff, submitHv_eq hsent]
  by_cases hd : d = .expired
  · subst hd
    exact ⟨rfl, rfl⟩
  · have hinvalid := h.resolve_left hd
    obtain ⟨e, hraise⟩ := @PowerGoal.request_raises bus .off (.list (okOn s)) hinvalid
      { state := s.hvService.hv }
    have hexecuted : s.hvService.execute (.hvOffAndWait (.list (okOn s))) bus =
        ({ status := .error, error := some e }, s.hvService, []) :=
      execute_of_raise (w := { state := s.hvService.hv }) (allows_of_not_needsFullControl rfl)
        (bind_of_error hraise)
    cases d with
    | expired => exact absurd rfl hd
    | late issued =>
      refine ⟨rfl, ?_⟩
      show (s.hvService.execute _ bus).2.1.hv = _
      rw [hexecuted]
    | answered =>
      show (decide ((s.hvService.execute _ bus).1.status = .ok) = false) ∧
        (s.hvService.execute _ bus).2.1.hv = _
      rw [hexecuted]
      exact ⟨rfl, rfl⟩

/-- A power-off that is carried out leaves none of the channels on, whatever it is answered. -/
theorem switchOff_notOn (hs : s.lists.Tidy) (hd : (env.hv s.hvSent).1 ≠ .expired)
    (hvalid : ∀ ch ∈ okOn s, 1 ≤ ch ∧ ch ≤ 7) (hch : ch ∈ okOn s) :
    ch ∉ (switchOff env s).2.lists.onCh := by
  rcases hsent : env.hv s.hvSent with ⟨d, bus⟩
  rw [hsent] at hd
  rw [switchOff, submitHv_eq hsent]
  have hdef : hvChannelsDefinition (.list (okOn s)) = .ok (okOn s) := definition_of_valid hvalid
  obtain ⟨result, w, hrun, -, -, -⟩ :=
    PowerGoal.request_run bus .off hdef (nodup_okOn s) { state := s.hvService.hv }
  have hoff := @offAndWait_notOn bus (okOn s) { state := s.hvService.hv } hs hvalid (nodup_okOn s)
    (fun x hx => (mem_okOn.1 hx).1) ch hch
  rw [show HV.offAndWait (.list (okOn s)) bus { state := s.hvService.hv } = (.ok result, w)
    from hrun] at hoff
  have hexecuted : (s.hvService.execute (.hvOffAndWait (.list (okOn s))) bus).2.1.hv = w.state := by
    rw [execute_of_run (allows_of_not_needsFullControl rfl) (map_of_ok hrun)]
  cases d with
  | expired => exact absurd rfl hd
  | late issued =>
    show ch ∉ (s.hvService.execute _ bus).2.1.hv.onCh
    rwa [hexecuted]
  | answered =>
    show ch ∉ (s.hvService.execute _ bus).2.1.hv.onCh
    rwa [hexecuted]

theorem switchOff_keeps (hJ : ∀ x ∈ okOn s, Apart x J) (hs : J s.lists) :
    J (switchOff env s).2.lists :=
  submitHv_keeps rfl (fun x hx => hJ x (mem_requested hx).2.2) hs

theorem switchOffAndProgram_none (h : okOn s = []) :
    switchOffAndProgram env rt request channelList skipped s =
      programAll env rt request channelList skipped s := if_pos h

theorem switchOffAndProgram_some (h : okOn s ≠ []) :
    switchOffAndProgram env rt request channelList skipped s =
      match switchOff env s with
      | (true, s) => programAll env rt request channelList skipped s
      | (false, s) =>
        ({
          failedChannels := channelList
          skippedFixedBadChannels := skipped
          dataModeOk := some false
          hvRestoreOk := some false
          error := some "Failed to switch OFF known OK+ON HV channels before FEB programming" },
          s) :=
  if_neg h

/-- A power-off that is not carried out ends the call. -/
theorem switchOffAndProgram_refused (hne : okOn s ≠ [])
    (h : (env.hv s.hvSent).1 = .expired ∨ ∃ ch ∈ okOn s, ch < 1 ∨ 7 < ch) :
    (switchOffAndProgram env rt request channelList skipped s).2.lists = s.lists ∧
      (switchOffAndProgram env rt request channelList skipped s).2.rc = s.rc := by
  obtain ⟨hfalse, hsame⟩ := switchOff_refused h
  have hrc : (switchOff env s).2.rc = s.rc := rfl
  rw [switchOffAndProgram_some hne]
  generalize switchOff env s = switched at hfalse hsame hrc ⊢
  obtain ⟨_ | _, s'⟩ := switched
  · exact ⟨hsame, hrc⟩
  · cases hfalse

theorem switchOffAndProgram_keeps (hoff : ∀ x ∈ okOn s, Apart x J)
    (hJ : ∀ ch ∈ channelList, Apart (ch + 1) J) (hs : J s.lists) :
    J (switchOffAndProgram env rt request channelList skipped s).2.lists := by
  by_cases hnil : okOn s = []
  · rw [switchOffAndProgram_none hnil]
    exact programAll_keeps hJ hs
  · have hswitched : J (switchOff env s).2.lists := switchOff_keeps hoff hs
    rw [switchOffAndProgram_some hnil]
    generalize switchOff env s = switched at hswitched ⊢
    obtain ⟨_ | _, s'⟩ := switched
    · exact hswitched
    · exact programAll_keeps hJ hswitched

/-- What is on stays off once it was switched off, if it is not programmed. -/
theorem switchOffAndProgram_notOn (hs : s.lists.Tidy) (hd : (env.hv s.hvSent).1 ≠ .expired)
    (hvalid : ∀ ch ∈ okOn s, 1 ≤ ch ∧ ch ≤ 7) (hch : ch ∈ okOn s) (hother : ch - 1 ∉ channelList) :
    ch ∉ (switchOffAndProgram env rt request channelList skipped s).2.lists.onCh := by
  have hswitched := switchOff_notOn hs hd hvalid hch
  rw [switchOffAndProgram_some (List.ne_nil_of_mem hch)]
  generalize switchOff env s = switched at hswitched ⊢
  obtain ⟨_ | _, s'⟩ := switched
  · exact hswitched
  · refine programAll_keeps (J := fun s => ch ∉ s.onCh) (fun x hx => apart_notOn ?_) hswitched
    rintro rfl
    rw [add_sub_cancel_right] at hother
    exact hother hx

/-- Where every channel that is switched off is programmed, only a channel whose programming or
restore failed becomes bad. -/
theorem switchOffAndProgram_bad (hs : s.lists.Tidy) (hothers : ∀ ch ∈ okOn s, ch - 1 ∈ channelList)
    (hbad : ch ∈ (switchOffAndProgram env rt request channelList skipped s).2.lists.badCh)
    (hnot : ch ∉ s.lists.badCh) :
    ch - 1 ∈ (switchOffAndProgram env rt request channelList skipped s).1.failedChannels ∨
      (ch - 1 ∈ (switchOffAndProgram env rt request channelList skipped s).1.successfulChannels ∧
        (switchOffAndProgram env rt request channelList skipped s).1.hvRestoreOk = some false) := by
  by_cases hmem : ch - 1 ∈ channelList
  · have hall {s : FebRun} (hs : s.lists.Tidy)
        (hbad : ch ∈ (programAll env rt request channelList skipped s).2.lists.badCh) :
        ch - 1 ∈ (programAll env rt request channelList skipped s).1.failedChannels ∨
          (ch - 1 ∈ (programAll env rt request channelList skipped s).1.successfulChannels ∧
            (programAll env rt request channelList skipped s).1.hvRestoreOk = some false) := by
      have hcases := @programAll_notBad env s request (ch - 1) rt channelList skipped hs hmem
      rcases hcases with h | h | h
      · exact .inl h
      · exact .inr h
      · rw [sub_add_cancel] at h
        exact absurd hbad h
    by_cases hnil : okOn s = []
    · rw [switchOffAndProgram_none hnil] at hbad ⊢
      exact hall hs hbad
    · have hswitched : (switchOff env s).2.lists.Tidy :=
        switchOff_keeps (fun x _ => apart_tidy x) hs
      rw [switchOffAndProgram_some hnil] at hbad ⊢
      generalize switchOff env s = switched at hswitched hbad ⊢
      obtain ⟨_ | _, s'⟩ := switched
      · exact .inl hmem
      · exact hall hswitched hbad
  · refine absurd hbad (switchOffAndProgram_keeps (J := fun s => ch ∉ s.badCh) (fun x hx => ?_)
      (fun x hx => ?_) hnot)
    · refine apart_notBad fun heq => hmem ?_
      rw [heq]
      exact hothers x hx
    · refine apart_notBad fun heq => hmem ?_
      rwa [heq, add_sub_cancel_right]

end Off

end FebRun

namespace FebRuntime

variable {rt rt' : FebRuntime} {env : FebEnv} {request : FebRequest} {result : FebResult}

/-- The channel lists, empty without a HV service. -/
def lists (rt : FebRuntime) : HvLists := (rt.hvService.map (·.hv)).getD {}

/-- The RC channels that a request programs. -/
def channelList (rt : FebRuntime) (request : FebRequest) : List Int :=
  ((rcChannelsDefinition request.channels).toOption.getD []).filter fun ch =>
    ch + 1 ∉ rt.lists.fixedBad

end FebRuntime

/-- An RC channel is in data mode. -/
def RcState.dataMode (rc : RcState) (ch : Int) : Bool :=
  (rc.registers 0).testBit ch.toNat && (rc.registers 1).testBit ch.toNat

/-- A call from `rt` to `rt'` leaves the channels that it does not program as they were: the ones
that were ok and on are on, and in data mode if they were, and only a channel whose programming or
restore failed has become bad. -/
structure FebRuntime.LeavesOthers (rt : FebRuntime) (request : FebRequest) (result : FebResult)
    (rt' : FebRuntime) : Prop where
  on : ∀ ch ∈ rt.lists.okCh, ch ∈ rt.lists.onCh → ch - 1 ∉ rt.channelList request →
    ch ∈ rt'.lists.onCh
  dataMode : ∀ ch ∈ rt.lists.okCh, ch ∈ rt.lists.onCh → ch - 1 ∉ rt.channelList request →
    rt.rc.dataMode (ch - 1) = true → rt'.rc.dataMode (ch - 1) = true
  bad : ∀ ch ∈ rt'.lists.badCh, ch ∉ rt.lists.badCh → ch - 1 ∈ result.failedChannels ∨
    (ch - 1 ∈ result.successfulChannels ∧ result.hvRestoreOk = some false)

/-- The states of the client: the HV service is constructed and stopped, executes requests, and
serves calls of `program`; the rest changes as it likes. -/
inductive FebRuntime.Reachable : FebRuntime → Prop
  | initial (rc : RcState) : Reachable { hvService := none, rc }
  | started {rt : FebRuntime} (fixedBadChannels : List Int) (bus : HvBus) (policy : HvPolicy) :
    Reachable rt →
      Reachable { rt with hvService := some (HvService.started fixedBadChannels bus policy) }
  | stopped {rt : FebRuntime} : Reachable rt → Reachable { rt with hvService := none }
  | stepped {rt : FebRuntime} {s : HvService} (a : HvStep × HvBus) : Reachable rt →
    rt.hvService = some s → Reachable { rt with hvService := some (s.step a).1 }
  | changed {rt : FebRuntime} (rc : RcState) (acqMode : Option AcqMode)
    (acqInfo : Dict Int HV.ChannelConfig) :
    Reachable rt → Reachable { rt with rc, acqMode, acqInfo }
  | programmed {rt rt' : FebRuntime} {env : FebEnv} {request : FebRequest} {result : FebResult} :
    Reachable rt → rt.program env request = .ok (result, rt') → Reachable rt'

namespace FebRuntime

variable {rt rt' : FebRuntime} {env : FebEnv} {request : FebRequest} {result : FebResult}

/-- The runtime after a call that got as far as a power-off. -/
def afterRun (rt : FebRuntime) (s : FebRun) : FebRuntime :=
  { rt with hvService := some s.hvService, rc := s.rc }

/-- A call programs no channel, and changes nothing, or it has some to program. -/
theorem program_cases (rt : FebRuntime) (env : FebEnv) (request : FebRequest) :
    ((rt.channelList request = [] ∨ rt.hvService = none) ∧
      ∀ result rt', rt.program env request = .ok (result, rt') → rt' = rt) ∨
    ∃ hvService skipped, rt.hvService = some hvService ∧ rt.channelList request ≠ [] ∧
      rt.program env request =
        .ok ((FebRun.switchOffAndProgram env rt request (rt.channelList request) skipped
          { hvService, rc := rt.rc }).1,
        rt.afterRun (FebRun.switchOffAndProgram env rt request (rt.channelList request) skipped
          { hvService, rc := rt.rc }).2) := by
  unfold program channelList lists
  cases hservice : rt.hvService with
  | none =>
    refine .inl ⟨.inr rfl, fun result rt' hrun => ?_⟩
    cases hrun
    rfl
  | some hvService =>
    cases hdef : rcChannelsDefinition request.channels with
    | error e => exact .inl ⟨.inl rfl, fun result rt' hrun => nomatch hrun⟩
    | ok requested =>
      by_cases hnil : requested.filter (fun ch => ch + 1 ∉ hvService.hv.fixedBad) = []
      · refine .inl ⟨.inl hnil, fun result rt' hrun => ?_⟩
        have hrun' : (if requested.filter (fun ch => ch + 1 ∉ hvService.hv.fixedBad) = [] then _
          else _ : Except String (FebResult × FebRuntime)) = .ok (result, rt') := hrun
        rw [if_pos hnil] at hrun'
        cases hrun'
        rfl
      · refine .inr ⟨hvService, requested.filter (fun ch => ch + 1 ∈ hvService.hv.fixedBad), rfl,
          hnil, ?_⟩
        show (if requested.filter (fun ch => ch + 1 ∉ hvService.hv.fixedBad) = [] then _
          else _ : Except String (FebResult × FebRuntime)) = _
        rw [if_neg hnil]
        rfl

theorem Reachable.tidy (h : rt.Reachable) : rt.lists.Tidy := by
  induction h with
  | initial => exact HvLists.tidy_empty
  | started fixedBadChannels bus policy => exact started_tidy fixedBadChannels bus policy
  | stopped => exact HvLists.tidy_empty
  | @stepped rt s a _ hservice ih =>
    have hs : s.hv.Tidy := by
      rwa [lists, hservice] at ih
    exact step_tidy hs a
  | changed _ _ _ _ ih => exact ih
  | @programmed rt rt' env request result _ hrun ih =>
    rcases program_cases rt env request with ⟨-, hsame⟩ | ⟨s, skipped, hservice, -, heq⟩
    · rwa [hsame result rt' hrun]
    · rw [heq] at hrun
      cases hrun
      refine FebRun.switchOffAndProgram_keeps (fun x _ => apart_tidy x) (fun _ _ => apart_tidy _) ?_
      rwa [lists, hservice] at ih

/-- **Programming.** Whatever became of its commands and of the attempts at flashing, a call leaves
the other channels as they were if and only if it has no channel to program, or programs every
channel that is ok and on, or its power-off is not carried out (its request expires, or one of the
channels that are ok and on does not exist). -/
theorem program_leavesOthers_iff (h : rt.Reachable) (env : FebEnv) (request : FebRequest) :
    (∀ result rt', rt.program env request = .ok (result, rt') →
      rt.LeavesOthers request result rt') ↔
      rt.channelList request = [] ∨
        (∀ ch ∈ rt.lists.okCh, ch ∈ rt.lists.onCh → ch - 1 ∈ rt.channelList request) ∨
        (env.hv 0).1 = .expired ∨
        ∃ ch ∈ rt.lists.okCh, ch ∈ rt.lists.onCh ∧ (ch < 1 ∨ 7 < ch) := by
  have htidy := h.tidy
  rcases program_cases rt env request with ⟨hnone, hsame⟩ | ⟨s, skipped, hservice, hne, hrun⟩
  · refine iff_of_true (fun result rt' hrun => ?_) ?_
    · obtain rfl := hsame result rt' hrun
      exact ⟨fun _ _ hon _ => hon, fun _ _ _ _ hmode => hmode, fun _ hbad hnot => absurd hbad hnot⟩
    · refine hnone.imp_right fun hservice => .inl fun ch hch => ?_
      rw [lists, hservice] at hch
      cases hch
  · have hlists : rt.lists = s.hv := by
      rw [lists, hservice]
      rfl
    rw [hlists] at htidy ⊢
    have hmem {ch : Int} : ch ∈ FebRun.okOn { hvService := s, rc := rt.rc } ↔
        ch ∈ s.hv.okCh ∧ ch ∈ s.hv.onCh := FebRun.mem_okOn
    have hresult : (∀ result rt', rt.program env request = .ok (result, rt') →
        rt.LeavesOthers request result rt') ↔ rt.LeavesOthers request _ _ :=
      ⟨fun h => h _ _ hrun, fun h result rt' heq => by
        rw [hrun] at heq
        cases heq
        exact h⟩
    rw [hresult, or_iff_right hne]
    by_cases hothers : ∀ ch ∈ s.hv.okCh, ch ∈ s.hv.onCh → ch - 1 ∈ rt.channelList request
    · refine iff_of_true ⟨fun ch hok hon hnot => ?_, fun ch hok hon hnot => ?_,
        fun ch hbad hnot => ?_⟩ (.inl hothers)
      · rw [hlists] at hok hon
        exact absurd (hothers ch hok hon) hnot
      · rw [hlists] at hok hon
        exact absurd (hothers ch hok hon) hnot
      · rw [hlists] at hnot
        exact FebRun.switchOffAndProgram_bad htidy
          (fun x hx => hothers x (hmem.1 hx).1 (hmem.1 hx).2) hbad hnot
    · rw [or_iff_right hothers]
      push Not at hothers
      obtain ⟨ch, hok, hon, hother⟩ := hothers
      have hch := hmem.2 ⟨hok, hon⟩
      have hrefused : ((env.hv 0).1 = .expired ∨
          ∃ ch ∈ s.hv.okCh, ch ∈ s.hv.onCh ∧ (ch < 1 ∨ 7 < ch)) ↔ (env.hv 0).1 = .expired ∨
          ∃ ch ∈ FebRun.okOn { hvService := s, rc := rt.rc }, ch < 1 ∨ 7 < ch := by
        simp only [hmem, and_assoc]
      rw [hrefused]
      by_cases hskip : (env.hv 0).1 = .expired ∨
          ∃ ch ∈ FebRun.okOn { hvService := s, rc := rt.rc }, ch < 1 ∨ 7 < ch
      · obtain ⟨hsame, hrc⟩ := @FebRun.switchOffAndProgram_refused env _ request rt
          (rt.channelList request) skipped (List.ne_nil_of_mem hch) hskip
        refine iff_of_true ⟨fun x _ hxon _ => ?_, fun x _ _ _ hmode => ?_,
          fun x hbad hnot => ?_⟩ hskip
        · rw [hlists] at hxon
          show x ∈ (FebRun.switchOffAndProgram _ _ _ _ _ _).2.lists.onCh
          rwa [hsame]
        · show RcState.dataMode (FebRun.switchOffAndProgram _ _ _ _ _ _).2.rc _ = true
          rwa [hrc]
        · rw [hlists] at hnot
          replace hbad : x ∈ (FebRun.switchOffAndProgram _ _ _ _ _ _).2.lists.badCh := hbad
          rw [hsame] at hbad
          exact absurd hbad hnot
      · refine iff_of_false (fun hleaves => ?_) hskip
        obtain ⟨hsent, hvalid⟩ := not_or.1 hskip
        push Not at hvalid
        refine FebRun.switchOffAndProgram_notOn htidy hsent (fun x hx => ?_) hch hother
          (hleaves.on ch (hlists ▸ hok) (hlists ▸ hon) hother)
        have := hvalid x hx
        omega

/-- Boards 1 and 2, which are on. -/
def twoUpBus : HvBus where
  answer
    | .getStatus _, _ => .ok (0 : Nat)
    | .readAddress ch, n =>
      if ch ≤ 2 then answeringBus.answer (.readAddress ch) n
      else .error "Modbus client is not connected"
    | c, n => answeringBus.answer c n
  rounds _ := 3

/-- Channels 1 and 2 are on, and in data mode. -/
def twoOn : FebRuntime where
  hvService := some (HvService.started [] twoUpBus .fullControl)
  rc := { registers := fun _ => 3 }
  acqMode := some .calibration

theorem twoOn_reachable : twoOn.Reachable :=
  .started [] twoUpBus .fullControl (.changed _ (some .calibration) Dict.empty (.initial twoOn.rc))

/-- Every command is answered, boards that are switched off go down and come up again when they are
switched on, and flashing works. -/
def workingEnv : FebEnv where
  hv n := (.answered, if n = 0 then answeringBus else twoUpBus)
  rc _ := (.answered, { answer := fun _ _ => .ok (), rounds := fun _ => 0 })
  flash _ := .flashed

theorem program_leavesOthers_all : twoOn.Reachable ∧
    ∀ result rt', twoOn.program workingEnv { channels := .all } = .ok (result, rt') →
      twoOn.LeavesOthers { channels := .all } result rt' :=
  ⟨twoOn_reachable, (program_leavesOthers_iff twoOn_reachable workingEnv { channels := .all }).2
    (.inr (.inl (by decide +kernel)))⟩

/-- Only channel 1 is programmed. It is on again afterwards, while channel 2 stays off and out of data
mode. -/
theorem program_leavesOff : 2 ∈ twoOn.lists.okCh ∧ 2 ∈ twoOn.lists.onCh ∧
    twoOn.rc.dataMode 1 = true ∧ 1 ∉ twoOn.channelList { channels := .one 0 } ∧
    (twoOn.program workingEnv { channels := .one 0 }).toOption.map
      (fun r => (r.1.success, r.2.lists.onCh, r.2.rc.dataMode 1)) = some (true, [1], false) := by
  decide +kernel

end FebRuntime

end MultiDAQ.Client
