import MultiDAQ.Server.Verify.SessionOrder

/-!
# The start of the clients

What the start of each client records and returns, and from it what `_open_and_start_prepared_clients`
does: every client it has gone over has its file open or an error, and whatever it opened or enabled is
among the clients that it reports as opened, or has been closed.
-/

namespace MultiDAQ.Server

open MultiDAQ.Lib MultiDAQ.Lib.Interaction MultiDAQ.Lib.Recorder
open AcquisitionService (PyError)

namespace AcquisitionSession

variable {α : Type} [DecidableEq α] {dev : Peers α}

/-! ## One client -/

theorem startCall_startClient (client : α) (request : OpenRequest) (mask : Int) :
    Only dev (StartCall client mask) (startClient client request mask) := by
  refine only_bind (only_ask trivial) fun _ => ?_
  split
  · exact only_pure _
  refine only_bind (only_viaNumericId rfl fun _ => rfl) fun _ => ?_
  split
  · exact only_bind (only_viaNumericId rfl fun _ => .inl rfl) fun _ => only_pure _
  refine only_bind (only_ask trivial) fun _ => ?_
  split
  · exact only_pure _
  refine only_bind (only_viaNumericId rfl fun _ => .inr rfl) fun _ => ?_
  split
  · exact only_pure _
  refine only_bind (only_ask trivial) fun _ => ?_
  split
  · exact only_pure _
  refine only_bind (only_ask ⟨rfl, rfl, rfl⟩) fun _ => ?_
  split
  · exact only_pure _
  · exact only_pure _

theorem emits_stopRequested : Emits dev (stopRequested : SessionM α Bool) fun r t =>
    t = [⟨.isStopRequested, r⟩] ∧ ∀ x ∈ t, Quiet x.call :=
  emits_ask (c := (SessionCall.isStopRequested : SessionCall α)) fun _ =>
    ⟨rfl, List.forall_mem_singleton.2 trivial⟩

theorem emits_startClient (client : α) (request : OpenRequest) (mask : Int) :
    Emits dev (startClient client request mask) (StartTrace client mask) := by
  refine emits_bind emits_stopRequested (fun _ _ _ => .raised _ _) fun stop t₁ h₁ => ?_
  split
  · refine emits_pure (.unopened _ (by simpa only [List.append_nil] using h₁.2) ?_)
    rw [List.append_nil, h₁.1]
    exact followed_of_forall_not (by simp [OpensFor])
  refine emits_bind (emits_viaNumericId client _) (fun _ _ _ => .raised _ _) fun opened t₂ h₂ => ?_
  split
  · refine emits_bind (emits_viaNumericId client .closeFile) (fun _ _ _ => .raised _ _)
      fun ok t h => emits_pure (.unopened _ ?_ ?_)
    · rw [List.append_nil]
      exact List.forall_mem_append.2 ⟨h₁.2, List.forall_mem_append.2 ⟨h₂.quiet, h.quiet⟩⟩
    · have hclose : CloseTried client t := ⟨ok, t, List.infix_refl t, .inl h⟩
      have hlast : Followed (OpensFor client) (fun _ post => CloseTried client post) (t₂ ++ t) :=
        followed_append h₂.opensLast (followed_of_forall_not h.not_opens) fun _ _ _ hpost => by
          rw [hpost]
          exact hclose
      rw [List.append_nil, h₁.1]
      refine followed_append_right (fun x hx hopen => ?_) hlast
      rw [List.mem_singleton.1 hx] at hopen
      simp [OpensFor] at hopen
  have hq₂ := List.forall_mem_append.2 ⟨h₁.2, h₂.quiet⟩
  refine emits_bind emits_stopRequested (fun _ _ _ => .raised _ _) fun stop t₃ h₃ => ?_
  have hq₃ := List.forall_mem_append.2 ⟨hq₂, h₃.2⟩
  split
  · exact emits_pure (.stopped _ (by simpa only [List.append_nil, List.append_assoc] using hq₃))
  refine emits_bind (emits_viaNumericId client _) (fun _ _ _ => .raised _ _) fun started t₄ h₄ => ?_
  have hq₄ := List.forall_mem_append.2 ⟨hq₃, h₄.quiet⟩
  split
  · exact emits_pure (.stopped _ (by simpa only [List.append_nil, List.append_assoc] using hq₄))
  refine emits_bind emits_stopRequested (fun _ _ _ => .raised _ _) fun stop t₅ h₅ => ?_
  have hq₅ := List.forall_mem_append.2 ⟨hq₄, h₅.2⟩
  split
  · exact emits_pure (.stopped _ (by simpa only [List.append_nil, List.append_assoc] using hq₅))
  refine emits_ask_bind (c := SessionCall.writeRcRegister client 19 mask)
    (fun _ => .raised _ _) fun ok => ?_
  have happend : ∀ x : SessionExchange α, t₁ ++ (t₂ ++ (t₃ ++ (t₄ ++ (t₅ ++ [x])))) =
      t₁ ++ t₂ ++ t₃ ++ t₄ ++ t₅ ++ [x] := fun x => by simp only [List.append_assoc]
  cases ok with
  | true => 
    refine emits_pure ?_
    rw [happend]
    exact .enabled hq₅
  | false =>
    refine emits_pure ?_
    rw [happend]
    exact .refused _ hq₅

/-! ## Every client -/

/-- What the start of the clients in `done` has recorded, and what it returns. -/
structure Launch (errors : Dict α String) (done : List α) (started : Started α)
    (t : List (SessionExchange α)) : Prop where
  opened_subset : ∀ c ∈ started.opened, c ∈ done
  nodup : started.opened.Nodup
  closed : ∀ c, Followed (OpensFor c) (fun _ post => c ∈ started.opened ∨ CloseTried c post) t
  enables : ∀ c, ∀ x ∈ t, EnablesFor c x → c ∈ started.opened
  enabled : ∀ c ∈ started.opened, started.errors.get? c = none → Enabled c t
  errors_eq : ∀ c, Enabled c t ∨ c ∉ done → started.errors.get? c = errors.get? c
  covered : ∀ c, c ∈ done ∨ errors.get? c ≠ none →
    c ∈ started.opened ∨ started.errors.get? c ≠ none

theorem Started.mem_opened_note {started : Started α} {client c : α} {o : StartOutcome} :
    c ∈ (started.note client o).opened ↔ c ∈ started.opened ∨ o.opened = true ∧ c = client := by
  unfold Started.note
  by_cases h : o.opened <;> simp [h]

theorem Started.errors_note {started : Started α} {client c : α} {o : StartOutcome} :
    (started.note client o).errors.get? c =
      if c = client then o.error.or (started.errors.get? c) else started.errors.get? c := by
  unfold Started.note
  cases h : o.error <;> by_cases hc : c = client <;> simp [hc]

theorem Launch.note {errors : Dict α String} {done : List α} {started : Started α}
    {t t' : List (SessionExchange α)} {client : α} {mask : Int} {o : StartOutcome}
    (h : Launch errors done started t) (hnew : client ∉ done) (hmask : mask ≠ 0)
    (htrace : StartTrace client mask (.ok o) t') (hcalls : ∀ x ∈ t', StartCall client mask x.call) :
    Launch errors (done ++ [client]) (started.note client o) (t ++ t') := by
  have hopened : client ∉ started.opened := fun hc => hnew (h.opened_subset client hc)
  have hmono : ∀ c ∈ started.opened, c ∈ (started.note client o).opened := by
    intro c hc
    unfold Started.note
    dsimp only
    split
    · exact List.mem_append_left _ hc
    · exact hc
  have htold := htrace.told hmask
  refine ⟨fun c hc => ?_, ?_, fun c => ?_, fun c x hx hen => ?_, fun c hc herr => ?_,
    fun c hc => ?_, fun c hc => ?_⟩
  · rcases Started.mem_opened_note.1 hc with hc | ⟨-, rfl⟩
    · exact List.mem_append_left _ (h.opened_subset c hc)
    · exact List.mem_append_right _ List.mem_cons_self
  · unfold Started.note
    dsimp only
    split
    · exact List.nodup_append.2 ⟨h.nodup, List.nodup_singleton client, by
        rintro c hc _ hd rfl
        obtain rfl := List.mem_singleton.1 hd
        exact hopened hc⟩
    · exact h.nodup
  · refine followed_append (h.closed c) ?_ fun x _ post hpost =>
      hpost.imp (hmono c) fun hclose => hclose.append t'
    by_cases hc : c = client
    · subst hc
      exact htold.closed.imp fun _ _ h => h.imp (fun h => Started.mem_opened_note.2 (.inr ⟨h, rfl⟩)) id
    · exact followed_of_forall_not fun x hx => not_opensFor (hcalls x hx) hc
  · rcases List.mem_append.1 hx with hx | hx
    · exact hmono c (h.enables c x hx hen)
    · by_cases hc : c = client
      · subst hc
        exact Started.mem_opened_note.2 (.inr ⟨htold.enables x hx hen, rfl⟩)
      · exact absurd hen (not_enablesFor (hcalls x hx) hc)
  · rw [Started.errors_note] at herr
    rcases Started.mem_opened_note.1 hc with hc | ⟨ho, rfl⟩
    · rw [if_neg fun heq : c = client => hopened (heq ▸ hc)] at herr
      exact enabled_append.2 (.inl (h.enabled c hc herr))
    · rw [if_pos rfl, Option.or_eq_none_iff] at herr
      exact enabled_append.2 (.inr (htold.enabled ho herr.1))
  · rw [Started.errors_note, enabled_append] at *
    by_cases hclient : c = client
    · subst hclient
      rw [if_pos rfl]
      have hfresh := h.errors_eq c (.inr hnew)
      obtain (hen | hen) | hdone := hc
      · obtain ⟨x, hx, hen⟩ := hen.enables
        exact absurd (h.enables c x hx hen) hopened
      · rw [htold.error_eq hen, Option.none_or, hfresh]
      · exact absurd (List.mem_append_right _ List.mem_cons_self) hdone
    · rw [if_neg hclient]
      obtain (hen | hen) | hdone := hc
      · exact h.errors_eq c (.inl hen)
      · obtain ⟨x, hx, hen⟩ := hen.enables
        exact absurd hen (not_enablesFor (hcalls x hx) hclient)
      · exact h.errors_eq c (.inr fun hd => hdone (List.mem_append_left _ hd))
  · rw [Started.mem_opened_note, Started.errors_note]
    by_cases hclient : c = client
    · rw [if_pos hclient]
      obtain ho | herr := htold.covered
      · exact .inl (.inr ⟨ho, hclient⟩)
      · exact .inr fun hnone => herr (Option.or_eq_none_iff.1 hnone).1
    · rw [if_neg hclient]
      refine (h.covered c (hc.imp_left fun hd => ?_)).imp_left .inl
      simpa [hclient] using hd

/-- What the first loop leaves: only clients it has gone over get a mask or an error, and one that it
has gone over once does not get both. -/
structure Checked (done : List α) (p : Preparation α) : Prop where
  masks_subset : ∀ c, p.masks.get? c ≠ none → c ∈ done
  errors_subset : ∀ c, p.errors.get? c ≠ none → c ∈ done
  disjoint : done.Nodup → ∀ c, p.masks.get? c ≠ none → p.errors.get? c = none
  covered : ∀ c ∈ done, p.masks.get? c ≠ none ∨ p.errors.get? c ≠ none

theorem emits_prepareClients_checked (metadata : Dict α Metadata) (clients : List α) :
    Emits dev (foldEach clients { metadata } prepareClient)
      (Ending (fun p _ => Checked clients p) fun _ _ => True) := by
  refine emits_foldEach (I := fun done p _ => Checked done p)
    ⟨fun c h => absurd rfl h, fun c h => absurd rfl h, fun _ c h => absurd rfl h,
      List.forall_mem_nil _⟩ ?_
  rintro done client rest p t - hp
  refine emits_bind (emits_checkClient p.metadata client) (fun _ _ _ => trivial) fun r t' _ => ?_
  cases r with
  | error error =>
    refine emits_pure ⟨fun c hc => List.mem_append_left _ (hp.masks_subset c hc), fun c hc => ?_,
      fun hnodup c hc => ?_, fun c hc => ?_⟩
    · by_cases hclient : c = client
      · exact List.mem_append_right _ (hclient ▸ List.mem_cons_self)
      · rw [Dict.get?_set, if_neg hclient] at hc
        exact List.mem_append_left _ (hp.errors_subset c hc)
    · have hdone := hp.masks_subset c hc
      have hclient : c ≠ client := fun h =>
        (List.nodup_append.1 hnodup).2.2 c hdone client List.mem_cons_self h
      rw [Dict.get?_set, if_neg hclient]
      exact hp.disjoint (List.nodup_append.1 hnodup).1 c hc
    · rw [Dict.get?_set]
      by_cases hclient : c = client
      · exact .inr (by rw [if_pos hclient]; exact Option.some_ne_none _)
      · rw [if_neg hclient]
        exact hp.covered c (by simpa [hclient] using hc)
  | ok mask =>
    refine emits_pure ⟨fun c hc => ?_, fun c hc => List.mem_append_left _ (hp.errors_subset c hc),
      fun hnodup c hc => ?_, fun c hc => ?_⟩
    · by_cases hclient : c = client
      · exact List.mem_append_right _ (hclient ▸ List.mem_cons_self)
      · rw [Dict.get?_set, if_neg hclient] at hc
        exact List.mem_append_left _ (hp.masks_subset c hc)
    · by_cases hclient : c = client
      · by_contra herr
        exact (List.nodup_append.1 hnodup).2.2 c (hp.errors_subset c herr) client
          List.mem_cons_self hclient
      · rw [Dict.get?_set, if_neg hclient] at hc
        exact hp.disjoint (List.nodup_append.1 hnodup).1 c hc
    · rw [Dict.get?_set]
      by_cases hclient : c = client
      · exact .inl (by rw [if_pos hclient]; exact Option.some_ne_none _)
      · rw [if_neg hclient]
        exact hp.covered c (by simpa [hclient] using hc)

/-- What is recorded before the first start. -/
theorem launch_start {p : Preparation α} {t : List (SessionExchange α)}
    (h : ∀ x ∈ t, Inert x.call) : Launch p.errors [] { errors := p.errors } t where
  opened_subset _ hc := absurd hc List.not_mem_nil
  nodup := List.nodup_nil
  closed _ := followed_of_forall_not fun x hx => (h x hx).not_opensFor
  enables _ x hx hen := absurd hen (not_enablesFor_of_quiet (h x hx).quiet)
  enabled _ hc := absurd hc List.not_mem_nil
  errors_eq _ _ := rfl
  covered _ h := .inr (h.resolve_left List.not_mem_nil)

/-- The start of the clients that have a mask, after `t₀`. -/
theorem emits_startClients (s : SessionParams α) {clients : List α} {p : Preparation α}
    {t₀ : List (SessionExchange α)} (hinert : ∀ x ∈ t₀, Inert x.call)
    (hready : Ready p t₀) (hchecked : Checked clients p) :
    Emits dev (foldEach p.masks.entries { errors := p.errors } fun started e => do
      let request := openRequest s e.1 ((p.metadata.get? e.1).getD .empty)
      let o ← startClient e.1 request e.2
      pure (started.note e.1 o)) fun r t =>
        Ending (fun started t => Launch p.errors p.masks.keys started t) (fun _ _ => True) r
          (t₀ ++ t) ∧ ∀ x ∈ t, Among clients x.call := by
  have hclient : ∀ e ∈ p.masks.entries, e.1 ∈ clients ∧ e.2 ≠ 0 := by
    rintro ⟨c, mask⟩ he
    have hget := Dict.mem_entries.1 he
    have hpos := (hready c mask hget).1.1
    exact ⟨hchecked.masks_subset c (by rw [hget]; exact Option.some_ne_none _), hpos.ne'⟩
  refine Emits.and ?_ (only_foldEach fun started e he => only_bind
    ((startCall_startClient e.1 _ e.2).imp fun _ h => h.among (hclient e he).1) fun _ =>
      only_pure _)
  refine (emits_foldEach (I := fun done started t => Launch p.errors (done.map Prod.fst) started
    (t₀ ++ t)) (E := fun _ _ => True) (by rw [List.append_nil]; exact launch_start hinert)
    ?_).imp ?_
  · rintro done ⟨client, mask⟩ rest started t hentries hlaunch
    have hmem : (client, mask) ∈ p.masks.entries := hentries ▸ List.mem_append_right _ (.head _)
    have hnew : client ∉ done.map Prod.fst := by
      have hnodup := p.masks.nodup
      rw [hentries, List.map_append, List.map_cons] at hnodup
      intro hdone
      exact (List.nodup_append.1 hnodup).2.2 client hdone client List.mem_cons_self rfl
    refine emits_bind ((emits_startClient client _ mask).and (startCall_startClient client _ mask))
      (fun _ _ _ => trivial) fun o t' ht' => emits_pure ?_
    have hnote := hlaunch.note hnew (hclient _ hmem).2 ht'.1 ht'.2
    show Launch p.errors ((done ++ [(client, mask)]).map Prod.fst) _ (t₀ ++ (t ++ (t' ++ [])))
    rw [List.append_nil, ← List.append_assoc, List.map_append]
    exact hnote
  · rintro (e | started) t h
    · trivial
    · exact h

/-- What the start of the clients returns and has recorded. -/
structure Launched (clients : List α) (started : Started α) (t : List (SessionExchange α)) :
    Prop where
  subset : ∀ c ∈ started.opened, c ∈ clients
  nodup : started.opened.Nodup
  closed : ∀ c, Followed (OpensFor c) (fun _ post => c ∈ started.opened ∨ CloseTried c post) t
  enables : ∀ c, ∀ x ∈ t, EnablesFor c x → c ∈ started.opened
  enabled : ∀ c ∈ started.opened, started.errors.get? c = none → Enabled c t
  no_error : clients.Nodup → ∀ c, Enabled c t → started.errors.get? c = none
  covered : ∀ c ∈ clients, c ∈ started.opened ∨ started.errors.get? c ≠ none

theorem emits_openAndStart (s : SessionParams α) (clients : List α) (metadata : Dict α Metadata) :
    Emits dev (openAndStartPreparedClients s clients metadata) fun r t =>
      Ending (Launched clients) (fun _ _ => True) r t ∧ ∀ x ∈ t, Among clients x.call := by
  refine emits_bind ((emits_prepareClients metadata clients).and
    ((emits_prepareClients_checked metadata clients).and (inert_prepareClients metadata clients)))
    (fun _ t ht => ⟨trivial, fun x hx => (ht.2.2 x hx).among⟩) fun p t₀ ⟨hready, hchecked, hinert⟩ => ?_
  refine (emits_startClients s hinert hready hchecked).imp fun r t ⟨hlaunch, hamong⟩ => ⟨?_, ?_⟩
  · cases r with
    | error e => trivial
    | ok started =>
      have hlaunch : Launch p.errors p.masks.keys started (t₀ ++ t) := hlaunch
      have hmasks : ∀ c ∈ started.opened, p.masks.get? c ≠ none := by
        intro c hc hnone
        obtain ⟨mask, hget⟩ := Dict.mem_keys.1 (hlaunch.opened_subset c hc)
        rw [hnone] at hget
        cases hget
      exact {
        subset := fun c hc => hchecked.masks_subset c (hmasks c hc)
        nodup := hlaunch.nodup
        closed := hlaunch.closed
        enables := hlaunch.enables
        enabled := hlaunch.enabled
        no_error := fun hclients c hen => by
          obtain ⟨x, hx, henables⟩ := hen.enables
          have hopened := hlaunch.enables c x hx henables
          rw [hlaunch.errors_eq c (.inl hen)]
          exact hchecked.disjoint hclients c (hmasks c hopened)
        covered := fun c hc => hlaunch.covered c ((hchecked.covered c hc).imp_left fun hmask =>
          Dict.mem_keys.2 (Option.ne_none_iff_exists'.1 hmask)) }
  · exact List.forall_mem_append.2 ⟨fun x hx => (hinert x hx).among, hamong⟩

end AcquisitionSession

end MultiDAQ.Server
