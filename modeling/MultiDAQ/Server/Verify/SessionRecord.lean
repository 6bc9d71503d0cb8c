import MultiDAQ.Server.AcquisitionSession

/-!
# Records of a session

What the entries of the record of a session say: which calls enable a client or open its file, and
which steps of a finalization were tried and how they ended.
-/

namespace MultiDAQ.Server

open MultiDAQ.Lib MultiDAQ.Lib.Recorder
open AcquisitionService (PyError RegisterValue bitAnd)

namespace AcquisitionSession

variable {α : Type}

/-! ## Calls -/

/-- No write of a mask to RC19. -/
def Quiet : SessionCall α → Prop
  | .writeRcRegister _ 19 value => value = 0
  | _ => True

/-- A call of a session that is no OPEN, and writes nothing but 0 to RC19. -/
def Inert : SessionCall α → Prop
  | .writeRcRegister _ address value => address = 19 ∧ value = 0
  | .receiver _ (.openFile ..) => False
  | .serverState | .processEvent _ | .closeSession _ => False
  | _ => True

/-- A call of a finalization. -/
def Final : SessionCall α → Prop
  | .writeRcRegister _ address value => address = 19 ∧ value = 0
  | .setRcAcquisitionRegisters .. | .flushClient _ | .resolveNumericId _ => True
  | .receiver _ command => command = .closeFile ∨ command = .stopProducer
  | _ => False

/-- A call of the start of the client. -/
def StartCall (client : α) (mask : Int) : SessionCall α → Prop
  | .isStopRequested => True
  | .resolveNumericId c => c = client
  | .receiver _ (.openFile c _) => c = client
  | .receiver _ command => command = .closeFile ∨ command = .startProducer
  | .writeRcRegister c address value => c = client ∧ address = 19 ∧ value = mask
  | _ => False

/-- A call of a session; what it opens or enables is one of the clients. -/
def Among (clients : List α) : SessionCall α → Prop
  | .receiver _ (.openFile client _) => client ∈ clients
  | .writeRcRegister client address value => address = 19 ∧ (value = 0 ∨ client ∈ clients)
  | .serverState | .processEvent _ | .closeSession _ => False
  | _ => True

theorem Inert.quiet {c : SessionCall α} (h : Inert c) : Quiet c := by
  unfold Quiet
  split
  · exact h.2
  · trivial

theorem Final.inert {c : SessionCall α} (h : Final c) : Inert c := by
  unfold Inert
  split
  · exact h
  · obtain h | h := h <;> cases h
  · exact h
  · exact h
  · exact h
  · trivial

theorem Final.quiet {c : SessionCall α} (h : Final c) : Quiet c := h.inert.quiet

theorem Inert.among {clients : List α} {c : SessionCall α} (h : Inert c) : Among clients c := by
  unfold Among
  split
  · exact h.elim
  · exact ⟨h.1, .inl h.2⟩
  · exact h
  · exact h
  · exact h
  · trivial

theorem StartCall.among {clients : List α} {client : α} {mask : Int} {c : SessionCall α}
    (h : StartCall client mask c) (hclient : client ∈ clients) : Among clients c := by
  unfold Among
  split
  · exact (show _ = client from h) ▸ hclient
  · exact ⟨h.2.1, .inr (h.1 ▸ hclient)⟩
  · exact h
  · exact h
  · exact h
  · trivial

/-! ## Commands to the receiver -/

/-- What is recorded of a command that goes through the numeric id of a client. -/
inductive ViaId (client : α) (command : ReceiverCommand α) :
    Except PyError Bool → List (SessionExchange α) → Prop
  | unknown : ViaId client command (.ok false) [⟨.resolveNumericId client, .ok none⟩]
  | unresolved (e : PyError) :
    ViaId client command (.error e) [⟨.resolveNumericId client, .error e⟩]
  | told (id : String) (reply : Except PyError Bool) : ViaId client command reply
    [⟨.resolveNumericId client, .ok (some id)⟩, ⟨.receiver id command, reply⟩]

/-- The command was confirmed. -/
theorem ViaId.of_true {client : α} {command : ReceiverCommand α} {t : List (SessionExchange α)}
    (h : ViaId client command (.ok true) t) : ∃ id,
    t = [⟨.resolveNumericId client, .ok (some id)⟩, ⟨.receiver id command, .ok true⟩] := by
  cases h with
  | told id _ => exact ⟨id, rfl⟩

theorem ViaId.quiet {client : α} {command : ReceiverCommand α} {r : Except PyError Bool}
    {t : List (SessionExchange α)} (h : ViaId client command r t) : ∀ y ∈ t, Quiet y.call := by
  cases h <;> simp [Quiet]

/-! ## What enables a client -/

/-- RC19 of a client is written with a mask. -/
def Enables (x : SessionExchange α) : Prop := ¬ Quiet x.call

theorem enables_iff {x : SessionExchange α} :
    Enables x ↔ ∃ client value, x.call = .writeRcRegister client 19 value ∧ value ≠ 0 := by
  unfold Enables Quiet
  split
  · next client value hcall =>
    refine ⟨fun hne => ⟨client, value, hcall, hne⟩, ?_⟩
    rintro ⟨client', value', hcall', hne⟩ rfl
    rw [hcall] at hcall'
    cases hcall'
    exact hne rfl
  · next hne =>
    refine ⟨fun hnot => (hnot trivial).elim, ?_⟩
    rintro ⟨client, value, hcall, -⟩
    exact (hne client value hcall).elim

/-- RC19 of the client is written with a mask. -/
def EnablesFor (client : α) (x : SessionExchange α) : Prop :=
  ∃ mask, x.call = .writeRcRegister client 19 mask ∧ mask ≠ 0

/-- RC19 of the client was written with a mask, and the write confirmed. -/
def Enabled (client : α) (t : List (SessionExchange α)) : Prop :=
  ∃ mask, mask ≠ 0 ∧ ⟨.writeRcRegister client 19 mask, .ok true⟩ ∈ t

theorem Enabled.enables {client : α} {t : List (SessionExchange α)} (h : Enabled client t) :
    ∃ x ∈ t, EnablesFor client x := by
  obtain ⟨mask, hmask, hmem⟩ := h
  exact ⟨_, hmem, mask, rfl, hmask⟩

theorem enabled_append {client : α} {t t' : List (SessionExchange α)} :
    Enabled client (t ++ t') ↔ Enabled client t ∨ Enabled client t' := by
  unfold Enabled
  simp only [List.mem_append, ← exists_or, and_or_left]

/-- The client has not been enabled. -/
def NotEnabled (client : α) (h : List (SessionExchange α)) : Prop :=
  ∀ y ∈ h, ∀ value, y.call = .writeRcRegister client 19 value → value = 0

theorem NotEnabled.append {client : α} {t t' : List (SessionExchange α)}
    (ht : NotEnabled client t) (ht' : NotEnabled client t') : NotEnabled client (t ++ t') :=
  List.forall_mem_append.2 ⟨ht, ht'⟩

/-- What is written before the start of the clients enables none of them. -/
theorem NotEnabled.of_quiet {client : α} {t : List (SessionExchange α)}
    (ht : ∀ y ∈ t, Quiet y.call) : NotEnabled client t := by
  intro y hy value hcall
  have hquiet := ht y hy
  rw [hcall] at hquiet
  exact hquiet

theorem not_enabled_of_quiet {client : α} {t : List (SessionExchange α)}
    (h : ∀ x ∈ t, Quiet x.call) : ¬ Enabled client t := by
  rintro ⟨mask, hmask, hmem⟩
  exact hmask (h _ hmem)

theorem not_enablesFor_of_quiet {client : α} {x : SessionExchange α} (h : Quiet x.call) :
    ¬ EnablesFor client x := by
  rintro ⟨mask, hcall, hmask⟩
  rw [hcall] at h
  exact hmask h

theorem not_enablesFor {client c : α} {mask : Int} {x : SessionExchange α}
    (h : StartCall client mask x.call) (hc : c ≠ client) : ¬ EnablesFor c x := by
  rintro ⟨value, hcall, -⟩
  rw [hcall] at h
  exact hc h.1

/-- The client was found disabled, with this mask prepared for it, and reset. -/
def Prepared (client : α) (mask : Int) (h : List (SessionExchange α)) : Prop :=
  0 < mask ∧ mask ≤ 0x1FF ∧ ∃ rc19, bitAnd rc19 0x1FF = 0 ∧
    [⟨.preparedRc19 client, .ok (some (.int mask))⟩,
      ⟨.readRcRegister client 19, .ok (some (.int rc19))⟩,
      ⟨.flushClient client, .ok true⟩].Sublist h

theorem Prepared.append {client : α} {mask : Int} {h : List (SessionExchange α)}
    (hp : Prepared client mask h) (t : List (SessionExchange α)) :
    Prepared client mask (h ++ t) := by
  obtain ⟨hpos, hle, rc19, hbits, hsub⟩ := hp
  exact ⟨hpos, hle, rc19, hbits, hsub.trans (List.sublist_append_left h t)⟩

theorem Prepared.prepend {client : α} {mask : Int} {h : List (SessionExchange α)}
    (hp : Prepared client mask h) (t : List (SessionExchange α)) :
    Prepared client mask (t ++ h) := by
  obtain ⟨hpos, hle, rc19, hbits, hsub⟩ := hp
  exact ⟨hpos, hle, rc19, hbits, hsub.trans (List.sublist_append_right t h)⟩

/-- The client's file was opened, with a header that has the mask, and then its producer started. -/
def Opened (client : α) (mask : Int) (h : List (SessionExchange α)) : Prop :=
  ∃ id request id', request.metadata.get? "status_reg19" = some (.int mask) ∧
    [⟨.resolveNumericId client, .ok (some id)⟩,
      ⟨.receiver id (.openFile client request), .ok true⟩,
      ⟨.resolveNumericId client, .ok (some id')⟩,
      ⟨.receiver id' .startProducer, .ok true⟩].Sublist h

/-- Before a client is enabled with a mask it was prepared for it, and then opened and started; it is
enabled once. -/
def EnabledInOrder (x : SessionExchange α) (h : List (SessionExchange α)) : Prop :=
  ∃ client mask h₁ h₂, x.call = .writeRcRegister client 19 mask ∧ h = h₁ ++ h₂ ∧
    Prepared client mask h₁ ∧ Opened client mask h₂ ∧ NotEnabled client h

/-! ## What opens a file -/

/-- An OPEN of the client's file. -/
def OpensFor (client : α) (x : SessionExchange α) : Prop :=
  ∃ id request, x.call = .receiver id (.openFile client request)

theorem not_opensFor {client c : α} {mask : Int} {x : SessionExchange α}
    (h : StartCall client mask x.call) (hc : c ≠ client) : ¬ OpensFor c x := by
  rintro ⟨id, request, hcall⟩
  rw [hcall] at h
  exact hc h

theorem Inert.not_opensFor {client : α} {x : SessionExchange α} (h : Inert x.call) :
    ¬ OpensFor client x := by
  rintro ⟨id, request, hcall⟩
  rw [hcall] at h
  exact h

theorem ViaId.not_opens {client : α} {r : Except PyError Bool} {t : List (SessionExchange α)}
    (h : ViaId client .closeFile r t) : ∀ x ∈ t, ¬ OpensFor client x := by
  cases h <;> simp [OpensFor]

/-- An OPEN is the last thing that is recorded. -/
theorem ViaId.opensLast {client : α} {request : OpenRequest} {r : Except PyError Bool}
    {t : List (SessionExchange α)} (h : ViaId client (.openFile client request) r t) :
    Followed (OpensFor client) (fun _ post => post = []) t := by
  cases h with
  | unknown => exact followed_of_forall_not (by simp [OpensFor])
  | unresolved e => exact followed_of_forall_not (by simp [OpensFor])
  | told id reply => exact ⟨by simp [OpensFor], fun _ => rfl, trivial⟩

theorem Among.mem {clients : List α} {client : α} {x : SessionExchange α}
    (h : Among clients x.call) (hx : OpensFor client x ∨ EnablesFor client x) :
    client ∈ clients := by
  obtain ⟨id, request, hcall⟩ | ⟨mask, hcall, hmask⟩ := hx
  · rw [hcall] at h
    exact h
  · rw [hcall] at h
    exact h.2.resolve_left hmask

/-! ## The steps of a finalization -/

/-- A step of the client whose action records as `R` says ended with `b`. -/
def Tried (R : Except PyError Bool → List (SessionExchange α) → Prop) (b : Bool)
    (t : List (SessionExchange α)) : Prop :=
  ∃ t', t' <:+: t ∧ (R (.ok b) t' ∨ b = false ∧ R (.error .exception) t')

theorem Tried.mono {R : Except PyError Bool → List (SessionExchange α) → Prop} {b : Bool}
    {t t' : List (SessionExchange α)} (h : Tried R b t) (ht : t <:+: t') : Tried R b t' := by
  obtain ⟨u, hu, hR⟩ := h
  exact ⟨u, hu.trans ht, hR⟩

/-- The client's file was closed, as far as its numeric id is known. -/
def CloseTried (client : α) (t : List (SessionExchange α)) : Prop :=
  ∃ ok, Tried (ViaId client .closeFile) ok t

theorem CloseTried.append {client : α} {t : List (SessionExchange α)} (h : CloseTried client t)
    (t' : List (SessionExchange α)) : CloseTried client (t ++ t') := by
  obtain ⟨ok, htried⟩ := h
  exact ⟨ok, htried.mono (List.prefix_append t t').isInfix⟩

theorem CloseTried.prepend {client : α} {t : List (SessionExchange α)} (h : CloseTried client t)
    (t' : List (SessionExchange α)) : CloseTried client (t' ++ t) := by
  obtain ⟨ok, htried⟩ := h
  exact ⟨ok, htried.mono (List.suffix_append t' t).isInfix⟩

inductive FinalStep
  | disableRc19
  | flush
  | clearTrigger
  | closeFile
  deriving DecidableEq, Repr

/-- What a step of the client records, if its action ends with `r`. -/
def FinalStep.Records (client : α) :
    FinalStep → Except PyError Bool → List (SessionExchange α) → Prop
  | .disableRc19, r, t => t = [⟨.writeRcRegister client 19 0, r⟩]
  | .flush, r, t => t = [⟨.flushClient client, r⟩]
  | .clearTrigger, r, t => t = [⟨.setRcAcquisitionRegisters client endRegisters, r⟩]
  | .closeFile, r, t => ViaId client .closeFile r t

def finalSteps (resetTriggerConfig : Bool) : List FinalStep :=
  [.disableRc19, .flush] ++ (if resetTriggerConfig then [.clearTrigger] else []) ++ [.closeFile]

/-- Every step of the client was tried; it is a success if all of them succeeded, and a failure if one
of them failed. -/
structure Finalized (client : α) (result : Option Bool) (steps : List FinalStep)
    (t : List (SessionExchange α)) : Prop where
  tried : ∀ step ∈ steps, ∃ ok, Tried (step.Records client) ok t
  verdict : (result = some true ∧ ∀ step ∈ steps, Tried (step.Records client) true t) ∨
    (result = some false ∧ ∃ step ∈ steps, Tried (step.Records client) false t)

theorem Finalized.mono {client : α} {result : Option Bool} {steps : List FinalStep}
    {t t' : List (SessionExchange α)} (h : Finalized client result steps t) (ht : t <:+: t') :
    Finalized client result steps t' where
  tried step hstep := (h.tried step hstep).imp fun _ h => h.mono ht
  verdict := h.verdict.imp (fun h => ⟨h.1, fun step hstep => (h.2 step hstep).mono ht⟩)
    fun ⟨hresult, step, hstep, hfail⟩ => ⟨hresult, step, hstep, hfail.mono ht⟩

/-- RC19 of the client was written with 0. -/
def DisableTried (client : α) (t : List (SessionExchange α)) : Prop :=
  ∃ ok, Tried (FinalStep.disableRc19.Records client) ok t

theorem CloseTried.of_finalized {client : α} {result : Option Bool} {reset : Bool}
    {t : List (SessionExchange α)} (h : Finalized client result (finalSteps reset) t) :
    CloseTried client t ∧ DisableTried client t :=
  ⟨h.tried .closeFile (List.mem_append_right _ List.mem_cons_self),
    h.tried .disableRc19 (List.mem_append_left _ (List.mem_append_left _ List.mem_cons_self))⟩

/-- The producer of a lost client was told to stop, and its file to be closed, as far as its numeric
id was known. -/
def ShortFinalized (numericId : Option String) (t : List (SessionExchange α)) : Prop :=
  ∀ id, numericId = some id → ∃ stopped closed,
    [⟨.receiver id .stopProducer, stopped⟩, ⟨.receiver id .closeFile, closed⟩] <:+: t

theorem ShortFinalized.mono {numericId : Option String} {t t' : List (SessionExchange α)}
    (h : ShortFinalized numericId t) (ht : t <:+: t') : ShortFinalized numericId t' := by
  intro id hid
  obtain ⟨stopped, closed, hinfix⟩ := h id hid
  exact ⟨stopped, closed, hinfix.trans ht⟩

/-! ## The start of one client -/

/-- What the start of the client records: nothing is left open where no file is reported, and RC19 is
written last. -/
inductive StartTrace (client : α) (mask : Int) :
    Except PyError StartOutcome → List (SessionExchange α) → Prop
  | raised (e : PyError) (t : List (SessionExchange α)) : StartTrace client mask (.error e) t
  | unopened (error : String) {t : List (SessionExchange α)} (hquiet : ∀ x ∈ t, Quiet x.call)
      (hclosed : Followed (OpensFor client) (fun _ post => CloseTried client post) t) :
      StartTrace client mask (.ok ⟨false, some error⟩) t
  | stopped (error : String) {t : List (SessionExchange α)} (hquiet : ∀ x ∈ t, Quiet x.call) :
      StartTrace client mask (.ok ⟨true, some error⟩) t
  | refused (error : String) {t : List (SessionExchange α)} (hquiet : ∀ x ∈ t, Quiet x.call) :
      StartTrace client mask (.ok ⟨true, some error⟩)
        (t ++ [⟨.writeRcRegister client 19 mask, .ok false⟩])
  | enabled {t : List (SessionExchange α)} (hquiet : ∀ x ∈ t, Quiet x.call) :
      StartTrace client mask (.ok ⟨true, none⟩)
        (t ++ [⟨.writeRcRegister client 19 mask, .ok true⟩])

/-- What the end of the start of the client says about its record. -/
structure Told (client : α) (o : StartOutcome) (t : List (SessionExchange α)) : Prop where
  closed : Followed (OpensFor client) (fun _ post => o.opened = true ∨ CloseTried client post) t
  enables : ∀ x ∈ t, EnablesFor client x → o.opened = true
  enabled : o.opened = true → o.error = none → Enabled client t
  error_eq : Enabled client t → o.error = none
  covered : o.opened = true ∨ o.error ≠ none

theorem StartTrace.told {client : α} {mask : Int} {o : StartOutcome}
    {t : List (SessionExchange α)} (hmask : mask ≠ 0) (h : StartTrace client mask (.ok o) t) :
    Told client o t := by
  cases h with
  | unopened error hquiet hclosed =>
    exact {
      closed := hclosed.imp fun _ _ h => .inr h
      enables := fun x hx hen => absurd hen (not_enablesFor_of_quiet (hquiet x hx))
      enabled := fun h => by cases h
      error_eq := fun h => absurd h (not_enabled_of_quiet hquiet)
      covered := .inr (Option.some_ne_none _) }
  | stopped error hquiet =>
    exact {
      closed := followed_of_forall fun _ _ => .inl rfl
      enables := fun _ _ _ => rfl
      enabled := fun _ h => by cases h
      error_eq := fun h => absurd h (not_enabled_of_quiet hquiet)
      covered := .inl rfl }
  | refused error hquiet =>
    refine {
      closed := followed_of_forall fun _ _ => .inl rfl
      enables := fun _ _ _ => rfl
      enabled := fun _ h => by cases h
      error_eq := fun h => ?_
      covered := .inl rfl }
    obtain h | ⟨value, -, hmem⟩ := enabled_append.1 h
    · exact absurd h (not_enabled_of_quiet hquiet)
    · obtain heq := List.mem_singleton.1 hmem
      cases heq
  | enabled hquiet =>
    exact {
      closed := followed_of_forall fun _ _ => .inl rfl
      enables := fun _ _ _ => rfl
      enabled := fun _ _ => enabled_append.2 (.inr ⟨mask, hmask, List.mem_cons_self⟩)
      error_eq := fun _ => rfl
      covered := .inl rfl }

end AcquisitionSession

end MultiDAQ.Server
