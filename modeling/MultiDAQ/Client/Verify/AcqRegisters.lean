import MultiDAQ.Client.Verify.RcService

/-!
# The report of an acquisition configuration

`set_acq_registers` checks every entry of a request, writes the registers of the entries that pass,
and changes the trigger bits of register 15. Whatever accesses fail, it writes nothing but the
registers it is asked for (`Conforms.others`, `Conforms.masked`). Its report says of every requested
register whether it was set, exactly when the request names no register in two ways that come out
differently (`conforms_iff`).
-/

namespace MultiDAQ.Client

open MultiDAQ.Lib MultiDAQ.Lib.Interaction

namespace RC

/-! ## The entries of a request -/

/-- The register that an entry is about: its address, or the key itself when it is none. -/
def entryName (key : PyVal) : PyVal :=
  match autoInt key with
  | .ok address => .int address
  | .error _ => key

/-- The address and the value of an entry that passes the checks. -/
def validEntry (entry : PyVal × PyVal) : Option (Int × Int) :=
  match autoInt entry.1, entry.2 with
  | .ok address, .int value =>
    if address ∈ acqConfigRegisters ∧ 0 ≤ value ∧ value ≤ maxRegisterValue then
      some (address, value)
    else none
  | _, _ => none

theorem entryName_eq_int {key : PyVal} {address : Int} :
    entryName key = .int address ↔ autoInt key = .ok address := by
  unfold entryName
  cases key with
  | int n => simp [autoInt]
  | str int0 => cases int0 <;> simp [autoInt]
  | other => simp [autoInt]

/-- One turn of the first loop: the entry is kept, or its register has failed. -/
theorem normalizeRegister_eq (acc : Dict Int Int × List PyVal) (entry : PyVal × PyVal) :
    normalizeRegister acc entry =
      match validEntry entry with
      | some e => (acc.1.set e.1 e.2, acc.2)
      | none => (acc.1, acc.2 ++ [entryName entry.1]) := by
  unfold normalizeRegister validEntry entryName
  cases autoInt entry.1 with
  | error e => rfl
  | ok address =>
    dsimp only
    by_cases haddress : address ∈ acqConfigRegisters
    · rw [if_neg (not_not.2 haddress)]
      cases entry.2 with
      | int value =>
        dsimp only
        by_cases hvalue : value < 0 ∨ maxRegisterValue < value
        · have hrange : ¬(0 ≤ value ∧ value ≤ maxRegisterValue) := by omega
          rw [if_pos hvalue, if_neg fun h => hrange h.2]
        · have hrange : 0 ≤ value ∧ value ≤ maxRegisterValue := by omega
          rw [if_neg hvalue, if_pos ⟨haddress, hrange⟩]
      | str _ => rfl
      | other => rfl
    · rw [if_pos haddress]
      cases entry.2 with
      | int value =>
        dsimp only
        rw [if_neg fun h => haddress h.1]
      | str _ => rfl
      | other => rfl

theorem foldl_normalizeRegister (rawRegisters : List (PyVal × PyVal)) :
    ∀ acc, rawRegisters.foldl normalizeRegister acc =
      ((rawRegisters.filterMap validEntry).foldl (fun d e => d.set e.1 e.2) acc.1,
        acc.2 ++ (rawRegisters.filter fun e => (validEntry e).isNone).map fun e =>
          entryName e.1) := by
  induction rawRegisters with
  | nil => exact fun acc => by simp
  | cons entry rawRegisters ih =>
    intro acc
    rw [List.foldl_cons, ih, normalizeRegister_eq]
    cases hv : validEntry entry with
    | none => simp [hv]
    | some e => simp [hv]

/-- A register that is written has a valid entry with the value. -/
theorem validEntry_of_normalized {rawRegisters : List (PyVal × PyVal)} {address value : Int}
    (h : (normalizeRegisters rawRegisters).1.get? address = some value) :
    ∃ entry ∈ rawRegisters, validEntry entry = some (address, value) := by
  rw [normalizeRegisters, foldl_normalizeRegister, Dict.get?_foldl_set, Dict.get?_empty, Option.or_none,
    List.lookup_eq_some_iff] at h
  obtain ⟨l₁, l₂, hl, -⟩ := h
  have hmem : (address, value) ∈ (rawRegisters.filterMap validEntry).reverse := by
    rw [hl]
    exact List.mem_append_right _ List.mem_cons_self
  exact List.mem_filterMap.1 (List.mem_reverse.1 hmem)

/-- The registers that are written are those of the valid entries. -/
theorem normalized_isSome {rawRegisters : List (PyVal × PyVal)} {address : Int} :
    ((normalizeRegisters rawRegisters).1.get? address).isSome ↔
      ∃ entry ∈ rawRegisters, ∃ value, validEntry entry = some (address, value) := by
  constructor
  · intro h
    obtain ⟨value, hvalue⟩ := Option.isSome_iff_exists.1 h
    obtain ⟨entry, he, hv⟩ := validEntry_of_normalized hvalue
    exact ⟨entry, he, value, hv⟩
  · rintro ⟨entry, he, value, hv⟩
    rw [normalizeRegisters, foldl_normalizeRegister, Dict.get?_foldl_set, Dict.get?_empty,
      Option.or_none, Dict.lookup_isSome, List.map_reverse, List.mem_reverse]
    exact List.mem_map_of_mem (f := Prod.fst) (List.mem_filterMap.2 ⟨entry, he, hv⟩)

theorem mem_failed {rawRegisters : List (PyVal × PyVal)} {v : PyVal} :
    v ∈ (normalizeRegisters rawRegisters).2 ↔
      ∃ entry ∈ rawRegisters, validEntry entry = none ∧ entryName entry.1 = v := by
  rw [normalizeRegisters, foldl_normalizeRegister, List.nil_append, List.mem_map]
  simp only [List.mem_filter, Option.isNone_iff_eq_none, and_assoc]

theorem validEntry_spec {entry : PyVal × PyVal} {address value : Int}
    (h : validEntry entry = some (address, value)) :
    autoInt entry.1 = .ok address ∧ address ∈ acqConfigRegisters ∧ 0 ≤ value ∧
      value ≤ maxRegisterValue := by
  unfold validEntry at h
  split at h
  · next a v ha _ =>
    split at h
    · next hc =>
      cases h
      exact ⟨ha, hc⟩
    · cases h
  · cases h

/-! ## Runs -/

variable {memory : RcMemory}

/-- What the read-modify-write of register 15 leaves. -/
structure Reg15Done (w w' : World RcState RcCall) (config : Reg15Config) (ok : Bool) : Prop where
  others : ∀ a, a ≠ 15 → w'.state.registers a = w.state.registers a
  masked : ∀ mask, config.mask = .int mask →
    (w'.state.registers 15).ldiff mask.toNat = (w.state.registers 15).ldiff mask.toNat
  failed : ok = false → w'.state.registers 15 = w.state.registers 15
  valid : ok = true → reg15Valid config ≠ none

theorem Reg15Done.unchanged {w w' : World RcState RcCall} (config : Reg15Config)
    (h : w'.state.registers = w.state.registers) : Reg15Done w w' config false where
  others _ _ := by rw [h]
  masked _ _ := by rw [h]
  failed _ := by rw [h]
  valid := nofun

theorem reg15Valid_mask {config : Reg15Config} {mask value : Nat}
    (h : reg15Valid config = some (mask, value)) {m : Int} (hm : config.mask = .int m) :
    m.toNat = mask := by
  unfold reg15Valid at h
  rw [hm] at h
  split at h
  · next m' _ hm' _ =>
    cases hm'
    split at h
    · cases h
      rfl
    · cases h
  · cases h

theorem reg15Valid_value {config : Reg15Config} {mask value : Nat}
    (h : reg15Valid config = some (mask, value)) : (value : Int) ≤ maxRegisterValue := by
  unfold reg15Valid at h
  split at h
  · split at h
    · next hc =>
      cases h
      rw [Int.toNat_of_nonneg hc.2.2.2.1]
      exact hc.2.2.2.2.1
    · cases h
  · cases h

theorem ldiff_setBits (previous value mask : Nat) :
    (previous.ldiff mask ||| (value &&& mask)).ldiff mask = previous.ldiff mask := by
  refine Nat.eq_of_testBit_eq fun i => ?_
  simp only [Nat.testBit_ldiff, Nat.testBit_or, Nat.testBit_and]
  cases previous.testBit i <;> cases mask.testBit i <;> cases value.testBit i <;> rfl

/-- Setting bits of a 32-bit value in a 32-bit register. -/
theorem setBits_le {previous value mask : Nat} (hprevious : (previous : Int) ≤ maxRegisterValue)
    (hvalue : (value : Int) ≤ maxRegisterValue) :
    ((previous.ldiff mask ||| (value &&& mask) : Nat) : Int) ≤ maxRegisterValue := by
  have hword : ∀ n : Nat, (n : Int) ≤ maxRegisterValue ↔ n < 2 ^ 32 := fun n => by
    unfold maxRegisterValue
    omega
  rw [hword] at *
  refine Nat.or_lt_two_pow (lt_of_le_of_lt ?_ hprevious) (lt_of_le_of_lt Nat.and_le_left hvalue)
  refine Nat.le_of_testBit fun i h => ?_
  rw [Nat.testBit_ldiff, Bool.and_eq_true] at h
  exact h.1

/-- Every access succeeds. -/
def faultless : RcMemory where
  answer _ _ := .ok ()
  rounds _ := 0

/-- The trigger bits are set where no access fails, in a register of 32 bits. -/
def Reg15Set (memory : RcMemory) (w w' : World RcState RcCall) (config : Reg15Config)
    (ok : Bool) : Prop :=
  memory = faultless → (w.state.registers 15 : Int) ≤ maxRegisterValue →
    ∀ mask value, reg15Valid config = some (mask, value) → ok = true ∧
      w'.state.registers 15 = (w.state.registers 15).ldiff mask ||| (value &&& mask)

theorem setReg15_run (memory : RcMemory) (w : World RcState RcCall) (config : Reg15Config) :
    ∃ ok w', setReg15 config memory w = (.ok ok, w') ∧ Reg15Done w w' config ok ∧
      Reg15Set memory w w' config ok := by
  cases hvalid : reg15Valid config with
  | none =>
    have hrun : setReg15 config memory w = (.ok false, w) := by
      unfold setReg15
      rw [hvalid]
      rfl
    exact ⟨false, w, hrun, .unchanged config rfl, fun _ _ _ _ h => nomatch hvalid.symm.trans h⟩
  | some mv =>
    obtain ⟨mask, value⟩ := mv
    have hne : reg15Valid config ≠ none := by rw [hvalid]; exact Option.some_ne_none _
    have hread := read_run memory w (show checkRegBoundary 15 = true by decide)
    unfold setReg15
    rw [hvalid]
    dsimp only
    rw [bind_of_ok hread]
    cases hok : readSucceeds memory w 15 with
    | false =>
      refine ⟨false, _, rfl, .unchanged config rfl, fun hm _ _ _ _ => ?_⟩
      subst hm
      cases hok
    | true =>
      obtain ⟨w', hrun, hstate, -⟩ := write_run memory (w.issue (.read 15)) 15
        (((w.state.registers 15).ldiff mask ||| (value &&& mask) : Nat) : Int)
      have hupdated : writeSucceeds memory (w.issue (.read 15)) 15
          (((w.state.registers 15).ldiff mask ||| (value &&& mask) : Nat) : Int) = true →
          w'.state.registers = Function.update w.state.registers 15
            ((w.state.registers 15).ldiff mask ||| (value &&& mask)) := fun hok => by
        rw [hstate, if_pos hok]
        rfl
      refine ⟨_, w', hrun, ?_, fun hm hword m v hmv => ?_⟩
      · generalize writeSucceeds memory _ 15 _ = ok at hstate hupdated ⊢
        cases ok with
        | false => exact .unchanged config (congrArg RcState.registers hstate)
        | true =>
          refine ⟨fun a ha => ?_, fun m hm => ?_, nofun, fun _ => hne⟩
          · rw [hupdated rfl, Function.update_of_ne ha]
          · rw [hupdated rfl, Function.update_self, reg15Valid_mask hvalid hm, ldiff_setBits]
      · obtain ⟨rfl, rfl⟩ := Prod.mk.inj (Option.some.inj (hvalid.symm.trans hmv))
        have hvalue : (((w.state.registers 15).ldiff mask ||| (value &&& mask) : Nat) : Int) ≤
            maxRegisterValue := setBits_le hword (reg15Valid_value hvalid)
        have hok : writeSucceeds memory (w.issue (.read 15)) 15
            (((w.state.registers 15).ldiff mask ||| (value &&& mask) : Nat) : Int) = true := by
          rw [hm, writeSucceeds, validWrite, decide_eq_true hvalue,
            decide_eq_true (Int.natCast_nonneg _)]
          rfl
        exact ⟨hok, by rw [hupdated hok, Function.update_self]⟩

/-- What `set_acq_registers` leaves of the entries, and what it reports. -/
theorem configureRegisters_run (memory : RcMemory) (w : World RcState RcCall)
    (rawRegisters : List (PyVal × PyVal)) (reg15Config : Option Reg15Config) :
    ∃ (ok : Bool) (w₁ w' : World RcState RcCall) (result : RcResult),
      configureRegisters rawRegisters reg15Config memory w = (.ok result, w') ∧
      (∀ a, w₁.state.registers a = if a ∈ acqRegisterWriteOrder then
        written memory w a ((normalizeRegisters rawRegisters).1.get? a)
        else w.state.registers a) ∧
      (match reg15Config with
        | none => ok = true ∧ w' = w₁
        | some config => Reg15Done w₁ w' config ok ∧ Reg15Set memory w₁ w' config ok) ∧
      (∀ v, v ∈ result.successfulRegisters ↔
        (∃ a ∈ acqRegisterWriteOrder, ((normalizeRegisters rawRegisters).1.get? a).map
          (writeSucceeds memory w a) = some true ∧ v = .int a) ∨
        reg15Config ≠ none ∧ ok = true ∧ v = .int 15) ∧
      (∀ v, v ∈ result.failedRegisters ↔ v ∈ (normalizeRegisters rawRegisters).2 ∨
        (∃ a ∈ acqRegisterWriteOrder, ((normalizeRegisters rawRegisters).1.get? a).map
          (writeSucceeds memory w a) = some false ∧ v = .int a) ∨
        ok = false ∧ v = .int 15) ∧
      result.success = result.failedRegisters.isEmpty := by
  unfold configureRegisters
  obtain ⟨normalized, failed⟩ := normalizeRegisters rawRegisters
  obtain ⟨w₁, hrun, hview⟩ := mapEach_acts
    (fun addr => viewWritten memory w addr (normalized.get? addr))
    (fun addr => (normalized.get? addr).map (writeSucceeds memory w addr))
    acqRegisterWriteOrder w (by decide) fun addr _ => writeNormalized_acts w normalized addr
  have hregisters (a : Int) : w₁.state.registers a = if a ∈ acqRegisterWriteOrder then
      written memory w a (normalized.get? a) else w.state.registers a := by
    have hfst := congrArg Prod.fst (hview a)
    split at hfst
    · next ha => rw [if_pos ha]; exact hfst.trans (viewWritten_fst w a _)
    · next ha => rw [if_neg ha]; exact hfst
  have hfilter (b : Bool) (v : PyVal) :
      v ∈ ((acqRegisterWriteOrder.map fun addr =>
        (addr, (normalized.get? addr).map (writeSucceeds memory w addr))).filter
          (·.2 = some b)).map (fun o => PyVal.int o.1) ↔
      ∃ a ∈ acqRegisterWriteOrder, (normalized.get? a).map (writeSucceeds memory w a) = some b ∧
        v = .int a := by
    simp only [List.mem_map, List.mem_filter, decide_eq_true_eq]
    constructor
    · rintro ⟨_, ⟨⟨a, ha, rfl⟩, hb⟩, rfl⟩
      exact ⟨a, ha, hb, rfl⟩
    · rintro ⟨a, ha, hb, rfl⟩
      exact ⟨_, ⟨⟨a, ha, rfl⟩, hb⟩, rfl⟩
  dsimp only
  rw [bind_of_ok hrun]
  cases reg15Config with
  | none =>
    refine ⟨true, w₁, w₁, _, rfl, hregisters, ⟨rfl, rfl⟩, fun v => ?_, fun v => ?_, rfl⟩
    · simp only [List.mem_append, hfilter]
      simp
    · simp only [List.mem_append, hfilter]
      simp
  | some config =>
    obtain ⟨ok, w', hrun15, hdone, hfaultless⟩ := setReg15_run memory w₁ config
    dsimp only
    rw [bind_of_ok hrun15]
    refine ⟨ok, w₁, w', _, rfl, hregisters, ⟨hdone, hfaultless⟩, fun v => ?_, fun v => ?_, rfl⟩
    · simp only [List.mem_append, hfilter]
      cases ok <;> simp
    · simp only [List.mem_append, hfilter]
      cases ok <;> simp [or_assoc]

/-! ## The report -/

/-- The registers that a request is about. -/
def requested : DictArg RcAcqDict → List PyVal
  | .other => []
  | .dict config =>
    (match config.registers with
      | .dict rawRegisters => rawRegisters.map fun entry => entryName entry.1
      | .other => []) ++
    (match config.reg15 with
      | none => []
      | some _ => [.int 15])

/-- The bits of register 15 that a request is about. -/
def requestedMask : DictArg RcAcqDict → Nat
  | .dict ⟨_, some (.dict ⟨.int mask, _⟩)⟩ => mask.toNat
  | _ => 0

/-- Only what is requested changes, what failed does not, and the report is exact: no register is
reported twice, and the reported ones are the requested ones. -/
structure Conforms (request : DictArg RcAcqDict) (w : World RcState RcCall) (result : RcResult)
    (w' : World RcState RcCall) : Prop where
  others : ∀ a, a ∉ acqConfigRegisters → a ≠ 15 → w'.state.registers a = w.state.registers a
  masked : (w'.state.registers 15).ldiff (requestedMask request) =
    (w.state.registers 15).ldiff (requestedMask request)
  failed : ∀ a, .int a ∈ result.failedRegisters → w'.state.registers a = w.state.registers a
  disjoint : ∀ v ∈ result.successfulRegisters, v ∉ result.failedRegisters
  exact : ∀ v, v ∈ result.successfulRegisters ∨ v ∈ result.failedRegisters ↔ v ∈ requested request

/-- `set_acq_registers` returns, and conforms to the request. -/
def SetsAsRequested (memory : RcMemory) (w : World RcState RcCall) (request : DictArg RcAcqDict) :
    Prop :=
  ∃ result w', setAcqRegisters request memory w = (.ok result, w') ∧ Conforms request w result w'

/-- Entries for one register are all valid or all invalid. -/
def Agreeing (rawRegisters : List (PyVal × PyVal)) : Prop :=
  ∀ entry ∈ rawRegisters, ∀ other ∈ rawRegisters, ∀ address value,
    validEntry entry = some (address, value) → autoInt other.1 = .ok address →
      validEntry other ≠ none

/-- The request is well formed, and it does not name a register in two ways that come out
differently: a valid and an invalid entry for one address, or an entry for register 15 next to a
valid change of its trigger bits. Where `registers` is no dictionary there is no `reg15`, and where
`reg15` is none there are no other registers. -/
def Consistent : DictArg RcAcqDict → Prop
  | .other => True
  | .dict config =>
    match config.registers, config.reg15 with
    | .other, reg15 => reg15 = none
    | .dict rawRegisters, none => Agreeing rawRegisters
    | .dict rawRegisters, some .other => ∀ entry ∈ rawRegisters, autoInt entry.1 = .ok 15
    | .dict rawRegisters, some (.dict reg15Config) => Agreeing rawRegisters ∧
        (reg15Valid reg15Config ≠ none → ∀ entry ∈ rawRegisters, autoInt entry.1 ≠ .ok 15)

theorem mem_failed_int {rawRegisters : List (PyVal × PyVal)} {address : Int} :
    PyVal.int address ∈ (normalizeRegisters rawRegisters).2 ↔
      ∃ entry ∈ rawRegisters, validEntry entry = none ∧ autoInt entry.1 = .ok address := by
  simp only [mem_failed, entryName_eq_int]

/-- A register with a valid entry is one of those that are written. -/
theorem mem_order_of_valid {entry : PyVal × PyVal} {address value : Int}
    (h : validEntry entry = some (address, value)) : address ∈ acqRegisterWriteOrder := by
  have hallowed : ∀ a ∈ acqConfigRegisters, a ∈ acqRegisterWriteOrder := by decide
  exact hallowed _ (validEntry_spec h).2.1

/-- Every entry is among the written registers or among those that failed. -/
theorem mem_names {rawRegisters : List (PyVal × PyVal)} {v : PyVal} :
    (∃ a, ((normalizeRegisters rawRegisters).1.get? a).isSome ∧ v = .int a) ∨
      v ∈ (normalizeRegisters rawRegisters).2 ↔
    v ∈ rawRegisters.map fun entry => entryName entry.1 := by
  simp only [normalized_isSome, mem_failed, List.mem_map]
  constructor
  · rintro (⟨a, ⟨entry, he, value, hv⟩, rfl⟩ | ⟨entry, he, -, rfl⟩)
    · exact ⟨entry, he, entryName_eq_int.2 (validEntry_spec hv).1⟩
    · exact ⟨entry, he, rfl⟩
  · rintro ⟨entry, he, rfl⟩
    cases hv : validEntry entry with
    | none => exact .inr ⟨entry, he, hv, rfl⟩
    | some e =>
      refine .inl ⟨e.1, ⟨entry, he, e.2, hv⟩, entryName_eq_int.2 (validEntry_spec hv).1⟩

/-- A register that is written has no entry that failed. -/
theorem Agreeing.not_mem_failed {rawRegisters : List (PyVal × PyVal)} (h : Agreeing rawRegisters)
    {a : Int} (hs : ((normalizeRegisters rawRegisters).1.get? a).isSome) :
    PyVal.int a ∉ (normalizeRegisters rawRegisters).2 := by
  obtain ⟨entry, he, value, hv⟩ := normalized_isSome.1 hs
  intro hf
  obtain ⟨other, ho, hnone, haddr⟩ := mem_failed_int.1 hf
  exact h entry he other ho a value hv haddr hnone

theorem written_of_not {w : World RcState RcCall} {a : Int} {value? : Option Int}
    (h : value?.map (writeSucceeds memory w a) ≠ some true) :
    written memory w a value? = w.state.registers a := by
  cases value? with
  | none => rfl
  | some value =>
    rw [written, if_neg]
    rintro hs
    exact h (congrArg some hs)

/-- A configuration whose entries agree, and which leaves register 15 to its own item, is carried
out and reported as requested. -/
theorem configureRegisters_conforms {rawRegisters : List (PyVal × PyVal)}
    {reg15Config : Option Reg15Config} (hagree : Agreeing rawRegisters)
    (h15 : ∀ config, reg15Config = some config → reg15Valid config ≠ none →
      ∀ entry ∈ rawRegisters, autoInt entry.1 ≠ .ok 15)
    (memory : RcMemory) (w : World RcState RcCall) :
    ∃ result w', configureRegisters rawRegisters reg15Config memory w = (.ok result, w') ∧
      Conforms (.dict ⟨.dict rawRegisters, reg15Config.map .dict⟩) w result w' := by
  obtain ⟨ok, w₁, w', result, hrun, hregisters, hdone, hsuccessful, hfailed, -⟩ :=
    configureRegisters_run memory w rawRegisters reg15Config
  have hne15 : ∀ a ∈ acqRegisterWriteOrder, a ≠ 15 := by decide
  have hallowed : ∀ a ∈ acqRegisterWriteOrder, a ∈ acqConfigRegisters := by decide
  have hothers (a : Int) (ha : a ≠ 15) : w'.state.registers a = w₁.state.registers a := by
    cases reg15Config with
    | none => rw [hdone.2]
    | some config => exact hdone.1.others a ha
  have hfixed : w₁.state.registers 15 = w.state.registers 15 :=
    (hregisters 15).trans (if_neg (by decide))
  have hreg15 (hok : ok = false ∨ reg15Config = none) :
      w'.state.registers 15 = w.state.registers 15 := by
    cases reg15Config with
    | none => rw [hdone.2, hfixed]
    | some config => exact (hdone.1.failed (hok.resolve_right nofun)).trans hfixed
  -- an entry for register 15 is invalid, and then the trigger bits are not changed
  have hok15 (hmem : PyVal.int 15 ∈ (normalizeRegisters rawRegisters).2) :
      ok = false ∨ reg15Config = none := by
    cases hr : reg15Config with
    | none => exact .inr rfl
    | some config =>
      subst hr
      obtain ⟨entry, he, -, haddr⟩ := mem_failed_int.1 hmem
      refine .inl (Bool.eq_false_iff.2 fun hok => ?_)
      exact h15 config rfl (hdone.1.valid hok) entry he haddr
  refine ⟨result, w', hrun, ?_, ?_, fun a ha => ?_, fun v hs hf => ?_, fun v => ?_⟩
  · intro a hconfig ha
    rw [hothers a ha, hregisters, if_neg fun ho => hconfig (hallowed a ho)]
  · cases reg15Config with
    | none => rw [hreg15 (.inr rfl)]
    | some config =>
      obtain ⟨mask, value⟩ := config
      cases mask with
      | int mask =>
        rw [← hfixed]
        exact hdone.1.masked mask rfl
      | str _ | other =>
        have hok : ok = false := Bool.eq_false_iff.2 fun hok => hdone.1.valid hok rfl
        rw [hreg15 (.inl hok)]
  · rcases (hfailed _).1 ha with hf | ⟨b, hb, hfalse, heq⟩ | ⟨hok, heq⟩
    · by_cases ho : a ∈ acqRegisterWriteOrder
      · rw [hothers a (hne15 a ho), hregisters, if_pos ho, written_of_not]
        intro hsome
        refine hagree.not_mem_failed ?_ hf
        rw [← Option.isSome_map, hsome]
        rfl
      · by_cases ha15 : a = 15
        · subst ha15
          exact hreg15 (hok15 hf)
        · rw [hothers a ha15, hregisters, if_neg ho]
    · cases heq
      rw [hothers a (hne15 a hb), hregisters, if_pos hb, written_of_not (by rw [hfalse]; nofun)]
    · cases heq
      exact hreg15 (.inl hok)
  · rcases (hsuccessful v).1 hs with ⟨a, ha, htrue, rfl⟩ | ⟨hsome, hok, rfl⟩
    · rcases (hfailed _).1 hf with hf | ⟨b, -, hfalse, heq⟩ | ⟨-, heq⟩
      · refine hagree.not_mem_failed ?_ hf
        rw [← Option.isSome_map, htrue]
        rfl
      · cases heq
        cases htrue.symm.trans hfalse
      · cases heq
        exact hne15 15 ha rfl
    · rcases (hfailed _).1 hf with hf | ⟨b, hb, -, heq⟩ | ⟨hfalse, -⟩
      · rcases hok15 hf with hfalse | hnone
        · cases hok.symm.trans hfalse
        · exact hsome hnone
      · cases heq
        exact hne15 15 hb rfl
      · cases hok.symm.trans hfalse
  · have hok : ok = false → reg15Config ≠ none := by
      rintro hfalse rfl
      cases hdone.1.symm.trans hfalse
    have hrequested : v ∈ requested (.dict ⟨.dict rawRegisters, reg15Config.map .dict⟩) ↔
        ((∃ a, ((normalizeRegisters rawRegisters).1.get? a).isSome ∧ v = .int a) ∨
          v ∈ (normalizeRegisters rawRegisters).2) ∨ reg15Config ≠ none ∧ v = .int 15 := by
      rw [mem_names]
      cases reg15Config <;> simp [requested]
    rw [hrequested, hsuccessful, hfailed]
    constructor
    · rintro ((⟨a, -, hb, rfl⟩ | ⟨hne, -, rfl⟩) | hf | ⟨a, -, hb, rfl⟩ | ⟨hfalse, rfl⟩)
      · exact .inl (.inl ⟨a, by rw [← Option.isSome_map, hb]; rfl, rfl⟩)
      · exact .inr ⟨hne, rfl⟩
      · exact .inl (.inr hf)
      · exact .inl (.inl ⟨a, by rw [← Option.isSome_map, hb]; rfl, rfl⟩)
      · exact .inr ⟨hok hfalse, rfl⟩
    · rintro ((⟨a, ha, rfl⟩ | hf) | ⟨hne, rfl⟩)
      · obtain ⟨entry, -, _, hv⟩ := normalized_isSome.1 ha
        obtain ⟨value, hvalue⟩ := Option.isSome_iff_exists.1 ha
        have ho := mem_order_of_valid hv
        cases hb : writeSucceeds memory w a value with
        | true => exact .inl (.inl ⟨a, ho, by rw [hvalue, Option.map_some, hb], rfl⟩)
        | false => exact .inr (.inr (.inl ⟨a, ho, by rw [hvalue, Option.map_some, hb], rfl⟩))
      · exact .inr (.inl hf)
      · cases ok with
        | true => exact .inl (.inr ⟨hne, rfl, rfl⟩)
        | false => exact .inr (.inr (.inr ⟨rfl, rfl⟩))

theorem setsAsRequested_of_consistent {request : DictArg RcAcqDict} (h : Consistent request)
    (memory : RcMemory) (w : World RcState RcCall) : SetsAsRequested memory w request := by
  match request with
  | .other => exact ⟨_, w, rfl, fun _ _ _ => rfl, rfl, nofun, nofun, fun v => by simp [requested]⟩
  | .dict ⟨.other, none⟩ =>
    exact ⟨_, w, rfl, fun _ _ _ => rfl, rfl, nofun, nofun, fun v => by simp [requested]⟩
  | .dict ⟨.other, some _⟩ => exact absurd h (Option.some_ne_none _)
  | .dict ⟨.dict rawRegisters, some .other⟩ =>
    refine ⟨_, w, rfl, fun _ _ _ => rfl, rfl, fun _ _ => rfl, nofun, fun v => ?_⟩
    have hnames : ∀ v ∈ rawRegisters.map fun entry => entryName entry.1, v = .int 15 := by
      intro v hv
      obtain ⟨entry, he, rfl⟩ := List.mem_map.1 hv
      exact entryName_eq_int.2 (h entry he)
    simp only [requested, List.mem_append, List.mem_singleton, List.not_mem_nil, false_or]
    exact ⟨.inr, fun hv => hv.elim (hnames v) id⟩
  | .dict ⟨.dict rawRegisters, none⟩ =>
    have hnone : ∀ config, (none : Option Reg15Config) = some config → reg15Valid config ≠ none →
        ∀ entry ∈ rawRegisters, autoInt entry.1 ≠ .ok 15 := nofun
    exact configureRegisters_conforms h hnone memory w
  | .dict ⟨.dict rawRegisters, some (.dict config)⟩ =>
    have hconfig : ∀ config', some config = some config' → reg15Valid config' ≠ none →
        ∀ entry ∈ rawRegisters, autoInt entry.1 ≠ .ok 15 := by
      rintro _ ⟨⟩
      exact h.2
    exact configureRegisters_conforms h.1 hconfig memory w

/-! ## Requests that are not consistent -/

/-- Registers that are all zero. -/
def zeroed : World RcState RcCall := { state := { registers := fun _ => 0 } }

theorem writeSucceeds_faultless {w : World RcState RcCall} {a value : Int} {entry : PyVal × PyVal}
    (h : validEntry entry = some (a, value)) : writeSucceeds faultless w a value = true := by
  obtain ⟨-, haddress, hlow, hhigh⟩ := validEntry_spec h
  have hbound : ∀ a ∈ acqConfigRegisters, checkRegBoundary a = true := by decide
  rw [writeSucceeds, validWrite, hbound a haddress, decide_eq_true hlow, decide_eq_true hhigh]
  rfl

/-- Without a fault, every valid register is written, and the trigger bits are set. -/
theorem agreeing_of_disjoint (rawRegisters : List (PyVal × PyVal))
    (reg15Config : Option Reg15Config) {result : RcResult} {w' : World RcState RcCall}
    (hrun : configureRegisters rawRegisters reg15Config faultless zeroed = (.ok result, w'))
    (hdisjoint : ∀ v ∈ result.successfulRegisters, v ∉ result.failedRegisters) :
    Agreeing rawRegisters ∧ ∀ config, reg15Config = some config → reg15Valid config ≠ none →
      ∀ entry ∈ rawRegisters, autoInt entry.1 ≠ .ok 15 := by
  obtain ⟨ok, w₁, w'', result', hrun', hregisters, hdone, hsuccessful, hfailed, -⟩ :=
    configureRegisters_run faultless zeroed rawRegisters reg15Config
  cases hrun.symm.trans hrun'
  constructor
  · intro entry he other ho a value hv haddr hnone
    have hsome := normalized_isSome.2 ⟨entry, he, value, hv⟩
    obtain ⟨value', hvalue'⟩ := Option.isSome_iff_exists.1 hsome
    obtain ⟨entry', -, hv'⟩ := validEntry_of_normalized hvalue'
    refine hdisjoint (.int a) ((hsuccessful _).2 (.inl ⟨a, mem_order_of_valid hv, ?_, rfl⟩))
      ((hfailed _).2 (.inl (mem_failed_int.2 ⟨other, ho, hnone, haddr⟩)))
    rw [hvalue', Option.map_some, writeSucceeds_faultless hv']
  · rintro config rfl hvalid entry he haddr
    have hzero : w₁.state.registers 15 = 0 := (hregisters 15).trans (if_neg (by decide))
    have hnone : validEntry entry = none := by
      by_contra hsome
      obtain ⟨⟨a, value⟩, hv⟩ := Option.ne_none_iff_exists'.1 hsome
      obtain ⟨ha, hallowed, -⟩ := validEntry_spec hv
      cases haddr.symm.trans ha
      revert hallowed
      decide
    refine hdisjoint (.int 15) ((hsuccessful _).2 (.inr ⟨Option.some_ne_none _, ?_, rfl⟩))
      ((hfailed _).2 (.inl (mem_failed_int.2 ⟨entry, he, hnone, haddr⟩)))
    obtain ⟨⟨mask, v⟩, hmv⟩ := Option.ne_none_iff_exists'.1 hvalid
    refine (hdone.2 rfl ?_ mask v hmv).1
    rw [hzero]
    decide

/-- Without a fault, the report of an inconsistent request is not exact. -/
theorem consistent_of_conforms {request : DictArg RcAcqDict}
    (h : SetsAsRequested faultless zeroed request) : Consistent request := by
  obtain ⟨result, w', hrun, hconforms⟩ := h
  match request with
  | .other => trivial
  | .dict ⟨.other, none⟩ => rfl
  | .dict ⟨.other, some reg15⟩ =>
    cases hrun
    have hmem := (hconforms.exact (.int 15)).2 (by simp [requested])
    simp at hmem
  | .dict ⟨.dict rawRegisters, some .other⟩ =>
    cases hrun
    intro entry he
    have hmem := (hconforms.exact (entryName entry.1)).2
      (List.mem_append_left _ (List.mem_map_of_mem he))
    have hname : entryName entry.1 = .int 15 := by simpa using hmem
    exact entryName_eq_int.1 hname
  | .dict ⟨.dict rawRegisters, none⟩ =>
    exact (agreeing_of_disjoint rawRegisters none hrun hconforms.disjoint).1
  | .dict ⟨.dict rawRegisters, some (.dict config)⟩ =>
    obtain ⟨hagree, h15⟩ :=
      agreeing_of_disjoint rawRegisters (some config) hrun hconforms.disjoint
    exact ⟨hagree, h15 config rfl⟩

/-- A request is carried out and reported as it should be, whatever accesses fail, exactly when it
is consistent. -/
theorem conforms_iff (request : DictArg RcAcqDict) :
    (∀ memory w, SetsAsRequested memory w request) ↔ Consistent request :=
  ⟨fun h => consistent_of_conforms (h faultless zeroed),
    fun h memory w => setsAsRequested_of_consistent h memory w⟩

/-- Register 16 twice, as "16" and as "0x10", with a value and with one that is out of range. -/
def namedTwice : DictArg RcAcqDict :=
  .dict ⟨.dict [(.str (some 16), .int 5), (.str (some 16), .int (-1))], none⟩

/-- Register 16 is reported as set and as failed. -/
theorem namedTwice_not_conforms : ¬SetsAsRequested faultless zeroed namedTwice := by
  intro h
  have hagree : Agreeing _ := consistent_of_conforms h
  exact hagree (.str (some 16), .int 5) (by decide) (.str (some 16), .int (-1)) (by decide) 16 5 rfl
    rfl rfl

end RC

end MultiDAQ.Client
