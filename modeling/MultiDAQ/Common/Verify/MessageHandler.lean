import MultiDAQ.Common.MessageHandler

/-!
# The round trips of the codec

`Represents` says which message a dictionary holds, without the order in which the code looks at its
fields, and `Spells` which value is in the bytes, without the reader. What is accepted is said with
these two (`accepts_exactly`); a message that is sent arrives (`delivered`), and one that arrived can be
sent on (`sent_on`).
-/

namespace MultiDAQ.Common.MessageHandler

open MultiDAQ.Lib

variable {F : Type} {i : Interpreter F} {data : Data F} {m : ProtocolMessage F} {v : Value F}

/-! ## Dictionaries as values -/

theorem toData?_ofData (data : Data F) : (Value.ofData data).toData? = some data := by
  obtain ⟨entries, nodup⟩ := data
  simp only [Value.ofData, Value.toData?, Option.some.injEq, Dict.mk.injEq]
  rw [List.pmap_map]
  exact (List.pmap_eq_map ..).trans (List.map_id _)

theorem toData?_eq_some : v.toData? = some data ↔ v = .ofData data := by
  constructor
  · intro h
    obtain ⟨v, hv⟩ := v
    cases v with
    | dict entries =>
      obtain rfl := Option.some.inj h
      refine Subtype.ext (congrArg Json.dict ?_)
      rw [List.map_pmap]
      exact ((List.pmap_eq_map ..).trans (List.map_id _)).symm
    | _ => cases h
  · rintro rfl
    exact toData?_ofData data

/-! ## Enumerations -/

theorem memberOf_eq_some {E : Type} {members : List (E × String)} {e : E}
    (h : memberOf members v = some e) : ∃ text, (e, text) ∈ members ∧ v = .str text := by
  obtain ⟨v, hv⟩ := v
  cases v with
  | str text =>
    obtain ⟨entry, hfind, rfl⟩ := Option.map_eq_some_iff.1 h
    have htext := List.find?_some hfind
    exact ⟨entry.2, List.mem_of_find?_eq_some hfind,
      Subtype.ext (congrArg Json.str (of_decide_eq_true htext).symm)⟩
  | _ => cases h

theorem memberOf_messageTypes (t : MessageType) :
    memberOf messageTypes (valueOf messageTypes t : Value F) = some t := by
  cases t <;> rfl

theorem memberOf_channels (c : Channel) :
    memberOf channels (valueOf channels c : Value F) = some c := by
  cases c <;> rfl

theorem memberOf_messageStatuses (s : MessageStatus) :
    memberOf messageStatuses (valueOf messageStatuses s : Value F) = some s := by
  cases s <;> rfl

/-! ## The dictionary of a message -/

theorem nodup_fields (m : ProtocolMessage F) :
    ((m.fields.map fun e => (PyStr.ofString e.1, e.2)).map Prod.fst).Nodup := by
  have hnodup : (["protocol_version", "msg_type", "request_id", "timestamp", "payload", "channel",
      "command", "phase", "in_reply_to", "sender", "status", "priority"].map
        PyStr.ofString).Nodup := by decide
  have hnames : (m.fields.map fun e => (PyStr.ofString e.1, e.2)).map Prod.fst =
      ["protocol_version", "msg_type", "request_id", "timestamp", "payload", "channel", "command",
        "phase", "in_reply_to", "sender", "status", "priority"].map PyStr.ofString := by
    simp only [ProtocolMessage.fields, List.map_cons, List.map_nil]
  rw [hnames]
  exact hnodup

theorem entries_data (m : ProtocolMessage F) :
    m.data.entries = m.fields.map fun e => (PyStr.ofString e.1, e.2) :=
  lastValues_of_nodup (nodup_fields m)

/-- What is in the dictionary of a message is in its fields. -/
theorem forall_mem_data {P : Json F → Prop} (h : ∀ e ∈ m.fields, P e.2.val) :
    ∀ e ∈ m.data.entries.map fun e => (e.1, e.2.val), P e.2 := by
  rw [entries_data, List.map_map]
  exact List.forall_mem_map.2 h

theorem get?_data {key : String} (h : (key, v) ∈ m.fields) :
    m.data.get? (.ofString key) = some v := by
  rw [← Dict.mem_entries, entries_data]
  exact List.mem_map_of_mem h

theorem get_data {key : String} (h : (key, v) ∈ m.fields) : get m.data key = v := by
  rw [get, get?_data h, Option.getD_some]

/-! ## Valid messages -/

/-- A field that may be `None`. -/
def OrNull (check : Value F → Bool) (v : Value F) : Prop := v.isNull = true ∨ check v = true

/-- What a message needs for its type. -/
def ProtocolMessage.Complete (i : Interpreter F) (m : ProtocolMessage F) : Prop :=
  match m.msgType with
  | .handshake => m.phase.truthy i.floats = true
  | .command => m.command.truthy i.floats = true ∧ m.channel.isSome = true
  | .reply => m.inReplyTo.truthy i.floats = true
  | .error => m.inReplyTo.truthy i.floats = true
  | .event => True
  | .sample => True

/-- The fields of a message have the types that they are declared with, the version is the one that
is spoken, and nothing is missing that a message of its type needs. -/
structure ProtocolMessage.Valid (i : Interpreter F) (m : ProtocolMessage F) : Prop where
  version : m.protocolVersion.equals i.floats MessageHandler.protocolVersion = true
  requestId : m.requestId.isStr = true
  timestamp : m.timestamp.isNumeric = true
  payload : m.payload.isDict = true
  command : OrNull Value.isStr m.command
  phase : OrNull Value.isStr m.phase
  inReplyTo : OrNull Value.isStr m.inReplyTo
  sender : OrNull Value.isStr m.sender
  priority : OrNull Value.isInt m.priority
  complete : m.Complete i

/-- The fields of a message are in a dictionary; those that may be `None` may be missing. -/
structure Represents (data : Data F) (m : ProtocolMessage F) : Prop where
  protocolVersion : data.get? (.ofString "protocol_version") = some m.protocolVersion
  msgType : data.get? (.ofString "msg_type") = some (valueOf messageTypes m.msgType)
  requestId : data.get? (.ofString "request_id") = some m.requestId
  timestamp : data.get? (.ofString "timestamp") = some m.timestamp
  payload : data.get? (.ofString "payload") = some m.payload
  channel : get data "channel" = m.channel.elim .null (valueOf channels)
  command : get data "command" = m.command
  phase : get data "phase" = m.phase
  inReplyTo : get data "in_reply_to" = m.inReplyTo
  sender : get data "sender" = m.sender
  status : get data "status" = m.status.elim .null (valueOf messageStatuses)
  priority : get data "priority" = m.priority

/-- Validity asks the interpreter for its floats only. -/
theorem ProtocolMessage.Valid.of_floats {j : Interpreter F} (h : m.Valid i)
    (hfloats : j.floats = i.floats) : m.Valid j := by
  have hcomplete : m.Complete j := by
    rw [ProtocolMessage.Complete, hfloats]
    exact h.complete
  exact { h with version := by rw [hfloats]; exact h.version, complete := hcomplete }

theorem represents_data (m : ProtocolMessage F) : Represents m.data m where
  protocolVersion := get?_data (by simp [ProtocolMessage.fields])
  msgType := get?_data (by simp [ProtocolMessage.fields])
  requestId := get?_data (by simp [ProtocolMessage.fields])
  timestamp := get?_data (by simp [ProtocolMessage.fields])
  payload := get?_data (by simp [ProtocolMessage.fields])
  channel := get_data (by simp [ProtocolMessage.fields])
  command := get_data (by simp [ProtocolMessage.fields])
  phase := get_data (by simp [ProtocolMessage.fields])
  inReplyTo := get_data (by simp [ProtocolMessage.fields])
  sender := get_data (by simp [ProtocolMessage.fields])
  status := get_data (by simp [ProtocolMessage.fields])
  priority := get_data (by simp [ProtocolMessage.fields])

/-! ## The validators -/

theorem require_eq_ok {condition : Bool} {reason : Reason F} :
    require condition reason = .ok () ↔ condition = true := by
  cases condition <;> simp [require]

theorem require_bind_eq_ok {α : Type} {condition : Bool} {reason : Reason F}
    {rest : Unit → Except (Reason F) α} {a : α} :
    (require condition reason >>= rest) = .ok a ↔ condition = true ∧ rest () = .ok a := by
  cases condition <;> simp [require, bind, Except.bind]

theorem optionalField_iff {key : String} {check : Value F → Bool} :
    optionalField data key check = true ↔ OrNull check (get data key) := by
  rw [optionalField, Bool.or_eq_true, OrNull]

theorem isNull_iff : v.isNull = true ↔ v = .null := by
  obtain ⟨v, hv⟩ := v
  cases v with
  | null => exact ⟨fun _ => rfl, fun _ => rfl⟩
  | _ =>
    refine ⟨fun h => (by cases h), fun h => ?_⟩
    cases congrArg Subtype.val h

theorem eq_valueOf {E : Type} [DecidableEq E] {members : List (E × String)} {e : E}
    (hmembers : (members.map Prod.fst).Nodup) (h : memberOf members v = some e) :
    v = valueOf members e := by
  obtain ⟨text, hmem, rfl⟩ := memberOf_eq_some h
  rw [valueOf, (Dict.lookup_eq_some_iff hmembers).2 hmem, Option.getD_some]

theorem optionalMember_eq_some {E : Type} [DecidableEq E] {members : List (E × String)}
    (hmembers : (members.map Prod.fst).Nodup)
    (hmember : ∀ e, memberOf members (valueOf members e : Value F) = some e) {o : Option E} :
    ProtocolMessage.optionalMember members v = some o ↔ v = o.elim .null (valueOf members) := by
  unfold ProtocolMessage.optionalMember
  split
  next hnull =>
    obtain rfl := isNull_iff.1 hnull
    cases o with
    | none => exact ⟨fun _ => rfl, fun _ => rfl⟩
    | some e =>
      refine ⟨fun h => (by cases h), fun h => ?_⟩
      cases congrArg Subtype.val h
  next hnull =>
    cases o with
    | none =>
      refine ⟨fun h => ?_, fun h => absurd (isNull_iff.2 h) hnull⟩
      obtain ⟨e, -, heq⟩ := Option.map_eq_some_iff.1 h
      cases heq
    | some e =>
      constructor
      · intro h
        obtain ⟨e', he, heq⟩ := Option.map_eq_some_iff.1 h
        obtain rfl := Option.some.inj heq
        exact eq_valueOf hmembers he
      · rintro rfl
        exact congrArg (Option.map some) (hmember e)

/-- `from_dict` takes the fields from where a message has them. -/
theorem represents_of_fromDict (hpayload : data.contains (.ofString "payload") = true)
    (h : ProtocolMessage.fromDict data = some m) : Represents data m := by
  simp only [ProtocolMessage.fromDict, Option.bind_eq_bind, Option.bind_eq_some_iff,
    Option.some.injEq] at h
  obtain ⟨version, hversion, msgType, ⟨v, htype, hmember⟩, requestId, hrequest, timestamp, htime,
    channel, hchannel, status, hstatus, rfl⟩ := h
  obtain ⟨payload, hpayload⟩ := Option.isSome_iff_exists.1 hpayload
  exact {
    protocolVersion := hversion
    msgType := by rw [htype, eq_valueOf (by decide) hmember]
    requestId := hrequest
    timestamp := htime
    payload := by rw [hpayload, Option.getD_some]
    channel := (optionalMember_eq_some (by decide) memberOf_channels).1 hchannel
    command := rfl
    phase := rfl
    inReplyTo := rfl
    sender := rfl
    status := (optionalMember_eq_some (by decide) memberOf_messageStatuses).1 hstatus
    priority := rfl }

theorem fromDict_of_represents (h : Represents data m) :
    ProtocolMessage.fromDict data = some m := by
  simp only [ProtocolMessage.fromDict, h.protocolVersion, h.msgType, h.requestId, h.timestamp,
    h.payload, h.command, h.phase, h.inReplyTo, h.sender, h.priority, Option.bind_eq_bind,
    Option.bind_some, memberOf_messageTypes, Option.getD_some,
    (optionalMember_eq_some (by decide) memberOf_channels).2 h.channel,
    (optionalMember_eq_some (by decide) memberOf_messageStatuses).2 h.status]

theorem Represents.get_of_get? {key : String} (h : data.get? (.ofString key) = some v) :
    get data key = v := by
  rw [get, h, Option.getD_some]

theorem optionalField_member {E : Type} [DecidableEq E] {members : List (E × String)}
    (hmember : ∀ e, memberOf members (valueOf members e : Value F) = some e) {key : String}
    {o : Option E} (h : get data key = o.elim .null (valueOf members)) :
    optionalField data key (fun v => (memberOf members v).isSome) = true := by
  rw [optionalField_iff, h]
  cases o with
  | none => exact .inl rfl
  | some e => exact .inr (Option.isSome_iff_exists.2 ⟨e, hmember e⟩)

theorem validateRawDict_eq_ok (h : Represents data m) : validateRawDict i data = .ok () ↔
    m.protocolVersion.equals i.floats protocolVersion = true ∧ m.requestId.isStr = true ∧
      m.timestamp.isNumeric = true ∧ m.payload.isDict = true ∧ OrNull Value.isStr m.command ∧
      OrNull Value.isStr m.phase ∧ OrNull Value.isStr m.inReplyTo ∧ OrNull Value.isStr m.sender ∧
      OrNull Value.isInt m.priority := by
  have hmissing : requiredFields.filter (fun key => !data.contains (.ofString key)) = [] := by
    simp [requiredFields, Dict.contains, h.protocolVersion, h.msgType, h.requestId, h.timestamp,
      h.payload]
  have htype : (memberOf messageTypes (valueOf messageTypes m.msgType : Value F)).isSome = true := by
    rw [memberOf_messageTypes]
    rfl
  simp only [validateRawDict, hmissing, require_bind_eq_ok, require_eq_ok, List.isEmpty_nil,
    Represents.get_of_get? h.protocolVersion, Represents.get_of_get? h.requestId,
    Represents.get_of_get? h.timestamp, Represents.get_of_get? h.payload,
    Represents.get_of_get? h.msgType, htype, optionalField_member memberOf_channels h.channel,
    optionalField_member memberOf_messageStatuses h.status, optionalField_iff, h.command, h.phase,
    h.inReplyTo, h.sender, h.priority, true_and]

theorem validateSemantics_eq_ok (h : Represents data m) :
    validateSemantics i data = .ok () ↔ m.Complete i := by
  have hchannel : (get data "channel").isNull = !m.channel.isSome := by
    rw [h.channel]
    cases m.channel <;> rfl
  simp only [validateSemantics, h.msgType, memberOf_messageTypes, h.phase, h.command,
    h.inReplyTo, hchannel, Bool.not_not]
  unfold ProtocolMessage.Complete
  cases m.msgType <;> simp only [require_bind_eq_ok, require_eq_ok]

theorem require_error {condition : Bool} {reason r : Reason F}
    (h : require condition reason = .error r) : r = reason := by
  unfold require at h
  split at h
  next => cases h
  next => exact (Except.error.inj h).symm

theorem contains_of_validated {key : String} (h : validateRawDict i data = .ok ())
    (hkey : key ∈ requiredFields) : data.get? (.ofString key) = some (get data key) := by
  simp only [validateRawDict, require_bind_eq_ok] at h
  have hmissing := List.isEmpty_iff.1 h.1
  rw [List.filter_eq_nil_iff] at hmissing
  have hcontains : data.contains (.ofString key) = true := by simpa using hmissing key hkey
  obtain ⟨v, hv⟩ := Option.isSome_iff_exists.1 hcontains
  rw [get, hv, Option.getD_some]

theorem exists_optionalMember {E : Type} {members : List (E × String)} {key : String}
    (h : optionalField data key (fun v => (memberOf members v).isSome) = true) :
    ∃ o, ProtocolMessage.optionalMember members (get data key) = some o := by
  unfold ProtocolMessage.optionalMember
  split
  next => exact ⟨none, rfl⟩
  next hnull =>
    obtain hnull' | hsome := optionalField_iff.1 h
    · exact absurd hnull' hnull
    · obtain ⟨e, he⟩ := Option.isSome_iff_exists.1 hsome
      exact ⟨some e, by rw [he, Option.map_some]⟩

/-- What passes the first validator is the dictionary of some message. -/
theorem exists_represents (h : validateRawDict i data = .ok ()) : ∃ m, Represents data m := by
  have hget : ∀ key ∈ requiredFields, data.get? (.ofString key) = some (get data key) :=
    fun key hkey => contains_of_validated h hkey
  have hpayload : data.contains (.ofString "payload") = true := by
    rw [Dict.contains, hget "payload" (by decide), Option.isSome_some]
  simp only [validateRawDict, require_bind_eq_ok] at h
  obtain ⟨-, -, -, -, -, htype, hchannel, hstatus, -⟩ := h
  obtain ⟨t, ht⟩ := Option.isSome_iff_exists.1 htype
  obtain ⟨c, hc⟩ := exists_optionalMember hchannel
  obtain ⟨s, hs⟩ := exists_optionalMember hstatus
  have hfrom : ∃ m, ProtocolMessage.fromDict data = some m := by
    simp only [ProtocolMessage.fromDict, hget "protocol_version" (by decide),
      hget "msg_type" (by decide), hget "request_id" (by decide), hget "timestamp" (by decide), ht,
      hc, hs, Option.bind_eq_bind, Option.bind_some, Option.some.injEq, exists_eq']
  obtain ⟨m, hm⟩ := hfrom
  exact ⟨m, represents_of_fromDict hpayload hm⟩

/-- The dictionaries that pass both validators are those of the valid messages. -/
theorem validated_iff : (validateRawDict i data = .ok () ∧ validateSemantics i data = .ok () ∧
    ProtocolMessage.fromDict data = some m) ↔ Represents data m ∧ m.Valid i := by
  constructor
  · rintro ⟨hraw, hsemantics, hfrom⟩
    have hpayload : data.contains (.ofString "payload") = true := by
      rw [Dict.contains, contains_of_validated hraw (by decide), Option.isSome_some]
    have h := represents_of_fromDict hpayload hfrom
    obtain ⟨h₁, h₂, h₃, h₄, h₅, h₆, h₇, h₈, h₉⟩ := (validateRawDict_eq_ok h).1 hraw
    exact ⟨h, h₁, h₂, h₃, h₄, h₅, h₆, h₇, h₈, h₉, (validateSemantics_eq_ok h).1 hsemantics⟩
  · rintro ⟨h, hvalid⟩
    exact ⟨(validateRawDict_eq_ok h).2 ⟨hvalid.version, hvalid.requestId, hvalid.timestamp,
      hvalid.payload, hvalid.command, hvalid.phase, hvalid.inReplyTo, hvalid.sender,
      hvalid.priority⟩, (validateSemantics_eq_ok h).2 hvalid.complete, fromDict_of_represents h⟩

/-! ## Bytes -/

/-- The bytes are UTF-8, and JSON that says the value, nested no deeper than the interpreter reads. -/
def Spells (i : Interpreter F) (v : Value F) (bytes : List UInt8) : Prop :=
  ∃ u t w, Blank jsonBlank u ∧ JsonText i.floats i.loadDepth v.val t ∧ Blank jsonBlank w ∧
    bytes = utf8Encode (u ++ (t ++ w))

theorem loadBytes_eq_some {bytes : List UInt8} : loadBytes i bytes = some v ↔ Spells i v bytes := by
  have hspells : Spells i v bytes ↔ ∃ text, utf8Decode bytes = some text ∧
      loads i.floats i.loadDepth text = some v.val := by
    simp only [utf8Decode_eq_some, loads_eq_some]
    constructor
    · rintro ⟨u, t, w, hu, ht, hw, rfl⟩
      exact ⟨_, rfl, u, t, w, hu, ht, hw, rfl⟩
    · rintro ⟨text, rfl, u, t, w, hu, ht, hw, rfl⟩
      exact ⟨u, t, w, hu, ht, hw, rfl⟩
  rw [hspells, loadBytes, Option.bind_eq_some_iff]
  refine exists_congr fun text => and_congr_right fun _ => ?_
  split
  next h => simp only [h, reduceCtorEq]
  next w h => simp only [h, Option.some.injEq, Subtype.ext_iff]

theorem Represents.nonempty (h : Represents data m) : data.entries.isEmpty = false := by
  have hmem := Dict.mem_entries.2 h.requestId
  cases hentries : data.entries with
  | nil =>
    rw [hentries] at hmem
    cases hmem
  | cons e entries => rfl

theorem represents_decode {bytes : List UInt8} : Represents (decode i bytes) m ↔
    ∃ data, Spells i (.ofData data) bytes ∧ Represents data m := by
  simp only [← loadBytes_eq_some, decode]
  cases hload : loadBytes i bytes with
  | none =>
    refine ⟨fun h => ?_, ?_⟩
    · cases h.nonempty
    · rintro ⟨data, hdata, -⟩
      cases hdata
  | some v =>
    cases hdata : v.toData? with
    | none =>
      refine ⟨fun h => ?_, ?_⟩
      · rw [Option.bind_some, hdata] at h
        cases h.nonempty
      · rintro ⟨data, heq, -⟩
        rw [Option.some.inj heq, toData?_ofData] at hdata
        cases hdata
    | some data =>
      rw [Option.bind_some, hdata, Option.getD_some]
      obtain rfl := toData?_eq_some.1 hdata
      refine ⟨fun h => ⟨data, rfl, h⟩, ?_⟩
      rintro ⟨data', heq, h⟩
      have hsame := toData?_ofData data
      rw [Option.some.inj heq, toData?_ofData] at hsame
      rwa [← Option.some.inj hsame]

theorem unit_bind_eq_ok {ε α : Type} {x : Except ε Unit} {f : Unit → Except ε α} {a : α} :
    (x >>= f) = .ok a ↔ x = .ok () ∧ f () = .ok a := by
  cases x <;> simp [bind, Except.bind]

theorem deserialize_eq_ok {bytes : List UInt8} : deserialize i bytes = .ok m ↔
    m.Valid i ∧ ∃ data, Spells i (.ofData data) bytes ∧ Represents data m := by
  rw [← represents_decode]
  simp only [deserialize, unit_bind_eq_ok, require_eq_ok]
  constructor
  · rintro ⟨-, hraw, hsemantics, hfrom⟩
    split at hfrom
    next m' hm' =>
      obtain rfl := Except.ok.inj hfrom
      exact (validated_iff.1 ⟨hraw, hsemantics, hm'⟩).symm
    next => cases hfrom
  · rintro ⟨hvalid, h⟩
    obtain ⟨hraw, hsemantics, hfrom⟩ := validated_iff.2 ⟨h, hvalid⟩
    refine ⟨by rw [h.nonempty]; rfl, hraw, hsemantics, ?_⟩
    rw [hfrom]

/-! ## Rejections -/

/-- A reason that one of the checks gives. -/
def Reason.Given : Reason F → Prop
  | .text _ => True
  | .shows _ _ => True
  | .caught => False
  | .escaped => False

/-- What is not accepted is rejected by one of the checks. -/
def Explained {α : Type} (x : Except (Reason F) α) : Prop := ∀ r, x = .error r → r.Given

theorem Explained.require {condition : Bool} {reason : Reason F} (h : reason.Given) :
    Explained (require condition reason) := by
  intro r hr
  rw [require_error hr]
  exact h

theorem Explained.bind {α : Type} {x : Except (Reason F) Unit} {f : Unit → Except (Reason F) α}
    (hx : Explained x) (hf : x = .ok () → Explained (f ())) : Explained (x >>= f) := by
  intro r hr
  cases x with
  | error r' =>
    obtain rfl : r' = r := Except.error.inj hr
    exact hx r' rfl
  | ok => exact hf rfl r hr

theorem explained_validateRawDict (i : Interpreter F) (data : Data F) :
    Explained (validateRawDict i data) := by
  unfold validateRawDict
  iterate 12 refine .bind (.require trivial) fun _ => ?_
  exact .require trivial

theorem explained_validateSemantics (h : Represents data m) :
    Explained (validateSemantics i data) := by
  simp only [validateSemantics, h.msgType, memberOf_messageTypes]
  cases m.msgType with
  | command => exact .bind (.require trivial) fun _ => .require trivial
  | event => exact fun r hr => (by cases hr)
  | sample => exact fun r hr => (by cases hr)
  | _ => exact .require trivial

/-- No exception ends the reading of a message: what is rejected is rejected by a check. -/
theorem explained_deserialize (i : Interpreter F) (bytes : List UInt8) :
    Explained (deserialize i bytes) := by
  refine .bind (.require trivial) fun _ => ?_
  refine .bind (explained_validateRawDict i _) fun hraw => ?_
  obtain ⟨m, h⟩ := exists_represents hraw
  refine .bind (explained_validateSemantics h) fun _ => ?_
  rw [fromDict_of_represents h]
  intro r hr
  cases hr

/-! ## Encoding -/

theorem encode_eq {bytes : List UInt8} (h : encode i data = bytes) (hne : bytes ≠ []) :
    (Value.ofData data).val.Encodable ∧ (Value.ofData data).val.Within i.dumpDepth ∧
      ∀ depth, (Value.ofData data).val.Within depth →
        ∃ t, JsonText i.floats depth (Value.ofData data).val t ∧ bytes = utf8Encode t := by
  unfold encode at h
  cases hdump : (dumps i.floats i.dumpDepth (Value.ofData data).val).bind PyStr.encode with
  | none =>
    rw [hdump] at h
    exact absurd h.symm hne
  | some bytes' =>
    rw [hdump, Option.getD_some] at h
    subst h
    obtain ⟨s, hs, hencode⟩ := Option.bind_eq_some_iff.1 hdump
    obtain ⟨chars, rfl, rfl⟩ := encode_eq_some.1 hencode
    obtain ⟨henc, hin⟩ := encodable_of_dumps hs (exists_ofChars.1 ⟨chars, rfl⟩)
    refine ⟨henc, hin, fun depth hdepth => ?_⟩
    obtain ⟨t, ht, htext⟩ := exists_dumps (Value.ofData data).property henc hdepth
    rw [dumps_eq hdepth hin, hs] at ht
    have hchars : chars = t :=
      List.map_injective_iff.2 (fun _ _ h => PyChar.scalar.inj h) (Option.some.inj ht)
    rw [hchars]
    exact ⟨t, htext, rfl⟩

theorem encode_ne_nil (henc : (Value.ofData data).val.Encodable)
    (hin : (Value.ofData data).val.Within i.dumpDepth) : encode i data ≠ [] := by
  have hdumps : ∃ t, dumps i.floats i.dumpDepth (Value.ofData data).val = some (.ofChars t) ∧
      JsonText i.floats i.dumpDepth (Value.ofData data).val t :=
    exists_dumps (Value.ofData data).property henc hin
  obtain ⟨t, ht, htext⟩ := hdumps
  obtain ⟨c, t', rfl, -⟩ := htext.head
  have hencode : encode i data = utf8Encode (c :: t') := by
    rw [encode, ht, Option.bind_some, encode_eq_some.2 ⟨_, rfl, rfl⟩, Option.getD_some]
  rw [hencode]
  intro hnil
  cases utf8Encode_injective (hnil.trans utf8Encode_nil.symm)

/-- A message that can be written: no surrogates, no integer with too many digits, and nothing nested
too deep to be copied or written. -/
def ProtocolMessage.Writable (i : Interpreter F) (m : ProtocolMessage F) : Prop :=
  (Value.ofData m.data).val.Encodable ∧ (∀ e ∈ m.fields, e.2.val.Within i.copyDepth) ∧
    (Value.ofData m.data).val.Within i.dumpDepth

/-- The names of the fields can be written. -/
theorem encodable_data (h : ∀ e ∈ m.fields, e.2.val.Encodable) :
    (Value.ofData m.data).val.Encodable := by
  have hkeys : ∀ e ∈ m.data.entries.map fun e => (e.1, e.2.val),
      ∃ chars, e.1 = PyStr.ofChars chars := by
    rw [entries_data, List.map_map]
    exact List.forall_mem_map.2 fun e _ => ⟨_, rfl⟩
  exact .dict hkeys (forall_mem_data h)

theorem validateMessageObject_eq_ok (hcopy : ∀ e ∈ m.fields, e.2.val.Within i.copyDepth) :
    validateMessageObject i m = .ok () ↔ m.Valid i := by
  have hdict : m.toDict i = some m.data := if_pos hcopy
  simp only [validateMessageObject, hdict, unit_bind_eq_ok]
  constructor
  · rintro ⟨hraw, hsemantics⟩
    exact (validated_iff.1 ⟨hraw, hsemantics, fromDict_of_represents (represents_data m)⟩).2
  · intro hvalid
    obtain ⟨hraw, hsemantics, -⟩ := validated_iff.2 ⟨represents_data m, hvalid⟩
    exact ⟨hraw, hsemantics⟩

theorem serialize_eq_encode (h : serialize i m ≠ []) :
    serialize i m = encode i m.data ∧ m.Valid i ∧ m.Writable i := by
  unfold serialize at h ⊢
  by_cases hcopy : ∀ e ∈ m.fields, e.2.val.Within i.copyDepth
  · have hdict : m.toDict i = some m.data := if_pos hcopy
    cases hvalid : validateMessageObject i m with
    | error reason =>
      rw [hvalid] at h
      exact absurd rfl h
    | ok =>
      rw [hvalid, hdict] at h
      obtain ⟨henc, hin, -⟩ := encode_eq rfl h
      exact ⟨by rw [hdict]; rfl, (validateMessageObject_eq_ok hcopy).1 hvalid, henc, hcopy, hin⟩
  · have hdict : m.toDict i = none := if_neg hcopy
    have hvalid : validateMessageObject i m = .error .caught := by rw [validateMessageObject, hdict]
    rw [hvalid] at h
    exact absurd rfl h

theorem serialize_ne_nil : serialize i m ≠ [] ↔ m.Valid i ∧ m.Writable i := by
  refine ⟨fun h => (serialize_eq_encode h).2, ?_⟩
  rintro ⟨hvalid, henc, hcopy, hin⟩
  have hdict : m.toDict i = some m.data := if_pos hcopy
  rw [serialize, (validateMessageObject_eq_ok hcopy).2 hvalid, hdict]
  exact encode_ne_nil henc hin

/-! ## The round trip -/

theorem deserialize_of_serialize {j : Interpreter F} (hfloats : j.floats = i.floats)
    (h : serialize i m ≠ []) (hdepth : (Value.ofData m.data).val.Within j.loadDepth) :
    deserialize j (serialize i m) = .ok m := by
  obtain ⟨heq, hvalid, -⟩ := serialize_eq_encode h
  obtain ⟨-, -, htext⟩ := encode_eq rfl (heq ▸ h)
  obtain ⟨t, ht, hbytes⟩ := htext j.loadDepth hdepth
  have hvalid' : m.Valid j := hvalid.of_floats hfloats
  rw [heq, hbytes, deserialize_eq_ok]
  refine ⟨hvalid', m.data, ⟨[], t, [], blank_nil, ?_, blank_nil, ?_⟩, represents_data m⟩
  · rw [hfloats]
    exact ht
  · rw [List.nil_append, List.append_nil]

theorem serialize_eq_nil (h : ¬ (m.Valid i ∧ m.Writable i)) : serialize i m = [] :=
  not_not.1 fun hne => h (serialize_ne_nil.1 hne)

theorem deserialize_nil (i : Interpreter F) :
    deserialize i [] = .error (.text "Empty or invalid decoded message") := by
  have hempty : (decode i []).entries = [] := by
    have hdecode : utf8Decode [] = some [] := utf8Decode_eq_some.2 utf8Encode_nil.symm
    have hload : loadBytes i [] = none := by
      rw [loadBytes, hdecode, Option.bind_some]
      split
      next => rfl
      next v h =>
        obtain ⟨u, t, w, -, ht, -, heq⟩ := loads_eq_some.1 h
        obtain ⟨c, t', rfl, -⟩ := ht.head
        simp at heq
    rw [decode, hload]
    rfl
  rw [deserialize]
  simp only [hempty]
  rfl

/-- Floats of which there is one, `0.5`. -/
def half : Floats Unit where
  repr _ := "0.5".toList
  ofLiteral _ := .finite ()
  whole _ := none
  repr_literal _ := ⟨['0'], ['.', '5'], [],
    ⟨[], ['0'], .inl rfl, digits_singleton rfl, .inl rfl, rfl⟩,
    .inr ⟨['5'], digits_singleton rfl, rfl⟩, .inl rfl, .inl (List.cons_ne_nil _ _), rfl⟩
  ofLiteral_repr _ := rfl

def smallInterpreter : Interpreter Unit :=
  { floats := half, copyDepth := 3, dumpDepth := 3, loadDepth := 3 }

/-- The command that switches a channel on. -/
def powerOn : ProtocolMessage Unit where
  protocolVersion := ⟨.int 1, .int 1⟩
  msgType := .command
  requestId := .str "r1"
  timestamp := ⟨.float (.finite ()), .float _⟩
  channel := some .hv
  command := .str "power_on"

theorem powerOn_valid : powerOn.Valid smallInterpreter where
  version := rfl
  requestId := rfl
  timestamp := rfl
  payload := rfl
  command := .inr rfl
  phase := .inl rfl
  inReplyTo := .inl rfl
  sender := .inl rfl
  priority := .inl rfl
  complete := ⟨by decide, rfl⟩

theorem powerOn_writable : powerOn.Writable smallInterpreter := by
  refine ⟨encodable_data ?_, by decide, by decide⟩
  simp only [ProtocolMessage.fields, List.forall_mem_cons]
  exact ⟨.int (by decide), .str _, .str _, .float _,
    .dict (fun _ h => absurd h List.not_mem_nil) fun _ h => absurd h List.not_mem_nil, .str _,
    .str _, .null, .null, .null, .null, .null, fun _ h => absurd h List.not_mem_nil⟩

/-- A message that is valid and can be written arrives as it was sent, where the receiver reads as
deep as it is nested; from any other message no bytes are made, and no bytes are no message. -/
theorem delivered {j : Interpreter F} (hfloats : j.floats = i.floats)
    (hdepth : (Value.ofData m.data).val.Within j.loadDepth) :
    (m.Valid i ∧ m.Writable i → serialize i m ≠ [] ∧ deserialize j (serialize i m) = .ok m) ∧
      (¬ (m.Valid i ∧ m.Writable i) → serialize i m = [] ∧
        deserialize j [] = .error (.text "Empty or invalid decoded message")) := by
  constructor
  · intro h
    have hne : serialize i m ≠ [] := serialize_ne_nil.2 h
    exact ⟨hne, deserialize_of_serialize hfloats hne hdepth⟩
  · exact fun h => ⟨serialize_eq_nil h, deserialize_nil j⟩

theorem delivered_powerOn : serialize smallInterpreter powerOn ≠ [] ∧
    deserialize smallInterpreter (serialize smallInterpreter powerOn) = .ok powerOn :=
  (delivered (i := smallInterpreter) rfl (by decide)).1 ⟨powerOn_valid, powerOn_writable⟩

/-- What is accepted is JSON that says a dictionary with the fields of a valid message, and
everything else is rejected by one of the checks. -/
theorem accepts_exactly (i : Interpreter F) (bytes : List UInt8) :
    (∀ m, deserialize i bytes = .ok m ↔
      m.Valid i ∧ ∃ data, Spells i (.ofData data) bytes ∧ Represents data m) ∧
    Explained (deserialize i bytes) :=
  ⟨fun _ => deserialize_eq_ok, explained_deserialize i bytes⟩

/-! ## Messages that were read -/

theorem Represents.get_fields (h : Represents data m) : ∀ e ∈ m.fields, get data e.1 = e.2 := by
  simp only [ProtocolMessage.fields, List.forall_mem_cons]
  exact ⟨get_of_get? h.protocolVersion, get_of_get? h.msgType, get_of_get? h.requestId,
    get_of_get? h.timestamp, get_of_get? h.payload, h.channel, h.command, h.phase, h.inReplyTo,
    h.sender, h.status, h.priority, fun _ hmem => absurd hmem List.not_mem_nil⟩

theorem within_get {depth : Nat} (h : ∀ e ∈ data.entries, e.2.val.Within depth) (key : String) :
    (get data key).val.Within depth := by
  unfold get
  cases hget : data.get? (.ofString key) with
  | none => cases depth <;> trivial
  | some v => exact h _ (Dict.mem_entries.2 hget)

/-- The message is nested no deeper than the dictionary that it was taken from. -/
theorem Represents.within {depth : Nat} (h : Represents data m)
    (hdata : (Value.ofData data).val.Within depth) : (Value.ofData m.data).val.Within depth := by
  cases depth with
  | zero => exact hdata.elim
  | succ depth =>
    have hentries : ∀ e ∈ data.entries, e.2.val.Within depth := fun e he =>
      hdata (e.1, e.2.val) (List.mem_map_of_mem he)
    refine forall_mem_data fun field hfield => ?_
    rw [← h.get_fields field hfield]
    exact within_get hentries field.1

/-- A message that was read can be sent on unless it cannot be written, and is then read as the
same. -/
theorem sent_on {bytes : List UInt8} (h : deserialize i bytes = .ok m) :
    (serialize i m ≠ [] ↔ m.Writable i) ∧
      (m.Writable i → deserialize i (serialize i m) = .ok m) := by
  obtain ⟨hvalid, data, ⟨u, t, w, -, ht, -⟩, hrep⟩ := deserialize_eq_ok.1 h
  have hsends : serialize i m ≠ [] ↔ m.Writable i := by
    rw [serialize_ne_nil, and_iff_right hvalid]
  exact ⟨hsends, fun hwrite =>
    deserialize_of_serialize rfl (hsends.2 hwrite) (hrep.within ht.within)⟩

/-- The entries of `powerOn` in another order, without the optional ones, with a key that no message
has, and with the command said twice. -/
def repeatedEntries : List (PyStr × Value Unit) :=
  [("command", .str "off"), ("x", ⟨.list [], .list (List.forall_mem_nil _)⟩),
    ("protocol_version", ⟨.int 1, .int 1⟩), ("msg_type", .str "command"),
    ("request_id", .str "r1"), ("timestamp", ⟨.float (.finite ()), .float _⟩),
    ("payload", .ofData .empty), ("channel", .str "hv"), ("command", .str "power_on")].map
      fun e => (PyStr.ofString e.1, e.2)

/-- What `json.dumps` would write if a dictionary could hold them. -/
def repeatedBytes : List UInt8 :=
  ((dumps half 3 (.dict (repeatedEntries.map fun e => (e.1, e.2.val)))).bind PyStr.encode).getD []

theorem spells_repeatedBytes :
    Spells smallInterpreter (.ofData (lastValues repeatedEntries)) repeatedBytes := by
  obtain ⟨t, hdumps, htext⟩ := @exists_dumps_entries _ half 2
    (repeatedEntries.map fun e => (e.1, e.2.val)) (by
      simp only [repeatedEntries, List.map_cons, List.map_nil, List.forall_mem_cons]
      exact ⟨⟨⟨_, rfl⟩, .str _, .str _, trivial⟩,
        ⟨⟨_, rfl⟩, .list (List.forall_mem_nil _), .list (List.forall_mem_nil _),
          List.forall_mem_nil _⟩,
        ⟨⟨_, rfl⟩, .int _, .int (by decide), trivial⟩, ⟨⟨_, rfl⟩, .str _, .str _, trivial⟩,
        ⟨⟨_, rfl⟩, .str _, .str _, trivial⟩, ⟨⟨_, rfl⟩, .float _, .float _, trivial⟩,
        ⟨⟨_, rfl⟩, (Value.ofData .empty).property, .dict (List.forall_mem_nil _)
          (List.forall_mem_nil _), List.forall_mem_nil _⟩,
        ⟨⟨_, rfl⟩, .str _, .str _, trivial⟩, ⟨⟨_, rfl⟩, .str _, .str _, trivial⟩,
        List.forall_mem_nil _⟩)
  have hbytes : repeatedBytes = utf8Encode t := by
    rw [repeatedBytes, hdumps, Option.bind_some, encode_eq_some.2 ⟨t, rfl, rfl⟩]
    rfl
  exact ⟨[], t, [], blank_nil, htext, blank_nil, by rw [hbytes, List.append_nil]; rfl⟩

theorem represents_repeated : Represents (lastValues repeatedEntries) powerOn where
  protocolVersion := rfl
  msgType := rfl
  requestId := rfl
  timestamp := rfl
  payload := rfl
  channel := rfl
  command := rfl
  phase := rfl
  inReplyTo := rfl
  sender := rfl
  status := rfl
  priority := rfl

theorem sent_on_powerOn : deserialize smallInterpreter repeatedBytes = .ok powerOn ∧
    deserialize smallInterpreter (serialize smallInterpreter powerOn) = .ok powerOn := by
  have hread : deserialize smallInterpreter repeatedBytes = .ok powerOn :=
    deserialize_eq_ok.2 ⟨powerOn_valid, _, spells_repeatedBytes, represents_repeated⟩
  exact ⟨hread, (sent_on hread).2 powerOn_writable⟩

end MultiDAQ.Common.MessageHandler
