import MultiDAQ.Lib.Utf8
import MultiDAQ.Receiver.Metadata

/-!
# What the receiver reads from a text of metadata

The tokens of a frame are the entries that were joined, up to the first NUL, where the C string ends
(`tokens_segments`). Every field has one key (`fieldOf_eq_some`), so that a field has the value of
the entry of its key among these, if that value is not empty (`foldl_setEntry`).
-/

namespace MultiDAQ.Receiver

open MultiDAQ.Lib

/-! ## UTF-8 -/

theorem mem_utf8 {d : Char} {b : UInt8} (hb : b.toNat < 128) (hd : d.toNat = b.toNat) {text : Text} :
    b ∈ utf8 text ↔ d ∈ text := by
  unfold utf8
  rw [List.mem_flatMap]
  constructor
  · rintro ⟨c, hc, hmem⟩
    have hcd : c = d := Char.toNat_inj.1 (((mem_utf8EncodeChar hb).1 hmem).trans hd.symm)
    exact hcd ▸ hc
  · intro hmem
    exact ⟨d, hmem, (mem_utf8EncodeChar hb).2 hd⟩

theorem utf8_append (s t : Text) : utf8 (s ++ t) = utf8 s ++ utf8 t := List.flatMap_append

theorem utf8_injective {s t : Text} (h : utf8 s = utf8 t) : s = t := utf8Encode_injective h

theorem utf8_joinWith (texts : List Text) :
    utf8 (joinWith ';' texts) = joinWith 59 (texts.map utf8) := by
  induction texts with
  | nil => rfl
  | cons t texts ih =>
    by_cases hempty : texts = []
    · subst hempty
      rfl
    · rw [joinWith_cons _ _ hempty, utf8_append, List.map_cons,
        joinWith_cons _ _ (by simpa using hempty), ← ih]
      rfl

/-- ASCII characters are encoded as they are. -/
theorem utf8_ascii {text : Text} (h : ∀ c ∈ text, c.toNat < 128) : utf8 text = asciiBytes text :=
  utf8Encode_ascii h

/-! ## Numbers -/

theorem asciiByte_toNat {c : Char} (h : c.toNat < 256) : c.toNat.toUInt8.toNat = c.toNat :=
  UInt8.toNat_ofNat_of_lt' h

/-- The characters of a number, as bytes. -/
theorem mem_decimal {n : Nat} {c : Char} (h : c ∈ decimal n) : 48 ≤ c.toNat ∧ c.toNat ≤ 57 := by
  have hdigit := Nat.isDigit_of_mem_toDigits (by decide) (by decide) h
  simpa [Char.isDigit, UInt32.le_iff_toNat_le] using hdigit

theorem leadingNat_digits {l : Text} (h : ∀ c ∈ l, 48 ≤ c.toNat ∧ c.toNat ≤ 57) :
    leadingNat (asciiBytes l) = Nat.ofDigitChars 10 l 0 := by
  have hall : (asciiBytes l).takeWhile isDigit = asciiBytes l := by
    refine List.takeWhile_eq_self_iff.2 fun b hb => ?_
    obtain ⟨c, hc, rfl⟩ := List.mem_map.1 hb
    have := h c hc
    simp only [isDigit, UInt8.le_iff_toNat_le, asciiByte_toNat (show c.toNat < 256 by omega),
      Bool.and_eq_true, decide_eq_true_eq]
    exact this
  unfold leadingNat
  rw [hall]
  generalize 0 = init
  clear hall
  induction l generalizing init with
  | nil => rw [Nat.ofDigitChars_nil]; rfl
  | cons c l ih =>
    have hc := h c List.mem_cons_self
    rw [Nat.ofDigitChars_cons, ← ih fun d hd => h d (List.mem_cons_of_mem _ hd)]
    show List.foldl _ (10 * init + (c.toNat.toUInt8.toNat - 48)) _ = _
    rw [asciiByte_toNat (by omega)]
    rfl

theorem leadingNat_decimal (n : Nat) : leadingNat (asciiBytes (decimal n)) = n := by
  rw [leadingNat_digits fun c hc => mem_decimal hc]
  exact Nat.ofDigitChars_ten_toDigits

theorem atoi_intText (i : Int) : atoi (asciiBytes (intText i)) = i := by
  have habs := leadingNat_decimal i.natAbs
  unfold intText
  split
  next hneg =>
    show atoi (45 :: asciiBytes (decimal i.natAbs)) = i
    unfold atoi
    rw [List.dropWhile_cons_of_neg (by decide)]
    simp only [if_true]
    omega
  next hpos =>
    have hne : decimal i.natAbs ≠ [] := Nat.toDigits_ne_nil
    obtain ⟨c, l, hl⟩ := List.exists_cons_of_ne_nil hne
    have hc : 48 ≤ c.toNat ∧ c.toNat ≤ 57 := mem_decimal (n := i.natAbs) (hl ▸ List.mem_cons_self)
    have hbyte : c.toNat.toUInt8.toNat = c.toNat := asciiByte_toNat (by omega)
    rw [hl] at habs ⊢
    show atoi (c.toNat.toUInt8 :: asciiBytes l) = i
    unfold atoi
    rw [List.dropWhile_cons_of_neg]
    · dsimp only
      rw [if_neg, if_neg]
      · have : leadingNat (c.toNat.toUInt8 :: asciiBytes l) = i.natAbs := habs
        omega
      · intro h
        have := congrArg UInt8.toNat h
        rw [hbyte] at this
        have : (43 : UInt8).toNat = 43 := rfl
        omega
      · intro h
        have := congrArg UInt8.toNat h
        rw [hbyte] at this
        have : (45 : UInt8).toNat = 45 := rfl
        omega
    · have h13 : (13 : UInt8).toNat = 13 := rfl
      have h32 : (32 : UInt8).toNat = 32 := rfl
      simp only [isSpace, UInt8.le_iff_toNat_le, ← UInt8.toNat_inj, hbyte, h13, h32,
        Bool.or_eq_true, Bool.and_eq_true, decide_eq_true_eq, not_or, not_and]
      omega

/-! ## Names of fields -/

namespace MetaField

/-- The text of a channel. -/
def channelText (name : String) (ch : Fin 7) : Text := name.toList ++ [Char.ofNat (48 + ch.val)]

/-- The key that the server gives a field. -/
def name : MetaField → Text
  | version => "version".toList
  | timestampRaw => "timestamp_raw".toList
  | timestampUtc => "timestamp_utc".toList
  | acquisitionMode => "acquisition_mode".toList
  | acquisitionType => "acquisition_type".toList
  | statusReg0 => "status_reg0".toList
  | statusReg1 => "status_reg1".toList
  | statusReg10 => "status_reg10".toList
  | statusReg15 => "status_reg15".toList
  | statusReg16 => "status_reg16".toList
  | statusReg18 => "status_reg18".toList
  | statusReg19 => "status_reg19".toList
  | statusReg31 => "status_reg31".toList
  | statusReg39 => "status_reg39".toList
  | serialPmt ch => channelText "serial_pmt" ch
  | clientId => "client_id".toList
  | acqTypeParam => "acq_type_param".toList
  | multipmtId => "multipmt_id".toList
  | batchId => "batch_id".toList
  | fixedBadMask => "fixed_bad_mask".toList
  | runId => "run_id".toList
  | softwareVersion => "software_version".toList
  | voltage ch => channelText "voltage_ch" ch
  | thresholdMv ch => channelText "threshold_mv_ch" ch
  | thresholdPe ch => channelText "threshold_pe_ch" ch
  | hvChannelState ch => channelText "hv_channel_state_ch" ch
  | hvPowerState ch => channelText "hv_power_state_ch" ch

end MetaField

/-- A branch sets a field only for the key of the field. -/
def Names (branch : Bytes → Option (Option MetaField)) : Prop :=
  ∀ key f, branch key = some (some f) → key = asciiBytes f.name

theorem literal_names {name : String} {f : MetaField} (h : f.name = name.toList) :
    Names (literal name f) := by
  intro key g hg
  unfold literal at hg
  split at hg
  next hkey =>
    obtain rfl := Option.some.inj (Option.some.inj hg)
    rw [h]
    exact hkey
  next => cases hg

theorem channelByte : ∀ ch : Fin 7, (Char.ofNat (48 + ch.val)).toNat.toUInt8.toNat = 48 + ch.val := by
  decide

theorem channels_names {name : String} {f : Fin 7 → MetaField}
    (h : ∀ ch, (f ch).name = MetaField.channelText name ch) : Names (channels name f) := by
  intro key g hg
  unfold channels at hg
  dsimp only at hg
  split at hg
  next hkey =>
    obtain ⟨ch, hch, rfl⟩ := Option.map_eq_some_iff.1 (Option.some.inj hg)
    obtain ⟨hpre, hlen⟩ := hkey
    generalize hn : asciiBytes name.toList = pre at hpre hlen hch
    unfold channelAt at hch
    dsimp only at hch
    split at hch
    next hdigit =>
      have hlast : key = pre ++ [key.getD pre.length 0] := by
        have hlt : pre.length < key.length := by omega
        have hsplit := List.take_append_getElem hlt
        rw [hpre, ← hlen, List.take_length] at hsplit
        have hget : key.getD pre.length 0 = key[pre.length] := by simp [List.getD, hlt]
        rw [hget]
        exact hsplit.symm
      have hval : (key.getD pre.length 0).toNat - 48 = ch.val :=
        congrArg Fin.val (Option.some.inj hch)
      have hchar : (Char.ofNat (48 + ch.val)).toNat.toUInt8 = key.getD pre.length 0 := by
        rw [← UInt8.toNat_inj, channelByte]
        omega
      rw [h, MetaField.channelText, asciiBytes, List.map_append, ← asciiBytes, hn, List.map_singleton,
        hchar]
      exact hlast
    next => cases hch
  next => cases hg

theorem branches_name : ∀ branch ∈ branches, Names branch := by
  unfold branches
  simp only [List.forall_mem_cons]
  refine ⟨literal_names rfl, literal_names rfl, literal_names rfl, literal_names rfl,
    literal_names rfl, literal_names rfl, literal_names rfl, literal_names rfl, literal_names rfl,
    literal_names rfl, literal_names rfl, literal_names rfl, literal_names rfl, literal_names rfl,
    channels_names fun _ => rfl, literal_names rfl, literal_names rfl, literal_names rfl,
    literal_names rfl, literal_names rfl, literal_names rfl, literal_names rfl,
    channels_names fun _ => rfl, channels_names fun _ => rfl, channels_names fun _ => rfl,
    channels_names fun _ => rfl, channels_names fun _ => rfl, List.forall_mem_nil _⟩

/-- All fields. -/
def allFields : List MetaField :=
  [.version, .timestampRaw, .timestampUtc, .acquisitionMode, .acquisitionType, .statusReg0,
    .statusReg1, .statusReg10, .statusReg15, .statusReg16, .statusReg18, .statusReg19, .statusReg31,
    .statusReg39, .clientId, .acqTypeParam, .multipmtId, .batchId, .fixedBadMask, .runId,
    .softwareVersion] ++
  (List.finRange 7).flatMap fun ch =>
    [.serialPmt ch, .voltage ch, .thresholdMv ch, .thresholdPe ch, .hvChannelState ch,
      .hvPowerState ch]

theorem mem_allFields (f : MetaField) : f ∈ allFields := by
  unfold allFields
  cases f with
  | serialPmt ch | voltage ch | thresholdMv ch | thresholdPe ch | hvChannelState ch
    | hvPowerState ch =>
    exact List.mem_append_right _ (List.mem_flatMap.2 ⟨ch, List.mem_finRange ch, by simp⟩)
  | _ => exact List.mem_append_left _ (by simp)

theorem fieldOf_name (f : MetaField) : fieldOf (asciiBytes f.name) = some f := by
  have hall : ∀ f ∈ allFields, fieldOf (asciiBytes f.name) = some f := by decide +kernel
  exact hall f (mem_allFields f)

theorem fieldOf_eq_some {key : Bytes} {f : MetaField} :
    fieldOf key = some f ↔ key = asciiBytes f.name := by
  constructor
  · intro h
    obtain ⟨_, hfind, rfl⟩ : ∃ found, branches.findSome? (· key) = some found ∧ found = some f := by
      unfold fieldOf at h
      exact ⟨_, Option.join_eq_some_iff.1 h, rfl⟩
    obtain ⟨branch, hmem, hbranch⟩ := List.exists_of_findSome?_eq_some hfind
    exact branches_name branch hmem key f hbranch
  · rintro rfl
    exact fieldOf_name f

/-! ## The text of an entry -/

/-- The segment of an entry in the frame. -/
def segment (e : Bytes × Bytes) : Bytes := e.1 ++ 61 :: e.2

/-- The separators are not in the entry. -/
structure Clean (e : Bytes × Bytes) : Prop where
  semicolon : 59 ∉ e.1 ∧ 59 ∉ e.2
  equals : 61 ∉ e.1 ∧ 61 ∉ e.2

theorem keyValue_of_notMem {s : Bytes} (h : 61 ∉ s) : keyValue s = none := by
  unfold keyValue
  by_cases hs : s = []
  · subst hs
    rfl
  · rw [strtok_of_notMem hs h]
    rfl

theorem keyValue_segment {k v : Bytes} (hk : 61 ∉ k) (hv : 61 ∉ v) :
    keyValue (k ++ 61 :: v) = if k = [] ∨ v = [] then none else some (k, v) := by
  by_cases hnil : k = []
  · subst hnil
    rw [if_pos (.inl rfl), List.nil_append]
    unfold keyValue
    rw [strtok_cons_delim]
    exact keyValue_of_notMem hv
  · unfold keyValue
    rw [strtok_append hnil hk]
    dsimp only
    by_cases hvnil : v = []
    · subst hvnil
      rw [if_pos (.inr rfl), strtok_nil]
    · rw [if_neg (not_or.2 ⟨hnil, hvnil⟩), strtok_of_notMem hvnil hv]

/-! ## What a C string keeps -/

theorem cString_append {s : Bytes} (h : 0 ∉ s) (t : Bytes) : cString (s ++ t) = s ++ cString t := by
  unfold cString
  exact List.takeWhile_append_of_pos fun b hb => by simpa using fun heq : b = 0 => h (heq ▸ hb)

theorem cString_append_of_mem {s : Bytes} (h : 0 ∈ s) (t : Bytes) : cString (s ++ t) = cString s := by
  obtain ⟨pre, post, rfl, hpre⟩ := List.eq_append_cons_of_mem h
  unfold cString
  have hall : ∀ b ∈ pre, (b != 0) = true := fun b hb => by
    simpa using fun heq : b = 0 => hpre (heq ▸ hb)
  rw [List.append_assoc, List.takeWhile_append_of_pos hall, List.takeWhile_append_of_pos hall]
  rfl

theorem cString_eq_self {s : Bytes} (h : 0 ∉ s) : cString s = s := by
  simpa [cString] using cString_append h []

theorem zero_notMem_cString (s : Bytes) : 0 ∉ cString s := by
  intro h
  simpa using List.mem_takeWhile_imp h

/-- The segments up to the first NUL. -/
def cutSegments : List Bytes → List Bytes
  | [] => []
  | s :: segments => if 0 ∈ s then [cString s] else s :: cutSegments segments

theorem notMem_cutSegments {b : UInt8} {segments : List Bytes} (h : ∀ s ∈ segments, b ∉ s) :
    ∀ s ∈ cutSegments segments, b ∉ s := by
  induction segments with
  | nil => exact nofun
  | cons s segments ih =>
    have hs := h s List.mem_cons_self
    unfold cutSegments
    split
    next =>
      refine List.forall_mem_singleton.2 fun hmem => ?_
      exact hs ((List.takeWhile_sublist _).subset hmem)
    next => exact List.forall_mem_cons.2 ⟨hs, ih fun s' hs' => h s' (List.mem_cons_of_mem _ hs')⟩

theorem cString_joinWith (segments : List Bytes) :
    cString (joinWith 59 segments) = joinWith 59 (cutSegments segments) := by
  induction segments with
  | nil => rfl
  | cons s segments ih =>
    unfold cutSegments
    by_cases hempty : segments = []
    · subst hempty
      split
      next => rfl
      next h => exact cString_eq_self h
    · rw [joinWith_cons _ _ hempty]
      split
      next h => exact cString_append_of_mem h _
      next h =>
        have hne : cutSegments segments ≠ [] := by
          obtain ⟨s', segments, rfl⟩ := List.exists_cons_of_ne_nil hempty
          unfold cutSegments
          split <;> simp
        rw [joinWith_cons _ _ hne, cString_append h, ← ih]
        rfl

/-- The entries up to the first NUL. -/
def beforeNul : List (Bytes × Bytes) → List (Bytes × Bytes)
  | [] => []
  | (k, v) :: es =>
    if 0 ∈ k then [] else if 0 ∈ v then [(k, cString v)] else (k, v) :: beforeNul es

theorem lookup_eq_none_of_notMem {es : List (Bytes × Bytes)} {k : Bytes}
    (h : k ∉ es.map Prod.fst) : es.lookup k = none := by
  rw [List.lookup_eq_none_iff]
  rintro ⟨k', v'⟩ hmem
  simp only [bne_iff_ne, ne_eq]
  rintro rfl
  exact h (List.mem_map_of_mem hmem)

section Populate

variable {F : Type} {atof : Bytes → F} {pe : F} {m : MetaData F}

/-- An entry sets the field of its key, unless its value is empty. -/
def setEntry (atof : Bytes → F) (m : MetaData F) (e : Bytes × Bytes) : MetaData F :=
  if e.2 = [] then m
  else
    match fieldOf e.1 with
    | none => m
    | some f => Function.update m f (f.type.parse atof e.2)

theorem setToken_segment {k v : Bytes} (hk : 61 ∉ k) (hv : 61 ∉ v) :
    setToken atof m (k ++ 61 :: v) = setEntry atof m (k, v) := by
  unfold setToken setEntry
  rw [keyValue_segment hk hv]
  by_cases hvnil : v = []
  · rw [if_pos (.inr hvnil), if_pos hvnil]
  · rw [if_neg hvnil]
    by_cases hknil : k = []
    · subst hknil
      have hnone : fieldOf [] = none := by decide +kernel
      simp only [true_or, if_true, hnone]
    · cases hfield : fieldOf k with
      | none => simp only [hknil, hvnil, or_self, if_false, hfield]
      | some f => simp only [hknil, hvnil, or_self, if_false, hfield]

theorem notMem_cString {b : UInt8} {s : Bytes} (h : b ∉ s) : b ∉ cString s := fun hmem =>
  h ((List.takeWhile_sublist _).subset hmem)

/-- The tokens of the segments set what the entries before the first NUL say. -/
theorem foldl_cutSegments {es : List (Bytes × Bytes)} (h : ∀ e ∈ es, Clean e) (m : MetaData F) :
    (cutSegments (es.map segment)).foldl (setToken atof) m =
      (beforeNul es).foldl (setEntry atof) m := by
  induction es generalizing m with
  | nil => rfl
  | cons e es ih =>
    obtain ⟨k, v⟩ := e
    obtain ⟨hk, hv⟩ := (h _ List.mem_cons_self).equals
    have hrest := ih fun e he => h e (List.mem_cons_of_mem _ he)
    rw [List.map_cons]
    unfold cutSegments beforeNul segment
    dsimp only
    by_cases hk₀ : 0 ∈ k
    · rw [if_pos (List.mem_append_left _ hk₀), if_pos hk₀, cString_append_of_mem hk₀]
      show setToken atof m (cString k) = m
      unfold setToken
      rw [keyValue_of_notMem (notMem_cString hk)]
    · rw [if_neg hk₀]
      by_cases hv₀ : 0 ∈ v
      · rw [if_pos (List.mem_append_right _ (List.mem_cons_of_mem _ hv₀)), if_pos hv₀,
          cString_append hk₀]
        exact setToken_segment hk (notMem_cString hv)
      · rw [if_neg (by simp [hk₀, hv₀]), if_neg hv₀, List.foldl_cons, List.foldl_cons,
          setToken_segment hk hv]
        exact hrest _

theorem tokens_segments {es : List (Bytes × Bytes)} (h : ∀ e ∈ es, Clean e) (m : MetaData F) :
    (tokens 59 (cString (joinWith 59 (es.map segment)))).foldl (setToken atof) m =
      (beforeNul es).foldl (setEntry atof) m := by
  have hsegments : ∀ s ∈ es.map segment, 59 ∉ s := by
    intro s hs
    obtain ⟨e, he, rfl⟩ := List.mem_map.1 hs
    simp [segment, (h e he).semicolon]
  have hempty : (fun m (s : Bytes) => if decide (s ≠ []) then setToken atof m s else m) =
      setToken atof := by
    funext m s
    by_cases hs : s = []
    · subst hs
      rfl
    · rw [if_pos (by simpa using hs)]
  rw [cString_joinWith, tokens_join (notMem_cutSegments hsegments), List.foldl_filter, hempty,
    foldl_cutSegments h]

/-- What the entries set, when no key occurs twice. -/
theorem foldl_setEntry {es : List (Bytes × Bytes)} (hnodup : (es.map Prod.fst).Nodup)
    (f : MetaField) : es.foldl (setEntry atof) m f =
      match es.lookup (asciiBytes f.name) with
      | none => m f
      | some v => if v = [] then m f else f.type.parse atof v := by
  induction es generalizing m with
  | nil => rfl
  | cons e es ih =>
    obtain ⟨k, v⟩ := e
    obtain ⟨hk, hes⟩ := List.nodup_cons.1 hnodup
    rw [List.foldl_cons, ih hes, List.lookup_cons]
    by_cases hname : asciiBytes f.name = k
    · rw [hname, lookup_eq_none_of_notMem hk, beq_self_eq_true]
      dsimp only
      unfold setEntry
      split
      next => rfl
      next =>
        dsimp only
        rw [fieldOf_eq_some.2 hname.symm]
        exact Function.update_self ..
    · have hsame : setEntry atof m (k, v) f = m f := by
        unfold setEntry
        split
        next => rfl
        next =>
          dsimp only
          cases hfield : fieldOf k with
          | none => rfl
          | some g =>
            have hne : f ≠ g := by
              rintro rfl
              exact hname (fieldOf_eq_some.1 hfield).symm
            exact Function.update_of_ne hne ..
      rw [beq_false_of_ne hname, hsame]

end Populate

/-! ## Entries before the first NUL -/

section BeforeNul

variable {es pre post : List (Bytes × Bytes)} {k v : Bytes}

theorem beforeNul_append (h : ∀ e ∈ pre, 0 ∉ e.1 ∧ 0 ∉ e.2) (es : List (Bytes × Bytes)) :
    beforeNul (pre ++ es) = pre ++ beforeNul es := by
  induction pre with
  | nil => rfl
  | cons e pre ih =>
    obtain ⟨hk, hv⟩ := h e List.mem_cons_self
    rw [List.cons_append, beforeNul, if_neg hk, if_neg hv,
      ih fun e he => h e (List.mem_cons_of_mem _ he), List.cons_append]

theorem beforeNul_append_of_mem (h : ∃ e ∈ pre, 0 ∈ e.1 ∨ 0 ∈ e.2) (es : List (Bytes × Bytes)) :
    beforeNul (pre ++ es) = beforeNul pre := by
  induction pre with
  | nil =>
    obtain ⟨e, he, -⟩ := h
    cases he
  | cons e pre ih =>
    rw [List.cons_append, beforeNul, beforeNul]
    split
    next => rfl
    next hk =>
      split
      next => rfl
      next hv =>
        obtain ⟨e', he', hnul⟩ := h
        rcases List.mem_cons.1 he' with rfl | he'
        · exact absurd hnul (not_or.2 ⟨hk, hv⟩)
        · rw [ih ⟨e', he', hnul⟩]

theorem keys_beforeNul (es : List (Bytes × Bytes)) :
    (beforeNul es).map Prod.fst <+: es.map Prod.fst := by
  induction es with
  | nil => exact List.prefix_refl _
  | cons e es ih =>
    unfold beforeNul
    split
    next => exact List.nil_prefix
    next =>
      split
      next => exact List.cons_prefix_cons.2 ⟨rfl, List.nil_prefix⟩
      next => exact List.cons_prefix_cons.2 ⟨rfl, ih⟩

theorem lookup_beforeNul_of_notMem (h : k ∉ es.map Prod.fst) : (beforeNul es).lookup k = none :=
  lookup_eq_none_of_notMem fun hmem => h ((keys_beforeNul es).subset hmem)

/-- An entry after one with a NUL is lost. -/
theorem lookup_beforeNul_lost (hk : k ∉ pre.map Prod.fst) (h : ∃ e ∈ pre, 0 ∈ e.1 ∨ 0 ∈ e.2) :
    (beforeNul (pre ++ (k, v) :: post)).lookup k = none := by
  rw [beforeNul_append_of_mem h]
  exact lookup_beforeNul_of_notMem hk

/-- The value of an entry with no NUL before it is cut at its own first NUL. -/
theorem lookup_beforeNul_cut (hk : k ∉ pre.map Prod.fst) (hk₀ : 0 ∉ k)
    (h : ∀ e ∈ pre, 0 ∉ e.1 ∧ 0 ∉ e.2) :
    (beforeNul (pre ++ (k, v) :: post)).lookup k = some (cString v) := by
  rw [beforeNul_append h, List.lookup_append, lookup_eq_none_of_notMem hk, Option.none_or, beforeNul,
    if_neg hk₀]
  split
  next => exact List.lookup_cons_self
  next hv => rw [List.lookup_cons_self, cString_eq_self hv]

end BeforeNul

end MultiDAQ.Receiver
