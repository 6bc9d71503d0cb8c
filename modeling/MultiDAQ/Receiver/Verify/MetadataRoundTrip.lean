import MultiDAQ.Receiver.Verify.Metadata

/-!
# The round trip of metadata

The receiver recovers the metadata that the server has serialized, unless a `version` is negative or
there is a NUL: it ends the text for the receiver, and an entry from there on is lost unless it says
what the field has by default (`metadata_roundTrip_iff`).
-/

namespace MultiDAQ.Receiver

open MultiDAQ.Lib

/-- `'\0'`. -/
def nul : Char := Char.ofNat 0

/-- The text of a value that may be missing. -/
def strOf : Option MetaValue → Text
  | none => []
  | some v => v.str

/-- The value of an integer, or the default of one that is missing or empty. -/
def intOf (default : Int) : Option MetaValue → Int
  | some (.int i) => i
  | _ => default

/-- What a field is to be. -/
def MetaType.expected {F : Type} (v : Option MetaValue) : (t : MetaType) → t.Value F → t.Value F
  | .chars _, _ => utf8 (strOf v)
  | .int32, default | .uint32, default | .int64, default => intOf default v
  | .float, default => default

/-- The value has the type of the field, and fits: a text leaves room for the final NUL, and a number
is in the range of `int32_t`. -/
def MetaType.Fits (v : MetaValue) : MetaType → Prop
  | .chars size => (utf8 v.str).length ≤ size - 1
  | .int32 | .uint32 | .int64 => (∃ i, v = .int i ∧ -2 ^ 31 ≤ i ∧ i < 2 ^ 31) ∨ v.str = []
  | .float => True

def Fits (metadata : Metadata) : Prop :=
  ∀ f v, metadata.get? (MetaField.name f) = some v → f.type.Fits v

section RoundTrip

variable {F : Type} (atof : Bytes → F) (pe : F)

/-- Every integer and every text is recovered, and the default where there is none, also of a
`float`. -/
def Recovered (metadata : Metadata) (m : MetaData F) : Prop :=
  ∀ f, (f.type = .float → strOf (metadata.get? f.name) = []) →
    m f = f.type.expected (metadata.get? f.name) (resetMetaStruct pe f)

/-- A frame that is too long is refused, and from any other the metadata are recovered. -/
def RoundTrip (metadata : Metadata) (frame : Bytes) : Prop :=
  (maximumHeaderSize - 1 < frame.length →
    receiveMetadata atof pe frame = .error "ERROR: frame too long") ∧
  (frame.length ≤ maximumHeaderSize - 1 →
    ∃ m, receiveMetadata atof pe frame = .ok m ∧ Recovered pe metadata m)

end RoundTrip

def HasNul (e : Text × MetaValue) : Prop := nul ∈ e.1 ∨ nul ∈ e.2.str

section SafeOnWire

variable {F : Type} (pe : F)

/-- The entry says nothing that its field does not say by default, or is of no field. -/
def SaysDefault (e : Text × MetaValue) : Prop :=
  ∀ f : MetaField, f.name = e.1 → f.type ≠ .float →
    f.type.expected (some e.2) (resetMetaStruct pe f) = resetMetaStruct pe f

/-- What the way relies on. -/
structure SafeOnWire (metadata : Metadata) : Prop where
  version : ∀ i, metadata.get? MetaField.version.name = some (.int i) → 0 ≤ i
  nul : ∀ pre e post, metadata.entries = pre ++ e :: post → HasNul e →
    ∀ e' ∈ e :: post, SaysDefault pe e'

end SafeOnWire

/-! ## Serialization -/

/-- The separators are not in the entry. -/
def SeparatorFree (e : Text × MetaValue) : Prop :=
  (';' ∉ e.1 ∧ ';' ∉ e.2.str) ∧ '=' ∉ e.1 ∧ '=' ∉ e.2.str

theorem serializeField_ok {key value field : Text} (h : serializeField key value = .ok field) :
    field = key ++ '=' :: value ∧ (';' ∉ key ∧ ';' ∉ value) ∧ '=' ∉ key ∧ '=' ∉ value := by
  unfold serializeField at h
  split at h
  next => cases h
  next hkey =>
    obtain ⟨hkey, hkey'⟩ := not_or.1 hkey
    split at h
    next => cases h
    next hvalue =>
      split at h
      next => cases h
      next hvalue' => exact ⟨(Except.ok.inj h).symm, ⟨hkey, hvalue⟩, hkey', hvalue'⟩

theorem serializeFields_ok {entries : List (Text × MetaValue)} {fields : List Text}
    (h : entries.mapM (fun e => serializeField e.1 e.2.str) = .ok fields) :
    fields = entries.map (fun e => e.1 ++ '=' :: e.2.str) ∧ ∀ e ∈ entries, SeparatorFree e := by
  induction entries generalizing fields with
  | nil =>
    obtain rfl := Except.ok.inj h
    exact ⟨rfl, List.forall_mem_nil _⟩
  | cons e entries ih =>
    rw [List.mapM_cons] at h
    cases hfield : serializeField e.1 e.2.str with
    | error err =>
      rw [hfield] at h
      cases h
    | ok field =>
      rw [hfield] at h
      cases hrest : entries.mapM (fun e => serializeField e.1 e.2.str) with
      | error err =>
        rw [hrest] at h
        cases h
      | ok rest =>
        rw [hrest] at h
        obtain rfl := Except.ok.inj h
        obtain ⟨rfl, hfree⟩ := serializeField_ok hfield
        obtain ⟨rfl, hall⟩ := ih hrest
        exact ⟨rfl, List.forall_mem_cons.2 ⟨hfree, hall⟩⟩

/-- The entries as the receiver gets them. -/
def wireEntries (metadata : Metadata) : List (Bytes × Bytes) :=
  metadata.entries.map fun e => (utf8 e.1, utf8 e.2.str)

theorem serializeMetadata_ok {metadata : Metadata} {text : Text}
    (h : serializeMetadata metadata = .ok text) :
    utf8 text = joinWith 59 ((wireEntries metadata).map segment) ∧
      ∀ e ∈ wireEntries metadata, Clean e := by
  unfold serializeMetadata at h
  cases hfields : metadata.entries.mapM (fun e => serializeField e.1 e.2.str) with
  | error err =>
    rw [hfields] at h
    cases h
  | ok fields =>
    rw [hfields] at h
    obtain rfl := Except.ok.inj h
    obtain ⟨rfl, hfree⟩ := serializeFields_ok hfields
    have hsemi {text : Text} (ht : ';' ∉ text) : 59 ∉ utf8 text := fun hmem =>
      ht ((mem_utf8 (d := ';') (by decide) rfl).1 hmem)
    have heq {text : Text} (ht : '=' ∉ text) : 61 ∉ utf8 text := fun hmem =>
      ht ((mem_utf8 (d := '=') (by decide) rfl).1 hmem)
    constructor
    · unfold wireEntries
      rw [utf8_joinWith, List.map_map, List.map_map]
      refine congrArg (joinWith 59) (List.map_congr_left fun e _ => ?_)
      show utf8 (e.1 ++ '=' :: e.2.str) = utf8 e.1 ++ 61 :: utf8 e.2.str
      rw [utf8_append]
      rfl
    · intro e he
      obtain ⟨e', he', rfl⟩ := List.mem_map.1 he
      obtain ⟨hs, heq'⟩ := hfree e' he'
      exact ⟨⟨hsemi hs.1, hsemi hs.2⟩, heq heq'.1, heq heq'.2⟩

/-! ## Values -/

section Values

variable {F : Type} {atof : Bytes → F} {pe : F} {v : MetaValue} {t : MetaType}

theorem intText_ascii {i : Int} : ∀ c ∈ intText i, c.toNat < 128 ∧ c ≠ nul := by
  have hdecimal {n : Nat} {c : Char} (hc : c ∈ decimal n) : c.toNat < 128 ∧ c ≠ nul := by
    obtain ⟨hlow, hhigh⟩ := mem_decimal hc
    refine ⟨by omega, ?_⟩
    rintro rfl
    exact absurd hlow (by decide)
  intro c hc
  unfold intText at hc
  split at hc
  next =>
    rcases List.mem_cons.1 hc with rfl | hc
    · decide
    · exact hdecimal hc
  next => exact hdecimal hc

theorem atoi_utf8 (i : Int) : atoi (utf8 (intText i)) = i := by
  rw [utf8_ascii fun c hc => (intText_ascii c hc).1, atoi_intText]

/-- A number has no NUL. -/
theorem nul_notMem_of_fits (hfits : (∃ i, v = .int i ∧ -2 ^ 31 ≤ i ∧ i < 2 ^ 31) ∨ v.str = []) :
    nul ∉ v.str := by
  rcases hfits with ⟨i, rfl, -⟩ | hnil
  · exact fun hmem => (intText_ascii nul hmem).2 rfl
  · rw [hnil]
    exact List.not_mem_nil

theorem zero_mem_utf8 {text : Text} : 0 ∈ utf8 text ↔ nul ∈ text := mem_utf8 (by decide) rfl

/-- A value without a NUL is read as it was meant. -/
theorem parse_expected (hfits : t.Fits v) (hne : v.str ≠ []) (hfloat : t ≠ .float)
    (hsign : t = .uint32 → ∀ i, v = .int i → 0 ≤ i) (default : t.Value F) :
    t.parse atof (utf8 v.str) = t.expected (some v) default := by
  cases t with
  | chars size => exact List.take_of_length_le hfits
  | int32 | int64 =>
    obtain ⟨i, rfl, -⟩ := hfits.resolve_right hne
    exact atoi_utf8 i
  | uint32 =>
    obtain ⟨i, rfl, -, hlt⟩ := hfits.resolve_right hne
    have hpos := hsign rfl i rfl
    show atoi (utf8 (intText i)) % 2 ^ 32 = i
    rw [atoi_utf8]
    omega
  | float => exact absurd rfl hfloat

/-- What is read of a value up to its first NUL; of an empty one nothing is. -/
def readValue (atof : Bytes → F) (v : MetaValue) (default : t.Value F) : t.Value F :=
  let value := cString (utf8 v.str)
  if value = [] then default else t.parse atof value

/-- A value with a NUL is not read as it was meant. -/
theorem readValue_ne (hfits : t.Fits v) (hfloat : t ≠ .float) {default : t.Value F}
    (hdefault : t.expected none default = default) (hnul : nul ∈ v.str) :
    readValue atof v default ≠ t.expected (some v) default := by
  cases t with
  | chars size =>
    have hdefault : utf8 [] = default := hdefault
    have hzero : (0 : UInt8) ∈ utf8 v.str := zero_mem_utf8.2 hnul
    have hread {value : Bytes} (h : value = readValue (t := .chars size) atof v default) :
        0 ∉ value := by
      unfold readValue at h
      dsimp only at h
      split at h
      · rw [h, ← hdefault]
        exact List.not_mem_nil
      · rw [h]
        exact fun hmem => zero_notMem_cString _ (List.mem_of_mem_take hmem)
    intro heq
    exact hread heq.symm hzero
  | int32 | uint32 | int64 => exact absurd hnul (nul_notMem_of_fits hfits)
  | float => exact absurd rfl hfloat

/-- A value that is the default of its field has no NUL. -/
theorem nul_notMem_of_default (hfits : t.Fits v) (hfloat : t ≠ .float) {default : t.Value F}
    (hdefault : t.expected none default = default) (hv : t.expected (some v) default = default) :
    nul ∉ v.str := by
  cases t with
  | chars size =>
    have hdefault : utf8 [] = default := hdefault
    have hv : utf8 v.str = default := hv
    intro hnul
    have hzero := zero_mem_utf8.2 hnul
    rw [hv, ← hdefault] at hzero
    exact List.not_mem_nil hzero
  | int32 | uint32 | int64 => exact nul_notMem_of_fits hfits
  | float => exact absurd rfl hfloat

theorem expected_none (f : MetaField) :
    f.type.expected none (resetMetaStruct pe f) = resetMetaStruct pe f := by
  cases f <;> rfl

theorem expected_empty {f : MetaField} (h : v.str = []) :
    f.type.expected (some v) (resetMetaStruct pe f) = resetMetaStruct pe f := by
  have hother : v = .other [] := by
    cases v with
    | int i =>
      have hnil : intText i = [] := h
      unfold intText at hnil
      split at hnil
      next => cases hnil
      next => exact absurd hnil Nat.toDigits_ne_nil
    | other text => exact congrArg MetaValue.other h
  subst hother
  cases f <;> rfl

end Values

/-! ## Names -/

theorem name_ascii (f : MetaField) : ∀ c ∈ f.name, c.toNat < 128 ∧ c ≠ nul := by
  have hall : (allFields.all fun f => f.name.all fun c => c.toNat < 128 && c != nul) = true := by
    decide +kernel
  intro c hc
  have hchar := List.all_eq_true.1 (List.all_eq_true.1 hall f (mem_allFields f)) c hc
  simpa using hchar

theorem utf8_name (f : MetaField) : asciiBytes f.name = utf8 f.name :=
  (utf8_ascii fun c hc => (name_ascii f c hc).1).symm

theorem nul_notMem_name (f : MetaField) : nul ∉ f.name := fun h => (name_ascii f nul h).2 rfl

theorem name_injective {f g : MetaField} (h : f.name = g.name) : f = g := by
  have hf := fieldOf_name f
  rw [h, fieldOf_name g] at hf
  exact (Option.some.inj hf).symm

/-- To fit is a property of the entries. -/
theorem fits_of_entries {metadata : Metadata}
    (h : ∀ e ∈ metadata.entries, ∃ f : MetaField, f.name = e.1 ∧ f.type.Fits e.2) :
    Fits metadata := by
  intro f v hget
  obtain ⟨g, hname, hfits⟩ := h _ (Dict.mem_entries.2 hget)
  obtain rfl := name_injective hname
  exact hfits

/-! ## What is read -/

section Read

variable {F : Type} {atof : Bytes → F} {pe : F} {metadata : Metadata} {text : Text} {f : MetaField}
  {v : MetaValue} {pre post : List (Text × MetaValue)}

/-- The metadata that the receiver reads. -/
def readMetadata (atof : Bytes → F) (pe : F) (metadata : Metadata) : MetaData F :=
  (beforeNul (wireEntries metadata)).foldl (setEntry atof) (resetMetaStruct pe)

theorem receiveMetadata_eq (hs : serializeMetadata metadata = .ok text)
    (hlen : (utf8 text).length ≤ maximumHeaderSize - 1) :
    receiveMetadata atof pe (utf8 text) = .ok (readMetadata atof pe metadata) := by
  obtain ⟨htext, hclean⟩ := serializeMetadata_ok hs
  have hpopulate : populateMetaStruct atof pe (cString (utf8 text)) =
      readMetadata atof pe metadata := by
    unfold populateMetaStruct readMetadata
    rw [htext]
    exact tokens_segments hclean _
  unfold receiveMetadata
  rw [if_neg (Nat.not_lt_of_le hlen)]
  dsimp only
  split
  next hnil =>
    rw [hnil] at hpopulate
    rw [← hpopulate]
    unfold populateMetaStruct
    rw [tokens_nil]
    rfl
  next => rw [hpopulate]

theorem keys_wireEntries (metadata : Metadata) :
    (wireEntries metadata).map Prod.fst = metadata.keys.map utf8 := by
  unfold wireEntries Dict.keys
  rw [List.map_map, List.map_map]
  rfl

theorem nodup_wireEntries (metadata : Metadata) : ((wireEntries metadata).map Prod.fst).Nodup := by
  rw [keys_wireEntries]
  exact metadata.nodup.map fun _ _ => utf8_injective

theorem readMetadata_eq (f : MetaField) : readMetadata atof pe metadata f =
    match (beforeNul (wireEntries metadata)).lookup (utf8 f.name) with
    | none => resetMetaStruct pe f
    | some v => if v = [] then resetMetaStruct pe f else f.type.parse atof v := by
  have hnodup := (nodup_wireEntries metadata).sublist (keys_beforeNul _).sublist
  rw [← utf8_name]
  exact foldl_setEntry hnodup f

theorem utf8_mem_map {key : Text} {entries : List (Text × MetaValue)} :
    utf8 key ∈ (entries.map fun e => (utf8 e.1, utf8 e.2.str)).map Prod.fst ↔
      key ∈ entries.map Prod.fst := by
  rw [List.map_map]
  constructor
  · intro h
    obtain ⟨e, he, heq⟩ := List.mem_map.1 h
    exact utf8_injective heq ▸ List.mem_map_of_mem he
  · intro h
    obtain ⟨e, he, rfl⟩ := List.mem_map.1 h
    exact List.mem_map.2 ⟨e, he, rfl⟩

theorem hasNul_iff {entries : List (Text × MetaValue)} :
    (∃ e ∈ entries.map fun e => (utf8 e.1, utf8 e.2.str), 0 ∈ e.1 ∨ 0 ∈ e.2) ↔
      ∃ e ∈ entries, HasNul e := by
  simp only [List.mem_map, exists_exists_and_eq_and, zero_mem_utf8, HasNul]

/-- A field without an entry keeps its default. -/
theorem readMetadata_missing (h : metadata.get? f.name = none) :
    readMetadata atof pe metadata f = resetMetaStruct pe f := by
  have hkey : f.name ∉ metadata.entries.map Prod.fst := by
    intro hmem
    obtain ⟨⟨key, v⟩, he, rfl⟩ := List.mem_map.1 hmem
    exact absurd (h.symm.trans (Dict.mem_entries.1 he)) nofun
  rw [readMetadata_eq, lookup_beforeNul_of_notMem]
  rw [wireEntries, utf8_mem_map]
  exact hkey

theorem notMem_pre (h : metadata.entries = pre ++ (f.name, v) :: post) :
    f.name ∉ pre.map Prod.fst := by
  have hnodup := metadata.nodup
  rw [h, List.map_append, List.nodup_append] at hnodup
  intro hmem
  exact hnodup.2.2 _ hmem _ (List.mem_cons_self) rfl

theorem wireEntries_split (h : metadata.entries = pre ++ (f.name, v) :: post) :
    wireEntries metadata = (pre.map fun e => (utf8 e.1, utf8 e.2.str)) ++
      (utf8 f.name, utf8 v.str) :: post.map fun e => (utf8 e.1, utf8 e.2.str) := by
  unfold wireEntries
  rw [h, List.map_append]
  rfl

/-- An entry after one with a NUL is lost. -/
theorem readMetadata_lost (h : metadata.entries = pre ++ (f.name, v) :: post)
    (hnul : ∃ e ∈ pre, HasNul e) : readMetadata atof pe metadata f = resetMetaStruct pe f := by
  rw [readMetadata_eq, wireEntries_split h, lookup_beforeNul_lost]
  · rw [utf8_mem_map]
    exact notMem_pre h
  · exact hasNul_iff.2 hnul

/-- An entry with no NUL before it is read, up to its own first NUL. -/
theorem readMetadata_read (h : metadata.entries = pre ++ (f.name, v) :: post)
    (hnul : ¬ ∃ e ∈ pre, HasNul e) :
    readMetadata atof pe metadata f = readValue atof v (resetMetaStruct pe f) := by
  rw [readMetadata_eq, wireEntries_split h, lookup_beforeNul_cut]
  · rfl
  · rw [utf8_mem_map]
    exact notMem_pre h
  · rw [zero_mem_utf8]
    exact nul_notMem_name f
  · intro e he
    exact not_or.1 fun hmem => hnul (hasNul_iff.1 ⟨e, he, hmem⟩)

theorem readMetadata_version_nonneg :
    0 ≤ (show Int from readMetadata atof pe metadata .version) := by
  rw [readMetadata_eq]
  cases (beforeNul (wireEntries metadata)).lookup (utf8 MetaField.version.name) with
  | none => exact Int.le_refl 0
  | some value =>
    dsimp only
    split
    · exact Int.le_refl 0
    · exact Int.emod_nonneg _ (by decide)

theorem eq_version_of_uint32 (h : f.type = .uint32) : f = .version := by
  cases f <;> first | rfl | cases h

/-- The entries around the one of a field. -/
theorem entries_split (h : metadata.get? f.name = some v) :
    ∃ pre post, metadata.entries = pre ++ (f.name, v) :: post :=
  List.append_of_mem (Dict.mem_entries.2 h)

theorem get?_of_split {e : Text × MetaValue} (h : metadata.entries = pre ++ e :: post) :
    metadata.get? e.1 = some e.2 := by
  refine Dict.mem_entries.1 ?_
  rw [h]
  exact List.mem_append_right _ List.mem_cons_self

end Read

/-! ## The round trip -/

section RoundTrip

variable {F : Type} {atof : Bytes → F} {pe : F} {metadata : Metadata} {text : Text}

theorem recovered_of_safeOnWire (hfits : Fits metadata) (hsafe : SafeOnWire pe metadata) :
    Recovered pe metadata (readMetadata atof pe metadata) := by
  intro f hf
  cases hget : metadata.get? f.name with
  | none =>
    rw [readMetadata_missing hget]
    exact (expected_none f).symm
  | some v =>
    rw [hget] at hf
    obtain ⟨pre, post, hsplit⟩ := entries_split hget
    by_cases hempty : v.str = []
    · rw [expected_empty hempty]
      by_cases hnul : ∃ e ∈ pre, HasNul e
      · exact readMetadata_lost hsplit hnul
      · rw [readMetadata_read hsplit hnul]
        unfold readValue
        rw [hempty]
        rfl
    · have hfloat : f.type ≠ .float := fun h => hempty (hf h)
      by_cases hnul : ∃ e ∈ pre, HasNul e
      · obtain ⟨e, he, hnul'⟩ := hnul
        rw [readMetadata_lost hsplit ⟨e, he, hnul'⟩]
        obtain ⟨p, q, rfl⟩ := List.append_of_mem he
        have hsplit' : metadata.entries = p ++ e :: (q ++ (f.name, v) :: post) := by
          rw [hsplit, List.append_assoc, List.cons_append]
        have hmem : (f.name, v) ∈ e :: (q ++ (f.name, v) :: post) :=
          List.mem_cons_of_mem _ (List.mem_append_right _ List.mem_cons_self)
        exact (hsafe.nul p e _ hsplit' hnul' _ hmem f rfl hfloat).symm
      · have hv : nul ∉ v.str := by
          intro hmem
          have hdefault := hsafe.nul pre _ post hsplit (Or.inr hmem) _ List.mem_cons_self f rfl hfloat
          exact nul_notMem_of_default (hfits f v hget) hfloat (expected_none f) hdefault hmem
        have hsign : f.type = .uint32 → ∀ i, v = .int i → 0 ≤ i := by
          rintro htype i rfl
          obtain rfl := eq_version_of_uint32 htype
          exact hsafe.version i hget
        have hvalue : cString (utf8 v.str) = utf8 v.str :=
          cString_eq_self fun hmem => hv (zero_mem_utf8.1 hmem)
        have hne : utf8 v.str ≠ [] := fun hnil => hempty (utf8_injective hnil)
        rw [readMetadata_read hsplit hnul]
        unfold readValue
        rw [hvalue]
        dsimp only
        rw [if_neg hne]
        exact parse_expected (hfits f v hget) hempty hfloat hsign _

theorem safeOnWire_of_recovered (hfits : Fits metadata)
    (h : Recovered pe metadata (readMetadata atof pe metadata)) : SafeOnWire pe metadata where
  version i hget := by
    have hversion := h .version nofun
    rw [hget] at hversion
    have hnonneg := @readMetadata_version_nonneg _ atof pe metadata
    rw [hversion] at hnonneg
    exact hnonneg
  nul pre e post hsplit hnul e' he' f hname hfloat := by
    obtain ⟨key, v⟩ := e'
    obtain rfl : f.name = key := hname
    -- it is enough that the field has kept its default
    have hkept (hget : metadata.get? f.name = some v)
        (hread : readMetadata atof pe metadata f = resetMetaStruct pe f) :
        f.type.expected (some v) (resetMetaStruct pe f) = resetMetaStruct pe f := by
      have hrecovered := h f fun hf => absurd hf hfloat
      rw [hget, hread] at hrecovered
      exact hrecovered.symm
    rcases List.mem_cons.1 he' with rfl | hpost
    · have hget := get?_of_split hsplit
      by_cases hpre : ∃ e ∈ pre, HasNul e
      · exact hkept hget (readMetadata_lost hsplit hpre)
      · have hmem : nul ∈ v.str := hnul.resolve_left (nul_notMem_name f)
        have hrecovered := h f fun hf => absurd hf hfloat
        rw [hget, readMetadata_read hsplit hpre] at hrecovered
        exact absurd hrecovered (readValue_ne (hfits f v hget) hfloat (expected_none f) hmem)
    · obtain ⟨p, q, rfl⟩ := List.append_of_mem hpost
      have hsplit' : metadata.entries = (pre ++ e :: p) ++ (f.name, v) :: q := by
        rw [hsplit, List.append_assoc, List.cons_append]
      refine hkept (get?_of_split hsplit') (readMetadata_lost hsplit' ⟨e, ?_, hnul⟩)
      exact List.mem_append_right _ List.mem_cons_self

/-- Metadata that fit the fields make the round trip when nothing of a field is behind a NUL, and a
`version` is not negative. -/
theorem metadata_roundTrip_iff (hs : serializeMetadata metadata = .ok text)
    (hfits : Fits metadata) :
    RoundTrip atof pe metadata (utf8 text) ↔
      ((utf8 text).length ≤ maximumHeaderSize - 1 → SafeOnWire pe metadata) := by
  constructor
  · intro h hlen
    obtain ⟨m, hm, hrecovered⟩ := h.2 hlen
    rw [receiveMetadata_eq hs hlen] at hm
    obtain rfl := Except.ok.inj hm
    exact safeOnWire_of_recovered hfits hrecovered
  · intro h
    refine ⟨fun hlong => if_pos hlong, fun hlen => ?_⟩
    exact ⟨_, receiveMetadata_eq hs hlen, recovered_of_safeOnWire hfits (h hlen)⟩

end RoundTrip

/-- The metadata of a client, without most of its keys. -/
def smallMetadata : Metadata :=
  ⟨[(MetaField.version.name, .int 2), (MetaField.clientId.name, .other ['A', ' ', 'B']),
    (MetaField.runId.name, .other [])], by decide +kernel⟩

theorem metadata_roundTrip_small : RoundTrip (fun _ => (0 : Int)) (-1) smallMetadata
    (utf8 "version=2;client_id=A B;run_id=".toList) := by
  have hversion : smallMetadata.get? MetaField.version.name = some (.int 2) := by decide +kernel
  have hfits : Fits smallMetadata := by
    refine fits_of_entries (List.forall_mem_cons.2 ⟨⟨.version, rfl, ?_⟩, List.forall_mem_cons.2
      ⟨⟨.clientId, rfl, ?_⟩, List.forall_mem_cons.2 ⟨⟨.runId, rfl, ?_⟩, List.forall_mem_nil _⟩⟩⟩)
    · exact Or.inl ⟨2, rfl, by decide, by decide⟩
    · show (utf8 ['A', ' ', 'B']).length ≤ 31
      decide +kernel
    · exact Nat.zero_le _
  refine (metadata_roundTrip_iff (by decide +kernel) hfits).2 fun _ => ?_
  have hnul : ∀ e ∈ smallMetadata.entries, ¬ HasNul e := by
    unfold HasNul
    decide +kernel
  refine ⟨fun i hi => ?_, fun pre e post hsplit he => ?_⟩
  · obtain rfl : 2 = i := MetaValue.int.inj (Option.some.inj (hversion.symm.trans hi))
    decide
  · refine absurd he (hnul e ?_)
    rw [hsplit]
    exact List.mem_append_right _ List.mem_cons_self

/-- The metadata of a client whose identity has a NUL. -/
def nulMetadata : Metadata := ⟨[(MetaField.clientId.name, .other ['A', nul, 'B'])], by decide +kernel⟩

/-- The server sends an identity that the receiver does not recover. -/
theorem metadata_lost_after_nul : ∃ text, serializeMetadata nulMetadata = .ok text ∧
    Fits nulMetadata ∧ ¬ RoundTrip (fun _ => (0 : Int)) (-1) nulMetadata (utf8 text) := by
  have hs : serializeMetadata nulMetadata = .ok "client_id=A\x00B".toList := by decide +kernel
  have hfits : Fits nulMetadata := by
    refine fits_of_entries (List.forall_mem_cons.2 ⟨⟨.clientId, rfl, ?_⟩, List.forall_mem_nil _⟩)
    show (utf8 ['A', nul, 'B']).length ≤ 31
    decide +kernel
  refine ⟨_, hs, hfits, fun h => ?_⟩
  obtain ⟨m, hm, hrecovered⟩ := h.2 (by decide +kernel)
  rw [receiveMetadata_eq hs (by decide +kernel)] at hm
  obtain rfl := Except.ok.inj hm
  have hsafe := safeOnWire_of_recovered hfits hrecovered
  have hdefault : utf8 ['A', nul, 'B'] = [] :=
    hsafe.nul [] _ [] rfl (Or.inr (by decide)) _ List.mem_cons_self .clientId rfl nofun
  exact absurd hdefault (by decide +kernel)

end MultiDAQ.Receiver
