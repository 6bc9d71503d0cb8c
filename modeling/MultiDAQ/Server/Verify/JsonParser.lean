import MultiDAQ.Server.JsonParser

/-!
# Which configuration file is selected

The search goes through the files whose names match, in the order of their paths, and ends at the
first whose metadata pass the check. The check accepts the detector itself and, as a legacy match,
any detector whose name starts with that of the detector. So the file of the detector is selected
exactly when it comes before all files that mislead the search (`findConfigFilePath_exact_iff`).
-/

namespace MultiDAQ.Server

namespace JsonParser

variable {lower : Text → Text} {p : JsonParser} {file : ConfigFile} {files folder : List ConfigFile}

/-- The metadata of the file pass the check. -/
def Accepts (lower : Text → Text) (p : JsonParser) (file : ConfigFile) : Prop :=
  ∃ multipmtId batchId, file.content = .detector multipmtId batchId ∧
    p.validateDetectorMetadata lower multipmtId batchId = true

/-- The metadata of the file are those of the detector. -/
def Exact (lower : Text → Text) (p : JsonParser) (file : ConfigFile) : Prop :=
  ∃ multipmtId batchId, file.content = .detector multipmtId batchId ∧
    normalizeBatchId lower batchId = p.batchId ∧ lower multipmtId = p.multipmtId

/-- The name of the file matches the pattern. -/
def IsCandidate (p : JsonParser) (file : ConfigFile) : Prop :=
  ∃ parts, globParts p.expectedFilename = some parts ∧ rglobMatches parts file.path = true

/-- A file that ends the search, and is not that of the detector. -/
def Misleads (lower : Text → Text) (p : JsonParser) (file : ConfigFile) : Prop :=
  file.content = .malformed ∨ Accepts lower p file ∧ ¬Exact lower p file

theorem validateDetectorMetadata_iff {multipmtId batchId : Text} :
    p.validateDetectorMetadata lower multipmtId batchId = true ↔
      normalizeBatchId lower batchId = p.batchId ∧
        (p.multipmtId = generic ∨ p.multipmtId <+: lower multipmtId) := by
  unfold validateDetectorMetadata
  split
  · next h => exact ⟨nofun, fun hc => absurd hc.1 h⟩
  · next h =>
    rw [not_not] at h
    split
    · next hgeneric =>
      dsimp only
      rw [Bool.or_eq_true, decide_eq_true_iff, List.isPrefixOf_iff_prefix]
      constructor
      · rintro (hexact | hlegacy)
        · exact ⟨h, .inr (hexact ▸ List.prefix_rfl)⟩
        · exact ⟨h, .inr hlegacy⟩
      · exact fun hc => .inr (hc.2.resolve_left hgeneric)
    · next hgeneric =>
      rw [not_not] at hgeneric
      exact ⟨fun _ => ⟨h, .inl hgeneric⟩, fun _ => rfl⟩

theorem Exact.accepts (h : Exact lower p file) : Accepts lower p file := by
  obtain ⟨multipmtId, batchId, hcontent, hbatch, hid⟩ := h
  exact ⟨multipmtId, batchId, hcontent,
    validateDetectorMetadata_iff.2 ⟨hbatch, .inr (hid ▸ List.prefix_rfl)⟩⟩

theorem Accepts.not_malformed (h : Accepts lower p file) : file.content ≠ .malformed := by
  obtain ⟨m, b, hcontent, -⟩ := h
  rw [hcontent]
  exact nofun

/-! ## The search -/

/-- The file ends the search. -/
def Stops (lower : Text → Text) (p : JsonParser) (file : ConfigFile) : Prop :=
  file.content = .malformed ∨ Accepts lower p file

theorem Misleads.stops (h : Misleads lower p file) : Stops lower p file := h.imp_right And.left

theorem Exact.not_misleads (h : Exact lower p file) : ¬Misleads lower p file := by
  rintro (hmalformed | ⟨-, hnot⟩)
  · exact h.accepts.not_malformed hmalformed
  · exact hnot h

theorem selectCandidate_of_malformed (h : file.content = .malformed) :
    p.selectCandidate lower (file :: files) = .error () := by
  rw [selectCandidate, h]

theorem selectCandidate_of_accepts (h : Accepts lower p file) :
    p.selectCandidate lower (file :: files) = .ok (some file) := by
  obtain ⟨m, b, hcontent, hvalid⟩ := h
  rw [selectCandidate, hcontent]
  exact if_pos hvalid

theorem selectCandidate_of_not_stops (h : ¬Stops lower p file) :
    p.selectCandidate lower (file :: files) = p.selectCandidate lower files := by
  rw [selectCandidate]
  split
  · rfl
  · next hcontent => exact absurd (.inl hcontent) h
  · next m b hcontent => exact if_neg fun hvalid => h (.inr ⟨m, b, hcontent, hvalid⟩)

theorem of_selectCandidate (h : p.selectCandidate lower files = .ok (some file)) :
    file ∈ files ∧ Accepts lower p file := by
  induction files with
  | nil => cases h
  | cons g files ih =>
    by_cases hg : Stops lower p g
    · rcases hg with hmalformed | haccepts
      · rw [selectCandidate_of_malformed hmalformed] at h
        cases h
      · rw [selectCandidate_of_accepts haccepts] at h
        cases h
        exact ⟨List.mem_cons_self, haccepts⟩
    · rw [selectCandidate_of_not_stops hg] at h
      exact (ih h).imp_left (List.mem_cons_of_mem g)

theorem le_iff {a b : ConfigFile} : a.le b = true ↔ a.path ≤ b.path := by
  rw [ConfigFile.le, decide_eq_true_iff, not_lt]

/-- What is selected comes before everything else that would end the search. -/
theorem selectCandidate_first (hsorted : files.Pairwise fun a b => a.le b = true)
    (h : p.selectCandidate lower files = .ok (some file)) {f : ConfigFile} (hmem : f ∈ files)
    (hstops : Stops lower p f) : file.le f = true := by
  induction files with
  | nil => cases hmem
  | cons g files ih =>
    obtain ⟨hfirst, hrest⟩ := List.pairwise_cons.1 hsorted
    by_cases hg : Stops lower p g
    · rcases hg with hmalformed | haccepts
      · rw [selectCandidate_of_malformed hmalformed] at h
        cases h
      · rw [selectCandidate_of_accepts haccepts] at h
        cases h
        rcases List.mem_cons.1 hmem with rfl | hmem
        · exact le_iff.2 le_rfl
        · exact hfirst f hmem
    · rw [selectCandidate_of_not_stops hg] at h
      refine ih hrest h ((List.mem_cons.1 hmem).resolve_left ?_)
      rintro rfl
      exact hg hstops

/-- A file that the check accepts is left alone only if the search fails before it. -/
theorem selectCandidate_blocked (hsorted : files.Pairwise fun a b => a.le b = true)
    (h : ∀ f, p.selectCandidate lower files ≠ .ok (some f)) (hmem : file ∈ files)
    (haccepts : Accepts lower p file) :
    ∃ f ∈ files, f.content = .malformed ∧ f.le file = true := by
  induction files with
  | nil => cases hmem
  | cons g files ih =>
    obtain ⟨hfirst, hrest⟩ := List.pairwise_cons.1 hsorted
    by_cases hg : Stops lower p g
    · rcases hg with hmalformed | hselected
      · refine ⟨g, List.mem_cons_self, hmalformed,
          hfirst file ((List.mem_cons.1 hmem).resolve_left ?_)⟩
        rintro rfl
        exact haccepts.not_malformed hmalformed
      · exact absurd (selectCandidate_of_accepts hselected) (h g)
    · have hlater : file ∈ files := by
        refine (List.mem_cons.1 hmem).resolve_left ?_
        rintro rfl
        exact hg (.inr haccepts)
      rw [selectCandidate_of_not_stops hg] at h
      obtain ⟨f, hf, hblocks⟩ := ih hrest h hlater
      exact ⟨f, List.mem_cons_of_mem g hf, hblocks⟩

/-- The search ends at a file of the detector unless one that misleads it comes first. -/
theorem selectCandidate_exact (hsorted : files.Pairwise fun a b => a.le b = true)
    (hmem : file ∈ files) (hexact : Exact lower p file)
    (hmisleads : ∀ f ∈ files, Misleads lower p f → f.le file = false) :
    ∃ f, p.selectCandidate lower files = .ok (some f) ∧ Exact lower p f := by
  induction files with
  | nil => cases hmem
  | cons g files ih =>
    obtain ⟨hfirst, hrest⟩ := List.pairwise_cons.1 hsorted
    by_cases hg : Stops lower p g
    · have hclear : ¬Misleads lower p g := by
        intro hg
        rcases List.mem_cons.1 hmem with rfl | hlater
        · exact hexact.not_misleads hg
        · exact nomatch (hfirst file hlater).symm.trans (hmisleads g List.mem_cons_self hg)
      have haccepts := hg.resolve_left fun hmalformed => hclear (.inl hmalformed)
      refine ⟨g, selectCandidate_of_accepts haccepts, ?_⟩
      by_contra hnot
      exact hclear (.inr ⟨haccepts, hnot⟩)
    · have hlater : file ∈ files := by
        refine (List.mem_cons.1 hmem).resolve_left ?_
        rintro rfl
        exact hg (.inr hexact.accepts)
      rw [selectCandidate_of_not_stops hg]
      exact ih hrest hlater fun f hf => hmisleads f (List.mem_cons_of_mem g hf)

instance : Std.Total fun a b : ConfigFile => a.le b = true where
  total a b := by
    rw [le_iff, le_iff]
    exact le_total a.path b.path

instance : IsTrans ConfigFile fun a b => a.le b = true where
  trans _ _ _ hab hbc := le_iff.2 ((le_iff.1 hab).trans (le_iff.1 hbc))

theorem pairwise_candidates (files : List ConfigFile) :
    (files.insertionSort fun a b => a.le b).Pairwise fun a b => a.le b = true :=
  List.pairwise_insertionSort (fun a b : ConfigFile => a.le b = true) files

theorem findConfigFilePath_eq {parts : List Text}
    (h : globParts p.expectedFilename = some parts) :
    p.findConfigFilePath lower folder = p.selectCandidate lower
      ((folder.filter fun file => rglobMatches parts file.path).insertionSort
        fun a b => a.le b) := by
  unfold findConfigFilePath
  rw [h]

theorem of_findConfigFilePath (h : p.findConfigFilePath lower folder = .ok (some file)) :
    file ∈ folder ∧ IsCandidate p file ∧ Accepts lower p file := by
  cases hparts : globParts p.expectedFilename with
  | none => simp [findConfigFilePath, hparts] at h
  | some parts =>
    rw [findConfigFilePath_eq hparts] at h
    obtain ⟨hmem, haccepts⟩ := of_selectCandidate h
    obtain ⟨hmem, hmatches⟩ := List.mem_filter.1 ((List.mem_insertionSort _).1 hmem)
    exact ⟨hmem, ⟨parts, hparts, hmatches⟩, haccepts⟩

/-- The file of the detector is selected if there is one, and no file of another detector is. -/
def SelectsExact (lower : Text → Text) (p : JsonParser) (folder : List ConfigFile) : Prop :=
  ((∃ file ∈ folder, Exact lower p file) →
    ∃ file, p.findConfigFilePath lower folder = .ok (some file) ∧ Exact lower p file) ∧
  ∀ file, p.findConfigFilePath lower folder = .ok (some file) → Exact lower p file

/-- A file of the detector comes before all that would mislead the search; without such a file, the
search fails before each file that the check accepts. -/
def Unmisled (lower : Text → Text) (p : JsonParser) (folder : List ConfigFile) : Prop :=
  ((∃ file ∈ folder, Exact lower p file) →
    ∃ file ∈ folder, IsCandidate p file ∧ Exact lower p file ∧
      ∀ f ∈ folder, IsCandidate p f → Misleads lower p f → file.path < f.path) ∧
  ((¬∃ file ∈ folder, Exact lower p file) →
    ∀ file ∈ folder, IsCandidate p file → Accepts lower p file →
      ∃ f ∈ folder, IsCandidate p f ∧ f.content = .malformed ∧ f.path < file.path)

section Candidates

variable {parts : List Text}

theorem mem_candidates :
    file ∈ (folder.filter fun file => rglobMatches parts file.path).insertionSort
      (fun a b => a.le b) ↔ file ∈ folder ∧ rglobMatches parts file.path = true := by
  rw [List.mem_insertionSort, List.mem_filter]

/-- Two files of a folder have different paths. -/
theorem path_lt (hpaths : (folder.map (·.path)).Nodup) {a b : ConfigFile} (ha : a ∈ folder)
    (hb : b ∈ folder) (hle : a.le b = true) (hne : a ≠ b) : a.path < b.path := by
  refine lt_of_le_of_ne (le_iff.1 hle) fun heq => hne ?_
  exact List.inj_on_of_nodup_map hpaths ha hb heq

theorem findConfigFilePath_first (hparts : globParts p.expectedFilename = some parts)
    (h : p.findConfigFilePath lower folder = .ok (some file)) {f : ConfigFile} (hf : f ∈ folder)
    (hmatches : rglobMatches parts f.path = true) (hstops : Stops lower p f) :
    file.le f = true := by
  rw [findConfigFilePath_eq hparts] at h
  exact selectCandidate_first (pairwise_candidates _) h (mem_candidates.2 ⟨hf, hmatches⟩) hstops

end Candidates

theorem unmisled_of_selectsExact (hpaths : (folder.map (·.path)).Nodup)
    (h : SelectsExact lower p folder) : Unmisled lower p folder := by
  obtain ⟨hexists, honly⟩ := h
  refine ⟨fun hfile => ?_, fun hnone file hmem ⟨parts, hparts, hmatches⟩ haccepts => ?_⟩
  · obtain ⟨file, hfind, hexact⟩ := hexists hfile
    obtain ⟨hmem, ⟨parts, hparts, hmatches⟩, -⟩ := of_findConfigFilePath hfind
    refine ⟨file, hmem, ⟨parts, hparts, hmatches⟩, hexact, ?_⟩
    rintro f hf ⟨parts', hparts', hmatches'⟩ hmisleads
    obtain rfl := Option.some.inj (hparts.symm.trans hparts')
    refine path_lt hpaths hmem hf
      (findConfigFilePath_first hparts hfind hf hmatches' hmisleads.stops) ?_
    rintro rfl
    exact hexact.not_misleads hmisleads
  · have hsearch : ∀ f, p.selectCandidate lower ((folder.filter fun file =>
        rglobMatches parts file.path).insertionSort fun a b => a.le b) ≠ .ok (some f) := by
      intro f hf
      rw [← findConfigFilePath_eq hparts] at hf
      exact hnone ⟨f, (of_findConfigFilePath hf).1, honly f hf⟩
    obtain ⟨f, hf, hmalformed, hle⟩ := selectCandidate_blocked (pairwise_candidates _) hsearch
      (mem_candidates.2 ⟨hmem, hmatches⟩) haccepts
    obtain ⟨hf, hfmatches⟩ := mem_candidates.1 hf
    refine ⟨f, hf, ⟨parts, hparts, hfmatches⟩, hmalformed, path_lt hpaths hf hmem hle ?_⟩
    rintro rfl
    exact haccepts.not_malformed hmalformed

theorem selectsExact_of_unmisled (h : Unmisled lower p folder) : SelectsExact lower p folder := by
  by_cases hfile : ∃ file ∈ folder, Exact lower p file
  · obtain ⟨file, hmem, ⟨parts, hparts, hmatches⟩, hexact, hbefore⟩ := h.1 hfile
    have hfind : ∃ f, p.findConfigFilePath lower folder = .ok (some f) ∧ Exact lower p f := by
      rw [findConfigFilePath_eq hparts]
      refine selectCandidate_exact (pairwise_candidates _) (mem_candidates.2 ⟨hmem, hmatches⟩)
        hexact fun f hf hmisleads => ?_
      obtain ⟨hf, hfmatches⟩ := mem_candidates.1 hf
      have hlt := hbefore f hf ⟨parts, hparts, hfmatches⟩ hmisleads
      exact Bool.eq_false_iff.2 fun hle => absurd (le_iff.1 hle) (not_le.2 hlt)
    refine ⟨fun _ => hfind, fun f hf => ?_⟩
    obtain ⟨g, hg, hexact⟩ := hfind
    cases hf.symm.trans hg
    exact hexact
  · refine ⟨fun hfile' => absurd hfile' hfile, fun f hf => ?_⟩
    obtain ⟨hmem, ⟨parts, hparts, hmatches⟩, haccepts⟩ := of_findConfigFilePath hf
    obtain ⟨g, hg, ⟨parts', hparts', hgmatches⟩, hmalformed, hlt⟩ :=
      h.2 hfile f hmem ⟨parts, hparts, hmatches⟩ haccepts
    obtain rfl := Option.some.inj (hparts.symm.trans hparts')
    have hle := findConfigFilePath_first hparts hf hg hgmatches (.inl hmalformed)
    exact absurd (le_iff.1 hle) (not_le.2 hlt)

/-- The selection is exact exactly when the files that would mislead the search come too late. -/
theorem findConfigFilePath_exact_iff (lower : Text → Text) (multipmtId batchId : Text)
    (folder : List ConfigFile) (hpaths : (folder.map (·.path)).Nodup) :
    SelectsExact lower (init lower multipmtId batchId) folder ↔
      Unmisled lower (init lower multipmtId batchId) folder :=
  ⟨unmisled_of_selectsExact hpaths, selectsExact_of_unmisled⟩

/-- The files of two detectors, the name of one of which starts with that of the other. -/
def twoDetectors : List ConfigFile :=
  [⟨["config_mpmt1_batch_1.json".toList], .detector "mpmt1".toList "batch_1".toList⟩,
    ⟨["config_mpmt10_batch_1.json".toList], .detector "mpmt10".toList "batch_1".toList⟩]

def mpmt10 : JsonParser := init (List.map Char.toLower) "mpmt10".toList "1".toList

theorem not_isCandidate_mpmt10 : ¬IsCandidate mpmt10
    ⟨["config_mpmt1_batch_1.json".toList], .detector "mpmt1".toList "batch_1".toList⟩ := by
  rintro ⟨parts, hparts, hmatches⟩
  have hpattern : globParts mpmt10.expectedFilename = some ["*mpmt10*batch_1*.json".toList] := by
    decide +kernel
  obtain rfl := Option.some.inj (hpattern.symm.trans hparts)
  exact absurd hmatches (by decide +kernel)

theorem findConfigFilePath_exact_mpmt10 :
    SelectsExact (List.map Char.toLower) mpmt10 twoDetectors := by
  have hexact : Exact (List.map Char.toLower) mpmt10
      ⟨["config_mpmt10_batch_1.json".toList], .detector "mpmt10".toList "batch_1".toList⟩ :=
    ⟨_, _, rfl, by decide +kernel, by decide +kernel⟩
  have hmem : ⟨["config_mpmt10_batch_1.json".toList],
      .detector "mpmt10".toList "batch_1".toList⟩ ∈ twoDetectors :=
    List.mem_cons_of_mem _ List.mem_cons_self
  refine (findConfigFilePath_exact_iff (List.map Char.toLower) "mpmt10".toList "1".toList
    twoDetectors (by decide +kernel)).2 ⟨fun _ => ⟨_, hmem,
      ⟨["*mpmt10*batch_1*.json".toList], by decide +kernel, by decide +kernel⟩, hexact, ?_⟩,
        fun hnone => absurd ⟨_, hmem, hexact⟩ hnone⟩
  intro f hf hcandidate hmisleads
  simp only [twoDetectors, List.mem_cons, List.not_mem_nil, or_false] at hf
  rcases hf with rfl | rfl
  · exact absurd hcandidate not_isCandidate_mpmt10
  · rcases hmisleads with hcontent | ⟨-, hnot⟩
    · cases hcontent
    · exact absurd hexact hnot

/-- The file of the other detector is selected, though the folder has one of the detector. -/
theorem other_detector_selected :
    ¬∀ (multipmtId batchId : Text) (folder : List ConfigFile),
      let p := init (List.map Char.toLower) multipmtId batchId
      ((∃ file ∈ folder, Exact (List.map Char.toLower) p file) →
        ∃ file, p.findConfigFilePath (List.map Char.toLower) folder = .ok (some file) ∧
          Exact (List.map Char.toLower) p file) ∧
      ∀ file, p.findConfigFilePath (List.map Char.toLower) folder = .ok (some file) →
        Exact (List.map Char.toLower) p file := by
  intro h
  obtain ⟨-, honly⟩ := h "mpmt1".toList "1".toList twoDetectors
  obtain ⟨m, b, hcontent, -, hid⟩ := honly
    ⟨["config_mpmt10_batch_1.json".toList], .detector "mpmt10".toList "batch_1".toList⟩
    (by decide +kernel)
  obtain ⟨rfl, rfl⟩ := ConfigContent.detector.inj hcontent
  exact absurd hid (by decide)

end JsonParser

end MultiDAQ.Server
