import MultiDAQ.Client.Verify.Moves
import MultiDAQ.Lib.Conversion
import MultiDAQ.Server.FixedBadChannels
import MultiDAQ.Server.Verify.ChannelSelection

/-!
# An update of the channels that are always bad

The update is made in memory before the file is opened, and nothing undoes it. When the write fails,
the parser reports a failure and keeps the new channels all the same, and a file whose text is cut
short is lost. The failure is clean only when the channels were recorded already, and then only when
the text is not cut short.
-/

namespace MultiDAQ.Server

open MultiDAQ.Lib
open MultiDAQ.Client (sortedLT_sorted)
open MultiDAQ.Client.HV (sortedSet)

/-! ## The channels -/

theorem checkFixedBad_eq_some {channel ch : Int} :
    checkFixedBad channel = some ch ↔ channel = ch ∧ 0 ≤ ch ∧ ch < 7 := by
  unfold checkFixedBad
  split
  next h =>
    refine ⟨nofun, ?_⟩
    rintro ⟨rfl, h0, h7⟩
    omega
  next h =>
    rw [Option.some.injEq]
    refine ⟨?_, And.left⟩
    rintro rfl
    omega

/-- The channels are accepted when all are numbers between 0 and 6. -/
theorem mapM_checkFixedBad {channels : List (Option Int)} {accepted : List Int} :
    (channels.mapM fun value => value >>= checkFixedBad) = some accepted ↔
      channels = accepted.map some ∧ ∀ ch ∈ accepted, 0 ≤ ch ∧ ch < 7 := by
  refine mapM_eq_some_iff_of_form fun value ch => ?_
  rw [Option.bind_eq_bind, Option.bind_eq_some_iff]
  constructor
  · rintro ⟨channel, rfl, hch⟩
    obtain ⟨rfl, hrange⟩ := checkFixedBad_eq_some.1 hch
    exact ⟨rfl, hrange⟩
  · rintro ⟨rfl, hrange⟩
    exact ⟨ch, rfl, checkFixedBad_eq_some.2 ⟨rfl, hrange⟩⟩

theorem sortedSet_sortedSet (l : List Int) : sortedSet (sortedSet l) = sortedSet l := by
  have hsorted : (sortedSet l).SortedLT := sortedLT_sorted l.nodup_dedup
  show (sortedSet l).dedup.insertionSort (· ≤ ·) = sortedSet l
  rw [hsorted.nodup.dedup]
  exact hsorted.sortedLE.pairwise.insertionSort_eq

/-- What is recorded is read back. -/
theorem load_withFixedBad (int : Json → Option Int) (config : DetectorConfig) {accepted : List Int}
    (h : ∀ ch ∈ accepted, 0 ≤ ch ∧ ch < 7) :
    loadFixedBadChannels int (some (config.withFixedBad (sortedSet accepted))) =
      some (sortedSet accepted) := by
  have hread : ((sortedSet accepted).map Json.int).mapM (fun value =>
      toInt int value >>= checkFixedBad) = some (sortedSet accepted) := by
    have hmap := mapM_checkFixedBad.2 ⟨rfl, fun ch hch => h ch (mem_sortedSet.1 hch)⟩
    rw [List.mapM_map] at hmap ⊢
    exact hmap
  have hget : (config.withFixedBad (sortedSet accepted)).detectorEntries.get?
      "fixed_bad_channels" = some (.list ((sortedSet accepted).map .int)) := by
    show (config.detectorEntries.set _ _).get? _ = _
    rw [Dict.get?_set, if_pos rfl]
    rfl
  unfold loadFixedBadChannels
  simp only [Option.bind_eq_bind, Option.bind_some, hget, Option.getD_some]
  exact (congrArg (Option.map sortedSet) hread).trans
    (congrArg some (sortedSet_sortedSet accepted))

/-! ## The update -/

/-- The memory and the file hold the new channels, and nothing else has changed. -/
def Updated (int : Json → Option Int) (channels : List (Option Int)) (s s' : ConfigStore) : Prop :=
  ∃ accepted config config', channels = accepted.map some ∧ s.configFile = some config ∧
    s' = ⟨some config', .config config'⟩ ∧
    loadFixedBadChannels int (some config') = some (sortedSet accepted) ∧
    config'.others = config.others ∧
    ∀ key, key ≠ "fixed_bad_channels" →
      config'.detectorEntries.get? key = config.detectorEntries.get? key

/-- The update is made as a whole, or it is reported as failed and nothing has changed. -/
def CleanUpdate (int : Json → Option Int) (channels : List (Option Int)) (s : ConfigStore)
    (result : Bool × ConfigStore) : Prop :=
  result.1 = true ∧ Updated int channels s result.2 ∨ result.1 = false ∧ result.2 = s

/-- Some channel is not a number between 0 and 6. -/
def Refused (channels : List (Option Int)) : Prop :=
  ∃ value ∈ channels, ∀ ch, value = some ch → ch < 0 ∨ 7 ≤ ch

/-- The configuration has exactly these channels already, sorted and each once. -/
def Recorded (s : ConfigStore) (channels : List (Option Int)) : Prop :=
  ∃ config accepted, s.configFile = some config ∧ channels = accepted.map some ∧
    config.detectorEntries.get? "fixed_bad_channels" =
      some (DetectorConfig.channelsJson (sortedSet accepted))

theorem refused_iff {channels : List (Option Int)} :
    Refused channels ↔ (channels.mapM fun value => value >>= checkFixedBad) = none := by
  constructor
  · rintro ⟨value, hvalue, hout⟩
    rw [Option.eq_none_iff_forall_ne_some]
    intro accepted h
    obtain ⟨rfl, hall⟩ := mapM_checkFixedBad.1 h
    obtain ⟨ch, hch, rfl⟩ := List.mem_map.1 hvalue
    have hin := hall ch hch
    have hout := hout ch rfl
    omega
  · contrapose
    intro hall
    have hin : ∀ value ∈ channels, ∃ ch, value = some ch ∧ 0 ≤ ch ∧ ch < 7 := by
      intro value hvalue
      by_contra hnone
      refine hall ⟨value, hvalue, fun ch hch => ?_⟩
      by_contra hch'
      exact hnone ⟨ch, hch, by omega⟩
    have hmap : channels = (channels.map (·.getD 0)).map some := by
      rw [List.map_map]
      conv_lhs => rw [← List.map_id channels]
      refine List.map_congr_left fun value hvalue => ?_
      obtain ⟨ch, rfl, -⟩ := hin value hvalue
      rfl
    rw [mapM_checkFixedBad.2 ⟨hmap, fun ch hch => ?_⟩]
    · exact Option.some_ne_none _
    · obtain ⟨value, hvalue, rfl⟩ := List.mem_map.1 hch
      obtain ⟨ch, rfl, hrange⟩ := hin value hvalue
      exact hrange

theorem withFixedBad_eq_self_iff {config : DetectorConfig} {channels : List Int} :
    config.withFixedBad channels = config ↔ config.detectorEntries.get? "fixed_bad_channels" =
      some (DetectorConfig.channelsJson channels) := by
  constructor
  · intro h
    have hget : (config.withFixedBad channels).detectorEntries.get? "fixed_bad_channels" =
        some (DetectorConfig.channelsJson channels) :=
      (Dict.get?_set _ _ _ _).trans (if_pos rfl)
    rwa [h] at hget
  · intro h
    obtain ⟨detector, others, hothers⟩ := config
    cases detector with
    | none => cases h
    | some detector =>
      exact congrArg (⟨some ·, others, hothers⟩ : _ → DetectorConfig) (Dict.set_eq_self h)

/-- **Updates of the fixed bad channels.** After the file is loaded, whatever it holds, whatever the
channels and however the write ends: the update is made as a whole, in memory and in the file, and
is read back, or it fails and leaves both as they were, exactly when the channels are refused, when
no file was loaded, when the write succeeds, or when the channels were recorded before and the text
is not cut short. -/
theorem update_clean_iff (int : Json → Option Int) (s : ConfigStore)
    (hloaded : ∀ config, s.configFile = some config → s.file = .config config)
    (channels : List (Option Int)) (outcome : RewriteOutcome) :
    CleanUpdate int channels s (setFixedBadChannels s channels outcome) ↔
      Refused channels ∨ s.configFile = none ∨ outcome = .written ∨
        Recorded s channels ∧ outcome ≠ .notWritten := by
  unfold setFixedBadChannels
  cases hchannels : channels.mapM fun value => value >>= checkFixedBad with
  | none =>
    exact iff_of_true (.inr ⟨rfl, rfl⟩) (.inl (refused_iff.2 hchannels))
  | some accepted =>
    obtain ⟨hnumbers, hrange⟩ := mapM_checkFixedBad.1 hchannels
    have haccepted : ¬Refused channels := fun h => by
      rw [refused_iff.1 h] at hchannels
      cases hchannels
    obtain ⟨configFile, file⟩ := s
    cases configFile with
    | none => exact iff_of_true (.inr ⟨rfl, rfl⟩) (.inr (.inl rfl))
    | some config =>
      obtain rfl : file = .config config := hloaded config rfl
      have hrecorded : Recorded ⟨some config, .config config⟩ channels ↔
          config.withFixedBad (sortedSet accepted) = config := by
        rw [withFixedBad_eq_self_iff]
        constructor
        · rintro ⟨config', accepted', ⟨⟩, hnumbers', hget⟩
          obtain rfl := List.map_injective_iff.2 (Option.some_injective _)
            (hnumbers.symm.trans hnumbers')
          exact hget
        · exact fun hget => ⟨config, accepted, rfl, hnumbers, hget⟩
      rw [hrecorded]
      have hfails (file' : ConfigText) :
          CleanUpdate int channels ⟨some config, .config config⟩
              (false, ⟨some (config.withFixedBad (sortedSet accepted)), file'⟩) ↔
            config.withFixedBad (sortedSet accepted) = config ∧ file' = .config config := by
        simp [CleanUpdate]
      cases outcome with
      | written =>
        refine iff_of_true (.inl ⟨rfl, accepted, config, _, hnumbers, rfl, rfl,
          load_withFixedBad int config hrange, rfl, fun key hkey => ?_⟩) (.inr (.inr (.inl rfl)))
        exact (Dict.get?_set _ _ _ _).trans (if_neg hkey)
      | notOpened =>
        refine (hfails (.config config)).trans ?_
        simp [haccepted]
      | notWritten =>
        refine (hfails .cutShort).trans ?_
        simp [haccepted]
      | notClosed =>
        refine (hfails (.config (config.withFixedBad (sortedSet accepted)))).trans ?_
        simp +contextual [haccepted]

/-- A configuration of the detector with no channel recorded as bad. -/
def cleanDetector : DetectorConfig where
  detector := some .empty
  others := .empty
  others_ne := rfl

/-- Two channels are recorded. -/
theorem update_clean_written :
    let s : ConfigStore := ⟨some cleanDetector, .config cleanDetector⟩
    CleanUpdate (fun _ => none) [some 3, some 1] s
      (setFixedBadChannels s [some 3, some 1] .written) :=
  (update_clean_iff (fun _ => none) ⟨some cleanDetector, .config cleanDetector⟩
    (by rintro config ⟨⟩; rfl) [some 3, some 1] .written).2 (.inr (.inr (.inl rfl)))

/-- The file cannot be opened: the failure is reported, and the memory has the new channel. -/
theorem update_kept_after_failure :
    let s : ConfigStore := ⟨some cleanDetector, .config cleanDetector⟩
    let result := setFixedBadChannels s [some 3] .notOpened
    result.1 = false ∧ loadFixedBadChannels (fun _ => none) s.configFile = some [] ∧
      loadFixedBadChannels (fun _ => none) result.2.configFile = some [3] ∧
      ¬CleanUpdate (fun _ => none) [some 3] s result := by
  intro s result
  have hbefore : loadFixedBadChannels (fun _ => none) s.configFile = some [] := by rfl
  have hafter : loadFixedBadChannels (fun _ => none) result.2.configFile = some [3] := by rfl
  refine ⟨rfl, hbefore, hafter, ?_⟩
  rintro (⟨h, -⟩ | ⟨-, h⟩)
  · cases h
  · rw [h, hbefore] at hafter
    cases hafter

end MultiDAQ.Server
