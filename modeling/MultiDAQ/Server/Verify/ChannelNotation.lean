import MultiDAQ.Server.ChannelNotation
import MultiDAQ.Server.HvOverride
import MultiDAQ.Client.Verify.Moves
import MultiDAQ.Server.Verify.FixedBadChannels

/-!
# The parsers of the channels

What the server accepts for a command, the client accepts and brings to the numbers of the HV board:
exactly the channels that were asked for. The acquisition reads the same notation with a parser of
its own. The two agree, except that the acquisition knows "all" only when it is written just so, and
no tuples.
-/

namespace MultiDAQ.Server

open MultiDAQ.Lib
open MultiDAQ.Client (appendNew channelsDefinition hvChannelsDefinition isAll nodup_appendNew)
open MultiDAQ.Client.HV (sortedSet)

/-! ## What is asked for -/

/-- The channels that a user asks for. -/
def ChannelsInput.Requests : ChannelsInput → Int → Prop
  | .text s, ch =>
    if isAll (stripChars pySpace s) then 0 ≤ ch ∧ ch < 7
    else ∃ part ∈ s.splitOn ',', pyInt part = some ch
  | .int channel, ch => ch = channel
  | .list items, ch | .tuple items, ch => .int ch ∈ items
  | .bool _, _ | .other, _ => False

/-- A tuple, or another spelling of "all". -/
def ChannelsInput.Respelled : ChannelsInput → Prop
  | .text s => isAll (stripChars pySpace s) ∧ s ≠ ['a', 'l', 'l']
  | .tuple _ => True
  | _ => False

/-! ## Lists of values -/

theorem mem_fromkeys {values : List Int} {ch : Int} : ch ∈ fromkeys values ↔ ch ∈ values := by
  have hfrom (seen : List Int) : ch ∈ values.foldl appendNew seen ↔ ch ∈ seen ∨ ch ∈ values := by
    induction values generalizing seen with
    | nil => simp
    | cons value values ih =>
      rw [List.foldl_cons, ih, appendNew]
      split <;> grind
  unfold fromkeys
  rw [hfrom, or_iff_right List.not_mem_nil]

theorem nodup_fromkeys (values : List Int) : (fromkeys values).Nodup := by
  have hfrom (seen : List Int) (h : seen.Nodup) : (values.foldl appendNew seen).Nodup := by
    induction values generalizing seen with
    | nil => exact h
    | cons value values ih => exact ih _ (nodup_appendNew h)
  exact hfrom [] List.nodup_nil

/-- All values are channels. -/
def InRange (values : List Int) : Prop := ∀ ch ∈ values, 0 ≤ ch ∧ ch < 7

theorem any_outside_eq_false {values : List Int} :
    (values.any fun value => value < 0 || value ≥ (7 : Nat)) = false ↔ InRange values := by
  simp [InRange, List.any_eq_false]

theorem checkValues_eq_ok {values : List Int} {normal : NormalChannels}
    (h : checkValues values 7 = .ok normal) :
    InRange values ∧ normal = .list (fromkeys values) := by
  unfold checkValues at h
  split at h
  · cases h
  next hrange =>
    cases h
    exact ⟨any_outside_eq_false.1 (Bool.not_eq_true _ ▸ hrange), rfl⟩

theorem mem_of_map_eq {α : Type} {f : α → Option Int} {l : List α} {values : List Int} {ch : Int}
    (h : l.map f = values.map some) : ch ∈ values ↔ ∃ a ∈ l, f a = some ch := by
  rw [← List.mem_map, h, List.mem_map]
  simp

theorem mapM_id_map_some (values : List Int) : (values.map some).mapM id = some values := by
  rw [mapM_eq_some_iff, List.map_id]

/-- A list whose items are all integers. -/
theorem items_eq {items : List ChannelItem} {values : List Int}
    (h : items.map ChannelItem.int? = values.map some) : items = values.map .int := by
  induction items generalizing values with
  | nil => rw [List.map_eq_nil_iff.1 h.symm, List.map_nil]
  | cons item items ih =>
    cases values with
    | nil => cases h
    | cons value values =>
      obtain ⟨hitem, hrest⟩ := List.cons.inj h
      cases item with
      | other asInt => cases hitem
      | int channel =>
        obtain rfl := Option.some.inj hitem
        rw [ih hrest, List.map_cons]

theorem mem_map_int {values : List Int} {ch : Int} :
    ChannelItem.int ch ∈ values.map .int ↔ ch ∈ values :=
  List.mem_map_of_injective fun _ _ => ChannelItem.int.inj

/-- `parse_user_channels` of a list whose items are all channels. -/
theorem checked_of_inRange {values : List Int} (h : InRange values) :
    parseUserChannels (.text (values.map some)) 7 = .ok (sortedSet values) ∧
      parseUserChannels (.list (values.map some)) 7 = .ok (sortedSet values) := by
  unfold parseUserChannels
  simp only [mapM_id_map_some]
  rw [if_neg ((Bool.not_eq_true _).mpr (any_outside_eq_false.2 h))]
  exact ⟨rfl, rfl⟩

/-! ## Spellings of "all" -/

theorem toLower_eq_a {c : Char} (h : c.toLower = 'a') : c = 'a' ∨ c = 'A' := by
  unfold Char.toLower at h
  split at h
  next =>
    refine .inr (Char.ext ?_)
    have hval : c.val + 32 = 97 := congrArg Char.val h
    calc c.val
      _ = c.val + 32 - 32 := (UInt32.add_sub_cancel c.val 32).symm
      _ = 97 - 32 := congrArg (· - 32) hval
  next => exact .inl h

/-- A spelling of "all" begins with an A, and has no comma in it. -/
theorem isAll_cases {s : List Char} (h : isAll s) :
    ',' ∉ s ∧ ∃ c rest, s = c :: rest ∧ (c = 'a' ∨ c = 'A') := by
  have hmap : s.map Char.toLower = ['a', 'l', 'l'] := of_decide_eq_true h
  constructor
  · intro hmem
    have hcomma : ','.toLower ∈ s.map Char.toLower := List.mem_map_of_mem hmem
    rw [hmap] at hcomma
    exact absurd hcomma (by decide)
  · obtain ⟨c, rest, rfl, hc, -⟩ := List.map_eq_cons_iff.1 hmap
    exact ⟨c, rest, rfl, toLower_eq_a hc⟩

theorem pyInt_of_isAll {s : List Char} (h : isAll (stripChars pySpace s)) : pyInt s = none := by
  obtain ⟨-, c, rest, hs, rfl | rfl⟩ := isAll_cases h <;>
  exact pyInt_eq_none hs (by decide) (by decide) (by decide)

theorem userChannels_text {s : List Char} (hne : s ≠ ['a', 'l', 'l']) :
    (ChannelsInput.text s).userChannels =
      .text ((((s.splitOn ',').map (stripChars pySpace)).filter (· ≠ [])).map pyInt) :=
  if_neg hne

/-- The acquisition reads another spelling of "all" as a list of one value, which is no integer. -/
theorem userChannels_of_isAll {s : List Char} (h : isAll (stripChars pySpace s))
    (hne : s ≠ ['a', 'l', 'l']) : (ChannelsInput.text s).userChannels = .text [none] := by
  obtain ⟨hcomma, c, rest, hstrip, -⟩ := isAll_cases h
  obtain ⟨u, v, hs, hu, hv⟩ := exists_stripChars pySpace s
  have hnot : ',' ∉ s := by
    have hblank {w : List Char} (hw : ∀ c ∈ w, pySpace c = true) : ',' ∉ w :=
      fun hmem => absurd (hw ',' hmem) (by decide)
    rw [hs, List.mem_append, List.mem_append]
    rintro (hmem | hmem | hmem)
    · exact hblank hu hmem
    · exact hcomma hmem
    · exact hblank hv hmem
  rw [userChannels_text hne, List.splitOn_eq_singleton hnot]
  simp [hstrip ▸ List.cons_ne_nil c rest, pyInt_of_isAll h]

/-! ## What the server accepts -/

theorem pyInt_nil : pyInt [] = none := rfl

/-- The canonical form, and how the acquisition reads the same argument. -/
theorem normalizeUserChannels_eq_ok {input : ChannelsInput} {normal : NormalChannels}
    (h : input.normalizeUserChannels = .ok normal) :
    (normal = .all ∧ ∃ s, input = .text s ∧ isAll (stripChars pySpace s)) ∨
      ∃ values, normal = .list (fromkeys values) ∧ InRange values ∧
        (∀ ch, ch ∈ values ↔ input.Requests ch) ∧
        (input.userChannels = .other ∧ input.Respelled ∨ ¬input.Respelled ∧
          parseUserChannels input.userChannels 7 = .ok (sortedSet values)) := by
  unfold ChannelsInput.normalizeUserChannels at h
  split at h
  next s =>
    dsimp only at h
    split at h
    next hall =>
      cases h
      exact .inl ⟨rfl, s, rfl, hall⟩
    next hall =>
      split at h
      · cases h
      next values hvalues =>
        obtain ⟨hrange, rfl⟩ := checkValues_eq_ok h
        have hne : s ≠ ['a', 'l', 'l'] := by
          rintro rfl
          exact hall (by decide)
        have hparts : ((s.splitOn ',').map (stripChars pySpace)).map pyInt = values.map some := by
          rw [← map_strip_splitOn rfl, List.map_map]
          exact mapM_eq_some_iff.1 hvalues
        have hitems : (ChannelsInput.text s).userChannels = .text (values.map some) := by
          rw [userChannels_text hne, List.filter_eq_self.2, hparts]
          rintro part hpart
          obtain ⟨value, -, hvalue⟩ := List.mem_map.1 (hparts ▸ List.mem_map_of_mem hpart)
          rw [decide_eq_true_eq]
          rintro rfl
          rw [pyInt_nil] at hvalue
          cases hvalue
        refine .inr ⟨values, rfl, hrange, fun ch => ?_,
          .inr ⟨fun hrespelled => hall hrespelled.1, ?_⟩⟩
        · rw [List.map_map] at hparts
          rw [mem_of_map_eq hparts, ChannelsInput.Requests, if_neg hall]
          simp
        · rw [hitems]
          exact (checked_of_inRange hrange).1
  next channel =>
    obtain ⟨hrange, rfl⟩ := checkValues_eq_ok h
    exact .inr ⟨[channel], rfl, hrange, fun ch => List.mem_singleton, .inr ⟨id,
      (checked_of_inRange hrange).1⟩⟩
  next items =>
    split at h
    · cases h
    · split at h
      · cases h
      next values hvalues =>
        obtain ⟨hrange, rfl⟩ := checkValues_eq_ok h
        obtain rfl := items_eq (mapM_eq_some_iff.1 hvalues)
        refine .inr ⟨values, rfl, hrange, fun ch => mem_map_int.symm, .inr ⟨id, ?_⟩⟩
        show parseUserChannels (.list ((values.map .int).map ChannelItem.asInt)) 7 = _
        rw [List.map_map]
        exact (checked_of_inRange hrange).2
  next items =>
    split at h
    · cases h
    · split at h
      · cases h
      next values hvalues =>
        obtain ⟨hrange, rfl⟩ := checkValues_eq_ok h
        obtain rfl := items_eq (mapM_eq_some_iff.1 hvalues)
        exact .inr ⟨values, rfl, hrange, fun ch => mem_map_int.symm, .inl ⟨rfl, trivial⟩⟩
  · cases h
  · cases h

/-! ## The other parsers -/

/-- The client selects exactly the channels asked for, by the numbers of the HV board, each once. -/
def ClientSelects (input : ChannelsInput) (normal : NormalChannels) : Prop :=
  ∃ selected, channelsDefinition normal.payload 7 true = .ok selected ∧
    hvChannelsDefinition (.list selected) = .ok selected ∧ selected.Nodup ∧
    (∀ hv ∈ selected, 1 ≤ hv ∧ hv ≤ 7) ∧ ∀ ch, ch + 1 ∈ selected ↔ input.Requests ch

/-- The acquisition selects exactly the channels asked for. -/
def AcquisitionSelects (input : ChannelsInput) : Prop :=
  ∃ selected, parseUserChannels input.userChannels 7 = .ok selected ∧
    ∀ ch, ch ∈ selected ↔ input.Requests ch

theorem clientSelects_list {input : ChannelsInput} {values : List Int} (hrange : InRange values)
    (hrequests : ∀ ch, ch ∈ values ↔ input.Requests ch) :
    ClientSelects input (.list (fromkeys values)) := by
  have hrange' : InRange (fromkeys values) := fun ch hch => hrange ch (mem_fromkeys.1 hch)
  have hhv : ∀ hv ∈ (fromkeys values).map (· + 1), 1 ≤ hv ∧ hv ≤ 7 := by
    intro hv hmem
    obtain ⟨ch, hch, rfl⟩ := List.mem_map.1 hmem
    have := hrange' ch hch
    omega
  refine ⟨(fromkeys values).map (· + 1), ?_, ?_, ?_, hhv, fun ch => ?_⟩
  · unfold channelsDefinition
    dsimp only [NormalChannels.payload, Client.PayloadChannels.chList]
    rw [if_neg ((Bool.not_eq_true _).mpr (any_outside_eq_false.2 hrange'))]
    rfl
  · unfold hvChannelsDefinition
    rw [List.find?_eq_none.2]
    · rfl
    · intro hv hmem
      have := hhv hv hmem
      simp
      omega
  · exact (nodup_fromkeys values).map (add_left_injective 1)
  · rw [List.mem_map_of_injective (add_left_injective 1), mem_fromkeys, hrequests]

theorem clientSelects_all {s : List Char} (h : isAll (stripChars pySpace s)) :
    ClientSelects (.text s) .all := by
  refine ⟨[1, 2, 3, 4, 5, 6, 7], by decide, by decide, by decide, by decide, fun ch => ?_⟩
  rw [ChannelsInput.Requests, if_pos h]
  simp
  omega

/-- **Channels.** Whenever the server accepts what a user gives as channels: the client and the HV
board accept the canonical form and select exactly the channels asked for, and the acquisition
selects the same ones, if and only if it is neither a tuple nor another spelling of "all". -/
theorem selections_agree_iff (input : ChannelsInput) (normal : NormalChannels)
    (h : input.normalizeUserChannels = .ok normal) :
    ClientSelects input normal ∧ AcquisitionSelects input ↔ ¬input.Respelled := by
  rcases normalizeUserChannels_eq_ok h with ⟨rfl, s, rfl, hall⟩ | ⟨values, rfl, hrange, hrequests,
    hread⟩
  · rw [and_iff_right (clientSelects_all hall)]
    by_cases hs : s = ['a', 'l', 'l']
    · refine iff_of_true ⟨[0, 1, 2, 3, 4, 5, 6], ?_, fun ch => ?_⟩ fun hrespelled => hrespelled.2 hs
      · rw [hs]
        rfl
      · rw [ChannelsInput.Requests, if_pos hall]
        simp
        omega
    · refine iff_of_false ?_ (not_not_intro ⟨hall, hs⟩)
      rintro ⟨selected, hselected, -⟩
      rw [userChannels_of_isAll hall hs] at hselected
      cases hselected
  · rw [and_iff_right (clientSelects_list hrange hrequests)]
    rcases hread with ⟨hother, hrespelled⟩ | ⟨hrespelled, hparse⟩
    · refine iff_of_false ?_ (not_not_intro hrespelled)
      rintro ⟨selected, hselected, -⟩
      rw [hother] at hselected
      cases hselected
    · exact iff_of_true ⟨_, hparse, fun ch => mem_sortedSet.trans (hrequests ch)⟩ hrespelled

/-- A list with blanks and a channel that is given twice. -/
theorem selections_agree_spaced :
    ClientSelects (.text [' ', '3', ',', ' ', '0', ',', '3']) (.list [3, 0]) ∧
      AcquisitionSelects (.text [' ', '3', ',', ' ', '0', ',', '3']) :=
  (selections_agree_iff _ _ (by decide +kernel)).2 fun h => absurd h.1 (by decide +kernel)

/-- "ALL" is accepted for the HV board, and refused by the acquisition. -/
theorem capital_all_refused :
    ChannelsInput.normalizeUserChannels (.text ['A', 'L', 'L']) = .ok .all ∧
      ClientSelects (.text ['A', 'L', 'L']) .all ∧
      ¬AcquisitionSelects (.text ['A', 'L', 'L']) := by
  have hall : isAll (stripChars pySpace ['A', 'L', 'L']) := by decide
  refine ⟨by decide +kernel, clientSelects_all hall, ?_⟩
  rintro ⟨selected, hselected, -⟩
  rw [userChannels_of_isAll hall (by decide)] at hselected
  cases hselected

end MultiDAQ.Server
