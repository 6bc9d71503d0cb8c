import MultiDAQ.Client.Verify.Lists
import MultiDAQ.Server.ChannelSelection

/-!
# Which channels are selected

In test mode the channels are those that were asked for and that the client reports as OK and not as
fixed bad; whether they are powered does not matter there. Otherwise they are the channels that the
client reports as OK and ON, with those that its reply to the power-on reports as up
(`mem_getTestRcChannels`, `mem_prepareClient`). Of the lists of bad channels the first path subtracts
one and the second none, so a selection is sound exactly when the replies exclude no channel that they
also report as usable (`selections_sound_iff`).
-/

namespace MultiDAQ.Server

open MultiDAQ.Lib
open MultiDAQ.Lib.Dict (bind_eq_ok)
open MultiDAQ.Client.HV (sortedSet)

/-! ## Lists -/

/-- The channels that a reply lists under a key. -/
def ChannelField.listed : ChannelField → List Int
  | .channels l => l
  | .missing | .other _ => []

theorem ChannelField.listed_of_toSet {field : ChannelField} {l : List Int}
    (h : field.toSet = .ok l) : l = field.listed := by
  cases field with
  | other truthy => cases h
  | missing =>
    cases h
    rfl
  | channels l' =>
    cases h
    rfl

section Lists

variable {l : List Int} {ch : Int}

@[simp] theorem mem_sortedSet : ch ∈ sortedSet l ↔ ch ∈ l := by
  simp [sortedSet]

@[simp] theorem mem_hvToUserChannels : ch ∈ hvToUserChannels l ↔ ch + 1 ∈ l := by
  unfold hvToUserChannels
  rw [List.mem_map]
  constructor
  · rintro ⟨hv, hmem, rfl⟩
    rw [Int.sub_add_cancel]
    exact hmem
  · exact fun hmem => ⟨ch + 1, hmem, Int.add_sub_cancel ch 1⟩

end Lists

theorem HvReply.fields_eq_ok {reply : HvReply} {result : ReplyResult} :
    reply.fields = .ok result ↔ reply.result = some result := by
  unfold HvReply.fields
  cases reply.result with
  | none => exact ⟨nofun, nofun⟩
  | some result' => simp

/-! ## What a selection is made from -/

/-- The channels that a result reports as bad, fixed bad, without a serial or failed. -/
def ReplyResult.excluded (result : ReplyResult) : List Int :=
  result.badChannels.listed ++ result.fixedBadChannels.listed ++
    result.missingSerialChannels.listed ++ result.failedChannels.listed

/-- The list of the power-on reply that says which channels are up. -/
def ReplyResult.upListed (result : ReplyResult) : List Int :=
  (result.successfulChannels.orElse (result.onChannels.orElse result.upChannels)).listed

/-- The channels that are to be powered on. -/
def ReplyResult.okOff (result : ReplyResult) : List Int :=
  sortedSet (result.okChannels.listed.filter (· ∈ result.offChannels.listed))

/-- What the client says of its channels, unless it reports an error. -/
def syncResult (sync : HvAnswer) : Option ReplyResult :=
  match sync with
  | .error _ => none
  | .ok reply => if reply.error.isSome then none else reply.result

theorem syncResult_of_error {reply : HvReply} (herror : reply.error.isSome) :
    syncResult (.ok reply) = none :=
  if_pos herror

theorem syncResult_of_fields {reply : HvReply} {result : ReplyResult}
    (herror : reply.error.isSome = false) (hfields : reply.fields = .ok result) :
    syncResult (.ok reply) = some result := by
  unfold syncResult
  dsimp only
  rw [herror]
  exact HvReply.fields_eq_ok.1 hfields

/-- What the client says of the power-on, if there are channels to be powered on. -/
def onResult (sync : HvAnswer) (onAndWait : List Int → HvAnswer) : Option ReplyResult :=
  match syncResult sync with
  | none => none
  | some result =>
    if result.okOff = [] then none
    else match onAndWait (hvToUserChannels result.okOff) with
      | .error _ => none
      | .ok reply => reply.result

/-- There is nothing to be powered on, or the power-on is answered. -/
def Answered (result : ReplyResult) (onAndWait : List Int → HvAnswer) : Prop :=
  result.okOff = [] ∨ ∃ reply, onAndWait (hvToUserChannels result.okOff) = .ok reply

/-- The user asks for the channel. -/
def Requested (requested : UserChannels) (ch : Int) : Prop :=
  ∃ l, parseUserChannels requested 7 = .ok l ∧ ch ∈ l

theorem requested_iff {requested : UserChannels} {l : List Int}
    (hparse : parseUserChannels requested 7 = .ok l) {ch : Int} :
    Requested requested ch ↔ ch ∈ l := by
  constructor
  · rintro ⟨l', hl', hmem⟩
    rw [hparse] at hl'
    cases hl'
    exact hmem
  · exact fun hmem => ⟨l, hparse, hmem⟩

theorem requested_all {ch : Int} : Requested .all ch ↔ 0 ≤ ch ∧ ch < 7 := by
  rw [requested_iff (l := (List.range 7).map Int.ofNat) rfl, List.mem_map]
  constructor
  · rintro ⟨n, hn, rfl⟩
    have := List.mem_range.1 hn
    exact ⟨Int.natCast_nonneg n, by show (n : Int) < 7; omega⟩
  · rintro ⟨hnonneg, hlt⟩
    exact ⟨ch.toNat, List.mem_range.2 (by omega), Int.toNat_of_nonneg hnonneg⟩

/-! ## The test path -/

section Test

variable {requested : UserChannels} {plane : CommandPlane} {sync : HvAnswer}
  {selection : ChannelSelection}

/-- The channels are those asked for that the client has as OK, and not as fixed bad. -/
theorem mem_selectRequested {l : List Int} {result : ReplyResult}
    (h : selectRequested l result = .ok selection) {ch : Int} :
    ch ∈ selection.channels ↔ ch ∈ l ∧ ch + 1 ∈ result.okChannels.listed ∧
      ch + 1 ∉ result.fixedBadChannels.listed := by
  unfold selectRequested at h
  obtain ⟨ok, hok, h⟩ := bind_eq_ok.1 h
  obtain ⟨bad, hbad, h⟩ := bind_eq_ok.1 h
  obtain ⟨fixedBad, hfixed, h⟩ := bind_eq_ok.1 h
  rw [ChannelField.listed_of_toSet hok, ChannelField.listed_of_toSet hfixed] at h
  have hfinal : ∀ ch : Int, ch ∈ sortedSet (l.filter (· ∈ sortedSet
      ((hvToUserChannels (sortedSet result.okChannels.listed)).filter
        (· ∉ hvToUserChannels (sortedSet result.fixedBadChannels.listed))))) ↔
      ch ∈ l ∧ ch + 1 ∈ result.okChannels.listed ∧
        ch + 1 ∉ result.fixedBadChannels.listed := by
    simp
  dsimp only at h
  split at h
  · next hnone =>
    cases h
    rw [← hfinal ch, hnone]
  · cases h
    exact hfinal ch

/-- What the test path takes a channel for. -/
def TestUsable (plane : CommandPlane) (sync : HvAnswer) (hv : Int) : Prop :=
  match syncResult sync with
  | some result => hv ∈ result.okChannels.listed ∧ hv ∉ result.fixedBadChannels.listed
  | none => plane = .control

/-- Without an answer the channels asked for are taken on the control plane, and none elsewhere. -/
theorem mem_of_unanswered {l : List Int} {notes : List Note} (hnone : syncResult sync = none)
    (h : (if plane = .control then .ok ⟨l, notes⟩
      else .ok ⟨[], [.cannotDetermineSafeChannels]⟩ : Except Unit ChannelSelection) =
        .ok selection) {ch : Int} :
    ch ∈ selection.channels ↔ ch ∈ l ∧ TestUsable plane sync (ch + 1) := by
  unfold TestUsable
  rw [hnone]
  split at h
  · next hplane =>
    cases h
    exact (and_iff_left hplane).symm
  · next hplane =>
    cases h
    exact iff_of_false List.not_mem_nil fun hmem => hplane hmem.2

theorem mem_getTestRcChannels (h : getTestRcChannels requested plane sync = .ok selection)
    {ch : Int} :
    ch ∈ selection.channels ↔ Requested requested ch ∧ TestUsable plane sync (ch + 1) := by
  unfold getTestRcChannels at h
  split at h
  · next hparse =>
    cases h
    refine iff_of_false List.not_mem_nil ?_
    rintro ⟨⟨l, hl, -⟩, -⟩
    rw [hparse] at hl
    cases hl
  · next l hparse =>
    rw [requested_iff hparse]
    split at h
    · exact mem_of_unanswered (by rfl) h
    · next reply =>
      split at h
      · next herror => exact mem_of_unanswered (syncResult_of_error herror) h
      · next herror =>
        obtain ⟨result, hresult, h⟩ := bind_eq_ok.1 h
        unfold TestUsable
        rw [syncResult_of_fields (Bool.eq_false_iff.2 herror) hresult]
        exact mem_selectRequested h

end Test

/-! ## The normal path -/

section Normal

variable {okOff : List Int} {up? : Option (List Int)} {onAndWait : List Int → HvAnswer}
  {notes : List Note} {sync : HvAnswer} {selection : ChannelSelection}

/-- A power-on without an answer leaves the client out; else the channels that are up are listed. -/
theorem switchOn_cases (h : switchOn okOff onAndWait = .ok (up?, notes)) :
    (up? = none ∧ ∃ reason, onAndWait (hvToUserChannels okOff) = .error reason) ∨
      ∃ reply result, onAndWait (hvToUserChannels okOff) = .ok reply ∧
        reply.result = some result ∧ up? = some result.upListed := by
  unfold switchOn at h
  split at h
  · next reason hreason =>
    cases h
    exact .inl ⟨rfl, reason, hreason⟩
  · next reply hreply =>
    obtain ⟨result, hresult, h⟩ := bind_eq_ok.1 h
    obtain ⟨up, hup, h⟩ := bind_eq_ok.1 h
    obtain ⟨failed, -, h⟩ := bind_eq_ok.1 h
    obtain ⟨bad, -, h⟩ := bind_eq_ok.1 h
    cases h
    exact .inr ⟨reply, result, hreply, HvReply.fields_eq_ok.1 hresult,
      congrArg some (ChannelField.listed_of_toSet hup)⟩

theorem concluded_channels (l : List Int) (notes : List Note) :
    (concluded l notes).channels = hvToUserChannels l := by
  unfold concluded
  split
  · next h =>
    rw [h]
    rfl
  · rfl

/-- What the normal path takes a channel for: OK and ON, or up after the power-on. -/
def Usable (result : ReplyResult) (on? : Option ReplyResult) (hv : Int) : Prop :=
  (hv ∈ result.okChannels.listed ∧ hv ∈ result.onChannels.listed) ∨
    ∃ on ∈ on?, hv ∈ on.upListed

theorem onResult_of_nil {result : ReplyResult} (hsync : syncResult sync = some result)
    (hokOff : result.okOff = []) : onResult sync onAndWait = none := by
  unfold onResult
  rw [hsync]
  exact if_pos hokOff

theorem onResult_of_reply {result : ReplyResult} {reply : HvReply}
    (hsync : syncResult sync = some result) (hokOff : result.okOff ≠ [])
    (hreply : onAndWait (hvToUserChannels result.okOff) = .ok reply) :
    onResult sync onAndWait = reply.result := by
  unfold onResult
  rw [hsync]
  dsimp only
  rw [if_neg hokOff, hreply]

/-- A client that gives no result is left out. -/
theorem mem_of_noResult (hsync : syncResult sync = none) {notes : List Note} {ch : Int} :
    ch ∈ (⟨[], notes⟩ : ChannelSelection).channels ↔ ∃ result ∈ syncResult sync,
      Answered result onAndWait ∧ Usable result (onResult sync onAndWait) (ch + 1) := by
  refine iff_of_false List.not_mem_nil ?_
  rintro ⟨result, hresult, -⟩
  rw [hsync] at hresult
  cases hresult

theorem mem_of_result {result : ReplyResult} (hsync : syncResult sync = some result) {hv : Int} :
    (∃ result ∈ syncResult sync, Answered result onAndWait ∧
      Usable result (onResult sync onAndWait) hv) ↔
        Answered result onAndWait ∧ Usable result (onResult sync onAndWait) hv := by
  constructor
  · rintro ⟨result', hresult', h⟩
    cases hsync.symm.trans hresult'
    exact h
  · exact fun h => ⟨result, hsync, h⟩

theorem mem_prepareClient (h : prepareClient sync onAndWait = .ok selection) {ch : Int} :
    ch ∈ selection.channels ↔ ∃ result ∈ syncResult sync, Answered result onAndWait ∧
      Usable result (onResult sync onAndWait) (ch + 1) := by
  unfold prepareClient at h
  split at h
  · cases h
    exact mem_of_noResult rfl
  · next reply =>
    split at h
    · next error herror =>
      cases h
      exact mem_of_noResult (syncResult_of_error (by rw [herror]; rfl))
    · next herror =>
      obtain ⟨result, hresult, h⟩ := bind_eq_ok.1 h
      obtain ⟨ok, hok, h⟩ := bind_eq_ok.1 h
      obtain ⟨on, hon, h⟩ := bind_eq_ok.1 h
      obtain ⟨off, hoff, h⟩ := bind_eq_ok.1 h
      obtain ⟨bad, -, h⟩ := bind_eq_ok.1 h
      have hsync := syncResult_of_fields (by rw [herror]; rfl) hresult
      obtain rfl := ChannelField.listed_of_toSet hok
      obtain rfl := ChannelField.listed_of_toSet hon
      obtain rfl := ChannelField.listed_of_toSet hoff
      have hokOff : sortedSet (result.okChannels.listed.filter
        (· ∈ result.offChannels.listed)) = result.okOff := rfl
      have hokOn : ∀ hv : Int, hv ∈ sortedSet (result.okChannels.listed.filter
          (· ∈ result.onChannels.listed)) ↔
            hv ∈ result.okChannels.listed ∧ hv ∈ result.onChannels.listed := by
        simp
      rw [hokOff] at h
      dsimp only at h
      rw [mem_of_result hsync]
      split at h
      · next hnone =>
        cases h
        have hnil : result.okOff = [] := by
          rw [← hokOff, hnone]
          rfl
        rw [onResult_of_nil hsync hnil]
        refine iff_of_false List.not_mem_nil ?_
        rintro ⟨-, ⟨hmem, -⟩ | ⟨on, hon, -⟩⟩
        · rw [hnone] at hmem
          cases hmem
        · cases hon
      · split at h
        · next hnil =>
          cases h
          rw [concluded_channels, mem_hvToUserChannels, hokOn, onResult_of_nil hsync hnil]
          constructor
          · exact fun hmem => ⟨.inl hnil, .inl hmem⟩
          · rintro ⟨-, hmem | ⟨on, hon, -⟩⟩
            · exact hmem
            · cases hon
        · next hne =>
          obtain ⟨⟨up?, onNotes⟩, hup, h⟩ := bind_eq_ok.1 h
          rcases switchOn_cases hup with ⟨rfl, reason, herr⟩ | ⟨onReply, on, hreply, hon, rfl⟩
          · cases h
            refine iff_of_false List.not_mem_nil ?_
            rintro ⟨hnil | ⟨reply', hreply⟩, -⟩
            · exact hne hnil
            · rw [herr] at hreply
              cases hreply
          · cases h
            rw [concluded_channels, mem_hvToUserChannels, mem_sortedSet, List.mem_append, hokOn,
              onResult_of_reply hsync hne hreply, hon]
            constructor
            · exact fun hmem => ⟨.inr ⟨onReply, hreply⟩, hmem.imp_right fun hup => ⟨on, rfl, hup⟩⟩
            · rintro ⟨-, hmem | ⟨on', hon', hup⟩⟩
              · exact .inl hmem
              · cases hon'
                exact .inr hup

end Normal

/-! ## Sound selections -/

/-- The channels were asked for and are powered, and no result that the selection is made from
excludes one. -/
structure Sound (requested : UserChannels) (sync? on? : Option ReplyResult)
    (selection : ChannelSelection) : Prop where
  requested : ∀ ch ∈ selection.channels, Requested requested ch
  powered : ∀ ch ∈ selection.channels,
    (∃ result ∈ sync?, ch + 1 ∈ result.onChannels.listed) ∨ ∃ on ∈ on?, ch + 1 ∈ on.upListed
  notExcluded : ∀ ch ∈ selection.channels,
    (∀ result ∈ sync?, ch + 1 ∉ result.excluded) ∧ ∀ on ∈ on?, ch + 1 ∉ on.excluded

/-- What the client says of the channels asked for is consistent: those that it has as OK and not as
fixed bad are ON, and not excluded. -/
def TestConsistent (requested : UserChannels) (plane : CommandPlane) (sync : HvAnswer) : Prop :=
  ∀ ch, Requested requested ch →
    match syncResult sync with
    | some result => ch + 1 ∈ result.okChannels.listed → ch + 1 ∉ result.fixedBadChannels.listed →
        ch + 1 ∈ result.onChannels.listed ∧ ch + 1 ∉ result.excluded
    | none => plane ≠ .control

/-- What the client says of its channels is consistent: those that are OK and ON, or up after the
power-on, are among the seven, and neither answer excludes one. -/
def PrepareConsistent (sync : HvAnswer) (onAndWait : List Int → HvAnswer) : Prop :=
  ∀ result ∈ syncResult sync, Answered result onAndWait →
    ∀ hv, Usable result (onResult sync onAndWait) hv →
      (1 ≤ hv ∧ hv ≤ 7) ∧ hv ∉ result.excluded ∧ ∀ on ∈ onResult sync onAndWait, hv ∉ on.excluded

section Soundness

variable {requested : UserChannels} {plane : CommandPlane} {sync : HvAnswer}
  {onAndWait : List Int → HvAnswer} {selection : ChannelSelection}

theorem sound_test_iff (h : getTestRcChannels requested plane sync = .ok selection) :
    Sound requested (syncResult sync) none selection ↔ TestConsistent requested plane sync := by
  have hmem : ∀ ch, ch ∈ selection.channels ↔ _ := fun ch => mem_getTestRcChannels h
  unfold TestConsistent
  unfold TestUsable at hmem
  cases hsync : syncResult sync with
  | none =>
    rw [hsync] at hmem
    constructor
    · intro hsound ch hreq hplane
      rcases hsound.powered ch ((hmem ch).2 ⟨hreq, hplane⟩) with ⟨_, hres, -⟩ | ⟨_, hon, -⟩
      · cases hres
      · cases hon
    · intro hclean
      have hnot : ∀ ch, ch ∉ selection.channels := fun ch hch =>
        hclean ch ((hmem ch).1 hch).1 ((hmem ch).1 hch).2
      exact ⟨fun ch hch => absurd hch (hnot ch), fun ch hch => absurd hch (hnot ch),
        fun ch hch => absurd hch (hnot ch)⟩
  | some result =>
    rw [hsync] at hmem
    constructor
    · intro hsound ch hreq hok hfixed
      have hch := (hmem ch).2 ⟨hreq, hok, hfixed⟩
      refine ⟨?_, (hsound.notExcluded ch hch).1 result rfl⟩
      rcases hsound.powered ch hch with ⟨_, hres, hon⟩ | ⟨_, hon, -⟩
      · cases hres
        exact hon
      · cases hon
    · intro hclean
      have hall : ∀ ch ∈ selection.channels, Requested requested ch ∧
          ch + 1 ∈ result.onChannels.listed ∧ ch + 1 ∉ result.excluded := by
        intro ch hch
        obtain ⟨hreq, hok, hfixed⟩ := (hmem ch).1 hch
        exact ⟨hreq, hclean ch hreq hok hfixed⟩
      refine ⟨fun ch hch => (hall ch hch).1, fun ch hch => .inl ⟨result, rfl, (hall ch hch).2.1⟩,
        fun ch hch => ⟨fun result' hres => ?_, fun _ hon => by cases hon⟩⟩
      cases hres
      exact (hall ch hch).2.2

theorem sound_prepare_iff (h : prepareClient sync onAndWait = .ok selection) :
    Sound .all (syncResult sync) (onResult sync onAndWait) selection ↔
      PrepareConsistent sync onAndWait := by
  have hmem : ∀ ch, ch ∈ selection.channels ↔ _ := fun ch => mem_prepareClient h
  constructor
  · intro hsound result hresult hanswered hv husable
    have hv1 : hv - 1 + 1 = hv := Int.sub_add_cancel hv 1
    have hch : hv - 1 ∈ selection.channels :=
      (hmem (hv - 1)).2 ⟨result, hresult, hanswered, by rwa [hv1]⟩
    have hrange := requested_all.1 (hsound.requested _ hch)
    have hexcluded := hsound.notExcluded _ hch
    rw [hv1] at hexcluded
    exact ⟨by omega, hexcluded.1 result hresult, hexcluded.2⟩
  · intro hclean
    have hall : ∀ ch ∈ selection.channels, ∃ result ∈ syncResult sync,
        Usable result (onResult sync onAndWait) (ch + 1) ∧ (1 ≤ ch + 1 ∧ ch + 1 ≤ 7) ∧
          ch + 1 ∉ result.excluded ∧ ∀ on ∈ onResult sync onAndWait, ch + 1 ∉ on.excluded := by
      intro ch hch
      obtain ⟨result, hresult, hanswered, husable⟩ := (hmem ch).1 hch
      exact ⟨result, hresult, husable, hclean result hresult hanswered _ husable⟩
    refine ⟨fun ch hch => ?_, fun ch hch => ?_, fun ch hch => ?_⟩
    · obtain ⟨-, -, -, hrange, -⟩ := hall ch hch
      exact requested_all.2 (by omega)
    · obtain ⟨result, hresult, ⟨-, hon⟩ | hup, -⟩ := hall ch hch
      · exact .inl ⟨result, hresult, hon⟩
      · exact .inr hup
    · obtain ⟨result, hresult, -, -, hexcluded, hon⟩ := hall ch hch
      refine ⟨fun result' hresult' => ?_, hon⟩
      cases Option.mem_unique hresult hresult'
      exact hexcluded

/-- The client is prepared: it is on the plane, and one of the targets, if these are given. -/
def Prepared (s : ServerState) (plane : CommandPlane) (targets : Option (List ClientId))
    (cid : ClientId) : Prop :=
  cid ∈ s.planeClientIds plane ∧ ∀ l ∈ targets, cid ∈ l

theorem get?_prepared {s : ServerState} {targets : Option (List ClientId)}
    {sync : ClientId → HvAnswer} {onAndWait : ClientId → List Int → HvAnswer}
    {selections : Dict ClientId ChannelSelection}
    (h : prepareHvChannelsForAcquisition s plane targets sync onAndWait = .ok selections)
    (cid : ClientId) :
    (Prepared s plane targets cid → ∃ selection,
      prepareClient (sync cid) (onAndWait cid) = .ok selection ∧
        selections.get? cid = some selection) ∧
      (¬Prepared s plane targets cid → selections.get? cid = none) := by
  obtain ⟨hmem, hnot⟩ := Dict.get?_setEach_keys h (k := cid)
  cases targets with
  | none =>
    have hprepared : Prepared s plane none cid ↔ cid ∈ s.planeClientIds plane := by
      simp [Prepared]
    rw [hprepared]
    exact ⟨hmem, hnot⟩
  | some l =>
    have hprepared : Prepared s plane (some l) cid ↔
        cid ∈ (s.planeClientIds plane).filter (· ∈ l) := by
      simp [Prepared]
    rw [hprepared]
    exact ⟨hmem, hnot⟩

end Soundness

/-- What either path selects is sound exactly when what the clients answer is consistent. -/
theorem selections_sound_iff (s : ServerState) (plane : CommandPlane) (requested : UserChannels)
    (targets : Option (List ClientId)) (sync : ClientId → HvAnswer)
    (onAndWait : ClientId → List Int → HvAnswer) :
    (∀ cid selection, getTestRcChannels requested plane (sync cid) = .ok selection →
      (Sound requested (syncResult (sync cid)) none selection ↔
        TestConsistent requested plane (sync cid))) ∧
    ∀ selections, prepareHvChannelsForAcquisition s plane targets sync onAndWait = .ok selections →
      ((∀ cid selection, selections.get? cid = some selection →
          Sound .all (syncResult (sync cid)) (onResult (sync cid) (onAndWait cid)) selection) ↔
        ∀ cid, Prepared s plane targets cid → PrepareConsistent (sync cid) (onAndWait cid)) := by
  refine ⟨fun _ _ => sound_test_iff, fun selections h => ?_⟩
  constructor
  · intro hsound cid hmem
    obtain ⟨selection, hclient, hget⟩ := (get?_prepared h cid).1 hmem
    exact (sound_prepare_iff hclient).1 (hsound cid selection hget)
  · intro hclean cid selection hget
    by_cases hmem : Prepared s plane targets cid
    · obtain ⟨selection', hclient, hget'⟩ := (get?_prepared h cid).1 hmem
      cases hget.symm.trans hget'
      exact (sound_prepare_iff hclient).2 (hclean cid hmem)
    · cases hget.symm.trans ((get?_prepared h cid).2 hmem)

/-! ## A client with two channels -/

/-- The first channel is OK and ON, the second one OK and OFF. -/
private def oneOn : HvAnswer :=
  .ok
    { result := some
        { okChannels := .channels [1, 2]
          onChannels := .channels [1]
          offChannels := .channels [2] } }

/-- The second channel goes up, and these are bad. -/
private def secondUp (bad : List Int) (_ : List Int) : HvAnswer :=
  .ok { result := some { successfulChannels := .channels [2], badChannels := .channels bad } }

private def oneClient : ServerState :=
  { ServerState.init with
    clients := Dict.empty.set [97] { connectedAt := 0, onAcquisitionPlane := true } }

private theorem oneOn_prepared (bad : List Int) :
    prepareHvChannelsForAcquisition oneClient .acquisition none (fun _ => oneOn)
        (fun _ => secondUp bad) =
      .ok (Dict.empty.set [97] ⟨[0, 1], noteIf .movedToBad (hvToUserChannels (sortedSet bad))⟩) :=
  rfl

theorem selections_sound_iff_oneOn :
    Sound (.int 0) (syncResult oneOn) none ⟨[0], []⟩ ∧
      Sound .all (syncResult oneOn) (onResult oneOn (secondUp [])) ⟨[0, 1], []⟩ := by
  have hiff := selections_sound_iff oneClient .acquisition (.int 0) none (fun _ => oneOn)
    fun _ => secondUp []
  constructor
  · refine (hiff.1 [97] _ (by decide +kernel)).2 ?_
    intro ch hreq
    obtain rfl := List.mem_singleton.1 ((requested_iff (l := [0]) rfl).1 hreq)
    exact fun _ _ => by decide
  · refine (hiff.2 _ (oneOn_prepared [])).2 ?_ [97] _ rfl
    rintro - - result ⟨⟩ - hv husable
    have hhv : hv = 1 ∨ hv = 2 := by
      rcases husable with ⟨-, hon⟩ | ⟨on, ⟨⟩, hup⟩
      · exact .inl (List.mem_singleton.1 hon)
      · exact .inr (List.mem_singleton.1 hup)
    refine ⟨by omega, List.not_mem_nil, ?_⟩
    rintro on ⟨⟩
    exact List.not_mem_nil

/-- A channel that is ON, and that the answer to the power-on reports as bad, is selected. -/
theorem badChannel_selected :
    ∃ selections selection,
      prepareHvChannelsForAcquisition oneClient .acquisition none (fun _ => oneOn)
        (fun _ => secondUp [1]) = .ok selections ∧ selections.get? [97] = some selection ∧
      selection.channels = [0, 1] ∧
      ¬Sound .all (syncResult oneOn) (onResult oneOn (secondUp [1])) selection := by
  refine ⟨_, _, oneOn_prepared [1], rfl, rfl, fun hsound => ?_⟩
  exact (hsound.notExcluded 0 List.mem_cons_self).2 _ rfl (by decide)

end MultiDAQ.Server
