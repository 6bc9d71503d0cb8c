import MultiDAQ.Server.MacIdRegistry

/-!
# The ids of the detectors over restarts

Ids are counted up from the largest one in the table, and an entry stays in the table of the running
server whether its save succeeded or not. What a start reads (`readTable`) has every entry of the
table in use that is not waiting for a save, unless a save has broken off in the middle of the file.
So no id is given twice, over saves that fail and over restarts, as long as no restart comes between
an id that was given and the save of its entry, and nothing is taken from the file from outside
(`ids_stable`). A start that finds no file, or one that it cannot read, begins a new table.
-/

namespace MultiDAQ.Server

open MultiDAQ.Lib

/-- The table holds numbers, has the ids that were given under different ones, and counts up from a
number that none of them exceeds. -/
structure Records (entries : Dict String (Option Int)) (given : List (String × Int)) : Prop where
  numeric : ∀ mac, entries.get? mac ≠ some none
  bounded : ∀ mac n, mac ≠ "index" → entries.get? mac = some (some n) →
    ∃ idx, entries.get? "index" = some (some idx) ∧ n ≤ idx
  injective : ∀ mac mac' n, mac ≠ "index" → mac' ≠ "index" → entries.get? mac = some (some n) →
    entries.get? mac' = some (some n) → mac = mac'
  given : ∀ mac n, (mac, n) ∈ given → mac ≠ "index" ∧ entries.get? mac = some (some n)

namespace Records

variable {entries : Dict String (Option Int)} {given : List (String × Int)} {clientMac : String}

theorem empty : Records .empty [] where
  numeric _ := nofun
  bounded _ _ _ := nofun
  injective _ _ _ _ _ := nofun
  given _ _ := nofun

theorem consistent (h : Records entries given) {mac mac' : String} {n n' : Int}
    (hn : (mac, n) ∈ given) (hn' : (mac', n') ∈ given) : mac = mac' ↔ n = n' := by
  obtain ⟨hne, hget⟩ := h.given mac n hn
  obtain ⟨hne', hget'⟩ := h.given mac' n' hn'
  constructor
  · rintro rfl
    exact Option.some.inj (Option.some.inj (hget.symm.trans hget'))
  · rintro rfl
    exact h.injective mac mac' n hne hne' hget hget'

/-- The same table, for other ids that it has. -/
theorem regive (h : Records entries given) {given' : List (String × Int)}
    (hgiven : ∀ mac n, (mac, n) ∈ given' → mac ≠ "index" ∧ entries.get? mac = some (some n)) :
    Records entries given' where
  numeric := h.numeric
  bounded := h.bounded
  injective := h.injective
  given := hgiven

/-- A MAC address of the table is given the id it has there. -/
theorem snoc_of_get? (h : Records entries given) (hmac : clientMac ≠ "index") {n : Int}
    (hn : entries.get? clientMac = some (some n)) : Records entries (given ++ [(clientMac, n)]) := by
  refine h.regive fun mac m hm => ?_
  rcases List.mem_append.1 hm with hm | hm
  · exact h.given mac m hm
  · obtain ⟨rfl, rfl⟩ := Prod.mk.inj (List.mem_singleton.1 hm)
    exact ⟨hmac, hn⟩

/-- The number that the table counts up from. -/
theorem index (h : Records entries given) :
    ∃ actualIdx, (entries.get? "index").getD (some (-1)) = some actualIdx := by
  cases hidx : entries.get? "index" with
  | none => exact ⟨-1, rfl⟩
  | some idx =>
    cases idx with
    | none => exact absurd hidx (h.numeric "index")
    | some idx => exact ⟨idx, rfl⟩

section New

variable {actualIdx : Int}

theorem get?_new (mac : String) :
    ((entries.set clientMac (some (actualIdx + 1))).set "index" (some (actualIdx + 1))).get? mac =
      if mac = "index" ∨ mac = clientMac then some (some (actualIdx + 1)) else entries.get? mac := by
  rw [Dict.get?_set, Dict.get?_set]
  by_cases hidx : mac = "index"
  · simp [hidx]
  · simp [hidx]

/-- No id of the table exceeds the number it counts up from. -/
theorem le_actualIdx (h : Records entries given)
    (hidx : (entries.get? "index").getD (some (-1)) = some actualIdx) {mac : String} {n : Int}
    (hne : mac ≠ "index") (hn : entries.get? mac = some (some n)) : n ≤ actualIdx := by
  obtain ⟨idx, hget, hle⟩ := h.bounded mac n hne hn
  rw [hget] at hidx
  exact Option.some.inj hidx ▸ hle

/-- A new MAC address gets an id that no other one has. -/
theorem new (h : Records entries given) (hmac : clientMac ≠ "index")
    (hnew : entries.get? clientMac = none)
    (hidx : (entries.get? "index").getD (some (-1)) = some actualIdx) :
    Records ((entries.set clientMac (some (actualIdx + 1))).set "index" (some (actualIdx + 1)))
      given where
  numeric mac := by
    rw [get?_new]
    split
    · exact fun heq => absurd (Option.some.inj heq) (Option.some_ne_none _)
    · exact h.numeric mac
  bounded mac n hne hn := by
    refine ⟨actualIdx + 1, by rw [get?_new, if_pos (.inl rfl)], ?_⟩
    rw [get?_new] at hn
    split at hn
    · exact Int.le_of_eq (Option.some.inj (Option.some.inj hn)).symm
    · have := h.le_actualIdx hidx hne hn
      omega
  injective mac mac' n hne hne' hn hn' := by
    rw [get?_new] at hn hn'
    by_cases hc : mac = clientMac <;> by_cases hc' : mac' = clientMac
    · exact hc.trans hc'.symm
    · rw [if_pos (.inr hc)] at hn
      rw [if_neg (not_or.2 ⟨hne', hc'⟩)] at hn'
      have := h.le_actualIdx hidx hne' hn'
      have := Option.some.inj (Option.some.inj hn)
      omega
    · rw [if_neg (not_or.2 ⟨hne, hc⟩)] at hn
      rw [if_pos (.inr hc')] at hn'
      have := h.le_actualIdx hidx hne hn
      have := Option.some.inj (Option.some.inj hn')
      omega
    · rw [if_neg (not_or.2 ⟨hne, hc⟩)] at hn
      rw [if_neg (not_or.2 ⟨hne', hc'⟩)] at hn'
      exact h.injective mac mac' n hne hne' hn hn'
  given mac n hn := by
    obtain ⟨hne, hget⟩ := h.given mac n hn
    refine ⟨hne, ?_⟩
    have hc : mac ≠ clientMac := by
      rintro rfl
      rw [hnew] at hget
      cases hget
    rw [get?_new, if_neg (not_or.2 ⟨hne, hc⟩)]
    exact hget

end New

end Records

/-! ## What a start reads -/

/-- The table that a start reads; it begins an empty one if it finds none. -/
def readTable (files : RegistryFiles) : Dict String (Option Int) :=
  match MacIdentityRegistry.firstThere files with
  | none => .empty
  | some path =>
    match files path with
    | .json (.object entries) => entries
    | _ => .empty

theorem readTable_of_none {files : RegistryFiles}
    (hpath : MacIdentityRegistry.firstThere files = none) : readTable files = .empty := by
  unfold readTable
  rw [hpath]

theorem readTable_of_some {files : RegistryFiles} {path : RegistryPath}
    (hpath : MacIdentityRegistry.firstThere files = some path) :
    readTable files =
      match files path with
      | .json (.object entries) => entries
      | _ => .empty := by
  unfold readTable
  rw [hpath]

/-- Every entry of the first table is in the second one. -/
def Extends (entries entries' : Dict String (Option Int)) : Prop :=
  ∀ mac v, mac ≠ "index" → entries.get? mac = some v → entries'.get? mac = some v

namespace MacIdentityRegistry

/-- A file that is there is written in its place, or as the first one. -/
theorem firstThere_update {files : RegistryFiles} {path : RegistryPath} {content : RegistryFile}
    (hpath : firstThere files = some path ∨ path = .package) (hcontent : content.isThere) :
    firstThere (Function.update files path content) = some path := by
  have hthere : (Function.update files path content path).isThere := by
    rwa [Function.update_self]
  rcases hpath with hpath | rfl
  · unfold firstThere at hpath ⊢
    rw [List.find?_eq_some_iff_append] at hpath ⊢
    obtain ⟨-, before, after, hall, hbefore⟩ := hpath
    refine ⟨hthere, before, after, hall, fun p hp => ?_⟩
    have hne : p ≠ path := by
      have hnodup : (before ++ path :: after).Nodup := hall ▸ (by decide)
      rintro rfl
      exact (List.nodup_append.1 hnodup).2.2 p hp p List.mem_cons_self rfl
    rw [Function.update_of_ne hne]
    exact hbefore p hp
  · exact List.find?_cons_of_pos hthere

/-- Of a table of numbers every id is read. -/
theorem numericIds_isSome {entries : Dict String (Option Int)}
    (h : ∀ mac, entries.get? mac ≠ some none) : (numericIds entries).isSome := by
  have hall : ∀ e ∈ entries.entries, e.2 ≠ none := by
    intro e he hnone
    refine h e.1 (Dict.mem_entries.1 ?_)
    rwa [← hnone]
  unfold numericIds
  generalize Dict.empty = ids
  revert hall
  generalize entries.entries = es
  intro hall
  induction es generalizing ids with
  | nil => rfl
  | cons e es ih =>
    have hes ids := ih ids fun e' he' => hall e' (List.mem_cons_of_mem _ he')
    rw [List.foldlM_cons]
    split
    · exact hes ids
    · cases hn : e.2 with
      | none => exact absurd hn (hall e List.mem_cons_self)
      | some n => exact hes _

end MacIdentityRegistry

/-! ## The invariant -/

namespace RegistrySystem

variable {s : RegistrySystem} {clientMac : String} {outcome : SaveOutcome}
  {result : Registration × MacIdentityRegistry × RegistryFiles}

/-- The table that the next registration works on. -/
def inUse (s : RegistrySystem) : Dict String (Option Int) :=
  match s.registry.presentClientMacId with
  | none => readTable s.files
  | some (.object entries) => entries
  | some .other => .empty

theorem inUse_of_none (h : s.registry.presentClientMacId = none) : s.inUse = readTable s.files := by
  unfold inUse
  rw [h]

structure Inv (s : RegistrySystem) : Prop where
  wellFormed : Records (readTable s.files) []
  unread : s.registry.presentClientMacId = none → s.registry.pathMacFile = none
  path : ∀ path, s.registry.pathMacFile = some path →
    MacIdentityRegistry.firstThere s.files = some path
  inUse : Records s.inUse s.given
  saved : s.halfWritten = false → ∀ mac v, mac ≠ "index" → mac ∉ s.unsaved →
    s.inUse.get? mac = some v → (readTable s.files).get? mac = some v

theorem inv_init : Inv {} where
  wellFormed := .empty
  unread _ := rfl
  path _ := nofun
  inUse := .empty
  saved _ _ _ _ _ h := h

/-- The invariant is about the registry only through these two. -/
theorem Inv.of_registry (hs : s.Inv) {r : MacIdentityRegistry}
    (hpresent : r.presentClientMacId ≠ none)
    (hpath : ∀ path, r.pathMacFile = some path →
      MacIdentityRegistry.firstThere s.files = some path)
    (hinUse : RegistrySystem.inUse { s with registry := r } = s.inUse) : Inv { s with registry := r } where
  wellFormed := hs.wellFormed
  unread h := absurd h hpresent
  path := hpath
  inUse := hinUse ▸ hs.inUse
  saved := hinUse ▸ hs.saved

/-! ## Reading the table -/

/-- The state when the table has been read, if it was not before. -/
def load (s : RegistrySystem) : RegistrySystem :=
  { s with registry := s.registry.loaded s.files }

/-- Reading keeps the table in use; if nothing was read, it is empty. -/
structure Loads (s l : RegistrySystem) : Prop where
  inv : l.Inv
  inUse : l.inUse = s.inUse
  empty : l.registry.presentClientMacId = none → s.inUse = .empty

/-- The file that is read is the first one that is there. -/
theorem Inv.loadPath (hs : s.Inv) :
    s.registry.loadPath s.files = MacIdentityRegistry.firstThere s.files := by
  unfold MacIdentityRegistry.loadPath
  cases hp : s.registry.pathMacFile with
  | none => rfl
  | some path => exact (hs.path path hp).symm

theorem Inv.loads_loadFromFile (hs : s.Inv) (hnone : s.registry.presentClientMacId = none) :
    Loads s { s with registry := s.registry.loadFromFile s.files } := by
  have hinUse := inUse_of_none hnone
  unfold MacIdentityRegistry.loadFromFile
  rw [hs.loadPath]
  cases hpath : MacIdentityRegistry.firstThere s.files with
  | none => exact ⟨hs, rfl, fun _ => hinUse.trans (readTable_of_none hpath)⟩
  | some path =>
    have hread := readTable_of_some hpath
    dsimp only
    cases hfile : s.files path with
    | missing => exact ⟨hs, rfl, fun _ => hinUse.trans (by rw [hread, hfile])⟩
    | unreadable => exact ⟨hs, rfl, fun _ => hinUse.trans (by rw [hread, hfile])⟩
    | json content =>
      rw [hfile] at hread
      cases content with
      | other =>
        have heq : Dict.empty = s.inUse := (hinUse.trans hread).symm
        exact ⟨hs.of_registry nofun hs.path heq, heq, nofun⟩
      | object entries =>
        have heq : entries = s.inUse := (hinUse.trans hread).symm
        have hnumeric : ∀ mac, entries.get? mac ≠ some none :=
          heq ▸ hs.inUse.numeric
        obtain ⟨ids, hids⟩ := Option.isSome_iff_exists.1
          (MacIdentityRegistry.numericIds_isSome hnumeric)
        dsimp only
        rw [hids]
        exact ⟨hs.of_registry nofun (fun p hp => hp ▸ hpath) heq, heq, nofun⟩

theorem Inv.loads (hs : s.Inv) : Loads s s.load := by
  unfold load MacIdentityRegistry.loaded
  split
  next hsome => exact ⟨hs, rfl, fun h => absurd h (Option.isSome_iff_ne_none.1 hsome)⟩
  next hnone => exact hs.loads_loadFromFile (Option.not_isSome_iff_eq_none.1 hnone)

/-- A load that reads no table changes nothing. -/
theorem loaded_of_none {r : MacIdentityRegistry} {files : RegistryFiles}
    (h : (r.loaded files).presentClientMacId = none) : r.loaded files = r := by
  revert h
  unfold MacIdentityRegistry.loaded MacIdentityRegistry.loadFromFile
  split
  · exact fun _ => rfl
  · split
    · exact fun _ => rfl
    · split
      · exact fun _ => rfl
      · exact fun _ => rfl
      · exact nofun
      · split
        · exact nofun
        · exact nofun

/-- What was loaded is not loaded again. -/
theorem loaded_loaded (r : MacIdentityRegistry) (files : RegistryFiles) :
    (r.loaded files).loaded files = r.loaded files := by
  cases h : (r.loaded files).presentClientMacId with
  | none => rw [loaded_of_none h]; exact loaded_of_none h
  | some j => exact if_pos (by rw [h]; rfl)

/-! ## One registration -/

/-- What a registration does: it finds no table to work on, or the MAC address in the table in use,
or it makes a new entry. -/
inductive Registers (s : RegistrySystem) (clientMac : String) (outcome : SaveOutcome) :
    Registration × MacIdentityRegistry × RegistryFiles → Prop
  | raises (hentry : s.makesEntry clientMac = false) (hempty : s.inUse = .empty) :
    Registers s clientMac outcome (.raised, s.load.registry, s.files)
  | known (numericId : Int) (r : MacIdentityRegistry) (hentry : s.makesEntry clientMac = false)
    (hget : s.inUse.get? clientMac = some (some numericId))
    (hpresent : r.presentClientMacId = some (.object s.inUse))
    (hpath : r.pathMacFile = s.load.registry.pathMacFile) :
    Registers s clientMac outcome (.id numericId, r, s.files)
  | new (actualIdx : Int) (hentry : s.makesEntry clientMac = true)
    (hget : s.inUse.get? clientMac = none)
    (hidx : (s.inUse.get? "index").getD (some (-1)) = some actualIdx) :
    Registers s clientMac outcome
      (s.load.registry.addNew s.files s.inUse clientMac (actualIdx + 1) outcome)

/-- The table that a registration finds. -/
theorem Inv.table (hs : s.Inv) :
    (s.load.registry.presentClientMacId = some .other ∧ s.inUse = .empty) ∨
      s.load.registry.presentClientMacId.getD (.object .empty) = .object s.inUse := by
  have hl := hs.loads
  have hinUse := hl.inUse
  unfold RegistrySystem.inUse at hinUse
  cases hp : s.load.registry.presentClientMacId with
  | none => exact .inr (congrArg RegistryJson.object (hl.empty hp).symm)
  | some content =>
    rw [hp] at hinUse
    cases content with
    | object entries => exact .inr (congrArg RegistryJson.object hinUse)
    | other => exact .inl ⟨rfl, hinUse.symm⟩

theorem Inv.registers_addClientMac (hs : s.Inv) :
    Registers s clientMac outcome (s.registry.addClientMac s.files clientMac outcome) := by
  unfold MacIdentityRegistry.addClientMac
  dsimp only
  rcases hs.table with ⟨hother, hempty⟩ | htable
  · rw [show (s.registry.loaded s.files).presentClientMacId = _ from hother]
    refine .raises ?_ hempty
    unfold makesEntry
    rw [show (s.registry.loaded s.files).presentClientMacId = _ from hother]
    rfl
  · have hentry : s.makesEntry clientMac = ((s.inUse.get? clientMac).isNone &&
        ((s.inUse.get? "index").getD (some (-1))).isSome) := by
      unfold makesEntry
      rw [show (s.registry.loaded s.files).presentClientMacId.getD _ = _ from htable]
    rw [show (s.registry.loaded s.files).presentClientMacId.getD _ = _ from htable]
    dsimp only
    obtain ⟨actualIdx, hidx⟩ := hs.inUse.index
    rw [hidx] at hentry ⊢
    cases hget : s.inUse.get? clientMac with
    | none =>
      rw [hget] at hentry
      exact .new actualIdx hentry hget hidx
    | some v =>
      rw [hget] at hentry
      cases v with
      | none => exact absurd hget (hs.inUse.numeric clientMac)
      | some numericId => exact .known numericId _ hentry hget rfl rfl

theorem addClientMac_loaded (r : MacIdentityRegistry) (files : RegistryFiles) :
    (r.loaded files).addClientMac files clientMac outcome =
      r.addClientMac files clientMac outcome := by
  unfold MacIdentityRegistry.addClientMac
  rw [loaded_loaded]

theorem Inv.registers_getIdFromMac (hs : s.Inv) :
    Registers s clientMac outcome (s.registry.getIdFromMac s.files clientMac outcome) := by
  unfold MacIdentityRegistry.getIdFromMac
  dsimp only
  rw [addClientMac_loaded]
  split
  next entries hobject =>
    have hentries : entries = s.inUse := by
      have hinUse := hs.loads.inUse
      unfold RegistrySystem.inUse at hinUse
      rwa [show s.load.registry.presentClientMacId = _ from hobject] at hinUse
    subst hentries
    split
    next numericId hget =>
      refine .known numericId _ ?_ hget hobject rfl
      unfold makesEntry
      rw [hobject]
      dsimp only [Option.getD_some]
      rw [hget]
      rfl
    next hget => exact absurd hget (hs.inUse.numeric clientMac)
    next => exact hs.registers_addClientMac
  next => exact hs.registers_addClientMac

section New

variable {actualIdx : Int}

/-- The table with its new entry is in use, whatever becomes of the save. -/
theorem inUse_new {r : MacIdentityRegistry} {entries : Dict String (Option Int)} {newIdx : Int} :
    (s.registered clientMac outcome
      (r.addNew s.files entries clientMac newIdx outcome)).inUse =
        (entries.set clientMac (some newIdx)).set "index" (some newIdx) := by
  cases outcome <;> rfl

/-- The file that the table is saved to is the one that a start reads, or comes before all others. -/
theorem Inv.savePath (hs : s.Inv) : MacIdentityRegistry.firstThere s.files =
    some (s.registry.pathMacFile.getD .package) ∨
      s.registry.pathMacFile.getD .package = .package := by
  cases hp : s.registry.pathMacFile with
  | none => exact .inr rfl
  | some path => exact .inl (hs.path path hp)

/-- A start reads what was saved. -/
theorem Inv.readTable_saved (hs : s.Inv) (entries : Dict String (Option Int)) :
    readTable (Function.update s.files (s.registry.pathMacFile.getD .package)
      (.json (.object entries))) = entries := by
  rw [readTable_of_some (MacIdentityRegistry.firstThere_update hs.savePath rfl),
    Function.update_self]

/-- A start reads nothing of a file in which a save broke off. -/
theorem Inv.readTable_broken (hs : s.Inv) :
    readTable (Function.update s.files (s.registry.pathMacFile.getD .package) .unreadable) =
      .empty := by
  rw [readTable_of_some (MacIdentityRegistry.firstThere_update hs.savePath rfl),
    Function.update_self]

theorem Inv.registered_saved (hs : s.Inv) (hmac : clientMac ≠ "index")
    (hget : s.inUse.get? clientMac = none)
    (hidx : (s.inUse.get? "index").getD (some (-1)) = some actualIdx) :
    (s.registered clientMac .saved
      (s.load.registry.addNew s.files s.inUse clientMac (actualIdx + 1) .saved)).Inv := by
  have hnew := hs.inUse.new hmac hget hidx
  have hread := hs.loads.inv.readTable_saved
    ((s.inUse.set clientMac (some (actualIdx + 1))).set "index" (some (actualIdx + 1)))
  refine ⟨hread.symm ▸ hnew.regive nofun, nofun, fun p hp => ?_, ?_, fun _ mac v _ _ hv => ?_⟩
  · obtain rfl := Option.some.inj hp
    exact MacIdentityRegistry.firstThere_update hs.loads.inv.savePath rfl
  · rw [inUse_new]
    exact hnew.snoc_of_get? hmac (by rw [Records.get?_new, if_pos (.inr rfl)])
  · rw [inUse_new] at hv
    exact (congrArg (fun d => d.get? mac) hread).trans hv

theorem Inv.registered_notOpened (hs : s.Inv) (hmac : clientMac ≠ "index")
    (hentry : s.makesEntry clientMac = true) (hget : s.inUse.get? clientMac = none)
    (hidx : (s.inUse.get? "index").getD (some (-1)) = some actualIdx) :
    (s.registered clientMac .notOpened
      (s.load.registry.addNew s.files s.inUse clientMac (actualIdx + 1) .notOpened)).Inv := by
  refine ⟨hs.wellFormed, nofun, hs.loads.inv.path, ?_, fun hhalf mac v hne hunsaved hv => ?_⟩
  · rw [inUse_new]
    exact hs.inUse.new hmac hget hidx
  · simp only [RegistrySystem.registered, hentry, if_true] at hhalf hunsaved
    rw [if_neg (by decide), List.mem_append, List.mem_singleton, not_or] at hunsaved
    rw [inUse_new, Records.get?_new, if_neg (not_or.2 ⟨hne, hunsaved.2⟩)] at hv
    exact hs.saved hhalf mac v hne hunsaved.1 hv

theorem Inv.registered_notWritten (hs : s.Inv) (hmac : clientMac ≠ "index")
    (hentry : s.makesEntry clientMac = true) (hget : s.inUse.get? clientMac = none)
    (hidx : (s.inUse.get? "index").getD (some (-1)) = some actualIdx) :
    (s.registered clientMac .notWritten
      (s.load.registry.addNew s.files s.inUse clientMac (actualIdx + 1) .notWritten)).Inv := by
  have hl := hs.loads.inv
  refine ⟨hl.readTable_broken.symm ▸ .empty, nofun, fun p hp => ?_, ?_, fun hhalf => ?_⟩
  · have hgetD : s.load.registry.pathMacFile.getD .package = p := by
      rw [show s.load.registry.pathMacFile = some p from hp]
      rfl
    exact (MacIdentityRegistry.firstThere_update hl.savePath rfl).trans (congrArg some hgetD)
  · rw [inUse_new]
    exact hs.inUse.new hmac hget hidx
  · simp only [RegistrySystem.registered, hentry, if_true] at hhalf
    cases hhalf

theorem Inv.registered_new (hs : s.Inv) (hmac : clientMac ≠ "index")
    (hentry : s.makesEntry clientMac = true) (hget : s.inUse.get? clientMac = none)
    (hidx : (s.inUse.get? "index").getD (some (-1)) = some actualIdx) :
    (s.registered clientMac outcome
      (s.load.registry.addNew s.files s.inUse clientMac (actualIdx + 1) outcome)).Inv := by
  cases outcome with
  | saved => exact hs.registered_saved hmac hget hidx
  | notOpened => exact hs.registered_notOpened hmac hentry hget hidx
  | notWritten => exact hs.registered_notWritten hmac hentry hget hidx

end New

/-- A registration that makes no entry leaves what is saved. -/
theorem Inv.saved_registered (hs : s.Inv) (hentry : s.makesEntry clientMac = false)
    (hfiles : result.2.2 = s.files)
    (hinUse : (s.registered clientMac outcome result).inUse = s.inUse) :
    (s.registered clientMac outcome result).halfWritten = false → ∀ mac v, mac ≠ "index" →
      mac ∉ (s.registered clientMac outcome result).unsaved →
      (s.registered clientMac outcome result).inUse.get? mac = some v →
        (readTable (s.registered clientMac outcome result).files).get? mac = some v := by
  intro hhalf mac v hne hunsaved hv
  simp only [RegistrySystem.registered, hentry, Bool.false_eq_true, if_false] at hhalf hunsaved
  rw [hinUse] at hv
  show (readTable result.2.2).get? mac = some v
  rw [hfiles]
  exact hs.saved hhalf mac v hne hunsaved hv

/-- A registration of a MAC address of the table in use. -/
theorem Inv.registered_known (hs : s.Inv) (hmac : clientMac ≠ "index") {numericId : Int}
    {r : MacIdentityRegistry} (hentry : s.makesEntry clientMac = false)
    (hget : s.inUse.get? clientMac = some (some numericId))
    (hpresent : r.presentClientMacId = some (.object s.inUse))
    (hpath : r.pathMacFile = s.load.registry.pathMacFile) :
    (s.registered clientMac outcome (.id numericId, r, s.files)).Inv := by
  have hinUse : (s.registered clientMac outcome (.id numericId, r, s.files)).inUse = s.inUse := by
    show (match r.presentClientMacId with
      | none => readTable s.files
      | some (.object entries) => entries
      | some .other => .empty) = s.inUse
    rw [hpresent]
  refine ⟨hs.wellFormed, fun h => (nomatch hpresent.symm.trans h), fun p hp => ?_, ?_,
    hs.saved_registered hentry rfl hinUse⟩
  · exact hs.loads.inv.path p (hpath.symm.trans hp)
  · rw [hinUse]
    exact hs.inUse.snoc_of_get? hmac hget

theorem Inv.registered (hs : s.Inv) (hmac : clientMac ≠ "index")
    (h : Registers s clientMac outcome result) :
    (s.registered clientMac outcome result).Inv := by
  cases h with
  | raises hentry hempty =>
    have hl := hs.loads.inv
    exact ⟨hl.wellFormed, hl.unread, hl.path, hl.inUse,
      hs.saved_registered hentry rfl hs.loads.inUse⟩
  | known numericId r hentry hget hpresent hpath =>
    exact hs.registered_known hmac hentry hget hpresent hpath
  | new actualIdx hentry hget hidx => exact hs.registered_new hmac hentry hget hidx

/-- A MAC address that was given an id is given it again. -/
theorem Registers.again (hs : s.Inv) (h : Registers s clientMac outcome result) {n : Int}
    (hn : (clientMac, n) ∈ s.given) : result.1 = .id n := by
  have hgiven := (hs.inUse.given clientMac n hn).2
  cases h with
  | raises _ hempty => exact nomatch hgiven.symm.trans (congrArg (·.get? clientMac) hempty)
  | known numericId r _ hget =>
    exact congrArg Registration.id (Option.some.inj (Option.some.inj (hget.symm.trans hgiven)))
  | new actualIdx _ hget => exact nomatch hget.symm.trans hgiven

/-- A registration that gives neither an id nor None leaves the table and the files alone. -/
theorem Registers.unchanged (h : Registers s clientMac outcome result)
    (hres : result.1 = .raised ∨ result.1 = .notANumber) :
    result.2 = (s.registry.loaded s.files, s.files) := by
  cases h with
  | raises => rfl
  | known => simp at hres
  | new => cases outcome <;> simp [MacIdentityRegistry.addNew] at hres

/-! ## Runs -/

/-- What the actions must keep to. The MAC address is not the key of the number that the table counts
up from. The server is not restarted between an id that was given and the save of its entry, nor
when a save has broken off in the file, if an id was given. A change from outside leaves in place the
file that a start reads, with all it had, except before the table is read and an id is given. -/
def Allowed (s : RegistrySystem) : RegistryAction → Prop
  | .addClientMac clientMac _ | .getIdFromMac clientMac _ => clientMac ≠ "index"
  | .getMacFromId _ => True
  | .restart => (s.halfWritten = true → s.given = []) ∧ ∀ mac ∈ s.unsaved, ∀ n, (mac, n) ∉ s.given
  | .fileChanged path content =>
    let files := Function.update s.files path content
    Records (readTable files) [] ∧
      ((s.registry.presentClientMacId = none ∧ s.given = []) ∨
        (MacIdentityRegistry.firstThere files = MacIdentityRegistry.firstThere s.files ∧
          Extends (readTable s.files) (readTable files)))

/-- A start reads every id that was given. -/
theorem Inv.onDisk (hs : s.Inv) {mac : String} {n : Int} (hn : (mac, n) ∈ s.given)
    (hhalf : s.halfWritten = false) (hunsaved : mac ∉ s.unsaved) :
    mac ≠ "index" ∧ (readTable s.files).get? mac = some (some n) := by
  obtain ⟨hne, hget⟩ := hs.inUse.given mac n hn
  exact ⟨hne, hs.saved hhalf mac _ hne hunsaved hget⟩

theorem Inv.restart (hs : s.Inv) (hc : Allowed s .restart) : (s.step .restart).Inv := by
  have hgiven : Records (readTable s.files) s.given := by
    refine hs.wellFormed.regive fun mac n hn => hs.onDisk hn ?_ fun hunsaved => ?_
    · cases hhalf : s.halfWritten with
      | false => rfl
      | true => exact absurd hn (by rw [hc.1 hhalf]; exact List.not_mem_nil)
    · exact hc.2 mac hunsaved n hn
  exact ⟨hs.wellFormed, fun _ => rfl, nofun, hgiven, fun _ _ _ _ _ h => h⟩

theorem Inv.fileChanged (hs : s.Inv) {path : RegistryPath} {content : RegistryFile}
    (hc : Allowed s (.fileChanged path content)) : (s.step (.fileChanged path content)).Inv := by
  obtain ⟨hwell, hc⟩ := hc
  have hpath : ∀ p, s.registry.pathMacFile = some p → MacIdentityRegistry.firstThere
      (Function.update s.files path content) = some p := by
    intro p hp
    rcases hc with ⟨hnone, -⟩ | ⟨hfirst, -⟩
    · exact nomatch (hs.unread hnone).symm.trans hp
    · exact hfirst.trans (hs.path p hp)
  cases hread : s.registry.presentClientMacId with
  | none =>
    have hinUse := inUse_of_none (s := s.step (.fileChanged path content)) hread
    refine ⟨hwell, hs.unread, hpath, ?_, fun _ mac v _ _ hv => ?_⟩
    · rw [hinUse]
      rcases hc with ⟨-, hgiven⟩ | ⟨-, hext⟩
      · exact hgiven ▸ hwell
      · refine hwell.regive fun mac n hn => ?_
        obtain ⟨hne, hget⟩ := hs.inUse.given mac n hn
        exact ⟨hne, hext mac _ hne (inUse_of_none hread ▸ hget)⟩
    · rwa [hinUse] at hv
  | some content' =>
    obtain ⟨hnone, -⟩ | ⟨-, hext⟩ := hc
    · exact nomatch hread.symm.trans hnone
    have hinUse : (s.step (.fileChanged path content)).inUse = s.inUse := by
      unfold RegistrySystem.inUse
      rw [show (s.step (.fileChanged path content)).registry.presentClientMacId = _ from hread,
        hread]
      cases content' <;> rfl
    refine ⟨hwell, hs.unread, hpath, hinUse ▸ hs.inUse, fun hhalf mac v hne hunsaved hv => ?_⟩
    exact hext mac v hne (hs.saved hhalf mac v hne hunsaved (hinUse ▸ hv))

theorem Inv.registers (hs : s.Inv) {a : RegistryAction} (hc : Allowed s a)
    (ha : s.registration a = some (clientMac, result)) :
    clientMac ≠ "index" ∧ ∃ outcome, Registers s clientMac outcome result := by
  cases a with
  | addClientMac mac outcome =>
    obtain ⟨rfl, rfl⟩ := Prod.mk.inj (Option.some.inj ha)
    exact ⟨hc, outcome, hs.registers_addClientMac⟩
  | getIdFromMac mac outcome =>
    obtain ⟨rfl, rfl⟩ := Prod.mk.inj (Option.some.inj ha)
    exact ⟨hc, outcome, hs.registers_getIdFromMac⟩
  | _ => cases ha

theorem Inv.step (hs : s.Inv) (a : RegistryAction) (hc : Allowed s a) : (s.step a).Inv := by
  cases a with
  | addClientMac mac outcome => exact hs.registered hc hs.registers_addClientMac
  | getIdFromMac mac outcome => exact hs.registered hc hs.registers_getIdFromMac
  | getMacFromId n => exact hs.loads.inv
  | restart => exact hs.restart hc
  | fileChanged path content => exact hs.fileChanged hc

/-- No id is given to two MAC addresses, no MAC address is given two ids, one that was given an id is
given it again, and what a registration refuses it leaves as it was. An id that was given is in the
file that a start reads, once its entry is saved. -/
theorem ids_stable (as : List RegistryAction) (h : Meets RegistrySystem.step Allowed {} as) :
    (∀ mac mac' n n', (mac, n) ∈ (run RegistrySystem.step {} as).given →
      (mac', n') ∈ (run RegistrySystem.step {} as).given → (mac = mac' ↔ n = n')) ∧
    (∀ pre a post, as = pre ++ a :: post → ∀ mac result,
      (run RegistrySystem.step {} pre).registration a = some (mac, result) →
      (∀ n, (mac, n) ∈ (run RegistrySystem.step {} pre).given → result.1 = .id n) ∧
      (result.1 = .raised ∨ result.1 = .notANumber →
        result.2 = ((run RegistrySystem.step {} pre).registry.loaded
          (run RegistrySystem.step {} pre).files, (run RegistrySystem.step {} pre).files))) ∧
    ((run RegistrySystem.step {} as).halfWritten = false →
      ∀ mac n, (mac, n) ∈ (run RegistrySystem.step {} as).given →
        mac ∉ (run RegistrySystem.step {} as).unsaved →
        (readTable (run RegistrySystem.step {} as).files).get? mac = some (some n)) := by
  have hinv {bs : List RegistryAction} (hm : Meets RegistrySystem.step Allowed {} bs) :
      (run RegistrySystem.step {} bs).Inv :=
    run_invariant (I := Inv) (fun s a hs hc => hs.step a hc) inv_init hm
  refine ⟨fun mac mac' n n' => (hinv h).inUse.consistent, ?_, fun hhalf mac n hn hunsaved =>
    ((hinv h).onDisk hn hhalf hunsaved).2⟩
  rintro pre a post rfl mac result ha
  obtain ⟨hpre, hc, -⟩ := (meets_append _ pre (a :: post)).1 h
  obtain ⟨-, outcome, hreg⟩ := (hinv hpre).registers hc ha
  exact ⟨fun n hn => hreg.again (hinv hpre) hn, hreg.unchanged⟩

/-- The entry whose save failed is saved with that of the next board, before the restart. -/
theorem ids_stable_restart :
    let as : List RegistryAction := [.addClientMac "a" .notOpened, .getIdFromMac "a" .notOpened,
      .addClientMac "b" .saved, .restart]
    (readTable (run RegistrySystem.step {} as).files).get? "a" = some (some 0) ∧
      ((run RegistrySystem.step {} as).registry.getIdFromMac (run RegistrySystem.step {} as).files
        "a" .notWritten).1 = .id 0 := by
  intro as
  have hbefore : (run RegistrySystem.step {} (as.take 3)).halfWritten = false ∧
      (run RegistrySystem.step {} (as.take 3)).unsaved = [] := by
    decide +kernel
  have hgiven : ("a", 0) ∈ (run RegistrySystem.step {} as).given := by
    rw [show (run RegistrySystem.step {} as).given = [("a", 0), ("b", 1)] by decide +kernel]
    exact List.mem_cons_self
  have hrestart : Allowed (run RegistrySystem.step {} (as.take 3)) .restart := by
    refine ⟨fun hhalf => (nomatch hbefore.1.symm.trans hhalf), ?_⟩
    rw [hbefore.2]
    exact fun mac => nofun
  have hmac : "a" ≠ "index" := by decide
  have hmeets : Meets RegistrySystem.step Allowed {} (as ++ [.getIdFromMac "a" .notWritten]) :=
    ⟨hmac, hmac, (by decide : "b" ≠ "index"), hrestart, hmac, trivial⟩
  constructor
  · exact (ids_stable as ((meets_append _ as _).1 hmeets).1).2.2 rfl "a" 0 hgiven List.not_mem_nil
  · exact ((ids_stable _ hmeets).2.1 as _ [] rfl "a" _ rfl).1 0 hgiven

/-- The file is gone when the server starts again, and another board gets the same id. -/
theorem ids_reused_after_loss :
    let as : List RegistryAction := [.addClientMac "a" .saved, .restart,
      .fileChanged .package .missing, .addClientMac "b" .saved]
    (run RegistrySystem.step {} as).given = [("a", 0), ("b", 0)] ∧
      ¬ ∀ mac mac' n n', (mac, n) ∈ (run RegistrySystem.step {} as).given →
        (mac', n') ∈ (run RegistrySystem.step {} as).given → (mac = mac' ↔ n = n') := by
  have hgiven : (run RegistrySystem.step {} [.addClientMac "a" .saved, .restart,
      .fileChanged .package .missing, .addClientMac "b" .saved]).given = [("a", 0), ("b", 0)] := by
    decide +kernel
  refine ⟨hgiven, fun h => ?_⟩
  rw [hgiven] at h
  have hab := (h "a" "b" 0 0 (.head _) (.tail _ (.head _))).2 rfl
  exact absurd hab (by decide)

end RegistrySystem

end MultiDAQ.Server
