import MultiDAQ.Lib.PyInt
import MultiDAQ.Server.ClientFolders
import Mathlib.Data.List.Forall2

/-!
# Which clients share a folder

The characters of an id that are not safe in a name are all replaced by the same one, so that two
ids have the same folder when they differ in such characters only. Nothing replaces a dot: the ids
"." and ".." name the root of the session and the folder that it is in.
-/

namespace MultiDAQ.Server

open MultiDAQ.Lib

/-! ## Paths -/

/-- The folder that a path leads to. -/
def resolvePath (path : FolderPath) : FolderPath :=
  path.foldl (fun folder part => if part = ['.', '.'] then folder.dropLast else folder ++ [part]) []

/-- The folder is in the other one, or in a folder in it. -/
def StrictlyInside (root folder : FolderPath) : Prop :=
  ∃ rest, rest ≠ [] ∧ resolvePath folder = resolvePath root ++ rest

theorem resolvePath_append_single (root : FolderPath) (part : List Char) :
    resolvePath (root ++ [part]) =
      if part = ['.', '.'] then (resolvePath root).dropLast else resolvePath root ++ [part] := by
  rw [resolvePath, List.foldl_append]
  rfl

theorem strictlyInside_append_single {root : FolderPath} {part : List Char} :
    StrictlyInside root (root ++ [part]) ↔ part ≠ ['.', '.'] := by
  rw [StrictlyInside, resolvePath_append_single]
  constructor
  · rintro ⟨rest, hrest, heq⟩ rfl
    rw [if_pos rfl] at heq
    have hlen := congrArg List.length heq
    have := List.length_pos_iff.2 hrest
    simp at hlen
    omega
  · intro hne
    exact ⟨[part], List.cons_ne_nil _ _, if_neg hne⟩

theorem not_strictlyInside_self (root : FolderPath) : ¬StrictlyInside root root := by
  rintro ⟨rest, hrest, heq⟩
  exact hrest (List.self_eq_append_right.1 heq)

theorem joinPath_of_name {root : FolderPath} {name : List Char} (hslash : '/' ∉ name)
    (hne : name ≠ []) : joinPath root name = if name = ['.'] then root else root ++ [name] := by
  have hhead : name.head? ≠ some '/' := fun h => hslash (List.mem_of_mem_head? h)
  rw [joinPath, if_neg hhead, pathParts, List.splitOn_eq_singleton hslash]
  by_cases hdot : name = ['.'] <;> simp [hdot, hne]

/-! ## Names -/

section Names

variable (isalnum : Char → Bool)

/-- A character that stands for several others in a name. -/
def Blurred (c : Char) : Prop := c = '_' ∨ isSafe isalnum c = false

/-- Two texts that differ in such characters only. -/
def LookAlike (s t : List Char) : Prop :=
  List.Forall₂ (fun c d => c = d ∨ Blurred isalnum c ∧ Blurred isalnum d) s t

theorem safe_underscore : isSafe isalnum '_' = true := by
  simp [isSafe]

theorem replaced_eq_iff (c d : Char) :
    ((if isSafe isalnum c then c else '_') = if isSafe isalnum d then d else '_') ↔
      c = d ∨ Blurred isalnum c ∧ Blurred isalnum d := by
  have hunderscore := safe_underscore isalnum
  unfold Blurred
  by_cases hc : isSafe isalnum c = true <;> by_cases hd : isSafe isalnum d = true <;> grind

/-- Two texts are named alike exactly when they look alike. -/
theorem safeIdentity_eq_iff {s t : List Char} :
    safeIdentity isalnum s = safeIdentity isalnum t ↔ LookAlike isalnum s t := by
  unfold safeIdentity LookAlike
  rw [← List.forall₂_eq_eq_eq, List.forall₂_map_left_iff, List.forall₂_map_right_iff]
  exact ⟨fun h => h.imp fun c d => (replaced_eq_iff isalnum c d).1,
    fun h => h.imp fun c d => (replaced_eq_iff isalnum c d).2⟩

/-- A name of dots is that of a text of dots. -/
theorem safeIdentity_eq_dots {text dots : List Char} (hdots : ∀ c ∈ dots, c = '.') :
    safeIdentity isalnum text = dots ↔ text = dots := by
  have hkept {text : List Char} (h : ∀ c ∈ text, (if isSafe isalnum c then c else '_') = '.') :
      safeIdentity isalnum text = text := by
    unfold safeIdentity
    conv_rhs => rw [← List.map_id text]
    refine List.map_congr_left fun c hc => ?_
    have hdot := h c hc
    split at hdot
    next hsafe => rw [if_pos hsafe, id]
    next => exact absurd hdot (by decide)
  constructor
  · intro h
    have hall : ∀ c ∈ text, (if isSafe isalnum c then c else '_') = '.' := by
      intro c hc
      exact hdots _ (h ▸ List.mem_map_of_mem hc)
    rwa [hkept hall] at h
  · rintro rfl
    refine hkept fun c hc => ?_
    rw [hdots c hc]
    simp [isSafe]

theorem slash_not_mem_safeIdentity (hslash : isalnum '/' = false) (text : List Char) :
    '/' ∉ safeIdentity isalnum text := by
  intro hmem
  obtain ⟨c, -, hc⟩ := List.mem_map.1 hmem
  split at hc
  next hsafe =>
    rw [hc] at hsafe
    simp [isSafe, hslash] at hsafe
  next => exact absurd hc (by decide)

/-! ## Folders -/

/-- The two folders lead to different places, and both are in the root of the session. -/
structure KeptApart (root a b : FolderPath) : Prop where
  distinct : resolvePath a ≠ resolvePath b
  inside_left : StrictlyInside root a
  inside_right : StrictlyInside root b

variable {isalnum}

theorem resolveClientFolder_eq_some {root folder : FolderPath} {mkdir : FolderPath → Bool}
    {clientId : ClientId}
    (h : resolveClientFolder isalnum (some root) mkdir clientId = some folder) :
    safeIdentity isalnum (clientText clientId) ≠ [] ∧
      folder = joinPath root (safeIdentity isalnum (clientText clientId)) := by
  simp only [resolveClientFolder] at h
  split at h
  · cases h
  next hname =>
    split at h
    · cases h
      exact ⟨hname, rfl⟩
    · cases h

/-- Where a folder leads to, and when it is in the root. -/
theorem clientFolder_resolved (hslash : isalnum '/' = false) {root folder : FolderPath}
    {mkdir : FolderPath → Bool} {clientId : ClientId}
    (h : resolveClientFolder isalnum (some root) mkdir clientId = some folder) :
    (StrictlyInside root folder ↔ clientText clientId ≠ ['.'] ∧ clientText clientId ≠ ['.', '.']) ∧
      (StrictlyInside root folder → resolvePath folder =
        resolvePath root ++ [safeIdentity isalnum (clientText clientId)]) := by
  obtain ⟨hname, rfl⟩ := resolveClientFolder_eq_some h
  have hdot := @safeIdentity_eq_dots isalnum (clientText clientId) ['.'] (by simp)
  have hdots := @safeIdentity_eq_dots isalnum (clientText clientId) ['.', '.'] (by simp)
  rw [joinPath_of_name (slash_not_mem_safeIdentity isalnum hslash _) hname]
  split
  next hroot =>
    have hnot := not_strictlyInside_self root
    exact ⟨iff_of_false hnot fun h => h.1 (hdot.1 hroot), fun h => absurd h hnot⟩
  next hroot =>
    rw [strictlyInside_append_single, ne_eq, ne_eq, ne_eq, ← hdot, ← hdots, and_iff_right hroot]
    refine ⟨Iff.rfl, fun hin => ?_⟩
    rw [resolvePath_append_single, if_neg hin]

variable (isalnum)

/-- **The folders of two clients.** Whatever the root of the session and the ids of two clients for
which a folder is computed: the folders are different and both inside the root, if and only if the
ids, as texts, differ in more than characters that are replaced by an underscore, and neither of
them is "." or "..". -/
theorem folders_keptApart_iff (hslash : isalnum '/' = false) (root : FolderPath)
    (mkdir : FolderPath → Bool) (a b : ClientId) (folderA folderB : FolderPath)
    (ha : resolveClientFolder isalnum (some root) mkdir a = some folderA)
    (hb : resolveClientFolder isalnum (some root) mkdir b = some folderB) :
    KeptApart root folderA folderB ↔
      ¬LookAlike isalnum (clientText a) (clientText b) ∧
        ∀ text ∈ [clientText a, clientText b], text ≠ ['.'] ∧ text ≠ ['.', '.'] := by
  obtain ⟨hinA, hpathA⟩ := clientFolder_resolved hslash ha
  obtain ⟨hinB, hpathB⟩ := clientFolder_resolved hslash hb
  have hdistinct (hA : StrictlyInside root folderA) (hB : StrictlyInside root folderB) :
      resolvePath folderA = resolvePath folderB ↔
        LookAlike isalnum (clientText a) (clientText b) := by
    rw [hpathA hA, hpathB hB, List.append_cancel_left_eq, List.singleton_inj, safeIdentity_eq_iff]
  rw [List.forall_mem_cons, List.forall_mem_singleton, ← hinA, ← hinB]
  constructor
  · rintro ⟨hne, hA, hB⟩
    exact ⟨mt (hdistinct hA hB).2 hne, hA, hB⟩
  · rintro ⟨hne, hA, hB⟩
    exact ⟨mt (hdistinct hA hB).1 hne, hA, hB⟩

end Names

/-! ## Three clients -/

theorem clientText_of_encode {bytes : ClientId} {text : List Char} (h : bytes = utf8Encode text) :
    clientText bytes = text := by
  rw [clientText, utf8Decode_eq_some.2 h]
  rfl

/-- The ids "a/b" and "c/d": in both a character is replaced, and they differ in the letters. -/
theorem folders_keptApart_letters :
    KeptApart [['d']] [['d'], ['a', '_', 'b']] [['d'], ['c', '_', 'd']] := by
  have hab : clientText [97, 47, 98] = ['a', '/', 'b'] := clientText_of_encode (by decide)
  have hcd : clientText [99, 47, 100] = ['c', '/', 'd'] := clientText_of_encode (by decide)
  refine (folders_keptApart_iff Char.isAlphanum (by decide) [['d']] (fun _ => true)
    [97, 47, 98] [99, 47, 100] _ _ ?_ ?_).2 ?_
  · rw [resolveClientFolder, hab]
    rfl
  · rw [resolveClientFolder, hcd]
    rfl
  · rw [hab, hcd]
    refine ⟨fun h => ?_, by decide⟩
    obtain _ | ⟨h, -⟩ := h
    revert h
    simp [Blurred, isSafe]

/-- The ids "a/b" and "a_b" have one folder, and that of ".." is outside the root. -/
theorem folders_shared :
    let folder := resolveClientFolder Char.isAlphanum (some [['d']]) fun _ => true
    folder [97, 47, 98] = some [['d'], ['a', '_', 'b']] ∧
      folder [97, 95, 98] = some [['d'], ['a', '_', 'b']] ∧
      folder [46, 46] = some [['d'], ['.', '.']] ∧
      ¬StrictlyInside [['d']] [['d'], ['.', '.']] := by
  intro folder
  have hslash : clientText [97, 47, 98] = ['a', '/', 'b'] := clientText_of_encode (by decide)
  have hunderscore : clientText [97, 95, 98] = ['a', '_', 'b'] := clientText_of_encode (by decide)
  have hdots : clientText [46, 46] = ['.', '.'] := clientText_of_encode (by decide)
  refine ⟨?_, ?_, ?_, fun h => ?_⟩
  · show resolveClientFolder _ _ _ _ = _
    rw [resolveClientFolder, hslash]
    decide
  · show resolveClientFolder _ _ _ _ = _
    rw [resolveClientFolder, hunderscore]
    decide
  · show resolveClientFolder _ _ _ _ = _
    rw [resolveClientFolder, hdots]
    decide
  · exact (@strictlyInside_append_single [['d']] ['.', '.']).1 h rfl

end MultiDAQ.Server
