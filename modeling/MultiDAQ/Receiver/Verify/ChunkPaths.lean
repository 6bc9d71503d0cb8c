import Mathlib.Data.List.Nodup
import Mathlib.Data.List.Perm.Subperm
import MultiDAQ.Receiver.Verify.Encoding
import MultiDAQ.Receiver.Verify.FilePath

/-!
# The chunks of the acquisitions of a folder

The service numbers a name that exists, the receiver puts the tag of a chunk after the number. So
the chunks of two acquisitions go to the same files if the suffix of one ends like the number of the
other, and in no other case (`FileName.separate_iff`). In a folder no chunk is opened over a file of
another acquisition if and only if no request makes such a name (`neverCollide_iff`).
-/

namespace MultiDAQ.Receiver

/-! ## Probing -/

section Probe

variable {files : List Path} {path : Nat → Path}

theorem le_probe (fuel i : Nat) : i ≤ probe files path fuel i := by
  induction fuel generalizing i with
  | zero => exact Nat.le_refl i
  | succ fuel ih =>
    rw [probe]
    split
    · exact Nat.le_trans (Nat.le_succ i) (ih (i + 1))
    · exact Nat.le_refl i

/-- The numbers before the one that is found are taken. -/
theorem mem_of_lt_probe {fuel i j : Nat} (hij : i ≤ j) (hj : j < probe files path fuel i) :
    path j ∈ files := by
  induction fuel generalizing i with
  | zero => exact absurd hj (Nat.not_lt.2 hij)
  | succ fuel ih =>
    rw [probe] at hj
    split at hj
    · next hmem =>
      rcases Nat.eq_or_lt_of_le hij with rfl | hlt
      · exact hmem
      · exact ih hlt hj
    · exact absurd hj (Nat.not_lt.2 hij)

/-- Where the search stops at a taken path, it went through all its fuel. -/
theorem probe_eq_of_mem {fuel i : Nat} (h : path (probe files path fuel i) ∈ files) :
    probe files path fuel i = i + fuel := by
  induction fuel generalizing i with
  | zero => rfl
  | succ fuel ih =>
    rw [probe] at h ⊢
    split
    · next hmem =>
      rw [if_pos hmem] at h
      rw [ih h]
      omega
    · next hmem =>
      rw [if_neg hmem] at h
      exact absurd h hmem

theorem probe_notMem (hpath : Function.Injective path) (i : Nat) :
    path (probe files path files.length i) ∉ files := by
  intro hmem
  have hlast := probe_eq_of_mem hmem
  have htaken : ∀ k < files.length + 1, path (i + k) ∈ files := by
    intro k hk
    rcases Nat.lt_or_eq_of_le (Nat.le_of_lt_succ hk) with hlt | rfl
    · exact mem_of_lt_probe (Nat.le_add_right i k) (hlast ▸ Nat.add_lt_add_left hlt i)
    · rw [← hlast]
      exact hmem
  have hnodup : ((List.range (files.length + 1)).map fun k => path (i + k)).Nodup :=
    List.nodup_range.map fun k l h => Nat.add_left_cancel (hpath h)
  have hsub : ((List.range (files.length + 1)).map fun k => path (i + k)) ⊆ files := by
    intro p hp
    obtain ⟨k, hk, rfl⟩ := List.mem_map.1 hp
    exact htaken k (List.mem_range.1 hk)
  have hle := (hnodup.subperm hsub).length_le
  rw [List.length_map, List.length_range] at hle
  omega

end Probe

/-! ## Names -/

theorem last_sep_inj {c : Char} {x y z w : Path} (hz : c ∉ z) (hw : c ∉ w)
    (h : x ++ c :: z = y ++ c :: w) : x = y ∧ z = w := by
  have hlen := congrArg (strrchr c) h
  rw [strrchr_append hz, strrchr_append hw] at hlen
  obtain ⟨hxy, hzw⟩ := List.append_inj h (Option.some.inj hlen)
  exact ⟨hxy, (List.cons.inj hzw).2⟩

theorem OutputFormat.dot_notMem_ext (format : OutputFormat) : '.' ∉ format.ext := by
  cases format <;> decide

theorem OutputFormat.ext_injective : Function.Injective OutputFormat.ext := by
  intro f g h
  cases f <;> cases g <;> first | rfl | exact absurd h (by decide)

theorem underscore_notMem_decimal3 (i : Nat) : '_' ∉ decimal3 i := by
  intro h
  rcases List.mem_append.1 h with h | h
  · exact absurd (List.eq_of_mem_replicate h) (by decide)
  · exact not_mem_decimal (by decide) i h

theorem underscore_notMem_chunk (i : Nat) : '_' ∉ "chunk".toList ++ decimal3 i := by
  intro h
  rcases List.mem_append.1 h with h | h
  · exact absurd h (by decide)
  · exact underscore_notMem_decimal3 i h

theorem chunkTag_eq : chunkTag = '_' :: "chunk".toList := by decide

theorem first_chunk_eq : "_chunk000".toList = chunkTag ++ decimal3 0 := by decide

/-- The number of a chunk and what stands before its tag. -/
theorem chunk_tail_inj {x y : Path} {i j : Nat}
    (h : x ++ chunkTag ++ decimal3 i = y ++ chunkTag ++ decimal3 j) : x = y ∧ i = j := by
  rw [chunkTag_eq, List.append_assoc, List.append_assoc, List.cons_append, List.cons_append] at h
  obtain ⟨hxy, htail⟩ := last_sep_inj (underscore_notMem_chunk i) (underscore_notMem_chunk j) h
  exact ⟨hxy, decimal3_injective (List.append_cancel_left htail)⟩

/-- A stem that ends with a number is not one that ends with a tag. -/
theorem chunk_tail_ne_number {x y : Path} {i k : Nat} :
    x ++ chunkTag ++ decimal3 i ≠ y ++ '_' :: decimal k := by
  intro h
  rw [chunkTag_eq, List.append_assoc, List.cons_append] at h
  have htail := (last_sep_inj (underscore_notMem_chunk i) (not_mem_decimal (by decide) k) h).2
  have hmem : 'c' ∈ decimal k := htail ▸ List.mem_append_left _ (by decide)
  exact not_mem_decimal (by decide) k hmem

theorem decimal_injective : Function.Injective decimal := by
  intro k l h
  have hvalue (n : Nat) : Nat.ofDigitChars 10 (decimal n) 0 = n := Nat.ofDigitChars_ten_toDigits
  rw [← hvalue k, ← hvalue l, h]

namespace FileName

variable {runFolder : Path} {a b : FileName}

/-- The number as it stands in a name. -/
def numberPart : Option Nat → Path
  | none => []
  | some k => "_chunk000".toList ++ '_' :: decimal k

def suffixPart (suffix : Path) : Path := if suffix = [] then [] else '_' :: suffix

/-- The name without its last tag and its extension. -/
def root (runFolder : Path) (name : FileName) : Path :=
  runFolder ++ "/daq_".toList ++ name.timestamp ++ suffixPart name.suffix ++ numberPart name.number

theorem stem_eq (name : FileName) :
    name.stem runFolder =
      name.root runFolder ++ if name.number = none then "_chunk000".toList else [] := by
  unfold stem root fileStem numberPart suffixPart
  cases name.number with
  | none => simp
  | some k => simp

theorem stem_of_number {name : FileName} {k : Nat} (h : name.number = some k) :
    name.stem runFolder = name.root runFolder := by
  rw [stem_eq, if_neg (h ▸ Option.some_ne_none k), List.append_nil]

theorem chunkPath_path (name : FileName) (i : Nat) :
    chunkPath (name.path runFolder) i =
      name.root runFolder ++ chunkTag ++ decimal3 i ++ '.' :: name.format.ext := by
  have hext := name.format.dot_notMem_ext
  unfold chunkPath path
  rw [strrchr_append hext]
  simp only [List.drop_left]
  cases hnumber : name.number with
  | none =>
    have hstem : name.stem runFolder = name.root runFolder ++ "_chunk000".toList := by
      rw [stem_eq, if_pos hnumber]
    have hlen : (name.stem runFolder).length = (name.root runFolder).length + chunkSuffixLen := by
      rw [hstem, List.length_append]
      rfl
    rw [if_pos]
    · rw [hlen, Nat.add_sub_cancel, hstem, List.append_assoc _ "_chunk000".toList, List.take_left]
    · refine ⟨hlen ▸ Nat.le_add_left _ _, ?_⟩
      rw [hlen, Nat.add_sub_cancel, hstem, List.append_assoc _ "_chunk000".toList, List.drop_left]
      rfl
  | some k =>
    have hstem : name.stem runFolder = name.root runFolder := stem_of_number hnumber
    rw [if_neg]
    · rw [List.take_left, hstem]
    · rintro ⟨hle, htag⟩
      have hrest : ((name.stem runFolder).drop
          ((name.stem runFolder).length - chunkSuffixLen)).length = 9 := by
        rw [List.length_drop]
        exact Nat.sub_sub_self hle
      rw [List.drop_append_of_le_length (Nat.sub_le _ _),
        List.take_append_of_le_length (by rw [hrest]; decide)] at htag
      have hparts := List.take_append_drop ((name.stem runFolder).length - chunkSuffixLen)
        (name.stem runFolder)
      rw [← List.take_append_drop chunkTag.length ((name.stem runFolder).drop _), htag,
        ← List.append_assoc] at hparts
      have hnumbered : name.stem runFolder =
          fileStem runFolder name.timestamp name.suffix (some k) := by
        rw [stem, hnumber]
      refine chunkTag_not_before_number (hnumbered.symm.trans hparts.symm) ?_
      rw [List.length_drop, hrest]
      rfl

theorem root_of_number {name : FileName} {k : Nat} (h : name.number = some k) :
    ∃ x, name.root runFolder = x ++ '_' :: decimal k := by
  refine ⟨runFolder ++ "/daq_".toList ++ name.timestamp ++ suffixPart name.suffix ++
    "_chunk000".toList, ?_⟩
  rw [root, h]
  exact (List.append_assoc ..).symm

/-- The name of a chunk without its extension. -/
def chunkStem (runFolder : Path) (name : FileName) : Nat → Path
  | 0 => name.stem runFolder
  | i + 1 => name.root runFolder ++ chunkTag ++ decimal3 (i + 1)

theorem chunkName_path (name : FileName) (i : Nat) :
    chunkName (name.path runFolder) i = name.chunkStem runFolder i ++ '.' :: name.format.ext := by
  cases i with
  | zero => rfl
  | succ i => exact chunkPath_path name (i + 1)

/-- Only the first chunk of a numbered name ends with no tag. -/
theorem chunkStem_eq (runFolder : Path) (name : FileName) (i : Nat) :
    name.chunkStem runFolder i = name.root runFolder ++ chunkTag ++ decimal3 i ∨
      i = 0 ∧ name.chunkStem runFolder i = name.root runFolder ∧
        ∃ x k, name.root runFolder = x ++ '_' :: decimal k := by
  cases i with
  | succ i => exact .inl rfl
  | zero =>
    cases hnumber : name.number with
    | none =>
      refine .inl ?_
      rw [chunkStem, stem_eq, if_pos hnumber, first_chunk_eq, List.append_assoc]
    | some k =>
      obtain ⟨x, hroot⟩ : ∃ x, name.root runFolder = x ++ '_' :: decimal k :=
        root_of_number hnumber
      exact .inr ⟨rfl, stem_of_number hnumber, x, k, hroot⟩

/-- Two chunks of one path have the same root. -/
theorem root_eq_of_chunkStem {i j : Nat} (h : a.chunkStem runFolder i = b.chunkStem runFolder j) :
    a.root runFolder = b.root runFolder := by
  have ha := chunkStem_eq runFolder a i
  have hb := chunkStem_eq runFolder b j
  rcases ha with ha | ⟨-, ha, x, k, hx⟩ <;> rcases hb with hb | ⟨-, hb, y, l, hy⟩
  · rw [ha, hb] at h
    exact (chunk_tail_inj h).1
  · rw [ha, hb, hy] at h
    exact absurd h chunk_tail_ne_number
  · rw [ha, hb, hx] at h
    exact absurd h.symm chunk_tail_ne_number
  · rw [ha, hb] at h
    exact h

theorem parted_eq_iff {p t t' s s' n n' : Path} (hlen : t.length = t'.length) :
    p ++ t ++ s ++ n = p ++ t' ++ s' ++ n' ↔ t = t' ∧ s ++ n = s' ++ n' := by
  rw [List.append_assoc _ s, List.append_assoc _ s', List.append_assoc, List.append_assoc p t',
    List.append_cancel_left_eq]
  exact ⟨fun h => List.append_inj h hlen, fun ⟨ht, hs⟩ => by rw [ht, hs]⟩

theorem root_eq_iff :
    a.root runFolder = b.root runFolder ↔ a.timestamp = b.timestamp ∧
      suffixPart a.suffix ++ numberPart a.number = suffixPart b.suffix ++ numberPart b.number := by
  have hlen : a.timestamp.length = b.timestamp.length :=
    a.length_timestamp.trans b.length_timestamp.symm
  exact parted_eq_iff hlen

/-- A suffix that ends like the numbered name of another acquisition. -/
def Extends (a b : FileName) : Prop :=
  a.number = none ∧ ∃ k, b.number = some k ∧
    suffixPart a.suffix = suffixPart b.suffix ++ numberPart (some k)

/-- Two names of one minute and format that are the same up to the tag of the chunks. -/
def Clash (a b : FileName) : Prop :=
  a.timestamp = b.timestamp ∧ a.format = b.format ∧
    ((a.suffix = b.suffix ∧ a.number = b.number) ∨ Extends a b ∨ Extends b a)

theorem suffixPart_injective : Function.Injective suffixPart := by
  intro s t h
  unfold suffixPart at h
  split at h <;> split at h
  · next hs ht => rw [hs, ht]
  · cases h
  · cases h
  · exact (List.cons.inj h).2

theorem numberPart_none : numberPart none = [] := rfl

theorem numbered_inj {x y : Path} {k l : Nat}
    (h : x ++ numberPart (some k) = y ++ numberPart (some l)) : x = y ∧ k = l := by
  have hassoc : x ++ "_chunk000".toList ++ '_' :: decimal k =
      y ++ "_chunk000".toList ++ '_' :: decimal l := by
    rw [List.append_assoc, List.append_assoc]
    exact h
  obtain ⟨hxy, hkl⟩ := last_sep_inj (not_mem_decimal (by decide) k)
    (not_mem_decimal (by decide) l) hassoc
  exact ⟨List.append_cancel_right hxy, decimal_injective hkl⟩

theorem parts_eq_iff :
    suffixPart a.suffix ++ numberPart a.number = suffixPart b.suffix ++ numberPart b.number ↔
      (a.suffix = b.suffix ∧ a.number = b.number) ∨ Extends a b ∨ Extends b a := by
  unfold Extends
  cases ha : a.number with
  | none =>
    cases hb : b.number with
    | none =>
      simp only [numberPart_none, List.append_nil, suffixPart_injective.eq_iff, and_true,
        reduceCtorEq, false_and, exists_false, and_false, or_false]
    | some l =>
      simp only [numberPart_none, List.append_nil, reduceCtorEq, and_false, false_and, or_false,
        false_or, true_and, Option.some.injEq, exists_eq_left']
  | some k =>
    cases hb : b.number with
    | none =>
      simp only [numberPart_none, List.append_nil, reduceCtorEq, and_false, false_and, false_or,
        true_and, Option.some.injEq, exists_eq_left']
      exact eq_comm
    | some l =>
      constructor
      · intro h
        obtain ⟨hs, rfl⟩ := numbered_inj h
        exact .inl ⟨suffixPart_injective hs, rfl⟩
      · rintro (⟨hs, hk⟩ | ⟨hk, -⟩ | ⟨hl, -⟩)
        · rw [hs, hk]
        · cases hk
        · cases hl

theorem path_eq_iff_stem (h : a.format = b.format) :
    a.path runFolder = b.path runFolder ↔ a.stem runFolder = b.stem runFolder := by
  unfold path
  rw [h]
  exact List.append_left_inj _

/-- The chunks of two names go to different files unless the names clash. -/
theorem separate_iff : (∀ i j, chunkName (a.path runFolder) i ≠ chunkName (b.path runFolder) j) ↔
    ¬ Clash a b := by
  rw [Clash, ← parts_eq_iff]
  constructor
  · rintro h ⟨htimestamp, hformat, hparts⟩
    refine h 1 1 ?_
    rw [chunkName_path, chunkName_path, chunkStem, chunkStem, hformat,
      root_eq_iff.2 ⟨htimestamp, hparts⟩]
  · intro h i j heq
    rw [chunkName_path, chunkName_path] at heq
    obtain ⟨hstem, hext⟩ := last_sep_inj a.format.dot_notMem_ext b.format.dot_notMem_ext heq
    obtain ⟨htimestamp, hparts⟩ := root_eq_iff.1 (root_eq_of_chunkStem hstem)
    exact h ⟨htimestamp, OutputFormat.ext_injective hext, hparts⟩

/-- A later chunk does not go to the file that another acquisition opened. -/
theorem chunkPath_ne_path {i : Nat} (hi : 0 < i) :
    chunkPath (a.path runFolder) i ≠ b.path runFolder := by
  intro h
  rw [chunkPath_path] at h
  have hstem := (last_sep_inj a.format.dot_notMem_ext b.format.dot_notMem_ext h).1
  rcases chunkStem_eq runFolder b 0 with hb | ⟨-, hb, x, k, hx⟩
  · exact absurd (chunk_tail_inj (hstem.trans hb)).2 (Nat.ne_of_gt hi)
  · exact chunk_tail_ne_number ((hstem.trans hb).trans hx)

/-- `INT_MAX`, the last number of a chunk. -/
def intMax : Nat := 2 ^ 31 - 1

theorem rolloverPath_path (name : FileName) (h : (name.path runFolder).length < basePathSize)
    {i : Nat} (hi : i ≤ intMax) :
    rolloverPath (name.path runFolder) i = chunkPath (name.path runFolder) i := by
  have hdecimal : (decimal i).length ≤ 10 :=
    decimal_length (Nat.lt_succ_of_le hi) (by decide) (by decide)
  have hroot : (name.root runFolder).length ≤ (name.stem runFolder).length := by
    rw [stem_eq, List.length_append]
    exact Nat.le_add_right _ _
  unfold rolloverPath
  rw [List.take_of_length_le (Nat.le_sub_one_of_lt h), List.take_of_length_le]
  rw [chunkPath_path]
  simp only [path, basePathSize, List.length_append, List.length_cons] at h
  simp only [List.length_append, List.length_cons, decimal3, List.length_replicate,
    show chunkTag.length = 6 from rfl, newPathSize]
  omega

end FileName

/-! ## The acquisitions of a folder -/

section Folder

open FileName

variable {runFolder : Path}

/-- The first number whose path does not exist. -/
def FirstFree (runFolder : Path) (request : FileRequest) : Option Nat → Prop
  | none => (request.numbered none).path runFolder ∉ request.files
  | some k => (request.numbered none).path runFolder ∈ request.files ∧ 0 < k ∧
      (∀ j, 0 < j → j < k → (request.numbered (some j)).path runFolder ∈ request.files) ∧
      (request.numbered (some k)).path runFolder ∉ request.files

theorem numbered_path_injective (request : FileRequest) :
    Function.Injective fun k => (request.numbered (some k)).path runFolder := by
  intro k l h
  have hpath : (request.numbered (some k)).path runFolder =
      (request.numbered (some l)).path runFolder := h
  have hformat : (request.numbered (some k)).format = (request.numbered (some l)).format := rfl
  have hstem := (path_eq_iff_stem hformat).1 hpath
  rw [stem_of_number rfl, stem_of_number rfl] at hstem
  exact (numbered_inj (root_eq_iff.1 hstem).2).2

theorem firstFree_buildFilePath (runFolder : Path) (request : FileRequest) :
    ∃ n, FirstFree runFolder request n ∧ request.buildFilePath runFolder = request.numbered n := by
  unfold FileRequest.buildFilePath
  dsimp only
  split
  · next hmem =>
    refine ⟨some _, ⟨hmem, le_probe _ 1, fun j hj hlt => mem_of_lt_probe hj hlt, ?_⟩, rfl⟩
    exact probe_notMem (numbered_path_injective request) 1
  · next hmem => exact ⟨none, hmem, rfl⟩

theorem firstFree_unique {request : FileRequest} {n m : Option Nat}
    (hn : FirstFree runFolder request n) (hm : FirstFree runFolder request m) : n = m := by
  cases n with
  | none =>
    cases m with
    | none => rfl
    | some l => exact absurd hm.1 hn
  | some k =>
    cases m with
    | none => exact absurd hn.1 hm
    | some l =>
      obtain ⟨-, hk, hbefore, hfree⟩ := hn
      obtain ⟨-, hl, hbefore', hfree'⟩ := hm
      rcases Nat.lt_trichotomy k l with hlt | rfl | hlt
      · exact absurd (hbefore' k hk hlt) hfree
      · rfl
      · exact absurd (hbefore l hl hlt) hfree'

/-- The file that the request opens does not clash with one that is open. -/
def Admissible (runFolder : Path) (opened : List FileName) (request : FileRequest) : Prop :=
  ∀ n, FirstFree runFolder request n →
    ((request.numbered n).path runFolder).length < basePathSize →
      ∀ name ∈ opened, ¬ Clash name (request.numbered n)

/-- Every request of a run is admissible. -/
def Admits (runFolder : Path) : List FileName → List FileRequest → Prop
  | _, [] => True
  | opened, request :: requests =>
    Admissible runFolder opened request ∧
      Admits runFolder (openFile runFolder opened request) requests

/-- The chunks of the acquisitions of a folder. -/
structure NeverCollide (runFolder : Path) (opened : List FileName) : Prop where
  distinct : ∀ name ∈ opened, ∀ i j,
    chunkName (name.path runFolder) i = chunkName (name.path runFolder) j → i = j
  notBase : ∀ name ∈ opened, ∀ other ∈ opened, ∀ i, 0 < i →
    chunkPath (name.path runFolder) i ≠ other.path runFolder
  whole : ∀ name ∈ opened, ∀ i ≤ intMax,
    rolloverPath (name.path runFolder) i = chunkPath (name.path runFolder) i
  separate : opened.Pairwise fun name other => ∀ i j,
    chunkName (name.path runFolder) i ≠ chunkName (other.path runFolder) j

theorem openFile_eq (runFolder : Path) (opened : List FileName) (request : FileRequest) :
    ∃ n, FirstFree runFolder request n ∧ openFile runFolder opened request =
      if ((request.numbered n).path runFolder).length < basePathSize then
        opened ++ [request.numbered n]
      else opened := by
  obtain ⟨n, hfree, hname⟩ := firstFree_buildFilePath runFolder request
  refine ⟨n, hfree, ?_⟩
  unfold openFile
  rw [hname]

theorem prefix_openFile (opened : List FileName) (request : FileRequest) :
    opened <+: openFile runFolder opened request := by
  unfold openFile
  dsimp only
  split
  · exact List.prefix_append _ _
  · exact List.prefix_rfl

theorem prefix_openFiles (requests : List FileRequest) (opened : List FileName) :
    opened <+: requests.foldl (openFile runFolder) opened := by
  induction requests generalizing opened with
  | nil => exact List.prefix_rfl
  | cons request requests ih => exact (prefix_openFile opened request).trans (ih _)

theorem pairwise_openFile_iff {opened : List FileName} {request : FileRequest}
    (h : opened.Pairwise fun a b => ¬ Clash a b) :
    ((openFile runFolder opened request).Pairwise fun a b => ¬ Clash a b) ↔
      Admissible runFolder opened request := by
  obtain ⟨n, hfree, heq⟩ := openFile_eq runFolder opened request
  have hadmissible : Admissible runFolder opened request ↔
      (((request.numbered n).path runFolder).length < basePathSize →
        ∀ name ∈ opened, ¬ Clash name (request.numbered n)) := by
    refine ⟨fun hall => hall n hfree, fun hone m hm => ?_⟩
    rw [firstFree_unique hm hfree]
    exact hone
  rw [hadmissible, heq]
  split
  · next hlt =>
    rw [List.pairwise_append]
    constructor
    · intro hpair _ name hname
      exact hpair.2.2 name hname _ (List.mem_singleton_self _)
    · intro hclash
      refine ⟨h, List.pairwise_singleton _ _, fun name hname other hother => ?_⟩
      rw [List.mem_singleton.1 hother]
      exact hclash hlt name hname
  · next hlt => exact ⟨fun _ hle => absurd hle hlt, fun _ => h⟩

theorem pairwise_openFiles_iff (requests : List FileRequest) {opened : List FileName}
    (h : opened.Pairwise fun a b => ¬ Clash a b) :
    ((requests.foldl (openFile runFolder) opened).Pairwise fun a b => ¬ Clash a b) ↔
      Admits runFolder opened requests := by
  induction requests generalizing opened with
  | nil => exact ⟨fun _ => trivial, fun _ => h⟩
  | cons request requests ih =>
    rw [List.foldl_cons, Admits]
    constructor
    · intro hpair
      have hstep := hpair.sublist (prefix_openFiles requests _).sublist
      exact ⟨(pairwise_openFile_iff h).1 hstep, (ih hstep).1 hpair⟩
    · rintro ⟨hadmissible, hrest⟩
      exact (ih ((pairwise_openFile_iff h).2 hadmissible)).2 hrest

/-- The path of every file that was opened is short enough. -/
theorem length_lt_of_mem_openFiles (runFolder : Path) (requests : List FileRequest)
    {opened : List FileName} (h : ∀ name ∈ opened, (name.path runFolder).length < basePathSize) :
    ∀ name ∈ requests.foldl (openFile runFolder) opened,
      (name.path runFolder).length < basePathSize := by
  induction requests generalizing opened with
  | nil => exact h
  | cons request requests ih =>
    refine ih fun name hname => ?_
    unfold openFile at hname
    dsimp only at hname
    split at hname
    · next hlt =>
      rcases List.mem_append.1 hname with hname | hname
      · exact h name hname
      · rw [List.mem_singleton.1 hname]
        exact hlt
    · exact h name hname

/-- No chunk of an acquisition goes to a file of another one if and only if no name that is opened
clashes with an earlier one. -/
theorem neverCollide_iff (runFolder : Path) (requests : List FileRequest) :
    NeverCollide runFolder (openFiles runFolder requests) ↔ Admits runFolder [] requests := by
  rw [← pairwise_openFiles_iff requests List.Pairwise.nil]
  constructor
  · exact fun h => h.separate.imp fun hab => separate_iff.1 hab
  · intro h
    have hlength := length_lt_of_mem_openFiles runFolder requests (List.forall_mem_nil _)
    refine ⟨fun name _ i j => chunkName_injective ?_, fun name _ other _ i => chunkPath_ne_path,
      fun name hname i => rolloverPath_path name (hlength name hname),
      h.imp fun hab => separate_iff.2 hab⟩
    exact ⟨runFolder, name.timestamp, name.suffix, name.number, name.format, rfl⟩

/-- Three acquisitions of one minute. The second one is numbered, the suffix of the third one ends
like its number. -/
def tripleRequests : List FileRequest :=
  [⟨[], "2026_11_19_13_00".toList, [], .csv, rfl⟩,
    ⟨["/run/daq_2026_11_19_13_00_chunk000.csv".toList], "2026_11_19_13_00".toList, [], .csv, rfl⟩,
    ⟨["/run/daq_2026_11_19_13_00_chunk000.csv".toList,
        "/run/daq_2026_11_19_13_00_chunk000_1.csv".toList,
        "/run/daq_2026_11_19_13_00_chunk000_1_chunk001.csv".toList],
      "2026_11_19_13_00".toList, "chunk000_1".toList, .csv, rfl⟩]

/-- The third acquisition goes on to the file that the second one has gone on to. -/
theorem triple_collide : ¬ NeverCollide "/run".toList (openFiles "/run".toList tripleRequests) := by
  have hopened : openFiles "/run".toList tripleRequests =
      [⟨"2026_11_19_13_00".toList, [], none, .csv, rfl⟩,
        ⟨"2026_11_19_13_00".toList, [], some 1, .csv, rfl⟩,
        ⟨"2026_11_19_13_00".toList, "chunk000_1".toList, none, .csv, rfl⟩] := by
    decide +kernel
  intro h
  have hpair := h.separate
  rw [hopened] at hpair
  have hsecond := (List.pairwise_cons.1 (List.pairwise_cons.1 hpair).2).1
  exact hsecond _ (List.mem_singleton_self _) 1 1 (by decide +kernel)

end Folder

end MultiDAQ.Receiver
