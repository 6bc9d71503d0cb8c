import MultiDAQ.Receiver.FilePath

/-!
# The chunks of an acquisition go to different files

The paths of the chunks of a base path differ from each other, and from a base path that
`_build_file_path` made (`chunkName_injective`).
-/

namespace MultiDAQ.Receiver

/-- The path of a chunk; the first one is the base path itself. -/
def chunkName (baseFilePath : Path) : Nat → Path
  | 0 => baseFilePath
  | i + 1 => chunkPath baseFilePath (i + 1)

/-! ## Numbers in paths -/

theorem decimal3_injective {i j : Nat} (h : decimal3 i = decimal3 j) : i = j := by
  have hvalue (n : Nat) : Nat.ofDigitChars 10 (decimal3 n) 0 = n := by
    rw [decimal3, Nat.ofDigitChars_append, Nat.ofDigitChars_replicate_zero, Nat.mul_zero]
    exact Nat.ofDigitChars_ten_toDigits
  rw [← hvalue i, ← hvalue j, h]

theorem not_mem_decimal {c : Char} (hc : c.isDigit = false) (n : Nat) : c ∉ decimal n := fun h =>
  absurd (Nat.isDigit_of_mem_toDigits (by decide) (by decide) h) (by simp [hc])

/-! ## The parts of a path -/

theorem strrchr_eq_none {c : Char} : ∀ {s : Path}, c ∉ s → strrchr c s = none
  | [], _ => rfl
  | x :: xs, h => by
    have hx : x ≠ c := fun e => h (e ▸ List.mem_cons_self)
    rw [strrchr, strrchr_eq_none fun e => h (List.mem_cons_of_mem _ e)]
    simp [hx]

theorem strrchr_append {c : Char} {ext : Path} (h : c ∉ ext) :
    ∀ stem : Path, strrchr c (stem ++ c :: ext) = some stem.length
  | [] => by
    rw [List.nil_append, strrchr, strrchr_eq_none h]
    simp
  | x :: xs => by
    rw [List.cons_append, strrchr, strrchr_append h xs]
    simp

/-- The chunks of a path differ in their numbers only. -/
theorem chunkPath_parts (baseFilePath : Path) :
    ∃ stem ext : Path, ∀ i, chunkPath baseFilePath i = stem ++ chunkTag ++ decimal3 i ++ ext := by
  unfold chunkPath
  split
  · exact ⟨_, _, fun _ => rfl⟩
  · exact ⟨baseFilePath, [], fun _ => (List.append_nil _).symm⟩

theorem chunkPath_injective {baseFilePath : Path} {i j : Nat}
    (h : chunkPath baseFilePath i = chunkPath baseFilePath j) : i = j := by
  obtain ⟨stem, ext, hparts⟩ := chunkPath_parts baseFilePath
  rw [hparts, hparts] at h
  exact decimal3_injective (List.append_cancel_left (List.append_cancel_right h))

/-- A chunk whose path is the base path: the tag and the number stand before the extension. -/
theorem stem_of_chunkPath_eq {stem ext : Path} (hext : '.' ∉ ext) {i : Nat}
    (h : chunkPath (stem ++ '.' :: ext) i = stem ++ '.' :: ext) :
    ∃ pre, stem = pre ++ chunkTag ++ decimal3 i ∧ (decimal3 i).length = 3 := by
  unfold chunkPath at h
  rw [strrchr_append hext] at h
  simp only [List.drop_left] at h
  split at h
  · next htag =>
    rw [List.take_append_of_le_length (Nat.sub_le _ _)] at h
    have hstem := List.append_cancel_right h
    refine ⟨_, hstem.symm, ?_⟩
    have hlen := congrArg List.length hstem
    have hle := htag.1
    simp only [List.length_append, List.length_take, show chunkTag.length = 6 from rfl,
      chunkSuffixLen] at hlen hle
    omega
  · rw [List.take_left] at h
    have hlen := congrArg List.length (List.append_cancel_right h)
    simp only [List.length_append, show chunkTag.length = 6 from rfl] at hlen
    omega

/-- A numbered stem does not end with the tag and three characters: the fourth character from its
end is a digit or an underscore. -/
theorem chunkTag_not_before_number {runFolder timestamp suffix pre number : Path} {k : Nat}
    (h : fileStem runFolder timestamp suffix (some k) = pre ++ chunkTag ++ number)
    (hlen : number.length = 3) : False := by
  have hrev := congrArg (fun l : Path => l.reverse[3]?) h
  have hright : (pre ++ chunkTag ++ number).reverse[3]? = some 'k' := by
    have hthree : number.reverse.length = 3 := by rw [List.length_reverse, hlen]
    rw [List.reverse_append, List.reverse_append, List.getElem?_append_right (Nat.le_of_eq hthree),
      hthree]
    rfl
  rw [hright] at hrev
  have hdigits : ∀ c ∈ (decimal k).reverse, c ≠ 'k' := by
    rintro c hc rfl
    exact not_mem_decimal (by decide) k (List.mem_reverse.1 hc)
  have hne : (decimal k).reverse ≠ [] := by simp [decimal, Nat.toDigits_ne_nil]
  simp only [fileStem, List.reverse_append, List.reverse_cons, List.append_assoc] at hrev
  generalize (decimal k).reverse = digits at hrev hdigits hne
  match digits, hne with
  | [_], _ => simp at hrev
  | [_, _], _ => simp at hrev
  | [_, _, _], _ => simp at hrev
  | _ :: _ :: _ :: d :: _, _ =>
    simp only [List.cons_append, List.getElem?_cons_succ, List.getElem?_cons_zero,
      Option.some.injEq] at hrev
    exact hdigits d (by simp) hrev

/-- The paths of `_build_file_path` are not those of a later chunk. -/
theorem chunkPath_ne_built {path : Path} (h : IsBuiltFilePath path) {i : Nat} (hi : 0 < i) :
    chunkPath path i ≠ path := by
  obtain ⟨runFolder, timestamp, suffix, number, format, rfl⟩ := h
  intro he
  have hext : '.' ∉ format.ext := by cases format <;> decide
  obtain ⟨pre, hstem, hlen⟩ := stem_of_chunkPath_eq hext he
  cases number with
  | none =>
    have hzero : "_chunk000".toList = chunkTag ++ decimal3 0 := by decide
    simp only [fileStem, List.append_nil, hzero] at hstem
    rw [← List.append_assoc] at hstem
    have htail := (List.append_inj' hstem (by rw [hlen]; decide)).2
    exact absurd (decimal3_injective htail) (by omega)
  | some k =>
    exact chunkTag_not_before_number hstem hlen

theorem chunkName_injective {path : Path} (h : IsBuiltFilePath path) {i j : Nat}
    (he : chunkName path i = chunkName path j) : i = j := by
  cases i with
  | zero =>
    cases j with
    | zero => rfl
    | succ j => exact absurd he.symm (chunkPath_ne_built h (Nat.succ_pos j))
  | succ i =>
    cases j with
    | zero => exact absurd he (chunkPath_ne_built h (Nat.succ_pos i))
    | succ j => exact chunkPath_injective he

end MultiDAQ.Receiver
