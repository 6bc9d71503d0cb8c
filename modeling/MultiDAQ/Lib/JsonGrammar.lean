import MultiDAQ.Lib.Json

/-!
# The grammar of JSON, and that `loads` reads it

For every production there is a relation between what is said and the text that says it, which does
not know the reader, and two facts: the reader takes the text off the front of what goes on in a way
that ends it (`…_append`), and what a reader takes off is a text of the production (`…_sound`). Where
a number ends is decided by what follows it (`NumberEnds`).
-/

namespace MultiDAQ.Lib

variable {F : Type} {s t rest : List Char}

/-! ## Numbers -/

theorem isDigit_ne {c d : Char} (hc : c.isDigit = true) (hd : d.isDigit = false) : c ≠ d := by
  rintro rfl
  rw [hc] at hd
  cases hd

theorem digits_singleton {c : Char} (h : c.isDigit = true) : Digits [c] :=
  ⟨List.cons_ne_nil _ _, List.forall_mem_singleton.2 h⟩

theorem Digits.cons (h : Digits t) : ∃ c t', t = c :: t' ∧ c.isDigit = true := by
  obtain ⟨hne, hdigits⟩ := h
  cases t with
  | nil => exact absurd rfl hne
  | cons c t => exact ⟨c, t, rfl, hdigits c List.mem_cons_self⟩

/-- A text does not go on with a digit. -/
def NoDigit (s : List Char) : Prop := ∀ c ∈ s.head?, c.isDigit = false

theorem digitsOf_append (ht : ∀ c ∈ t, c.isDigit = true) (hrest : NoDigit rest) :
    digitsOf (t ++ rest) = (t, rest) := by
  have hstop : rest.takeWhile Char.isDigit = [] ∧ rest.dropWhile Char.isDigit = rest := by
    cases rest with
    | nil => exact ⟨rfl, rfl⟩
    | cons c rest =>
      have hc : ¬ c.isDigit = true := by simp [hrest c rfl]
      exact ⟨List.takeWhile_cons_of_neg hc, List.dropWhile_cons_of_neg hc⟩
  rw [digitsOf, List.takeWhile_append_of_pos ht, List.dropWhile_append_of_pos ht, hstop.1, hstop.2,
    List.append_nil]

theorem readDigits_append (ht : Digits t) (hrest : NoDigit rest) :
    readDigits (t ++ rest) = some (t, rest) := by
  rw [readDigits, digitsOf_append ht.2 hrest, if_neg ht.1]

theorem readDigits_sound (h : readDigits s = some (t, rest)) : Digits t ∧ s = t ++ rest := by
  unfold readDigits at h
  split at h
  · cases h
  next hne =>
    have hpair := Option.some.inj h
    rw [hpair] at hne
    obtain ⟨rfl, rfl⟩ := Prod.mk.inj hpair
    exact ⟨⟨hne, List.all_eq_true.1 List.all_takeWhile⟩, List.takeWhile_append_dropWhile.symm⟩

theorem readNatural_append (ht : Digits t) (hzero : t = ['0'] ∨ t.head? ≠ some '0')
    (hrest : NoDigit rest) : readNatural (t ++ rest) = some (t, rest) := by
  obtain rfl | hhead := hzero
  · rfl
  · obtain ⟨c, t', rfl, -⟩ := ht.cons
    rw [← readDigits_append ht hrest, List.cons_append, readNatural]
    rintro rest' heq
    exact hhead (congrArg some (List.cons.inj heq).1)

theorem readNatural_sound (h : readNatural s = some (t, rest)) :
    Digits t ∧ (t = ['0'] ∨ t.head? ≠ some '0') ∧ s = t ++ rest := by
  unfold readNatural at h
  split at h
  · cases h
    exact ⟨digits_singleton rfl, .inl rfl, rfl⟩
  next hne =>
    obtain ⟨ht, rfl⟩ := readDigits_sound h
    obtain ⟨c, t', rfl, -⟩ := ht.cons
    refine ⟨ht, .inr fun hc => ?_, rfl⟩
    obtain rfl := Option.some.inj hc
    exact hne _ rfl

theorem readIntegerPart_append (ht : IntegerPart t) (hrest : NoDigit rest) :
    readIntegerPart (t ++ rest) = some (t, rest) := by
  obtain ⟨sign, digits, rfl | rfl, hdigits, hzero, rfl⟩ := ht
  · have hread := readNatural_append hdigits hzero hrest
    obtain ⟨c, t', rfl, hc⟩ := hdigits.cons
    rw [← hread, List.cons_append, readIntegerPart]
    rintro rest' heq
    exact isDigit_ne hc (d := '-') rfl (List.cons.inj heq).1
  · rw [List.singleton_append, List.cons_append, readIntegerPart,
      readNatural_append hdigits hzero hrest]
    rfl

theorem readIntegerPart_sound (h : readIntegerPart s = some (t, rest)) :
    IntegerPart t ∧ s = t ++ rest := by
  unfold readIntegerPart at h
  split at h
  · obtain ⟨⟨digits, rest'⟩, hread, heq⟩ := Option.map_eq_some_iff.1 h
    cases heq
    obtain ⟨hdigits, hzero, rfl⟩ := readNatural_sound hread
    exact ⟨⟨['-'], digits, .inr rfl, hdigits, hzero, rfl⟩, rfl⟩
  · obtain ⟨hdigits, hzero, rfl⟩ := readNatural_sound h
    exact ⟨⟨[], t, .inl rfl, hdigits, hzero, rfl⟩, rfl⟩

theorem readFractionPart_append (ht : FractionPart t) (hrest : NoDigit rest)
    (hpoint : rest.head? ≠ some '.') : readFractionPart (t ++ rest) = (t, rest) := by
  obtain rfl | ⟨digits, hdigits, rfl⟩ := ht
  · rw [List.nil_append, readFractionPart]
    rintro rest' rfl
    exact hpoint rfl
  · rw [List.cons_append, readFractionPart, readDigits_append hdigits hrest]

theorem readFractionPart_sound (s : List Char) :
    FractionPart (readFractionPart s).1 ∧ s = (readFractionPart s).1 ++ (readFractionPart s).2 := by
  unfold readFractionPart
  split
  · split
    next hread =>
      obtain ⟨hdigits, rfl⟩ := readDigits_sound hread
      exact ⟨.inr ⟨_, hdigits, rfl⟩, rfl⟩
    next => exact ⟨.inl rfl, rfl⟩
  · exact ⟨.inl rfl, rfl⟩

theorem readSign_append {sign digits : List Char}
    (hsign : sign = [] ∨ sign = ['+'] ∨ sign = ['-']) (hdigits : Digits digits) :
    readSign (sign ++ digits ++ rest) = (sign, digits ++ rest) := by
  obtain rfl | rfl | rfl := hsign
  · obtain ⟨c, t', rfl, hc⟩ := hdigits.cons
    rw [List.nil_append, List.cons_append, readSign]
    · rintro rest' heq
      exact isDigit_ne hc (d := '+') rfl (List.cons.inj heq).1
    · rintro rest' heq
      exact isDigit_ne hc (d := '-') rfl (List.cons.inj heq).1
  · rfl
  · rfl

theorem readSign_sound (s : List Char) :
    ((readSign s).1 = [] ∨ (readSign s).1 = ['+'] ∨ (readSign s).1 = ['-']) ∧
      s = (readSign s).1 ++ (readSign s).2 := by
  unfold readSign
  split
  · exact ⟨.inr (.inl rfl), rfl⟩
  · exact ⟨.inr (.inr rfl), rfl⟩
  · exact ⟨.inl rfl, rfl⟩

theorem readExponentPart_append (ht : ExponentPart t) (hrest : NoDigit rest)
    (he : ∀ c ∈ rest.head?, c ≠ 'e' ∧ c ≠ 'E') : readExponentPart (t ++ rest) = (t, rest) := by
  obtain rfl | ⟨e, sign, digits, hE, hsign, hdigits, rfl⟩ := ht
  · cases rest with
    | nil => rfl
    | cons c rest =>
      obtain ⟨h₁, h₂⟩ := he c rfl
      rw [List.nil_append, readExponentPart, if_neg (by simp [h₁, h₂])]
  · rw [List.cons_append, readExponentPart, if_pos hE]
    simp only [readSign_append hsign hdigits, readDigits_append hdigits hrest]

theorem readExponentPart_sound (s : List Char) :
    ExponentPart (readExponentPart s).1 ∧ s = (readExponentPart s).1 ++ (readExponentPart s).2 := by
  unfold readExponentPart
  split
  · exact ⟨.inl rfl, rfl⟩
  · split
    next e rest he =>
      obtain ⟨hsign, hrest⟩ := readSign_sound rest
      split
      next digits rest' hread =>
        obtain ⟨hdigits, heq⟩ := readDigits_sound hread
        refine ⟨.inr ⟨e, _, digits, he, hsign, hdigits, rfl⟩, ?_⟩
        rw [List.cons_append, List.append_assoc, ← heq, ← hrest]
      next => exact ⟨.inl rfl, rfl⟩
    next => exact ⟨.inl rfl, rfl⟩

/-- A text does not go on as a number might. -/
def NumberEnds (s : List Char) : Prop :=
  ∀ c ∈ s.head?, c.isDigit = false ∧ c ≠ '.' ∧ c ≠ 'e' ∧ c ≠ 'E'

theorem NumberEnds.noDigit (h : NumberEnds rest) : NoDigit rest := fun c hc => (h c hc).1

/-- What comes behind the integer part of a number. -/
theorem ExponentPart.append (he : ExponentPart t) (hrest : NumberEnds rest) :
    NoDigit (t ++ rest) ∧ (t ++ rest).head? ≠ some '.' := by
  obtain rfl | ⟨e, sign, digits, hE, -, -, rfl⟩ := he
  · exact ⟨hrest.noDigit, fun hpoint => (hrest '.' hpoint).2.1 rfl⟩
  · obtain rfl | rfl := hE
    · exact ⟨fun c hc => by obtain rfl := Option.some.inj hc; rfl, by simp⟩
    · exact ⟨fun c hc => by obtain rfl := Option.some.inj hc; rfl, by simp⟩

theorem FractionPart.append (hf : FractionPart t) (hrest : NoDigit rest) : NoDigit (t ++ rest) := by
  obtain rfl | ⟨digits, -, rfl⟩ := hf
  · exact hrest
  · exact fun c hc => by obtain rfl := Option.some.inj hc; rfl

theorem readNumber_parts (floats : Floats F) {i f e : List Char} (hi : IntegerPart i)
    (hf : FractionPart f) (he : ExponentPart e) (hrest : NumberEnds rest) :
    readNumber floats (i ++ (f ++ (e ++ rest))) =
      if f = [] ∧ e = [] then (intOfLiteral i).map fun n => (.int n, rest)
      else some (.float (floats.ofLiteral (i ++ (f ++ e))), rest) := by
  obtain ⟨hdigit, hpoint⟩ := he.append hrest
  simp only [readNumber, readIntegerPart_append hi (hf.append hdigit), Option.bind_eq_bind,
    Option.bind_some, readFractionPart_append hf hdigit hpoint,
    readExponentPart_append he hrest.noDigit fun c hc => (hrest c hc).2.2]

theorem readNumber_sound {floats : Floats F} {v : Json F}
    (h : readNumber floats s = some (v, rest)) : ∃ t, s = t ++ rest ∧
      ((∃ n, IntegerPart t ∧ intOfLiteral t = some n ∧ v = .int n) ∨
        FloatLiteral t ∧ v = .float (floats.ofLiteral t)) := by
  simp only [readNumber, Option.bind_eq_bind, Option.bind_eq_some_iff, Prod.exists] at h
  obtain ⟨i, s₁, hread, h⟩ := h
  obtain ⟨hi, rfl⟩ := readIntegerPart_sound hread
  obtain ⟨hf, hs₁⟩ := readFractionPart_sound s₁
  generalize readFractionPart s₁ = r at hf hs₁ h
  obtain ⟨f, s₂⟩ := r
  obtain ⟨he, hs₂⟩ := readExponentPart_sound s₂
  dsimp only at hf hs₁ h
  generalize readExponentPart s₂ = r at he hs₂ h
  obtain ⟨e, s₃⟩ := r
  dsimp only at he hs₂ h
  subst hs₁ hs₂
  split at h
  next hnil =>
    obtain ⟨rfl, rfl⟩ := hnil
    obtain ⟨n, hn, heq⟩ := Option.map_eq_some_iff.1 h
    obtain ⟨rfl, rfl⟩ := Prod.mk.inj heq
    exact ⟨i, rfl, .inl ⟨n, hi, hn, rfl⟩⟩
  next hne =>
    obtain ⟨rfl, rfl⟩ := Prod.mk.inj (Option.some.inj h)
    refine ⟨i ++ (f ++ e), by simp, .inr ⟨⟨i, f, e, hi, hf, he, ?_, rfl⟩, rfl⟩⟩
    rwa [not_and_or] at hne

/-! ## Integers as they are written -/

theorem toDigits_head {n : Nat} (hn : n ≠ 0) : (Nat.toDigits 10 n).head? ≠ some '0' := by
  induction n using Nat.base_induction 10 (by decide) with
  | single m hm =>
    rw [Nat.toDigits_of_lt_base hm, List.head?_cons]
    exact fun h => hn (Nat.digitChar_eq_zero.1 (Option.some.inj h))
  | digit m k hk hm ih =>
    obtain ⟨c, t, ht⟩ := List.exists_cons_of_ne_nil (Nat.toDigits_ne_nil (n := m) (b := 10))
    have hhead := ih (Nat.pos_iff_ne_zero.1 hm)
    rw [← Nat.toDigits_append_toDigits (by decide) hm hk, ht] at *
    exact hhead

theorem digits_toDigits (n : Nat) : Digits (Nat.toDigits 10 n) ∧
    (Nat.toDigits 10 n = ['0'] ∨ (Nat.toDigits 10 n).head? ≠ some '0') := by
  refine ⟨⟨Nat.toDigits_ne_nil, fun c hc => Nat.isDigit_of_mem_toDigits (by decide) (by decide) hc⟩, ?_⟩
  by_cases hn : n = 0
  · subst hn
    exact .inl rfl
  · exact .inr (toDigits_head hn)

theorem intRepr_literal {n : Int} (h : intRepr n = some t) :
    IntegerPart t ∧ intOfLiteral t = some n := by
  unfold intRepr at h
  dsimp only at h
  split at h
  next hlength =>
    obtain rfl := Option.some.inj h
    obtain ⟨hdigits, hzero⟩ := digits_toDigits n.natAbs
    have hdrop : (Nat.toDigits 10 n.natAbs).dropWhile (· = '-') = Nat.toDigits 10 n.natAbs ∧
        (Nat.toDigits 10 n.natAbs).head? ≠ some '-' := by
      obtain ⟨c, t, ht, hc⟩ := hdigits.cons
      have hminus := isDigit_ne hc (d := '-') rfl
      rw [ht]
      exact ⟨List.dropWhile_cons_of_neg (by simpa using hminus), by simpa using hminus⟩
    split
    next hneg =>
      refine ⟨⟨['-'], _, .inr rfl, hdigits, hzero, rfl⟩, ?_⟩
      rw [intOfLiteral, List.dropWhile_cons_of_pos (by simp), hdrop.1, if_pos hlength,
        if_pos (by simp), Nat.ofDigitChars_ten_toDigits]
      refine congrArg some ?_
      omega
    next hneg =>
      refine ⟨⟨[], _, .inl rfl, hdigits, hzero, rfl⟩, ?_⟩
      rw [intOfLiteral, hdrop.1, if_pos hlength, if_neg hdrop.2, Nat.ofDigitChars_ten_toDigits]
      refine congrArg some ?_
      omega
  next => cases h

/-! ## Strings -/

/-- The texts of one character of a string. -/
inductive CharText : PyChar → List Char → Prop
  | plain {c : Char} (hquote : c ≠ '"') (hescape : c ≠ '\\') (hcontrol : 0x20 ≤ c.toNat) :
      CharText (.scalar c) [c]
  | short {e c : Char} (h : (e, c) ∈ shortEscapes) : CharText (.scalar c) ['\\', e]
  | hex {a b c d : Char} {p q r s : Nat} (ha : hexValue a = some p) (hb : hexValue b = some q)
      (hc : hexValue c = some r) (hd : hexValue d = some s) :
      CharText (.ofUnit (((p * 16 + q) * 16 + r) * 16 + s)) ['\\', 'u', a, b, c, d]

/-- The texts of a string, behind the opening quote. -/
def StringText (text : PyStr) (t : List Char) : Prop :=
  ∃ parts : List (PyChar × List Char), (∀ p ∈ parts, CharText p.1 p.2) ∧
    text = joinSurrogates (parts.map Prod.fst) ∧ t = (parts.map Prod.snd).flatten ++ ['"']

theorem lookup_shortEscapes {e c : Char} (h : (e, c) ∈ shortEscapes) :
    shortEscapes.lookup e = some c ∧ e ≠ 'u' := by
  simp only [shortEscapes, List.mem_cons, Prod.mk.injEq, List.not_mem_nil, or_false] at h
  rcases h with ⟨rfl, rfl⟩ | ⟨rfl, rfl⟩ | ⟨rfl, rfl⟩ | ⟨rfl, rfl⟩ | ⟨rfl, rfl⟩ | ⟨rfl, rfl⟩ |
    ⟨rfl, rfl⟩ | ⟨rfl, rfl⟩ <;> decide

theorem CharText.head {p : PyChar} (h : CharText p t) : ∃ c t', t = c :: t' ∧ c ≠ '"' := by
  cases h with
  | plain hquote _ _ => exact ⟨_, _, rfl, hquote⟩
  | short _ => exact ⟨_, _, rfl, by decide⟩
  | hex _ _ _ _ => exact ⟨_, _, rfl, by decide⟩

theorem readChar_append {p : PyChar} (h : CharText p t) (rest : List Char) :
    readChar (t ++ rest) = some (p, rest) := by
  cases h with
  | plain hquote hescape hcontrol =>
    rw [List.singleton_append, readChar, if_neg (Nat.not_lt.2 hcontrol)]
    · rintro rfl
      exact absurd rfl hescape
    · rintro e rest' rfl
      exact absurd rfl hescape
  | short hmem =>
    obtain ⟨hlookup, hu⟩ := lookup_shortEscapes hmem
    rw [List.cons_append, List.singleton_append, readChar, if_neg hu, hlookup]
    rfl
  | hex ha hb hc hd =>
    simp only [List.cons_append, List.nil_append, readChar, if_true, readHex, ha, hb, hc, hd,
      Option.bind_eq_bind, Option.bind_some]

theorem readChar_sound {p : PyChar} (h : readChar s = some (p, rest)) (hquote : s.head? ≠ some '"') :
    ∃ t, CharText p t ∧ s = t ++ rest := by
  unfold readChar at h
  split at h
  · cases h
  · cases h
  · split at h
    next he =>
      subst he
      unfold readHex at h
      split at h
      next a b c d rest' =>
        simp only [Option.bind_eq_bind, Option.bind_eq_some_iff, Option.some.injEq,
          Prod.mk.injEq] at h
        obtain ⟨_, ha, _, hb, _, hc, _, hd, rfl, rfl⟩ := h
        exact ⟨_, .hex ha hb hc hd, rfl⟩
      next => cases h
    next =>
      obtain ⟨c, hc, heq⟩ := Option.map_eq_some_iff.1 h
      obtain ⟨rfl, rfl⟩ := Prod.mk.inj heq
      exact ⟨_, .short ((Dict.lookup_eq_some_iff (by decide)).1 hc), rfl⟩
  next c rest' hend hescape =>
    split at h
    · cases h
    next hcontrol =>
      obtain ⟨rfl, rfl⟩ := Prod.mk.inj (Option.some.inj h)
      refine ⟨[c], .plain (fun hc => hquote (congrArg some hc)) ?_ (Nat.not_lt.1 hcontrol), rfl⟩
      rintro rfl
      cases rest' with
      | nil => exact hend rfl rfl
      | cons e rest' => exact hescape e rest' rfl rfl

theorem readChars_append {parts : List (PyChar × List Char)}
    (h : ∀ p ∈ parts, CharText p.1 p.2) (rest : List Char) {n : Nat} (hn : parts.length < n) :
    readChars n ((parts.map Prod.snd).flatten ++ '"' :: rest) =
      some (parts.map Prod.fst, rest) := by
  induction parts generalizing n with
  | nil =>
    obtain ⟨n, rfl⟩ := Nat.exists_eq_add_one_of_ne_zero (Nat.ne_zero_of_lt hn)
    rfl
  | cons p parts ih =>
    obtain ⟨n, rfl⟩ := Nat.exists_eq_add_one_of_ne_zero (Nat.ne_zero_of_lt hn)
    obtain ⟨hp, hparts⟩ := List.forall_mem_cons.1 h
    have hread := readChar_append hp ((parts.map Prod.snd).flatten ++ '"' :: rest)
    have htail := ih hparts (Nat.lt_of_succ_lt_succ hn)
    obtain ⟨c, t', ht, hc⟩ := hp.head
    rw [List.map_cons, List.flatten_cons, List.append_assoc, readChars, if_neg]
    · simp only [hread, htail, Option.bind_eq_bind, Option.bind_some, List.map_cons]
    · rw [ht, List.cons_append, List.head?_cons]
      exact fun heq => hc (Option.some.inj heq)

theorem readChars_sound {n : Nat} {text : PyStr} (h : readChars n s = some (text, rest)) :
    ∃ parts : List (PyChar × List Char), (∀ p ∈ parts, CharText p.1 p.2) ∧
      text = parts.map Prod.fst ∧ s = (parts.map Prod.snd).flatten ++ '"' :: rest := by
  induction n generalizing s text with
  | zero => cases h
  | succ n ih =>
    rw [readChars] at h
    split at h
    next hquote =>
      obtain ⟨rfl, rfl⟩ := Prod.mk.inj (Option.some.inj h)
      refine ⟨[], List.forall_mem_nil _, rfl, ?_⟩
      exact List.eq_cons_of_mem_head? hquote
    next hquote =>
      simp only [Option.bind_eq_bind, Option.bind_eq_some_iff, Prod.exists, Option.some.injEq,
        Prod.mk.injEq] at h
      obtain ⟨c, s₁, hchar, text', s₂, hchars, rfl, rfl⟩ := h
      obtain ⟨t, ht, rfl⟩ := readChar_sound hchar hquote
      obtain ⟨parts, hparts, rfl, rfl⟩ := ih hchars
      exact ⟨(c, t) :: parts, List.forall_mem_cons.2 ⟨ht, hparts⟩, rfl, by simp⟩

theorem readString_append {text : PyStr} (h : StringText text t) (rest : List Char) :
    readString (t ++ rest) = some (text, rest) := by
  obtain ⟨parts, hparts, rfl, rfl⟩ := h
  have hlength : parts.length ≤ (parts.map Prod.snd).flatten.length := by
    clear * - hparts
    induction parts with
    | nil => exact Nat.zero_le _
    | cons p parts ih =>
      obtain ⟨hp, hparts⟩ := List.forall_mem_cons.1 hparts
      obtain ⟨c, t', ht, -⟩ := hp.head
      have := ih hparts
      rw [List.map_cons, List.flatten_cons, List.length_append, ht, List.length_cons,
        List.length_cons]
      omega
  rw [readString, List.append_assoc, List.singleton_append,
    readChars_append hparts rest (by rw [List.length_append]; omega)]
  rfl

theorem readString_sound {text : PyStr} (h : readString s = some (text, rest)) :
    ∃ t, StringText text t ∧ s = t ++ rest := by
  obtain ⟨⟨text', rest'⟩, hread, heq⟩ := Option.map_eq_some_iff.1 h
  obtain ⟨rfl, rfl⟩ := Prod.mk.inj heq
  obtain ⟨parts, hparts, rfl, rfl⟩ := readChars_sound hread
  exact ⟨_, ⟨parts, hparts, rfl, rfl⟩, by simp⟩

/-! ## Strings as they are written -/

theorem hexValue_digitChar {n : Nat} (h : n < 16) : hexValue n.digitChar = some n := by
  have hall : ∀ n : Fin 16, hexValue n.val.digitChar = some n.val := by decide
  exact hall ⟨n, h⟩

theorem charText_escapeChar (c : Char) : CharText (.scalar c) (escapeChar c) := by
  by_cases hshort : ∃ e, (e, c) ∈ shortEscapes ∧ escapeChar c = ['\\', e]
  · obtain ⟨e, he, htext⟩ := hshort
    rw [htext]
    exact .short he
  have hnot : ∀ d ∈ ['"', '\\', '\n', '\r', '\t', '\x0c', '\x08'], c ≠ d := by
    intro d hd hcd
    subst hcd
    simp only [List.mem_cons, List.not_mem_nil, or_false] at hd
    rcases hd with rfl | rfl | rfl | rfl | rfl | rfl | rfl
    · exact hshort ⟨'"', by decide, by decide⟩
    · exact hshort ⟨'\\', by decide, by decide⟩
    · exact hshort ⟨'n', by decide, by decide⟩
    · exact hshort ⟨'r', by decide, by decide⟩
    · exact hshort ⟨'t', by decide, by decide⟩
    · exact hshort ⟨'f', by decide, by decide⟩
    · exact hshort ⟨'b', by decide, by decide⟩
  simp only [List.forall_mem_cons] at hnot
  obtain ⟨h₁, h₂, h₃, h₄, h₅, h₆, h₇, -⟩ := hnot
  rw [escapeChar, if_neg h₁, if_neg h₂, if_neg h₃, if_neg h₄, if_neg h₅, if_neg h₆, if_neg h₇]
  split
  next hcontrol =>
    have hhex : CharText (.ofUnit (((0 * 16 + 0) * 16 + c.toNat / 16) * 16 + c.toNat % 16))
        ['\\', 'u', '0', '0', (c.toNat / 16).digitChar, (c.toNat % 16).digitChar] :=
      .hex rfl rfl (hexValue_digitChar (by omega)) (hexValue_digitChar (by omega))
    have hunit : ((0 * 16 + 0) * 16 + c.toNat / 16) * 16 + c.toNat % 16 = c.toNat := by omega
    rw [hunit, PyChar.ofUnit, if_neg (by omega), Char.ofNat_toNat] at hhex
    exact hhex
  next hcontrol => exact .plain h₁ h₂ (Nat.not_lt.1 hcontrol)

theorem joinSurrogates_ofChars (text : List Char) :
    joinSurrogates (.ofChars text) = .ofChars text := by
  induction text with
  | nil => rfl
  | cons c text ih =>
    rw [PyStr.ofChars, List.map_cons, joinSurrogates]
    · exact congrArg _ ih
    · rintro m n rest heq
      cases heq

theorem quote_ofChars (text : List Char) : PyStr.quote (.ofChars text) =
    .ofChars ('"' :: (text.flatMap escapeChar ++ ['"'])) := by
  have hescape : (PyStr.ofChars text).flatMap PyChar.escape =
      PyStr.ofChars (text.flatMap escapeChar) := by
    induction text with
    | nil => rfl
    | cons c text ih =>
      rw [PyStr.ofChars, List.map_cons, List.flatMap_cons]
      exact (congrArg _ ih).trans (List.map_append).symm
  rw [PyStr.quote, hescape]
  simp [PyStr.ofChars]

theorem stringText_quote (text : List Char) :
    StringText (.ofChars text) (text.flatMap escapeChar ++ ['"']) := by
  refine ⟨text.map fun c => (.scalar c, escapeChar c), ?_, ?_, ?_⟩
  · exact List.forall_mem_map.2 fun c _ => charText_escapeChar c
  · rw [List.map_map]
    exact (joinSurrogates_ofChars text).symm
  · rw [List.map_map, List.flatMap_def]
    rfl

/-! ## Values -/

/-- The texts of an entry of a dictionary, given those of a value. -/
def EntryText (P : Json F → List Char → Prop) (e : PyStr × Json F) (t : List Char) : Prop :=
  ∃ k u w v, StringText e.1 k ∧ Blank jsonBlank u ∧ Blank jsonBlank w ∧ P e.2 v ∧
    t = '"' :: (k ++ (u ++ ':' :: (w ++ v)))

/-- The texts of a value, given those of a list and of a dictionary behind the opening bracket. -/
inductive ValueText (floats : Floats F) (list : List (Json F) → List Char → Prop)
    (dict : List (PyStr × Json F) → List Char → Prop) : Json F → List Char → Prop
  | constant {v : Json F} {t : List Char} (h : (t, v) ∈ jsonConstants F) : ValueText floats list dict v t
  | int {n : Int} {t : List Char} (h : IntegerPart t) (hn : intOfLiteral t = some n) :
      ValueText floats list dict (.int n) t
  | float {t : List Char} (h : FloatLiteral t) :
      ValueText floats list dict (.float (floats.ofLiteral t)) t
  | str {text : PyStr} {t : List Char} (h : StringText text t) :
      ValueText floats list dict (.str text) ('"' :: t)
  | list {items : List (Json F)} {t : List Char} (h : list items t) :
      ValueText floats list dict (.list items) ('[' :: t)
  | dict {entries : List (PyStr × Json F)} {t : List Char} (h : dict entries t) :
      ValueText floats list dict (.dict (lastValues entries).entries) ('{' :: t)

/-- The texts of a value, of at most so many levels. -/
def JsonText (floats : Floats F) : (depth : Nat) → Json F → List Char → Prop
  | 0 => ValueText floats (fun _ _ => False) fun _ _ => False
  | depth + 1 => ValueText floats (Enclosed jsonBlank (JsonText floats depth) ']')
      (Enclosed jsonBlank (EntryText (JsonText floats depth)) '}')

section Read

variable {floats : Floats F} {list : Reader (List (Json F))} {dict : Reader (List (PyStr × Json F))}
  {L : List (Json F) → List Char → Prop} {D : List (PyStr × Json F) → List Char → Prop}
  {v : Json F} {depth : Nat}

/-- What a number may begin with. -/
def NumberHead (c : Char) (t : List Char) : Prop :=
  c.isDigit = true ∨ c = '-' ∧ ∃ d t', t = d :: t' ∧ d.isDigit = true

theorem numberHead_append {c : Char} (h : NumberHead c t) (rest : List Char) :
    NumberHead c (t ++ rest) :=
  h.imp_right fun ⟨hc, d, t', ht, hd⟩ => ⟨hc, d, t' ++ rest, by rw [ht]; rfl, hd⟩

theorem IntegerPart.head (h : IntegerPart t) : ∃ c t', t = c :: t' ∧ NumberHead c t' := by
  obtain ⟨sign, digits, rfl | rfl, hdigits, -, rfl⟩ := h
  · obtain ⟨c, t', rfl, hc⟩ := hdigits.cons
    exact ⟨c, t', rfl, .inl hc⟩
  · obtain ⟨c, t', rfl, hc⟩ := hdigits.cons
    exact ⟨'-', _, rfl, .inr ⟨rfl, c, t', rfl, hc⟩⟩

theorem FloatLiteral.head (h : FloatLiteral t) : ∃ c t', t = c :: t' ∧ NumberHead c t' := by
  obtain ⟨i, f, e, hi, -, -, -, rfl⟩ := h
  obtain ⟨c, t', rfl, hc⟩ := hi.head
  exact ⟨c, _, rfl, numberHead_append hc _⟩

/-- No value begins with a blank or ends what it is in. -/
theorem ValueText.head (h : ValueText floats L D v t) :
    ∃ c t', t = c :: t' ∧ jsonBlank c = false ∧ c ≠ ']' := by
  have hnumber {c : Char} {t' : List Char} (hc : NumberHead c t') : jsonBlank c = false ∧ c ≠ ']' := by
    obtain hc | ⟨rfl, -⟩ := hc
    · simp [jsonBlank, isDigit_ne hc]
    · decide
  cases h with
  | constant h =>
    simp only [jsonConstants, List.mem_cons, Prod.mk.injEq, List.not_mem_nil, or_false] at h
    rcases h with ⟨rfl, -⟩ | ⟨rfl, -⟩ | ⟨rfl, -⟩ | ⟨rfl, -⟩ | ⟨rfl, -⟩ | ⟨rfl, -⟩ <;>
      exact ⟨_, _, rfl, by decide, by decide⟩
  | int h _ =>
    obtain ⟨c, t', rfl, hc⟩ := h.head
    exact ⟨c, t', rfl, hnumber hc⟩
  | float h =>
    obtain ⟨c, t', rfl, hc⟩ := h.head
    exact ⟨c, t', rfl, hnumber hc⟩
  | str _ => exact ⟨_, _, rfl, by decide, by decide⟩
  | list _ => exact ⟨_, _, rfl, by decide, by decide⟩
  | dict _ => exact ⟨_, _, rfl, by decide, by decide⟩

theorem readConstant_of_number {c : Char} (hc : NumberHead c t) :
    (readConstant (c :: t) : Option (Json F × _)) = none := by
  obtain hc | ⟨rfl, d, t', rfl, hd⟩ := hc
  · simp [readConstant, jsonConstants, List.isPrefixOf?, (isDigit_ne hc _).symm]
  · simp [readConstant, jsonConstants, List.isPrefixOf?, (isDigit_ne hd _).symm]

theorem readValue_number {c : Char} (hc : NumberHead c t) :
    readValue floats list dict (c :: t) = readNumber floats (c :: t) := by
  have hne : c ≠ '"' ∧ c ≠ '[' ∧ c ≠ '{' := by
    obtain hc | ⟨rfl, -⟩ := hc
    · exact ⟨isDigit_ne hc rfl, isDigit_ne hc rfl, isDigit_ne hc rfl⟩
    · decide
  rw [readValue, if_neg hne.1, if_neg hne.2.1, if_neg hne.2.2, readConstant_of_number hc,
    Option.none_or]

theorem readValue_append (hlist : ∀ items t rest, L items t → list (t ++ rest) = some (items, rest))
    (hdict : ∀ entries t rest, D entries t → dict (t ++ rest) = some (entries, rest))
    (h : ValueText floats L D v t) (hrest : NumberEnds rest) :
    readValue floats list dict (t ++ rest) = some (v, rest) := by
  cases h with
  | constant h =>
    simp only [jsonConstants, List.mem_cons, Prod.mk.injEq, List.not_mem_nil, or_false] at h
    rcases h with ⟨rfl, rfl⟩ | ⟨rfl, rfl⟩ | ⟨rfl, rfl⟩ | ⟨rfl, rfl⟩ | ⟨rfl, rfl⟩ | ⟨rfl, rfl⟩ <;> rfl
  | int h hn =>
    have hread := readNumber_parts floats h (f := []) (.inl rfl) (e := []) (.inl rfl) hrest
    rw [if_pos ⟨rfl, rfl⟩, hn, List.nil_append, List.nil_append] at hread
    obtain ⟨c, t', rfl, hc⟩ := h.head
    rw [List.cons_append, readValue_number (numberHead_append hc rest), ← List.cons_append, hread]
    rfl
  | float h =>
    obtain ⟨c, t', ht, hc⟩ := h.head
    obtain ⟨i, f, e, hi, hf, he, hne, rfl⟩ := h
    have hread := readNumber_parts floats hi hf he hrest
    rw [if_neg (by rwa [not_and_or]), ← List.append_assoc f, ← List.append_assoc i] at hread
    rw [← hread, ht, List.cons_append, readValue_number (numberHead_append hc rest)]
  | str h =>
    rw [List.cons_append, readValue, if_pos rfl, readString_append h]
    rfl
  | list h =>
    rw [List.cons_append, readValue, if_neg (by decide), if_pos rfl, hlist _ _ _ h]
    rfl
  | dict h =>
    rw [List.cons_append, readValue, if_neg (by decide), if_neg (by decide), if_pos rfl,
      hdict _ _ _ h]
    rfl

theorem readValue_sound
    (hlist : ∀ s items rest, list s = some (items, rest) → ∃ t, L items t ∧ s = t ++ rest)
    (hdict : ∀ s entries rest, dict s = some (entries, rest) → ∃ t, D entries t ∧ s = t ++ rest)
    (h : readValue floats list dict s = some (v, rest)) :
    ∃ t, ValueText floats L D v t ∧ s = t ++ rest := by
  unfold readValue at h
  split at h
  · cases h
  next c s =>
    split at h
    next hc =>
      obtain ⟨⟨text, rest'⟩, hread, heq⟩ := Option.map_eq_some_iff.1 h
      obtain ⟨rfl, rfl⟩ := Prod.mk.inj heq
      obtain ⟨t, ht, rfl⟩ := readString_sound hread
      exact ⟨_, .str ht, by rw [hc]; rfl⟩
    split at h
    next hc =>
      obtain ⟨⟨items, rest'⟩, hread, heq⟩ := Option.map_eq_some_iff.1 h
      obtain ⟨rfl, rfl⟩ := Prod.mk.inj heq
      obtain ⟨t, ht, rfl⟩ := hlist _ _ _ hread
      exact ⟨_, .list ht, by rw [hc]; rfl⟩
    split at h
    next hc =>
      obtain ⟨⟨entries, rest'⟩, hread, heq⟩ := Option.map_eq_some_iff.1 h
      obtain ⟨rfl, rfl⟩ := Prod.mk.inj heq
      obtain ⟨t, ht, rfl⟩ := hdict _ _ _ hread
      exact ⟨_, .dict ht, by rw [hc]; rfl⟩
    obtain hread | ⟨-, hread⟩ := Option.or_eq_some_iff.1 h
    · obtain ⟨⟨t, w⟩, hmem, hprefix⟩ := List.exists_of_findSome?_eq_some hread
      obtain ⟨rest', hrest, heq⟩ := Option.map_eq_some_iff.1 hprefix
      obtain ⟨rfl, rfl⟩ := Prod.mk.inj heq
      exact ⟨t, .constant hmem, (List.append_eq_of_isPrefixOf?_eq_some hrest).symm⟩
    · obtain ⟨t, hs, ⟨n, ht, hn, rfl⟩ | ⟨ht, rfl⟩⟩ := readNumber_sound hread
      · exact ⟨t, .int ht hn, hs⟩
      · exact ⟨t, .float ht, hs⟩

theorem readEntry_append {value : Reader (Json F)} {P : Json F → List Char → Prop}
    {e : PyStr × Json F} (hhead : ∀ v t, P v t → ∃ c t', t = c :: t' ∧ jsonBlank c = false)
    (hvalue : ∀ t, P e.2 t → value (t ++ rest) = some (e.2, rest)) (h : EntryText P e t) :
    readEntry value (t ++ rest) = some (e, rest) := by
  obtain ⟨k, u, w, v, hk, hu, hw, hv, rfl⟩ := h
  obtain ⟨c, v', rfl, hc⟩ := hhead _ _ hv
  have htext : ('"' :: (k ++ (u ++ ':' :: (w ++ c :: v')))) ++ rest =
      '"' :: (k ++ (u ++ ':' :: (w ++ (c :: v' ++ rest)))) := by simp
  rw [htext, readEntry, readString_append hk]
  simp only [Option.bind_eq_bind, Option.bind_some, dropWhile_of_blank hu]
  rw [dropWhile_eq_self (by decide)]
  simp only [dropWhile_of_blank hw]
  rw [List.cons_append, dropWhile_eq_self hc, ← List.cons_append, hvalue _ hv]
  rfl

theorem readEntry_sound {value : Reader (Json F)} {P : Json F → List Char → Prop}
    {e : PyStr × Json F}
    (hvalue : ∀ s v rest, value s = some (v, rest) → ∃ t, P v t ∧ s = t ++ rest)
    (h : readEntry value s = some (e, rest)) : ∃ t, EntryText P e t ∧ s = t ++ rest := by
  unfold readEntry at h
  split at h
  next s =>
    simp only [Option.bind_eq_bind, Option.bind_eq_some_iff, Prod.exists] at h
    obtain ⟨key, s₁, hkey, h⟩ := h
    obtain ⟨k, hk, rfl⟩ := readString_sound hkey
    obtain ⟨u, hu, hs₁⟩ := exists_blank jsonBlank s₁
    split at h
    next s₂ hs₂ =>
      obtain ⟨⟨v, rest'⟩, hread, heq⟩ := Option.map_eq_some_iff.1 h
      obtain ⟨rfl, rfl⟩ := Prod.mk.inj heq
      obtain ⟨w, hw, hs₃⟩ := exists_blank jsonBlank s₂
      obtain ⟨t, ht, hs₄⟩ := hvalue _ _ _ hread
      refine ⟨_, ⟨k, u, w, t, hk, hu, hw, ht, rfl⟩, ?_⟩
      rw [hs₁, hs₂, hs₃, hs₄]
      simp
    next => cases h
  next => cases h

/-- What is behind an item of a list or a dictionary goes on with no number. -/
theorem numberEnds_of_goesOn {close : Char} (hclose : close = ']' ∨ close = '}')
    (h : ListGoesOn jsonBlank close rest) : NumberEnds rest := by
  obtain ⟨v, c, t, hv, hc, rfl⟩ := h
  intro d hd
  cases v with
  | nil =>
    obtain rfl := Option.some.inj hd
    obtain rfl | rfl := hc
    · obtain rfl | rfl := hclose <;> decide
    · decide
  | cons b v =>
    obtain rfl := Option.some.inj hd
    have hblank := hv b List.mem_cons_self
    simp only [jsonBlank, Bool.or_eq_true, decide_eq_true_eq] at hblank
    obtain ((rfl | rfl) | rfl) | rfl := hblank <;> decide

theorem JsonText.head (h : JsonText floats depth v t) :
    ∃ c t', t = c :: t' ∧ jsonBlank c = false ∧ c ≠ ']' := by
  cases depth with
  | zero => exact ValueText.head h
  | succ depth => exact ValueText.head h

theorem readAt_append (h : JsonText floats depth v t) (hrest : NumberEnds rest) :
    readAt floats depth (t ++ rest) = some (v, rest) := by
  induction depth generalizing v t rest with
  | zero => exact readValue_append (fun _ _ _ h => h.elim) (fun _ _ _ h => h.elim) h hrest
  | succ depth ih =>
    refine readValue_append (fun items t rest hitems => ?_) (fun entries t rest hentries => ?_) h
      hrest
    · exact readList_of_enclosed (by decide) (by decide) (by decide) (fun _ _ h => h.head)
        (fun _ _ _ h hrest => ih h (numberEnds_of_goesOn (.inl rfl) hrest)) hitems rest
    · refine readList_of_enclosed (by decide) (by decide) (by decide) (fun e t h => ?_)
        (fun e t rest h hrest => ?_) hentries rest
      · obtain ⟨k, u, w, v, -, -, -, -, rfl⟩ := h
        exact ⟨_, _, rfl, by decide, by decide⟩
      · refine readEntry_append (fun v t hv => ?_) (fun t hv => ?_) h
        · obtain ⟨c, t', ht, hc, -⟩ := hv.head
          exact ⟨c, t', ht, hc⟩
        · exact ih hv (numberEnds_of_goesOn (.inr rfl) hrest)

theorem readAt_sound (h : readAt floats depth s = some (v, rest)) :
    ∃ t, JsonText floats depth v t ∧ s = t ++ rest := by
  induction depth generalizing v s rest with
  | zero => exact readValue_sound (fun _ _ _ h => by cases h) (fun _ _ _ h => by cases h) h
  | succ depth ih =>
    exact readValue_sound (fun _ _ _ h => enclosed_of_readList (fun _ _ _ h => ih h) h)
      (fun _ _ _ h => enclosed_of_readList (fun _ _ _ h => readEntry_sound (fun _ _ _ h => ih h) h) h)
      h

/-- `json.loads` reads the texts of the grammar, and no others. -/
theorem loads_eq_some : loads floats depth s = some v ↔
    ∃ u t w, Blank jsonBlank u ∧ JsonText floats depth v t ∧ Blank jsonBlank w ∧
      s = u ++ (t ++ w) := by
  constructor
  · intro h
    simp only [loads, Option.bind_eq_bind, Option.bind_eq_some_iff, Prod.exists] at h
    obtain ⟨v', w, hread, h⟩ := h
    split at h
    next hw =>
      obtain rfl := Option.some.inj h
      obtain ⟨u, hu, hs⟩ := exists_blank jsonBlank s
      obtain ⟨t, ht, hs'⟩ := readAt_sound hread
      exact ⟨u, t, w, hu, ht, List.all_eq_true.1 hw, by rw [hs, hs']⟩
    next => cases h
  · rintro ⟨u, t, w, hu, ht, hw, rfl⟩
    have hends : NumberEnds w := by
      intro c hc
      have hblank := hw c (List.mem_of_mem_head? hc)
      simp only [jsonBlank, Bool.or_eq_true, decide_eq_true_eq] at hblank
      obtain ((rfl | rfl) | rfl) | rfl := hblank <;> decide
    have hread := readAt_append ht hends
    obtain ⟨c, t', rfl, hc, -⟩ := ht.head
    rw [List.cons_append] at hread
    rw [loads, dropWhile_of_blank hu, List.cons_append, dropWhile_eq_self hc, hread]
    simp only [Option.bind_eq_bind, Option.bind_some, if_pos (List.all_eq_true.2 hw)]

end Read

end MultiDAQ.Lib
