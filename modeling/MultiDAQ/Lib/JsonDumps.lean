import MultiDAQ.Lib.JsonGrammar
import MultiDAQ.Lib.Conversion

/-!
# What `json.dumps` writes

A value is written if its texts have no surrogates and its integers not too many digits, and if it
is not nested too deep (`encodable_of_dumps`); what is written is a text of the grammar, so that
`loads` reads the value back (`exists_dumps`). A value that was read is well formed and nested no
deeper than the reader goes.
-/

namespace MultiDAQ.Lib

variable {F : Type} {floats : Floats F} {v : Json F} {depth : Nat}

/-! ## Texts without surrogates -/

theorem exists_ofChars {text : PyStr} :
    (∃ chars, text = .ofChars chars) ↔ ∀ n, PyChar.surrogate n ∉ text := by
  constructor
  · rintro ⟨chars, rfl⟩ n hn
    obtain ⟨c, -, heq⟩ := List.mem_map.1 hn
    cases heq
  · intro h
    induction text with
    | nil => exact ⟨[], rfl⟩
    | cons c text ih =>
      obtain ⟨chars, rfl⟩ := ih fun n hn => h n (List.mem_cons_of_mem c hn)
      cases c with
      | scalar c => exact ⟨c :: chars, rfl⟩
      | surrogate n => exact absurd List.mem_cons_self (h n)

theorem chars?_eq_some {text : PyStr} {chars : List Char} :
    text.chars? = some chars ↔ text = .ofChars chars := by
  refine (mapM_eq_some_iff_of_form (g := PyChar.scalar) (P := fun _ => True) fun p c => ?_).trans
    (by simp [PyStr.ofChars])
  cases p <;> simp [eq_comm]

theorem encode_eq_some {text : PyStr} {bytes : List UInt8} :
    text.encode = some bytes ↔ ∃ chars, text = .ofChars chars ∧ bytes = utf8Encode chars := by
  simp only [PyStr.encode, Option.map_eq_some_iff, chars?_eq_some]
  exact exists_congr fun chars => and_congr_right fun _ => eq_comm

theorem surrogate_mem_quote {text : PyStr} {n : Fin 2048} (h : PyChar.surrogate n ∈ text) :
    PyChar.surrogate n ∈ text.quote :=
  List.mem_cons_of_mem _ (List.mem_append_left _
    (List.mem_flatMap.2 ⟨_, h, List.mem_singleton_self _⟩))

theorem mem_intercalate {α : Type} {sep p : List α} {parts : List (List α)} {c : α}
    (hp : p ∈ parts) (hc : c ∈ p) : c ∈ sep.intercalate parts := by
  induction parts with
  | nil => cases hp
  | cons q parts ih =>
    cases parts with
    | nil =>
      obtain rfl := List.mem_singleton.1 hp
      rwa [List.intercalate_singleton]
    | cons r parts =>
      rw [List.intercalate_cons_cons, List.mem_append]
      obtain rfl | hp := List.mem_cons.1 hp
      · exact .inl (List.mem_append_left _ hc)
      · exact .inr (ih hp)

theorem mem_bracketed {opening closing : Char} {parts : List PyStr} {p : PyStr} {c : PyChar}
    (hp : p ∈ parts) (hc : c ∈ p) : c ∈ bracketed opening closing parts :=
  List.mem_cons_of_mem _ (List.mem_append_left _ (mem_intercalate hp hc))

theorem bracketed_ofChars (opening closing : Char) (ts : List (List Char)) :
    bracketed opening closing (ts.map .ofChars) =
      .ofChars (opening :: ([','].intercalate ts ++ [closing])) := by
  have hparts : [PyChar.scalar ','].intercalate (ts.map PyStr.ofChars) =
      PyStr.ofChars ([','].intercalate ts) := by
    induction ts with
    | nil => rfl
    | cons t ts ih =>
      cases ts with
      | nil => simp [PyStr.ofChars]
      | cons t' ts =>
        rw [List.map_cons, List.map_cons, List.intercalate_cons_cons, ← List.map_cons, ih,
          List.intercalate_cons_cons]
        simp [PyStr.ofChars]
  rw [bracketed, hparts]
  simp [PyStr.ofChars]

/-! ## What is written -/

/-- No text has a surrogate, and no integer too many digits. -/
inductive Json.Encodable : Json F → Prop
  | null : Encodable .null
  | bool (value : Bool) : Encodable (.bool value)
  | int {n : Int} (h : (Nat.toDigits 10 n.natAbs).length ≤ intMaxStrDigits) : Encodable (.int n)
  | float (value : PyFloat F) : Encodable (.float value)
  | str (chars : List Char) : Encodable (.str (.ofChars chars))
  | list {items : List (Json F)} (h : ∀ v ∈ items, Encodable v) : Encodable (.list items)
  | dict {entries : List (PyStr × Json F)} (hkeys : ∀ e ∈ entries, ∃ chars, e.1 = .ofChars chars)
      (h : ∀ e ∈ entries, Encodable e.2) : Encodable (.dict entries)

theorem lastValues_of_nodup {κ υ : Type} [DecidableEq κ] {entries : List (κ × υ)}
    (h : (entries.map Prod.fst).Nodup) : (lastValues entries).entries = entries := by
  induction entries using List.reverseRecOn with
  | nil => rfl
  | append_singleton l e ih =>
    rw [List.map_append, List.nodup_append] at h
    obtain ⟨hl, -, hdisjoint⟩ := h
    have hlast : lastValues (l ++ [e]) = (lastValues l).set e.1 e.2 := by
      rw [lastValues, List.foldl_append]
      rfl
    have hnew : ¬ (lastValues l).contains e.1 := by
      rw [Dict.contains, Dict.get?, ih hl, Dict.lookup_isSome]
      exact fun hmem => hdisjoint _ hmem _ (List.mem_singleton_self _) rfl
    rw [hlast, Dict.set, dif_neg hnew]
    exact congrArg (· ++ [e]) (ih hl)

theorem mem_of_lookup {κ υ : Type} [DecidableEq κ] {l : List (κ × υ)} {k : κ} {w : υ}
    (h : l.lookup k = some w) : (k, w) ∈ l := by
  induction l with
  | nil => cases h
  | cons e l ih =>
    rw [List.lookup_cons] at h
    split at h
    next hk =>
      obtain rfl := Option.some.inj h
      rw [beq_iff_eq.1 hk]
      exact List.mem_cons_self
    next => exact List.mem_cons_of_mem _ (ih h)

theorem mem_lastValues {κ υ : Type} [DecidableEq κ] {entries : List (κ × υ)} {e : κ × υ}
    (h : e ∈ (lastValues entries).entries) : e ∈ entries := by
  have hget := Dict.mem_entries.1 (show (e.1, e.2) ∈ _ from h)
  rw [lastValues, Dict.get?_foldl_set, Dict.get?_empty, Option.or_none] at hget
  exact List.mem_reverse.1 (mem_of_lookup hget)

/-- The texts of the values of a list, or of the entries of a dictionary. -/
theorem exists_mapM {α : Type} {f : α → Option PyStr} {P : α → List Char → Prop} {l : List α}
    (h : ∀ a ∈ l, ∃ t, f a = some (.ofChars t) ∧ P a t) :
    ∃ ts : List (List Char), l.mapM f = some (ts.map .ofChars) ∧ List.Forall₂ P l ts := by
  induction l with
  | nil => exact ⟨[], rfl, .nil⟩
  | cons a l ih =>
    obtain ⟨⟨t, ht, hP⟩, hl⟩ := List.forall_mem_cons.1 h
    obtain ⟨ts, hts, hPs⟩ := ih hl
    exact ⟨t :: ts, by simp [ht, hts], .cons hP hPs⟩

theorem enclosed_intercalate {α : Type} {P : α → List Char → Prop} {close : Char} {l : List α}
    {ts : List (List Char)} (h : List.Forall₂ P l ts) :
    Enclosed jsonBlank P close l ([','].intercalate ts ++ [close]) := by
  cases l with
  | nil =>
    cases h
    exact .inl ⟨rfl, [], blank_nil, rfl⟩
  | cons a l => exact .inr ⟨_, listed_intercalate h, rfl⟩

theorem exists_dumpEntry {value : Json F → Option PyStr} {P : Json F → List Char → Prop}
    {e : PyStr × Json F} (hkey : ∃ chars, e.1 = .ofChars chars)
    (h : ∃ t, value e.2 = some (.ofChars t) ∧ P e.2 t) :
    ∃ t, dumpEntry value e = some (.ofChars t) ∧ EntryText P e t := by
  obtain ⟨chars, hchars⟩ := hkey
  obtain ⟨t, ht, hP⟩ := h
  refine ⟨'"' :: (chars.flatMap escapeChar ++ ['"'] ++ ([] ++ ':' :: ([] ++ t))), ?_,
    ⟨_, [], [], t, ?_, blank_nil, blank_nil, hP, rfl⟩⟩
  · rw [dumpEntry, ht, hchars, quote_ofChars]
    simp [PyStr.ofChars]
  · rw [hchars]
    exact stringText_quote chars

theorem exists_dumpValue {list : List (Json F) → Option PyStr}
    {dict : List (PyStr × Json F) → Option PyStr} {L : List (Json F) → List Char → Prop}
    {D : List (PyStr × Json F) → List Char → Prop}
    (hlist : ∀ items, v = .list items → ∃ t, list items = some (.ofChars ('[' :: t)) ∧ L items t)
    (hdict : ∀ entries, v = .dict entries →
      ∃ t, dict entries = some (.ofChars ('{' :: t)) ∧ D entries t)
    (hwf : v.WellFormed) (henc : v.Encodable) :
    ∃ t, dumpValue floats list dict v = some (.ofChars t) ∧ ValueText floats L D v t := by
  cases henc with
  | null => exact ⟨_, rfl, .constant (by simp [jsonConstants])⟩
  | bool b => cases b <;> exact ⟨_, rfl, .constant (by simp [jsonConstants])⟩
  | int h =>
    have hrepr : ∃ t, intRepr _ = some t := ⟨_, if_pos h⟩
    obtain ⟨t, ht⟩ := hrepr
    obtain ⟨hi, hn⟩ := intRepr_literal ht
    exact ⟨t, by rw [dumpValue, ht]; rfl, .int hi hn⟩
  | float x =>
    cases x with
    | finite x =>
      have htext : ValueText floats L D (.float (floats.ofLiteral (floats.repr x)))
          (floats.repr x) := .float (floats.repr_literal x)
      rw [floats.ofLiteral_repr] at htext
      exact ⟨_, rfl, htext⟩
    | nan => exact ⟨"NaN".toList, rfl, .constant (by simp [jsonConstants])⟩
    | infinity => exact ⟨"Infinity".toList, rfl, .constant (by simp [jsonConstants])⟩
    | negInfinity => exact ⟨"-Infinity".toList, rfl, .constant (by simp [jsonConstants])⟩
  | str chars => exact ⟨_, congrArg some (quote_ofChars chars), .str (stringText_quote chars)⟩
  | list _ =>
    obtain ⟨t, ht, hL⟩ := hlist _ rfl
    exact ⟨_, ht, .list hL⟩
  | @dict entries _ _ =>
    obtain ⟨t, ht, hD⟩ := hdict _ rfl
    cases hwf with
    | dict hkeys _ =>
      have htext : ValueText floats L D (.dict (lastValues entries).entries) ('{' :: t) :=
        .dict hD
      rw [lastValues_of_nodup hkeys] at htext
      exact ⟨_, ht, htext⟩

/-- A value that can be written is written as a text that spells it. -/
theorem exists_dumps (hwf : v.WellFormed) (henc : v.Encodable) (hin : v.Within depth) :
    ∃ t, dumps floats depth v = some (.ofChars t) ∧ JsonText floats depth v t := by
  induction depth generalizing v with
  | zero =>
    refine exists_dumpValue (fun items hv => ?_) (fun entries hv => ?_) hwf henc
    · rw [hv] at hin
      exact hin.elim
    · rw [hv] at hin
      exact hin.elim
  | succ depth ih =>
    refine exists_dumpValue (fun items hv => ?_) (fun entries hv => ?_) hwf henc
    · subst hv
      cases hwf with | list hwf =>
      cases henc with | list henc =>
      obtain ⟨ts, hts, hforall⟩ := exists_mapM fun v hv => ih (hwf v hv) (henc v hv) (hin v hv)
      exact ⟨_, by rw [hts, Option.map_some, bracketed_ofChars], enclosed_intercalate hforall⟩
    · subst hv
      cases hwf with | dict _ hwf =>
      cases henc with | dict hkeys henc =>
      obtain ⟨ts, hts, hforall⟩ := exists_mapM fun e he =>
        exists_dumpEntry (hkeys e he) (ih (hwf e he) (henc e he) (hin e he))
      exact ⟨_, by rw [hts, Option.map_some, bracketed_ofChars], enclosed_intercalate hforall⟩

/-- Entries that are written with a key repeated say the last value of each key. -/
theorem exists_dumps_entries {entries : List (PyStr × Json F)}
    (h : ∀ e ∈ entries, (∃ chars, e.1 = .ofChars chars) ∧ e.2.WellFormed ∧ e.2.Encodable ∧
      e.2.Within depth) :
    ∃ t, dumps floats (depth + 1) (.dict entries) = some (.ofChars t) ∧
      JsonText floats (depth + 1) (.dict (lastValues entries).entries) t := by
  have hentry (e : PyStr × Json F) (he : e ∈ entries) :
      ∃ t, dumpEntry (dumps floats depth) e = some (.ofChars t) ∧
        EntryText (JsonText floats depth) e t := by
    obtain ⟨hkey, hwf, henc, hin⟩ := h e he
    exact exists_dumpEntry hkey (exists_dumps hwf henc hin)
  obtain ⟨ts, hts, hforall⟩ := exists_mapM hentry
  refine ⟨'{' :: ([','].intercalate ts ++ ['}']), ?_, .dict (enclosed_intercalate hforall)⟩
  rw [dumps, dumpValue, hts, Option.map_some, bracketed_ofChars]

theorem encodable_of_dumpValue {list : List (Json F) → Option PyStr}
    {dict : List (PyStr × Json F) → Option PyStr} {s : PyStr}
    (h : dumpValue floats list dict v = some s) (hs : ∀ n, PyChar.surrogate n ∉ s) :
    v.Encodable ∧ (∀ depth, v.Within depth) ∨ (∃ items, v = .list items ∧ list items = some s) ∨
      ∃ entries, v = .dict entries ∧ dict entries = some s := by
  cases v with
  | null => exact .inl ⟨.null, fun depth => by cases depth <;> trivial⟩
  | bool b => exact .inl ⟨.bool b, fun depth => by cases depth <;> trivial⟩
  | int n =>
    obtain ⟨t, ht, -⟩ := Option.map_eq_some_iff.1 h
    unfold intRepr at ht
    dsimp only at ht
    split at ht
    next hlength => exact .inl ⟨.int hlength, fun depth => by cases depth <;> trivial⟩
    next => cases ht
  | float x => exact .inl ⟨.float x, fun depth => by cases depth <;> trivial⟩
  | str text =>
    obtain rfl := Option.some.inj h
    obtain ⟨chars, rfl⟩ := exists_ofChars.2 fun n hn => hs n (surrogate_mem_quote hn)
    exact .inl ⟨.str chars, fun depth => by cases depth <;> trivial⟩
  | list items => exact .inr (.inl ⟨items, rfl, h⟩)
  | dict entries => exact .inr (.inr ⟨entries, rfl, h⟩)

/-- A conversion of a whole list gives what it gives for each element. -/
theorem exists_of_mapM {α : Type} {f : α → Option PyStr} {l : List α} {parts : List PyStr}
    (h : l.mapM f = some parts) {a : α} (ha : a ∈ l) : ∃ p ∈ parts, f a = some p := by
  have hmem : f a ∈ parts.map some := by
    rw [← mapM_eq_some_iff.1 h]
    exact List.mem_map_of_mem ha
  obtain ⟨p, hp, heq⟩ := List.mem_map.1 hmem
  exact ⟨p, hp, heq.symm⟩

/-- What is written without surrogates was encodable, and nested no deeper than the writer goes. -/
theorem encodable_of_dumps {s : PyStr} (h : dumps floats depth v = some s)
    (hs : ∀ n, PyChar.surrogate n ∉ s) : v.Encodable ∧ v.Within depth := by
  induction depth generalizing v s with
  | zero =>
    obtain ⟨henc, hin⟩ | ⟨items, rfl, hnone⟩ | ⟨entries, rfl, hnone⟩ := encodable_of_dumpValue h hs
    · exact ⟨henc, hin 0⟩
    · cases hnone
    · cases hnone
  | succ depth ih =>
    obtain ⟨henc, hin⟩ | ⟨items, rfl, hitems⟩ | ⟨entries, rfl, hentries⟩ :=
      encodable_of_dumpValue h hs
    · exact ⟨henc, hin _⟩
    · obtain ⟨parts, hparts, rfl⟩ := Option.map_eq_some_iff.1 hitems
      have hall : ∀ v ∈ items, v.Encodable ∧ v.Within depth := by
        intro v hv
        obtain ⟨p, hp, hdump⟩ := exists_of_mapM hparts hv
        exact ih hdump fun n hn => hs n (mem_bracketed hp hn)
      exact ⟨.list fun v hv => (hall v hv).1, fun v hv => (hall v hv).2⟩
    · obtain ⟨parts, hparts, rfl⟩ := Option.map_eq_some_iff.1 hentries
      have hall : ∀ e ∈ entries, (∃ chars, e.1 = .ofChars chars) ∧
          e.2.Encodable ∧ e.2.Within depth := by
        intro e he
        obtain ⟨p, hp, hdump⟩ := exists_of_mapM hparts he
        obtain ⟨text, htext, rfl⟩ := Option.map_eq_some_iff.1 hdump
        have hfree : ∀ n, PyChar.surrogate n ∉ e.1.quote ++ .scalar ':' :: text :=
          fun n hn => hs n (mem_bracketed hp hn)
        exact ⟨exists_ofChars.2 fun n hn =>
            hfree n (List.mem_append_left _ (surrogate_mem_quote hn)),
          ih htext fun n hn => hfree n (List.mem_append_right _ (List.mem_cons_of_mem _ hn))⟩
      exact ⟨.dict (fun e he => (hall e he).1) fun e he => (hall e he).2.1,
        fun e he => (hall e he).2.2⟩

theorem mapM_congr {α β : Type} {f g : α → Option β} {l : List α} (h : ∀ a ∈ l, f a = g a) :
    l.mapM f = l.mapM g := by
  induction l with
  | nil => rfl
  | cons a l ih =>
    obtain ⟨ha, hl⟩ := List.forall_mem_cons.1 h
    rw [List.mapM_cons, List.mapM_cons, ha, ih hl]

/-- How deep the writer can go makes no difference to what it writes. -/
theorem dumps_eq {m n : Nat} (hm : v.Within m) (hn : v.Within n) :
    dumps floats m v = dumps floats n v := by
  induction m generalizing n v with
  | zero =>
    cases v with
    | list items => exact hm.elim
    | dict entries => exact hm.elim
    | _ => cases n <;> rfl
  | succ m ih =>
    cases v with
    | list items =>
      cases n with
      | zero => exact hn.elim
      | succ n =>
        have hparts : items.mapM (dumps floats m) = items.mapM (dumps floats n) :=
          mapM_congr fun v hv => ih (hm v hv) (hn v hv)
        exact congrArg (Option.map _) hparts
    | dict entries =>
      cases n with
      | zero => exact hn.elim
      | succ n =>
        have hparts : entries.mapM (dumpEntry (dumps floats m)) =
            entries.mapM (dumpEntry (dumps floats n)) :=
          mapM_congr fun e he => congrArg (Option.map _) (ih (hm e he) (hn e he))
        exact congrArg (Option.map _) hparts
    | _ => cases n <;> rfl

/-! ## What is read -/

theorem constant_wellFormed {t : List Char} (h : (t, v) ∈ jsonConstants F) : v.WellFormed := by
  simp only [jsonConstants, List.mem_cons, Prod.mk.injEq, List.not_mem_nil, or_false] at h
  rcases h with ⟨-, rfl⟩ | ⟨-, rfl⟩ | ⟨-, rfl⟩ | ⟨-, rfl⟩ | ⟨-, rfl⟩ | ⟨-, rfl⟩ <;> constructor

theorem constant_within {t : List Char} (h : (t, v) ∈ jsonConstants F) : v.Within depth := by
  simp only [jsonConstants, List.mem_cons, Prod.mk.injEq, List.not_mem_nil, or_false] at h
  rcases h with ⟨-, rfl⟩ | ⟨-, rfl⟩ | ⟨-, rfl⟩ | ⟨-, rfl⟩ | ⟨-, rfl⟩ | ⟨-, rfl⟩ <;>
    cases depth <;> trivial

theorem ValueText.wellFormed {list : List (Json F) → List Char → Prop}
    {dict : List (PyStr × Json F) → List Char → Prop} {t : List Char}
    (hlist : ∀ items t, list items t → ∀ v ∈ items, v.WellFormed)
    (hdict : ∀ entries t, dict entries t → ∀ e ∈ entries, e.2.WellFormed)
    (h : ValueText floats list dict v t) : v.WellFormed := by
  cases h with
  | constant h => exact constant_wellFormed h
  | int _ _ => exact .int _
  | float _ => exact .float _
  | str _ => exact .str _
  | list h => exact .list (hlist _ _ h)
  | dict h => exact .dict (lastValues _).nodup fun e he => hdict _ _ h e (mem_lastValues he)

theorem JsonText.wellFormed {t : List Char} (h : JsonText floats depth v t) : v.WellFormed := by
  induction depth generalizing v t with
  | zero => exact ValueText.wellFormed (fun _ _ h => h.elim) (fun _ _ h => h.elim) h
  | succ depth ih =>
    refine ValueText.wellFormed (fun items t h v hv => ?_) (fun entries t h e he => ?_) h
    · obtain ⟨t, ht⟩ := h.forall_exists v hv
      exact ih ht
    · obtain ⟨t, k, u, w, t', -, -, -, ht, -⟩ := h.forall_exists e he
      exact ih ht

theorem JsonText.within {t : List Char} (h : JsonText floats depth v t) : v.Within depth := by
  induction depth generalizing v t with
  | zero =>
    cases h with
    | constant h => exact constant_within h
    | list h => exact h.elim
    | dict h => exact h.elim
    | _ => trivial
  | succ depth ih =>
    cases h with
    | constant h => exact constant_within h
    | list h =>
      intro v hv
      obtain ⟨t, ht⟩ := h.forall_exists v hv
      exact ih ht
    | dict h =>
      intro e he
      obtain ⟨t, k, u, w, t', -, -, -, ht, -⟩ := h.forall_exists e (mem_lastValues he)
      exact ih ht
    | _ => trivial

end MultiDAQ.Lib
