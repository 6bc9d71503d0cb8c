import Mathlib.Data.List.Basic

/-!
# UTF-8 as Python encodes and decodes it

A text is encoded character by character. Decoding is strict, and undoes it
(`utf8Decode_eq_some`). The bytes of a character outside ASCII are at least two, and none of them is
below 128.
-/

namespace MultiDAQ.Lib

/-- `str.encode("utf-8")`. -/
def utf8Encode (text : List Char) : List UInt8 := text.flatMap String.utf8EncodeChar

/-- `bytes.decode("utf-8")`; it raises on bytes that no text has. -/
def utf8Decode (bytes : List UInt8) : Option (List Char) :=
  bytes.toByteArray.utf8Decode?.map Array.toList

section Encode

variable {text : List Char}

@[simp] theorem utf8Encode_nil : utf8Encode [] = [] := rfl

theorem utf8Encode_cons (c : Char) (text : List Char) :
    utf8Encode (c :: text) = String.utf8EncodeChar c ++ utf8Encode text := rfl

/-- The bytes of a character that are not above 127 are the character itself. -/
theorem mem_utf8EncodeChar {b : UInt8} (hb : b.toNat < 128) {c : Char} :
    b ∈ String.utf8EncodeChar c ↔ c.toNat = b.toNat := by
  have hofNat {n : Nat} (hn : n < 256) : b = UInt8.ofNat n ↔ b.toNat = n := by
    rw [← UInt8.toNat_inj, UInt8.toNat_ofNat_of_lt' hn]
  show _ ↔ c.val.toNat = b.toNat
  unfold String.utf8EncodeChar
  dsimp only
  split
  · rw [List.mem_singleton, hofNat (by omega)]
    omega
  · split
    · simp only [List.mem_cons, List.not_mem_nil, or_false]
      rw [hofNat (by omega), hofNat (by omega)]
      omega
    · split
      · simp only [List.mem_cons, List.not_mem_nil, or_false]
        rw [hofNat (by omega), hofNat (by omega), hofNat (by omega)]
        omega
      · simp only [List.mem_cons, List.not_mem_nil, or_false]
        rw [hofNat (by omega), hofNat (by omega), hofNat (by omega), hofNat (by omega)]
        omega

/-- The bytes of a character outside ASCII. -/
theorem utf8EncodeChar_of_le {c : Char} (h : 128 ≤ c.toNat) :
    ∃ b₀ b₁ rest, String.utf8EncodeChar c = b₀ :: b₁ :: rest ∧ 128 ≤ b₀.toNat ∧
      128 ≤ b₁.toNat := by
  have hhigh : ∀ b ∈ String.utf8EncodeChar c, 128 ≤ b.toNat := by
    intro b hb
    by_contra hlow
    have := (mem_utf8EncodeChar (Nat.not_le.1 hlow)).1 hb
    omega
  obtain ⟨b₀, b₁, rest, hbytes⟩ : ∃ b₀ b₁ rest, String.utf8EncodeChar c = b₀ :: b₁ :: rest := by
    unfold String.utf8EncodeChar
    dsimp only
    rw [if_neg (show ¬c.val.toNat ≤ 0x7f from Nat.not_le.2 h)]
    split
    · exact ⟨_, _, _, rfl⟩
    · split <;> exact ⟨_, _, _, rfl⟩
  rw [hbytes] at hhigh
  exact ⟨b₀, b₁, rest, hbytes, hhigh b₀ (by simp), hhigh b₁ (by simp)⟩

/-- ASCII characters are encoded as they are. -/
theorem utf8Encode_ascii (h : ∀ c ∈ text, c.toNat < 128) :
    utf8Encode text = text.map fun c => c.toNat.toUInt8 := by
  induction text with
  | nil => rfl
  | cons c text ih =>
    have hc := h c List.mem_cons_self
    rw [utf8Encode_cons, ih fun d hd => h d (List.mem_cons_of_mem _ hd)]
    unfold String.utf8EncodeChar
    dsimp only
    rw [if_pos (show c.val.toNat ≤ 0x7f from Nat.le_of_lt_succ hc)]
    rfl

end Encode

theorem utf8Decode_utf8Encode (text : List Char) : utf8Decode (utf8Encode text) = some text := by
  show text.utf8Encode.utf8Decode?.map Array.toList = some text
  rw [List.utf8Decode?_utf8Encode]
  rfl

theorem utf8Encode_injective {s t : List Char} (h : utf8Encode s = utf8Encode t) : s = t := by
  have hdecode := congrArg utf8Decode h
  rw [utf8Decode_utf8Encode, utf8Decode_utf8Encode] at hdecode
  exact Option.some.inj hdecode

theorem utf8Decode_eq_some {bytes : List UInt8} {text : List Char} :
    utf8Decode bytes = some text ↔ bytes = utf8Encode text := by
  constructor
  · intro h
    obtain ⟨chars, hchars, rfl⟩ := Option.map_eq_some_iff.1 h
    obtain ⟨l, hl⟩ :=
      ByteArray.isSome_utf8Decode?_iff.1 (Option.isSome_iff_exists.2 ⟨chars, hchars⟩)
    rw [hl, List.utf8Decode?_utf8Encode] at hchars
    obtain rfl := Option.some.inj hchars
    have hdata : bytes.toByteArray.data = (utf8Encode l).toByteArray.data :=
      congrArg ByteArray.data hl
    rw [List.data_toByteArray, List.data_toByteArray] at hdata
    exact List.toArray_inj hdata
  · rintro rfl
    exact utf8Decode_utf8Encode text

end MultiDAQ.Lib
