import MultiDAQ.Client.PmtSerial
import MultiDAQ.Lib.PyInt

/-!
# Which serial numbers are read back

A serial number is cut to twelve bytes and filled up with NULs, and every string is accepted. The
words are read as signed ones, so that a board with a byte above 127 in the first half of a word
cannot be read at all: a character outside ASCII always puts one there. What is read is stripped of
NULs and blanks. So a serial number is read back exactly when it is in ASCII, has between one and
twelve characters, and begins and ends with none of those that are stripped. What the command does
on the line is what is said of the registers here (`setPmtSerial_command`).
-/

namespace MultiDAQ.Client.HV

open MultiDAQ.Lib

/-! ## Words and bytes -/

/-- The first byte of every word is below 128. -/
def HighLow : List UInt8 → Prop
  | [] => True
  | [high] => high.toNat < 128
  | high :: _ :: bytes => high.toNat < 128 ∧ HighLow bytes

instance HighLow.decidable : ∀ bytes, Decidable (HighLow bytes)
  | [] => .isTrue trivial
  | [high] => inferInstanceAs (Decidable (high.toNat < 128))
  | high :: _ :: bytes =>
    have := HighLow.decidable bytes
    inferInstanceAs (Decidable (high.toNat < 128 ∧ HighLow bytes))

theorem packSigned_cons (word : Nat) (words : List Nat) :
    packSigned (word :: words) = if word < 0x8000 then
      (packSigned words).map ([(word / 256).toUInt8, (word % 256).toUInt8] ++ ·) else none := by
  unfold packSigned
  by_cases hword : word < 0x8000 <;> by_cases hwords : words.all (· < 0x8000) = true <;>
    simp [hword, hwords]

/-- The words of an even number of bytes are read as signed ones exactly when their first bytes are
below 128, and give the bytes again. -/
theorem packSigned_unpackWords : ∀ {bytes : List UInt8}, bytes.length % 2 = 0 →
    packSigned (unpackWords bytes) = if HighLow bytes then some bytes else none
  | [], _ => rfl
  | [_], heven => by cases heven
  | high :: low :: bytes, heven => by
    rw [List.length_cons, List.length_cons] at heven
    have ih := @packSigned_unpackWords bytes (by omega)
    have hlow := low.toNat_lt
    have hword : 256 * high.toNat + low.toNat < 0x8000 ↔ high.toNat < 128 := by omega
    have hfirst : ((256 * high.toNat + low.toNat) / 256).toUInt8 = high := by
      rw [show (256 * high.toNat + low.toNat) / 256 = high.toNat by omega]
      exact UInt8.ofNat_toNat
    have hsecond : ((256 * high.toNat + low.toNat) % 256).toUInt8 = low := by
      rw [show (256 * high.toNat + low.toNat) % 256 = low.toNat by omega]
      exact UInt8.ofNat_toNat
    rw [unpackWords, packSigned_cons, ih, hfirst, hsecond]
    show _ = if high.toNat < 128 ∧ HighLow bytes then _ else _
    by_cases hhigh : high.toNat < 128 <;> by_cases hrest : HighLow bytes <;>
      simp [hword, hhigh, hrest]

/-- Where the first byte of every word is below 128, or the second, all characters are in ASCII:
each other character has two bytes side by side that are not. -/
theorem ascii_of_highLow : ∀ {text : List Char},
    HighLow (utf8Encode text) ∨ HighLow (utf8Encode text).tail → ∀ c ∈ text, c.toNat < 128
  | [], _ => nofun
  | c :: text, h => by
    rw [utf8Encode_cons] at h
    by_cases hc : c.toNat < 128
    · have hbyte : String.utf8EncodeChar c = [c.toNat.toUInt8] := by
        have := @utf8Encode_ascii [c] (by simpa using hc)
        rwa [utf8Encode_cons, utf8Encode_nil, List.append_nil] at this
      rw [hbyte] at h
      refine List.forall_mem_cons.2 ⟨hc, ascii_of_highLow ?_⟩
      rcases h with h | h
      · right
        cases hrest : utf8Encode text with
        | nil => trivial
        | cons b bytes =>
          rw [hrest] at h
          exact h.2
      · exact .inl h
    · obtain ⟨b₀, b₁, rest, hbytes, h₀, h₁⟩ := utf8EncodeChar_of_le (Nat.not_lt.1 hc)
      rw [hbytes] at h
      rcases h with h | h
      · exact absurd h.1 (Nat.not_lt.2 h₀)
      · refine absurd ?_ (Nat.not_lt.2 h₁)
        cases hrest : rest ++ utf8Encode text with
        | nil =>
          rw [List.cons_append, List.cons_append, hrest] at h
          exact h
        | cons b bytes =>
          rw [List.cons_append, List.cons_append, hrest] at h
          exact h.1

theorem highLow_of_forall : ∀ {bytes : List UInt8}, (∀ b ∈ bytes, b.toNat < 128) → HighLow bytes
  | [], _ => trivial
  | [high], h => h high List.mem_cons_self
  | high :: _ :: _, h => ⟨h high List.mem_cons_self, highLow_of_forall fun b hb =>
      h b (List.mem_cons_of_mem _ (List.mem_cons_of_mem _ hb))⟩

theorem highLow_ascii {text : List Char} (h : ∀ c ∈ text, c.toNat < 128) :
    HighLow (utf8Encode text) := by
  refine highLow_of_forall fun b hb => ?_
  rw [utf8Encode_ascii h] at hb
  obtain ⟨c, hc, rfl⟩ := List.mem_map.1 hb
  rw [Nat.toUInt8_eq, UInt8.toNat_ofNat_of_lt' (Nat.lt_trans (h c hc) (by decide))]
  exact h c hc

/-! ## The bytes of a serial number -/

/-- A text that is filled up to twelve characters. -/
def padded (text : List Char) : List Char := text ++ List.replicate (12 - text.length) '\x00'

theorem length_serialBytes (sn : String) : (serialBytes sn).length = 12 := by
  rw [serialBytes, List.length_append, List.length_replicate, List.length_take]
  omega

theorem padded_ascii {text : List Char} (h : ∀ c ∈ text, c.toNat < 128) :
    ∀ c ∈ padded text, c.toNat < 128 := by
  intro c hc
  rcases List.mem_append.1 hc with hc | hc
  · exact h c hc
  · rw [List.eq_of_mem_replicate hc]
    decide

theorem serialBytes_ascii {sn : String} (hascii : ∀ c ∈ sn.toList, c.toNat < 128)
    (hlength : sn.toList.length ≤ 12) : serialBytes sn = utf8Encode (padded sn.toList) := by
  rw [utf8Encode_ascii (padded_ascii hascii), serialBytes, utf8Encode_ascii hascii, padded,
    List.map_append, List.take_of_length_le (by rwa [List.length_map]), List.length_map,
    List.map_replicate]
  rfl

/-- What the words of a serial number are read as. -/
theorem decodeRegisters_pack (sn : String) : decodeRegisters (packSnToRegisters sn) =
    if HighLow (serialBytes sn) then (utf8Decode (serialBytes sn)).map String.ofList else none := by
  rw [decodeRegisters, packSnToRegisters,
    packSigned_unpackWords (by rw [length_serialBytes])]
  split <;> rfl

theorem decodeRegisters_of_pack {words : List Nat} {text : List Char}
    (h : packSigned words = some (utf8Encode text)) :
    decodeRegisters words = some (String.ofList text) := by
  rw [decodeRegisters, h, Option.bind_some, utf8Decode_utf8Encode]
  rfl

/-- What the words of a serial number are read as, where its bytes are in ASCII. -/
theorem decodeRegisters_ascii {sn : String} {text : List Char}
    (hbytes : serialBytes sn = utf8Encode text) (hascii : ∀ c ∈ text, c.toNat < 128) :
    decodeRegisters (packSnToRegisters sn) = some (String.ofList text) := by
  rw [decodeRegisters_pack, if_pos (hbytes ▸ highLow_ascii hascii), hbytes, utf8Decode_utf8Encode]
  rfl

theorem decodeRegisters_pack_eq_some {sn text : String}
    (h : decodeRegisters (packSnToRegisters sn) = some text) :
    serialBytes sn = utf8Encode text.toList ∧ ∀ c ∈ text.toList, c.toNat < 128 := by
  rw [decodeRegisters_pack] at h
  split at h
  next hhigh =>
    obtain ⟨chars, hchars, rfl⟩ := Option.map_eq_some_iff.1 h
    rw [String.toList_ofList]
    have hbytes := utf8Decode_eq_some.1 hchars
    exact ⟨hbytes, ascii_of_highLow (.inl (hbytes ▸ hhigh))⟩
  next => cases h

/-! ## Stripping -/

/-- A serial number that is written and read as it is. -/
structure Representable (sn : String) : Prop where
  ascii : ∀ c ∈ sn.toList, c.toNat < 128
  length : sn.toList.length ≤ 12
  nonempty : sn.toList ≠ []
  noNul : rstripChars (· = '\x00') sn.toList = sn.toList
  noBlank : stripChars pySpace sn.toList = sn.toList

theorem rstrip_padded (text : List Char) :
    rstripChars (· = '\x00') (padded text) = rstripChars (· = '\x00') text :=
  rstripChars_append fun c hc => by simpa using List.eq_of_mem_replicate hc

theorem strip_padded (text : List Char) :
    stripChars (· = '\x00') (padded text) = stripChars (· = '\x00') text :=
  stripChars_of_append_right fun c hc => by simpa using List.eq_of_mem_replicate hc

theorem normalizeSerial_toList (serial : String) : (normalizeSerial serial).toList =
    stripChars pySpace (rstripChars (· = '\x00') serial.toList) := by
  rw [normalizeSerial, String.toList_ofList]

theorem Representable.hasSerial {sn : String} (h : Representable sn) :
    hasSerial (String.ofList (padded sn.toList)) = true := by
  obtain ⟨init, c, hc⟩ : ∃ init c, sn.toList = init ++ [c] :=
    ⟨_, _, (List.dropLast_append_getLast h.nonempty).symm⟩
  have hnul : decide (c = '\x00') = false := by
    refine @not_blank_of_rstrip (· = '\x00') init c ?_
    rw [← hc, h.noNul, hc, List.length_append]
    exact Nat.lt_succ_self _
  have hblank : pySpace c = false := by
    refine @not_blank_of_strip pySpace init c ?_
    rw [← hc, h.noBlank, hc, List.length_append]
    exact Nat.lt_succ_self _
  have hmem : c ∈ stripChars pySpace (stripChars (· = '\x00') (padded sn.toList)) := by
    rw [strip_padded]
    refine mem_stripChars (mem_stripChars ?_ hnul) hblank
    rw [hc]
    exact List.mem_append_right init List.mem_cons_self
  unfold HV.hasSerial
  rw [String.toList_ofList, Bool.not_eq_true', List.isEmpty_eq_false_iff]
  exact List.ne_nil_of_mem hmem

/-! ## The round trip -/

/-- The other texts that `getInfo` decodes can be decoded. -/
def InfoRegisters.OthersReadable (regs : InfoRegisters) : Prop :=
  (decodeRegisters regs.fwver).isSome ∧ (decodeRegisters regs.hvsn).isSome ∧
    (decodeRegisters regs.febsn).isSome

theorem getInfo_eq_some {regs : InfoRegisters} {info : BoardInfo} (h : regs.getInfo = some info) :
    regs.OthersReadable ∧ decodeRegisters regs.pmtsn = some info.pmtsn := by
  simp only [InfoRegisters.getInfo, Option.bind_eq_bind, Option.bind_eq_some_iff] at h
  obtain ⟨fwver, hfwver, pmtsn, hpmtsn, hvsn, hhvsn, febsn, hfebsn, ⟨⟩⟩ := h
  exact ⟨⟨by rw [hfwver]; rfl, by rw [hhvsn]; rfl, by rw [hfebsn]; rfl⟩, hpmtsn⟩

theorem exists_getInfo {regs : InfoRegisters} {pmtsn : String} (h : regs.OthersReadable)
    (hpmtsn : decodeRegisters regs.pmtsn = some pmtsn) :
    ∃ info, regs.getInfo = some info ∧ info.pmtsn = pmtsn := by
  obtain ⟨hfwver, hhvsn, hfebsn⟩ := h
  obtain ⟨fwver, hfwver⟩ := Option.isSome_iff_exists.1 hfwver
  obtain ⟨hvsn, hhvsn⟩ := Option.isSome_iff_exists.1 hhvsn
  obtain ⟨febsn, hfebsn⟩ := Option.isSome_iff_exists.1 hfebsn
  simp [InfoRegisters.getInfo, hfwver, hpmtsn, hhvsn, hfebsn]

/-- The registers of the board after a serial number is written. -/
def InfoRegisters.withSerial (regs : InfoRegisters) (sn : String) : InfoRegisters :=
  { regs with pmtsn := packSnToRegisters sn }

theorem representable_of_stripped {sn text : String}
    (hbytes : serialBytes sn = utf8Encode text.toList) (hascii : ∀ c ∈ text.toList, c.toNat < 128)
    (hserial : hasSerial text = true)
    (hlist : sn.toList = stripChars pySpace (rstripChars (· = '\x00') text.toList)) :
    Representable sn := by
  have hlength : text.toList.length = 12 := by
    rw [← length_serialBytes sn, hbytes, utf8Encode_ascii hascii, List.length_map]
  have hmem : ∀ c ∈ sn.toList, c ∈ text.toList := fun c hc =>
    mem_of_mem_rstripChars (mem_of_mem_stripChars (hlist ▸ hc))
  have hshort : sn.toList.length ≤ 12 := by
    rw [hlist, ← hlength]
    exact Nat.le_trans (length_stripChars_le _ _) (length_rstripChars_le _ _)
  -- the text that is read is the serial number with its padding
  have htext : text.toList = padded sn.toList := by
    refine utf8Encode_injective (hbytes.symm.trans (serialBytes_ascii ?_ hshort))
    exact fun c hc => hascii c (hmem c hc)
  rw [htext, rstrip_padded] at hlist
  have hnul : rstripChars (· = '\x00') sn.toList = sn.toList := by
    refine rstripChars_eq_self ?_
    conv_lhs => rw [hlist]
    exact length_stripChars_le _ _
  rw [hnul] at hlist
  refine ⟨fun c hc => hascii c (hmem c hc), hshort, fun hnil => ?_, hnul, hlist.symm⟩
  rw [hnil] at htext
  rw [HV.hasSerial, htext] at hserial
  exact absurd hserial (by decide)

/-- A serial number that is read back, other than "0", which stands for none. -/
theorem representable_of_serialEntry {regs : InfoRegisters} {sn : String}
    (h : (regs.withSerial sn).serialEntry = sn) (hzero : sn ≠ "0") :
    regs.OthersReadable ∧ Representable sn := by
  unfold InfoRegisters.serialEntry at h
  split at h
  next info hinfo =>
    obtain ⟨hothers, hpmtsn⟩ := getInfo_eq_some hinfo
    split at h
    next hserial =>
      obtain ⟨hbytes, hascii⟩ := decodeRegisters_pack_eq_some hpmtsn
      have hlist : sn.toList =
          stripChars pySpace (rstripChars (· = '\x00') info.pmtsn.toList) := by
        rw [← normalizeSerial_toList, h]
      exact ⟨hothers, representable_of_stripped hbytes hascii hserial hlist⟩
    next => exact absurd h.symm hzero
  next => exact absurd h.symm hzero

theorem serialEntry_of_representable {regs : InfoRegisters} {sn : String}
    (hothers : regs.OthersReadable) (h : Representable sn) :
    (regs.withSerial sn).serialEntry = sn := by
  have hpmtsn : decodeRegisters (packSnToRegisters sn) =
      some (String.ofList (padded sn.toList)) :=
    decodeRegisters_ascii (serialBytes_ascii h.ascii h.length) (padded_ascii h.ascii)
  have hothers' : (regs.withSerial sn).OthersReadable := hothers
  obtain ⟨info, hinfo, htext⟩ := exists_getInfo hothers' hpmtsn
  rw [InfoRegisters.serialEntry, hinfo]
  dsimp only
  rw [htext, if_pos h.hasSerial]
  refine String.toList_inj.1 ?_
  rw [normalizeSerial_toList, String.toList_ofList, rstrip_padded, h.noNul, h.noBlank]

/-- The command refuses what the registers refuse, and issues no call then. Otherwise its one call is
the one that writes the serial number, and what the registers take is what is written. -/
theorem setPmtSerial_command (regs : InfoRegisters) (channel : Int) (sn : String) (bus : HvBus)
    (w : World HvLists HvCall) :
    (regs.setPmtSerial channel sn = none ∧ ∃ e, setPmtSerial channel sn bus w = (.error e, w)) ∨
      (regs.setPmtSerial channel sn = some (regs.withSerial sn) ∧
        setPmtSerial channel sn bus w =
          (bus.answer (.setPMTSerialNumber sn channel)
            (w.calls.count (.setPMTSerialNumber sn channel)),
            w.issue (.setPMTSerialNumber sn channel))) := by
  unfold InfoRegisters.setPmtSerial setPmtSerial
  by_cases hchannel : channel < 1 ∨ HVModBus.numChannels < channel
  · rw [if_pos hchannel, if_pos hchannel]
    exact .inl ⟨rfl, _, rfl⟩
  · rw [if_neg hchannel, if_neg hchannel]
    exact .inr ⟨rfl, rfl⟩

theorem ascii_of_all {text : List Char} (h : text.all (·.toNat < 128) = true) :
    ∀ c ∈ text, c.toNat < 128 := by
  simpa using h

theorem representable_zero : Representable "0" where
  ascii := ascii_of_all (by decide)
  length := by decide
  nonempty := by decide
  noNul := by decide
  noBlank := by decide

/-- **Serial numbers.** Whatever the board, the channel and the string: either the string is
refused, or it is read back from the registers that it is written to, if and only if the channel is
out of range, or the string is "0" (the entry of a board that cannot be read), or the board can be
read and the string is in ASCII, of one to twelve characters, without NULs at its end and without
blanks around it. -/
theorem serial_readBack_iff (regs : InfoRegisters) (channel : Int) (sn : String) :
    (∀ regs', regs.setPmtSerial channel sn = some regs' → regs'.serialEntry = sn) ↔
      (channel < 1 ∨ HVModBus.numChannels < channel) ∨ sn = "0" ∨
        regs.OthersReadable ∧ Representable sn := by
  unfold InfoRegisters.setPmtSerial
  by_cases hchannel : channel < 1 ∨ HVModBus.numChannels < channel
  · rw [if_pos hchannel]
    exact iff_of_true nofun (.inl hchannel)
  · rw [if_neg hchannel, or_iff_right hchannel]
    have hwritten : (∀ regs', some (regs.withSerial sn) = some regs' → regs'.serialEntry = sn) ↔
        (regs.withSerial sn).serialEntry = sn :=
      ⟨fun h => h _ rfl, fun h regs' heq => Option.some.inj heq ▸ h⟩
    refine hwritten.trans ⟨fun h => ?_, ?_⟩
    · by_cases hzero : sn = "0"
      · exact .inl hzero
      · exact .inr (representable_of_serialEntry h hzero)
    · rintro (rfl | ⟨hothers, hsn⟩)
      · by_cases hothers : regs.OthersReadable
        · exact serialEntry_of_representable hothers representable_zero
        · unfold InfoRegisters.serialEntry
          split
          next info hinfo => exact absurd (getInfo_eq_some hinfo).1 hothers
          next => rfl
      · exact serialEntry_of_representable hothers hsn

/-- A board whose other texts are in ASCII. -/
def asciiBoard : InfoRegisters where
  fwver := [0x3132]
  pmtsn := List.replicate 6 0
  hvsn := List.replicate 6 0
  febsn := List.replicate 6 0
  devid := (0, 0)

theorem asciiBoard_readable : asciiBoard.OthersReadable := by
  have hnone : decodeRegisters (List.replicate 6 0) =
      some (String.ofList (List.replicate 12 '\x00')) :=
    decodeRegisters_of_pack (by decide)
  have hfwver : decodeRegisters [0x3132] = some (String.ofList ['1', '2']) :=
    decodeRegisters_of_pack (by decide)
  refine ⟨?_, ?_, ?_⟩
  · exact Option.isSome_of_eq_some hfwver
  · exact Option.isSome_of_eq_some hnone
  · exact Option.isSome_of_eq_some hnone

/-- Of thirteen characters twelve are written, and read back. -/
theorem serial_cut :
    (asciiBoard.setPmtSerial 1 "KM81276-00001").map InfoRegisters.serialEntry =
      some "KM81276-0000" := by
  have hpmtsn : decodeRegisters (packSnToRegisters "KM81276-00001") =
      some (String.ofList "KM81276-0000".toList) :=
    decodeRegisters_ascii (by decide) (ascii_of_all (by decide))
  have hothers : (asciiBoard.withSerial "KM81276-00001").OthersReadable := asciiBoard_readable
  obtain ⟨info, hinfo, htext⟩ := exists_getInfo hothers hpmtsn
  have hwritten : asciiBoard.setPmtSerial 1 "KM81276-00001" =
      some (asciiBoard.withSerial "KM81276-00001") := rfl
  rw [hwritten, Option.map_some, InfoRegisters.serialEntry, hinfo]
  dsimp only
  rw [htext]
  decide +kernel

end MultiDAQ.Client.HV
