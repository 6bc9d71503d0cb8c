import MultiDAQ.Lib.BitString
import MultiDAQ.Receiver.Verify.Encoding

/-!
# The layout of an event

`layoutBits` is the 12-byte body of an event as the concatenation of its fields. `process_data`
reads every field back (`decodeEvent_packEvent`), and `check_crc` accepts an event when its last
body byte is the exclusive or of the other eleven (`checkCrc_iff`), so that no single byte of the
body can change unnoticed (`checkCrc_set`).
-/

namespace MultiDAQ.Receiver

open MultiDAQ.Lib

/-! ## Bits of a buffer -/

/-- The bits of a buffer, most significant bit of the first word first. -/
def bufferBits (buffer : List UInt16) : List Bool := buffer.flatMap fun w => toBits 16 w.toNat

theorem length_bufferBits (buffer : List UInt16) :
    (bufferBits buffer).length = 16 * buffer.length :=
  length_flatMap (fun _ => length_toBits _ _) buffer

/-- One bit of the buffer, as `get_bits` takes it out of its word. -/
theorem bufferBits_getD {buffer : List UInt16} {i : Nat} (h : i < 16 * buffer.length) :
    ((bufferBits buffer).getD i false).toNat =
      ((buffer.getD (i / 16) 0).toNat >>> (15 - i % 16)) &&& 1 := by
  have hword : i / 16 < buffer.length := by omega
  have hbit : i % 16 < (toBits 16 (buffer[i / 16]).toNat).length := by
    rw [length_toBits]
    exact Nat.mod_lt _ (by decide)
  rw [bufferBits, getD_flatMap (fun _ => length_toBits _ _) (by decide) buffer hword,
    List.getD_eq_getElem _ _ hbit, List.getD_eq_getElem _ _ hword]
  simp only [toBits_eq_map, List.getElem_map, List.getElem_range, Nat.add_one_sub_one]
  rw [Nat.and_one_is_mod, Nat.testBit_eq_decide_div_mod_eq, Nat.shiftRight_eq_div_pow]
  generalize buffer[i / 16].toNat / 2 ^ (15 - i % 16) = q
  rcases Nat.mod_two_eq_zero_or_one q with h | h <;> simp [h]

/-- `get_bits` reads a slice of the bits. -/
theorem getBits_eq_ofBits {buffer : List UInt16} {bitOffset numBits : Nat}
    (h : bitOffset + numBits ≤ 16 * buffer.length) :
    getBits buffer bitOffset numBits = ofBits (slice (bufferBits buffer) bitOffset numBits) := by
  rw [slice_eq_map (length_bufferBits buffer ▸ h), ofBits, List.foldl_map, getBits]
  refine List.foldl_ext _ _ _ fun r k hk => ?_
  have hk' := List.mem_range.1 hk
  dsimp only
  rw [bufferBits_getD (by omega)]

/-! ## Packing -/

/-- The bits of an event that carry no field. -/
structure Spare where
  first : BitVec 3
  second : BitVec 1
  third : BitVec 5

/-- The fields of the 12-byte body of an event, with their widths. The coarse counter stands in
three pieces. -/
def layout (e : EventRecord) (spare : Spare) (crc : UInt8) : List (Nat × Nat) :=
  [(3, spare.first.toNat), (5, e.canale), (16, e.tempo16Bit), (8, e.coarseTime >>> 20),
   (1, spare.second.toNat), (7, e.coarseTime >>> 13), (13, e.coarseTime), (6, e.tot),
   (5, e.tdcTriggerEnd), (5, spare.third.toNat), (5, e.tdcTime), (14, e.energia), (8, crc.toNat)]

/-- The six words of a body. -/
def packWords (e : EventRecord) (spare : Spare) (crc : UInt8) : List UInt16 :=
  (List.range 6).map fun j =>
    UInt16.ofNat (ofBits (slice (packFields (layout e spare crc)) (16 * j) 16))

/-- An event in memory: two bytes, the body, two bytes. -/
def packEvent (head tail : UInt16) (e : EventRecord) (spare : Spare) (crc : UInt8) : Bytes :=
  (head :: packWords e spare crc ++ [tail]).flatMap fun w => littleEndian 2 w.toNat

theorem bufferBits_packWords (e : EventRecord) (spare : Spare) (crc : UInt8) :
    bufferBits (packWords e spare crc) = packFields (layout e spare crc) := by
  have hlen : (packFields (layout e spare crc)).length = 16 * 6 := by
    simp [layout]
  have hword (j : Nat) (hj : j ∈ List.range 6) :
      toBits 16 (UInt16.ofNat (ofBits (slice (packFields (layout e spare crc)) (16 * j) 16))).toNat
        = slice (packFields (layout e spare crc)) (16 * j) 16 := by
    have hj' := List.mem_range.1 hj
    have hslice : (slice (packFields (layout e spare crc)) (16 * j) 16).length = 16 := by
      rw [slice, List.length_take, List.length_drop, hlen]
      omega
    rw [UInt16.toNat_ofNat', toBits_mod 16]
    conv_rhs => rw [← toBits_ofBits (slice _ (16 * j) 16), hslice]
  calc bufferBits (packWords e spare crc)
    _ = (List.range 6).flatMap fun j => slice (packFields (layout e spare crc)) (16 * j) 16 := by
      rw [bufferBits, packWords, List.flatMap_map]
      exact List.flatMap_congr hword
    _ = _ := flatMap_slice _ 6 hlen

/-- A word is read back from its two bytes. -/
theorem word_littleEndian (w : UInt16) :
    (UInt8.ofNat w.toNat).toUInt16 ||| (UInt8.ofNat (w.toNat >>> 8)).toUInt16 <<< 8 = w := by
  have hlt : w.toNat < 2 ^ 16 := w.toNat_lt
  have hhigh : w.toNat / 2 ^ 8 % 2 ^ 8 = w.toNat / 2 ^ 8 := Nat.mod_eq_of_lt (by omega)
  have hlow : w.toNat % 2 ^ 8 < 2 ^ 8 := Nat.mod_lt _ (by decide)
  have hshift : (w.toNat / 2 ^ 8) <<< 8 % 2 ^ 16 = 2 ^ 8 * (w.toNat / 2 ^ 8) := by
    rw [Nat.shiftLeft_eq, Nat.mod_eq_of_lt (by omega), Nat.mul_comm]
  refine UInt16.toNat_inj.1 ?_
  calc ((UInt8.ofNat w.toNat).toUInt16 ||| (UInt8.ofNat (w.toNat >>> 8)).toUInt16 <<< 8).toNat
    _ = w.toNat % 2 ^ 8 ||| (w.toNat / 2 ^ 8 % 2 ^ 8) <<< 8 % 2 ^ 16 := by
      rw [UInt16.toNat_or, UInt16.toNat_shiftLeft, UInt8.toNat_toUInt16, UInt8.toNat_toUInt16,
        UInt8.toNat_ofNat', UInt8.toNat_ofNat', Nat.shiftRight_eq_div_pow]
      rfl
    _ = 2 ^ 8 * (w.toNat / 2 ^ 8) + w.toNat % 2 ^ 8 := by
      rw [hhigh, hshift, Nat.or_comm, Nat.two_pow_add_eq_or_of_lt hlow]
    _ = w.toNat := Nat.div_add_mod _ _

/-- The words in the middle of an event are cut out of it. -/
theorem cutBuffer_flatMap (head tail : UInt16) (g : Nat → UInt16) :
    cutBuffer ((head :: (List.range 6).map g ++ [tail]).flatMap fun w => littleEndian 2 w.toNat) =
      (List.range 6).map g := by
  refine List.map_congr_left fun j hj => ?_
  have hj' := List.mem_range.1 hj
  rw [← word_littleEndian (g j), wordAt]
  obtain rfl | rfl | rfl | rfl | rfl | rfl : j = 0 ∨ j = 1 ∨ j = 2 ∨ j = 3 ∨ j = 4 ∨ j = 5 := by
    omega
  all_goals rfl

theorem cutBuffer_packEvent (head tail : UInt16) (e : EventRecord) (spare : Spare) (crc : UInt8) :
    cutBuffer (packEvent head tail e spare crc) = packWords e spare crc :=
  cutBuffer_flatMap head tail _

/-! ## Decoding -/

/-- Every field of a packed event is read at the place the layout gives it. -/
theorem getBits_packWords {e : EventRecord} {spare : Spare} {crc : UInt8} {n x i : Nat} (k : Nat)
    (h : (layout e spare crc)[k]? = some (n, x))
    (hi : (((layout e spare crc).take k).map (·.1)).sum = i) (hle : i + n ≤ 96) :
    getBits (packWords e spare crc) i n = x % 2 ^ n := by
  have hlen : (packWords e spare crc).length = 6 := by simp [packWords]
  rw [getBits_eq_ofBits (by rw [hlen]; exact hle), bufferBits_packWords]
  exact ofBits_slice_packFields h hi

/-- The three pieces of the coarse counter. -/
theorem coarse_pieces {t : Nat} (h : t < 2 ^ 28) :
    ((t >>> 20 % 2 ^ 8) <<< 20) ||| ((t >>> 13 % 2 ^ 7) <<< 13) ||| t % 2 ^ 13 = t := by
  refine Nat.eq_of_testBit_eq fun i => ?_
  simp only [Nat.testBit_or, Nat.testBit_shiftLeft, Nat.testBit_mod_two_pow,
    Nat.testBit_shiftRight]
  rcases Nat.lt_or_ge i 13 with h13 | h13
  · simp [h13, Nat.not_le.2 h13, show ¬20 ≤ i by omega]
  rcases Nat.lt_or_ge i 20 with h20 | h20
  · simp [h13, Nat.not_lt.2 h13, Nat.not_le.2 h20, show i - 13 < 7 by omega,
      Nat.add_sub_cancel' h13]
  rcases Nat.lt_or_ge i 28 with h28 | h28
  · simp [h13, h20, show ¬i < 13 by omega, show ¬i - 13 < 7 by omega, show i - 20 < 8 by omega,
      Nat.add_sub_cancel' h20]
  · have hhigh : t.testBit i = false :=
      Nat.testBit_lt_two_pow (Nat.lt_of_lt_of_le h (Nat.pow_le_pow_right (by decide) h28))
    simp [hhigh, show ¬i < 13 by omega, show ¬i - 13 < 7 by omega, show ¬i - 20 < 8 by omega]

/-- `process_data` reads back what was packed. -/
theorem decodeEvent_packEvent {e : EventRecord} (h : e.Narrow) (head tail : UInt16) (spare : Spare)
    (crc : UInt8) : decodeEvent (cutBuffer (packEvent head tail e spare crc)) = e := by
  have hfield {n x i : Nat} (k : Nat) (hk : (layout e spare crc)[k]? = some (n, x))
      (hi : (((layout e spare crc).take k).map (·.1)).sum = i) (hle : i + n ≤ 96)
      (hx : x < 2 ^ n) : getBits (packWords e spare crc) i n = x :=
    (getBits_packWords k hk hi hle).trans (Nat.mod_eq_of_lt hx)
  have hcanale : getBits (packWords e spare crc) 3 5 = e.canale :=
    hfield 1 rfl (by simp [layout]) (by decide) h.canale
  have htempo : getBits (packWords e spare crc) 8 16 = e.tempo16Bit :=
    hfield 2 rfl (by simp [layout]) (by decide) h.tempo16Bit
  have hhigh : getBits (packWords e spare crc) 24 8 = (e.coarseTime >>> 20) % 2 ^ 8 :=
    getBits_packWords 3 rfl (by simp [layout]) (by decide)
  have hmid : getBits (packWords e spare crc) 33 7 = (e.coarseTime >>> 13) % 2 ^ 7 :=
    getBits_packWords 5 rfl (by simp [layout]) (by decide)
  have hlow : getBits (packWords e spare crc) 40 13 = e.coarseTime % 2 ^ 13 :=
    getBits_packWords 6 rfl (by simp [layout]) (by decide)
  have htot : getBits (packWords e spare crc) 53 6 = e.tot :=
    hfield 7 rfl (by simp [layout]) (by decide) h.tot
  have hend : getBits (packWords e spare crc) 59 5 = e.tdcTriggerEnd :=
    hfield 8 rfl (by simp [layout]) (by decide) h.tdcTriggerEnd
  have htdc : getBits (packWords e spare crc) 69 5 = e.tdcTime :=
    hfield 10 rfl (by simp [layout]) (by decide) h.tdcTime
  have henergia : getBits (packWords e spare crc) 74 14 = e.energia :=
    hfield 11 rfl (by simp [layout]) (by decide) h.energia
  rw [cutBuffer_packEvent, decodeEvent, hcanale, htempo, hhigh, hmid, hlow, htot, hend, htdc,
    henergia, coarse_pieces h.coarseTime]

/-! ## The check sum -/

/-- The body of an event in the order of its bits: the bytes of a word are swapped in memory. -/
def bodyBytes (event : Bytes) : Bytes :=
  (List.range 12).map fun k => event.getD (2 + (k ^^^ 1)) 0

theorem toNat_wordAt (event : Bytes) (i : Nat) :
    (wordAt event i).toNat = 2 ^ 8 * (event.getD (i + 1) 0).toNat + (event.getD i 0).toNat := by
  have hlow : (event.getD i 0).toNat < 2 ^ 8 := (event.getD i 0).toNat_lt
  have hhigh : (event.getD (i + 1) 0).toNat < 2 ^ 8 := (event.getD (i + 1) 0).toNat_lt
  rw [wordAt, UInt16.toNat_or, UInt16.toNat_shiftLeft, UInt8.toNat_toUInt16, UInt8.toNat_toUInt16,
    Nat.two_pow_add_eq_or_of_lt hlow, Nat.or_comm]
  refine congrArg (· ||| _) ?_
  rw [show (8 : UInt16).toNat % 16 = 8 from rfl, Nat.shiftLeft_eq, Nat.mod_eq_of_lt (by omega),
    Nat.mul_comm]

/-- The bits of a word are those of its second byte in memory, then those of its first. -/
theorem toBits_wordAt (event : Bytes) (i : Nat) :
    toBits 16 (wordAt event i).toNat =
      toBits 8 (event.getD (i + 1) 0).toNat ++ toBits 8 (event.getD i 0).toNat := by
  have hlow : (event.getD i 0).toNat < 2 ^ 8 := (event.getD i 0).toNat_lt
  rw [show 16 = 8 + 8 from rfl, toBits_add, toNat_wordAt, Nat.shiftRight_eq_div_pow,
    Nat.mul_add_div (by decide), Nat.div_eq_of_lt hlow, Nat.add_zero,
    ← toBits_mod 8 (2 ^ 8 * _ + _), Nat.mul_add_mod, Nat.mod_eq_of_lt hlow]

theorem bufferBits_cutBuffer (event : Bytes) :
    bufferBits (cutBuffer event) = (bodyBytes event).flatMap fun b => toBits 8 b.toNat := by
  simp only [bufferBits, cutBuffer, bodyBytes, List.flatMap_map, toBits_wordAt]
  rfl

theorem getBits_body (event : Bytes) {k : Nat} (hk : k < 12) :
    getBits (cutBuffer event) (k * 8) 8 = ((bodyBytes event).getD k 0).toNat := by
  have hlen : (bodyBytes event).length = 12 := by simp [bodyBytes]
  have hcut : (cutBuffer event).length = 6 := by simp [cutBuffer]
  have hk' : k < (bodyBytes event).length := hlen ▸ hk
  rw [getBits_eq_ofBits (by rw [hcut]; omega), bufferBits_cutBuffer, Nat.mul_comm,
    slice_flatMap (fun _ => length_toBits _ _) _ hk', ofBits_toBits,
    Nat.mod_eq_of_lt (UInt8.toNat_lt _), List.getD_eq_getElem _ _ hk']

@[simp] theorem length_bodyBytes (event : Bytes) : (bodyBytes event).length = 12 := by
  simp [bodyBytes]

/-- The exclusive or of all bytes. -/
def parity (bytes : Bytes) : UInt8 := checkSum (· ^^^ ·) 0 bytes

theorem parity_append (l m : Bytes) : parity (l ++ m) = parity l ^^^ parity m :=
  checkSum_append _ _ (fun _ => UInt8.zero_xor) l m

theorem parity_single (b : UInt8) : parity [b] = b := UInt8.xor_zero

/-- The loop of `check_crc` over the first `n` bytes. -/
theorem crcCalc_eq_parity (event : Bytes) {n : Nat} (hn : n ≤ 11) :
    (List.range n).foldl
        (fun crc byteIdx => crc ^^^ getBits (cutBuffer event) (byteIdx * 8) 8) 0 =
      (parity ((bodyBytes event).take n)).toNat := by
  induction n with
  | zero => rfl
  | succ n ih =>
    have hlt : n < (bodyBytes event).length := by
      rw [length_bodyBytes]
      omega
    rw [List.range_succ, List.foldl_append, ih (by omega), List.foldl_cons, List.foldl_nil,
      getBits_body event (by omega), List.getD_eq_getElem _ _ hlt, ← UInt8.toNat_xor,
      List.take_succ_eq_append_getElem hlt, parity_append, parity_single]

/-- `check_crc` accepts an event when its last body byte is the exclusive or of the others. -/
theorem checkCrc_iff (event : Bytes) :
    checkCrc (cutBuffer event) = true ↔
      (bodyBytes event).getD 11 0 = parity ((bodyBytes event).take 11) := by
  unfold checkCrc
  rw [crcCalc_eq_parity event (Nat.le_refl 11), getBits_body event (k := 11) (by decide)]
  simp only [beq_iff_eq]
  exact UInt8.toNat_inj

/-- The exclusive or of all twelve bytes of an accepted event is zero. -/
theorem checkCrc_iff_parity (event : Bytes) :
    checkCrc (cutBuffer event) = true ↔ parity (bodyBytes event) = 0 := by
  have hlt : 11 < (bodyBytes event).length := by
    rw [length_bodyBytes]
    decide
  have hall : bodyBytes event = (bodyBytes event).take 11 ++ [(bodyBytes event)[11]] := by
    rw [← List.take_succ_eq_append_getElem hlt, List.take_of_length_le (by simp)]
  rw [checkCrc_iff, List.getD_eq_getElem _ _ hlt]
  conv_rhs => rw [hall]
  rw [parity_append, parity_single, UInt8.xor_eq_zero_iff]
  exact eq_comm

/-- Another byte in one place of the body. -/
theorem bodyBytes_set {event : Bytes} (hlen : event.length = 16) {k : Nat} (hk : k < 12)
    (v : UInt8) : bodyBytes (event.set (2 + k) v) = (bodyBytes event).set (k ^^^ 1) v := by
  have hcancel : ∀ k < 12, ∀ m < 12, 2 + k = 2 + (m ^^^ 1) ↔ k ^^^ 1 = m := by decide
  refine List.ext_getElem (by simp) fun m hm _ => ?_
  have hm' : m < 12 := by simpa using hm
  simp only [bodyBytes, List.getElem_map, List.getElem_range, List.getElem_set,
    List.getD_eq_getElem?_getD, List.getElem?_set, hcancel k hk m hm', hlen]
  split
  · simp [show 2 + k < 16 by omega]
  · rfl

/-- An accepted event with another value in one byte of its body is rejected. -/
theorem checkCrc_set {event : Bytes} (hlen : event.length = 16)
    (h : checkCrc (cutBuffer event) = true) {k : Nat} (hk : k < 12) {v : UInt8}
    (hv : event.getD (2 + k) 0 ≠ v) : checkCrc (cutBuffer (event.set (2 + k) v)) = false := by
  have hxor : ∀ k < 12, k ^^^ 1 < 12 ∧ k ^^^ 1 ^^^ 1 = k := by decide
  obtain ⟨hlt, hback⟩ := hxor k hk
  have hpos : k ^^^ 1 < (bodyBytes event).length := by rwa [length_bodyBytes]
  have hget : (bodyBytes event)[k ^^^ 1] = event.getD (2 + k) 0 := by simp [bodyBytes, hback]
  have hself (a b : UInt8) : a ^^^ (a ^^^ b) = b := by
    rw [← UInt8.xor_assoc, UInt8.xor_self, UInt8.zero_xor]
  rw [← Bool.not_eq_true, checkCrc_iff_parity, bodyBytes_set hlen hk, parity,
    checkSum_set _ _ hself _ hpos, hget]
  rw [checkCrc_iff_parity, parity] at h
  rw [h, UInt8.xor_zero, UInt8.xor_eq_zero_iff]
  exact hv

/-- Whatever the values of the fields, they are read back as they were packed, and `check_crc`
accepts exactly the events whose last body byte is the exclusive or of the other eleven: another
value in one byte of the body is always noticed. -/
theorem event_layout :
    (∀ e : EventRecord, e.Narrow → ∀ head tail spare crc,
      decodeEvent (cutBuffer (packEvent head tail e spare crc)) = e) ∧
    ∀ event : Bytes, event.length = eventSizeBytes →
      (checkCrc (cutBuffer event) = true ↔
        (bodyBytes event).getD 11 0 = parity ((bodyBytes event).take 11)) ∧
      (checkCrc (cutBuffer event) = true → ∀ k < 12, ∀ v, event.getD (2 + k) 0 ≠ v →
        checkCrc (cutBuffer (event.set (2 + k) v)) = false) :=
  ⟨fun _ he head tail spare crc => decodeEvent_packEvent he head tail spare crc,
    fun event hlen => ⟨checkCrc_iff event, fun h _ hk _ hv => checkCrc_set hlen h hk hv⟩⟩

/-- An event with the widest value in every field. -/
def widestEvent : EventRecord where
  canale := 31
  tempo16Bit := 65535
  coarseTime := 268435455
  tdcTime := 31
  tot := 63
  tdcTriggerEnd := 31
  energia := 16383

/-- Its bytes in memory. -/
def widestBytes : Bytes :=
  [0, 0, 0xff, 0x1f, 0xff, 0xff, 0xff, 0x7f, 0xff, 0xff, 0xff, 0x07, 0x67, 0xff, 0, 0]

/-- The widest event is read back, is accepted, and is rejected with another byte in the place of the
first of its body. -/
theorem event_layout_widest :
    decodeEvent (cutBuffer (packEvent 0 0 widestEvent ⟨0, 0, 0⟩ 0x67)) = widestEvent ∧
      checkCrc (cutBuffer widestBytes) = true ∧
      checkCrc (cutBuffer (widestBytes.set 2 0)) = false := by
  have hsum : checkCrc (cutBuffer widestBytes) = true :=
    (event_layout.2 widestBytes rfl).1.2 (by decide)
  refine ⟨event_layout.1 _ ⟨?_, ?_, ?_, ?_, ?_, ?_, ?_⟩ _ _ _ _, hsum,
    (event_layout.2 widestBytes rfl).2 hsum 0 (by decide) 0 (by decide)⟩
  all_goals decide

end MultiDAQ.Receiver
