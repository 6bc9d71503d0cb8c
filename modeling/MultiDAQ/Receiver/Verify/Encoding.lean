import MultiDAQ.Receiver.Event

/-!
# The size of a record

The fields of an event are as wide as the bit strings they are read from, so the record of an event
is short: it fits in what a flush leaves free of the write buffer (`encode_length`).
-/

namespace MultiDAQ.Receiver

/-! ## Fields -/

theorem getBits_lt (buffer : List UInt16) (bitOffset numBits : Nat) :
    getBits buffer bitOffset numBits < 2 ^ numBits := by
  unfold getBits
  induction numBits with
  | zero => exact Nat.one_pos
  | succ n ih =>
    rw [List.range_succ, List.foldl_append, List.foldl_cons, List.foldl_nil]
    refine Nat.or_lt_two_pow ?_ ?_
    · rw [Nat.shiftLeft_eq, Nat.pow_succ]
      exact Nat.mul_lt_mul_of_pos_right ih (by decide)
    · calc _ ≤ 1 := Nat.and_le_right
        _ < 2 ^ (n + 1) := Nat.one_lt_two_pow (by omega)

/-- The fields of a decoded event are within their widths. -/
structure EventRecord.Narrow (e : EventRecord) : Prop where
  canale : e.canale < 2 ^ 5
  tempo16Bit : e.tempo16Bit < 2 ^ 16
  coarseTime : e.coarseTime < 2 ^ 28
  tdcTime : e.tdcTime < 2 ^ 5
  tot : e.tot < 2 ^ 6
  tdcTriggerEnd : e.tdcTriggerEnd < 2 ^ 5
  energia : e.energia < 2 ^ 14

theorem shiftLeft_lt {x n k m : Nat} (hx : x < 2 ^ n) (hm : n + k ≤ m) : x <<< k < 2 ^ m := by
  rw [Nat.shiftLeft_eq]
  calc x * 2 ^ k < 2 ^ n * 2 ^ k := Nat.mul_lt_mul_of_pos_right hx (Nat.two_pow_pos k)
    _ = 2 ^ (n + k) := (Nat.pow_add 2 n k).symm
    _ ≤ 2 ^ m := Nat.pow_le_pow_right (by decide) hm

theorem decodeEvent_narrow (buffer : List UInt16) : (decodeEvent buffer).Narrow where
  canale := getBits_lt _ _ _
  tempo16Bit := getBits_lt _ _ _
  coarseTime :=
    Nat.or_lt_two_pow
      (Nat.or_lt_two_pow (shiftLeft_lt (getBits_lt _ _ _) (by decide))
        (shiftLeft_lt (getBits_lt _ _ _) (by decide)))
      (Nat.lt_of_lt_of_le (getBits_lt _ _ _) (by decide))
  tdcTime := getBits_lt _ _ _
  tot := getBits_lt _ _ _
  tdcTriggerEnd := getBits_lt _ _ _
  energia := getBits_lt _ _ _

/-! ## Records -/

theorem decimal_length {n m k : Nat} (h : n < m) (hk : 0 < k) (hm : m ≤ 10 ^ k) :
    (decimal n).length ≤ k :=
  (Nat.length_toDigits_le_iff (by decide) hk).2 (Nat.lt_of_lt_of_le h hm)

theorem binary_length (e : EventRecord) : e.binary.length = 12 := by
  simp [EventRecord.binary, littleEndian]

theorem csvLine_length {e : EventRecord} (h : e.Narrow) : e.csvLine.length ≤ 34 := by
  have h₁ : (decimal e.canale).length ≤ 2 := decimal_length h.canale (by decide) (by decide)
  have h₂ : (decimal e.tempo16Bit).length ≤ 5 :=
    decimal_length h.tempo16Bit (by decide) (by decide)
  have h₃ : (decimal e.coarseTime).length ≤ 9 :=
    decimal_length h.coarseTime (by decide) (by decide)
  have h₄ : (decimal e.tdcTime).length ≤ 2 := decimal_length h.tdcTime (by decide) (by decide)
  have h₅ : (decimal e.tot).length ≤ 2 := decimal_length h.tot (by decide) (by decide)
  have h₆ : (decimal e.tdcTriggerEnd).length ≤ 2 :=
    decimal_length h.tdcTriggerEnd (by decide) (by decide)
  have h₇ : (decimal e.energia).length ≤ 5 := decimal_length h.energia (by decide) (by decide)
  simp only [EventRecord.csvLine, List.length_append, List.length_cons, List.length_nil]
  omega

/-- A record is far smaller than what a flush leaves free of the buffer. -/
theorem encode_length {e : EventRecord} (h : e.Narrow) (format : OutputFormat) :
    (e.encode format).length < 256 := by
  cases format with
  | bin => simp [EventRecord.encode, binary_length]
  | csv =>
    have hlen := csvLine_length h
    simp only [EventRecord.encode, asciiBytes, List.length_map]
    omega

end MultiDAQ.Receiver
