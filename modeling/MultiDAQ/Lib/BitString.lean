import Mathlib.Data.Nat.Bitwise
import Mathlib.Data.List.Induction

/-!
# Bit strings, most significant bit first

`toBits n x` is the low `n` bits of `x`, `ofBits` reads a bit string back. A record that packs
fields is the concatenation of their bit strings: the field that stands after `pre` is read by
dropping as many bits as `pre` has (`slice_append`). Fields of one width are found by their number
(`slice_flatMap`). The last section is about check sums under an operation that is its own inverse.
-/

namespace MultiDAQ.Lib

/-- The low `n` bits of `x`. -/
def toBits : Nat → Nat → List Bool
  | 0, _ => []
  | n + 1, x => x.testBit n :: toBits n x

/-- The number that a bit string writes. -/
def ofBits (l : List Bool) : Nat := l.foldl (fun r b => (r <<< 1) ||| b.toNat) 0

/-- The `n` bits from `i` on. -/
def slice (l : List Bool) (i n : Nat) : List Bool := (l.drop i).take n

@[simp] theorem length_toBits (n x : Nat) : (toBits n x).length = n := by
  induction n with
  | zero => rfl
  | succ n ih => simp [toBits, ih]

theorem ofBits_append_single (l : List Bool) (b : Bool) :
    ofBits (l ++ [b]) = (ofBits l <<< 1) ||| b.toNat := by
  simp [ofBits, List.foldl_append]

theorem shiftLeft_one_or_toNat (r : Nat) (b : Bool) : (r <<< 1) ||| b.toNat = 2 * r + b.toNat := by
  rw [Nat.shiftLeft_eq, Nat.mul_comm, ← Nat.two_pow_add_eq_or_of_lt (by cases b <;> decide)]

/-- The low bits of a number, from the highest of them on. -/
theorem toBits_eq_map (n x : Nat) :
    toBits n x = (List.range n).map fun i => x.testBit (n - 1 - i) := by
  induction n with
  | zero => rfl
  | succ n ih =>
    rw [toBits, ih, List.range_succ_eq_map, List.map_cons, List.map_map]
    refine congrArg₂ _ (by simp) (List.map_congr_left fun i _ => ?_)
    simp only [Function.comp_apply]
    congr 1
    omega

/-- The first bits of a longer string are the bits of the number shifted down. -/
theorem toBits_add (m n x : Nat) : toBits (m + n) x = toBits m (x >>> n) ++ toBits n x := by
  induction m with
  | zero => simp [toBits]
  | succ m ih =>
    rw [Nat.succ_add, toBits, ih, toBits, List.cons_append, Nat.testBit_shiftRight,
      Nat.add_comm n m]

@[simp] theorem ofBits_toBits (n x : Nat) : ofBits (toBits n x) = x % 2 ^ n := by
  induction n generalizing x with
  | zero => simp [toBits, ofBits, Nat.mod_one]
  | succ n ih =>
    have hlow : toBits (n + 1) x = toBits n (x / 2) ++ [x.testBit 0] := by
      have h := toBits_add n 1 x
      rwa [Nat.shiftRight_one] at h
    rw [hlow, ofBits_append_single, ih, shiftLeft_one_or_toNat, Nat.pow_succ, Nat.mul_comm (2 ^ n),
      Nat.mod_mul, Nat.testBit_zero, Nat.add_comm]
    congr 1
    rcases Nat.mod_two_eq_zero_or_one x with h | h <;> simp [h]

theorem toBits_mod (n x : Nat) : toBits n (x % 2 ^ n) = toBits n x := by
  simp only [toBits_eq_map]
  refine List.map_congr_left fun i hi => ?_
  have hlt : n - 1 - i < n := by
    have := List.mem_range.1 hi
    omega
  rw [Nat.testBit_mod_two_pow, decide_eq_true hlt, Bool.true_and]

@[simp] theorem toBits_ofBits (l : List Bool) : toBits l.length (ofBits l) = l := by
  induction l using List.reverseRecOn with
  | nil => rfl
  | append_singleton l b ih =>
    have hhalf : (2 * ofBits l + b.toNat) >>> 1 = ofBits l := by
      have hb : b.toNat ≤ 1 := Bool.toNat_le b
      rw [Nat.shiftRight_one]
      omega
    rw [List.length_append, List.length_singleton, toBits_add, ofBits_append_single,
      shiftLeft_one_or_toNat, hhalf, ih]
    cases b <;> simp [toBits, Nat.testBit_zero]

/-! ## Slices -/

/-- What is packed after `pre` stands at the length of `pre`. -/
theorem slice_append (pre l post : List Bool) :
    slice (pre ++ (l ++ post)) pre.length l.length = l := by
  rw [slice, List.drop_left, List.take_left]

/-- Fields, each of them a width and a value, packed one after the other. -/
def packFields (fields : List (Nat × Nat)) : List Bool := fields.flatMap fun f => toBits f.1 f.2

@[simp] theorem length_packFields (fields : List (Nat × Nat)) :
    (packFields fields).length = (fields.map (·.1)).sum := by
  induction fields with
  | nil => rfl
  | cons f fields ih =>
    rw [packFields, List.flatMap_cons, List.length_append, length_toBits, List.map_cons,
      List.sum_cons, ← ih, packFields]

/-- The field with number `k` is read back at the sum of the widths before it. -/
theorem ofBits_slice_packFields {fields : List (Nat × Nat)} {k n x i : Nat}
    (h : fields[k]? = some (n, x)) (hi : ((fields.take k).map (·.1)).sum = i) :
    ofBits (slice (packFields fields) i n) = x % 2 ^ n := by
  obtain ⟨hk, hx⟩ := List.getElem?_eq_some_iff.1 h
  have hsplit : fields = fields.take k ++ (n, x) :: fields.drop (k + 1) := by
    rw [← hx, List.getElem_cons_drop, List.take_append_drop]
  have hpack : packFields fields =
      packFields (fields.take k) ++ (toBits n x ++ packFields (fields.drop (k + 1))) := by
    conv_lhs => rw [hsplit, packFields, List.flatMap_append, List.flatMap_cons]
    rfl
  have hslice := slice_append (packFields (fields.take k)) (toBits n x)
    (packFields (fields.drop (k + 1)))
  rw [length_toBits, length_packFields, hi] at hslice
  rw [hpack, hslice, ofBits_toBits]

theorem slice_eq_map {l : List Bool} {i n : Nat} (h : i + n ≤ l.length) :
    slice l i n = (List.range n).map fun k => l.getD (i + k) false := by
  refine List.ext_getElem (by simp [slice]; omega) fun k hk _ => ?_
  have hk' : i + k < l.length := by simp [slice] at hk; omega
  simp [slice, List.getElem?_eq_getElem hk']

section Width

variable {α : Type*} {f : α → List Bool} {w : Nat}

/-- Of fields of one width, the one with number `k`. -/
theorem slice_flatMap (hf : ∀ a, (f a).length = w) (l : List α) {k : Nat} (hk : k < l.length) :
    slice (l.flatMap f) (w * k) w = f l[k] := by
  induction l generalizing k with
  | nil => exact absurd hk (Nat.not_lt_zero k)
  | cons a l ih =>
    cases k with
    | zero =>
      rw [List.flatMap_cons, Nat.mul_zero, slice, List.drop_zero, ← hf a, List.take_left]
      rfl
    | succ k =>
      have hdrop : (f a ++ l.flatMap f).drop (w * (k + 1)) = (l.flatMap f).drop (w * k) := by
        rw [Nat.mul_succ, Nat.add_comm, ← List.drop_drop, ← hf a, List.drop_left]
      rw [List.flatMap_cons, slice, hdrop]
      exact ih (Nat.lt_of_succ_lt_succ hk)

theorem length_flatMap (hf : ∀ a, (f a).length = w) (l : List α) :
    (l.flatMap f).length = w * l.length := by
  induction l with
  | nil => rfl
  | cons a l ih => rw [List.flatMap_cons, List.length_append, hf, ih, List.length_cons,
      Nat.mul_succ, Nat.add_comm]

/-- The bit with number `i` is one of the field with number `i / w`. -/
theorem getD_flatMap (hf : ∀ a, (f a).length = w) (hw : 0 < w) (l : List α) {i : Nat}
    (hi : i / w < l.length) :
    (l.flatMap f).getD i false = (f l[i / w]).getD (i % w) false := by
  have hlt := Nat.mod_lt i hw
  have hsplit : i = w * (i / w) + i % w := (Nat.div_add_mod i w).symm
  have hslice := slice_flatMap hf l hi
  rw [← hslice]
  conv_lhs => rw [hsplit]
  simp only [slice, List.getD_eq_getElem?_getD, List.getElem?_take, List.getElem?_drop, hlt,
    if_true]

/-- Cutting a string into fields of one width and writing them one after the other. -/
theorem flatMap_slice (l : List Bool) (n : Nat) (h : l.length = w * n) :
    ((List.range n).flatMap fun k => slice l (w * k) w) = l := by
  induction n generalizing l with
  | zero => exact (List.eq_nil_of_length_eq_zero (by rw [h, Nat.mul_zero])).symm
  | succ n ih =>
    have hrest := ih (l.drop w) (by rw [List.length_drop, h, Nat.mul_succ, Nat.add_sub_cancel])
    rw [List.range_succ_eq_map, List.flatMap_cons, List.flatMap_map]
    conv_rhs => rw [← List.take_append_drop w l, ← hrest]
    refine congrArg₂ _ (by simp [slice]) ?_
    refine congrArg (fun g => (List.range n).flatMap g) (funext fun k => ?_)
    rw [slice, slice, List.drop_drop, Nat.mul_succ, Nat.add_comm]

end Width

/-! ## Check sums -/

section CheckSum

variable {α : Type*} (op : α → α → α) (e : α)

/-- The check sum of a list. -/
def checkSum (l : List α) : α := l.foldr op e

variable [Std.Associative op]

theorem checkSum_append (he : ∀ a, op e a = a) (l m : List α) :
    checkSum op e (l ++ m) = op (checkSum op e l) (checkSum op e m) := by
  have hassoc : ∀ a b c, op (op a b) c = op a (op b c) := Std.Associative.assoc
  induction l with
  | nil => exact (he _).symm
  | cons a l ih =>
    show op a (checkSum op e (l ++ m)) = op (op a (checkSum op e l)) _
    rw [ih, hassoc]

variable [Std.Commutative op]

/-- Another value in one place changes the check sum by what was there and what is there now. -/
theorem checkSum_set (hop : ∀ a b, op a (op a b) = b) (l : List α) {k : Nat} (hk : k < l.length)
    (v : α) : checkSum op e (l.set k v) = op (op l[k] v) (checkSum op e l) := by
  have hassoc : ∀ a b c, op (op a b) c = op a (op b c) := Std.Associative.assoc
  have hcomm : ∀ a b, op a b = op b a := Std.Commutative.comm
  induction l generalizing k with
  | nil => exact absurd hk (Nat.not_lt_zero k)
  | cons a l ih =>
    cases k with
    | zero =>
      show op v (checkSum op e l) = op (op a v) (op a (checkSum op e l))
      rw [hcomm a v, hassoc, hop]
    | succ k =>
      have hrest := ih (Nat.lt_of_succ_lt_succ hk)
      show op a (checkSum op e (l.set k v)) = op (op _ v) (op a (checkSum op e l))
      rw [hrest, ← hassoc, hcomm a, hassoc]
      rfl

end CheckSum

end MultiDAQ.Lib
