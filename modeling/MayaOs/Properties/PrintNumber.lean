import Mathlib.Data.Nat.Digits.Defs
import Mathlib.Data.Nat.Digits.Lemmas
import MayaOs.Libc.Stdio

/-!
# Numbers printed and read back

`print_number` fills a buffer of 32 bytes from its end. The longest number in these bases has ten
digits, so that the pointer stays inside, and the least number of 32 bits is its own negative, read
without a sign.

* `printNumber_numeral` — the text is the sign and the digits of the value
* `printNumberBuffer_eq` — the buffer holds that text, and nothing is written before its start
* `readUnsigned_numeral` — a numeral is read as its number
* `print_number_reads` — the text is read back as the value
-/

namespace MayaOs.Libc

open MayaOs.Lib

/-! ## Numerals -/

/-- A number without a sign. -/
def numeral (base : Nat) (uppercase : Bool) (n : Nat) : List UInt8 :=
  if n = 0 then [48] else (Nat.digits base n).reverse.map (digit uppercase)

def signText (v : Int) : List UInt8 := if v < 0 then [45] else []

/-- The value of an argument. -/
def argValue (isSigned : Bool) (arg : UInt32) : Int :=
  if isSigned then arg.toInt32.toInt else arg.toNat

theorem one_lt_of_base {base : Nat} (hbase : base = 10 ∨ base = 16) : 1 < base := by
  rcases hbase with rfl | rfl
  · decide
  · decide

/-- Any number of 32 bits fits into the buffer. -/
theorem lt_room {base : Nat} (hbase : base = 10 ∨ base = 16) (num : UInt32) :
    num.toNat < base ^ (maxNumberLength - 1) := by
  refine Nat.lt_of_lt_of_le num.toNat_lt ?_
  rcases hbase with rfl | rfl
  · decide
  · decide

theorem numberLoop_eq {base : Nat} (hbase : 1 < base) (uppercase : Bool) :
    ∀ (room num : Nat) (text : List UInt8), num < base ^ room →
      numberLoop base uppercase room num text =
        (Nat.digits base num).reverse.map (digit uppercase) ++ text := by
  intro room
  induction room with
  | zero =>
    intro num text hnum
    have hzero : num = 0 := Nat.lt_one_iff.mp hnum
    rw [hzero, Nat.digits_zero]
    rfl
  | succ room ih =>
    intro num text hnum
    rw [numberLoop]
    by_cases hpos : 0 < num
    · have hdiv : num / base < base ^ room := by
        rw [Nat.div_lt_iff_lt_mul (Nat.lt_trans Nat.one_pos hbase), ← Nat.pow_succ]
        exact hnum
      rw [if_pos hpos, ih _ _ hdiv, Nat.digits_def' hbase hpos, List.reverse_cons, List.map_append,
        List.append_assoc]
      rfl
    · have hzero : num = 0 := Nat.eq_zero_of_not_pos hpos
      rw [if_neg hpos, hzero, Nat.digits_zero]
      rfl

theorem toInt_toInt32 (arg : UInt32) :
    arg.toInt32.toInt = if arg.toNat < 2 ^ 31 then (arg.toNat : Int) else arg.toNat - 2 ^ 32 := by
  show arg.toBitVec.toInt = _
  rw [BitVec.toInt_eq_toNat_cond, UInt32.toNat_toBitVec]
  split <;> split <;> omega

/-- A signed argument from 2^31 on stands for a negative number. -/
theorem argValue_cases (isSigned : Bool) (arg : UInt32) :
    argValue isSigned arg = arg.toNat ∨
      2 ^ 31 ≤ arg.toNat ∧ argValue isSigned arg = -((2 ^ 32 - arg.toNat : Nat) : Int) := by
  have harg := arg.toNat_lt
  unfold argValue
  rw [toInt_toInt32]
  split
  · split
    · exact Or.inl rfl
    · exact Or.inr ⟨by omega, by omega⟩
  · exact Or.inl rfl

/-- The sign is printed for a negative value. -/
theorem negative_eq (isSigned : Bool) (arg : UInt32) :
    (isSigned && decide (arg.toInt32 < 0)) = decide (argValue isSigned arg < 0) := by
  unfold argValue
  cases isSigned with
  | false =>
    rw [Bool.false_and, if_neg Bool.false_ne_true]
    exact (decide_eq_false (by omega)).symm
  | true =>
    rw [Bool.true_and, if_pos rfl]
    exact decide_eq_decide.mpr Int32.lt_iff_toInt_lt

/-- What is printed behind the sign is the absolute value, for the least number as well. -/
theorem toNat_magnitude (isSigned : Bool) (arg : UInt32) :
    (if decide (argValue isSigned arg < 0) = true then -arg else arg).toNat =
      (argValue isSigned arg).natAbs := by
  have harg := arg.toNat_lt
  rcases argValue_cases isSigned arg with hvalue | ⟨hhigh, hvalue⟩
  · rw [hvalue, decide_eq_false (by omega), if_neg Bool.false_ne_true, Int.natAbs_natCast]
  · rw [hvalue, decide_eq_true (by omega), if_pos rfl, UInt32.toNat_neg, Int.natAbs_neg,
      Int.natAbs_natCast]
    exact Nat.mod_eq_of_lt (Nat.sub_lt (by decide) (by omega))

/-- The digits that `print_number` prints, without the sign. -/
theorem numeral_eq {base : Nat} (hbase : base = 10 ∨ base = 16) (uppercase : Bool) (num : UInt32) :
    (if num = 0 then [48] else numberLoop base uppercase (maxNumberLength - 1) num.toNat []) =
      numeral base uppercase num.toNat := by
  unfold numeral
  by_cases hzero : num = 0
  · rw [if_pos hzero, hzero]
    rfl
  · have hne : num.toNat ≠ 0 := fun h => hzero (UInt32.toNat_inj.mp h)
    rw [if_neg hzero, if_neg hne, numberLoop_eq (one_lt_of_base hbase) _ _ _ _ (lt_room hbase num),
      List.append_nil]

/-- **`print_number` prints the value**, in either base and letter case. -/
theorem printNumber_numeral {base : Nat} (hbase : base = 10 ∨ base = 16)
    (isSigned uppercase : Bool) (arg : UInt32) :
    printNumber arg base isSigned uppercase =
      signText (argValue isSigned arg) ++
        numeral base uppercase (argValue isSigned arg).natAbs := by
  unfold printNumber
  dsimp only
  rw [negative_eq, numeral_eq hbase, toNat_magnitude]
  unfold signText
  simp only [decide_eq_true_eq]

/-! ## The buffer -/

/-- The buffer from an index on. -/
def cellsFrom (buffer : Nat → UInt8) (ptr : Nat) : List UInt8 :=
  ((List.range maxNumberLength).map buffer).drop ptr

theorem cellsFrom_update (buffer : Nat → UInt8) {ptr : Nat} (hptr : ptr < maxNumberLength)
    (c : UInt8) : cellsFrom (Function.update buffer ptr c) ptr = c :: cellsFrom buffer (ptr + 1) := by
  have hother : ∀ i ∈ (List.range maxNumberLength).drop (ptr + 1),
      Function.update buffer ptr c i = buffer i := by
    intro i hi
    obtain ⟨k, hk, rfl⟩ := List.mem_iff_getElem.mp hi
    rw [List.getElem_drop, List.getElem_range]
    exact Function.update_of_ne (by omega) ..
  unfold cellsFrom
  rw [← List.map_drop, ← List.map_drop, List.drop_eq_getElem_cons (by simpa using hptr),
    List.map_cons, List.getElem_range, Function.update_self, List.map_congr_left hother]

/-- **The digits are written in front of what is in the buffer**, and `ptr` stays inside. -/
theorem fillNumber_eq {base : Nat} (hbase : 1 < base) (uppercase : Bool) :
    ∀ (ptr num : Nat) (buffer : Nat → UInt8), ptr < maxNumberLength → num < base ^ ptr →
      ∃ ptr' buffer', fillNumber base uppercase ptr num buffer = some (ptr', buffer') ∧
        cellsFrom buffer' ptr' = numberLoop base uppercase ptr num (cellsFrom buffer ptr) := by
  intro ptr
  induction ptr with
  | zero =>
    intro num buffer _ hnum
    have hzero : ¬ 0 < num := by
      rw [Nat.lt_one_iff.mp hnum]
      exact Nat.lt_irrefl 0
    exact ⟨0, buffer, if_neg hzero, rfl⟩
  | succ ptr ih =>
    intro num buffer hptr hnum
    rw [fillNumber, numberLoop]
    by_cases hpos : 0 < num
    · have hdiv : num / base < base ^ ptr := by
        rw [Nat.div_lt_iff_lt_mul (Nat.lt_trans Nat.one_pos hbase), ← Nat.pow_succ]
        exact hnum
      obtain ⟨ptr', buffer', hfill, hcells⟩ := ih (num / base)
        (Function.update buffer ptr (digit uppercase (num % base))) (Nat.lt_of_succ_lt hptr) hdiv
      rw [cellsFrom_update buffer (Nat.lt_of_succ_lt hptr)] at hcells
      rw [if_pos hpos, if_pos hpos]
      exact ⟨ptr', buffer', hfill, hcells⟩
    · rw [if_neg hpos, if_neg hpos]
      exact ⟨ptr + 1, buffer, rfl, rfl⟩

theorem putBuffer_append {text : List UInt8} (htext : ∀ c ∈ text, c ≠ 0) (rest : List UInt8) :
    putBuffer (text ++ 0 :: rest) = some text := by
  induction text with
  | nil => rfl
  | cons c text ih =>
    obtain ⟨hc, htext⟩ := List.forall_mem_cons.mp htext
    rw [List.cons_append, putBuffer, if_neg hc, ih htext]
    rfl

theorem digit_ne_zero (uppercase : Bool) {d : Nat} (hd : d < 16) : digit uppercase d ≠ 0 := by
  have hall : ∀ uppercase : Bool, ∀ d < 16, digit uppercase d ≠ 0 := by decide
  exact hall uppercase d hd

theorem digits_lt {base : Nat} (hbase : base = 10 ∨ base = 16) {n d : Nat}
    (hd : d ∈ Nat.digits base n) : d < 16 := by
  have hlt := Nat.digits_lt_base (one_lt_of_base hbase) hd
  omega

/-- **`print_number` stays inside its buffer** and prints what `printNumber` says. -/
theorem printNumberBuffer_eq {base : Nat} (hbase : base = 10 ∨ base = 16) (isSigned uppercase : Bool)
    (buffer : Nat → UInt8) (num : UInt32) :
    printNumberBuffer buffer num base isSigned uppercase =
      some (printNumber num base isSigned uppercase) := by
  unfold printNumberBuffer printNumber
  dsimp only
  generalize (if (isSigned && decide (num.toInt32 < 0)) = true then -num else num) = magnitude
  by_cases hzero : magnitude = 0
  · rw [if_pos hzero, if_pos hzero]
  · obtain ⟨ptr, cells, hfill, hcells⟩ := fillNumber_eq (one_lt_of_base hbase) uppercase
      (maxNumberLength - 1) magnitude.toNat (Function.update buffer (maxNumberLength - 1) 0)
      (by decide) (lt_room hbase magnitude)
    have hend : cellsFrom (Function.update buffer (maxNumberLength - 1) 0) (maxNumberLength - 1) =
        [0] := cellsFrom_update buffer (by decide) 0
    have hnonzero : ∀ c ∈ (Nat.digits base magnitude.toNat).reverse.map (digit uppercase), c ≠ 0 := by
      intro c hc
      obtain ⟨d, hd, rfl⟩ := List.mem_map.mp hc
      exact digit_ne_zero uppercase (digits_lt hbase (List.mem_reverse.mp hd))
    have hroom := lt_room hbase magnitude
    rw [hend, numberLoop_eq (one_lt_of_base hbase) _ _ _ _ hroom] at hcells
    rw [if_neg hzero, if_neg hzero, hfill, Option.bind_some,
      numberLoop_eq (one_lt_of_base hbase) _ _ _ _ hroom, List.append_nil]
    show (putBuffer (cellsFrom cells ptr)).map _ = _
    rw [hcells, putBuffer_append hnonzero]
    rfl

/-! ## Reading a numeral -/

/-- The value of a digit in one of the letter cases. -/
def digitValue (uppercase : Bool) (c : UInt8) : Option Nat :=
  let a : UInt8 := if uppercase then 65 else 97
  if 48 ≤ c ∧ c ≤ 57 then some (c.toNat - 48)
  else if a ≤ c ∧ c ≤ a + 5 then some (c.toNat - a.toNat + 10)
  else none

/-- A further digit of a numeral that has been read as `n`. -/
def readDigit (base : Nat) (uppercase : Bool) (n : Nat) (c : UInt8) : Option Nat :=
  (digitValue uppercase c).bind fun d => if d < base then some (n * base + d) else none

def readUnsigned (base : Nat) (uppercase : Bool) (text : List UInt8) : Option Nat :=
  if text = [] then none else text.foldlM (readDigit base uppercase) 0

/-- What stands behind an optional minus sign. -/
def unsignedText (text : List UInt8) : List UInt8 :=
  if text.head? = some 45 then text.tail else text

def readNumeral (base : Nat) (uppercase : Bool) (text : List UInt8) : Option Int :=
  (readUnsigned base uppercase (unsignedText text)).map fun n : Nat =>
    if text.head? = some 45 then -(n : Int) else (n : Int)

/-- A text is read as the value, and has no digit too many. -/
structure Denotes (base : Nat) (uppercase : Bool) (v : Int) (text : List UInt8) : Prop where
  reads : readNumeral base uppercase text = some v
  leading : v ≠ 0 → (unsignedText text).head? ≠ some 48
  zero : v = 0 → text = [48]

section Reading

variable {base : Nat} {uppercase : Bool}

theorem digitValue_digit {d : Nat} (hd : d < 16) :
    digitValue uppercase (digit uppercase d) = some d := by
  have hall : ∀ uppercase : Bool, ∀ d < 16, digitValue uppercase (digit uppercase d) = some d := by
    decide
  exact hall uppercase d hd

theorem digit_ne_minus {d : Nat} (hd : d < 16) : digit uppercase d ≠ 45 := by
  have hall : ∀ uppercase : Bool, ∀ d < 16, digit uppercase d ≠ 45 := by decide
  exact hall uppercase d hd

theorem digit_eq_zero_iff {d : Nat} (hd : d < 16) : digit uppercase d = 48 ↔ d = 0 := by
  have hall : ∀ uppercase : Bool, ∀ d < 16, digit uppercase d = 48 ↔ d = 0 := by decide
  exact hall uppercase d hd

/-- Digits are read from left to right. -/
theorem readDigits_map (hbase : base ≤ 16) : ∀ {ds : List Nat} (n : Nat), (∀ d ∈ ds, d < base) →
    (ds.map (digit uppercase)).foldlM (readDigit base uppercase) n =
      some (ds.foldl (fun n d => n * base + d) n) := by
  intro ds
  induction ds with
  | nil => intro n _; rfl
  | cons d ds ih =>
    intro n hds
    obtain ⟨hd, hrest⟩ := List.forall_mem_cons.mp hds
    have hread : readDigit base uppercase n (digit uppercase d) = some (n * base + d) := by
      unfold readDigit
      rw [digitValue_digit (Nat.lt_of_lt_of_le hd hbase), Option.bind_some, if_pos hd]
    rw [List.map_cons, List.foldlM_cons, hread]
    exact ih _ hrest

/-- The digits of a number, most significant first, stand for it. -/
theorem foldl_digits (base n : Nat) :
    (Nat.digits base n).reverse.foldl (fun n d => n * base + d) 0 = n := by
  have hstep : (fun d n : Nat => n * base + d) = fun d n => d + base * n := by
    funext d n
    rw [Nat.mul_comm, Nat.add_comm]
  have hfold := Nat.ofDigits_eq_foldr base (Nat.digits base n)
  rw [Nat.ofDigits_digits] at hfold
  rw [List.foldl_reverse, hstep]
  exact hfold.symm

variable (hbase : base = 10 ∨ base = 16)
include hbase

theorem le_of_base : base ≤ 16 := by
  rcases hbase with rfl | rfl
  · decide
  · decide

/-- A numeral has a first digit, which is no sign, and is 0 for 0 only. -/
theorem numeral_cons (uppercase : Bool) (n : Nat) :
    ∃ c text, numeral base uppercase n = c :: text ∧ c ≠ 45 ∧ (n ≠ 0 → c ≠ 48) := by
  unfold numeral
  by_cases hzero : n = 0
  · rw [if_pos hzero]
    exact ⟨48, [], rfl, by decide, fun h => absurd hzero h⟩
  · have hne : Nat.digits base n ≠ [] := Nat.digits_ne_nil_iff_ne_zero.mpr hzero
    have hlast := Nat.getLast_digit_ne_zero base hzero
    have hmem := List.getLast_mem hne
    rw [if_neg hzero, ← List.dropLast_concat_getLast hne, List.reverse_append]
    generalize (Nat.digits base n).getLast _ = d at hlast hmem
    have hd := digits_lt hbase hmem
    exact ⟨digit uppercase d, _, rfl, digit_ne_minus hd,
      fun _ heq => hlast ((digit_eq_zero_iff hd).mp heq)⟩

/-- **A numeral is read as its number.** -/
theorem readUnsigned_numeral (uppercase : Bool) (n : Nat) :
    readUnsigned base uppercase (numeral base uppercase n) = some n := by
  obtain ⟨c, text, hcons, -, -⟩ := numeral_cons hbase uppercase n
  unfold readUnsigned
  rw [if_neg (by rw [hcons]; exact List.cons_ne_nil c text)]
  unfold numeral
  by_cases hzero : n = 0
  · have hzeros : ∀ d ∈ [0], d < base := by
      intro d hd
      rw [List.mem_singleton.mp hd]
      exact Nat.lt_trans Nat.one_pos (one_lt_of_base hbase)
    have hdigit : [48] = [0].map (digit uppercase) := by
      cases uppercase
      · rfl
      · rfl
    rw [if_pos hzero, hzero, hdigit, readDigits_map (le_of_base hbase) 0 hzeros]
    exact congrArg some (by rw [List.foldl_cons, List.foldl_nil, Nat.zero_mul])
  · rw [if_neg hzero, readDigits_map (le_of_base hbase) 0 fun d hd =>
      Nat.digits_lt_base (one_lt_of_base hbase) (List.mem_reverse.mp hd), foldl_digits]

/-- The sign and the numeral of the absolute value denote the value. -/
theorem denotes_signed (uppercase : Bool) (v : Int) :
    Denotes base uppercase v (signText v ++ numeral base uppercase v.natAbs) := by
  obtain ⟨c, text, hcons, hsignless, hleading⟩ := numeral_cons hbase uppercase v.natAbs
  have hread := readUnsigned_numeral hbase uppercase v.natAbs
  have hhead : (numeral base uppercase v.natAbs).head? ≠ some 45 := by
    rw [hcons]
    exact fun h => hsignless (Option.some.inj h)
  have hfirst : v ≠ 0 → (numeral base uppercase v.natAbs).head? ≠ some 48 := by
    intro hv
    rw [hcons]
    exact fun h => hleading (Int.natAbs_ne_zero.mpr hv) (Option.some.inj h)
  by_cases hneg : v < 0
  · have hsign : signText v = [45] := if_pos hneg
    have hminus : ([45] ++ numeral base uppercase v.natAbs).head? = some 45 := rfl
    have hunsigned : unsignedText ([45] ++ numeral base uppercase v.natAbs) =
        numeral base uppercase v.natAbs := if_pos hminus
    rw [hsign]
    refine ⟨?_, fun hv => by rw [hunsigned]; exact hfirst hv, fun hv => by omega⟩
    unfold readNumeral
    rw [hunsigned, hread, Option.map_some, if_pos hminus]
    exact congrArg some (by omega)
  · have hsign : signText v = [] := if_neg hneg
    have hunsigned : unsignedText (numeral base uppercase v.natAbs) =
        numeral base uppercase v.natAbs := if_neg hhead
    rw [hsign, List.nil_append]
    refine ⟨?_, fun hv => by rw [hunsigned]; exact hfirst hv, fun hv => by rw [hv]; rfl⟩
    unfold readNumeral
    rw [hunsigned, hread, Option.map_some, if_neg hhead]
    exact congrArg some (by omega)

end Reading

/-! ## The result -/

/--
**What `print_number` prints denotes its argument**, and it writes and reads within its buffer.

`buffer` is what the cells hold at first. A signed argument is meant in two's complement.
-/
theorem print_number_reads {base : Nat} (hbase : base = 10 ∨ base = 16) (isSigned uppercase : Bool)
    (buffer : Nat → UInt8) (num : UInt32) :
    ∃ text, printNumberBuffer buffer num base isSigned uppercase = some text ∧
      Denotes base uppercase (argValue isSigned num) text := by
  refine ⟨_, printNumberBuffer_eq hbase isSigned uppercase buffer num, ?_⟩
  rw [printNumber_numeral hbase]
  exact denotes_signed hbase uppercase (argValue isSigned num)

/-- The least number of 32 bits. -/
theorem print_number_reads_least :
    ∃ text, printNumberBuffer (fun _ => 255) 0x80000000 10 true false = some text ∧
      Denotes 10 false (argValue true 0x80000000) text :=
  print_number_reads (Or.inl rfl) true false (fun _ => 255) 0x80000000

end MayaOs.Libc
