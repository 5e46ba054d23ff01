import MayaOs.Properties.PrintNumber

/-!
# `vprintf` and the C standard

A format is made of pieces: characters, `%%` and conversions, each with its argument. The code prints
every conversion without padding, and counts a number as one character.

* `printNumber_eq` — what `print_number` prints for a conversion
* `vprintf_pieces` — what `vprintf` prints and returns for any format made of pieces
* `vprintf_iff` — when that is what the standard prescribes
* `vprintf_unpadded` — `%02x` with 5, and `%d` with 10
-/

namespace MayaOs.Libc

open MayaOs.Lib

/-! ## Formats -/

inductive IntConversion where
  | d
  | i
  | u
  | x
  | X
  deriving Repr, DecidableEq

namespace IntConversion

def char : IntConversion → UInt8
  | d => 100
  | i => 105
  | u => 117
  | x => 120
  | X => 88

def base : IntConversion → Nat
  | d | i | u => 10
  | x | X => 16

def isSigned : IntConversion → Bool
  | d | i => true
  | u | x | X => false

def uppercase : IntConversion → Bool
  | X => true
  | d | i | u | x => false

end IntConversion

/-- The flag 0, the minimum width (0 for none) and `l`. -/
structure Modifiers where
  zeroFlag : Bool
  width : Nat
  long : Bool
  deriving Repr, DecidableEq

def Modifiers.text (m : Modifiers) : List UInt8 :=
  (if m.zeroFlag then [48] else []) ++ (Nat.digits 10 m.width).reverse.map (digit false) ++
    if m.long then [108] else []

/-- A part of a format, and its argument. -/
inductive Piece where
  | char (c : UInt8) (ordinary : c ≠ 0 ∧ c ≠ 37)
  | percent
  | int (m : Modifiers) (conversion : IntConversion) (arg : UInt32)
  | chr (m : Modifiers) (arg : UInt32)
  | str (m : Modifiers) (arg : Option (List UInt8))

def Piece.text : Piece → List UInt8
  | char c _ => [c]
  | percent => [37, 37]
  | int m conversion _ => 37 :: (m.text ++ [conversion.char])
  | chr m _ => 37 :: (m.text ++ [99])
  | str m _ => 37 :: (m.text ++ [115])

def Piece.args : Piece → List VaArg
  | char _ _ => []
  | percent => []
  | int _ _ arg => [.word arg]
  | chr _ arg => [.word arg]
  | str _ arg => [.str arg]

def formatOf (ps : List Piece) : List UInt8 := ps.flatMap Piece.text

def argsOf (ps : List Piece) : List VaArg := ps.flatMap Piece.args

/-! ## The standard -/

/-- To the left of what is too short there are spaces, or zeros behind the sign. -/
def padded (m : Modifiers) (sign text : List UInt8) : List UInt8 :=
  let fill := m.width - (sign.length + text.length)
  if m.zeroFlag then sign ++ List.replicate fill 48 ++ text
  else List.replicate fill 32 ++ sign ++ text

/-- The value of an argument. -/
def IntConversion.value (conversion : IntConversion) (arg : UInt32) : Int :=
  if conversion.isSigned then arg.toInt32.toInt else arg.toNat

/-- The characters that the standard prescribes. There are none for the flag 0 with `c` or `s` and for
a string that is NULL; the wide characters of `%lc` and `%ls` do not exist here. -/
def Piece.cText : Piece → Option (List UInt8)
  | char c _ => some [c]
  | percent => some [37]
  | int m conversion arg =>
    let v := conversion.value arg
    some (padded m (signText v) (numeral conversion.base conversion.uppercase v.natAbs))
  | chr m arg => if m.zeroFlag ∨ m.long then none else some (padded m [] [arg.toUInt8])
  | str m arg => if m.zeroFlag ∨ m.long then none else arg.map fun s => padded m [] (cString s)

def cText : List Piece → Option (List UInt8)
  | [] => some []
  | p :: ps => p.cText.bind fun text => (cText ps).map (text ++ ·)

/-! ## Numbers -/

theorem IntConversion.base_cases (conversion : IntConversion) :
    conversion.base = 10 ∨ conversion.base = 16 := by
  cases conversion
  · exact Or.inl rfl
  · exact Or.inl rfl
  · exact Or.inl rfl
  · exact Or.inr rfl
  · exact Or.inr rfl

theorem IntConversion.one_lt_base (conversion : IntConversion) : 1 < conversion.base :=
  one_lt_of_base conversion.base_cases

/-- A signed argument from 2^31 on stands for a negative number. -/
theorem IntConversion.value_cases (conversion : IntConversion) (arg : UInt32) :
    conversion.value arg = arg.toNat ∨
      2 ^ 31 ≤ arg.toNat ∧ conversion.value arg = -((2 ^ 32 - arg.toNat : Nat) : Int) :=
  argValue_cases conversion.isSigned arg

/-- **`print_number` prints the value**, for every conversion. -/
theorem printNumber_eq (conversion : IntConversion) (arg : UInt32) :
    printNumber arg conversion.base conversion.isSigned conversion.uppercase =
      signText (conversion.value arg) ++
        numeral conversion.base conversion.uppercase (conversion.value arg).natAbs :=
  printNumber_numeral conversion.base_cases conversion.isSigned conversion.uppercase arg

/-! ## One piece -/

/-- `t` is in a directive that was begun in `s`. -/
structure Within (s t : VprintfState) : Prop where
  inFormat : t.inFormat = true
  args_eq : t.args = s.args
  output_eq : t.output = s.output
  written_eq : t.written = s.written

/-- After a piece: the rest of the arguments, and what has been printed and counted. -/
structure Printed (s t : VprintfState) (rest : List VaArg) (text : List UInt8) (count : Nat) :
    Prop where
  inFormat : t.inFormat = false
  args_eq : t.args = rest
  output_eq : t.output = s.output ++ text
  written_eq : t.written = s.written + Int32.ofNat count

/-- What the code prints for a piece, and what it counts. -/
def Piece.printed : Piece → List UInt8
  | char c _ => [c]
  | percent => [37]
  | int _ conversion arg =>
    signText (conversion.value arg) ++
      numeral conversion.base conversion.uppercase (conversion.value arg).natAbs
  | chr _ arg => [arg.toUInt8]
  | str _ arg => cString (arg.getD nullText)

def Piece.counted : Piece → Nat
  | str _ arg => (cString (arg.getD nullText)).length
  | _ => 1

/-- A character of the modifiers: `l` or a digit. -/
def IsModifier (c : UInt8) : Prop := c = 108 ∨ 48 ≤ c ∧ c ≤ 57

variable {s t : VprintfState}

/-- **Modifiers are read and have no effect.** -/
theorem within_modifier (h : Within s t) {c : UInt8} (hc : IsModifier c) :
    ∃ t', vprintfChar t c = some t' ∧ Within s t' := by
  have hsame : ∀ t', t'.inFormat = t.inFormat → t'.args = t.args → t'.output = t.output →
      t'.written = t.written → Within s t' := fun t' h₁ h₂ h₃ h₄ =>
    ⟨h₁.trans h.inFormat, h₂.trans h.args_eq, h₃.trans h.output_eq, h₄.trans h.written_eq⟩
  unfold vprintfChar vprintfDirective
  rw [if_pos h.inFormat]
  by_cases hl : c = 108
  · exact ⟨_, if_pos hl, hsame _ rfl rfl rfl rfl⟩
  · rw [if_neg hl]
    by_cases hzero : c = 48 ∧ t.minWidth = 0
    · exact ⟨_, if_pos hzero, hsame _ rfl rfl rfl rfl⟩
    · rw [if_neg hzero]
      exact ⟨_, if_pos (hc.resolve_left hl), hsame _ rfl rfl rfl rfl⟩

theorem within_modifiers : ∀ {cs : List UInt8} {t : VprintfState}, Within s t →
    (∀ c ∈ cs, IsModifier c) → ∃ t', cs.foldlM vprintfChar t = some t' ∧ Within s t' := by
  intro cs
  induction cs with
  | nil => intro t h _; exact ⟨t, rfl, h⟩
  | cons c cs ih =>
    intro t h hcs
    obtain ⟨hc, hcs⟩ := List.forall_mem_cons.mp hcs
    obtain ⟨t₁, hstep, h₁⟩ := within_modifier h hc
    obtain ⟨t', hrun, h'⟩ := ih h₁ hcs
    exact ⟨t', by rw [List.foldlM_cons, hstep]; exact hrun, h'⟩

theorem isModifier_digit {d : Nat} (h : d < 10) : IsModifier (digit false d) := by
  have hall : ∀ d < 10, 48 ≤ digit false d ∧ digit false d ≤ 57 := by decide
  exact Or.inr (hall d h)

theorem isModifier_text (m : Modifiers) : ∀ c ∈ m.text, IsModifier c := by
  intro c hc
  unfold Modifiers.text at hc
  rcases List.mem_append.mp hc with hc | hc
  · rcases List.mem_append.mp hc with hc | hc
    · split at hc
      · rw [List.mem_singleton.mp hc]
        exact Or.inr (by decide)
      · exact absurd hc List.not_mem_nil
    · obtain ⟨d, hd, rfl⟩ := List.mem_map.mp hc
      exact isModifier_digit (Nat.digits_lt_base (by decide) (List.mem_reverse.mp hd))
  · split at hc
    · exact Or.inl (List.mem_singleton.mp hc)
    · exact absurd hc List.not_mem_nil

theorem within_begin (hready : s.inFormat = false) :
    ∃ t, vprintfChar s 37 = some t ∧ Within s t := by
  unfold vprintfChar
  rw [hready, if_neg Bool.false_ne_true, if_pos rfl]
  exact ⟨_, rfl, rfl, rfl, rfl, rfl⟩

/-- A conversion, from `%` to its last character. -/
theorem run_conversion (hready : s.inFormat = false) (m : Modifiers) {c : UInt8}
    {rest : List VaArg} {text : List UInt8} {count : Nat}
    (hlast : ∀ t, Within s t → ∃ t', vprintfDirective t c = some t' ∧ Printed s t' rest text count) :
    ∃ t', (37 :: (m.text ++ [c])).foldlM vprintfChar s = some t' ∧
      Printed s t' rest text count := by
  obtain ⟨t₁, hbegin, h₁⟩ := within_begin hready
  obtain ⟨t₂, hmodifiers, h₂⟩ := within_modifiers h₁ (isModifier_text m)
  obtain ⟨t', hdirective, h'⟩ := hlast t₂ h₂
  refine ⟨t', ?_, h'⟩
  have hend : vprintfChar t₂ c = some t' := by
    unfold vprintfChar
    rw [if_pos h₂.inFormat]
    exact hdirective
  rw [List.foldlM_cons, hbegin]
  show (m.text ++ [c]).foldlM vprintfChar t₁ = some t'
  rw [List.foldlM_append, hmodifiers]
  show [c].foldlM vprintfChar t₂ = some t'
  rw [List.foldlM_cons, hend]
  rfl

theorem printed_emit (h : Within s t) {rest : List VaArg} {text : List UInt8} {count : Nat} :
    Printed s ({ t with args := rest }.emit text count) rest text count := by
  refine ⟨rfl, rfl, ?_, ?_⟩
  · show t.output ++ text = _
    rw [h.output_eq]
  · show t.written + _ = _
    rw [h.written_eq]

theorem takeWord_eq {w : UInt32} {rest : List VaArg} (h : t.args = .word w :: rest) :
    t.takeWord = some (w, { t with args := rest }) := by
  unfold VprintfState.takeWord
  rw [h]

theorem takeStr_eq {p : Option (List UInt8)} {rest : List VaArg} (h : t.args = .str p :: rest) :
    t.takeStr = some (p, { t with args := rest }) := by
  unfold VprintfState.takeStr
  rw [h]

/-- The last character of a number. -/
theorem directive_int (h : Within s t) (conversion : IntConversion) {arg : UInt32}
    {rest : List VaArg} (hargs : s.args = .word arg :: rest) :
    ∃ t', vprintfDirective t conversion.char = some t' ∧
      Printed s t' rest (printNumber arg conversion.base conversion.isSigned conversion.uppercase)
        1 := by
  have hword : t.args = .word arg :: rest := h.args_eq.trans hargs
  have hupper : ∀ uppercase : Bool, Within s { t with uppercase := uppercase } :=
    fun _ => ⟨h.inFormat, h.args_eq, h.output_eq, h.written_eq⟩
  have hhex : ∀ uppercase : Bool, { t with uppercase := uppercase }.takeWord =
      some (arg, { t with uppercase := uppercase, args := rest }) := fun _ => takeWord_eq hword
  cases conversion with
  | d | i | u =>
    refine ⟨_, ?_, printed_emit h⟩
    show t.takeWord.map _ = _
    rw [takeWord_eq hword]
    rfl
  | x =>
    refine ⟨_, ?_, printed_emit (hupper false)⟩
    show { t with uppercase := false }.takeWord.map _ = _
    rw [hhex]
    rfl
  | X =>
    refine ⟨_, ?_, printed_emit (hupper true)⟩
    show { t with uppercase := true }.takeWord.map _ = _
    rw [hhex]
    rfl

theorem directive_chr (h : Within s t) {arg : UInt32} {rest : List VaArg}
    (hargs : s.args = .word arg :: rest) :
    ∃ t', vprintfDirective t 99 = some t' ∧ Printed s t' rest [arg.toUInt8] 1 := by
  refine ⟨_, ?_, printed_emit h⟩
  show t.takeWord.map _ = _
  rw [takeWord_eq (h.args_eq.trans hargs)]
  rfl

theorem directive_str (h : Within s t) {arg : Option (List UInt8)} {rest : List VaArg}
    (hargs : s.args = .str arg :: rest) :
    ∃ t', vprintfDirective t 115 = some t' ∧
      Printed s t' rest (cString (arg.getD nullText)) (cString (arg.getD nullText)).length := by
  refine ⟨_, ?_, printed_emit h⟩
  show t.takeStr.map _ = _
  rw [takeStr_eq (h.args_eq.trans hargs)]
  rfl

/-- **One piece.** -/
theorem run_piece (hready : s.inFormat = false) (p : Piece) {rest : List VaArg}
    (hargs : s.args = p.args ++ rest) :
    ∃ t, p.text.foldlM vprintfChar s = some t ∧ Printed s t rest p.printed p.counted := by
  cases p with
  | char c ordinary =>
    refine ⟨{ s with output := s.output ++ [c], written := s.written + 1 }, ?_, hready, hargs, rfl,
      rfl⟩
    show vprintfChar s c >>= _ = _
    unfold vprintfChar
    rw [hready, if_neg Bool.false_ne_true, if_neg ordinary.2]
    rfl
  | percent =>
    obtain ⟨t, hbegin, ht⟩ := within_begin hready
    have hend : vprintfChar t 37 = some (t.emit [37] 1) := by
      unfold vprintfChar
      rw [if_pos ht.inFormat]
      rfl
    refine ⟨t.emit [37] 1, ?_, rfl, ht.args_eq.trans hargs, ?_, ?_⟩
    · show [37, 37].foldlM vprintfChar s = _
      rw [List.foldlM_cons, hbegin]
      show [37].foldlM vprintfChar t = _
      rw [List.foldlM_cons, hend]
      rfl
    · show t.output ++ [37] = _
      rw [ht.output_eq]
      rfl
    · show t.written + _ = _
      rw [ht.written_eq]
      rfl
  | int m conversion arg =>
    rw [show (Piece.int m conversion arg).printed = _ from (printNumber_eq conversion arg).symm]
    exact run_conversion hready m fun t ht => directive_int ht conversion hargs
  | chr m arg => exact run_conversion hready m fun t ht => directive_chr ht hargs
  | str m arg => exact run_conversion hready m fun t ht => directive_str ht hargs

/-! ## All pieces -/

/-- What the code prints for a format. -/
def printedOf (ps : List Piece) : List UInt8 := ps.flatMap Piece.printed

def countedOf (ps : List Piece) : Nat := (ps.map Piece.counted).sum

theorem run_pieces : ∀ (ps : List Piece) {s : VprintfState}, s.inFormat = false →
    s.args = argsOf ps →
    ∃ t, (formatOf ps).foldlM vprintfChar s = some t ∧
      Printed s t [] (printedOf ps) (countedOf ps) := by
  intro ps
  induction ps with
  | nil =>
    intro s hready hargs
    refine ⟨s, rfl, hready, hargs, (List.append_nil _).symm, ?_⟩
    exact (Int32.add_zero _).symm
  | cons p ps ih =>
    intro s hready hargs
    obtain ⟨t₁, hfirst, h₁⟩ := run_piece hready p hargs
    obtain ⟨t, hrest, h⟩ := ih h₁.inFormat h₁.args_eq
    refine ⟨t, ?_, h.inFormat, h.args_eq, ?_, ?_⟩
    · show (p.text ++ formatOf ps).foldlM vprintfChar s = some t
      rw [List.foldlM_append, hfirst]
      exact hrest
    · show t.output = s.output ++ (p.printed ++ printedOf ps)
      rw [h.output_eq, h₁.output_eq, List.append_assoc]
    · show t.written = s.written + Int32.ofNat (p.counted + countedOf ps)
      rw [h.written_eq, h₁.written_eq, Int32.ofNat_add, Int32.add_assoc]

theorem ne_zero_of_isModifier {c : UInt8} (h : IsModifier c) : c ≠ 0 := by
  rintro rfl
  rcases h with h | ⟨h, -⟩
  · exact absurd h (by decide)
  · exact absurd h (by decide)

/-- There is no NUL in a format. -/
theorem ne_zero_of_mem_text (p : Piece) : ∀ c ∈ p.text, c ≠ 0 := by
  have hconversion : ∀ (m : Modifiers) (last : UInt8), last ≠ 0 →
      ∀ c ∈ 37 :: (m.text ++ [last]), c ≠ 0 := by
    intro m last hlast c hc
    rcases List.mem_cons.mp hc with rfl | hc
    · decide
    · rcases List.mem_append.mp hc with hc | hc
      · exact ne_zero_of_isModifier (isModifier_text m c hc)
      · rw [List.mem_singleton.mp hc]
        exact hlast
  cases p with
  | char c ordinary =>
    intro c' hc
    rw [List.mem_singleton.mp hc]
    exact ordinary.1
  | percent =>
    intro c hc
    rcases List.mem_cons.mp hc with rfl | hc
    · decide
    · rw [List.mem_singleton.mp hc]
      decide
  | int m conversion arg => exact hconversion m _ (by cases conversion <;> decide)
  | chr m arg => exact hconversion m 99 (by decide)
  | str m arg => exact hconversion m 115 (by decide)

/-- **What `vprintf` prints and returns**, for any format made of pieces. -/
theorem vprintf_pieces (ps : List Piece) :
    vprintf true (formatOf ps) (argsOf ps) =
      some (printedOf ps, (Int32.ofNat (countedOf ps)).toInt) := by
  have hformat : cString (formatOf ps) = formatOf ps := by
    refine cString_eq_self fun c hc => ?_
    obtain ⟨p, -, hp⟩ := List.mem_flatMap.mp hc
    exact ne_zero_of_mem_text p c hp
  unfold vprintf
  rw [if_pos rfl, hformat]
  obtain ⟨t, hrun, ht⟩ := run_pieces ps (s :=
    { written := 0
      inFormat := false
      longArg := false
      uppercase := false
      zeroPad := false
      minWidth := 0
      args := argsOf ps
      output := [] }) rfl rfl
  rw [hrun, Option.map_some, ht.output_eq, ht.written_eq, List.nil_append, Int32.zero_add]

/-! ## The difference -/

/-- The minimum width. -/
def Piece.width : Piece → Nat
  | int m _ _ | chr m _ | str m _ => m.width
  | _ => 0

theorem padded_spec (m : Modifiers) (sign text : List UInt8) :
    (padded m sign text).length = max m.width (sign ++ text).length ∧
      (m.width ≤ (sign ++ text).length → padded m sign text = sign ++ text) := by
  rw [List.length_append]
  unfold padded
  dsimp only
  constructor
  · split
    · rw [List.length_append, List.length_append, List.length_replicate]
      omega
    · rw [List.length_append, List.length_append, List.length_replicate]
      omega
  · intro hfits
    rw [Nat.sub_eq_zero_of_le hfits]
    split
    · rw [List.replicate_zero, List.append_nil]
    · rfl

/-- The standard's text is what is printed, but for the padding. -/
theorem cText_piece {p : Piece} {text : List UInt8} (h : p.cText = some text) :
    text.length = max p.width p.printed.length ∧
      (p.width ≤ p.printed.length → text = p.printed) := by
  cases p with
  | char c ordinary =>
    cases h
    exact ⟨rfl, fun _ => rfl⟩
  | percent =>
    cases h
    exact ⟨rfl, fun _ => rfl⟩
  | int m conversion arg =>
    cases h
    exact padded_spec m _ _
  | chr m arg =>
    unfold Piece.cText at h
    dsimp only at h
    split at h
    · cases h
    · cases h
      exact padded_spec m [] _
  | str m arg =>
    unfold Piece.cText at h
    dsimp only at h
    split at h
    · cases h
    · obtain ⟨str, rfl, rfl⟩ := Option.map_eq_some_iff.mp h
      exact padded_spec m [] _

theorem cText_cons {p : Piece} {ps : List Piece} {text : List UInt8} :
    cText (p :: ps) = some text ↔
      ∃ first rest, p.cText = some first ∧ cText ps = some rest ∧ text = first ++ rest := by
  rw [cText, Option.bind_eq_some_iff]
  constructor
  · rintro ⟨first, hfirst, hmap⟩
    obtain ⟨rest, hrest, rfl⟩ := Option.map_eq_some_iff.mp hmap
    exact ⟨first, rest, hfirst, hrest, rfl⟩
  · rintro ⟨first, rest, hfirst, hrest, rfl⟩
    exact ⟨first, hfirst, by rw [hrest]; rfl⟩

theorem cText_defined : ∀ {ps : List Piece} {text : List UInt8}, cText ps = some text →
    ∀ p ∈ ps, ∃ t, p.cText = some t := by
  intro ps
  induction ps with
  | nil => intro text _ p hp; exact absurd hp List.not_mem_nil
  | cons p ps ih =>
    intro text h q hq
    obtain ⟨first, rest, hfirst, hrest, -⟩ := cText_cons.mp h
    rcases List.mem_cons.mp hq with rfl | hq
    · exact ⟨first, hfirst⟩
    · exact ih hrest q hq

/-- **The standard's text is as long as what is printed iff no piece is padded**, and then it is the
same. -/
theorem cText_printed : ∀ {ps : List Piece} {text : List UInt8}, cText ps = some text →
    (printedOf ps).length ≤ text.length ∧
      (text.length ≤ (printedOf ps).length → ∀ p ∈ ps, p.width ≤ p.printed.length) ∧
      ((∀ p ∈ ps, p.width ≤ p.printed.length) → text = printedOf ps) := by
  intro ps
  induction ps with
  | nil =>
    intro text h
    cases h
    exact ⟨Nat.le_refl _, fun _ _ hp => absurd hp List.not_mem_nil, fun _ => rfl⟩
  | cons p ps ih =>
    intro text h
    obtain ⟨first, rest, hfirst, hrest, rfl⟩ := cText_cons.mp h
    obtain ⟨hlength, heq⟩ := cText_piece hfirst
    obtain ⟨hle, hfits, heqs⟩ := ih hrest
    have hprinted : (printedOf (p :: ps)).length = p.printed.length + (printedOf ps).length :=
      List.length_append
    rw [List.length_append, hprinted]
    refine ⟨by omega, fun hshort q hq => ?_, fun hall => ?_⟩
    · rcases List.mem_cons.mp hq with rfl | hq
      · omega
      · exact hfits (by omega) q hq
    · obtain ⟨hp, hps⟩ := List.forall_mem_cons.mp hall
      rw [heq hp, heqs hps]
      rfl

/-! ## Counting -/

theorem numeral_length {base : Nat} (hbase : 1 < base) (uppercase : Bool) (n : Nat) :
    1 ≤ (numeral base uppercase n).length ∧
      ((numeral base uppercase n).length = 1 ↔ n < base) := by
  unfold numeral
  by_cases hzero : n = 0
  · rw [if_pos hzero]
    exact ⟨Nat.le_refl 1, iff_of_true rfl (by omega)⟩
  · have hpos : 0 < n := Nat.pos_of_ne_zero hzero
    rw [if_neg hzero, List.length_map, List.length_reverse, Nat.digits_def' hbase hpos,
      List.length_cons]
    refine ⟨Nat.le_add_left 1 _, ?_⟩
    -- there is a second digit iff something is left over
    have hleft : (Nat.digits base (n / base)).length = 0 ↔ n < base := by
      rw [List.length_eq_zero_iff, Nat.digits_eq_nil_iff_eq_zero,
        Nat.div_eq_zero_iff_lt (Nat.lt_trans Nat.one_pos hbase)]
    omega

theorem counted_le (p : Piece) : p.counted ≤ p.printed.length := by
  cases p with
  | char c ordinary => exact Nat.le_refl 1
  | percent => exact Nat.le_refl 1
  | int m conversion arg =>
    have hnumeral := (numeral_length conversion.one_lt_base conversion.uppercase
      (conversion.value arg).natAbs).1
    show 1 ≤ (signText _ ++ numeral _ _ _).length
    rw [List.length_append]
    omega
  | chr m arg => exact Nat.le_refl 1
  | str m arg => exact Nat.le_refl _

theorem countedOf_le : ∀ ps : List Piece, countedOf ps ≤ (printedOf ps).length ∧
    ((printedOf ps).length ≤ countedOf ps → ∀ p ∈ ps, p.counted = p.printed.length) ∧
    ((∀ p ∈ ps, p.counted = p.printed.length) → countedOf ps = (printedOf ps).length) := by
  intro ps
  induction ps with
  | nil => exact ⟨Nat.le_refl 0, fun _ _ hp => absurd hp List.not_mem_nil, fun _ => rfl⟩
  | cons p ps ih =>
    obtain ⟨hle, hall, heq⟩ := ih
    have hp := counted_le p
    have hcounted : countedOf (p :: ps) = p.counted + countedOf ps := rfl
    have hprinted : (printedOf (p :: ps)).length = p.printed.length + (printedOf ps).length :=
      List.length_append
    rw [hcounted, hprinted]
    refine ⟨by omega, fun hshort q hq => ?_, fun hsame => ?_⟩
    · rcases List.mem_cons.mp hq with rfl | hq
      · omega
      · exact hall (by omega) q hq
    · obtain ⟨hfirst, hrest⟩ := List.forall_mem_cons.mp hsame
      rw [hfirst, heq hrest]

/-! ## Main result -/

/-- The characters printed are those that the standard prescribes, and their number is returned. -/
def PrintsAsC (initialized : Bool) (ps : List Piece) : Prop :=
  ∀ text, cText ps = some text →
    vprintf initialized (formatOf ps) (argsOf ps) = some (text, (text.length : Int))

/-- A number of one digit, and no width that is greater than what is printed. -/
def Piece.Plain : Piece → Prop
  | int m conversion arg => arg.toNat < conversion.base ∧ m.width ≤ 1
  | chr m _ => m.width ≤ 1
  | str m arg => m.width ≤ (cString (arg.getD [])).length
  | _ => True

instance : ∀ p : Piece, Decidable p.Plain
  | .char _ _ => inferInstanceAs (Decidable True)
  | .percent => inferInstanceAs (Decidable True)
  | .int .. => inferInstanceAs (Decidable (_ ∧ _))
  | .chr .. => inferInstanceAs (Decidable (_ ≤ _))
  | .str .. => inferInstanceAs (Decidable (_ ≤ _))

theorem value_eq_of_lt {conversion : IntConversion} {arg : UInt32}
    (h : arg.toNat < conversion.base) : conversion.value arg = arg.toNat := by
  have hsmall : conversion.base ≤ 16 := by cases conversion <;> decide
  rcases conversion.value_cases arg with hvalue | ⟨hhigh, -⟩
  · exact hvalue
  · omega

theorem value_natAbs {conversion : IntConversion} {arg : UInt32}
    (h : 0 ≤ conversion.value arg) : (conversion.value arg).natAbs = arg.toNat := by
  have harg := arg.toNat_lt
  rcases conversion.value_cases arg with hvalue | ⟨-, hvalue⟩
  · rw [hvalue, Int.natAbs_natCast]
  · omega

/-- **A number is one character iff it is one digit.** -/
theorem printed_int_length (conversion : IntConversion) (arg : UInt32) :
    (signText (conversion.value arg) ++
        numeral conversion.base conversion.uppercase (conversion.value arg).natAbs).length = 1 ↔
      arg.toNat < conversion.base := by
  have hnumeral := numeral_length conversion.one_lt_base conversion.uppercase
    (conversion.value arg).natAbs
  rw [List.length_append]
  constructor
  · intro h
    have hnonneg : 0 ≤ conversion.value arg := by
      by_contra hneg
      have hsign : (signText (conversion.value arg)).length = 1 := by
        unfold signText
        rw [if_pos (by omega)]
        rfl
      omega
    rw [← value_natAbs hnonneg]
    exact hnumeral.2.mp (by omega)
  · intro h
    have hvalue := value_eq_of_lt h
    have hsign : (signText (conversion.value arg)).length = 0 := by
      unfold signText
      rw [hvalue, if_neg (by omega)]
      rfl
    rw [hsign, Nat.zero_add, hnumeral.2, hvalue, Int.natAbs_natCast]
    exact h

theorem plain_iff {p : Piece} {text : List UInt8} (h : p.cText = some text) :
    p.Plain ↔ p.width ≤ p.printed.length ∧ p.counted = p.printed.length := by
  cases p with
  | char c ordinary => exact iff_of_true trivial ⟨Nat.zero_le 1, rfl⟩
  | percent => exact iff_of_true trivial ⟨Nat.zero_le 1, rfl⟩
  | int m conversion arg =>
    have hlength := printed_int_length conversion arg
    show _ ∧ m.width ≤ 1 ↔ m.width ≤ (signText _ ++ numeral _ _ _).length ∧
      1 = (signText _ ++ numeral _ _ _).length
    rw [← hlength]
    omega
  | chr m arg => exact (and_iff_left rfl).symm
  | str m arg =>
    unfold Piece.cText at h
    dsimp only at h
    split at h
    · cases h
    · obtain ⟨str, rfl, -⟩ := Option.map_eq_some_iff.mp h
      exact (and_iff_left rfl).symm

theorem toInt_ofNat_le (n : Nat) : (Int32.ofNat n).toInt ≤ n := by
  have hsize : Int32.size = 4294967296 := rfl
  rw [Int32.toInt_ofNat', hsize, Int.bmod_def]
  split <;> omega

/--
**`vprintf` prints what the standard prescribes and returns the number of characters iff the numbers
have one digit, no minimum width is greater than what is printed, and there are fewer than 2^31
characters.**

The output has to be initialised. Where the standard prescribes nothing, there is nothing to meet.
-/
theorem vprintf_iff (initialized : Bool) (ps : List Piece) :
    PrintsAsC initialized ps ↔ cText ps = none ∨
      (initialized = true ∧ (∀ p ∈ ps, p.Plain) ∧ (printedOf ps).length < 2 ^ 31) := by
  cases htext : cText ps with
  | none => exact iff_of_true (fun text h => by rw [htext] at h; cases h) (Or.inl rfl)
  | some text =>
    have hplain : (∀ p ∈ ps, p.Plain) ↔ (∀ p ∈ ps, p.width ≤ p.printed.length) ∧
        ∀ p ∈ ps, p.counted = p.printed.length := by
      rw [← forall₂_and]
      refine forall₂_congr fun p hp => ?_
      obtain ⟨t, ht⟩ := cText_defined htext p hp
      exact plain_iff ht
    obtain ⟨hle, hfits, hsame⟩ := cText_printed htext
    obtain ⟨hcount, hall, hcounted⟩ := countedOf_le ps
    rw [hplain]
    constructor
    · intro h
      have hrun := h text htext
      cases initialized with
      | false =>
        have hreturn := congrArg (Option.map Prod.snd) hrun
        have hminus : (-1 : Int) = text.length := Option.some.inj hreturn
        omega
      | true =>
        rw [vprintf_pieces] at hrun
        obtain ⟨hprinted, hreturned⟩ := Prod.mk.inj (Option.some.inj hrun)
        have hbound := toInt_ofNat_le (countedOf ps)
        have hlt := Int32.toInt_lt (Int32.ofNat (countedOf ps))
        rw [hreturned] at hbound hlt
        rw [hprinted] at hcount hall hfits ⊢
        exact Or.inr ⟨rfl, ⟨hfits (Nat.le_refl _), hall (by omega)⟩, by omega⟩
    · rintro (hnone | ⟨rfl, ⟨hwidths, hcounts⟩, hlt⟩) text' htext'
      · cases hnone
      · rw [htext] at htext'
        cases htext'
        rw [vprintf_pieces, hcounted hcounts, hsame hwidths, Int32.toInt_ofNat_of_lt hlt]

/-- "%02x" and "%d". -/
def byteInHex (arg : UInt32) : List Piece := [.int ⟨true, 2, false⟩ .x arg]
def decimal (arg : UInt32) : List Piece := [.int ⟨false, 0, false⟩ .d arg]

/--
"%02x" with 5 prints "5" where the standard prescribes "05"; "%d" with 10 prints both characters and
returns 1.
-/
theorem vprintf_unpadded :
    (vprintf true (formatOf (byteInHex 5)) (argsOf (byteInHex 5)) = some ([53], 1) ∧
      cText (byteInHex 5) = some [48, 53] ∧ ¬ PrintsAsC true (byteInHex 5)) ∧
    (vprintf true (formatOf (decimal 10)) (argsOf (decimal 10)) = some ([49, 48], 1) ∧
      cText (decimal 10) = some [49, 48] ∧ ¬ PrintsAsC true (decimal 10)) := by
  have hhex : vprintf true (formatOf (byteInHex 5)) (argsOf (byteInHex 5)) = some ([53], 1) := by
    decide
  have hhexText : cText (byteInHex 5) = some [48, 53] := by decide
  have hdecimal : vprintf true (formatOf (decimal 10)) (argsOf (decimal 10)) =
      some ([49, 48], 1) := by decide
  have hdecimalText : cText (decimal 10) = some [49, 48] := by decide
  refine ⟨⟨hhex, hhexText, fun h => ?_⟩, hdecimal, hdecimalText, fun h => ?_⟩
  · have hrun := h _ hhexText
    rw [hhex] at hrun
    exact absurd hrun (by decide)
  · have hrun := h _ hdecimalText
    rw [hdecimal] at hrun
    exact absurd hrun (by decide)

end MayaOs.Libc
