import MayaOs.Properties.VgaBounds

/-!
# The text screen as a terminal

A terminal keeps all of its rows; the screen shows the last 25. A character is a signed `char`, so that
those from 0x80 on set the whole upper byte of their cell.

* `simulates_putchar` — one character on the screen and on the terminal
* `vga_terminal_iff` — when `vga_write` shows what the terminal shows
* `vga_terminal_signed` — the character 0xE9
-/

namespace MayaOs.Drivers

variable {s s' : VgaState}

/-! ## Cells -/

/-- The character in the low byte, the colour in the high byte. -/
structure HasCell (v : UInt16) (c color : UInt8) : Prop where
  low : v.toUInt8 = c
  high : (v >>> 8).toUInt8 = color

theorem vgaEntry_low (c color : UInt8) : (vgaEntry c color).toUInt8 = c := by
  rw [← UInt8.toBitVec_inj]
  ext i hi
  have hlow : i < 16 := by omega
  simp [vgaEntry, BitVec.getElem_signExtend, hi, hlow]

theorem vgaEntry_high_bit (c color : UInt8) {i : Nat} (hi : i < 8) :
    (vgaEntry c color >>> 8).toUInt8.toBitVec[i] = (c.toBitVec.msb || color.toBitVec[i]) := by
  have hhigh : 8 + i < 16 := by omega
  have hlow : i < 16 := by omega
  have hnot : ¬ 8 + i < 8 := by omega
  simp [vgaEntry, BitVec.getElem_signExtend, hi, hhigh, hlow, hnot]

/-- **The sign of the character fills the high byte.** -/
theorem vgaEntry_high (c color : UInt8) :
    (vgaEntry c color >>> 8).toUInt8 = if c.toNat < 128 then color else 0xFF := by
  have hones : ∀ i (hi : i < 8), (255#8)[i] = true := by decide
  have hsign : c.toBitVec.msb = decide (128 ≤ c.toNat) := BitVec.msb_eq_decide c.toBitVec
  rw [← UInt8.toBitVec_inj]
  ext i hi
  rw [vgaEntry_high_bit c color hi, hsign]
  by_cases hc : c.toNat < 128
  · simp [hc, Nat.not_le_of_lt hc]
  · simp [hc, Nat.le_of_not_lt hc, hones i hi]

theorem hasCell_vgaEntry_iff {c color : UInt8} :
    HasCell (vgaEntry c color) c color ↔ color = 0xFF ∨ c.toNat < 128 := by
  have hhigh := vgaEntry_high c color
  constructor
  · intro h
    by_cases hc : c.toNat < 128
    · exact Or.inr hc
    · rw [if_neg hc, h.high] at hhigh
      exact Or.inl hhigh
  · intro h
    refine ⟨vgaEntry_low c color, ?_⟩
    rw [hhigh]
    split
    · rfl
    · next hc => exact (h.resolve_right hc).symm

/-! ## The terminal -/

/-- All the rows there are, and the position where the next character goes. -/
structure Terminal where
  cell : Nat → Nat → UInt8
  row : Nat
  col : Nat

def Terminal.new : Terminal where
  cell := fun _ _ => 32
  row := 0
  col := 0

/-- Goes to a column, or to the next row. -/
def Terminal.goTo (t : Terminal) (col : Nat) : Terminal :=
  if 80 ≤ col then { t with row := t.row + 1, col := 0 } else { t with col := col }

def Terminal.put (t : Terminal) (c : UInt8) : Terminal :=
  if c = 10 then { t with row := t.row + 1, col := 0 }
  else if c = 13 then { t with col := 0 }
  else if c = 9 then t.goTo ((t.col / 8 + 1) * 8)
  else
    { t with cell := Function.update t.cell t.row (Function.update (t.cell t.row) t.col c) }.goTo
      (t.col + 1)

def Terminal.write (t : Terminal) (data : List UInt8) : Terminal := data.foldl Terminal.put t

/-- The first of the last 25 rows. -/
def Terminal.top (t : Terminal) : Nat := t.row - 24

/-- The screen shows the last 25 rows of a terminal, in its colour, and has the cursor where the
terminal has it. -/
structure Shows (s : VgaState) (t : Terminal) : Prop where
  x_eq : s.x.toNat = t.col
  y_eq : s.y.toNat = t.row - t.top
  cells : ∀ y < 25, ∀ x < 80,
    HasCell (s.buffer (y * 80 + x)) (t.cell (t.top + y) x) s.color

/-! ## Simulation -/

/-- The screen has the entries of the last 25 rows, and the rows to come are empty. -/
structure Simulates (s : VgaState) (t : Terminal) : Prop where
  initialized : s.initialized = true
  x_eq : s.x.toNat = t.col
  y_eq : s.y.toNat = t.row - t.top
  col_lt : t.col < 80
  cells : ∀ y < 25, ∀ x < 80,
    s.buffer (y * 80 + x) = vgaEntry (t.cell (t.top + y) x) s.color
  empty : ∀ r, t.row < r → ∀ x, t.cell r x = 32

/-- **What is shown, with the sign in the high bytes.** -/
theorem Simulates.shows_iff {t : Terminal} (h : Simulates s t) :
    Shows s t ↔ s.color = 0xFF ∨ ∀ y < 25, ∀ x < 80, (t.cell (t.top + y) x).toNat < 128 := by
  constructor
  · intro hshows
    by_cases hcolor : s.color = 0xFF
    · exact Or.inl hcolor
    · refine Or.inr fun y hy x hx => ?_
      have hcell := hshows.cells y hy x hx
      rw [h.cells y hy x hx] at hcell
      exact (hasCell_vgaEntry_iff.mp hcell).resolve_left hcolor
  · intro hplain
    refine ⟨h.x_eq, h.y_eq, fun y hy x hx => ?_⟩
    rw [h.cells y hy x hx]
    exact hasCell_vgaEntry_iff.mpr (hplain.imp_right fun hall => hall y hy x hx)

theorem simulates_updateCursor {t : Terminal} (h : Simulates s t) :
    Simulates (vgaUpdateCursor s) t := by
  unfold vgaUpdateCursor
  split
  · exact ⟨h.initialized, h.x_eq, h.y_eq, h.col_lt, h.cells, h.empty⟩
  · exact h

theorem simulates_clear (hinit : s.initialized = true) : Simulates (vgaClear s) .new := by
  obtain ⟨t, hdrawn, heq⟩ := vgaClear_drawn s
  rw [heq]
  refine simulates_updateCursor
    ⟨hdrawn.initialized_eq.trans hinit, rfl, rfl, by decide, fun y hy x hx => ?_, fun _ _ _ => rfl⟩
  show t.buffer (y * 80 + x) = vgaEntry 32 t.color
  rw [hdrawn.buffer_eq, hdrawn.color_eq]
  exact if_pos (index_lt hx hy)

/-- Before the wrap and the scroll: the screen shows the rows that it showed when the cursor was in the
row `r`, and the next character goes to the column `col`. -/
structure Pending (r : Nat) (s : VgaState) (t : Terminal) (col : Nat) : Prop where
  initialized : s.initialized = true
  x_eq : s.x.toNat = col
  y_eq : s.y.toNat = t.row - (r - 24)
  row_ge : r ≤ t.row
  row_le : t.row ≤ r + 1
  cells : ∀ y < 25, ∀ x < 80,
    s.buffer (y * 80 + x) = vgaEntry (t.cell (r - 24 + y) x) s.color
  empty : ∀ q, r < q → ∀ x, t.cell q x = 32

theorem pending_wrap {r col : Nat} {t : Terminal} (h : Pending r s t col)
    (hcol : col < 80 ∨ t.row = r) :
    Pending r (vgaWrap s) (t.goTo col) (t.goTo col).col ∧ (t.goTo col).col < 80 := by
  have hwidth : (vgaWidth ≤ s.x.toNat) = (80 ≤ col) := by rw [h.x_eq]; rfl
  unfold vgaWrap Terminal.goTo
  simp only [hwidth]
  by_cases hright : 80 ≤ col
  · rw [if_pos hright, if_pos hright]
    have hrow : t.row = r := hcol.resolve_left (Nat.not_lt.mpr hright)
    refine ⟨⟨h.initialized, rfl, ?_, Nat.le_succ_of_le h.row_ge, ?_, h.cells, h.empty⟩,
      by show 0 < 80; decide⟩
    · have hlt : s.y.toNat < 25 := by
        rw [h.y_eq]
        omega
      show (s.y + 1).toNat = t.row + 1 - (r - 24)
      rw [toNat_succ hlt (by decide), h.y_eq]
      omega
    · show t.row + 1 ≤ r + 1
      omega
  · rw [if_neg hright, if_neg hright]
    exact ⟨⟨h.initialized, h.x_eq, h.y_eq, h.row_ge, h.row_le, h.cells, h.empty⟩,
      Nat.lt_of_not_le hright⟩

/-- **Scrolling** moves the view down by one row. -/
theorem simulates_scroll {r : Nat} {t : Terminal} (h : Pending r s t t.col) (hcol : t.col < 80) :
    Simulates (vgaScrollIfBelow s) t := by
  have hge := h.row_ge
  have hle := h.row_le
  have hempty : ∀ q, t.row < q → ∀ x, t.cell q x = 32 := fun q hq => h.empty q (by omega)
  unfold vgaScrollIfBelow
  by_cases hbelow : vgaHeight ≤ s.y.toNat
  · rw [if_pos hbelow]
    have hrow : t.row = r + 1 ∧ 24 ≤ r := by
      rw [h.y_eq] at hbelow
      change 25 ≤ _ at hbelow
      omega
    have hdrawn := vgaScroll_drawn s
    refine ⟨hdrawn.initialized_eq.trans h.initialized, ?_, ?_, hcol, fun y hy x hx => ?_, hempty⟩
    · show (vgaScroll s).x.toNat = t.col
      rw [hdrawn.x_eq, h.x_eq]
    · show 24 = t.row - (t.row - 24)
      omega
    · show (vgaScroll s).buffer (y * 80 + x) = vgaEntry (t.cell (t.row - 24 + y) x) (vgaScroll s).color
      rw [hdrawn.buffer_eq, hdrawn.color_eq]
      by_cases hlast : y < 24
      · have hcells := h.cells (y + 1) (by omega) x hx
        have hindex : (y + 1) * 80 + x = y * 80 + x + vgaWidth := by
          show (y + 1) * 80 + x = y * 80 + x + 80
          omega
        rw [hindex] at hcells
        dsimp only
        rw [if_pos (by show y * 80 + x < 24 * 80; omega), hcells]
        congr 2
        omega
      · -- the row that comes into view
        dsimp only
        rw [if_neg (by show ¬ y * 80 + x < 24 * 80; omega), if_pos (by show y * 80 + x < 2000; omega),
          h.empty (t.row - 24 + y) (by omega) x]
  · rw [if_neg hbelow]
    have htop : t.row - 24 = r - 24 := by
      rw [h.y_eq] at hbelow
      change ¬ 25 ≤ _ at hbelow
      omega
    refine ⟨h.initialized, h.x_eq, ?_, hcol, fun y hy x hx => ?_, hempty⟩
    · show s.y.toNat = t.row - (t.row - 24)
      rw [h.y_eq, htop]
    · show _ = vgaEntry (t.cell (t.row - 24 + y) x) s.color
      rw [htop]
      exact h.cells y hy x hx

theorem Simulates.x_lt {t : Terminal} (h : Simulates s t) : s.x.toNat < vgaWidth := by
  rw [h.x_eq]
  exact h.col_lt

theorem Simulates.y_lt {t : Terminal} (h : Simulates s t) : s.y.toNat < vgaHeight := by
  have htop : t.top = t.row - 24 := rfl
  rw [h.y_eq, htop]
  show _ < 25
  omega

/-- A character at the cursor. -/
theorem Simulates.cells_update {t : Terminal} (h : Simulates s t) (c : UInt8) {x y : Nat}
    (hy : y < 25) (hx : x < 80) :
    Function.update s.buffer s.pos (vgaEntry c s.color) (y * 80 + x) =
      vgaEntry (Function.update t.cell t.row (Function.update (t.cell t.row) t.col c)
        (t.top + y) x) s.color := by
  have htop : t.top = t.row - 24 := rfl
  have hcol := h.col_lt
  have hpos : s.pos = (t.row - t.top) * 80 + t.col := by
    unfold VgaState.pos
    rw [h.x_eq, h.y_eq]
    rfl
  have hcells := h.cells y hy x hx
  by_cases hrow : t.top + y = t.row
  · have hline : t.row - t.top = y := by omega
    rw [hrow, Function.update_self, hpos, hline]
    by_cases hcell : x = t.col
    · rw [hcell, Function.update_self, Function.update_self]
    · rw [Function.update_of_ne hcell, Function.update_of_ne (by omega), hcells, hrow]
  · rw [Function.update_of_ne hrow, Function.update_of_ne (by omega), hcells]

/-- The `switch` of `vga_putchar`, for every character but the backspace. -/
theorem pending_place {t : Terminal} (h : Simulates s t) {c : UInt8} (hc : c ≠ 8) :
    ∃ t' col, Pending t.row (vgaPlace s c) t' col ∧ (col < 80 ∨ t'.row = t.row) ∧
      t.put c = t'.goTo col := by
  unfold vgaPlace Terminal.put
  by_cases hnewline : c = 10
  · rw [if_pos hnewline, if_pos hnewline]
    refine ⟨{ t with row := t.row + 1 }, 0, ⟨h.initialized, rfl, ?_, Nat.le_succ _, Nat.le_refl _,
      h.cells, h.empty⟩, Or.inl (by decide), rfl⟩
    have htop : t.top = t.row - 24 := rfl
    show (s.y + 1).toNat = t.row + 1 - (t.row - 24)
    rw [toNat_succ h.y_lt (by decide), h.y_eq, htop]
    omega
  · rw [if_neg hnewline, if_neg hnewline]
    by_cases hreturn : c = 13
    · rw [if_pos hreturn, if_pos hreturn]
      exact ⟨t, 0, ⟨h.initialized, rfl, h.y_eq, Nat.le_refl _, Nat.le_succ _, h.cells, h.empty⟩,
        Or.inl (by decide), rfl⟩
    · rw [if_neg hreturn, if_neg hreturn]
      by_cases htab : c = 9
      · rw [if_pos htab, if_pos htab]
        refine ⟨t, _, ⟨h.initialized, ?_, h.y_eq, Nat.le_refl _, Nat.le_succ _, h.cells, h.empty⟩,
          Or.inr rfl, rfl⟩
        show ((s.x + 8) &&& ~~~ 7).toNat = _
        rw [toNat_tab h.x_lt, h.x_eq]
      · rw [if_neg htab, if_neg htab, if_neg hc]
        refine ⟨{ t with
            cell := Function.update t.cell t.row (Function.update (t.cell t.row) t.col c) },
          t.col + 1, ⟨h.initialized, ?_, h.y_eq, Nat.le_refl _, Nat.le_succ _,
            fun y hy x hx => h.cells_update c hy hx, fun q hq x => ?_⟩, Or.inr rfl, rfl⟩
        · show (s.x + 1).toNat = t.col + 1
          rw [toNat_succ h.x_lt (by decide), h.x_eq]
        · show Function.update t.cell t.row _ q x = 32
          rw [Function.update_of_ne (Nat.ne_of_gt hq)]
          exact h.empty q hq x

/-- **One character** on the screen and on the terminal. -/
theorem simulates_putchar {t : Terminal} (h : Simulates s t) {c : UInt8} (hc : c ≠ 8) :
    Simulates (vgaPutchar s c) (t.put c) := by
  obtain ⟨t', col, hpending, hcol, hput⟩ := pending_place h hc
  obtain ⟨hwrap, hlt⟩ := pending_wrap hpending hcol
  unfold vgaPutchar
  rw [if_pos h.initialized, hput]
  exact simulates_updateCursor (simulates_scroll hwrap hlt)

/-! ## The colour -/

@[simp] theorem vgaUpdateCursor_color (s : VgaState) : (vgaUpdateCursor s).color = s.color := by
  unfold vgaUpdateCursor
  split <;> rfl

@[simp] theorem vgaScroll_color (s : VgaState) : (vgaScroll s).color = s.color :=
  (vgaScroll_drawn s).color_eq

@[simp] theorem vgaScrollIfBelow_color (s : VgaState) : (vgaScrollIfBelow s).color = s.color := by
  unfold vgaScrollIfBelow
  split <;> simp

@[simp] theorem vgaWrap_color (s : VgaState) : (vgaWrap s).color = s.color := by
  unfold vgaWrap
  split <;> rfl

@[simp] theorem vgaBack_color (s : VgaState) : (vgaBack s).color = s.color := by
  unfold vgaBack
  split
  · rfl
  · split <;> rfl

@[simp] theorem vgaPlace_color (s : VgaState) (c : UInt8) : (vgaPlace s c).color = s.color := by
  unfold vgaPlace
  split
  · rfl
  · split
    · rfl
    · split
      · rfl
      · split
        · exact vgaBack_color s
        · rfl

theorem vgaPutchar_color (s : VgaState) (c : UInt8) : (vgaPutchar s c).color = s.color := by
  unfold vgaPutchar
  split <;> simp

theorem vgaWrite_color (s : VgaState) (data : List UInt8) : (vgaWrite s data).color = s.color :=
  List.foldlRecOn data vgaPutchar (motive := fun t => t.color = s.color) rfl
    fun t ht c _ => (vgaPutchar_color t c).trans ht

theorem vgaClear_color (s : VgaState) : (vgaClear s).color = s.color := by
  obtain ⟨t, hdrawn, heq⟩ := vgaClear_drawn s
  rw [heq, vgaUpdateCursor_color]
  exact hdrawn.color_eq

/-! ## A string -/

theorem simulates_write : ∀ {data : List UInt8} {s : VgaState} {t : Terminal}, Simulates s t →
    8 ∉ data → Simulates (vgaWrite s data) (t.write data) := by
  intro data
  induction data with
  | nil => intro s t h _; exact h
  | cons c data ih =>
    intro s t h hdata
    exact ih (simulates_putchar h fun hc => hdata (hc ▸ List.mem_cons_self))
      fun hmem => hdata (List.mem_cons_of_mem _ hmem)

/-! ## Main result -/

/--
**From a cleared screen, `vga_write` shows what the terminal shows iff the colour is 0xFF or no
character from 0x80 on is among those shown.**

In any case the cursor is right, and so is the low byte of every cell (`simulates_write`).
-/
theorem vga_terminal_iff (hinit : s.initialized = true) {data : List UInt8} (hdata : 8 ∉ data) :
    Shows (vgaWrite (vgaClear s) data) (Terminal.new.write data) ↔
      s.color = 0xFF ∨ ∀ y < 25, ∀ x < 80,
        ((Terminal.new.write data).cell ((Terminal.new.write data).top + y) x).toNat < 128 := by
  rw [(simulates_write (simulates_clear hinit) hdata).shows_iff, vgaWrite_color, vgaClear_color]

/-- The screen after `vga_init`, in white on black. -/
def vgaStarted : VgaState := { VgaState.boot (fun _ => 0) with
  color := vgaWhiteOnBlack
  cursorEnabled := true
  initialized := true }

/-- "Hi", a tab and a newline. -/
theorem vga_terminal_hi :
    Shows (vgaWrite (vgaClear vgaStarted) [72, 105, 9, 10]) (Terminal.new.write [72, 105, 9, 10]) ↔
      vgaStarted.color = 0xFF ∨ ∀ y < 25, ∀ x < 80,
        ((Terminal.new.write [72, 105, 9, 10]).cell
          ((Terminal.new.write [72, 105, 9, 10]).top + y) x).toNat < 128 :=
  vga_terminal_iff (s := vgaStarted) rfl (by decide)

/-- The character 0xE9 in white on black: its cell has 0xFF in the high byte. -/
theorem vga_terminal_signed :
    ¬ Shows (vgaWrite (vgaClear vgaStarted) [0xE9]) (Terminal.new.write [0xE9]) := by
  intro h
  have hsimulates := simulates_write (simulates_clear (s := vgaStarted) rfl)
    (show 8 ∉ ([0xE9] : List UInt8) by decide)
  rcases hsimulates.shows_iff.mp h with hcolor | hplain
  · rw [vgaWrite_color, vgaClear_color] at hcolor
    exact absurd hcolor (by decide)
  · exact absurd (hplain 0 (by decide) 0 (by decide)) (by decide)

end MayaOs.Drivers
