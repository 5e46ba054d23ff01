import MayaOs.Drivers.Vga
import MayaOs.Lib.Loops
import MayaOs.Lib.Run

/-!
# The bounds of the text screen

* `vgaScroll_drawn`, `vgaClear_drawn` — what scrolling and clearing do to the buffer
* `vga_bounds` — the cursor stays on the screen, and every write is inside of the buffer
-/

namespace MayaOs.Drivers

open MayaOs.Lib

def vgaSize : Nat := vgaHeight * vgaWidth

variable {s s' s'' : VgaState} {b b' : Nat → UInt16}

/-! ## Drawing -/

/-- The buffer has been written, at indices of the screen, and nothing else has changed. -/
structure Drawn (s s' : VgaState) (buffer : Nat → UInt16) : Prop where
  buffer_eq : s'.buffer = buffer
  x_eq : s'.x = s.x
  y_eq : s'.y = s.y
  color_eq : s'.color = s.color
  cursorEnabled_eq : s'.cursorEnabled = s.cursorEnabled
  initialized_eq : s'.initialized = s.initialized
  writes : ∀ i ∈ s'.writes, i ∈ s.writes ∨ i < vgaSize

theorem Drawn.refl (s : VgaState) : Drawn s s s.buffer :=
  ⟨rfl, rfl, rfl, rfl, rfl, rfl, fun _ => Or.inl⟩

theorem Drawn.trans (h : Drawn s s' b) (h' : Drawn s' s'' b') : Drawn s s'' b' := by
  refine ⟨h'.buffer_eq, h'.x_eq.trans h.x_eq, h'.y_eq.trans h.y_eq, h'.color_eq.trans h.color_eq,
    h'.cursorEnabled_eq.trans h.cursorEnabled_eq, h'.initialized_eq.trans h.initialized_eq,
    fun i hi => ?_⟩
  rcases h'.writes i hi with hi | hi
  · exact h.writes i hi
  · exact Or.inr hi

theorem Drawn.congr (h : Drawn s s' b) (heq : ∀ i, b i = b' i) : Drawn s s' b' :=
  funext heq ▸ h

theorem drawn_store (s : VgaState) {i : Nat} (hi : i < vgaSize) (v : UInt16) :
    Drawn s (s.store i v) (Function.update s.buffer i v) := by
  refine ⟨rfl, rfl, rfl, rfl, rfl, rfl, fun j hj => ?_⟩
  rcases List.mem_cons.mp hj with rfl | hj
  · exact Or.inr hi
  · exact Or.inl hj

theorem index_lt {x y : Nat} (hx : x < vgaWidth) (hy : y < vgaHeight) :
    y * vgaWidth + x < vgaSize := by
  unfold vgaSize vgaWidth vgaHeight at *
  omega

/-- One more cell of a line. -/
theorem ite_cells_succ (line k i : Nat) (v w : UInt16) :
    (if i = line + k then v else if line ≤ i ∧ i < line + k then v else w) =
      if line ≤ i ∧ i < line + (k + 1) then v else w := by
  by_cases hi : i = line + k
  · rw [if_pos hi, if_pos (by omega)]
  · rw [if_neg hi]
    by_cases hin : line ≤ i ∧ i < line + k
    · rw [if_pos hin, if_pos (by omega)]
    · rw [if_neg hin, if_neg (by omega)]

/-- One more line. -/
theorem ite_lines_succ (width k i : Nat) (v w : UInt16) :
    (if k * width ≤ i ∧ i < k * width + width then v else if i < k * width then v else w) =
      if i < (k + 1) * width then v else w := by
  rw [Nat.succ_mul]
  by_cases hin : k * width ≤ i ∧ i < k * width + width
  · rw [if_pos hin, if_pos hin.2]
  · rw [if_neg hin]
    by_cases hi : i < k * width
    · rw [if_pos hi, if_pos (by omega)]
    · rw [if_neg hi, if_neg (by omega)]

/-- A line is spaces. -/
theorem vgaClearLine_drawn (s : VgaState) {y : Nat} (hy : y < vgaHeight) :
    Drawn s (vgaClearLine s y) fun i =>
      if y * vgaWidth ≤ i ∧ i < y * vgaWidth + vgaWidth then vgaEntry 32 s.color
      else s.buffer i := by
  unfold vgaClearLine
  refine foldl_range_inv (P := fun k t => Drawn s t fun i =>
    if y * vgaWidth ≤ i ∧ i < y * vgaWidth + k then vgaEntry 32 s.color else s.buffer i) ?_ ?_
  · refine (Drawn.refl s).congr fun i => ?_
    rw [if_neg (by omega)]
  · intro k t hk ht
    refine (ht.trans (drawn_store t (index_lt hk hy) _)).congr fun i => ?_
    rw [ht.buffer_eq, ht.color_eq, Function.update_apply]
    exact ite_cells_succ ..

/-- A line is moved to the one above. -/
theorem moveLine_drawn (s : VgaState) {y : Nat} (hy : y < vgaHeight) :
    Drawn s
      ((List.range vgaWidth).foldl (fun s x =>
        s.store (y * vgaWidth + x) (s.buffer ((y + 1) * vgaWidth + x))) s) fun i =>
      if y * vgaWidth ≤ i ∧ i < y * vgaWidth + vgaWidth then s.buffer (i + vgaWidth)
      else s.buffer i := by
  refine foldl_range_inv (P := fun k t => Drawn s t fun i =>
    if y * vgaWidth ≤ i ∧ i < y * vgaWidth + k then s.buffer (i + vgaWidth) else s.buffer i) ?_ ?_
  · refine (Drawn.refl s).congr fun i => ?_
    rw [if_neg (by omega)]
  · intro k t hk ht
    have hnext : (y + 1) * vgaWidth + k = y * vgaWidth + k + vgaWidth := by
      rw [Nat.add_mul, Nat.one_mul]
      omega
    -- the line below has not been written
    have hbelow : t.buffer ((y + 1) * vgaWidth + k) = s.buffer (y * vgaWidth + k + vgaWidth) := by
      rw [ht.buffer_eq, hnext]
      exact if_neg (by omega)
    refine (ht.trans (drawn_store t (index_lt hk hy) _)).congr fun i => ?_
    rw [hbelow, ht.buffer_eq, Function.update_apply]
    rw [← ite_cells_succ]
    split
    · next hi => rw [hi]
    · rfl

theorem vgaMoveUp_drawn (s : VgaState) :
    Drawn s (vgaMoveUp s) fun i =>
      if i < (vgaHeight - 1) * vgaWidth then s.buffer (i + vgaWidth) else s.buffer i := by
  unfold vgaMoveUp
  refine foldl_range_inv (P := fun k t => Drawn s t fun i =>
    if i < k * vgaWidth then s.buffer (i + vgaWidth) else s.buffer i) ?_ ?_
  · refine (Drawn.refl s).congr fun i => ?_
    rw [if_neg (by omega)]
  · intro k t hk ht
    refine (ht.trans (moveLine_drawn t (by omega))).congr fun i => ?_
    rw [ht.buffer_eq, ← ite_lines_succ]
    -- the line that is moved is below those that have been written
    split
    · next hin => exact if_neg (by omega)
    · rfl

/-- **Scrolling** moves the lines up, and the last one is spaces. -/
theorem vgaScroll_drawn (s : VgaState) :
    Drawn s (vgaScroll s) fun i =>
      if i < (vgaHeight - 1) * vgaWidth then s.buffer (i + vgaWidth)
      else if i < vgaSize then vgaEntry 32 s.color
      else s.buffer i := by
  have hmoved := vgaMoveUp_drawn s
  refine (hmoved.trans (vgaClearLine_drawn (vgaMoveUp s) (by decide))).congr fun i => ?_
  rw [hmoved.buffer_eq, hmoved.color_eq]
  have hsize : vgaSize = (vgaHeight - 1) * vgaWidth + vgaWidth := rfl
  rw [hsize]
  by_cases hlast : (vgaHeight - 1) * vgaWidth ≤ i ∧ i < (vgaHeight - 1) * vgaWidth + vgaWidth
  · rw [if_pos hlast, if_neg (by omega), if_pos hlast.2]
  · rw [if_neg hlast]
    dsimp only
    by_cases hi : i < (vgaHeight - 1) * vgaWidth
    · rw [if_pos hi, if_pos hi]
    · rw [if_neg hi, if_neg hi, if_neg (by omega)]

/-- **Clearing** makes the screen spaces. -/
theorem vgaClear_drawn (s : VgaState) :
    ∃ t, Drawn s t (fun i => if i < vgaSize then vgaEntry 32 s.color else s.buffer i) ∧
      vgaClear s = vgaUpdateCursor { t with x := 0, y := 0 } := by
  refine ⟨_, ?_, rfl⟩
  refine foldl_range_inv (P := fun k t => Drawn s t fun i =>
    if i < k * vgaWidth then vgaEntry 32 s.color else s.buffer i) ?_ ?_
  · refine (Drawn.refl s).congr fun i => ?_
    rw [if_neg (by omega)]
  · intro k t hk ht
    refine (ht.trans (vgaClearLine_drawn t hk)).congr fun i => ?_
    rw [ht.buffer_eq, ht.color_eq]
    exact ite_lines_succ ..

/-! ## The cursor -/

/-- The cursor is on the screen, and every write has been inside of the buffer. -/
structure VgaOk (s : VgaState) : Prop where
  x_lt : s.x.toNat < vgaWidth
  y_lt : s.y.toNat < vgaHeight
  writes_lt : ∀ i ∈ s.writes, i < vgaSize

theorem Drawn.writes_lt (h : Drawn s s' b) (hs : ∀ i ∈ s.writes, i < vgaSize) :
    ∀ i ∈ s'.writes, i < vgaSize := by
  intro i hi
  rcases h.writes i hi with hi | hi
  · exact hs i hi
  · exact hi

theorem VgaOk.pos_lt (h : VgaOk s) : s.pos < vgaSize := index_lt h.x_lt h.y_lt

theorem vgaOk_updateCursor (h : VgaOk s) : VgaOk (vgaUpdateCursor s) := by
  unfold vgaUpdateCursor
  split
  · exact ⟨h.x_lt, h.y_lt, h.writes_lt⟩
  · exact h

/-- After the `switch` the cursor may be just behind the end of its line, or just below the screen. -/
structure VgaPlaced (s : VgaState) : Prop where
  position : s.x.toNat < vgaWidth ∧ s.y.toNat ≤ vgaHeight ∨
    s.x.toNat ≤ vgaWidth ∧ s.y.toNat < vgaHeight
  writes_lt : ∀ i ∈ s.writes, i < vgaSize

/-- The next multiple of 8. -/
theorem toNat_tab {x : UInt8} (h : x.toNat < vgaWidth) :
    ((x + 8) &&& ~~~ 7).toNat = (x.toNat / 8 + 1) * 8 := by
  have hall : ∀ n < 80, ((UInt8.ofNat n + 8) &&& ~~~ 7).toNat = (n / 8 + 1) * 8 := by decide
  have hx := hall x.toNat h
  rwa [UInt8.ofNat_toNat] at hx

theorem toNat_succ {x : UInt8} {n : Nat} (h : x.toNat < n) (hn : n < 256) :
    (x + 1).toNat = x.toNat + 1 := by
  rw [UInt8.toNat_add, UInt8.toNat_one]
  omega

theorem toNat_pred {x : UInt8} (h : 0 < x) : (x - 1).toNat = x.toNat - 1 := by
  have hpos : 0 < x.toNat := UInt8.lt_iff_toNat_lt.mp h
  exact UInt8.toNat_sub_of_le x 1 (UInt8.le_iff_toNat_le.mpr hpos)

theorem vgaOk_back (h : VgaOk s) : VgaOk (vgaBack s) := by
  unfold vgaBack
  split
  · next hpos =>
    refine ⟨?_, h.y_lt, h.writes_lt⟩
    show (s.x - 1).toNat < vgaWidth
    rw [toNat_pred hpos]
    exact Nat.lt_of_le_of_lt (Nat.sub_le _ _) h.x_lt
  · split
    · next hpos =>
      refine ⟨by show 79 < vgaWidth; decide, ?_, h.writes_lt⟩
      show (s.y - 1).toNat < vgaHeight
      rw [toNat_pred hpos]
      exact Nat.lt_of_le_of_lt (Nat.sub_le _ _) h.y_lt
    · exact h

theorem vgaPlace_spec (h : VgaOk s) (c : UInt8) : VgaPlaced (vgaPlace s c) := by
  have hx := h.x_lt
  have hy := h.y_lt
  unfold vgaPlace
  split
  · refine ⟨Or.inl ⟨by show 0 < vgaWidth; decide, ?_⟩, h.writes_lt⟩
    show (s.y + 1).toNat ≤ vgaHeight
    rw [toNat_succ hy (by decide)]
    exact hy
  · split
    · exact ⟨Or.inl ⟨by show 0 < vgaWidth; decide, Nat.le_of_lt hy⟩, h.writes_lt⟩
    · split
      · refine ⟨Or.inr ⟨?_, hy⟩, h.writes_lt⟩
        show ((s.x + 8) &&& ~~~ 7).toNat ≤ vgaWidth
        rw [toNat_tab hx]
        unfold vgaWidth at hx ⊢
        omega
      · split
        · have hback := vgaOk_back h
          exact ⟨Or.inl ⟨hback.x_lt, Nat.le_of_lt hback.y_lt⟩,
            (drawn_store _ hback.pos_lt (vgaEntry 32 (vgaBack s).color)).writes_lt hback.writes_lt⟩
        · refine ⟨Or.inr ⟨?_, hy⟩, (drawn_store s h.pos_lt (vgaEntry c s.color)).writes_lt h.writes_lt⟩
          show (s.x + 1).toNat ≤ vgaWidth
          rw [toNat_succ hx (by decide)]
          exact hx

theorem vgaOk_settle (h : VgaPlaced s) : VgaOk (vgaScrollIfBelow (vgaWrap s)) := by
  have hwrap : (vgaWrap s).x.toNat < vgaWidth ∧ (vgaWrap s).y.toNat ≤ vgaHeight ∧
      (vgaWrap s).writes = s.writes := by
    unfold vgaWrap
    split
    · next hright =>
      have hy : s.y.toNat < vgaHeight := by
        rcases h.position with hpos | hpos
        · omega
        · exact hpos.2
      refine ⟨by show 0 < vgaWidth; decide, ?_, rfl⟩
      show (s.y + 1).toNat ≤ vgaHeight
      rw [toNat_succ hy (by decide)]
      exact hy
    · next hleft =>
      refine ⟨Nat.lt_of_not_le hleft, ?_, rfl⟩
      rcases h.position with hpos | hpos
      · exact hpos.2
      · exact Nat.le_of_lt hpos.2
  obtain ⟨hx, hy, hwrites⟩ := hwrap
  have hlt : ∀ i ∈ (vgaWrap s).writes, i < vgaSize := by
    rw [hwrites]
    exact h.writes_lt
  unfold vgaScrollIfBelow
  split
  · have hdrawn := vgaScroll_drawn (vgaWrap s)
    refine ⟨?_, by show 24 < vgaHeight; decide, hdrawn.writes_lt hlt⟩
    show (vgaScroll (vgaWrap s)).x.toNat < vgaWidth
    rw [hdrawn.x_eq]
    exact hx
  · next habove => exact ⟨hx, Nat.lt_of_not_le habove, hlt⟩

theorem vgaOk_putchar (h : VgaOk s) (c : UInt8) : VgaOk (vgaPutchar s c) := by
  unfold vgaPutchar
  split
  · exact vgaOk_updateCursor (vgaOk_settle (vgaPlace_spec h c))
  · exact h

theorem vgaOk_clear (h : ∀ i ∈ s.writes, i < vgaSize) : VgaOk (vgaClear s) := by
  obtain ⟨t, hdrawn, heq⟩ := vgaClear_drawn s
  rw [heq]
  exact vgaOk_updateCursor ⟨by show 0 < vgaWidth; decide, by show 0 < vgaHeight; decide,
    hdrawn.writes_lt h⟩

/-! ## Runs -/

inductive VgaOp where
  | putchar (c : UInt8)
  | write (data : List UInt8)
  | clear
  | setCursor (x y : UInt8)
  | setColor (color : UInt8)
  deriving Repr, DecidableEq

def vgaStep (s : VgaState) : VgaOp → Option VgaState
  | .putchar c => some (vgaPutchar s c)
  | .write data => some (vgaWrite s data)
  | .clear => some (vgaClear s)
  | .setCursor x y => some (vgaSetCursor s x y)
  | .setColor color => some (vgaSetColor s color)

/-- The static state, and what the memory of the screen holds. -/
def VgaState.boot (buffer : Nat → UInt16) : VgaState where
  buffer := buffer
  x := 0
  y := 0
  color := 0
  cursorEnabled := false
  initialized := false
  cursor := 0
  writes := []

theorem vgaOk_step {op : VgaOp} (h : VgaOk s) (hs : vgaStep s op = some s') : VgaOk s' := by
  cases op with
  | putchar c =>
    cases hs
    exact vgaOk_putchar h c
  | write data =>
    cases hs
    unfold vgaWrite
    exact List.foldlRecOn data vgaPutchar h fun t ht c _ => vgaOk_putchar ht c
  | clear =>
    cases hs
    exact vgaOk_clear h.writes_lt
  | setCursor x y =>
    cases hs
    unfold vgaSetCursor
    split
    · exact h
    · next hin =>
      rw [not_or, Nat.not_le, Nat.not_le] at hin
      exact vgaOk_updateCursor ⟨hin.1, hin.2, h.writes_lt⟩
  | setColor color =>
    cases hs
    exact ⟨h.x_lt, h.y_lt, h.writes_lt⟩

theorem vgaOk_init (buffer : Nat → UInt16) : VgaOk (vgaInit (.boot buffer)) := by
  have hclear := vgaOk_clear (s := { VgaState.boot buffer with
    x := 0, y := 0, color := vgaWhiteOnBlack, cursorEnabled := true })
    fun i hi => absurd hi List.not_mem_nil
  unfold vgaInit
  rw [if_neg (by exact Bool.false_ne_true)]
  exact ⟨hclear.x_lt, hclear.y_lt, hclear.writes_lt⟩

/--
**After `vga_init` the cursor stays on the screen, and every write is inside of the buffer.**

The indices written are recorded by every store, those of scrolling, clearing and erasing included.
-/
theorem vga_bounds (buffer : Nat → UInt16) (ops : List VgaOp) :
    Always vgaStep VgaOk (vgaInit (.boot buffer)) ops :=
  Always.of_invariant (fun _ => id) (fun _ _ _ => vgaOk_step) (vgaOk_init buffer)

end MayaOs.Drivers
