import Mathlib.Logic.Function.Basic
import Mathlib.Data.List.Basic
import Mathlib.Data.List.DropRight

/-!
# RingBuffer buffers

A buffer of `N` cells that is read and written in a circle, with a read position, a write position
and the number of cells in use. The three numbers are redundant.

* `WellFormed` — how they are related
* `contents` — the cells in use, oldest first
* `popMany_spec`, `pushMany_spec` — reading takes from the front, writing appends
* `contents_pushOver` — a ring that overwrites holds the last cells that were written
* `Recent`, `Recent.push` — slots that hold the last values of a list, the most recent first
-/

namespace MayaOs.Lib

universe u

variable {α : Type u}

structure RingBuffer (α : Type u) where
  buffer : Nat → α
  readPos : Nat
  writePos : Nat
  count : Nat

namespace RingBuffer

/-! ## one cell -/

/-- Reads a cell and moves the read position on. -/
def pop (N : Nat) (r : RingBuffer α) : α × RingBuffer α :=
  (r.buffer r.readPos, { r with readPos := (r.readPos + 1) % N, count := r.count - 1 })

/-- Writes a cell and moves the write position on. -/
def push (N : Nat) (r : RingBuffer α) (x : α) : RingBuffer α :=
  { r with
    buffer := Function.update r.buffer r.writePos x
    writePos := (r.writePos + 1) % N
    count := r.count + 1 }

/-- Positions and count agree. -/
structure WellFormed (N : Nat) (r : RingBuffer α) : Prop where
  count_le : r.count ≤ N
  readPos_lt : r.readPos < N
  writePos_lt : r.writePos < N
  writePos_eq : r.writePos = (r.readPos + r.count) % N

/-- The `n` cells from `pos` on. -/
def cells (N : Nat) (buffer : Nat → α) : Nat → Nat → List α
  | _, 0 => []
  | pos, n + 1 => buffer pos :: cells N buffer ((pos + 1) % N) n

/-- The cells in use, oldest first. -/
def contents (N : Nat) (r : RingBuffer α) : List α := cells N r.buffer r.readPos r.count

variable {N : Nat}

@[simp] theorem length_cells (buffer : Nat → α) :
    ∀ n pos : Nat, (cells N buffer pos n).length = n := by
  intro n
  induction n with
  | zero => intro pos; rfl
  | succ n ih => intro pos; rw [cells, List.length_cons, ih]

@[simp] theorem length_contents (r : RingBuffer α) : (contents N r).length = r.count :=
  length_cells ..

/-- Fewer than `N` steps do not lead back to where one started. -/
theorem add_mod_ne {pos n : Nat} (hpos : pos < N) (h0 : 0 < n) (hn : n < N) :
    (pos + n) % N ≠ pos := by
  by_cases h : pos + n < N
  · rw [Nat.mod_eq_of_lt h]
    omega
  · rw [Nat.mod_eq_sub_mod (by omega), Nat.mod_eq_of_lt (by omega)]
    omega

/-- A write behind the cells in use appends to them. -/
theorem cells_update (buffer : Nat → α) (x : α) : ∀ n pos : Nat, pos < N → n < N →
    cells N (Function.update buffer ((pos + n) % N) x) pos (n + 1) =
      cells N buffer pos n ++ [x] := by
  intro n
  induction n with
  | zero =>
    intro pos hpos _
    rw [Nat.add_zero, Nat.mod_eq_of_lt hpos, cells, cells, cells, Function.update_self]
    rfl
  | succ n ih =>
    intro pos hpos hn
    have hne : pos ≠ (pos + (n + 1)) % N := (add_mod_ne hpos (by omega) hn).symm
    have hnext : ((pos + 1) % N + n) % N = (pos + (n + 1)) % N := by
      rw [Nat.mod_add_mod, Nat.add_assoc, Nat.add_comm 1 n]
    have ih' := ih ((pos + 1) % N) (Nat.mod_lt _ (by omega)) (by omega)
    rw [hnext] at ih'
    rw [cells, ih', Function.update_of_ne hne]
    conv_rhs => rw [cells]
    rfl

theorem contents_pop {r : RingBuffer α} (h : 0 < r.count) :
    contents N r = (pop N r).1 :: contents N (pop N r).2 := by
  obtain ⟨n, hn⟩ : ∃ n, r.count = n + 1 := ⟨r.count - 1, by omega⟩
  unfold contents pop
  simp only [hn, Nat.add_sub_cancel]
  rfl

theorem contents_push {r : RingBuffer α} (hw : WellFormed N r) (h : r.count < N) (x : α) :
    contents N (push N r x) = contents N r ++ [x] := by
  unfold contents push
  simp only [hw.writePos_eq]
  exact cells_update r.buffer x r.count r.readPos hw.readPos_lt h

theorem WellFormed.pop {r : RingBuffer α} (hw : WellFormed N r) (h : 0 < r.count) :
    WellFormed N (pop N r).2 := by
  obtain ⟨hc, hr, hwr, heq⟩ := hw
  have hpos : 0 < N := by omega
  have hsum : r.readPos + 1 + (r.count - 1) = r.readPos + r.count := by omega
  refine ⟨?_, Nat.mod_lt _ hpos, hwr, ?_⟩
  · show r.count - 1 ≤ N
    omega
  · show r.writePos = ((r.readPos + 1) % N + (r.count - 1)) % N
    rw [Nat.mod_add_mod, hsum, heq]

theorem WellFormed.push {r : RingBuffer α} (hw : WellFormed N r) (h : r.count < N) (x : α) :
    WellFormed N (push N r x) := by
  obtain ⟨hc, hr, hwr, heq⟩ := hw
  refine ⟨h, hr, Nat.mod_lt _ (by omega), ?_⟩
  show (r.writePos + 1) % N = (r.readPos + (r.count + 1)) % N
  rw [heq, Nat.mod_add_mod, Nat.add_assoc]

/-! ## several cells -/

/-- `k` turns of the read loop: what has been read, and the ring afterwards. -/
def popMany (N : Nat) : Nat → RingBuffer α → List α × RingBuffer α
  | 0, r => ([], r)
  | k + 1, r =>
    let rest := popMany N k (pop N r).2
    ((pop N r).1 :: rest.1, rest.2)

/-- The write loop. -/
def pushMany (N : Nat) (r : RingBuffer α) (xs : List α) : RingBuffer α := xs.foldl (push N) r

/-- **Reading `k` cells that are in use takes the first `k` of them.** -/
theorem popMany_spec : ∀ (k : Nat) {r : RingBuffer α}, WellFormed N r → k ≤ r.count →
    WellFormed N (popMany N k r).2 ∧ (popMany N k r).2.count = r.count - k ∧
      (popMany N k r).1.length = k ∧
      contents N r = (popMany N k r).1 ++ contents N (popMany N k r).2 := by
  intro k
  induction k with
  | zero => intro r hw _; exact ⟨hw, rfl, rfl, rfl⟩
  | succ k ih =>
    intro r hw hk
    have hpos : 0 < r.count := by omega
    have hle : k ≤ (pop N r).2.count := by
      show k ≤ r.count - 1
      omega
    obtain ⟨hw', hc, hl, heq⟩ := ih (hw.pop hpos) hle
    have hcount : (popMany N k (pop N r).2).2.count = r.count - (k + 1) := by
      rw [hc]
      show r.count - 1 - k = _
      omega
    refine ⟨hw', hcount, congrArg (· + 1) hl, ?_⟩
    rw [contents_pop hpos, heq]
    rfl

/-- **Writing into free cells appends.** -/
theorem pushMany_spec : ∀ (xs : List α) {r : RingBuffer α}, WellFormed N r → r.count + xs.length ≤ N →
    WellFormed N (pushMany N r xs) ∧ (pushMany N r xs).count = r.count + xs.length ∧
      contents N (pushMany N r xs) = contents N r ++ xs := by
  intro xs
  induction xs with
  | nil => intro r hw _; exact ⟨hw, rfl, (List.append_nil _).symm⟩
  | cons x xs ih =>
    intro r hw hle
    rw [List.length_cons] at hle
    have hlt : r.count < N := by omega
    have hcount : (push N r x).count = r.count + 1 := rfl
    obtain ⟨hw', hc, heq⟩ := ih (hw.push hlt x) (by omega)
    refine ⟨hw', ?_, ?_⟩
    · show (pushMany N (push N r x) xs).count = _
      rw [hc, hcount, List.length_cons]
      omega
    · show contents N (pushMany N (push N r x) xs) = _
      rw [heq, contents_push hw hlt, List.append_assoc, List.singleton_append]

/-! ## overwriting -/

/-- Writes a cell; a full ring loses its oldest one. -/
def pushOver (N : Nat) (r : RingBuffer α) (x : α) : RingBuffer α :=
  if r.count < N then push N r x else push N (pop N r).2 x

theorem WellFormed.pushOver {r : RingBuffer α} (hN : 0 < N) (hw : WellFormed N r) (x : α) :
    WellFormed N (pushOver N r x) := by
  unfold RingBuffer.pushOver
  split
  · next hlt => exact hw.push hlt x
  · next hfull =>
    refine (hw.pop (by omega)).push ?_ x
    show r.count - 1 < N
    have hle := hw.count_le
    omega

/-- All but the first of the last `n + 1`. -/
theorem tail_rtake (xs : List α) {n : Nat} (h : n < xs.length) :
    (xs.rtake (n + 1)).tail = xs.rtake n := by
  unfold List.rtake
  rw [List.tail_drop]
  congr 1
  omega

/-- **A ring that overwrites holds the last `N` cells that were written.** -/
theorem contents_pushOver {r : RingBuffer α} (hN : 0 < N) (hw : WellFormed N r) {xs : List α}
    (h : contents N r = xs.rtake N) (x : α) :
    contents N (pushOver N r x) = (xs ++ [x]).rtake N := by
  have hlength : r.count = xs.length - (xs.length - N) := by
    rw [← length_contents (N := N) r, h, List.rtake, List.length_drop]
  have hle := hw.count_le
  unfold pushOver
  split
  · next hlt =>
    have hshort : xs.length - N = 0 := by omega
    rw [contents_push hw hlt, h, List.rtake, hshort, List.rtake, List.length_append,
      List.length_singleton, Nat.sub_eq_zero_of_le (by omega)]
    rfl
  · next hfull =>
    have hpos : 0 < r.count := by omega
    obtain ⟨n, rfl⟩ : ∃ n, N = n + 1 := ⟨N - 1, by omega⟩
    have hpop : contents (n + 1) (pop (n + 1) r).2 = (contents (n + 1) r).tail := by
      rw [contents_pop hpos]
      rfl
    rw [contents_push (hw.pop hpos) (by show r.count - 1 < n + 1; omega), hpop, h,
      tail_rtake xs (by omega), List.rtake_concat_succ]

end RingBuffer

/-!
## The last values written to a few slots

Values are written to `n` slots in turn, and the number of writes is all that is kept besides them.
The write index and the index at which a value is found again both come from that number.
-/

variable {n : Nat} {slots : Nat → α} {recent : List α}

/-- The slots hold the first `n` of `recent`, or all of them. -/
def Recent (n : Nat) (slots : Nat → α) (recent : List α) : Prop :=
  ∀ i (h : i < recent.length), i < n → slots ((recent.length - 1 - i) % n) = recent[i]

theorem Recent.nil (n : Nat) (slots : Nat → α) : Recent n slots [] := fun i h =>
  absurd h (Nat.not_lt_zero i)

/-- **A write puts its value before the others**, and takes the slot of none that is still held. -/
theorem Recent.push (h : Recent n slots recent) (v : α) :
    Recent n (Function.update slots (recent.length % n) v) (v :: recent) := by
  intro i hi hn
  cases i with
  | zero => exact Function.update_self ..
  | succ i =>
    have hlt : i < recent.length := Nat.lt_of_succ_lt_succ hi
    have hindex : (v :: recent).length - 1 - (i + 1) = recent.length - 1 - i := by
      rw [List.length_cons]
      omega
    -- the slot of `i` is `i + 1` places behind the one that is written
    have hnext : ((recent.length - 1 - i) % n + (i + 1)) % n = recent.length % n := by
      rw [Nat.mod_add_mod]
      congr 1
      omega
    have hne := RingBuffer.add_mod_ne (Nat.mod_lt (recent.length - 1 - i) (Nat.zero_lt_of_lt hn))
      (Nat.succ_pos i) hn
    rw [hnext] at hne
    rw [hindex, Function.update_of_ne hne.symm]
    exact h i hlt (Nat.lt_of_succ_lt hn)

end MayaOs.Lib
