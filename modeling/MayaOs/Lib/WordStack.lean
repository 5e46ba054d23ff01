import MayaOs.Lib.ByteMemory

/-!
# A stack of 32-bit words in memory

The stack grows downwards: `push` lowers the stack pointer by four and stores a word there, `pop`
reads the word at the stack pointer and raises it.

* `WordsAt` — words one after another in memory
* `Holds` — the words that a stack has from its top on
* `Holds.push`, `Holds.pushAll`, `Holds.pop` — what pushes and pops make of them
* `top_pop_iterate` — what is popped, read in memory
* `pushAll_mem` — pushes leave everything from the old top on as it was
-/

namespace MayaOs.Lib

/-- `m` has the words `ws` from `a` on. -/
def WordsAt (m : ByteMemory) : Nat → List UInt32 → Prop
  | _, [] => True
  | a, w :: ws => word m a = w.toNat ∧ WordsAt m (a + 4) ws

theorem WordsAt.congr {m m' : ByteMemory} : ∀ {ws : List UInt32} {a : Nat},
    a + 4 * ws.length ≤ 2 ^ 32 → (∀ x, a ≤ x → m' x = m x) → WordsAt m a ws → WordsAt m' a ws
  | [], _, _, _, _ => trivial
  | w :: ws, a, hlen, heq, h => by
    rw [List.length_cons] at hlen
    refine ⟨(word_congr (by omega) fun x hx _ => heq x hx).trans h.1, ?_⟩
    exact WordsAt.congr (by omega) (fun x hx => heq x (by omega)) h.2

/-- A memory and a pointer into it. -/
@[ext]
structure WordStack where
  mem : ByteMemory
  sp : UInt32

namespace WordStack

variable {s : WordStack} {w : UInt32} {ws us : List UInt32}

def push (s : WordStack) (w : UInt32) : WordStack where
  mem := storeWord s.mem (s.sp - 4).toNat w.toNat
  sp := s.sp - 4

/-- The word that is popped next. -/
def top (s : WordStack) : UInt32 := UInt32.ofNat (word s.mem s.sp.toNat)

def pop (s : WordStack) : WordStack := { s with sp := s.sp + 4 }

def pushAll (s : WordStack) (ws : List UInt32) : WordStack := ws.foldl push s

@[simp] theorem push_sp (s : WordStack) (w : UInt32) : (s.push w).sp = s.sp - 4 := rfl
@[simp] theorem pop_mem (s : WordStack) : s.pop.mem = s.mem := rfl
@[simp] theorem pop_sp (s : WordStack) : s.pop.sp = s.sp + 4 := rfl

theorem toNat_sub_four {a : UInt32} (h : 4 ≤ a.toNat) : (a - 4).toNat = a.toNat - 4 :=
  UInt32.toNat_sub_of_le a 4 (UInt32.le_iff_toNat_le.mpr h)

theorem toNat_add_four {a : UInt32} (h : a.toNat + 4 < 2 ^ 32) : (a + 4).toNat = a.toNat + 4 := by
  rw [UInt32.toNat_add]
  exact Nat.mod_eq_of_lt h

/-- The words from the top on are `ws`; there is more memory above them. -/
structure Holds (s : WordStack) (ws : List UInt32) : Prop where
  fits : s.sp.toNat + 4 * ws.length < 2 ^ 32
  words : WordsAt s.mem s.sp.toNat ws

theorem Holds.nil (s : WordStack) : s.Holds [] := ⟨s.sp.toNat_lt, trivial⟩

theorem push_mem (hroom : 4 ≤ s.sp.toNat) {x : Nat} (hx : s.sp.toNat ≤ x) :
    (s.push w).mem x = s.mem x := by
  have hsp := s.sp.toNat_lt
  have hsub := toNat_sub_four hroom
  exact storeWord_apply s.mem (by omega) _ (by omega)

/-- **A word pushed is the first of the words.** -/
theorem Holds.push (h : s.Holds ws) (hroom : 4 ≤ s.sp.toNat) (w : UInt32) :
    (s.push w).Holds (w :: ws) := by
  have hsub := toNat_sub_four hroom
  have hfits := h.fits
  refine ⟨?_, ?_, ?_⟩
  · rw [push_sp, List.length_cons]
    omega
  · exact word_storeWord s.mem (by omega) w.toNat_lt
  · rw [push_sp, show (s.sp - 4).toNat + 4 = s.sp.toNat from by omega]
    exact h.words.congr (by omega) fun x hx => push_mem hroom hx

theorem Holds.top (h : s.Holds (w :: ws)) : s.top = w := by
  rw [WordStack.top, h.words.1, UInt32.ofNat_toNat]

theorem Holds.pop (h : s.Holds (w :: ws)) : s.pop.Holds ws := by
  have hfits := h.fits
  rw [List.length_cons] at hfits
  have hadd : (s.sp + 4).toNat = s.sp.toNat + 4 := toNat_add_four (by omega)
  refine ⟨?_, ?_⟩
  · rw [pop_sp, hadd]
    omega
  · rw [pop_sp, hadd]
    exact h.words.2

/-- Memory that agrees from the top on holds the same words. -/
theorem Holds.congr {t : WordStack} (h : s.Holds ws) (hsp : t.sp = s.sp)
    (hmem : ∀ x, s.sp.toNat ≤ x → t.mem x = s.mem x) : t.Holds ws := by
  have hfits := h.fits
  refine ⟨by rw [hsp]; exact h.fits, ?_⟩
  rw [hsp]
  exact h.words.congr (by omega) hmem

/-- **After `i` pops the top is the word `4 * i` bytes above.** -/
theorem top_pop_iterate (s : WordStack) : ∀ {i : Nat}, s.sp.toNat + 4 * i < 2 ^ 32 →
    (WordStack.pop^[i] s).top = UInt32.ofNat (word s.mem (s.sp.toNat + 4 * i)) ∧
      (WordStack.pop^[i] s).sp.toNat = s.sp.toNat + 4 * i ∧ (WordStack.pop^[i] s).mem = s.mem
  | 0, _ => ⟨rfl, rfl, rfl⟩
  | i + 1, h => by
    obtain ⟨-, hsp, hmem⟩ := top_pop_iterate s (i := i) (by omega)
    have hadd := toNat_add_four (a := (WordStack.pop^[i] s).sp) (by omega)
    rw [Function.iterate_succ_apply', WordStack.top, pop_mem, pop_sp, hmem, hadd, hsp,
      show s.sp.toNat + 4 * i + 4 = s.sp.toNat + 4 * (i + 1) from by omega]
    exact ⟨rfl, rfl, rfl⟩

theorem pop_iterate_sp (s : WordStack) : ∀ i : Nat,
    (WordStack.pop^[i] s).sp = s.sp + UInt32.ofNat (4 * i)
  | 0 => (UInt32.add_zero _).symm
  | i + 1 => by
    rw [Function.iterate_succ_apply', pop_sp, pop_iterate_sp s i, UInt32.add_assoc, Nat.mul_add,
      UInt32.ofNat_add]
    rfl

/-! ## pushAll -/

theorem pushAll_cons (s : WordStack) (w : UInt32) (ws : List UInt32) :
    s.pushAll (w :: ws) = (s.push w).pushAll ws := rfl

theorem pushAll_append (s : WordStack) (us ws : List UInt32) :
    s.pushAll (us ++ ws) = (s.pushAll us).pushAll ws := List.foldl_append

theorem pushAll_sp : ∀ {us : List UInt32} {s : WordStack}, 4 * us.length ≤ s.sp.toNat →
    (s.pushAll us).sp.toNat = s.sp.toNat - 4 * us.length
  | [], _, _ => rfl
  | u :: us, s, h => by
    rw [List.length_cons] at h
    have hsub : (s.push u).sp.toNat = s.sp.toNat - 4 := toNat_sub_four (by omega)
    rw [pushAll_cons, pushAll_sp (by omega), hsub, List.length_cons]
    omega

/-- **Pushes leave everything from the old top on as it was.** -/
theorem pushAll_mem : ∀ {us : List UInt32} {s : WordStack}, 4 * us.length ≤ s.sp.toNat →
    ∀ {x : Nat}, s.sp.toNat ≤ x → (s.pushAll us).mem x = s.mem x
  | [], _, _, _, _ => rfl
  | u :: us, s, h, x, hx => by
    rw [List.length_cons] at h
    have hsub : (s.push u).sp.toNat = s.sp.toNat - 4 := toNat_sub_four (by omega)
    rw [pushAll_cons, pushAll_mem (by omega) (by omega), push_mem (by omega) hx]

/-- **The last word pushed is the first of the words.** -/
theorem Holds.pushAll : ∀ {us ws : List UInt32} {s : WordStack}, s.Holds ws →
    4 * us.length ≤ s.sp.toNat → (s.pushAll us).Holds (us.reverse ++ ws)
  | [], _, _, h, _ => h
  | u :: us, ws, s, h, hroom => by
    rw [List.length_cons] at hroom
    have hsub : (s.push u).sp.toNat = s.sp.toNat - 4 := toNat_sub_four (by omega)
    rw [List.reverse_cons, List.append_assoc]
    exact (h.push (by omega) u).pushAll (by omega)

end WordStack

end MayaOs.Lib
