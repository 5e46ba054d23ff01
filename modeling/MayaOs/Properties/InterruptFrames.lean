import MayaOs.Kernel.InterruptStub

/-!
# The registers of an interrupted program

What `isr_common_stub` and `irq_common_stub` put on the stack is the `struct registers` that the C
handler gets, and what the handler leaves there is what the processor goes on with.

* `serveInterrupt_registers` — the handler sees the registers of the interrupted program, which goes
  on with those that the handler leaves
* `serveInterrupt_eq_self_iff` — which vectors a handler can serve unnoticed
-/

namespace MayaOs.Kernel

open MayaOs.Lib

variable {pl : Platform} {c : Processor}

/-! ## What is pushed -/

theorem selectorWord_toUInt16 (pl : Platform) (s : WordStack) (v : UInt16) :
    (pl.selectorWord s v).toUInt16 = v := by
  unfold Platform.selectorWord
  split
  · exact UInt16.toUInt16_toUInt32 v
  · rw [UInt32.toUInt16_add, UInt32.toUInt16_mul, UInt16.toUInt16_toUInt32,
      show (65536 : UInt32).toUInt16 = 0 from rfl, UInt16.zero_mul, UInt16.add_zero]

theorem execAll_append (pl : Platform) (c : Processor) (is js : List StubInstruction) :
    execAll pl c (is ++ js) = execAll pl (execAll pl c is) js := List.foldl_append

/-- The frame of the processor. -/
theorem deliver_stack (pl : Platform) (sel : UInt16) (base : UInt32) (err : Option UInt32)
    (c : Processor) : ∃ w : UInt32, w.toUInt16 = c.cs ∧
      (c.deliver pl sel base err).toWordStack =
        c.toWordStack.pushAll ([c.eflags, w, c.eip] ++ err.toList) := by
  refine ⟨pl.selectorWord (c.push c.eflags).toWordStack c.cs, selectorWord_toUInt16 .., ?_⟩
  cases err <;> rfl

/-- The words that the stub of a vector pushes. -/
def stubWords (n : UInt8) : List UInt32 :=
  if n ∈ errcodeVectors then [n.toUInt32] else [0, n.toUInt32]

theorem signExtend_of_lt {n : UInt8} (h : n < 48) : signExtend n = n.toUInt32 := by
  rw [signExtend, if_pos]
  rw [UInt8.lt_iff_toNat_lt] at h ⊢
  exact Nat.lt_trans h (by decide)

/-- **The stubs differ in the words that they push.** -/
theorem vectorStub_exec {n : UInt8} (hn : n < 48) (c : Processor) :
    execAll pl c (vectorStub n) =
      { c with
        toWordStack := c.toWordStack.pushAll (stubWords n)
        eflags := c.eflags &&& ~~~interruptFlag } := by
  have hsign := signExtend_of_lt hn
  have hlt : n.toNat < 48 := UInt8.lt_iff_toNat_lt.mp hn
  unfold vectorStub stubWords isrStub irqStub
  by_cases hirq : n < 32
  · rw [if_pos hirq]
    by_cases herr : n ∈ errcodeVectors
    · rw [if_pos herr, if_pos herr, ← hsign]
      rfl
    · rw [if_neg herr, if_neg herr, ← hsign]
      rfl
  · have hge : 32 ≤ n.toNat := UInt8.le_iff_toNat_le.mp (UInt8.not_lt.mp hirq)
    have herr : n ∉ errcodeVectors := by
      intro hmem
      simp only [errcodeVectors, List.mem_cons, List.not_mem_nil, or_false] at hmem
      rcases hmem with rfl | rfl | rfl | rfl | rfl | rfl <;> exact absurd hge (by decide)
    rw [if_neg hirq, if_neg herr, ← hsign,
      show 32 + (n.toNat - 32) = n.toNat from by omega, UInt8.ofNat_toNat]
    rfl

/-- What `commonCall` pushes, the pointer to the structure last. -/
theorem commonCall_stack (pl : Platform) (c : Processor) : ∃ d e f g : UInt32,
    d.toUInt16 = c.ds ∧ e.toUInt16 = c.es ∧ f.toUInt16 = c.fs ∧ g.toUInt16 = c.gs ∧
      (execAll pl c commonCall).toWordStack =
        let saved := c.toWordStack.pushAll
          [c.eax, c.ecx, c.edx, c.ebx, c.sp, c.ebp, c.esi, c.edi, d, e, f, g]
        saved.push saved.sp :=
  ⟨_, _, _, _, selectorWord_toUInt16 .., selectorWord_toUInt16 .., selectorWord_toUInt16 ..,
    selectorWord_toUInt16 .., rfl⟩

/-! ## What is popped -/

theorem exec_addEsp (pl : Platform) (c : Processor) : StubInstruction.exec pl c (.addEsp 8) =
    { c.pop.pop with eflags := pl.addFlags c.eflags c.sp 8 } := by
  have hsp : c.sp + 8 = c.sp + 4 + 4 := by rw [UInt32.add_assoc]; rfl
  simp only [StubInstruction.exec, hsp]
  rfl

/-- `popa` skips `esp`, and `add esp, 8` the two words that the stub pushed. -/
theorem commonReturn_exec (pl : Platform) (c : Processor) : execAll pl c commonReturn =
    let popped i := WordStack.pop^[i] c.toWordStack
    { toWordStack := popped 18
      gs := (popped 1).top.toUInt16
      fs := (popped 2).top.toUInt16
      es := (popped 3).top.toUInt16
      ds := (popped 4).top.toUInt16
      edi := (popped 5).top
      esi := (popped 6).top
      ebp := (popped 7).top
      ebx := (popped 9).top
      edx := (popped 10).top
      ecx := (popped 11).top
      eax := (popped 12).top
      eip := (popped 15).top
      cs := (popped 16).top.toUInt16
      eflags := (popped 17).top } := by
  show StubInstruction.exec pl
    (StubInstruction.exec pl (execAll pl c (commonReturn.take 6)) (.addEsp 8)) .iret = _
  rw [exec_addEsp]
  rfl

/-- **The program goes on with the registers that lie in memory.** -/
theorem commonReturn_load {c : Processor} (h : c.sp.toNat + 72 < 2 ^ 32) :
    execAll pl c commonReturn =
      { c with sp := c.sp + 72 }.load (registersAt c.mem (c.sp.toNat + 4)) := by
  have htop : ∀ i j, i = j + 1 → j < 17 → (WordStack.pop^[i] c.toWordStack).top =
      UInt32.ofNat (word c.mem (c.sp.toNat + 4 + 4 * j)) := by
    intro i j hij hj
    rw [(c.toWordStack.top_pop_iterate (by omega)).1]
    congr 2
    omega
  have hsp : WordStack.pop^[18] c.toWordStack = ⟨c.mem, c.sp + 72⟩ := by
    obtain ⟨-, hadd, hmem⟩ := c.toWordStack.top_pop_iterate (i := 18) (by omega)
    have hsum : (c.sp + 72).toNat = c.sp.toNat + 72 := by
      rw [UInt32.toNat_add]
      exact Nat.mod_eq_of_lt (show c.sp.toNat + 72 < 2 ^ 32 by omega)
    exact WordStack.ext hmem (UInt32.toNat_inj.mp (hadd.trans hsum.symm))
  rw [commonReturn_exec]
  dsimp only
  rw [hsp, htop 1 0 rfl (by decide), htop 2 1 rfl (by decide), htop 3 2 rfl (by decide),
    htop 4 3 rfl (by decide), htop 5 4 rfl (by decide), htop 6 5 rfl (by decide),
    htop 7 6 rfl (by decide), htop 9 8 rfl (by decide), htop 10 9 rfl (by decide),
    htop 11 10 rfl (by decide), htop 12 11 rfl (by decide), htop 15 14 rfl (by decide),
    htop 16 15 rfl (by decide), htop 17 16 rfl (by decide)]
  rfl

theorem commonReturn_sp (pl : Platform) (c : Processor) :
    (execAll pl c commonReturn).sp = c.sp + 72 := by
  rw [commonReturn_exec]
  exact c.toWordStack.pop_iterate_sp 18

/-! ## An interrupt -/

/-- The words on the stack when the C handler is entered, the oldest first. -/
theorem enterHandler_stack (pl : Platform) (sel : UInt16) (base : UInt32) {n : UInt8} (hn : n < 48)
    (err : Option UInt32) (c : Processor) : ∃ w x d e f g : UInt32,
    w.toUInt16 = c.cs ∧ d.toUInt16 = c.ds ∧ e.toUInt16 = c.es ∧ f.toUInt16 = c.fs ∧
      g.toUInt16 = c.gs ∧ (enterHandler pl sel base n err c).toWordStack =
        let saved := c.toWordStack.pushAll ([c.eflags, w, c.eip] ++ err.toList ++ stubWords n ++
          [c.eax, c.ecx, c.edx, c.ebx, x, c.ebp, c.esi, c.edi, d, e, f, g])
        saved.pushAll [saved.sp, pl.returnAddress] := by
  obtain ⟨w, hw, hframe⟩ := deliver_stack pl sel base err c
  unfold enterHandler
  rw [execAll_append, vectorStub_exec hn]
  generalize hc₂ : ({ c.deliver pl sel base err with
    toWordStack := (c.deliver pl sel base err).toWordStack.pushAll (stubWords n)
    eflags := (c.deliver pl sel base err).eflags &&& ~~~interruptFlag } : Processor) = c₂
  obtain ⟨d, e, f, g, hd, he, hf, hg, hcall⟩ := commonCall_stack pl c₂
  have hregs : c₂.eax = c.eax ∧ c₂.ecx = c.ecx ∧ c₂.edx = c.edx ∧ c₂.ebx = c.ebx ∧
      c₂.ebp = c.ebp ∧ c₂.esi = c.esi ∧ c₂.edi = c.edi ∧ c₂.ds = c.ds ∧ c₂.es = c.es ∧
      c₂.fs = c.fs ∧ c₂.gs = c.gs := by
    subst hc₂
    cases err <;> exact ⟨rfl, rfl, rfl, rfl, rfl, rfl, rfl, rfl, rfl, rfl, rfl⟩
  have hstack : c₂.toWordStack =
      c.toWordStack.pushAll ([c.eflags, w, c.eip] ++ err.toList ++ stubWords n) := by
    rw [WordStack.pushAll_append, ← hframe, ← hc₂]
  obtain ⟨h0, h1, h2, h3, h4, h5, h6, h7, h8, h9, h10⟩ := hregs
  refine ⟨w, c₂.sp, d, e, f, g, hw, hd.trans h7, he.trans h8, hf.trans h9, hg.trans h10, ?_⟩
  rw [WordStack.pushAll_append, ← hstack, ← h0, ← h1, ← h2, ← h3, ← h4, ← h5, ← h6]
  exact congrArg (WordStack.push · pl.returnAddress) hcall

/-- The words of the structure in memory. -/
theorem registersAt_of_wordsAt {m : ByteMemory} {p : Nat} (rest : List UInt32) (r : Registers)
    (h : WordsAt m p ([r.gs, r.fs, r.es, r.ds, r.edi, r.esi, r.ebp, r.esp, r.ebx, r.edx, r.ecx,
      r.eax, r.intNo, r.errCode, r.eip, r.cs, r.eflags] ++ rest)) :
    registersAt m p =
      { r with useresp := (registersAt m p).useresp, ss := (registersAt m p).ss } := by
  have hfield : ∀ {a : Nat} {w : UInt32}, word m a = w.toNat → UInt32.ofNat (word m a) = w :=
    fun hw => by rw [hw, UInt32.ofNat_toNat]
  obtain ⟨h0, h1, h2, h3, h4, h5, h6, h7, h8, h9, h10, h11, h12, h13, h14, h15, h16, -⟩ := h
  unfold registersAt
  dsimp only
  congr 1
  exacts [hfield h0, hfield h1, hfield h2, hfield h3, hfield h4, hfield h5, hfield h6, hfield h7,
    hfield h8, hfield h9, hfield h10, hfield h11, hfield h12, hfield h13, hfield h14, hfield h15,
    hfield h16]

/-- The two words above the registers: what the stub and the processor push agree. -/
theorem stubWords_err {n : UInt8} {err : Option UInt32}
    (h : err.isSome ↔ n ∈ errcodeVectors) :
    (stubWords n).reverse ++ err.toList.reverse = [n.toUInt32, err.getD 0] := by
  unfold stubWords
  cases err with
  | none => rw [if_neg fun hn => by simpa using h.mpr hn]; rfl
  | some e => rw [if_pos (h.mp rfl)]; rfl

theorem stubWords_length (n : UInt8) :
    (stubWords n).length = if n ∈ errcodeVectors then 1 else 2 := by
  unfold stubWords
  split <;> rfl

theorem stubWords_length_add (n : UInt8) (err : Option UInt32) :
    (stubWords n).length + err.toList.length = 2 ↔ (err.isSome ↔ n ∈ errcodeVectors) := by
  rw [stubWords_length]
  cases err <;> split <;> simp [*]

variable {sel : UInt16} {base : UInt32} {n : UInt8} {err : Option UInt32}

/-- How far the stack pointer is down when the C handler is entered. -/
theorem enterHandler_sp (pl : Platform) (sel : UInt16) (base : UInt32) (err : Option UInt32)
    (hn : n < 48) (hroom : 80 ≤ c.sp.toNat) :
    (enterHandler pl sel base n err c).sp.toNat =
      c.sp.toNat - 4 * (17 + err.toList.length + (stubWords n).length) := by
  obtain ⟨w, x, d, e, f, g, -, -, -, -, -, hstack⟩ := enterHandler_stack pl sel base hn err c
  have hlen : (stubWords n).length ≤ 2 := by rw [stubWords_length]; split <;> decide
  have herr : err.toList.length ≤ 1 := by cases err <;> simp
  rw [hstack]
  dsimp only
  rw [WordStack.pushAll_sp, WordStack.pushAll_sp]
  · simp only [List.length_append, List.length_cons, List.length_nil]
    omega
  · simp only [List.length_append, List.length_cons, List.length_nil]
    omega
  · rw [WordStack.pushAll_sp] <;>
      simp only [List.length_append, List.length_cons, List.length_nil] <;> omega

/-- The stack of the C handler: the return address, the pointer, and what it points to. -/
theorem enterHandler_holds (pl : Platform) (sel : UInt16) (base : UInt32) (err : Option UInt32)
    (hn : n < 48) (hroom : 80 ≤ c.sp.toNat) : ∃ w x d e f g : UInt32,
    w.toUInt16 = c.cs ∧ d.toUInt16 = c.ds ∧ e.toUInt16 = c.es ∧ f.toUInt16 = c.fs ∧
      g.toUInt16 = c.gs ∧
      (enterHandler pl sel base n err c).argument =
        (enterHandler pl sel base n err c).sp.toNat + 8 ∧
      WordsAt (enterHandler pl sel base n err c).mem (enterHandler pl sel base n err c).argument
        ([g, f, e, d, c.edi, c.esi, c.ebp, x, c.ebx, c.edx, c.ecx, c.eax] ++
          ((stubWords n).reverse ++ (err.toList.reverse ++ [c.eip, w, c.eflags]))) ∧
      ∀ y, c.sp.toNat ≤ y → (enterHandler pl sel base n err c).mem y = c.mem y := by
  obtain ⟨w, x, d, e, f, g, hw, hd, he, hf, hg, hstack⟩ :=
    enterHandler_stack pl sel base hn err c
  refine ⟨w, x, d, e, f, g, hw, hd, he, hf, hg, ?_⟩
  have hdepth := enterHandler_sp pl sel base err hn hroom
  have hlen : (stubWords n).length ≤ 2 := by rw [stubWords_length]; split <;> decide
  have herr : err.toList.length ≤ 1 := by cases err <;> simp
  generalize hframe : [c.eflags, w, c.eip] ++ err.toList ++ stubWords n ++
    [c.eax, c.ecx, c.edx, c.ebx, x, c.ebp, c.esi, c.edi, d, e, f, g] = frame at hstack
  have hframelen : frame.length = 15 + err.toList.length + (stubWords n).length := by
    rw [← hframe]
    simp only [List.length_append, List.length_cons, List.length_nil]
    omega
  have hframesp : (c.toWordStack.pushAll frame).sp.toNat = c.sp.toNat - 4 * frame.length :=
    WordStack.pushAll_sp (by omega)
  have hholds : ((c.toWordStack.pushAll frame).pushAll
      [(c.toWordStack.pushAll frame).sp, pl.returnAddress]).Holds
        ([pl.returnAddress, (c.toWordStack.pushAll frame).sp] ++ (frame.reverse ++ [])) :=
    ((WordStack.Holds.nil c.toWordStack).pushAll (by omega)).pushAll
      (by simp only [List.length_cons, List.length_nil]; omega)
  have hmem : ∀ y, c.sp.toNat ≤ y → (enterHandler pl sel base n err c).mem y = c.mem y := by
    intro y hy
    rw [hstack]
    dsimp only
    rw [WordStack.pushAll_mem, WordStack.pushAll_mem (by omega) hy]
    · simp only [List.length_cons, List.length_nil]
      omega
    · omega
  dsimp only at hstack
  rw [← hstack, List.append_nil] at hholds
  have hargument : (enterHandler pl sel base n err c).argument =
      (enterHandler pl sel base n err c).sp.toNat + 8 := by
    rw [Processor.argument, hholds.words.2.1]
    omega
  refine ⟨hargument, ?_, hmem⟩
  rw [hargument]
  have hwords := hholds.words.2.2
  rw [← hframe, List.reverse_append, List.reverse_append, List.reverse_append] at hwords
  exact hwords

/--
**The C handler gets the registers of the interrupted program**, the number of the vector and the
error code, where the processor pushes an error code for just those vectors for which the stub
expects one.
-/
theorem enterHandler_load (pl : Platform) (sel : UInt16) (base : UInt32) (hn : n < 48)
    (hroom : 80 ≤ c.sp.toNat) (hconv : err.isSome ↔ n ∈ errcodeVectors) :
    let s := enterHandler pl sel base n err c
    let r := registersAt s.mem s.argument
    c.load r = c ∧ r.intNo = n.toUInt32 ∧ r.errCode = err.getD 0 := by
  intro s r
  obtain ⟨w, x, d, e, f, g, hw, hd, he, hf, hg, -, hwords, -⟩ :=
    enterHandler_holds pl sel base err hn hroom
  rw [← List.append_assoc (stubWords n).reverse, stubWords_err hconv] at hwords
  have hr := registersAt_of_wordsAt [] {
    gs := g, fs := f, es := e, ds := d, edi := c.edi, esi := c.esi, ebp := c.ebp, esp := x,
    ebx := c.ebx, edx := c.edx, ecx := c.ecx, eax := c.eax, intNo := n.toUInt32,
    errCode := err.getD 0, eip := c.eip, cs := w, eflags := c.eflags, useresp := 0, ss := 0 }
    hwords
  refine ⟨?_, ?_, ?_⟩
  · show c.load (registersAt s.mem s.argument) = c
    rw [hr, Processor.load]
    dsimp only
    rw [hw, hd, he, hf, hg]
  · show (registersAt s.mem s.argument).intNo = _
    rw [hr]
  · show (registersAt s.mem s.argument).errCode = _
    rw [hr]

/-- After the handler has returned. -/
theorem serveInterrupt_eq (pl : Platform) (sel : UInt16) (base : UInt32) (n : UInt8)
    (err : Option UInt32) (c : Processor) : serveInterrupt pl sel base n err c =
      execAll pl (pl.function pl.handler (enterHandler pl sel base n err c)) commonReturn := by
  unfold serveInterrupt enterHandler
  rw [execAll_append, execAll_append, execAll_append]
  rfl

/-- The registers that a program goes on with, if the handler returns where it was called. -/
theorem serveInterrupt_load (hn : n < 48) (hroom : 80 ≤ c.sp.toNat)
    (hconv : err.isSome ↔ n ∈ errcodeVectors) :
    let s := enterHandler pl sel base n err c
    let t := pl.function pl.handler s
    t.sp = s.sp + 4 → serveInterrupt pl sel base n err c =
      { t with sp := c.sp }.load (registersAt t.mem s.argument) := by
  intro s t hret
  have hdepth : s.sp.toNat = _ := enterHandler_sp pl sel base err hn hroom
  obtain ⟨-, -, -, -, -, -, -, -, -, -, -, hargument, -, -⟩ :=
    enterHandler_holds pl sel base err hn hroom
  have hwords : (stubWords n).length + err.toList.length = 2 :=
    (stubWords_length_add n err).mpr hconv
  have hsp := c.sp.toNat_lt
  have ht : t.sp.toNat = s.sp.toNat + 4 := by
    rw [hret]
    exact WordStack.toNat_add_four (by omega)
  have hback : t.sp + 72 = c.sp := by
    apply UInt32.toNat_inj.mp
    rw [UInt32.toNat_add, show (72 : UInt32).toNat = 72 from rfl]
    omega
  rw [serveInterrupt_eq]
  show execAll pl t commonReturn = _
  rw [commonReturn_load (by omega), hback, hargument, ht]

/--
**The C handler gets the registers of the interrupted program, and the program goes on with those
that the handler leaves there**, on the stack that it had.
-/
theorem serveInterrupt_registers (hn : n < 48) (hroom : 80 ≤ c.sp.toNat)
    (hconv : err.isSome ↔ n ∈ errcodeVectors) :
    let s := enterHandler pl sel base n err c
    let r := registersAt s.mem s.argument
    let t := pl.function pl.handler s
    (c.load r = c ∧ r.intNo = n.toUInt32 ∧ r.errCode = err.getD 0) ∧
      (t.sp = s.sp + 4 → serveInterrupt pl sel base n err c =
        { t with sp := c.sp }.load (registersAt t.mem s.argument)) :=
  ⟨enterHandler_load pl sel base hn hroom hconv, serveInterrupt_load hn hroom hconv⟩

/-- A platform whose C handler returns at once. -/
def quietPlatform : Platform where
  zeroExtends := false
  addFlags := fun flags _ _ => flags
  handler := 0x101000
  returnAddress := 0x100800
  function := fun _ c => c.pop

/-- A program on a stack of one page. -/
def pageProgram : Processor where
  mem := fun _ => 0xCC
  sp := 0x1000
  eax := 1
  ecx := 2
  edx := 3
  ebx := 4
  ebp := 5
  esi := 6
  edi := 7
  ds := 0x10
  es := 0x10
  fs := 0x10
  gs := 0x10
  cs := 8
  eip := 0x102000
  eflags := 0x202

/-- A page fault. -/
theorem serveInterrupt_registers_pageFault :
    let s := enterHandler quietPlatform 8 0x100000 14 (some 2) pageProgram
    let r := registersAt s.mem s.argument
    let t := quietPlatform.function quietPlatform.handler s
    (pageProgram.load r = pageProgram ∧ r.intNo = 14 ∧ r.errCode = 2) ∧
      (t.sp = s.sp + 4 → serveInterrupt quietPlatform 8 0x100000 14 (some 2) pageProgram =
        { t with sp := pageProgram.sp }.load (registersAt t.mem s.argument)) :=
  serveInterrupt_registers (by decide) (by decide) (by decide)

/-- Where a handler returns to, and what it leaves of the stack of the program and the structure. -/
structure ReturnsUntouched (pl : Platform) (s : Processor) : Prop where
  sp : (pl.function pl.handler s).sp = s.sp + 4
  mem : ∀ x, s.argument ≤ x → (pl.function pl.handler s).mem x = s.mem x

theorem load_registersAt_congr {m m' : ByteMemory} {p : Nat} (hp : p + 68 < 2 ^ 32)
    (h : ∀ x, p ≤ x → m' x = m x) (c : Processor) :
    c.load (registersAt m' p) = c.load (registersAt m p) := by
  have hword : ∀ i < 17, word m' (p + 4 * i) = word m (p + 4 * i) := fun i hi =>
    word_congr (by omega) fun x hx _ => h x (by omega)
  unfold registersAt Processor.load
  dsimp only
  rw [hword 0 (by decide), hword 1 (by decide), hword 2 (by decide), hword 3 (by decide),
    hword 4 (by decide), hword 5 (by decide), hword 6 (by decide), hword 8 (by decide),
    hword 9 (by decide), hword 10 (by decide), hword 11 (by decide), hword 14 (by decide),
    hword 15 (by decide), hword 16 (by decide)]

/--
**A handler that leaves the structure alone is not noticed by the interrupted program** exactly if
the processor pushes an error code for the vector if and only if the stub expects one.
-/
theorem serveInterrupt_eq_self_iff (hn : n < 48) (hroom : 80 ≤ c.sp.toNat)
    (hreturns : ReturnsUntouched pl (enterHandler pl sel base n err c)) :
    (∃ m : ByteMemory, (∀ x, c.sp.toNat ≤ x → m x = c.mem x) ∧
      serveInterrupt pl sel base n err c = { c with mem := m }) ↔
      (err.isSome ↔ n ∈ errcodeVectors) := by
  have hdepth := enterHandler_sp pl sel base err hn hroom
  obtain ⟨-, -, -, -, -, -, -, -, -, -, -, hargument, -, habove⟩ :=
    enterHandler_holds pl sel base err hn hroom
  have hsp := c.sp.toNat_lt
  constructor
  · rintro ⟨m, -, heq⟩
    -- the stack pointer tells how many words the stub and the processor have pushed
    have hback := congrArg (fun c' : Processor => c'.sp.toNat) heq
    simp only [serveInterrupt_eq, commonReturn_sp, hreturns.sp, UInt32.toNat_add, hdepth] at hback
    rw [show (72 : UInt32).toNat = 72 from rfl, show (4 : UInt32).toNat = 4 from rfl] at hback
    rw [← stubWords_length_add]
    have hlen : (stubWords n).length ≤ 2 := by rw [stubWords_length]; split <;> decide
    have herr : err.toList.length ≤ 1 := by cases err <;> simp
    omega
  · intro hconv
    have hlen := (stubWords_length_add n err).mpr hconv
    refine ⟨_, fun x hx => (hreturns.mem x (by omega)).trans (habove x hx), ?_⟩
    rw [serveInterrupt_load hn hroom hconv hreturns.sp,
      load_registersAt_congr (by omega) hreturns.mem]
    have hload := (enterHandler_load pl sel base hn hroom hconv).1
    exact congrArg (fun c' : Processor =>
      { c' with mem := (pl.function pl.handler (enterHandler pl sel base n err c)).mem }) hload

/-- An alignment check, for which the processor pushes an error code. -/
theorem serveInterrupt_alignmentCheck :
    ¬ ∃ m : ByteMemory, (∀ x, pageProgram.sp.toNat ≤ x → m x = pageProgram.mem x) ∧
      serveInterrupt quietPlatform 8 0x100000 17 (some 0) pageProgram =
        { pageProgram with mem := m } := by
  have hquiet : ReturnsUntouched quietPlatform
      (enterHandler quietPlatform 8 0x100000 17 (some 0) pageProgram) := ⟨rfl, fun _ _ => rfl⟩
  exact fun h => absurd
    ((serveInterrupt_eq_self_iff (by decide) (by decide) hquiet).mp h) (by decide)

end MayaOs.Kernel
