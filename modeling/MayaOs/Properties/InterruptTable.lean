import MayaOs.Kernel.Interrupts
import MayaOs.Lib.Run

/-!
# Interrupts from the controllers to the handlers

Runs of the functions of `interrupts.c`, with interrupts from the controllers among them and stores
of the rest of the kernel outside the table.

* `idtEntryAt_idtInstall` — the table that `idt_install` builds
* `irqHandler_run` — every line reaches the handler that was registered last for its vector, and
  the controllers are ready for the next one
* `processorGate_run` — the processor does not use that table
-/

namespace MayaOs.Kernel

open MayaOs.Lib

/-! ## Entries of the table -/

theorem half_storeHalf (m : ByteMemory) {a : Nat} (h : a + 2 ≤ 2 ^ 32) (v : UInt16) :
    half (storeHalf m a v) a = v := by
  have hlow : storeHalf m a v a = v.toUInt8 := by
    unfold storeHalf
    rw [storeByte_apply _ (by omega) _ (by omega), storeByte_self _ (by omega)]
  have hhigh : storeHalf m a v (a + 1) = (v >>> 8).toUInt8 := by
    unfold storeHalf
    rw [storeByte_self _ (by omega)]
  rw [half, wrap32_eq_self (by omega), wrap32_eq_self (by omega), hlow, hhigh]
  apply UInt16.toNat_inj.mp
  have hv := v.toNat_lt
  simp only [UInt16.toNat_add, UInt16.toNat_mul, UInt8.toNat_toUInt16, UInt16.toNat_toUInt8,
    UInt16.toNat_shiftRight, Nat.shiftRight_eq_div_pow]
  show (v.toNat % 2 ^ 8 + 256 * (v.toNat / 2 ^ 8 % 2 ^ 8) % 2 ^ 16) % 2 ^ 16 = v.toNat
  omega

theorem storeHalf_apply (m : ByteMemory) {a x : Nat} (h : a + 2 ≤ 2 ^ 32) (v : UInt16)
    (hx : x < a ∨ a + 2 ≤ x) : storeHalf m a v x = m x := by
  unfold storeHalf
  rw [storeByte_apply _ (by omega) _ (by omega), storeByte_apply _ (by omega) _ (by omega)]

theorem half_congr {m m' : ByteMemory} {a : Nat} (h : a + 2 ≤ 2 ^ 32)
    (heq : ∀ x, a ≤ x → x < a + 2 → m' x = m x) : half m' a = half m a := by
  rw [half, half, wrap32_eq_self (by omega), wrap32_eq_self (by omega), heq a (by omega) (by omega),
    heq (a + 1) (by omega) (by omega)]

theorem idtEntryAt_congr {m m' : ByteMemory} {a : Nat} (h : a + 8 ≤ 2 ^ 32)
    (heq : ∀ x, a ≤ x → x < a + 8 → m' x = m x) : idtEntryAt m' a = idtEntryAt m a := by
  unfold idtEntryAt
  rw [half_congr (by omega) fun x _ _ => heq x (by omega) (by omega),
    half_congr (a := a + 2) (by omega) fun x _ _ => heq x (by omega) (by omega),
    half_congr (a := a + 6) (by omega) fun x _ _ => heq x (by omega) (by omega),
    wrap32_eq_self (by omega), wrap32_eq_self (by omega), heq (a + 4) (by omega) (by omega),
    heq (a + 5) (by omega) (by omega)]

/-- The entry of a gate. -/
def gateEntry (base : UInt32) (sel : UInt16) (flags : UInt8) : IdtEntry where
  baseLo := (base &&& 0xFFFF).toUInt16
  sel := sel
  always0 := 0
  flags := flags
  baseHi := ((base >>> 16) &&& 0xFFFF).toUInt16

/-- **The two halves of an address make up the address.** -/
theorem gateEntry_offset (base : UInt32) (sel : UInt16) (flags : UInt8) :
    (gateEntry base sel flags).offset = base := by
  apply UInt32.toNat_inj.mp
  have hb := base.toNat_lt
  have hmask : ∀ k : Nat, k &&& 65535 = k % 65536 := fun k => Nat.and_two_pow_sub_one_eq_mod k 16
  simp only [IdtEntry.offset, gateEntry, UInt32.toNat_add, UInt32.toNat_mul,
    UInt16.toNat_toUInt32, UInt32.toNat_toUInt16, UInt32.toNat_and, UInt32.toNat_shiftRight,
    Nat.shiftRight_eq_div_pow]
  show ((base.toNat &&& 65535) % 2 ^ 16 +
    65536 * ((base.toNat / 2 ^ 16 &&& 65535) % 2 ^ 16) % 2 ^ 32) % 2 ^ 32 = base.toNat
  rw [hmask, hmask]
  omega

section SetGate

variable {idt : Nat} (m : ByteMemory) (num : UInt8) (base : UInt32) (sel : UInt16) (flags : UInt8)

theorem idtSetGate_apply (h : idt + 2048 ≤ 2 ^ 32) {x : Nat}
    (hx : x < idt + 8 * num.toNat ∨ idt + 8 * num.toNat + 8 ≤ x) :
    idtSetGate idt m num base sel flags x = m x := by
  have hn := num.toNat_lt
  unfold idtSetGate
  rw [storeByte_apply _ (by omega) _ (by omega), storeByte_apply _ (by omega) _ (by omega),
    storeHalf_apply _ (by omega) _ (by omega), storeHalf_apply _ (by omega) _ (by omega),
    storeHalf_apply _ (by omega) _ (by omega)]

theorem idtEntryAt_idtSetGate (h : idt + 2048 ≤ 2 ^ 32) :
    idtEntryAt (idtSetGate idt m num base sel flags) (idt + 8 * num.toNat) =
      gateEntry base sel flags := by
  have hn := num.toNat_lt
  generalize ha : idt + 8 * num.toNat = a
  unfold idtEntryAt idtSetGate gateEntry
  rw [ha]
  congr 1
  · rw [half_congr (by omega) fun x _ _ => by
      rw [storeByte_apply _ (by omega) _ (by omega), storeByte_apply _ (by omega) _ (by omega),
        storeHalf_apply _ (by omega) _ (by omega), storeHalf_apply _ (by omega) _ (by omega)],
      half_storeHalf _ (by omega)]
  · rw [half_congr (by omega) fun x _ _ => by
      rw [storeByte_apply _ (by omega) _ (by omega), storeByte_apply _ (by omega) _ (by omega)],
      half_storeHalf _ (by omega)]
  · rw [wrap32_eq_self (by omega), storeByte_apply _ (by omega) _ (by omega),
      storeByte_self _ (by omega)]
  · rw [wrap32_eq_self (by omega), storeByte_self _ (by omega)]
  · rw [half_congr (by omega) fun x _ _ => by
      rw [storeByte_apply _ (by omega) _ (by omega), storeByte_apply _ (by omega) _ (by omega),
        storeHalf_apply _ (by omega) _ (by omega)],
      half_storeHalf _ (by omega)]

end SetGate

/-! ## The table of `idt_install` -/

variable {ln : InterruptLinkage}

/-- What an entry is after the first `k` gates. -/
def installedEntry (ln : InterruptLinkage) (k : Nat) (m : ByteMemory) (v : Nat) : IdtEntry :=
  if v < k then gateEntry (ln.stub v) 0x08 0x8E else idtEntryAt m (ln.idt + 8 * v)

theorem installGates_prefix (h : ln.idt + 2048 ≤ 2 ^ 32) (m : ByteMemory) : ∀ k ≤ 48,
    let m' := (List.range k).foldl
      (fun m n => idtSetGate ln.idt m (UInt8.ofNat n) (ln.stub n) 0x08 0x8E) m
    (∀ v < 256, idtEntryAt m' (ln.idt + 8 * v) = installedEntry ln k m v) ∧
      ∀ x, x < ln.idt ∨ ln.idt + 2048 ≤ x → m' x = m x
  | 0, _ => ⟨fun _ _ => rfl, fun _ _ => rfl⟩
  | k + 1, hk => by
    obtain ⟨hentry, hmem⟩ := installGates_prefix h m k (by omega)
    have hnum : (UInt8.ofNat k).toNat = k := by
      rw [UInt8.toNat_ofNat']
      exact Nat.mod_eq_of_lt (by omega)
    rw [List.range_succ, List.foldl_append, List.foldl_cons, List.foldl_nil]
    generalize (List.range k).foldl
      (fun m n => idtSetGate ln.idt m (UInt8.ofNat n) (ln.stub n) 0x08 0x8E) m = m₁ at hentry hmem ⊢
    refine ⟨fun v hv => ?_, fun x hx => ?_⟩
    · rcases eq_or_ne v k with rfl | hne
      · have hset := idtEntryAt_idtSetGate m₁ (UInt8.ofNat v) (ln.stub v) 0x08 0x8E h
        rw [hnum] at hset
        rw [hset, installedEntry, if_pos (by omega)]
      · have hsame : idtEntryAt (idtSetGate ln.idt m₁ (UInt8.ofNat k) (ln.stub k) 0x08 0x8E)
            (ln.idt + 8 * v) = idtEntryAt m₁ (ln.idt + 8 * v) :=
          idtEntryAt_congr (by omega) fun x _ _ =>
            idtSetGate_apply m₁ (UInt8.ofNat k) (ln.stub k) 0x08 0x8E h (by omega)
        rw [hsame, hentry v hv, installedEntry, installedEntry]
        exact if_congr (by omega) rfl rfl
    · rw [idtSetGate_apply m₁ (UInt8.ofNat k) (ln.stub k) 0x08 0x8E h (by omega), hmem x hx]

/-- An entry of zeros: the gate is not present. -/
def absentEntry : IdtEntry where
  baseLo := 0
  sel := 0
  always0 := 0
  flags := 0
  baseHi := 0

theorem idtEntryAt_zero {m : ByteMemory} {a : Nat} (h : a + 8 ≤ 2 ^ 32)
    (hm : ∀ x, a ≤ x → x < a + 8 → m x = 0) : idtEntryAt m a = absentEntry := by
  rw [idtEntryAt_congr (m := fun _ => 0) h hm]
  rfl

/-- What `idt` is to hold for a vector. -/
def tableEntry (ln : InterruptLinkage) (v : Nat) : IdtEntry :=
  if v < 48 then gateEntry (ln.stub v) 0x08 0x8E else absentEntry

/-- **The table that `idt_install` builds**, and nothing else in memory. -/
theorem idtEntryAt_idtInstall (h : ln.idt + 2048 ≤ 2 ^ 32) {s : InterruptState}
    (hs : s.interruptsInitialized = false) :
    (∀ v < 256, idtEntryAt (idtInstall ln s).mem (ln.idt + 8 * v) = tableEntry ln v) ∧
      ∀ x < 2 ^ 32, x < ln.idt ∨ ln.idt + 2048 ≤ x → (idtInstall ln s).mem x = s.mem x := by
  have hmem : (idtInstall ln s).mem = installGates ln (memset s.mem ln.idt 0 2048) := by
    rw [idtInstall, if_neg (by simp [hs])]
    rfl
  obtain ⟨hentry, hrest⟩ := installGates_prefix h (memset s.mem ln.idt 0 2048) 48 (by decide)
  rw [hmem]
  refine ⟨fun v hv => ?_, fun x hlt hx => ?_⟩
  · refine (hentry v hv).trans ?_
    unfold installedEntry tableEntry
    split
    · rfl
    · exact idtEntryAt_zero (by omega) fun x _ _ => by
        rw [memset_apply _ _ h (by omega), if_pos (by omega)]
  · exact (hrest x hx).trans (by rw [memset_apply _ _ h hlt, if_neg (by omega)])

/-! ## The controllers -/

/-- A controller that waits for a line. -/
def readyPic (base : UInt8) : Pic where
  vectorBase := base
  mask := 0
  inService := []
  autoEnd := false
  awaiting := []

/-- "Remap PIC" has its effect, and every interrupt that was accepted has ended. -/
def readyPics : Pics where
  pic1 := readyPic 0x20
  pic2 := readyPic 0x28

/-- **The initialisation words leave every line open.** -/
theorem outbs_remapWrites (p : Pics) (h₁ : p.pic1.inService = []) (h₂ : p.pic2.inService = []) :
    p.outbs remapWrites = readyPics := by
  obtain ⟨p₁, p₂⟩ := p
  obtain ⟨b₁, m₁, l₁, a₁, w₁⟩ := p₁
  obtain ⟨b₂, m₂, l₂, a₂, w₂⟩ := p₂
  subst h₁ h₂
  rfl

/-- What `readyPics` become when a line is accepted. -/
def acceptedPics (irq : Nat) : Pics :=
  if irq < 8 then { readyPics with pic1 := (readyPic 0x20).acknowledge irq }
  else { pic1 := (readyPic 0x20).acknowledge 2, pic2 := (readyPic 0x28).acknowledge (irq - 8) }

theorem accept_readyPics : ∀ irq < 16,
    readyPics.accept irq = some (UInt8.ofNat (32 + irq), acceptedPics irq) := by decide

/-- The writes of `irq_handler`. -/
def endOfInterrupt (p : Pics) (intNo : UInt32) : Pics :=
  (if 40 ≤ intNo then p.outb pic2Command 0x20 else p).outb pic1Command 0x20

/-- **`irq_handler` ends just the interrupt that was accepted.** -/
theorem endOfInterrupt_acceptedPics : ∀ irq < 16,
    endOfInterrupt (acceptedPics irq) (UInt8.ofNat (32 + irq)).toUInt32 = readyPics := by decide

theorem irqHandler_eq (s : InterruptState) (intNo : UInt32) : irqHandler s intNo =
    ({ s with pics := endOfInterrupt s.pics intNo }, isrHandler s intNo) := rfl

/-! ## Runs -/

/-- After `idt_install`, between two interrupts. -/
structure InterruptsReady (ln : InterruptLinkage) (s : InterruptState) : Prop where
  initialized : s.interruptsInitialized = true
  idtr : s.idtr = some asmIdtp
  pics : s.pics = readyPics
  entries : ∀ v < 256, idtEntryAt s.mem (ln.idt + 8 * v) = tableEntry ln v

theorem InterruptsReady.idtInstall (h : ln.idt + 2048 ≤ 2 ^ 32) {s : InterruptState}
    (hs : s.interruptsInitialized = false) (h₁ : s.pics.pic1.inService = [])
    (h₂ : s.pics.pic2.inService = []) : InterruptsReady ln (idtInstall ln s) := by
  have hentries := (idtEntryAt_idtInstall h hs).1
  have hpics := outbs_remapWrites s.pics h₁ h₂
  unfold Kernel.idtInstall at hentries ⊢
  rw [if_neg (by simp [hs])] at hentries ⊢
  exact ⟨rfl, rfl, hpics, hentries⟩

/-- What an event makes of the handler of a vector after `idt_install`. -/
def InterruptEvent.sets (v : Nat) : InterruptEvent → Option UInt32
  | .registerInterruptHandler n handler => if n.toNat = v then some handler else none
  | .irqInstallHandler irq handler => if irq = v ∧ handler ≠ 0 then some handler else none
  | .irqUninstallHandler irq => if irq = v then some 0 else none
  | _ => none

/-- The handler that was registered last for a vector, NULL if there is none. -/
def lastHandler (v : Nat) (as : List InterruptEvent) : UInt32 :=
  as.foldl (fun handler a => (a.sets v).getD handler) 0

theorem getD_update (f : Nat → UInt32) (n v : Nat) (handler : UInt32) :
    Function.update f n handler v = (if n = v then some handler else none).getD (f v) := by
  by_cases hv : n = v
  · subst hv
    rw [Function.update_self, if_pos rfl]
    rfl
  · rw [Function.update_of_ne (Ne.symm hv), if_neg hv]
    rfl

/-- **What an event can change after `idt_install`.** -/
theorem interruptStep_cases {s t : InterruptState} {a : InterruptEvent} (hs : InterruptsReady ln s)
    (h : interruptStep ln s a = some t) :
    t.pics = readyPics ∧ t.interruptsInitialized = true ∧ t.idtr = s.idtr ∧
      (∀ v < 256, t.interruptHandlers v = (a.sets v).getD (s.interruptHandlers v)) ∧
      ((∃ x v, a = .store x v ∧ x < 2 ^ 32 ∧ (x < ln.idt ∨ ln.idt + 2048 ≤ x) ∧
        t.mem = Function.update s.mem x v) ∨ (∀ x v, a ≠ .store x v) ∧ t.mem = s.mem) := by
  have hinit := hs.initialized
  cases a with
  | idtInstall =>
    rw [interruptStep, idtInstall, if_pos hinit, Option.some_inj] at h
    subst h
    exact ⟨hs.pics, hinit, rfl, fun _ _ => rfl, .inr ⟨nofun, rfl⟩⟩
  | registerInterruptHandler n handler =>
    cases h
    exact ⟨hs.pics, hinit, rfl, fun v _ => getD_update .., .inr ⟨nofun, rfl⟩⟩
  | irqInstallHandler irq handler =>
    rw [interruptStep, Option.some_inj] at h
    subst h
    unfold irqInstallHandler
    split
    next hbad =>
      refine ⟨hs.pics, hinit, rfl, fun v hv => ?_, .inr ⟨nofun, rfl⟩⟩
      have hnot : ¬ (irq = v ∧ handler ≠ 0) := by
        rintro ⟨rfl, hne⟩
        rcases hbad with hlt | hge | hnull
        · omega
        · omega
        · exact hne hnull
      rw [InterruptEvent.sets, if_neg hnot]
      rfl
    next hgood =>
      refine ⟨hs.pics, hinit, rfl, fun v hv => ?_, .inr ⟨nofun, rfl⟩⟩
      have hnum : (UInt8.ofNat irq.toNat).toNat = irq.toNat := by
        rw [UInt8.toNat_ofNat']
        exact Nat.mod_eq_of_lt (by omega)
      refine (getD_update s.interruptHandlers _ v handler).trans ?_
      have hne : handler ≠ 0 := fun hnull => hgood (.inr (.inr hnull))
      rw [InterruptEvent.sets, hnum]
      congr 1
      exact if_congr ⟨fun heq => ⟨by omega, hne⟩, fun heq => by omega⟩ rfl rfl
  | irqUninstallHandler irq =>
    rw [interruptStep, Option.some_inj] at h
    subst h
    unfold irqUninstallHandler
    split
    next hgood =>
      refine ⟨hs.pics, hinit, rfl, fun v hv => ?_, .inr ⟨nofun, rfl⟩⟩
      refine (getD_update s.interruptHandlers _ v 0).trans ?_
      rw [InterruptEvent.sets]
      congr 1
      exact if_congr (by omega) rfl rfl
    next hbad =>
      refine ⟨hs.pics, hinit, rfl, fun v hv => ?_, .inr ⟨nofun, rfl⟩⟩
      rw [InterruptEvent.sets, if_neg (by omega)]
      rfl
  | interrupt irq =>
    rw [interruptStep] at h
    split at h
    next hon =>
      rw [hs.pics, accept_readyPics irq hon.2, Option.map_some, Option.some_inj] at h
      subst h
      refine ⟨?_, hinit, rfl, fun _ _ => rfl, .inr ⟨nofun, rfl⟩⟩
      exact endOfInterrupt_acceptedPics irq hon.2
    next => cases h
  | spurious second =>
    rw [interruptStep, if_pos hinit, hs.pics] at h
    cases second with
    | true =>
      cases h
      exact ⟨rfl, hinit, rfl, fun _ _ => rfl, .inr ⟨nofun, rfl⟩⟩
    | false =>
      cases h
      refine ⟨?_, hinit, rfl, fun _ _ => rfl, .inr ⟨nofun, rfl⟩⟩
      show endOfInterrupt s.pics _ = _
      rw [hs.pics]
      rfl
  | store x v =>
    rw [interruptStep] at h
    split at h
    next hx =>
      cases h
      exact ⟨hs.pics, hinit, rfl, fun _ _ => rfl, .inl ⟨x, v, rfl, hx.1, hx.2, rfl⟩⟩
    next => cases h

theorem interruptStep_ready (h : ln.idt + 2048 ≤ 2 ^ 32) {s t : InterruptState}
    {a : InterruptEvent} (hs : InterruptsReady ln s) (hstep : interruptStep ln s a = some t) :
    InterruptsReady ln t := by
  obtain ⟨hpics, hinit, hidtr, -, hmem⟩ := interruptStep_cases hs hstep
  refine ⟨hinit, hidtr.trans hs.idtr, hpics, fun v hv => ?_⟩
  rw [← hs.entries v hv]
  obtain ⟨x, w, -, -, hx, hmem⟩ | ⟨-, hmem⟩ := hmem
  · exact idtEntryAt_congr (by omega) fun y _ _ => by
      rw [hmem, Function.update_of_ne (by omega)]
  · rw [hmem]

theorem interruptHandlers_run (h : ln.idt + 2048 ≤ 2 ^ 32) {v : Nat} (hv : v < 256) :
    ∀ {as : List InterruptEvent} {s t : InterruptState}, InterruptsReady ln s →
      run (interruptStep ln) s as = some t →
      t.interruptHandlers v =
        as.foldl (fun handler a => (a.sets v).getD handler) (s.interruptHandlers v)
  | [], s, t, _, hrun => by cases hrun; rfl
  | a :: as, s, t, hs, hrun => by
    obtain ⟨s', hstep, hrest⟩ := run_cons_eq_some.mp hrun
    rw [interruptHandlers_run h hv (interruptStep_ready h hs hstep) hrest, List.foldl_cons,
      (interruptStep_cases hs hstep).2.2.2.1 v hv]

/--
**Every line reaches the handler that was registered last for its vector**, in every state that calls
of the functions and interrupts lead to after `idt_install`. The gate of line `k` leads to `irq k`,
whose number is `32 + k`, and `irq_handler` leaves the controllers ready for every other line before
the handler is called. So `irq_install_handler` sets the handler of an exception when it is
given the number of a line.
-/
theorem irqHandler_run (h : ln.idt + 2048 ≤ 2 ^ 32) {s₀ s : InterruptState}
    (hs₀ : s₀.interruptsInitialized = false) (h₁ : s₀.pics.pic1.inService = [])
    (h₂ : s₀.pics.pic2.inService = []) {as : List InterruptEvent}
    (hrun : run (interruptStep ln) (idtInstall ln s₀) as = some s) :
    (∀ n < 32, (idtEntryAt s.mem (ln.idt + 8 * n)).offset = ln.isr n ∧
      isrHandler s (UInt32.ofNat n) =
        if lastHandler n as ≠ 0 then some (lastHandler n as) else none) ∧
    ∀ irq < 16, (idtEntryAt s.mem (ln.idt + 8 * (32 + irq))).offset = ln.irq irq ∧
      ∃ pics, s.pics.accept irq = some (UInt8.ofNat (32 + irq), pics) ∧
        irqHandler { s with pics := pics } (UInt8.ofNat (32 + irq)).toUInt32 =
          (s, if lastHandler (32 + irq) as ≠ 0 then some (lastHandler (32 + irq) as) else none) := by
  have hready := InterruptsReady.idtInstall h hs₀ h₁ h₂
  have hs := invariant_run (fun _ _ _ hs hstep => interruptStep_ready h hs hstep) hready hrun
  have hhandler : ∀ v < 256, s.interruptHandlers v = lastHandler v as := by
    intro v hv
    have hzero : (idtInstall ln s₀).interruptHandlers v = 0 := by
      rw [idtInstall, if_neg (by simp [hs₀])]
      exact if_pos hv
    rw [interruptHandlers_run h hv hready hrun, hzero]
    rfl
  have hcall : ∀ v < 256, isrHandler s (UInt32.ofNat v) =
      if lastHandler v as ≠ 0 then some (lastHandler v as) else none := by
    intro v hv
    unfold isrHandler
    rw [UInt32.toNat_ofNat_of_lt' (by rw [UInt32.size]; omega), hhandler v hv]
  refine ⟨fun n hn => ⟨?_, hcall n (by omega)⟩, fun irq hirq => ⟨?_, acceptedPics irq, ?_, ?_⟩⟩
  · rw [hs.entries n (by omega), tableEntry, if_pos (by omega), gateEntry_offset,
      InterruptLinkage.stub, if_pos hn]
  · rw [hs.entries (32 + irq) (by omega), tableEntry, if_pos (by omega), gateEntry_offset,
      InterruptLinkage.stub, if_neg (by omega), Nat.add_sub_cancel_left]
  · rw [hs.pics]
    exact accept_readyPics irq hirq
  · have hnum : (UInt8.ofNat (32 + irq)).toUInt32 = UInt32.ofNat (32 + irq) := by
      apply UInt32.toNat_inj.mp
      rw [UInt8.toNat_toUInt32, UInt8.toNat_ofNat', UInt32.toNat_ofNat']
      omega
    rw [irqHandler_eq, endOfInterrupt_acceptedPics irq hirq, ← hs.pics]
    exact congrArg _ ((congrArg (isrHandler s) hnum).trans (hcall (32 + irq) (by omega)))

/-- A kernel whose table lies behind its code. -/
def exampleLinkage : InterruptLinkage where
  idt := 0x110000
  isr := fun n => 0x100000 + 16 * UInt32.ofNat n
  irq := fun k => 0x100200 + 16 * UInt32.ofNat k

/-- The vectors and masks that the firmware has left. -/
def bootInterrupts : InterruptState where
  mem := fun _ => 0
  idtp := { limit := 0, base := 0 }
  idtr := none
  interruptHandlers := fun _ => 0
  interruptsInitialized := false
  pics := {
    pic1 := { vectorBase := 0x08, mask := 0xB8, inService := [], autoEnd := false, awaiting := [] }
    pic2 := { vectorBase := 0x70, mask := 0x8F, inService := [], autoEnd := false, awaiting := [] } }

/-- The keyboard registers for its vector, the timer for its line. -/
theorem irqHandler_run_timer : ∃ s, run (interruptStep exampleLinkage)
    (idtInstall exampleLinkage bootInterrupts)
      [.registerInterruptHandler 33 0x1234, .irqInstallHandler 0 0x5678, .interrupt 1] = some s ∧
    isrHandler s 0 = some 0x5678 ∧ ∃ pics, s.pics.accept 0 = some (32, pics) ∧
      irqHandler { s with pics := pics } 32 = (s, none) := by
  obtain ⟨hexception, hline⟩ := @irqHandler_run exampleLinkage (by decide) bootInterrupts _ rfl rfl
    rfl [.registerInterruptHandler 33 0x1234, .irqInstallHandler 0 0x5678, .interrupt 1] rfl
  exact ⟨_, rfl, (hexception 0 (by decide)).2, (hline 0 (by decide)).2⟩

/-! ## The table of the processor -/

/-- A store of the rest of the kernel. -/
def InterruptEvent.storeIn (m : ByteMemory) : InterruptEvent → ByteMemory
  | .store x v => Function.update m x v
  | _ => m

def otherStores (as : List InterruptEvent) (m : ByteMemory) : ByteMemory :=
  as.foldl InterruptEvent.storeIn m

theorem storeIn_congr {b : Nat} (a : InterruptEvent) {m m' : ByteMemory}
    (h : ∀ x < b, m' x = m x) : ∀ x < b, a.storeIn m' x = a.storeIn m x := by
  intro x hx
  cases a with
  | store y v =>
    by_cases hxy : x = y
    · subst hxy
      exact (Function.update_self x v m').trans (Function.update_self x v m).symm
    · exact (Function.update_of_ne hxy v m').trans
        ((h x hx).trans (Function.update_of_ne hxy v m).symm)
  | _ => exact h x hx

theorem otherStores_congr {b : Nat} : ∀ {as : List InterruptEvent} {m m' : ByteMemory},
    (∀ x < b, m' x = m x) → ∀ x < b, otherStores as m' x = otherStores as m x
  | [], _, _, h => h
  | a :: as, m, m', h => by
    have ih : ∀ x < b, otherStores as (a.storeIn m') x = otherStores as (a.storeIn m) x :=
      otherStores_congr (storeIn_congr a h)
    exact ih

/-- Of the functions only `idt_install` writes to memory or loads the table. -/
theorem interruptStep_mem {s t : InterruptState} {a : InterruptEvent} (ha : a ≠ .idtInstall)
    (hstep : interruptStep ln s a = some t) : t.mem = a.storeIn s.mem ∧ t.idtr = s.idtr ∧
      t.interruptsInitialized = s.interruptsInitialized := by
  cases a with
  | idtInstall => exact absurd rfl ha
  | registerInterruptHandler n handler => cases hstep; exact ⟨rfl, rfl, rfl⟩
  | irqInstallHandler irq handler =>
    cases hstep
    unfold irqInstallHandler
    split <;> exact ⟨rfl, rfl, rfl⟩
  | irqUninstallHandler irq =>
    cases hstep
    unfold irqUninstallHandler
    split <;> exact ⟨rfl, rfl, rfl⟩
  | interrupt irq =>
    rw [interruptStep] at hstep
    split at hstep
    · obtain ⟨⟨vector, pics⟩, -, rfl⟩ := Option.map_eq_some_iff.mp hstep
      exact ⟨rfl, rfl, rfl⟩
    · cases hstep
  | spurious second =>
    rw [interruptStep] at hstep
    split at hstep
    · cases second <;> (cases hstep; exact ⟨rfl, rfl, rfl⟩)
    · cases hstep
  | store x v =>
    rw [interruptStep] at hstep
    split at hstep
    · cases hstep
      exact ⟨rfl, rfl, rfl⟩
    · cases hstep

theorem idtInstall_below (h : ln.idt + 2048 ≤ 2 ^ 32) (s : InterruptState) :
    ∀ x < ln.idt, (idtInstall ln s).mem x = s.mem x := by
  intro x hx
  cases hs : s.interruptsInitialized with
  | true => rw [idtInstall, if_pos hs]
  | false => exact (idtEntryAt_idtInstall h hs).2 x (by omega) (.inl hx)

theorem idtInstall_idtr (s : InterruptState)
    (hs : s.interruptsInitialized = true → s.idtr = some asmIdtp) :
    (idtInstall ln s).idtr = some asmIdtp := by
  unfold idtInstall
  split
  next hinit => exact hs hinit
  next => rfl

/-- The memory below the table and the register of the processor, over a run. -/
theorem interrupt_run_mem (h : ln.idt + 2048 ≤ 2 ^ 32) :
    ∀ {as : List InterruptEvent} {s t : InterruptState},
      (s.interruptsInitialized = true → s.idtr = some asmIdtp) →
      run (interruptStep ln) s as = some t →
      (∀ x < ln.idt, t.mem x = otherStores as s.mem x) ∧
        (t.interruptsInitialized = true → t.idtr = some asmIdtp)
  | [], s, t, hs, hrun => by cases hrun; exact ⟨fun _ _ => rfl, hs⟩
  | a :: as, s, t, hs, hrun => by
    obtain ⟨s', hstep, hrest⟩ := run_cons_eq_some.mp hrun
    by_cases ha : a = .idtInstall
    · subst ha
      cases hstep
      obtain ⟨hmem, hidtr⟩ := interrupt_run_mem h (fun _ => idtInstall_idtr s hs) hrest
      refine ⟨fun x hx => (hmem x hx).trans ?_, hidtr⟩
      exact otherStores_congr (idtInstall_below h s) x hx
    · obtain ⟨hsame, hidtr', hinit⟩ := interruptStep_mem ha hstep
      obtain ⟨hmem, hidtr⟩ := interrupt_run_mem h (by rw [hidtr', hinit]; exact hs) hrest
      refine ⟨fun x hx => (hmem x hx).trans ?_, hidtr⟩
      rw [hsame]
      rfl

/--
**The processor does not use the table that `idt_install` fills in.** After it has run, the gate of
every vector is what lies at the beginning of memory, as the rest of the kernel has left it there:
none of the functions changes it, wherever `idt` is.
-/
theorem processorGate_run (h : ln.idt + 2048 ≤ 2 ^ 32) (hlow : 2048 ≤ ln.idt)
    {s₀ s : InterruptState} (hs₀ : s₀.interruptsInitialized = false) {as : List InterruptEvent}
    (hrun : run (interruptStep ln) s₀ as = some s) (hs : s.interruptsInitialized = true) :
    ∀ v < 256, processorGate s v = some (idtEntryAt (otherStores as s₀.mem) (8 * v)) := by
  intro v hv
  obtain ⟨hmem, hidtr⟩ := interrupt_run_mem h (fun hinit => by simp [hs₀] at hinit) hrun
  have hlimit : 8 * v + 7 ≤ asmIdtp.limit.toNat := by
    show 8 * v + 7 ≤ 2048
    omega
  rw [processorGate, hidtr hs, Option.bind_some, if_pos hlimit,
    show asmIdtp.base.toNat + 8 * v = 8 * v from Nat.zero_add _]
  exact congrArg some (idtEntryAt_congr (by omega) fun x _ _ => hmem x (by omega))

theorem processorGate_run_boot : ∃ s, run (interruptStep exampleLinkage) bootInterrupts
    [.idtInstall, .registerInterruptHandler 14 0x1234] = some s ∧
      processorGate s 14 = some absentEntry := by
  have hgate := @processorGate_run exampleLinkage (by decide) (by decide) bootInterrupts _ rfl
    [.idtInstall, .registerInterruptHandler 14 0x1234] rfl rfl 14 (by decide)
  exact ⟨_, rfl, hgate⟩

end MayaOs.Kernel
