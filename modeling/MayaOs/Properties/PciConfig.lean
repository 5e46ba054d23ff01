import MayaOs.Drivers.Pci
import MayaOs.Lib.Loops

/-!
# What the PCI scan leaves in configuration space

The BAR loop works on the registers of a function from the first on. Abstractly it turns a list of
registers, each with its hard-wired bits, into another one; the scan does that to each function it
meets.

* `pciInit_restores_iff` — nothing changes exactly when each 64-bit BAR has a register after it that
  the lower half can be written to without a trace
* `upper_half_overwritten` — a BAR above 4 GB moves
-/

namespace MayaOs.Drivers

open MayaOs.Lib

/-! ## Writes -/

theorem written_written (hard old v w : UInt32) :
    written hard (written hard old v) w = written hard old w := by
  apply UInt32.toBitVec_inj.mp
  ext i
  simp [written]
  grind

theorem written_eq_iff {hard old v : UInt32} :
    written hard old v = old ↔ v &&& ~~~ hard = old &&& ~~~ hard := by
  constructor
  · intro h
    rw [← h]
    apply UInt32.toBitVec_inj.mp
    ext i
    simp [written]
    grind
  · intro h
    unfold written
    rw [h]
    apply UInt32.toBitVec_inj.mp
    ext i
    simp
    grind

theorem written_self (hard old : UInt32) : written hard old old = old := written_eq_iff.mpr rfl

/-! ## Addresses -/

theorem toNat_configAddress {bus device function offset : UInt8} (hd : device.toNat < 32)
    (hf : function.toNat < 8) :
    (configAddress bus device function offset).toNat =
      2147483648 + bus.toNat * 65536 + device.toNat * 2048 + function.toNat * 256 +
        (offset &&& 0xFC).toNat := by
  have hbus := bus.toNat_lt
  have hoff := (offset &&& 0xFC).toNat_lt
  have hshift : ∀ (x : UInt8) (k : UInt32), k.toNat < 24 →
      (x.toUInt32 <<< k).toNat = x.toNat <<< k.toNat := by
    intro x k hk
    have hx := x.toNat_lt
    rw [UInt32.toNat_shiftLeft, UInt8.toNat_toUInt32, Nat.mod_eq_of_lt (show k.toNat < 32 by omega)]
    refine Nat.mod_eq_of_lt ?_
    rw [Nat.shiftLeft_eq]
    calc x.toNat * 2 ^ k.toNat ≤ x.toNat * 2 ^ 24 :=
          Nat.mul_le_mul_left _ (Nat.pow_le_pow_right (by decide) (by omega))
      _ < 2 ^ 32 := by omega
  have h16 : (bus.toUInt32 <<< 16).toNat = bus.toNat <<< 16 := hshift bus 16 (by decide)
  have h11 : (device.toUInt32 <<< 11).toNat = device.toNat <<< 11 := hshift device 11 (by decide)
  have h8 : (function.toUInt32 <<< 8).toNat = function.toNat <<< 8 := hshift function 8 (by decide)
  have hbit : (0x80000000 : UInt32).toNat = 1 <<< 31 := rfl
  -- from the low fields up, each fits below the next
  have hlow : function.toNat <<< 8 ||| (offset &&& 0xFC).toNat =
      function.toNat * 256 + (offset &&& 0xFC).toNat := by
    rw [← Nat.shiftLeft_add_eq_or_of_lt hoff, Nat.shiftLeft_eq]
  have hmid : device.toNat <<< 11 ||| (function.toNat * 256 + (offset &&& 0xFC).toNat) =
      device.toNat * 2048 + (function.toNat * 256 + (offset &&& 0xFC).toNat) := by
    rw [← Nat.shiftLeft_add_eq_or_of_lt (by omega), Nat.shiftLeft_eq]
  have hhigh : bus.toNat <<< 16 |||
        (device.toNat * 2048 + (function.toNat * 256 + (offset &&& 0xFC).toNat)) =
      bus.toNat * 65536 + (device.toNat * 2048 + (function.toNat * 256 + (offset &&& 0xFC).toNat)) := by
    rw [← Nat.shiftLeft_add_eq_or_of_lt (by omega), Nat.shiftLeft_eq]
  unfold configAddress
  rw [UInt32.toNat_or, UInt32.toNat_or, UInt32.toNat_or, UInt32.toNat_or, h16, h11, h8, hbit,
    UInt8.toNat_toUInt32, Nat.or_comm, Nat.or_assoc, Nat.or_assoc, hlow, hmid, hhigh,
    ← Nat.shiftLeft_add_eq_or_of_lt (by omega), Nat.shiftLeft_eq]
  omega

/-- Where a function is on the bus. -/
structure FunctionAddress where
  bus : UInt8
  device : UInt8
  function : UInt8
  deriving Repr, DecidableEq

/-- What five and three bits can hold. -/
def FunctionAddress.Valid (g : FunctionAddress) : Prop :=
  g.device.toNat < 32 ∧ g.function.toNat < 8

def FunctionAddress.register (g : FunctionAddress) (offset : UInt8) : UInt32 :=
  configAddress g.bus g.device g.function offset

/-- The register of the BAR with index `i`. -/
def FunctionAddress.bar (g : FunctionAddress) (i : Nat) : UInt32 := g.register (barOffset i)

/-- **Different functions, and different registers, have different addresses.** -/
theorem register_inj {g g' : FunctionAddress} (h : g.Valid) (h' : g'.Valid) {o o' : UInt8}
    (heq : g.register o = g'.register o') : g = g' ∧ o &&& 0xFC = o' &&& 0xFC := by
  obtain ⟨hd, hf⟩ := h
  obtain ⟨hd', hf'⟩ := h'
  have hnat := congrArg UInt32.toNat heq
  unfold FunctionAddress.register at hnat
  rw [toNat_configAddress hd hf, toNat_configAddress hd' hf'] at hnat
  have ho := (o &&& 0xFC).toNat_lt
  have ho' := (o' &&& 0xFC).toNat_lt
  have h1 : g.bus = g'.bus := UInt8.toNat_inj.mp (by omega)
  have h2 : g.device = g'.device := UInt8.toNat_inj.mp (by omega)
  have h3 : g.function = g'.function := UInt8.toNat_inj.mp (by omega)
  have h4 : o &&& 0xFC = o' &&& 0xFC := UInt8.toNat_inj.mp (by omega)
  obtain ⟨b, d, f⟩ := g
  obtain ⟨b', d', f'⟩ := g'
  cases h1
  cases h2
  cases h3
  exact ⟨rfl, h4⟩

theorem bar_inj {g : FunctionAddress} (h : g.Valid) {i j : Nat} (hi : i < 6) (hj : j < 6)
    (heq : g.bar i = g.bar j) : i = j := by
  have hoff : ∀ i < 6, ∀ j < 6, barOffset i &&& 0xFC = barOffset j &&& 0xFC → i = j := by decide
  exact hoff i hi j hj (register_inj h h heq).2

/-! ## The registers of a function -/

/-- The BARs from index `i` on, with their hard-wired bits. -/
def barsFrom (c : ConfigSpace) (g : FunctionAddress) (i : Nat) : List (UInt32 × UInt32) :=
  (List.range' i (6 - i)).map fun j => (c.reg (g.bar j), c.hard (g.bar j))

/-- A memory BAR of 64 bits. -/
def Wide (bar : UInt32) : Prop := bar &&& 1 = 0 ∧ bar &&& 0x6 = 0x4

instance (bar : UInt32) : Decidable (Wide bar) := inferInstanceAs (Decidable (_ ∧ _))

/-- What the loop leaves in a list of registers; nothing when it runs past the end. -/
def settle : List (UInt32 × UInt32) → Option (List (UInt32 × UInt32))
  | [] => some []
  | (r, h) :: rest =>
    if Wide r then
      match rest with
      | [] => none
      | (r', h') :: rest => (settle rest).map fun l => (r, h) :: (written h' r' r, h') :: l
    else (settle rest).map fun l => (r, h) :: l

/-- No 64-bit BAR is the last, and each leaves the register after it as it was when it is written
there. -/
def BarsRestored : List (UInt32 × UInt32) → Prop
  | [] => True
  | (r, _) :: rest =>
    if Wide r then
      match rest with
      | [] => False
      | (r', h') :: rest => r &&& ~~~ h' = r' &&& ~~~ h' ∧ BarsRestored rest
    else BarsRestored rest

theorem settle_narrow {r h : UInt32} (hr : ¬ Wide r) (rest : List (UInt32 × UInt32)) :
    settle ((r, h) :: rest) = (settle rest).map fun l => (r, h) :: l := by
  cases rest <;> simp [settle, hr]

theorem settle_wide {r h : UInt32} (hr : Wide r) (r' h' : UInt32) (rest : List (UInt32 × UInt32)) :
    settle ((r, h) :: (r', h') :: rest) =
      (settle rest).map fun l => (r, h) :: (written h' r' r, h') :: l := by
  simp [settle, hr]

theorem settle_wide_last {r h : UInt32} (hr : Wide r) : settle [(r, h)] = none := by
  simp [settle, hr]

theorem settle_eq_self_iff : ∀ l : List (UInt32 × UInt32), settle l = some l ↔ BarsRestored l
  | [] => by simp [settle, BarsRestored]
  | (r, h) :: rest => by
    by_cases hr : Wide r
    · match rest with
      | [] => simp [settle_wide_last hr, BarsRestored, hr]
      | (r', h') :: rest =>
        simp [settle_wide hr, BarsRestored, hr, written_eq_iff, ← settle_eq_self_iff rest, and_comm]
    · rw [settle_narrow hr, Option.map_eq_some_iff]
      cases rest with
      | nil => simp [settle, BarsRestored, hr]
      | cons x rest => simp [BarsRestored, hr, ← settle_eq_self_iff]

/-- A second scan finds nothing left to do. -/
theorem settle_idem : ∀ {l l' : List (UInt32 × UInt32)}, settle l = some l' → settle l' = some l'
  | [], l', hl => by
    cases hl
    rfl
  | (r, h) :: rest, l', hl => by
    by_cases hr : Wide r
    · match rest with
      | [] =>
        rw [settle_wide_last hr] at hl
        cases hl
      | (r', h') :: rest =>
        rw [settle_wide hr, Option.map_eq_some_iff] at hl
        obtain ⟨l, hl, rfl⟩ := hl
        rw [settle_wide hr, settle_idem hl, written_written]
        rfl
    · rw [settle_narrow hr, Option.map_eq_some_iff] at hl
      obtain ⟨l, hl, rfl⟩ := hl
      rw [settle_narrow hr, settle_idem hl]
      rfl

theorem barsFrom_of_lt (c : ConfigSpace) (g : FunctionAddress) {i : Nat} (hi : i < 6) :
    barsFrom c g i = (c.reg (g.bar i), c.hard (g.bar i)) :: barsFrom c g (i + 1) := by
  unfold barsFrom
  obtain ⟨n, hn⟩ : ∃ n, 6 - i = n + 1 := ⟨5 - i, by omega⟩
  rw [hn, List.range'_succ, List.map_cons, show 6 - (i + 1) = n by omega]

theorem barsFrom_end (c : ConfigSpace) (g : FunctionAddress) : barsFrom c g 6 = [] := rfl

theorem barsFrom_congr {c c' : ConfigSpace} {g : FunctionAddress} {i : Nat}
    (hhard : c'.hard = c.hard) (h : ∀ j, i ≤ j → j < 6 → c'.reg (g.bar j) = c.reg (g.bar j)) :
    barsFrom c' g i = barsFrom c g i := by
  refine List.map_congr_left fun j hj => ?_
  rw [List.mem_range'_1] at hj
  rw [hhard, h j hj.1 (by omega)]

/-! ## The BAR loop -/

theorem storeBar_of_lt (v : Vector UInt32 6) {i : Nat} (hi : i < 6) (x : UInt32) :
    storeBar v i x = .ok (v.set i x hi) := dif_pos hi

/-- Sizing writes the value it is given. -/
theorem sizeBar_config (c : ConfigSpace) (g : FunctionAddress) (i : Nat) (bar : UInt32) :
    (sizeBar c g.bus g.device g.function i bar).2 =
      { c with
        reg := Function.update c.reg (g.bar i)
          (written (c.hard (g.bar i)) (c.reg (g.bar i)) bar) } := by
  show ({ c with reg := _ } : ConfigSpace) = _
  have haddr : configAddress g.bus g.device g.function (barOffset i) = g.bar i := rfl
  simp only [pciWriteConfig, haddr, Function.update_self, Function.update_idem, written_written]

/-- What one run of the loop does to the registers. -/
structure Settles (g : FunctionAddress) (i : Nat) (c : ConfigSpace) (l : List (UInt32 × UInt32))
    (c' : ConfigSpace) : Prop where
  hard : c'.hard = c.hard
  bars : barsFrom c' g i = l
  frame : ∀ a, (∀ j, i ≤ j → j < 6 → a ≠ g.bar j) → c'.reg a = c.reg a

/-- A register that keeps its value goes in front of what the rest of the loop does. -/
theorem Settles.cons {g : FunctionAddress} (hg : g.Valid) {i : Nat} (hi : i < 6) {c c' : ConfigSpace}
    {l : List (UInt32 × UInt32)} (h : Settles g (i + 1) c l c') :
    Settles g i c ((c.reg (g.bar i), c.hard (g.bar i)) :: l) c' where
  hard := h.hard
  bars := by
    have hkept : c'.reg (g.bar i) = c.reg (g.bar i) :=
      h.frame _ fun j hij hj heq => absurd (bar_inj hg hi hj heq) (by omega)
    rw [barsFrom_of_lt c' g hi, h.bars, hkept, h.hard]
  frame := fun a ha => h.frame a fun j hij hj => ha j (by omega) hj

/-- How the loop ends: it fails, or it has settled the registers. -/
def LoopResult (g : FunctionAddress) (i : Nat) (c : ConfigSpace)
    (r : Except Fault (ConfigSpace × PciDevice)) : Option (List (UInt32 × UInt32)) → Prop
  | none => r = .error (.outOfBounds 6)
  | some l => ∃ c' dev', r = .ok (c', dev') ∧ Settles g i c l c'

theorem barLoop_end (g : FunctionAddress) {i : Nat} (hi : ¬ i < 6) (c : ConfigSpace)
    (dev : PciDevice) : barLoop g.bus g.device g.function i c dev = .ok (c, dev) := by
  rw [barLoop, dif_neg hi]

/-- An I/O BAR is left alone, and one of 32 bits gets its value back. -/
theorem barLoop_narrow (g : FunctionAddress) {i : Nat} (hi : i < 6) (c : ConfigSpace)
    (dev : PciDevice) (hr : ¬ Wide (c.reg (g.bar i))) :
    ∃ dev', barLoop g.bus g.device g.function i c dev =
      barLoop g.bus g.device g.function (i + 1) c dev' := by
  have hread : pciReadConfig c g.bus g.device g.function (barOffset i) = c.reg (g.bar i) := rfl
  rw [barLoop, dif_pos hi]
  simp only [hread, storeBar_of_lt _ hi]
  by_cases hio : c.reg (g.bar i) &&& 1 ≠ 0
  · exact ⟨_, if_pos hio⟩
  · have h64 : ¬ c.reg (g.bar i) &&& 0x6 = 0x4 := fun h => hr ⟨not_not.mp hio, h⟩
    have hconfig : (sizeBar c g.bus g.device g.function i (c.reg (g.bar i))).2 = c := by
      rw [sizeBar_config, written_self, Function.update_eq_self]
    refine ⟨{ dev with
      bar := dev.bar.set i (c.reg (g.bar i)) hi
      barSize := dev.barSize.set i
        (sizeBar c g.bus g.device g.function i (c.reg (g.bar i))).1 hi },
      (if_neg hio).trans ((if_neg h64).trans ?_)⟩
    rw [hconfig]
    rfl

/-- The value of a 64-bit BAR in the register after it. -/
def overwriteNext (c : ConfigSpace) (g : FunctionAddress) (i : Nat) : ConfigSpace :=
  { c with
    reg := Function.update c.reg (g.bar (i + 1))
      (written (c.hard (g.bar (i + 1))) (c.reg (g.bar (i + 1))) (c.reg (g.bar i))) }

theorem barLoop_wide (g : FunctionAddress) {i : Nat} (hi : i + 1 < 6) (c : ConfigSpace)
    (dev : PciDevice) (hr : Wide (c.reg (g.bar i))) :
    ∃ dev', barLoop g.bus g.device g.function i c dev =
      barLoop g.bus g.device g.function (i + 2) (overwriteNext c g i) dev' := by
  have hread : pciReadConfig c g.bus g.device g.function (barOffset i) = c.reg (g.bar i) := rfl
  rw [barLoop, dif_pos (by omega : i < 6)]
  simp only [hread, storeBar_of_lt _ (by omega : i < 6), storeBar_of_lt _ hi]
  refine ⟨{ dev with
    bar := (dev.bar.set i (c.reg (g.bar i))).set (i + 1) (c.reg (g.bar (i + 1)))
    barSize := dev.barSize.set (i + 1)
      (sizeBar c g.bus g.device g.function (i + 1) (c.reg (g.bar i))).1 },
    (if_neg (not_not.mpr hr.1)).trans ((if_pos hr.2).trans ?_)⟩
  rw [overwriteNext, ← sizeBar_config]
  rfl

theorem barLoop_wide_last (g : FunctionAddress) (c : ConfigSpace) (dev : PciDevice)
    (hr : Wide (c.reg (g.bar 5))) :
    barLoop g.bus g.device g.function 5 c dev = .error (.outOfBounds 6) := by
  have hread : pciReadConfig c g.bus g.device g.function (barOffset 5) = c.reg (g.bar 5) := rfl
  rw [barLoop, dif_pos (by decide)]
  simp only [hread, storeBar_of_lt _ (by decide : 5 < 6)]
  exact (if_neg (not_not.mpr hr.1)).trans (if_pos hr.2)

/-- A register that keeps its value, and then the rest of the loop. -/
theorem LoopResult.narrow {g : FunctionAddress} (hg : g.Valid) {i : Nat} (hi : i < 6)
    {c : ConfigSpace} {r : Except Fault (ConfigSpace × PciDevice)}
    {settled : Option (List (UInt32 × UInt32))} (h : LoopResult g (i + 1) c r settled) :
    LoopResult g i c r (settled.map fun l => (c.reg (g.bar i), c.hard (g.bar i)) :: l) := by
  cases settled with
  | none => exact h
  | some l =>
    obtain ⟨c', dev', hok, hset⟩ := h
    exact ⟨c', dev', hok, hset.cons hg hi⟩

/-- A register whose value has been written into the next one, and then the rest of the loop. -/
theorem LoopResult.wide {g : FunctionAddress} (hg : g.Valid) {i : Nat} (hi : i + 1 < 6)
    {c : ConfigSpace} {r : Except Fault (ConfigSpace × PciDevice)}
    {settled : Option (List (UInt32 × UInt32))}
    (h : LoopResult g (i + 2) (overwriteNext c g i) r settled) :
    LoopResult g i c r (settled.map fun l => (c.reg (g.bar i), c.hard (g.bar i)) ::
      (written (c.hard (g.bar (i + 1))) (c.reg (g.bar (i + 1))) (c.reg (g.bar i)),
        c.hard (g.bar (i + 1))) :: l) := by
  cases settled with
  | none => exact h
  | some l =>
    obtain ⟨c', dev', hok, hset⟩ := h
    have hset' := (hset.cons hg hi).cons hg (Nat.lt_of_succ_lt hi)
    have hkept : (overwriteNext c g i).reg (g.bar i) = c.reg (g.bar i) :=
      Function.update_of_ne (fun heq => by have := bar_inj hg (by omega) hi heq; omega) _ _
    have hnext : (overwriteNext c g i).reg (g.bar (i + 1)) =
        written (c.hard (g.bar (i + 1))) (c.reg (g.bar (i + 1))) (c.reg (g.bar i)) :=
      Function.update_self ..
    rw [hkept, hnext] at hset'
    exact ⟨c', dev', hok, hset'.hard, hset'.bars, fun a ha => (hset'.frame a ha).trans
      (Function.update_of_ne (ha (i + 1) (by omega) hi) _ _)⟩

/-- The write does not reach the registers that are still to come. -/
theorem barsFrom_overwriteNext {g : FunctionAddress} (hg : g.Valid) {i : Nat} (hi : i + 1 < 6)
    (c : ConfigSpace) : barsFrom (overwriteNext c g i) g (i + 2) = barsFrom c g (i + 2) :=
  barsFrom_congr rfl fun j hij hj =>
    Function.update_of_ne (fun heq => by have := bar_inj hg hj hi heq; omega) _ _

/-- **The loop settles the registers from `i` on**, and fails when there is no way to settle them. -/
theorem barLoop_spec {g : FunctionAddress} (hg : g.Valid) :
    ∀ (i : Nat) (c : ConfigSpace) (dev : PciDevice),
      LoopResult g i c (barLoop g.bus g.device g.function i c dev) (settle (barsFrom c g i)) := by
  have hrec : ∀ n i, 6 - i = n → ∀ (c : ConfigSpace) (dev : PciDevice),
      LoopResult g i c (barLoop g.bus g.device g.function i c dev) (settle (barsFrom c g i)) := by
    intro n
    induction n using Nat.strong_induction_on with
    | _ n ih =>
      rintro i rfl c dev
      by_cases hi : i < 6
      · rw [barsFrom_of_lt c g hi]
        by_cases hr : Wide (c.reg (g.bar i))
        · by_cases hi' : i + 1 < 6
          · obtain ⟨dev', hloop⟩ := barLoop_wide g hi' c dev hr
            have hrest := ih (6 - (i + 2)) (by omega) (i + 2) rfl (overwriteNext c g i) dev'
            rw [barsFrom_overwriteNext hg hi'] at hrest
            rw [barsFrom_of_lt c g hi', settle_wide hr, hloop]
            exact hrest.wide hg hi'
          · obtain rfl : i = 5 := by omega
            rw [barsFrom_end, settle_wide_last hr]
            exact barLoop_wide_last g c dev hr
        · obtain ⟨dev', hloop⟩ := barLoop_narrow g hi c dev hr
          rw [settle_narrow hr, hloop]
          exact (ih (6 - (i + 1)) (by omega) (i + 1) rfl c dev').narrow hg hi
      · have hnil : barsFrom c g i = [] := by
          unfold barsFrom
          rw [show 6 - i = 0 by omega]
          rfl
        rw [hnil, barLoop_end g hi]
        exact ⟨c, dev, rfl, rfl, hnil, fun _ _ => rfl⟩
  intro i c dev
  exact hrec _ i rfl c dev

/-! ## One function -/

def check (s : PciSystem) (g : FunctionAddress) : Except Fault PciSystem :=
  pciCheckFunction s g.bus g.device g.function

def vendor (c : ConfigSpace) (g : FunctionAddress) : UInt32 := vendorOf c g.bus g.device g.function

theorem check_of_absent {s : PciSystem} {g : FunctionAddress}
    (h : vendor s.config g = 0xFFFF ∨ 65536 ≤ s.devices.length) : check s g = .ok s := by
  unfold check pciCheckFunction
  by_cases hv : vendorOf s.config g.bus g.device g.function = 0xFFFF
  · exact if_pos hv
  · rcases h with h | h
    · exact absurd h hv
    · exact (if_neg hv).trans (if_pos h)

theorem check_of_present {s : PciSystem} {g : FunctionAddress} (hg : g.Valid)
    (hv : vendor s.config g ≠ 0xFFFF) (hroom : s.devices.length < 65536) :
    match settle (barsFrom s.config g 0) with
    | none => check s g = .error (.outOfBounds 6)
    | some l => ∃ s', check s g = .ok s' ∧ Settles g 0 s.config l s'.config ∧
        s'.devices.length = s.devices.length + 1 := by
  have hroom' : ¬ s.devices.length ≥ pciMaxBuses * pciMaxDevices * pciMaxFunctions :=
    Nat.not_le.mpr hroom
  unfold check pciCheckFunction
  simp only [if_neg (show ¬ vendorOf s.config g.bus g.device g.function = 0xFFFF from hv),
    if_neg hroom']
  generalize hdev : PciDevice.mk .. = dev
  have hloop := barLoop_spec hg 0 s.config dev
  cases hs : settle (barsFrom s.config g 0) with
  | none =>
    rw [hs] at hloop
    rw [hloop]
    rfl
  | some l =>
    rw [hs] at hloop
    obtain ⟨c', dev', hok, hset⟩ := hloop
    exact ⟨{ s with config := c', devices := s.devices ++ [dev'] }, by rw [hok]; rfl, hset,
      List.length_append⟩

/-! ## The functions of a scan -/

/-- Nothing but BARs has changed. -/
def SameOutside (c0 c : ConfigSpace) : Prop :=
  ∀ a, (∀ g : FunctionAddress, g.Valid → ∀ j < 6, a ≠ g.bar j) → c.reg a = c0.reg a

theorem SameOutside.register {c0 c : ConfigSpace} (h : SameOutside c0 c) {g : FunctionAddress}
    (hg : g.Valid) {o : UInt8} (ho : ∀ j < 6, o &&& 0xFC ≠ barOffset j &&& 0xFC) :
    c.reg (g.register o) = c0.reg (g.register o) :=
  h _ fun _ hg' j hj heq => ho j hj (register_inj hg hg' heq).2

theorem SameOutside.vendor {c0 c : ConfigSpace} (h : SameOutside c0 c) {g : FunctionAddress}
    (hg : g.Valid) : vendor c g = vendor c0 g := by
  have hreg := h.register hg (o := pciVendorId) (by decide)
  show c.reg (g.register pciVendorId) &&& 0xFFFF = c0.reg (g.register pciVendorId) &&& 0xFFFF
  rw [hreg]

theorem SameOutside.headerType {c0 c : ConfigSpace} (h : SameOutside c0 c) {bus device : UInt8}
    (hd : device.toNat < 32) : headerTypeOf c bus device 0 = headerTypeOf c0 bus device 0 := by
  have hreg := h.register (g := ⟨bus, device, 0⟩) ⟨hd, Nat.zero_lt_succ 7⟩ (o := pciHeaderType) (by decide)
  show ((c.reg _ >>> 16) &&& 0xFF).toUInt8 = ((c0.reg _ >>> 16) &&& 0xFF).toUInt8
  exact congrArg (fun r : UInt32 => ((r >>> 16) &&& 0xFF).toUInt8) hreg

theorem SameOutside.check {c0 : ConfigSpace} {s s' : PciSystem} {g : FunctionAddress}
    (hg : g.Valid) (h : SameOutside c0 s.config) (hok : check s g = .ok s') :
    SameOutside c0 s'.config := by
  by_cases hno : Drivers.vendor s.config g = 0xFFFF ∨ 65536 ≤ s.devices.length
  · rw [check_of_absent hno] at hok
    cases hok
    exact h
  · rw [not_or, Nat.not_le] at hno
    have hcheck := check_of_present hg hno.1 hno.2
    cases hs : settle (barsFrom s.config g 0) with
    | none =>
      rw [hs, hok] at hcheck
      cases hcheck
    | some l =>
      rw [hs] at hcheck
      obtain ⟨s1, hs1, hset, -⟩ := hcheck
      rw [hs1] at hok
      cases hok
      exact fun a ha => (hset.frame a fun j _ hj => ha g hg j hj).trans (h a ha)

/-- The functions of a device that `pci_check_device` finds. -/
def deviceFunctions (c : ConfigSpace) (bus device : UInt8) : List FunctionAddress :=
  if vendorOf c bus device 0 = 0xFFFF then []
  else
    ⟨bus, device, 0⟩ ::
      if headerTypeOf c bus device 0 &&& 0x80 ≠ 0 then
        (List.range' 1 7).flatMap fun f =>
          if vendorOf c bus device (UInt8.ofNat f) ≠ 0xFFFF then [⟨bus, device, UInt8.ofNat f⟩]
          else []
      else []

/-- The functions found on the buses from `first` on. -/
def passFunctions (c : ConfigSpace) (first : Nat) : List FunctionAddress :=
  (List.range' first (256 - first)).flatMap fun bus =>
    (List.range 32).flatMap fun device => deviceFunctions c (UInt8.ofNat bus) (UInt8.ofNat device)

/-- The functions found by `pci_init`, in order. -/
def scanFunctions (c : ConfigSpace) : List FunctionAddress :=
  if headerTypeOf c 0 0 0 &&& 0x80 = 0 then passFunctions c 0
  else
    (List.range 8).flatMap fun f =>
      if vendorOf c 0 0 (UInt8.ofNat f) ≠ 0xFFFF then passFunctions c f else []

/-- Which functions these are. -/
def Scanned (c : ConfigSpace) (g : FunctionAddress) : Prop :=
  g.Valid ∧
  (headerTypeOf c 0 0 0 &&& 0x80 = 0 ∨
    ∃ f < 8, vendorOf c 0 0 (UInt8.ofNat f) ≠ 0xFFFF ∧ f ≤ g.bus.toNat) ∧
  vendorOf c g.bus g.device 0 ≠ 0xFFFF ∧
  (g.function = 0 ∨ headerTypeOf c g.bus g.device 0 &&& 0x80 ≠ 0 ∧ vendor c g ≠ 0xFFFF)

theorem toNat_ofNat_of_lt {n : Nat} (h : n < 256) : (UInt8.ofNat n).toNat = n :=
  UInt8.toNat_ofNat_of_lt h

theorem mem_deviceFunctions {c : ConfigSpace} {bus device : UInt8} {g : FunctionAddress} :
    g ∈ deviceFunctions c bus device ↔
      g.bus = bus ∧ g.device = device ∧ g.function.toNat < 8 ∧ vendorOf c bus device 0 ≠ 0xFFFF ∧
        (g.function = 0 ∨ headerTypeOf c bus device 0 &&& 0x80 ≠ 0 ∧ vendor c g ≠ 0xFFFF) := by
  obtain ⟨b, d, f⟩ := g
  unfold deviceFunctions
  by_cases hv : vendorOf c bus device 0 = 0xFFFF
  · simp [hv]
  · rw [if_neg hv, List.mem_cons]
    constructor
    · rintro (heq | hmem)
      · cases heq
        exact ⟨rfl, rfl, Nat.zero_lt_succ 7, hv, Or.inl rfl⟩
      · split at hmem
        · rename_i hmulti
          obtain ⟨f', hf', hmem⟩ := List.mem_flatMap.mp hmem
          rw [List.mem_range'_1] at hf'
          split at hmem
          · rename_i hpresent
            cases List.mem_singleton.mp hmem
            exact ⟨rfl, rfl, by rw [toNat_ofNat_of_lt (by omega)]; omega, hv,
              Or.inr ⟨hmulti, hpresent⟩⟩
          · cases hmem
        · cases hmem
    · rintro ⟨rfl, rfl, hf, -, h0 | ⟨hmulti, hpresent⟩⟩
      · left
        cases h0
        rfl
      · by_cases h0 : f.toNat = 0
        · left
          have hf0 : f = 0 := UInt8.toNat_inj.mp h0
          rw [hf0]
        · right
          rw [if_pos hmulti]
          refine List.mem_flatMap.mpr ⟨f.toNat, List.mem_range'_1.mpr ⟨by omega, hf⟩, ?_⟩
          rw [UInt8.ofNat_toNat]
          exact if_pos hpresent ▸ List.mem_singleton_self _

theorem mem_passFunctions {c : ConfigSpace} {first : Nat} {g : FunctionAddress} :
    g ∈ passFunctions c first ↔
      first ≤ g.bus.toNat ∧ g.device.toNat < 32 ∧ g ∈ deviceFunctions c g.bus g.device := by
  unfold passFunctions
  constructor
  · intro h
    obtain ⟨bus, hbus, h⟩ := List.mem_flatMap.mp h
    obtain ⟨device, hdevice, h⟩ := List.mem_flatMap.mp h
    rw [List.mem_range'_1] at hbus
    rw [List.mem_range] at hdevice
    obtain ⟨h1, h2, -⟩ := mem_deviceFunctions.mp h
    rw [h1, h2, toNat_ofNat_of_lt (by omega), toNat_ofNat_of_lt (by omega)]
    exact ⟨hbus.1, hdevice, h⟩
  · rintro ⟨hbus, hdevice, h⟩
    have hlt := g.bus.toNat_lt
    refine List.mem_flatMap.mpr ⟨g.bus.toNat, List.mem_range'_1.mpr ⟨hbus, by omega⟩, ?_⟩
    refine List.mem_flatMap.mpr ⟨g.device.toNat, List.mem_range.mpr hdevice, ?_⟩
    rw [UInt8.ofNat_toNat, UInt8.ofNat_toNat]
    exact h

theorem mem_scanFunctions {c : ConfigSpace} {g : FunctionAddress} :
    g ∈ scanFunctions c ↔ Scanned c g := by
  have hdevice : g ∈ deviceFunctions c g.bus g.device ↔ g.function.toNat < 8 ∧
      vendorOf c g.bus g.device 0 ≠ 0xFFFF ∧ (g.function = 0 ∨
        headerTypeOf c g.bus g.device 0 &&& 0x80 ≠ 0 ∧ vendor c g ≠ 0xFFFF) := by
    rw [mem_deviceFunctions]
    exact ⟨fun h => h.2.2, fun h => ⟨rfl, rfl, h⟩⟩
  unfold scanFunctions
  by_cases hsingle : headerTypeOf c 0 0 0 &&& 0x80 = 0
  · rw [if_pos hsingle, mem_passFunctions, hdevice]
    constructor
    · rintro ⟨-, h1, h2, h3⟩
      exact ⟨⟨h1, h2⟩, Or.inl hsingle, h3⟩
    · rintro ⟨⟨h1, h2⟩, -, h3⟩
      exact ⟨Nat.zero_le _, h1, h2, h3⟩
  · rw [if_neg hsingle, List.mem_flatMap]
    constructor
    · rintro ⟨f, hf, h⟩
      split at h
      · rename_i hpresent
        obtain ⟨hbus, h1, h2⟩ := mem_passFunctions.mp h
        obtain ⟨h3, h4⟩ := hdevice.mp h2
        exact ⟨⟨h1, h3⟩, Or.inr ⟨f, List.mem_range.mp hf, hpresent, hbus⟩, h4⟩
      · cases h
    · rintro ⟨⟨h1, h2⟩, hhost | ⟨f, hf, hpresent, hbus⟩, h3⟩
      · exact absurd hhost hsingle
      · refine ⟨f, List.mem_range.mpr hf, ?_⟩
        rw [if_pos hpresent]
        exact mem_passFunctions.mpr ⟨hbus, h1, hdevice.mpr ⟨h2, h3⟩⟩

/-! ## The scan is one loop -/

/-- The loop over the functions of a multi-function device. -/
theorem functionLoop_eq {c0 : ConfigSpace} {s : PciSystem} (h : SameOutside c0 s.config)
    {bus device : UInt8} (hd : device.toNat < 32) :
    (List.range' 1 (pciMaxFunctions - 1)).foldlM
        (fun s function =>
          if vendorOf s.config bus device (UInt8.ofNat function) ≠ 0xFFFF then
            pciCheckFunction s bus device (UInt8.ofNat function)
          else .ok s) s =
      ((List.range' 1 7).flatMap fun f =>
        if vendorOf c0 bus device (UInt8.ofNat f) ≠ 0xFFFF then [⟨bus, device, UInt8.ofNat f⟩]
        else []).foldlM check s := by
  have hvalid : ∀ f ∈ List.range' 1 7, FunctionAddress.Valid ⟨bus, device, UInt8.ofNat f⟩ := by
    intro f hf
    rw [List.mem_range'_1] at hf
    refine ⟨hd, ?_⟩
    show (UInt8.ofNat f).toNat < 8
    rw [toNat_ofNat_of_lt (by omega)]
    omega
  refine foldlM_flatMap_of_inv (fun s => SameOutside c0 s.config) (List.range' 1 7) ?_ ?_ s h
  · intro f hf g hg s s' hs hok
    split at hg
    · rw [List.mem_singleton.mp hg] at hok
      exact hs.check (hvalid f hf) hok
    · cases hg
  · intro f hf s hs
    have hv : vendorOf s.config bus device (UInt8.ofNat f) =
        vendorOf c0 bus device (UInt8.ofNat f) :=
      hs.vendor (g := ⟨bus, device, UInt8.ofNat f⟩) (hvalid f hf)
    rw [hv]
    split
    · exact (bind_pure (check s ⟨bus, device, UInt8.ofNat f⟩)).symm
    · rfl

theorem pciCheckDevice_eq {c0 : ConfigSpace} {s : PciSystem} (h : SameOutside c0 s.config)
    {bus device : UInt8} (hd : device.toNat < 32) :
    pciCheckDevice s bus device = (deviceFunctions c0 bus device).foldlM check s := by
  have hvalid : FunctionAddress.Valid ⟨bus, device, 0⟩ := ⟨hd, Nat.zero_lt_succ 7⟩
  have hv : vendorOf s.config bus device 0 = vendorOf c0 bus device 0 :=
    h.vendor (g := ⟨bus, device, 0⟩) hvalid
  unfold pciCheckDevice deviceFunctions
  rw [hv]
  by_cases h0 : vendorOf c0 bus device 0 = 0xFFFF
  · rw [if_pos h0, if_pos h0]
    rfl
  · rw [if_neg h0, if_neg h0, List.foldlM_cons]
    refine bind_congr_of_ok fun s1 hfirst => ?_
    have h1 : SameOutside c0 s1.config := h.check hvalid hfirst
    rw [h1.headerType hd]
    by_cases hmulti : headerTypeOf c0 bus device 0 &&& 0x80 ≠ 0
    · rw [if_pos hmulti, if_pos hmulti, functionLoop_eq h1 hd]
    · rw [if_neg hmulti, if_neg hmulti]
      rfl

/-- The addresses that the loops form are valid. -/
theorem valid_of_mem {c : ConfigSpace} {bus : UInt8} {device : Nat} (hd : device < 32)
    {g : FunctionAddress} (hg : g ∈ deviceFunctions c bus (UInt8.ofNat device)) : g.Valid := by
  obtain ⟨-, h2, h3, -⟩ := mem_deviceFunctions.mp hg
  refine ⟨?_, h3⟩
  rw [h2, toNat_ofNat_of_lt (by omega)]
  exact hd

theorem scanBuses_eq {c0 : ConfigSpace} {s : PciSystem} (h : SameOutside c0 s.config)
    (first : Nat) : scanBuses s first = (passFunctions c0 first).foldlM check s := by
  refine foldlM_flatMap_of_inv (fun s => SameOutside c0 s.config)
    (List.range' first (256 - first)) ?_ ?_ s h
  · intro bus _ g hg s s' hs hok
    obtain ⟨device, hdevice, hg⟩ := List.mem_flatMap.mp hg
    exact hs.check (valid_of_mem (List.mem_range.mp hdevice) hg) hok
  · intro bus _ s hs
    refine foldlM_flatMap_of_inv (fun s => SameOutside c0 s.config) (List.range 32) ?_ ?_ s hs
    · intro device hdevice g hg s s' hs hok
      exact hs.check (valid_of_mem (List.mem_range.mp hdevice) hg) hok
    · intro device hdevice s hs
      have hlt := List.mem_range.mp hdevice
      exact pciCheckDevice_eq hs (by rw [toNat_ofNat_of_lt (by omega)]; exact hlt)

theorem pciInit_eq (c0 : ConfigSpace) :
    pciInit (PciSystem.boot c0) = do
      let s ← (scanFunctions c0).foldlM check (PciSystem.boot c0)
      return { s with initialized := true } := by
  have hboot : SameOutside c0 (PciSystem.boot c0).config := fun _ _ => rfl
  show (do
      let s ← if headerTypeOf c0 0 0 0 &&& 0x80 = 0 then scanBuses (PciSystem.boot c0) 0 else _
      return { s with initialized := true }) = _
  unfold scanFunctions
  by_cases hsingle : headerTypeOf c0 0 0 0 &&& 0x80 = 0
  · rw [if_pos hsingle, if_pos hsingle, scanBuses_eq hboot]
  · rw [if_neg hsingle, if_neg hsingle]
    refine congrArg (· >>= _) (foldlM_flatMap_of_inv (fun s => SameOutside c0 s.config)
      (List.range 8) ?_ ?_ _ hboot)
    · intro f _ g hg s s' hs hok
      split at hg
      · obtain ⟨-, h1, h2⟩ := mem_passFunctions.mp hg
        exact hs.check ⟨h1, (mem_deviceFunctions.mp h2).2.2.1⟩ hok
      · cases hg
    · intro f hf s hs
      have hf8 := List.mem_range.mp hf
      have hv : vendorOf s.config 0 0 (UInt8.ofNat f) = vendorOf c0 0 0 (UInt8.ofNat f) :=
        hs.vendor (g := ⟨0, 0, UInt8.ofNat f⟩) ⟨Nat.zero_lt_succ 31, by
          show (UInt8.ofNat f).toNat < 8
          rw [toNat_ofNat_of_lt (by omega)]
          exact hf8⟩
      rw [hv]
      split
      · exact scanBuses_eq hs f
      · rfl

/-! ## The whole scan -/

/-- The functions in `done` are settled, and nothing else has changed. -/
structure Effect (c0 : ConfigSpace) (done : List FunctionAddress) (c : ConfigSpace) : Prop where
  hard : c.hard = c0.hard
  settled : ∀ g ∈ done, settle (barsFrom c0 g 0) = some (barsFrom c g 0)
  frame : ∀ a, (∀ g ∈ done, ∀ j < 6, a ≠ g.bar j) → c.reg a = c0.reg a

theorem Effect.nil (c0 : ConfigSpace) : Effect c0 [] c0 := ⟨rfl, by simp, fun _ _ => rfl⟩

/-- Settling a function now comes to the same as at the start. -/
theorem Effect.settle_eq {c0 c : ConfigSpace} {done : List FunctionAddress} (h : Effect c0 done c)
    (hdone : ∀ g ∈ done, g.Valid) {g : FunctionAddress} (hg : g.Valid) :
    settle (barsFrom c g 0) = settle (barsFrom c0 g 0) := by
  by_cases hmem : g ∈ done
  · rw [h.settled g hmem, settle_idem (h.settled g hmem)]
  · refine congrArg settle (barsFrom_congr h.hard fun j _ _ => h.frame _ fun g' hg' j' _ heq => ?_)
    exact hmem ((register_inj hg (hdone g' hg') heq).1 ▸ hg')

theorem Effect.settles {c0 c c' : ConfigSpace} {done : List FunctionAddress}
    (h : Effect c0 done c) (hdone : ∀ g ∈ done, g.Valid) {g : FunctionAddress} (hg : g.Valid)
    {l : List (UInt32 × UInt32)} (hl : settle (barsFrom c0 g 0) = some l)
    (hset : Settles g 0 c l c') : Effect c0 (g :: done) c' where
  hard := hset.hard.trans h.hard
  settled := by
    intro g' hg'
    by_cases heq : g' = g
    · rw [heq, hl, hset.bars]
    · have hmem : g' ∈ done := (List.mem_cons.mp hg').resolve_left heq
      rw [h.settled g' hmem]
      refine congrArg some (barsFrom_congr hset.hard fun j _ _ => ?_).symm
      exact hset.frame _ fun j' _ _ hbar => heq (register_inj (hdone g' hmem) hg hbar).1
  frame := fun a ha => (hset.frame a fun j _ hj => ha g List.mem_cons_self j hj).trans
    (h.frame a fun g' hg' => ha g' (List.mem_cons_of_mem _ hg'))

/-- A function that is done already may be done again. -/
theorem Effect.cons_of_mem {c0 c : ConfigSpace} {done : List FunctionAddress}
    (h : Effect c0 done c) {g : FunctionAddress} (hg : g ∈ done) : Effect c0 (g :: done) c where
  hard := h.hard
  settled := fun g' hg' => h.settled g' ((List.mem_cons.mp hg').elim (fun heq => heq ▸ hg) id)
  frame := fun a ha => h.frame a fun g' hg' => ha g' (List.mem_cons_of_mem _ hg')

theorem Effect.sameOutside {c0 c : ConfigSpace} {done : List FunctionAddress}
    (h : Effect c0 done c) (hdone : ∀ g ∈ done, g.Valid) : SameOutside c0 c :=
  fun a ha => h.frame a fun g hg => ha g (hdone g hg)

/-- One step of the scan. The limit on devices does not matter for a function that is done. -/
theorem Effect.check {c0 : ConfigSpace} {done : List FunctionAddress} {s : PciSystem}
    (h : Effect c0 done s.config) (hdone : ∀ g ∈ done, g.Valid) {g : FunctionAddress}
    (hg : g.Valid) (hv : vendor c0 g ≠ 0xFFFF) (hroom : s.devices.length < 65536 ∨ g ∈ done) :
    (settle (barsFrom c0 g 0) = none ∧ Drivers.check s g = .error (.outOfBounds 6)) ∨
      ∃ s', Drivers.check s g = .ok s' ∧ Effect c0 (g :: done) s'.config ∧
        s'.devices.length ≤ s.devices.length + 1 := by
  have hv' : vendor s.config g ≠ 0xFFFF := by
    rw [(h.sameOutside hdone).vendor hg]
    exact hv
  by_cases hlt : s.devices.length < 65536
  · have hcheck := check_of_present hg hv' hlt
    rw [h.settle_eq hdone hg] at hcheck
    cases hl : settle (barsFrom c0 g 0) with
    | none =>
      rw [hl] at hcheck
      exact Or.inl ⟨rfl, hcheck⟩
    | some l =>
      rw [hl] at hcheck
      obtain ⟨s', hok, hset, hlen⟩ := hcheck
      exact Or.inr ⟨s', hok, h.settles hdone hg hl hset, Nat.le_of_eq hlen⟩
  · exact Or.inr ⟨s, check_of_absent (Or.inr (Nat.not_lt.mp hlt)),
      h.cons_of_mem (hroom.resolve_left hlt), Nat.le_succ _⟩

/-- **A scan settles all functions it meets**, unless one of them cannot be settled. -/
theorem scan_spec {c0 : ConfigSpace} : ∀ (l done : List FunctionAddress) (s : PciSystem),
    Effect c0 done s.config → (∀ g ∈ done, g.Valid) →
    (∀ g ∈ l, g.Valid ∧ vendor c0 g ≠ 0xFFFF) →
    (s.devices.length + l.length ≤ 65536 ∨ ∀ g ∈ l, g ∈ done) →
      ((∃ g ∈ l, settle (barsFrom c0 g 0) = none) ∧ l.foldlM check s = .error (.outOfBounds 6)) ∨
        ∃ s', l.foldlM check s = .ok s' ∧ Effect c0 (l.reverse ++ done) s'.config := by
  intro l
  induction l with
  | nil =>
    intro done s h _ _ _
    exact Or.inr ⟨s, rfl, h⟩
  | cons g l ih =>
    intro done s h hdone hl hroom
    obtain ⟨hg, hv⟩ := hl g List.mem_cons_self
    have hroom' : s.devices.length < 65536 ∨ g ∈ done := by
      rcases hroom with hlen | hmem
      · rw [List.length_cons] at hlen
        exact Or.inl (by omega)
      · exact Or.inr (hmem g List.mem_cons_self)
    rw [List.foldlM_cons]
    rcases h.check hdone hg hv hroom' with ⟨hnone, he⟩ | ⟨s1, hok, h1, hlen1⟩
    · exact Or.inl ⟨⟨g, List.mem_cons_self, hnone⟩, by rw [he]; rfl⟩
    · rw [hok, List.reverse_cons, List.append_assoc]
      have hvalid : ∀ g' ∈ g :: done, g'.Valid := by
        intro g' hg'
        rcases List.mem_cons.mp hg' with rfl | hg'
        · exact hg
        · exact hdone g' hg'
      have hroom1 : s1.devices.length + l.length ≤ 65536 ∨ ∀ g' ∈ l, g' ∈ g :: done := by
        rcases hroom with hlen | hmem
        · rw [List.length_cons] at hlen
          exact Or.inl (by omega)
        · exact Or.inr fun g' hg' => List.mem_cons_of_mem _ (hmem g' (List.mem_cons_of_mem _ hg'))
      rcases ih (g :: done) s1 h1 hvalid (fun g' hg' => hl g' (List.mem_cons_of_mem _ hg')) hroom1
        with ⟨⟨g', hg', hnone⟩, hfail⟩ | hdone'
      · exact Or.inl ⟨⟨g', List.mem_cons_of_mem _ hg', hnone⟩, hfail⟩
      · exact Or.inr hdone'

/-! ## Room for all devices -/

theorem length_flatMap_le {α β : Type} {f : α → List β} {n : Nat} :
    ∀ l : List α, (∀ a ∈ l, (f a).length ≤ n) → (l.flatMap f).length ≤ l.length * n := by
  intro l
  induction l with
  | nil => intro _; exact Nat.zero_le _
  | cons a l ih =>
    intro h
    rw [List.flatMap_cons, List.length_append, List.length_cons, Nat.add_mul, Nat.one_mul,
      Nat.add_comm]
    exact Nat.add_le_add (ih fun b hb => h b (List.mem_cons_of_mem _ hb)) (h a List.mem_cons_self)

theorem length_deviceFunctions (c : ConfigSpace) (bus device : UInt8) :
    (deviceFunctions c bus device).length ≤ 8 := by
  unfold deviceFunctions
  split
  · exact Nat.zero_le 8
  · rw [List.length_cons]
    refine Nat.succ_le_succ ?_
    split
    · refine Nat.le_trans (length_flatMap_le (n := 1) _ fun f _ => ?_) (Nat.le_of_eq rfl)
      split
      · exact Nat.le_refl 1
      · exact Nat.zero_le 1
    · exact Nat.zero_le 7

theorem length_passFunctions (c : ConfigSpace) (first : Nat) :
    (passFunctions c first).length ≤ 65536 := by
  have hbus : ∀ bus : Nat, ((List.range 32).flatMap fun device =>
      deviceFunctions c (UInt8.ofNat bus) (UInt8.ofNat device)).length ≤ 256 :=
    fun bus => Nat.le_trans (length_flatMap_le (n := 8) _ fun _ _ => length_deviceFunctions c _ _)
      (Nat.le_of_eq rfl)
  refine Nat.le_trans (length_flatMap_le (n := 256) _ fun bus _ => hbus bus) ?_
  rw [List.length_range']
  omega

/-- Whatever a later pass over the buses finds, the first has found. -/
theorem scanFunctions_split (c : ConfigSpace) :
    ∃ first later, scanFunctions c = first ++ later ∧ first.length ≤ 65536 ∧
      ∀ g ∈ later, g ∈ first := by
  unfold scanFunctions
  split
  · exact ⟨_, [], (List.append_nil _).symm, length_passFunctions c 0, by simp⟩
  · have hsplit : ∀ fs : List Nat, fs.Pairwise (· < ·) →
        ∃ first later, (fs.flatMap fun f =>
            if vendorOf c 0 0 (UInt8.ofNat f) ≠ 0xFFFF then passFunctions c f else []) =
          first ++ later ∧ first.length ≤ 65536 ∧ ∀ g ∈ later, g ∈ first := by
      intro fs
      induction fs with
      | nil => exact fun _ => ⟨[], [], rfl, Nat.zero_le _, by simp⟩
      | cons f fs ih =>
        intro hfs
        rw [List.pairwise_cons] at hfs
        rw [List.flatMap_cons]
        by_cases hv : vendorOf c 0 0 (UInt8.ofNat f) ≠ 0xFFFF
        · rw [if_pos hv]
          refine ⟨_, _, rfl, length_passFunctions c f, fun g hg => ?_⟩
          obtain ⟨f', hf', hg⟩ := List.mem_flatMap.mp hg
          split at hg
          · obtain ⟨hbus, hrest⟩ := mem_passFunctions.mp hg
            exact mem_passFunctions.mpr ⟨Nat.le_trans (Nat.le_of_lt (hfs.1 f' hf')) hbus, hrest⟩
          · cases hg
        · rw [if_neg hv]
          exact ih hfs.2
    exact hsplit _ List.pairwise_lt_range

/-! ## Main results -/

theorem Scanned.present {c : ConfigSpace} {g : FunctionAddress} (h : Scanned c g) :
    vendor c g ≠ 0xFFFF := by
  obtain ⟨-, -, h0, hf | ⟨-, hv⟩⟩ := h
  · unfold vendor
    rw [hf]
    exact h0
  · exact hv

/-- The driver fails, or leaves all scanned functions settled and everything else alone. -/
theorem pciInit_spec (c : ConfigSpace) :
    ((∃ g, Scanned c g ∧ settle (barsFrom c g 0) = none) ∧
        pciInit (PciSystem.boot c) = .error (.outOfBounds 6)) ∨
      ∃ s done, pciInit (PciSystem.boot c) = .ok s ∧ Effect c done s.config ∧
        ∀ g, g ∈ done ↔ Scanned c g := by
  obtain ⟨first, later, hsplit, hlen, hlater⟩ := scanFunctions_split c
  have hmem : ∀ g, g ∈ first ∨ g ∈ later ↔ Scanned c g := by
    intro g
    rw [← List.mem_append, ← hsplit]
    exact mem_scanFunctions
  have hall : ∀ g, g ∈ first ∨ g ∈ later → g.Valid ∧ vendor c g ≠ 0xFFFF := by
    intro g hg
    have hscan := (hmem g).mp hg
    exact ⟨hscan.1, hscan.present⟩
  rw [pciInit_eq, hsplit, List.foldlM_append]
  rcases scan_spec first [] (PciSystem.boot c) (Effect.nil c) (by simp)
    (fun g hg => hall g (Or.inl hg)) (Or.inl (by simpa [PciSystem.boot] using hlen)) with
    ⟨⟨g, hg, hnone⟩, he⟩ | ⟨s1, hok1, h1⟩
  · exact Or.inl ⟨⟨g, (hmem g).mp (Or.inl hg), hnone⟩, by rw [he]; rfl⟩
  · rw [List.append_nil] at h1
    rcases scan_spec later first.reverse s1 h1
      (fun g hg => (hall g (Or.inl (List.mem_reverse.mp hg))).1) (fun g hg => hall g (Or.inr hg))
      (Or.inr fun g hg => List.mem_reverse.mpr (hlater g hg)) with
      ⟨⟨g, hg, hnone⟩, he⟩ | ⟨s2, hok2, h2⟩
    · exact Or.inl ⟨⟨g, (hmem g).mp (Or.inr hg), hnone⟩, by
        rw [hok1]
        show (later.foldlM check s1 >>= _) = _
        rw [he]
        rfl⟩
    · refine Or.inr ⟨{ s2 with initialized := true }, later.reverse ++ first.reverse, ?_, h2, ?_⟩
      · rw [hok1]
        show (later.foldlM check s1 >>= _) = _
        rw [hok2]
        rfl
      · intro g
        rw [List.mem_append, List.mem_reverse, List.mem_reverse, or_comm]
        exact hmem g

/-- **`pci_init` stays within the device record and leaves every configuration register as it was
exactly when** in each function it scans every 64-bit BAR is followed by another register, whose
writable bits agree with those of the BAR's lower half. -/
theorem pciInit_restores_iff (c : ConfigSpace) :
    (∃ s, pciInit (PciSystem.boot c) = .ok s ∧ s.config.reg = c.reg) ↔
      ∀ g, Scanned c g → BarsRestored (barsFrom c g 0) := by
  rcases pciInit_spec c with ⟨⟨g, hg, hnone⟩, he⟩ | ⟨s, done, hok, heff, hdone⟩
  · refine iff_of_false ?_ fun h => ?_
    · rintro ⟨s, hs, -⟩
      rw [he] at hs
      cases hs
    · have hself := (settle_eq_self_iff _).mpr (h g hg)
      rw [hnone] at hself
      cases hself
  · constructor
    · rintro ⟨s', hs', hreg⟩ g hg
      rw [hok] at hs'
      cases hs'
      have hset := heff.settled g ((hdone g).mpr hg)
      rw [barsFrom_congr (i := 0) heff.hard fun j _ _ => congrFun hreg _] at hset
      exact (settle_eq_self_iff _).mp hset
    · intro h
      refine ⟨s, hok, funext fun a => ?_⟩
      by_cases ha : ∀ g ∈ done, ∀ j < 6, a ≠ g.bar j
      · exact heff.frame a ha
      · -- the register is a BAR of a scanned function
        simp only [not_forall, not_not] at ha
        obtain ⟨g, hg, j, hj, rfl⟩ := ha
        have hset := heff.settled g hg
        rw [(settle_eq_self_iff _).mpr (h g ((hdone g).mp hg)), Option.some_inj] at hset
        have hmem : j ∈ List.range' 0 (6 - 0) := List.mem_range'_1.mpr ⟨Nat.zero_le j, by omega⟩
        exact (congrArg Prod.fst (List.map_inj_left.mp hset j hmem)).symm

/-- One function on the whole bus, with these BARs. -/
def oneFunction (bar hard : Nat → UInt32) : ConfigSpace where
  reg a :=
    if a = FunctionAddress.register ⟨0, 0, 0⟩ pciVendorId then 0x11111234
    else if a = FunctionAddress.register ⟨0, 0, 0⟩ pciHeaderType then 0
    else
      match (List.range 6).find? fun i => a = FunctionAddress.bar ⟨0, 0, 0⟩ i with
      | some i => bar i
      | none => 0xFFFFFFFF
  hard a :=
    match (List.range 6).find? fun i => a = FunctionAddress.bar ⟨0, 0, 0⟩ i with
    | some i => hard i
    | none => 0xFFFFFFFF

theorem scanned_oneFunction {bar hard : Nat → UInt32} {g : FunctionAddress} :
    Scanned (oneFunction bar hard) g ↔ g = ⟨0, 0, 0⟩ := by
  have h0 : FunctionAddress.Valid ⟨0, 0, 0⟩ := ⟨Nat.zero_lt_succ 31, Nat.zero_lt_succ 7⟩
  constructor
  · intro h
    by_contra hne
    have hother : ∀ o o', g.register o ≠ FunctionAddress.register ⟨0, 0, 0⟩ o' :=
      fun o o' heq => hne (register_inj h.1 h0 heq).1
    have hreg : (oneFunction bar hard).reg (g.register pciVendorId) = 0xFFFFFFFF := by
      have hfind : (List.range 6).find? (fun i => g.register pciVendorId =
          FunctionAddress.bar ⟨0, 0, 0⟩ i) = none := by
        rw [List.find?_eq_none]
        intro i _ heq
        exact hother _ _ (of_decide_eq_true heq)
      show (if _ then _ else _) = _
      rw [if_neg (hother _ _), if_neg (hother _ _), hfind]
    refine h.present ?_
    show (oneFunction bar hard).reg (g.register pciVendorId) &&& 0xFFFF = 0xFFFF
    rw [hreg]
    rfl
  · rintro rfl
    have hheader : (oneFunction bar hard).reg
        (FunctionAddress.register ⟨0, 0, 0⟩ pciHeaderType) = 0 := by
      have hne : FunctionAddress.register ⟨0, 0, 0⟩ pciHeaderType ≠
          FunctionAddress.register ⟨0, 0, 0⟩ pciVendorId := by decide
      simp only [oneFunction, if_neg hne, if_true]
    have hvendor : (oneFunction bar hard).reg
        (FunctionAddress.register ⟨0, 0, 0⟩ pciVendorId) = 0x11111234 := by
      simp only [oneFunction, if_true]
    refine ⟨h0, Or.inl ?_, ?_, Or.inl rfl⟩
    · show (((oneFunction bar hard).reg _ >>> 16) &&& 0xFF).toUInt8 &&& 0x80 = 0
      exact congrArg (fun r : UInt32 => ((r >>> 16) &&& 0xFF).toUInt8 &&& 0x80) hheader
    · show (oneFunction bar hard).reg _ &&& 0xFFFF ≠ 0xFFFF
      exact fun h => absurd ((congrArg (· &&& 0xFFFF) hvendor).symm.trans h) (by decide)

/-- A 64-bit BAR of 256 MB at 0x1E0000000. -/
def highBar : ConfigSpace :=
  oneFunction (fun i => [0xE0000004, 1].getD i 0) fun i => [0x0FFFFFFF, 0].getD i 0xFFFFFFFF

/-- A 64-bit BAR in the last position. -/
def lastBar : ConfigSpace :=
  oneFunction (fun i => if i = 5 then 0xE0000004 else 0) fun _ => 0x0FFFFFFF

/-- The upper half of a BAR gets the value of the lower one, and a BAR without an upper half is
looked for outside the record. -/
theorem upper_half_overwritten :
    (∃ s, pciInit (PciSystem.boot highBar) = .ok s ∧
      highBar.reg (FunctionAddress.bar ⟨0, 0, 0⟩ 1) = 1 ∧
      s.config.reg (FunctionAddress.bar ⟨0, 0, 0⟩ 1) = 0xE0000004) ∧
    pciInit (PciSystem.boot lastBar) = .error (.outOfBounds 6) := by
  have hhigh : settle (barsFrom highBar ⟨0, 0, 0⟩ 0) =
      some [(0xE0000004, 0x0FFFFFFF), (0xE0000004, 0), (0, 0xFFFFFFFF), (0, 0xFFFFFFFF),
        (0, 0xFFFFFFFF), (0, 0xFFFFFFFF)] := by decide
  have hlast : settle (barsFrom lastBar ⟨0, 0, 0⟩ 0) = none := by decide
  constructor
  · rcases pciInit_spec highBar with ⟨⟨g, hg, hnone⟩, -⟩ | ⟨s, done, hok, heff, hdone⟩
    · rw [scanned_oneFunction.mp hg, hhigh] at hnone
      cases hnone
    · have hset := heff.settled ⟨0, 0, 0⟩ ((hdone _).mpr (scanned_oneFunction.mpr rfl))
      rw [hhigh, Option.some_inj] at hset
      exact ⟨s, hok, by decide, (congrArg Prod.fst
        (congrArg (fun l => l.getD 1 (0, 0)) hset)).symm⟩
  · rcases pciInit_spec lastBar with ⟨-, hfail⟩ | ⟨s, done, -, heff, hdone⟩
    · exact hfail
    · have hset := heff.settled ⟨0, 0, 0⟩ ((hdone _).mpr (scanned_oneFunction.mpr rfl))
      rw [hlast] at hset
      cases hset

end MayaOs.Drivers
