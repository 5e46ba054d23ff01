import Mathlib.Data.List.Nodup
import Mathlib.Data.List.Perm.Subperm
import MayaOs.Properties.PciConfig

/-!
# The device array after the PCI scan

The scan is one loop over `scanFunctions`, and each function it meets gets a record as long as there
is room. Two things can go wrong with the array: the interrupt fields are cut from the other half of
their register, and with more than one host controller a bus can be scanned more than once, or not
at all.

* `scan_records` — the records that are stored
* `count_scanFunctions` — how often a function is met
* `lists_iff` — when the array is the list of the functions that are present
* `scan_wrong_twice` — one device with an interrupt line; two host controllers
-/

namespace MayaOs.Drivers

open MayaOs.Lib

/-! ## What the array should be -/

/-- What a record says about its function, apart from the BARs. -/
structure FunctionRecord where
  address : FunctionAddress
  vendorId : UInt16
  deviceId : UInt16
  classCode : UInt8
  subclass : UInt8
  progIf : UInt8
  revisionId : UInt8
  interruptLine : UInt8
  interruptPin : UInt8
  deriving Repr, DecidableEq

def PciDevice.record (dev : PciDevice) : FunctionRecord where
  address := ⟨dev.bus, dev.device, dev.function⟩
  vendorId := dev.vendorId
  deviceId := dev.deviceId
  classCode := dev.classCode
  subclass := dev.subclass
  progIf := dev.progIf
  revisionId := dev.revisionId
  interruptLine := dev.interruptLine
  interruptPin := dev.interruptPin

/-- The byte at `offset` of the configuration header. -/
def headerByte (c : ConfigSpace) (g : FunctionAddress) (offset : UInt8) : UInt8 :=
  (c.reg (g.register offset) >>> (8 * (offset &&& 3)).toUInt32).toUInt8

/-- The 16-bit field at `offset`. -/
def headerWord (c : ConfigSpace) (g : FunctionAddress) (offset : UInt8) : UInt16 :=
  (c.reg (g.register offset) >>> (8 * (offset &&& 3)).toUInt32).toUInt16

/-- The fields of the header. -/
def headerRecord (c : ConfigSpace) (g : FunctionAddress) : FunctionRecord where
  address := g
  vendorId := headerWord c g pciVendorId
  deviceId := headerWord c g pciDeviceId
  classCode := headerByte c g pciClass
  subclass := headerByte c g pciSubclass
  progIf := headerByte c g pciProgIf
  revisionId := headerByte c g pciRevisionId
  interruptLine := headerByte c g pciInterruptLine
  interruptPin := headerByte c g pciInterruptPin

/-- Function 0 is there, and it is this one, or this one is there and the device has more than one. -/
def Present (c : ConfigSpace) (g : FunctionAddress) : Prop :=
  g.Valid ∧ vendorOf c g.bus g.device 0 ≠ 0xFFFF ∧
    (g.function = 0 ∨ headerTypeOf c g.bus g.device 0 &&& 0x80 ≠ 0 ∧ vendor c g ≠ 0xFFFF)

instance (g : FunctionAddress) : Decidable g.Valid := inferInstanceAs (Decidable (_ ∧ _))

instance (c : ConfigSpace) (g : FunctionAddress) : Decidable (Present c g) :=
  inferInstanceAs (Decidable (_ ∧ _))

/-- Each function that is present has one record, with what its header says. -/
structure Lists (c : ConfigSpace) (devices : List PciDevice) : Prop where
  once : (devices.map fun dev => dev.record.address).Nodup
  complete : ∀ g, g ∈ devices.map (fun dev => dev.record.address) ↔ Present c g
  fields : ∀ dev ∈ devices, dev.record = headerRecord c dev.record.address

/-! ## The records -/

/-- The fields as `pci_check_function` cuts them out. -/
def storedRecord (c : ConfigSpace) (g : FunctionAddress) : FunctionRecord where
  address := g
  vendorId := (vendor c g).toUInt16
  deviceId := ((c.reg (g.register pciDeviceId) >>> 16) &&& 0xFFFF).toUInt16
  classCode := ((c.reg (g.register pciClass) >>> 24) &&& 0xFF).toUInt8
  subclass := ((c.reg (g.register pciSubclass) >>> 16) &&& 0xFF).toUInt8
  progIf := ((c.reg (g.register pciProgIf) >>> 8) &&& 0xFF).toUInt8
  revisionId := (c.reg (g.register pciRevisionId) &&& 0xFF).toUInt8
  interruptLine := ((c.reg (g.register pciInterruptLine) >>> 24) &&& 0xFF).toUInt8
  interruptPin := ((c.reg (g.register pciInterruptPin) >>> 16) &&& 0xFF).toUInt8

theorem toUInt8_and_ff (x : UInt32) : (x &&& 0xFF).toUInt8 = x.toUInt8 := by
  have hmask : x.toNat &&& 255 = x.toNat % 256 := Nat.and_two_pow_sub_one_eq_mod x.toNat 8
  apply UInt8.toNat_inj.mp
  rw [UInt32.toNat_toUInt8, UInt32.toNat_toUInt8, UInt32.toNat_and]
  show (x.toNat &&& 255) % 256 = x.toNat % 256
  rw [hmask, Nat.mod_mod]

theorem toUInt16_and_ffff (x : UInt32) : (x &&& 0xFFFF).toUInt16 = x.toUInt16 := by
  have hmask : x.toNat &&& 65535 = x.toNat % 65536 := Nat.and_two_pow_sub_one_eq_mod x.toNat 16
  apply UInt16.toNat_inj.mp
  rw [UInt32.toNat_toUInt16, UInt32.toNat_toUInt16, UInt32.toNat_and]
  show (x.toNat &&& 65535) % 65536 = x.toNat % 65536
  rw [hmask, Nat.mod_mod]

/-- The bytes 0x3F and 0x3E are taken for the interrupt line and the interrupt pin. -/
def InterruptBytes (c : ConfigSpace) (g : FunctionAddress) : Prop :=
  headerByte c g 0x3F = headerByte c g pciInterruptLine ∧
    headerByte c g 0x3E = headerByte c g pciInterruptPin

/-- **All fields but the two are right.** -/
theorem storedRecord_eq_iff (c : ConfigSpace) (g : FunctionAddress) :
    storedRecord c g = headerRecord c g ↔ InterruptBytes c g := by
  have hstored : storedRecord c g = { headerRecord c g with
      interruptLine := headerByte c g 0x3F, interruptPin := headerByte c g 0x3E } := by
    have hshift : ∀ x : UInt32, x >>> (8 * ((0 : UInt8) &&& 3)).toUInt32 = x := fun x =>
      UInt32.shiftRight_zero
    unfold storedRecord headerRecord vendor vendorOf
    simp only [toUInt8_and_ff, toUInt16_and_ffff]
    have hvendor : headerWord c g pciVendorId = (c.reg (g.register pciVendorId)).toUInt16 :=
      congrArg UInt32.toUInt16 (hshift _)
    have hrevision : headerByte c g pciRevisionId = (c.reg (g.register pciRevisionId)).toUInt8 :=
      congrArg UInt32.toUInt8 (hshift _)
    rw [hvendor, hrevision]
    rfl
  rw [hstored]
  unfold InterruptBytes headerRecord
  simp

/-- The BAR loop leaves the other fields alone. -/
theorem barLoop_record {bus device function : UInt8} : ∀ (n i : Nat), 6 - i = n →
    ∀ (c c' : ConfigSpace) (dev dev' : PciDevice),
      barLoop bus device function i c dev = .ok (c', dev') → dev'.record = dev.record := by
  intro n
  induction n using Nat.strong_induction_on with
  | _ n ih =>
    rintro i rfl c c' dev dev' h
    by_cases hi : i < 6
    · rw [barLoop, dif_pos hi] at h
      simp only [storeBar_of_lt _ hi, ok_bind] at h
      split at h
      · exact (ih (6 - (i + 1)) (by omega) (i + 1) rfl _ _ _ _ h).trans rfl
      · split at h
        · by_cases hi' : i + 1 < 6
          · simp only [storeBar_of_lt _ hi', ok_bind] at h
            exact (ih (6 - (i + 2)) (by omega) (i + 2) rfl _ _ _ _ h).trans rfl
          · -- there is no register for the upper half
            simp only [storeBar, dif_neg hi'] at h
            cases h
        · exact (ih (6 - (i + 1)) (by omega) (i + 1) rfl _ _ _ _ h).trans rfl
    · rw [barLoop, dif_neg hi] at h
      cases h
      rfl

/-- What is stored for a function. -/
theorem check_record {s s' : PciSystem} {g : FunctionAddress} (hv : vendor s.config g ≠ 0xFFFF)
    (hroom : s.devices.length < 65536) (h : check s g = .ok s') :
    ∃ dev, s'.devices = s.devices ++ [dev] ∧ dev.record = storedRecord s.config g := by
  have hroom' : ¬ s.devices.length ≥ pciMaxBuses * pciMaxDevices * pciMaxFunctions :=
    Nat.not_le.mpr hroom
  unfold check pciCheckFunction at h
  simp only [if_neg (show ¬ vendorOf s.config g.bus g.device g.function = 0xFFFF from hv),
    if_neg hroom'] at h
  generalize hdev : PciDevice.mk .. = dev at h
  cases hloop : barLoop g.bus g.device g.function 0 s.config dev with
  | error e =>
    rw [hloop] at h
    cases h
  | ok r =>
    obtain ⟨c', dev'⟩ := r
    rw [hloop] at h
    cases h
    refine ⟨dev', rfl, ?_⟩
    rw [barLoop_record 6 0 rfl _ _ _ _ hloop, ← hdev]
    rfl

theorem SameOutside.storedRecord {c0 c : ConfigSpace} (h : SameOutside c0 c) {g : FunctionAddress}
    (hg : g.Valid) : Drivers.storedRecord c g = Drivers.storedRecord c0 g := by
  unfold Drivers.storedRecord
  rw [h.vendor hg, h.register hg (o := pciDeviceId) (by decide),
    h.register hg (o := pciClass) (by decide), h.register hg (o := pciSubclass) (by decide),
    h.register hg (o := pciProgIf) (by decide), h.register hg (o := pciRevisionId) (by decide),
    h.register hg (o := pciInterruptLine) (by decide),
    h.register hg (o := pciInterruptPin) (by decide)]

/-- **Each function that is met gets a record**, until the array is full. -/
theorem scan_records {c0 : ConfigSpace} : ∀ (l : List FunctionAddress) (s s' : PciSystem),
    SameOutside c0 s.config → s.devices.length ≤ 65536 →
    (∀ g ∈ l, g.Valid ∧ vendor c0 g ≠ 0xFFFF) → l.foldlM check s = .ok s' →
      s'.devices.map PciDevice.record =
        (s.devices.map PciDevice.record ++ l.map (storedRecord c0)).take 65536 := by
  intro l
  induction l with
  | nil =>
    intro s s' _ hlen _ h
    cases h
    rw [List.map_nil, List.append_nil, List.take_of_length_le (by rw [List.length_map]; exact hlen)]
  | cons g l ih =>
    intro s s' hsame hlen hl h
    obtain ⟨hg, hv⟩ := hl g List.mem_cons_self
    have hrest : ∀ g' ∈ l, g'.Valid ∧ vendor c0 g' ≠ 0xFFFF :=
      fun g' hg' => hl g' (List.mem_cons_of_mem _ hg')
    rw [List.foldlM_cons] at h
    by_cases hroom : s.devices.length < 65536
    · cases hcheck : check s g with
      | error e =>
        rw [hcheck] at h
        cases h
      | ok s₁ =>
        rw [hcheck] at h
        obtain ⟨dev, hdevices, hrecord⟩ :=
          check_record (by rw [hsame.vendor hg]; exact hv) hroom hcheck
        have hlen₁ : s₁.devices.length ≤ 65536 := by
          rw [hdevices, List.length_append, List.length_singleton]
          omega
        rw [ih s₁ s' (hsame.check hg hcheck) hlen₁ hrest h, hdevices, List.map_append,
          List.map_singleton, hrecord, hsame.storedRecord hg, List.map_cons, List.append_assoc]
        rfl
    · -- full
      have hfull : (s.devices.map PciDevice.record).length = 65536 := by
        rw [List.length_map]
        omega
      rw [check_of_absent (Or.inr (Nat.not_lt.mp hroom))] at h
      rw [ih s s' hsame hlen hrest h, List.take_left' hfull, List.take_left' hfull]

/-! ## How often a function is met -/

theorem nodup_deviceFunctions (c : ConfigSpace) (bus device : UInt8) :
    (deviceFunctions c bus device).Nodup := by
  -- the other functions have different numbers, and none of them is 0
  have hothers : ((List.range' 1 7).flatMap fun f =>
      if vendorOf c bus device (UInt8.ofNat f) ≠ 0xFFFF then
        [(⟨bus, device, UInt8.ofNat f⟩ : FunctionAddress)]
      else []).Nodup := by
    refine List.nodup_flatMap.mpr ⟨fun f _ => ?_, (List.pairwise_lt_range' ..).imp_of_mem ?_⟩
    · split
      · exact List.nodup_singleton _
      · exact List.nodup_nil
    · intro a b ha hb hlt g hga hgb
      rw [List.mem_range'_1] at ha hb
      have hnum : ∀ n < 256, g ∈ (if vendorOf c bus device (UInt8.ofNat n) ≠ 0xFFFF then
          [(⟨bus, device, UInt8.ofNat n⟩ : FunctionAddress)] else []) → g.function.toNat = n := by
        intro n hn hg
        split at hg
        · rw [List.mem_singleton.mp hg]
          exact toNat_ofNat_of_lt hn
        · cases hg
      exact absurd ((hnum a (by omega) hga).symm.trans (hnum b (by omega) hgb)) (Nat.ne_of_lt hlt)
  unfold deviceFunctions
  split
  · exact List.nodup_nil
  · split
    · refine List.nodup_cons.mpr ⟨fun hmem => ?_, hothers⟩
      obtain ⟨f, hf, hg⟩ := List.mem_flatMap.mp hmem
      rw [List.mem_range'_1] at hf
      split at hg
      · have hzero := congrArg (fun g => g.function.toNat) (List.mem_singleton.mp hg)
        have hzero' : 0 = (UInt8.ofNat f).toNat := hzero
        rw [toNat_ofNat_of_lt (by omega)] at hzero'
        omega
      · cases hg
    · exact List.nodup_singleton _

theorem mem_passFunctions_iff {c : ConfigSpace} {first : Nat} {g : FunctionAddress} :
    g ∈ passFunctions c first ↔ first ≤ g.bus.toNat ∧ Present c g := by
  rw [mem_passFunctions, mem_deviceFunctions]
  constructor
  · rintro ⟨hbus, hd, -, -, hf, h0, hpresent⟩
    exact ⟨hbus, ⟨hd, hf⟩, h0, hpresent⟩
  · rintro ⟨hbus, ⟨hd, hf⟩, h0, hpresent⟩
    exact ⟨hbus, hd, rfl, rfl, hf, h0, hpresent⟩

/-- One pass over the buses meets no function twice. -/
theorem nodup_passFunctions (c : ConfigSpace) (first : Nat) : (passFunctions c first).Nodup := by
  refine List.nodup_flatMap.mpr ⟨fun bus hbus => List.nodup_flatMap.mpr
    ⟨fun device _ => nodup_deviceFunctions c _ _, List.pairwise_lt_range.imp_of_mem ?_⟩,
    (List.pairwise_lt_range' ..).imp_of_mem ?_⟩
  · intro a b ha hb hlt g hga hgb
    rw [List.mem_range] at ha hb
    have hdevice := (mem_deviceFunctions.mp hga).2.1.symm.trans (mem_deviceFunctions.mp hgb).2.1
    have hnum := congrArg UInt8.toNat hdevice
    rw [toNat_ofNat_of_lt (by omega), toNat_ofNat_of_lt (by omega)] at hnum
    omega
  · intro a b ha hb hlt g hga hgb
    rw [List.mem_range'_1] at ha hb
    obtain ⟨_, -, hga⟩ := List.mem_flatMap.mp hga
    obtain ⟨_, -, hgb⟩ := List.mem_flatMap.mp hgb
    have hnum := congrArg UInt8.toNat
      ((mem_deviceFunctions.mp hga).1.symm.trans (mem_deviceFunctions.mp hgb).1)
    rw [toNat_ofNat_of_lt (by omega), toNat_ofNat_of_lt (by omega)] at hnum
    omega

theorem count_passFunctions (c : ConfigSpace) (first : Nat) (g : FunctionAddress) :
    (passFunctions c first).count g = if first ≤ g.bus.toNat ∧ Present c g then 1 else 0 := by
  split
  · next h =>
    exact List.count_eq_one_of_mem (nodup_passFunctions c first) (mem_passFunctions_iff.mpr h)
  · next h => exact List.count_eq_zero_of_not_mem fun hmem => h (mem_passFunctions_iff.mp hmem)

/-- How often the bus is scanned: with one host controller once; else for each function of 0:0 that
answers, from the bus with its number on. -/
def passes (c : ConfigSpace) (bus : UInt8) : Nat :=
  if headerTypeOf c 0 0 0 &&& 0x80 = 0 then 1
  else ((List.range 8).filter fun f =>
    vendorOf c 0 0 (UInt8.ofNat f) ≠ 0xFFFF ∧ f ≤ bus.toNat).length

/-- **A function that is present is met as often as its bus is scanned.** -/
theorem count_scanFunctions (c : ConfigSpace) (g : FunctionAddress) :
    (scanFunctions c).count g = if Present c g then passes c g.bus else 0 := by
  have hfold : ∀ fs : List Nat, (fs.flatMap fun f =>
      if vendorOf c 0 0 (UInt8.ofNat f) ≠ 0xFFFF then passFunctions c f else []).count g =
        if Present c g then (fs.filter fun f =>
          vendorOf c 0 0 (UInt8.ofNat f) ≠ 0xFFFF ∧ f ≤ g.bus.toNat).length else 0 := by
    intro fs
    induction fs with
    | nil => simp
    | cons f fs ih =>
      rw [List.flatMap_cons, List.count_append, ih, List.filter_cons]
      by_cases hv : vendorOf c 0 0 (UInt8.ofNat f) ≠ 0xFFFF
      · rw [if_pos hv, count_passFunctions]
        by_cases hpresent : Present c g
        · by_cases hbus : f ≤ g.bus.toNat
          · simp [hv, hpresent, hbus, Nat.add_comm]
          · simp [hpresent, hbus]
        · simp [hpresent]
      · rw [if_neg hv]
        simp [hv]
  unfold scanFunctions passes
  split
  · rw [count_passFunctions]
    simp
  · exact hfold (List.range 8)

/-! ## The first 65536 of them -/

/-- Every function is present. -/
def fullSpace : ConfigSpace where
  reg := fun _ => 0x00800000
  hard := fun _ => 0

theorem vendorOf_fullSpace (bus device function : UInt8) :
    vendorOf fullSpace bus device function ≠ 0xFFFF := by
  show ¬ ((0x00800000 : UInt32) &&& 0xFFFF) = 0xFFFF
  decide

theorem headerTypeOf_fullSpace (bus device function : UInt8) :
    headerTypeOf fullSpace bus device function &&& 0x80 ≠ 0 := by
  show ¬ ((((0x00800000 : UInt32) >>> 16) &&& 0xFF).toUInt8 &&& 0x80) = 0
  decide

theorem present_fullSpace {g : FunctionAddress} : Present fullSpace g ↔ g.Valid :=
  ⟨fun h => h.1, fun h => ⟨h, vendorOf_fullSpace _ _ _,
    Or.inr ⟨headerTypeOf_fullSpace _ _ _, vendorOf_fullSpace _ _ _⟩⟩⟩

theorem length_flatMap_eq {α β : Type} {f : α → List β} {n : Nat} :
    ∀ l : List α, (∀ a ∈ l, (f a).length = n) → (l.flatMap f).length = l.length * n := by
  intro l
  induction l with
  | nil => intro _; exact (Nat.zero_mul n).symm
  | cons a l ih =>
    intro h
    rw [List.flatMap_cons, List.length_append, List.length_cons, Nat.add_mul, Nat.one_mul,
      h a List.mem_cons_self, ih fun b hb => h b (List.mem_cons_of_mem _ hb), Nat.add_comm]

theorem length_fullSpace : (passFunctions fullSpace 0).length = 65536 := by
  have hdevice : ∀ bus device, (deviceFunctions fullSpace bus device).length = 8 := by
    intro bus device
    unfold deviceFunctions
    rw [if_neg (vendorOf_fullSpace _ _ _), if_pos (headerTypeOf_fullSpace _ _ _), List.length_cons,
      length_flatMap_eq (n := 1) _ fun f _ => by rw [if_pos (vendorOf_fullSpace _ _ _)]; rfl]
    rfl
  unfold passFunctions
  rw [length_flatMap_eq (n := 256) _ fun bus _ => ?_, List.length_range']
  rw [length_flatMap_eq (n := 8) _ fun device _ => hdevice _ _, List.length_range]

/-- Every bus with a function that is present is scanned once; or all functions are present, so that
the array is full before a bus is scanned again. -/
def ScansOnce (c : ConfigSpace) : Prop :=
  (∀ g, Present c g → passes c g.bus = 1) ∨ ∀ g, g.Valid → Present c g

theorem mem_scanFunctions_present {c : ConfigSpace} {g : FunctionAddress}
    (h : g ∈ scanFunctions c) : Present c g := by
  obtain ⟨hg, -, hrest⟩ := mem_scanFunctions.mp h
  exact ⟨hg, hrest⟩

theorem mem_fullSpace {g : FunctionAddress} : g ∈ passFunctions fullSpace 0 ↔ g.Valid := by
  rw [mem_passFunctions_iff, present_fullSpace]
  exact and_iff_right (Nat.zero_le _)

/-- There are not more functions than the array has cells. -/
theorem length_le_of_valid {l : List FunctionAddress} (hnodup : l.Nodup) (h : ∀ g ∈ l, g.Valid) :
    l.length ≤ 65536 := by
  rw [← length_fullSpace]
  exact (List.subperm_of_subset hnodup fun g hg => mem_fullSpace.mpr (h g hg)).length_le

/-- One function less leaves a cell free. -/
theorem length_lt_of_missing {l : List FunctionAddress} (hnodup : l.Nodup)
    (h : ∀ g ∈ l, g.Valid) {g₀ : FunctionAddress} (hvalid : g₀.Valid) (hmissing : g₀ ∉ l) :
    l.length < 65536 := by
  refine length_le_of_valid (List.nodup_cons.mpr ⟨hmissing, hnodup⟩) fun g hg => ?_
  rcases List.mem_cons.mp hg with rfl | hg
  · exact hvalid
  · exact h g hg

theorem scansOnce_of_take {c : ConfigSpace} (hnodup : ((scanFunctions c).take 65536).Nodup)
    (hmem : ∀ g, g ∈ (scanFunctions c).take 65536 ↔ Present c g) : ScansOnce c := by
  by_cases hall : ∀ g, g.Valid → Present c g
  · exact Or.inr hall
  · -- a function is missing, so that all that are met fit into the array
    left
    simp only [not_forall] at hall
    obtain ⟨g₀, hvalid, habsent⟩ := hall
    have hlt := length_lt_of_missing hnodup (fun g hg => ((hmem g).mp hg).1) hvalid
      fun hg => habsent ((hmem g₀).mp hg)
    rw [List.length_take] at hlt
    rw [List.take_of_length_le (by omega)] at hnodup hmem
    intro g hpresent
    have hcount := count_scanFunctions c g
    rw [if_pos hpresent, List.count_eq_one_of_mem hnodup ((hmem g).mpr hpresent)] at hcount
    exact hcount.symm

theorem take_of_passes_eq_one {c : ConfigSpace} (honce : ∀ g, Present c g → passes c g.bus = 1) :
    ((scanFunctions c).take 65536).Nodup ∧
      ∀ g, g ∈ (scanFunctions c).take 65536 ↔ Present c g := by
  have hcount : ∀ g, (scanFunctions c).count g = if Present c g then 1 else 0 := by
    intro g
    rw [count_scanFunctions]
    by_cases hpresent : Present c g
    · rw [if_pos hpresent, if_pos hpresent, honce g hpresent]
    · rw [if_neg hpresent, if_neg hpresent]
  have hnodup : (scanFunctions c).Nodup := by
    rw [List.nodup_iff_count_le_one]
    intro g
    rw [hcount]
    split <;> omega
  have hle := length_le_of_valid hnodup fun g hg => (mem_scanFunctions_present hg).1
  rw [List.take_of_length_le hle]
  refine ⟨hnodup, fun g => ⟨mem_scanFunctions_present, fun hpresent => ?_⟩⟩
  rw [← List.count_pos_iff, hcount, if_pos hpresent]
  exact Nat.one_pos

/-- With all functions present, the pass from bus 0 on fills the array. -/
theorem take_of_allPresent {c : ConfigSpace} (hall : ∀ g, g.Valid → Present c g) :
    (scanFunctions c).take 65536 = passFunctions c 0 := by
  have hfirst : ∃ later, scanFunctions c = passFunctions c 0 ++ later := by
    unfold scanFunctions
    split
    · exact ⟨[], (List.append_nil _).symm⟩
    · have h0 : vendorOf c 0 0 (UInt8.ofNat 0) ≠ 0xFFFF :=
        (hall ⟨0, 0, 0⟩ ⟨Nat.zero_lt_succ 31, Nat.zero_lt_succ 7⟩).2.1
      have hrange : List.range 8 = 0 :: List.range' 1 7 := rfl
      rw [hrange, List.flatMap_cons, if_pos h0]
      exact ⟨_, rfl⟩
  have hlen : (passFunctions c 0).length = 65536 := by
    refine Nat.le_antisymm (length_passFunctions c 0) ?_
    rw [← length_fullSpace]
    refine (List.subperm_of_subset (nodup_passFunctions fullSpace 0) fun g hg => ?_).length_le
    exact mem_passFunctions_iff.mpr ⟨Nat.zero_le _, hall g (mem_fullSpace.mp hg)⟩
  obtain ⟨later, hsplit⟩ := hfirst
  rw [hsplit, List.take_left' hlen]

/-- **What fits into the array is each present function once iff the buses are scanned once.** -/
theorem take_scanFunctions_iff (c : ConfigSpace) :
    (((scanFunctions c).take 65536).Nodup ∧
      ∀ g, g ∈ (scanFunctions c).take 65536 ↔ Present c g) ↔ ScansOnce c := by
  constructor
  · rintro ⟨hnodup, hmem⟩
    exact scansOnce_of_take hnodup hmem
  · rintro (honce | hall)
    · exact take_of_passes_eq_one honce
    · rw [take_of_allPresent hall]
      refine ⟨nodup_passFunctions c 0, fun g => ?_⟩
      rw [mem_passFunctions_iff]
      exact and_iff_right (Nat.zero_le _)

/-! ## Main result -/

/-- The records that `pci_init` leaves. -/
theorem pciInit_records {c : ConfigSpace} {s : PciSystem} (h : pciInit (PciSystem.boot c) = .ok s) :
    s.devices.map PciDevice.record = ((scanFunctions c).take 65536).map (storedRecord c) := by
  rw [pciInit_eq] at h
  cases hscan : (scanFunctions c).foldlM check (PciSystem.boot c) with
  | error e =>
    rw [hscan] at h
    cases h
  | ok s₁ =>
    rw [hscan] at h
    cases h
    have hl : ∀ g ∈ scanFunctions c, g.Valid ∧ vendor c g ≠ 0xFFFF := by
      intro g hg
      have hscanned := mem_scanFunctions.mp hg
      exact ⟨hscanned.1, hscanned.present⟩
    rw [scan_records (scanFunctions c) (PciSystem.boot c) s₁ (fun _ _ => rfl) (Nat.zero_le _) hl
      hscan, List.map_take]
    rfl

theorem lists_iff_of_ok {c : ConfigSpace} {s : PciSystem} (h : pciInit (PciSystem.boot c) = .ok s) :
    Lists c s.devices ↔ (∀ g, Present c g → InterruptBytes c g) ∧ ScansOnce c := by
  have hrecords := pciInit_records h
  have haddresses : (s.devices.map fun dev => dev.record.address) = (scanFunctions c).take 65536 := by
    have hmap := congrArg (List.map FunctionRecord.address) hrecords
    rw [List.map_map, List.map_map] at hmap
    exact hmap.trans (List.map_id _)
  have hfields : (∀ dev ∈ s.devices, dev.record = headerRecord c dev.record.address) ↔
      ∀ g ∈ (scanFunctions c).take 65536, InterruptBytes c g := by
    have hall : (∀ r ∈ s.devices.map PciDevice.record, r = headerRecord c r.address) ↔
        ∀ g ∈ (scanFunctions c).take 65536, storedRecord c g = headerRecord c g := by
      rw [hrecords, List.forall_mem_map]
      rfl
    rw [List.forall_mem_map] at hall
    rw [hall]
    exact forall₂_congr fun g _ => storedRecord_eq_iff c g
  rw [← take_scanFunctions_iff]
  constructor
  · intro hlists
    have hcomplete := hlists.complete
    have honce := hlists.once
    rw [haddresses] at hcomplete honce
    exact ⟨fun g hg => hfields.mp hlists.fields g ((hcomplete g).mpr hg), honce, hcomplete⟩
  · rintro ⟨hbytes, honce, hcomplete⟩
    refine ⟨by rw [haddresses]; exact honce, by rw [haddresses]; exact hcomplete, ?_⟩
    exact hfields.mpr fun g hg => hbytes g ((hcomplete g).mp hg)

/--
**When the array is the list of the functions that are present.**

Each of them has no 64-bit BAR in the last position, and the bytes at 0x3E and 0x3F of its header
are those at 0x3D and 0x3C; and each bus that has one is scanned once.
-/
theorem lists_iff (c : ConfigSpace) :
    (∃ s, pciInit (PciSystem.boot c) = .ok s ∧ Lists c s.devices) ↔
      (∀ g, Present c g → settle (barsFrom c g 0) ≠ none) ∧
      (∀ g, Present c g → InterruptBytes c g) ∧ ScansOnce c := by
  rcases pciInit_spec c with ⟨⟨g, hg, hnone⟩, he⟩ | ⟨s, done, hok, heff, hdone⟩
  · refine iff_of_false ?_ fun h => ?_
    · rintro ⟨s, hs, -⟩
      rw [he] at hs
      cases hs
    · exact h.1 g (mem_scanFunctions_present (mem_scanFunctions.mpr hg)) hnone
  · constructor
    · rintro ⟨s', hs', hlists⟩
      rw [hok] at hs'
      cases hs'
      obtain ⟨hbytes, honce⟩ := (lists_iff_of_ok hok).mp hlists
      refine ⟨fun g hg => ?_, hbytes, honce⟩
      have hmet := ((take_scanFunctions_iff c).mpr honce).2 g |>.mpr hg
      have hscanned := mem_scanFunctions.mp (List.mem_of_mem_take hmet)
      rw [heff.settled g ((hdone g).mpr hscanned)]
      exact Option.some_ne_none _
    · rintro ⟨-, hbytes, honce⟩
      exact ⟨s, hok, (lists_iff_of_ok hok).mpr ⟨hbytes, honce⟩⟩

/-! ## Two machines -/

/-- Configuration space with these registers; all others read as ones. -/
def spaceOf (regs : List (FunctionAddress × UInt8 × UInt32)) : ConfigSpace where
  reg a :=
    match regs.find? fun r => a = r.1.register r.2.1 with
    | some r => r.2.2
    | none => 0xFFFFFFFF
  hard _ := 0xFFFFFFFF

/-- If none of the registers is a BAR, all BARs are of the I/O kind. -/
theorem settle_spaceOf {regs : List (FunctionAddress × UInt8 × UInt32)}
    (hregs : ∀ r ∈ regs, r.1.Valid ∧ ∀ j < 6, r.2.1 &&& 0xFC ≠ barOffset j &&& 0xFC)
    {g : FunctionAddress} (hg : g.Valid) : settle (barsFrom (spaceOf regs) g 0) ≠ none := by
  have hbar : ∀ j < 6, (spaceOf regs).reg (g.bar j) = 0xFFFFFFFF := by
    intro j hj
    have hfind : (regs.find? fun r => g.bar j = r.1.register r.2.1) = none := by
      rw [List.find?_eq_none]
      intro r hr heq
      exact (hregs r hr).2 j hj (register_inj hg (hregs r hr).1 (of_decide_eq_true heq)).2.symm
    show (match regs.find? fun r => g.bar j = r.1.register r.2.1 with
      | some r => r.2.2 | none => 0xFFFFFFFF) = _
    rw [hfind]
  have hbars : barsFrom (spaceOf regs) g 0 = List.replicate 6 (0xFFFFFFFF, 0xFFFFFFFF) := by
    refine List.eq_replicate_iff.mpr ⟨by rw [barsFrom, List.length_map, List.length_range'], ?_⟩
    intro b hb
    obtain ⟨j, hj, rfl⟩ := List.mem_map.mp hb
    rw [hbar j (List.mem_range'_1.mp hj).2]
    rfl
  rw [hbars]
  decide

theorem pciInit_spaceOf {regs : List (FunctionAddress × UInt8 × UInt32)}
    (hregs : ∀ r ∈ regs, r.1.Valid ∧ ∀ j < 6, r.2.1 &&& 0xFC ≠ barOffset j &&& 0xFC) :
    ∃ s, pciInit (PciSystem.boot (spaceOf regs)) = .ok s := by
  rcases pciInit_spec (spaceOf regs) with ⟨⟨g, hg, hnone⟩, -⟩ | ⟨s, -, hok, -⟩
  · exact absurd hnone (settle_spaceOf hregs hg.1)
  · exact ⟨s, hok⟩

/-- One function, with interrupt line 10 and interrupt pin 1. -/
def irqDevice : List (FunctionAddress × UInt8 × UInt32) :=
  [(⟨0, 0, 0⟩, pciVendorId, 0x100E8086), (⟨0, 0, 0⟩, pciHeaderType, 0),
    (⟨0, 0, 0⟩, pciInterruptLine, 0x0000010A)]

/-- Two host controllers, and one device on the second bus. -/
def twoHosts : List (FunctionAddress × UInt8 × UInt32) :=
  [(⟨0, 0, 0⟩, pciVendorId, 0x12378086), (⟨0, 0, 0⟩, pciHeaderType, 0x00800000),
    (⟨0, 0, 1⟩, pciVendorId, 0x12378086), (⟨1, 0, 0⟩, pciVendorId, 0x100E8086),
    (⟨1, 0, 0⟩, pciHeaderType, 0)]

/-- **The interrupt fields of the one machine are wrong; the other one gets a device twice.** -/
theorem scan_wrong_twice :
    (∃ s, pciInit (PciSystem.boot (spaceOf irqDevice)) = .ok s ∧
      ¬ Lists (spaceOf irqDevice) s.devices) ∧
    (∃ s, pciInit (PciSystem.boot (spaceOf twoHosts)) = .ok s ∧
      ¬ Lists (spaceOf twoHosts) s.devices) := by
  constructor
  · obtain ⟨s, hok⟩ := pciInit_spaceOf (show ∀ r ∈ irqDevice, _ by decide)
    refine ⟨s, hok, fun hlists => ?_⟩
    have hbytes := ((lists_iff_of_ok hok).mp hlists).1 ⟨0, 0, 0⟩ (by decide)
    unfold InterruptBytes at hbytes
    exact absurd hbytes (by decide)
  · obtain ⟨s, hok⟩ := pciInit_spaceOf (show ∀ r ∈ twoHosts, _ by decide)
    refine ⟨s, hok, fun hlists => ?_⟩
    rcases ((lists_iff_of_ok hok).mp hlists).2 with honce | hall
    · exact absurd (honce ⟨1, 0, 0⟩ (by decide)) (by decide)
    · exact absurd (hall ⟨5, 0, 0⟩ (by decide)) (by decide)

end MayaOs.Drivers
