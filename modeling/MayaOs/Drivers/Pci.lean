import MayaOs.Lib.Bytes
import Mathlib.Logic.Function.Basic

/-!
# The PCI bus driver (`drivers/pci.c`)

Configuration space is what the data port shows for each value of the address port. A write leaves
the bits of a register alone that are hard-wired.

Left out: `pci_enable_bus_mastering`, and of the functions that read the device array all but
`pci_get_bar_address`.
-/

namespace MayaOs.Drivers

open MayaOs.Lib

/-! ## Configuration space -/

/-- The value of each register, and which of its bits are hard-wired. -/
structure ConfigSpace where
  reg : UInt32 → UInt32
  hard : UInt32 → UInt32

/-- The word for the address port. -/
def configAddress (bus device function offset : UInt8) : UInt32 :=
  (bus.toUInt32 <<< 16) ||| (device.toUInt32 <<< 11) ||| (function.toUInt32 <<< 8) |||
    (offset &&& 0xFC).toUInt32 ||| 0x80000000

def pciReadConfig (c : ConfigSpace) (bus device function offset : UInt8) : UInt32 :=
  c.reg (configAddress bus device function offset)

/-- What a register holds after a write. -/
def written (hard old value : UInt32) : UInt32 := (old &&& hard) ||| (value &&& ~~~ hard)

def pciWriteConfig (c : ConfigSpace) (bus device function offset : UInt8) (value : UInt32) :
    ConfigSpace :=
  let a := configAddress bus device function offset
  { c with reg := Function.update c.reg a (written (c.hard a) (c.reg a) value) }

def pciVendorId : UInt8 := 0x00
def pciDeviceId : UInt8 := 0x02
def pciRevisionId : UInt8 := 0x08
def pciProgIf : UInt8 := 0x09
def pciSubclass : UInt8 := 0x0A
def pciClass : UInt8 := 0x0B
def pciHeaderType : UInt8 := 0x0E
def pciBar0 : UInt8 := 0x10
def pciInterruptLine : UInt8 := 0x3C
def pciInterruptPin : UInt8 := 0x3D

def pciMaxBuses : Nat := 256
def pciMaxDevices : Nat := 32
def pciMaxFunctions : Nat := 8

/-! ## The driver's data -/

/-- `pci_device_t`. -/
structure PciDevice where
  bus : UInt8
  device : UInt8
  function : UInt8
  vendorId : UInt16
  deviceId : UInt16
  classCode : UInt8
  subclass : UInt8
  progIf : UInt8
  revisionId : UInt8
  interruptLine : UInt8
  interruptPin : UInt8
  bar : Vector UInt32 6
  barSize : Vector UInt32 6
  deriving Repr, DecidableEq

/-- `pci_state`, with the part of the device array in use, and configuration space. -/
structure PciSystem where
  config : ConfigSpace
  devices : List PciDevice
  initialized : Bool

/-- A write to `dev->bar[i]` or `dev->bar_size[i]`. -/
def storeBar (v : Vector UInt32 6) (i : Nat) (x : UInt32) : Except Fault (Vector UInt32 6) :=
  if h : i < 6 then .ok (v.set i x h) else .error (.outOfBounds i)

/-! ## Sizing the BARs -/

/-- `PCI_BAR0 + i * 4`. -/
def barOffset (i : Nat) : UInt8 := pciBar0 + UInt8.ofNat (i * 4)

/-- From `// Get BAR size` on: what the register shows after writing all ones, and `bar` written
back. -/
def sizeBar (c : ConfigSpace) (bus device function : UInt8) (i : Nat) (bar : UInt32) :
    UInt32 × ConfigSpace :=
  let c1 := pciWriteConfig c bus device function (barOffset i) 0xFFFFFFFF
  let size := pciReadConfig c1 bus device function (barOffset i)
  let c2 := pciWriteConfig c1 bus device function (barOffset i) bar
  (~~~ (size &&& 0xFFFFFFF0) + 1, c2)

/-- The BAR loop, from `i` on. -/
def barLoop (bus device function : UInt8) (i : Nat) (c : ConfigSpace) (dev : PciDevice) :
    Except Fault (ConfigSpace × PciDevice) :=
  if _ : i < 6 then do
    let bar := pciReadConfig c bus device function (barOffset i)
    let bars ← storeBar dev.bar i bar
    if bar &&& 1 ≠ 0 then
      let sizes ← storeBar dev.barSize i 0
      barLoop bus device function (i + 1) c { dev with bar := bars, barSize := sizes }
    else if bar &&& 0x6 = 0x4 then
      -- "64-bit BAR, skip next one": the rest of the body works on the next one
      let bars ← storeBar bars (i + 1) (pciReadConfig c bus device function (barOffset (i + 1)))
      let (size, c) := sizeBar c bus device function (i + 1) bar
      let sizes ← storeBar dev.barSize (i + 1) size
      barLoop bus device function (i + 2) c { dev with bar := bars, barSize := sizes }
    else
      let (size, c) := sizeBar c bus device function i bar
      let sizes ← storeBar dev.barSize i size
      barLoop bus device function (i + 1) c { dev with bar := bars, barSize := sizes }
  else .ok (c, dev)
termination_by 6 - i

/-! ## The scan -/

/-- `pci_read_config(..., PCI_VENDOR_ID) & 0xFFFF`. -/
def vendorOf (c : ConfigSpace) (bus device function : UInt8) : UInt32 :=
  pciReadConfig c bus device function pciVendorId &&& 0xFFFF

/-- `(pci_read_config(..., PCI_HEADER_TYPE) >> 16) & 0xFF`. -/
def headerTypeOf (c : ConfigSpace) (bus device function : UInt8) : UInt8 :=
  ((pciReadConfig c bus device function pciHeaderType >>> 16) &&& 0xFF).toUInt8

def pciCheckFunction (s : PciSystem) (bus device function : UInt8) : Except Fault PciSystem :=
  let c := s.config
  let vendorId := vendorOf c bus device function
  if vendorId = 0xFFFF then .ok s
  else if s.devices.length ≥ pciMaxBuses * pciMaxDevices * pciMaxFunctions then .ok s
  else do
    let read := pciReadConfig c bus device function
    let dev : PciDevice :=
      { bus := bus
        device := device
        function := function
        vendorId := vendorId.toUInt16
        deviceId := ((read pciDeviceId >>> 16) &&& 0xFFFF).toUInt16
        classCode := ((read pciClass >>> 24) &&& 0xFF).toUInt8
        subclass := ((read pciSubclass >>> 16) &&& 0xFF).toUInt8
        progIf := ((read pciProgIf >>> 8) &&& 0xFF).toUInt8
        revisionId := (read pciRevisionId &&& 0xFF).toUInt8
        interruptLine := ((read pciInterruptLine >>> 24) &&& 0xFF).toUInt8
        interruptPin := ((read pciInterruptPin >>> 16) &&& 0xFF).toUInt8
        bar := Vector.replicate 6 0
        barSize := Vector.replicate 6 0 }
    let (c, dev) ← barLoop bus device function 0 c dev
    return { s with config := c, devices := s.devices ++ [dev] }

def pciCheckDevice (s : PciSystem) (bus device : UInt8) : Except Fault PciSystem :=
  if vendorOf s.config bus device 0 = 0xFFFF then .ok s
  else do
    let s ← pciCheckFunction s bus device 0
    if headerTypeOf s.config bus device 0 &&& 0x80 ≠ 0 then
      (List.range' 1 (pciMaxFunctions - 1)).foldlM
        (fun s function =>
          if vendorOf s.config bus device (UInt8.ofNat function) ≠ 0xFFFF then
            pciCheckFunction s bus device (UInt8.ofNat function)
          else .ok s) s
    else .ok s

/-- The loops over buses, from `first` on, and devices. -/
def scanBuses (s : PciSystem) (first : Nat) : Except Fault PciSystem :=
  (List.range' first (pciMaxBuses - first)).foldlM
    (fun s bus =>
      (List.range pciMaxDevices).foldlM
        (fun s device => pciCheckDevice s (UInt8.ofNat bus) (UInt8.ofNat device)) s) s

def pciInit (s : PciSystem) : Except Fault PciSystem :=
  if s.initialized then .ok s
  else do
    let s := { s with devices := [] }
    let s ←
      if headerTypeOf s.config 0 0 0 &&& 0x80 = 0 then scanBuses s 0
      else
        (List.range pciMaxFunctions).foldlM
          (fun s function =>
            if vendorOf s.config 0 0 (UInt8.ofNat function) ≠ 0xFFFF then scanBuses s function
            else .ok s) s
    return { s with initialized := true }

/-- `pci_get_bar_address`. -/
def pciGetBarAddress (dev : PciDevice) (barNum : Nat) : UInt32 :=
  if h : barNum < 6 then
    let bar := dev.bar.get ⟨barNum, h⟩
    bar &&& (if bar &&& 1 ≠ 0 then 0xFFFFFFFC else 0xFFFFFFF0)
  else 0

/-- Before the driver has run. -/
def PciSystem.boot (c : ConfigSpace) : PciSystem where
  config := c
  devices := []
  initialized := false

end MayaOs.Drivers
