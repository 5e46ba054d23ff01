import MayaOs.Drivers.Pci

/-!
# The AHCI driver (`drivers/ahci.c`)

The controller is what it shows in its registers; what the driver writes to the registers of a port
is kept in a list. Addresses are `uint32_t`, 0 is NULL.

Left out: `memory_free_dma` and `memory_unmap`, and the contents of the command lists and of the
received FIS areas, which are cleared.
-/

namespace MayaOs.Drivers

open MayaOs.Lib

def ahciBaseClass : UInt8 := 0x01
def ahciSubClass : UInt8 := 0x06

def hbaPortIpmActive : UInt32 := 1
def hbaPortDetPresent : UInt32 := 3

def hbaPxCmdSt : UInt32 := 0x0001
def hbaPxCmdFre : UInt32 := 0x0010

def ahciMaxPorts : Nat := 32
def ahciMaxCommands : Nat := 32
def ahciSectorSize : UInt32 := 512

/-- Why a function does not return. -/
inductive AhciStop where
  /-- a wait loop whose condition stays true -/
  | hang
  | fault (f : Fault)
  deriving Repr, DecidableEq

/-- An assignment to a register of `hba_port_t`. -/
inductive PortWrite where
  | clb (value : UInt32)
  | clbu (value : UInt32)
  | fb (value : UInt32)
  | fbu (value : UInt32)
  /-- `cmd &= mask` -/
  | cmdAnd (mask : UInt32)
  /-- `cmd |= bits` -/
  | cmdOr (bits : UInt32)
  | ci (value : UInt32)
  deriving Repr, DecidableEq

/-- The controller, and the functions of the kernel's memory management. -/
structure AhciHost where
  /-- "Ports Implemented" -/
  pi : UInt32
  /-- "SATA Status" of each port -/
  ssts : Nat → UInt32
  /-- the reset comes to an end -/
  resets : Bool
  /-- FR and CR of the port get cleared -/
  stops : Nat → Bool
  /-- what the calls of `memory_alloc_dma` return, one after the other -/
  alloc : Nat → UInt32
  /-- `memory_get_physical` -/
  physical : UInt32 → UInt32

/-- `ahci_state`, the number of calls of `memory_alloc_dma`, and the writes to the registers of the
ports since the start of `ahci_init`, newest first. -/
structure AhciSystem where
  hbaMem : UInt32
  cmdList : Nat → UInt32
  fisBase : Nat → UInt32
  cmdTables : Nat → Nat → UInt32
  portCount : Nat
  initialized : Bool
  calls : Nat
  writes : List (Nat × PortWrite)

/-- Before the driver has run. -/
def AhciSystem.boot : AhciSystem where
  hbaMem := 0
  cmdList := fun _ => 0
  fisBase := fun _ => 0
  cmdTables := fun _ _ => 0
  portCount := 0
  initialized := false
  calls := 0
  writes := []

def AhciSystem.write (s : AhciSystem) (port : Nat) (w : PortWrite) : AhciSystem :=
  { s with writes := (port, w) :: s.writes }

/-- `memory_alloc_dma`. -/
def AhciSystem.allocDma (s : AhciSystem) (hw : AhciHost) : UInt32 × AhciSystem :=
  (hw.alloc s.calls, { s with calls := s.calls + 1 })

/-! ## ahci_init -/

/-- "Allocate command tables", from `i` on. -/
def ahciAllocTables (hw : AhciHost) (portNum : Nat) (i : Nat) (s : AhciSystem) : Bool × AhciSystem :=
  if _ : i < ahciMaxCommands then
    let (table, s) := s.allocDma hw
    let s :=
      { s with
        cmdTables :=
          Function.update s.cmdTables portNum (Function.update (s.cmdTables portNum) i table) }
    if table = 0 then (false, s) else ahciAllocTables hw portNum (i + 1) s
  else (true, s)
termination_by ahciMaxCommands - i

/-- `ahci_port_initialize(&hba_mem->ports[port], port_num)`. -/
def ahciPortInitialize (hw : AhciHost) (s : AhciSystem) (port portNum : Nat) :
    Except AhciStop (Bool × AhciSystem) :=
  -- "Stop command processing"
  let s := (s.write port (.cmdAnd (~~~ hbaPxCmdSt))).write port (.cmdAnd (~~~ hbaPxCmdFre))
  if hw.stops port = false then .error .hang
  else if ahciMaxPorts ≤ portNum then .error (.fault (.outOfBounds portNum))
  else
    -- "Allocate command list"
    let (list, s) := s.allocDma hw
    let s := { s with cmdList := Function.update s.cmdList portNum list }
    if list = 0 then .ok (false, s)
    else
      let s := (s.write port (.clb (hw.physical list))).write port (.clbu 0)
      -- "Allocate FIS base"
      let (fis, s) := s.allocDma hw
      let s := { s with fisBase := Function.update s.fisBase portNum fis }
      if fis = 0 then .ok (false, s)
      else
        let s := (s.write port (.fb (hw.physical fis))).write port (.fbu 0)
        let (ok, s) := ahciAllocTables hw portNum 0 s
        if ok = false then .ok (false, s)
        else
          -- "Start command processing"
          .ok (true, (s.write port (.cmdOr hbaPxCmdFre)).write port (.cmdOr hbaPxCmdSt))

/-- The port is implemented, and there is an active device. -/
def portActive (hw : AhciHost) (i : Nat) : Bool :=
  hw.pi.toNat.testBit i && (hw.ssts i &&& 0x0F) == hbaPortDetPresent &&
    ((hw.ssts i >>> 8) &&& 0x0F) == hbaPortIpmActive

/-- The loop over the ports. -/
def ahciInitPorts (hw : AhciHost) : List Nat → AhciSystem → Except AhciStop (Bool × AhciSystem)
  | [], s => .ok (true, s)
  | i :: is, s =>
    if portActive hw i = false then ahciInitPorts hw is s
    else do
      let (ok, s) ← ahciPortInitialize hw s i s.portCount
      if ok then ahciInitPorts hw is { s with portCount := s.portCount + 1 }
      else return (false, s)

/-- The first AHCI controller on the bus that has an address: its `bar5`. -/
def ahciController (devices : List PciDevice) : Option UInt32 :=
  devices.findSome? fun dev =>
    if dev.classCode = ahciBaseClass ∧ dev.subclass = ahciSubClass ∧ pciGetBarAddress dev 5 ≠ 0 then
      some (pciGetBarAddress dev 5)
    else none

/-- What `memory_map_physical` returns. -/
def memoryMapPhysical (physAddr : UInt32) : UInt32 := physAddr

def ahciInit (hw : AhciHost) (devices : List PciDevice) (s : AhciSystem) :
    Except AhciStop (Bool × AhciSystem) :=
  let s := { s with writes := [] }
  if s.initialized then .ok (true, s)
  else
    match ahciController devices with
    | none => .ok (false, s)
    | some bar5 =>
      let s := { s with hbaMem := memoryMapPhysical bar5 }
      if s.hbaMem = 0 then .ok (false, s)
      else if hw.resets = false then .error .hang
      else do
        let (ok, s) ← ahciInitPorts hw (List.range ahciMaxPorts) s
        return (ok, if ok then { s with initialized := true } else s)

/-! ## ahci_read_sectors -/

/-- `hba_prdt_entry_t`. -/
structure PrdtEntry where
  dba : UInt32
  dbau : UInt32
  dbc : UInt32
  i : Bool
  deriving Repr, DecidableEq

/-- What is written before the command is issued: the fields of the command header at `header` and
the command table at `table`; and the port and the slot that it is issued on. -/
structure AhciCommand where
  port : Nat
  slot : Nat
  header : UInt32
  cfl : UInt8
  w : Bool
  prdtl : UInt16
  table : UInt32
  cfis : Bytes
  prdt : List PrdtEntry
  deriving Repr, DecidableEq

/-- `ahci_find_cmdslot`, where `slots` is `sact | ci`. -/
def ahciFindCmdslot (slots : UInt32) : Option Nat :=
  (List.range ahciMaxCommands).find? fun i => !slots.toNat.testBit i

/-- `fis_reg_h2d_t`. -/
def ahciFis (start : UInt64) (count : UInt32) : Bytes :=
  [0x27, 0x80, 0x25, 0, start.toUInt8, (start >>> 8).toUInt8, (start >>> 16).toUInt8, 0x40,
    (start >>> 24).toUInt8, (start >>> 32).toUInt8, (start >>> 40).toUInt8, 0, count.toUInt8,
    (count >>> 8).toUInt8, 0, 0, 0, 0, 0, 0]

/-- The entries, and "Last entry". -/
def ahciPrdt (dba : UInt32) (count : UInt32) : List PrdtEntry :=
  let prdCount := ((count * ahciSectorSize + 0x1FFFF) >>> 16).toNat
  (List.range prdCount).map fun i =>
    { dba := dba + UInt32.ofNat (i * 0x10000), dbau := 0
      dbc :=
        if i + 1 = prdCount then ((count * ahciSectorSize - 1) &&& 0xFFFF) + 1 else 0xFFFF
      i := true }

/-- `memory_alloc_dma` gives a page for a command table. -/
def ahciTableSize : Nat := 4096

/-- `ahci_read_sectors` up to the point where the command is issued; `none` if it returns `false`
before that. `slots` is what the port shows in `sact | ci`. -/
def ahciReadCommand (hw : AhciHost) (s : AhciSystem) (slots : UInt32) (port : Nat) (start : UInt64)
    (count buffer : UInt32) : Except AhciStop (Option AhciCommand) :=
  if s.initialized = false ∨ s.portCount ≤ port ∨ buffer = 0 ∨ count = 0 then .ok none
  else
    match ahciFindCmdslot slots with
    | none => .ok none
    | some slot =>
      let prdtl := ((count - 1) >>> 4).toUInt16 + 1
      let prdt := ahciPrdt (hw.physical buffer) count
      let used := 128 + 16 * max prdtl.toNat prdt.length
      if ahciTableSize < used then .error (.fault (.outOfBounds used))
      else
        .ok (some {
          port := port, slot := slot, header := s.cmdList port + UInt32.ofNat (32 * slot)
          cfl := 5, w := false, prdtl := prdtl, table := s.cmdTables port slot
          cfis := ahciFis start count, prdt := prdt })

/-- **What `ahciReadCommand` can come to.** -/
theorem ahciReadCommand_cases (hw : AhciHost) (s : AhciSystem) (slots : UInt32) (port : Nat)
    (start : UInt64) (count buffer : UInt32) :
    ahciReadCommand hw s slots port start count buffer = .ok none ∨
      (∃ used, ahciReadCommand hw s slots port start count buffer =
        .error (.fault (.outOfBounds used)) ∧ ahciTableSize < used) ∨
      ∃ command, ahciReadCommand hw s slots port start count buffer = .ok (some command) ∧
        count ≠ 0 ∧ command.port = port ∧ command.prdtl = ((count - 1) >>> 4).toUInt16 + 1 ∧
        command.prdt = ahciPrdt (hw.physical buffer) count ∧
        command.cfis = ahciFis start count := by
  unfold ahciReadCommand
  split
  · exact Or.inl rfl
  · next hchecks =>
    split
    · exact Or.inl rfl
    · dsimp only
      split
      · next hover => exact Or.inr (Or.inl ⟨_, rfl, hover⟩)
      · exact Or.inr (Or.inr ⟨_, rfl, fun hzero => hchecks (Or.inr (Or.inr (Or.inr hzero))),
          rfl, rfl, rfl, rfl⟩)

/-- What becomes of a command. -/
inductive AhciOutcome where
  | done
  | taskFileError
  | pending
  deriving Repr, DecidableEq

/-- The port that the command is issued on, if it is issued, and the result. -/
def ahciReadSectors (hw : AhciHost) (s : AhciSystem) (slots : UInt32) (outcome : AhciOutcome)
    (port : Nat) (start : UInt64) (count buffer : UInt32) :
    Except AhciStop (Bool × AhciSystem) := do
  match ← ahciReadCommand hw s slots port start count buffer with
  | none => return (false, s)
  | some command =>
    let s := s.write command.port (.ci (1 <<< UInt32.ofNat command.slot))
    match outcome with
    | .done => return (true, s)
    | .taskFileError => return (false, s)
    | .pending => throw .hang

end MayaOs.Drivers
