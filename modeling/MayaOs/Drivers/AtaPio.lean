import MayaOs.Drivers.Ata

/-!
# The registers of the disk (`drivers/ata.c`)

`ata_read_sectors` and `ata_write_sectors` with every access to a register, and the primary channel
with two drives that they go to. A drive is busy for some time before each sector; it takes a command
at any time, and refuses one for sectors that it does not have.

`ata_init` goes to a bus on which drives may be missing. Its variables are bytes of memory, as
IDENTIFY returns more than `ata_identify_t` has.

Left out: `ata_get_model` and `ata_get_serial`.
-/

namespace MayaOs.Drivers

open MayaOs.Lib

/-- Overwriting a sector. -/
def Disk.set (d : Disk) (n : Nat) (bytes : Bytes) : Disk :=
  if h : bytes.length = 512 then
    { sector := Function.update d.sector n bytes
      length_sector := by
        intro m
        rw [Function.update_apply]
        split
        · exact h
        · exact d.length_sector m }
  else d

/-! ## The channel -/

structure AtaDrive where
  disk : Disk
  capacity : Nat

/-- What a drive was told to do. -/
structure AtaCommand where
  slave : Bool
  write : Bool
  lba : Nat
  count : Nat
  deriving Repr, DecidableEq

inductive AtaTransfer where
  | idle
  | failed
  /-- what the host has not fetched yet -/
  | toHost (data : Bytes)
  /-- the sector that is due, the number of sectors, and what has arrived of the one that is due -/
  | fromHost (lba left : Nat) (data : Bytes)

/-- The registers that are written. -/
inductive AtaRegister where
  | seccount0
  | lba0
  | lba1
  | lba2
  | hddevsel
  | command
  deriving Repr, DecidableEq

structure AtaChannel where
  /-- the master and the slave -/
  drives : Bool → AtaDrive
  seccount0 : UInt8
  lba0 : UInt8
  lba1 : UInt8
  lba2 : UInt8
  hddevsel : UInt8
  transfer : AtaTransfer
  /-- how often the status will still be read as busy -/
  busy : Nat
  /-- `busy` before a sector, when there are so many to come -/
  latency : Nat → Nat
  /-- newest first -/
  commands : List AtaCommand

def ataCmdReadPio : UInt8 := 0x20
def ataCmdWritePio : UInt8 := 0x30

def ataStatusBsy : UInt8 := 0x80
def ataStatusDrdy : UInt8 := 0x40
def ataStatusDrq : UInt8 := 0x08
def ataStatusErr : UInt8 := 0x01

namespace AtaChannel

/-- The drive that is selected. -/
def slave (c : AtaChannel) : Bool := c.hddevsel &&& 0x10 != 0

/-- The sector that the registers stand for. -/
def lba (c : AtaChannel) : Nat :=
  c.lba0.toNat + 2 ^ 8 * c.lba1.toNat + 2 ^ 16 * c.lba2.toNat + 2 ^ 24 * (c.hddevsel.toNat % 16)

/-- 0 stands for 256 sectors. -/
def count (c : AtaChannel) : Nat := if c.seccount0 = 0 then 256 else c.seccount0.toNat

/-- The drive has `data` for the host. -/
def offer (c : AtaChannel) (data : Bytes) : AtaChannel :=
  if data = [] then { c with transfer := .idle, busy := 0 }
  else
    { c with
      transfer := .toHost data
      busy := if data.length % 512 = 0 then c.latency (data.length / 512) else c.busy }

/-- The drive waits for `left` sectors from the host. -/
def await (c : AtaChannel) (lba left : Nat) : AtaChannel :=
  if left = 0 then { c with transfer := .idle, busy := 0 }
  else { c with transfer := .fromHost lba left [], busy := c.latency left }

/-- The drive stores a sector. -/
def store (c : AtaChannel) (lba : Nat) (data : Bytes) : AtaChannel :=
  let drive := c.drives c.slave
  { c with drives := Function.update c.drives c.slave { drive with disk := drive.disk.set lba data } }

/-- The drive has the sectors that the registers stand for, and they are not cylinder, head and
sector. -/
def Served (c : AtaChannel) : Prop :=
  c.hddevsel &&& 0x40 ≠ 0 ∧ c.lba + c.count ≤ (c.drives c.slave).capacity

instance (c : AtaChannel) : Decidable c.Served := inferInstanceAs (Decidable (_ ∧ _))

/-- READ or WRITE. -/
def execute (c : AtaChannel) (value : UInt8) : AtaChannel :=
  let log (write : Bool) : AtaChannel :=
    { c with
      commands := { slave := c.slave, write := write, lba := c.lba, count := c.count } :: c.commands }
  if value = ataCmdReadPio ∧ c.Served then
    (log false).offer ((c.drives c.slave).disk.sectors c.lba c.count)
  else if value = ataCmdWritePio ∧ c.Served then (log true).await c.lba c.count
  else { c with transfer := .failed, busy := 0 }

def outb (c : AtaChannel) (register : AtaRegister) (value : UInt8) : AtaChannel :=
  match register with
  | .seccount0 => { c with seccount0 := value }
  | .lba0 => { c with lba0 := value }
  | .lba1 => { c with lba1 := value }
  | .lba2 => { c with lba2 := value }
  | .hddevsel => { c with hddevsel := value }
  | .command => c.execute value

/-- `inb` of the status register. -/
def status (c : AtaChannel) : UInt8 :=
  if c.busy ≠ 0 then ataStatusBsy
  else
    match c.transfer with
    | .idle => ataStatusDrdy
    | .failed => ataStatusDrdy ||| ataStatusErr
    | .toHost _ => ataStatusDrdy ||| ataStatusDrq
    | .fromHost .. => ataStatusDrdy ||| ataStatusDrq

/-- The channel after `inb` of the status register. -/
def polled (c : AtaChannel) : AtaChannel := { c with busy := c.busy - 1 }

/-- `inw` of the data register. -/
def inw (c : AtaChannel) : UInt16 × AtaChannel :=
  if c.busy ≠ 0 then (0, c)
  else
    match c.transfer with
    | .toHost (a :: b :: rest) => (u16 a b, c.offer rest)
    | _ => (0, c)

/-- `outw` of the data register. -/
def outw (c : AtaChannel) (value : UInt16) : AtaChannel :=
  if c.busy ≠ 0 then c
  else
    match c.transfer with
    | .fromHost lba left data =>
      let data := data ++ le16 value
      if data.length = 512 then (c.store lba data).await (lba + 1) (left - 1)
      else { c with transfer := .fromHost lba left data }
    | _ => c

end AtaChannel

/-! ## The driver -/

/-- Why a function does not return. -/
inductive AtaStop where
  /-- a wait loop whose condition stays true -/
  | hang
  | fault (f : Fault)
  deriving Repr, DecidableEq

/-- The fields of `ata_identify_t` with the size of the drive. -/
structure AtaIdentify where
  capabilities : UInt16
  sectors28 : Fin 2 → UInt16
  sectors48 : Fin 4 → UInt16

/-- `ata_state`. -/
structure AtaPioState where
  isSlave : Bool
  identify : AtaIdentify
  initialized : Bool

def ataGetSize (s : AtaPioState) : UInt64 :=
  if s.initialized = false then 0
  else if s.identify.capabilities &&& ((1 : UInt16) <<< 9) ≠ 0 then
    ((s.identify.sectors48 3).toUInt64 <<< 48) ||| ((s.identify.sectors48 2).toUInt64 <<< 32) |||
      ((s.identify.sectors48 1).toUInt64 <<< 16) ||| (s.identify.sectors48 0).toUInt64
  else
    (((s.identify.sectors28 1).toUInt32 <<< 16) ||| (s.identify.sectors28 0).toUInt32).toUInt64

theorem AtaChannel.busy_ne_zero_of_status {c : AtaChannel}
    (h : c.status &&& ataStatusBsy ≠ 0) : c.busy ≠ 0 := by
  intro hbusy
  refine h ?_
  unfold AtaChannel.status
  rw [if_neg (not_not_intro hbusy)]
  split <;> decide

def ataWaitBsy (c : AtaChannel) : AtaChannel :=
  if _ : c.status &&& ataStatusBsy ≠ 0 then ataWaitBsy c.polled else c.polled
termination_by c.busy
decreasing_by
  have := AtaChannel.busy_ne_zero_of_status ‹_›
  show c.busy - 1 < c.busy
  omega

def ataWaitDrq (c : AtaChannel) : Except AtaStop AtaChannel :=
  if c.status &&& ataStatusDrq ≠ 0 then .ok c.polled
  -- nothing is going on that would change the status
  else if c.busy = 0 then .error .hang
  else ataWaitDrq c.polled
termination_by c.busy
decreasing_by
  show c.busy - 1 < c.busy
  omega

/-- What both functions write to the registers, up to the command. -/
def ataSelect (s : AtaPioState) (c : AtaChannel) (lba : UInt32) (sectorCount : UInt8) :
    AtaChannel :=
  let device : UInt8 := if s.isSlave then 0xF0 else 0xE0
  let c := c.outb .hddevsel (device ||| ((lba >>> 24) &&& 0x0F).toUInt8)
  let c := c.outb .seccount0 sectorCount
  let c := c.outb .lba0 (lba &&& 0xFF).toUInt8
  let c := c.outb .lba1 ((lba >>> 8) &&& 0xFF).toUInt8
  c.outb .lba2 ((lba >>> 16) &&& 0xFF).toUInt8

/-- "Read sector data": `n` words to `offset`. -/
def ataReadWords : Nat → AtaChannel → Bytes → Nat → Except AtaStop (AtaChannel × Bytes)
  | 0, c, buffer, _ => .ok (c, buffer)
  | n + 1, c, buffer, offset => do
    let buffer ← (write buffer offset (le16 c.inw.1)).mapError .fault
    ataReadWords n c.inw.2 buffer (offset + 2)

/-- `n` turns of the loop over the sectors. -/
def ataReadLoop : Nat → AtaChannel → Bytes → Nat → Except AtaStop (AtaChannel × Bytes)
  | 0, c, buffer, _ => .ok (c, buffer)
  | n + 1, c, buffer, offset => do
    let c ← ataWaitDrq (ataWaitBsy c)
    let (c, buffer) ← ataReadWords 256 c buffer offset
    ataReadLoop n c buffer (offset + 512)

/-- `ata_read_sectors`, where `none` for `buffer` is NULL; it returns `none` for `false`, else the
buffer. -/
def pioReadSectors (s : AtaPioState) (c : AtaChannel) (lba : UInt32) (sectorCount : UInt8)
    (buffer : Option Bytes) : Except AtaStop (Option (AtaChannel × Bytes)) :=
  match buffer with
  | none => .ok none
  | some buffer =>
    if s.initialized = false ∨ sectorCount = 0 then .ok none
    else
      let c := (ataSelect s c lba sectorCount).outb .command ataCmdReadPio
      some <$> ataReadLoop sectorCount.toNat c buffer 0

/-- "Write sector data": `n` words from `offset`. -/
def ataWriteWords : Nat → AtaChannel → Bytes → Nat → Except AtaStop AtaChannel
  | 0, c, _, _ => .ok c
  | n + 1, c, buffer, offset => do
    let value ← (read16 buffer offset).mapError .fault
    ataWriteWords n (c.outw value) buffer (offset + 2)

/-- `n` turns of the loop over the sectors. -/
def ataWriteLoop : Nat → AtaChannel → Bytes → Nat → Except AtaStop AtaChannel
  | 0, c, _, _ => .ok c
  | n + 1, c, buffer, offset => do
    let c ← ataWaitDrq (ataWaitBsy c)
    let c ← ataWriteWords 256 c buffer offset
    ataWriteLoop n c buffer (offset + 512)

/-- `ata_write_sectors`, as `pioReadSectors`. -/
def pioWriteSectors (s : AtaPioState) (c : AtaChannel) (lba : UInt32) (sectorCount : UInt8)
    (buffer : Option Bytes) : Except AtaStop (Option AtaChannel) :=
  match buffer with
  | none => .ok none
  | some buffer =>
    if s.initialized = false ∨ sectorCount = 0 then .ok none
    else
      let c := (ataSelect s c lba sectorCount).outb .command ataCmdWritePio
      some <$> ataWriteLoop sectorCount.toNat c buffer 0

/-! ## Initialisation -/

def ataCmdIdentify : UInt8 := 0xEC

/-- The channel, and what its drives answer to IDENTIFY; `none` for a drive that is missing. -/
structure AtaBus where
  channel : AtaChannel
  identify : Bool → Option Bytes
  length_identify : ∀ slave data, identify slave = some data → data.length = 512
  /-- how often the status is read as busy after a reset -/
  resetBusy : Nat

namespace AtaBus

def outb (b : AtaBus) (register : AtaRegister) (value : UInt8) : AtaBus :=
  if register = .command ∧ value = ataCmdIdentify then
    match b.identify b.channel.slave with
    | none => b
    | some data => { b with channel := b.channel.offer data }
  else { b with channel := b.channel.outb register value }

/-- `outb` of the control register: bit 2 resets the drives. -/
def outbControl (b : AtaBus) (value : UInt8) : AtaBus :=
  if value &&& 0x04 ≠ 0 then
    { b with
      channel := { b.channel with hddevsel := 0, transfer := .idle, busy := b.resetBusy } }
  else b

/-- `inb` of the status register: 0 for a drive that is missing. -/
def status (b : AtaBus) : UInt8 :=
  match b.identify b.channel.slave with
  | none => 0
  | some _ => b.channel.status

def polled (b : AtaBus) : AtaBus := { b with channel := b.channel.polled }

theorem busy_ne_zero_of_status {b : AtaBus} (h : b.status &&& ataStatusBsy ≠ 0) :
    b.channel.busy ≠ 0 := by
  unfold status at h
  split at h
  · exact absurd rfl h
  · exact AtaChannel.busy_ne_zero_of_status h

/-- `ata_wait_bsy` -/
def waitBsy (b : AtaBus) : AtaBus :=
  if _ : b.status &&& ataStatusBsy ≠ 0 then waitBsy b.polled else b.polled
termination_by b.channel.busy
decreasing_by
  have := busy_ne_zero_of_status ‹_›
  show b.channel.busy - 1 < b.channel.busy
  omega

/-- `ata_wait_drq` -/
def waitDrq (b : AtaBus) : Except AtaStop AtaBus :=
  if b.status &&& ataStatusDrq ≠ 0 then .ok b.polled
  else if b.channel.busy = 0 then .error .hang
  else waitDrq b.polled
termination_by b.channel.busy
decreasing_by
  show b.channel.busy - 1 < b.channel.busy
  omega

end AtaBus

/-! Offsets in `ata_state`, and of the fields of `ata_identify_t` that are used. -/

def ataIoBaseAt : Nat := 0
def ataControlBaseAt : Nat := 2
def ataIsSlaveAt : Nat := 4
def ataIdentifyAt : Nat := 5
def ataInitializedAt : Nat := 247
def ataStateSize : Nat := 248
def capabilitiesAt : Nat := 160
def sectors28At : Nat := 186
def sectors48At : Nat := 234

/-- `ata_identify_drive`; `mem` is memory from `ata_state` on. -/
def ataIdentifyDrive (mem : Bytes) (b : AtaBus) (isSlave : Bool) :
    Except AtaStop (Bool × Bytes × AtaBus) := do
  let b := b.outb .hddevsel (if isSlave then 0xB0 else 0xA0)
  let b := b.waitBsy
  let b := b.outb .command ataCmdIdentify
  if b.status = 0 then return (false, mem, b.polled)
  else
    let b ← b.polled.waitBsy.waitDrq
    let (channel, mem) ← ataReadWords 256 b.channel mem ataIdentifyAt
    return (true, mem, { b with channel })

/-- `ata_init` -/
def ataInit (mem : Bytes) (b : AtaBus) (isSlave : Bool) :
    Except AtaStop (Bool × Bytes × AtaBus) := do
  if (← (read8 mem ataInitializedAt).mapError .fault) ≠ 0 then return (true, mem, b)
  let mem ← (write mem ataIoBaseAt (le16 0x1F0)).mapError .fault
  let mem ← (write mem ataControlBaseAt (le16 (0x1F0 + 0x206))).mapError .fault
  let mem ← (write mem ataIsSlaveAt [if isSlave then 1 else 0]).mapError .fault
  let b := ((b.outbControl 0x04).outbControl 0x00).waitBsy
  let (found, mem, b) ← ataIdentifyDrive mem b isSlave
  if found then
    let mem ← (write mem ataInitializedAt [1]).mapError .fault
    return (true, mem, b)
  else return (false, mem, b)

/-- What the functions above find in `ata_state`. -/
def ataStateAt (mem : Bytes) : AtaPioState where
  isSlave := byteAt mem ataIsSlaveAt != 0
  identify :=
    { capabilities := u16At mem (ataIdentifyAt + capabilitiesAt)
      sectors28 := fun i => u16At mem (ataIdentifyAt + sectors28At + 2 * i)
      sectors48 := fun i => u16At mem (ataIdentifyAt + sectors48At + 2 * i) }
  initialized := byteAt mem ataInitializedAt != 0

end MayaOs.Drivers
