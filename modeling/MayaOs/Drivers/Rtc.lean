import Mathlib.Logic.Function.Iterate
import MayaOs.Kernel.Interrupts

/-!
# The real time clock (`drivers/rtc.c`)

The chip has one port that selects a register and one that reads or writes it. Its registers change on
their own: `chip n` are their values when the two ports have been accessed `n` times.

`rtc_handler` runs with interrupts off. `rtc_get_datetime` runs with interrupts on, and `irqs k` is how
often `rtc_handler` runs before the `k`-th of its own accesses to the ports.
-/

namespace MayaOs.Drivers

open MayaOs.Kernel

/-! ## The registers -/

def rtcSeconds : UInt8 := 0x00
def rtcMinutes : UInt8 := 0x02
def rtcHours : UInt8 := 0x04
def rtcDay : UInt8 := 0x07
def rtcMonth : UInt8 := 0x08
def rtcYear : UInt8 := 0x09
def rtcStatusA : UInt8 := 0x0A
def rtcStatusB : UInt8 := 0x0B
def rtcStatusC : UInt8 := 0x0C

/-- `rtc_datetime_t`. -/
structure RtcDatetime where
  second : UInt8
  minute : UInt8
  hour : UInt8
  day : UInt8
  month : UInt8
  year : UInt16
  deriving Repr, DecidableEq

def RtcDatetime.zero : RtcDatetime := ⟨0, 0, 0, 0, 0, 0⟩

/-- `rtc_state`. -/
structure RtcState where
  currentTime : RtcDatetime
  initialized : Bool
  updateInProgress : Bool
  deriving Repr, DecidableEq

/-- The driver and the two ports. -/
structure Rtc where
  state : RtcState
  /-- the register that is selected, with the bit that masks the NMI -/
  index : UInt8
  /-- how often the ports have been accessed -/
  accesses : Nat
  /-- the registers that were written and the values, newest first -/
  written : List (UInt8 × UInt8)
  deriving Repr, DecidableEq

section

variable (chip : Nat → UInt8 → UInt8)

/-- `outb(RTC_INDEX_PORT, v)` -/
def Rtc.select (v : UInt8) (d : Rtc) : Rtc := { d with index := v, accesses := d.accesses + 1 }

/-- `inb(RTC_DATA_PORT)` -/
def Rtc.data (d : Rtc) : UInt8 × Rtc :=
  (chip d.accesses (d.index &&& 0x7F), { d with accesses := d.accesses + 1 })

/-- `outb(RTC_DATA_PORT, v)` -/
def Rtc.store (v : UInt8) (d : Rtc) : Rtc :=
  { d with written := (d.index &&& 0x7F, v) :: d.written, accesses := d.accesses + 1 }

def rtcReadRegister (reg : UInt8) (d : Rtc) : UInt8 × Rtc := (d.select reg).data chip

def rtcWriteRegister (reg value : UInt8) (d : Rtc) : Rtc := (d.select reg).store value

def bcdToBinary (bcd : UInt8) : UInt8 := ((bcd &&& 0xF0) >>> 4) * 10 + (bcd &&& 0x0F)

/-- The six assignments that `rtc_handler` and `rtc_get_datetime` share; `read i` is the `i`-th call of
`rtc_read_register`. -/
def readDatetime (read : Nat → UInt8 → Rtc → UInt8 × Rtc) (d : Rtc) : RtcDatetime × Rtc :=
  let (second, d) := read 0 rtcSeconds d
  let (minute, d) := read 1 rtcMinutes d
  let (hour, d) := read 2 rtcHours d
  let (day, d) := read 3 rtcDay d
  let (month, d) := read 4 rtcMonth d
  let (year, d) := read 5 rtcYear d
  ({ second := bcdToBinary second
     minute := bcdToBinary minute
     hour := bcdToBinary hour
     day := bcdToBinary day
     month := bcdToBinary month
     year := (bcdToBinary year).toUInt16 + 2000 }, d)

def rtcHandler (d : Rtc) : Rtc :=
  -- this acknowledges the interrupt
  let d := (rtcReadRegister chip rtcStatusC d).2
  if d.state.updateInProgress then d
  else
    let d := { d with state.updateInProgress := true }
    let (dt, d) := readDatetime (fun _ => rtcReadRegister chip) d
    { d with state := { d.state with currentTime := dt, updateInProgress := false } }

/-- `rtc_init`, and the table with the handlers. `rtcHandlerAddress` is `&rtc_handler`. -/
def rtcInit (rtcHandlerAddress : UInt32) (d : Rtc) (s : InterruptState) :
    Bool × Rtc × InterruptState :=
  if d.state.initialized then (true, d, s)
  else
    let (statusB, d) := (d.select 0x8B).data chip
    let d := rtcWriteRegister rtcStatusB (statusB ||| 0x42) d
    let d := (rtcReadRegister chip rtcStatusC d).2
    let s := registerInterruptHandler s 40 rtcHandlerAddress
    (true, { d with state := { currentTime := RtcDatetime.zero
                               initialized := true
                               updateInProgress := false } }, s)

/-! ## rtc_get_datetime -/

variable (irqs : Nat → Nat)

/-- `rtc_read_register` with interrupts on, when its caller has accessed the ports `k` times. -/
def readInterrupted (k : Nat) (reg : UInt8) (d : Rtc) : UInt8 × Rtc :=
  let d := ((rtcHandler chip)^[irqs k] d).select reg
  ((rtcHandler chip)^[irqs (k + 1)] d).data chip

/-- `while (rtc_read_register(RTC_STATUS_A) & 0x80);` from its turn `n` on, and how many turns there
were. -/
def waitForUpdate : Nat → Nat → Rtc → Option (Nat × Rtc)
  | 0, _, _ => none
  | fuel + 1, n, d =>
    let (status, d) := readInterrupted chip irqs (2 * n) rtcStatusA d
    if status &&& 0x80 ≠ 0 then waitForUpdate fuel (n + 1) d else some (n + 1, d)

/-- `rtc_get_datetime`: `dt` is what the pointer refers to, `none` when it is NULL. -/
def rtcGetDatetime (fuel : Nat) (d : Rtc) (dt : Option RtcDatetime) :
    Option (Option RtcDatetime × Rtc) :=
  if d.state.initialized = false ∨ dt = none then some (dt, d)
  else do
    let (turns, d) ← waitForUpdate chip irqs fuel 0 d
    let (dt, d) := readDatetime (fun i => readInterrupted chip irqs (2 * (turns + i))) d
    return (some dt, d)

end

end MayaOs.Drivers
