import Mathlib.Logic.Function.Basic
import MayaOs.Lib.Bytes

/-!
# The serial ports (`drivers/serial.c`)

The driver and the four UARTs behind its ports. A UART puts the bytes of its FIFO on the line one
after the other; `latency n` is how often its status is read until the byte leaves that follows `n`
others.
-/

namespace MayaOs.Drivers

open MayaOs.Lib

/-! ## The UART -/

/-- A 16550. -/
structure Uart where
  /-- the divisor latch -/
  dll : UInt8
  dlm : UInt8
  /-- the line and the modem control register -/
  lcr : UInt8
  mcr : UInt8
  /-- the FIFO, oldest first -/
  waiting : Bytes
  /-- what was put on the line, oldest first -/
  sent : Bytes
  /-- how often the status is read until the oldest byte of the FIFO leaves -/
  busy : Nat
  latency : Nat → Nat

/-- The registers that are written, as offsets from the port. -/
inductive UartRegister where
  | data
  | fifoCommand
  | lineCommand
  | modemCommand
  deriving Repr, DecidableEq

namespace Uart

def fifoSize : Nat := 16

/-- The number that the clock of the UART is divided by. -/
def divisor (u : Uart) : Nat := u.dll.toNat + 256 * u.dlm.toNat

/-- A byte for the line. There is no room for it in a FIFO that is full. -/
def transmit (u : Uart) (v : UInt8) : Uart :=
  if u.waiting = [] then { u with waiting := [v], busy := u.latency u.sent.length }
  else if u.waiting.length < fifoSize then { u with waiting := u.waiting ++ [v] }
  else u

def outb (u : Uart) (register : UartRegister) (v : UInt8) : Uart :=
  match register with
  | .data =>
    -- the DLAB bit gives access to the divisor latch
    if u.lcr &&& 0x80 ≠ 0 then { u with dll := v } else u.transmit v
  | .fifoCommand =>
    -- bit 2 clears the FIFO
    if v &&& 0x04 ≠ 0 then { u with waiting := [], busy := 0 } else u
  | .lineCommand => { u with lcr := v }
  | .modemCommand => { u with mcr := v }

/-- `inb` of the line status register: the bit of the empty FIFO. -/
def lineStatus (u : Uart) : UInt8 := if u.waiting = [] then 0x20 else 0

/-- The UART after `inb` of the line status register. -/
def polled (u : Uart) : Uart :=
  match u.waiting with
  | [] => u
  | v :: rest =>
    if u.busy = 0 then
      { u with sent := u.sent ++ [v], waiting := rest, busy := u.latency (u.sent.length + 1) }
    else { u with busy := u.busy - 1 }

end Uart

/-! ## The driver -/

/-- The ports, in the order of `port_index`. -/
inductive ComPort where
  | com1
  | com2
  | com3
  | com4
  deriving Repr, DecidableEq

/-- The `switch` over COM1 to COM4. -/
def portIndex (port : UInt16) : Option (ComPort) :=
  if port = 0x3F8 then some .com1
  else if port = 0x2F8 then some .com2
  else if port = 0x3E8 then some .com3
  else if port = 0x2E8 then some .com4
  else none

/-- `ports_initialized`, and the UARTs. -/
structure Serial where
  initialized : ComPort → Bool
  uart : ComPort → Uart

/-- Before the first call. -/
def Serial.boot (uart : ComPort → Uart) : Serial := { initialized := fun _ => false, uart := uart }

def Serial.setUart (s : Serial) (p : ComPort) (u : Uart) : Serial :=
  { s with uart := Function.update s.uart p u }

@[simp] theorem Serial.setUart_self (s : Serial) (p : ComPort) (u : Uart) :
    (s.setUart p u).uart p = u := Function.update_self ..

theorem Serial.setUart_of_ne (s : Serial) {p q : ComPort} (h : q ≠ p) (u : Uart) :
    (s.setUart p u).uart q = s.uart q := Function.update_of_ne h ..

def serialConfigureBaudRate (u : Uart) (divisor : UInt16) : Uart :=
  let u := u.outb .lineCommand 0x80
  let u := u.outb .data ((divisor >>> 8) &&& 0x00FF).toUInt8
  u.outb .data (divisor &&& 0x00FF).toUInt8

/-- 8 bits, no parity, one stop bit -/
def serialConfigureLine (u : Uart) : Uart := u.outb .lineCommand 0x03

def serialConfigureFifo (u : Uart) : Uart := u.outb .fifoCommand 0xC7

def serialConfigureModem (u : Uart) : Uart := u.outb .modemCommand 0x0B

def serialInit (s : Serial) (port : UInt16) : Bool × Serial :=
  match portIndex port with
  | none => (false, s)
  | some p =>
    if s.initialized p then (true, s)
    else
      let u := serialConfigureBaudRate (s.uart p) 3
      let u := serialConfigureModem (serialConfigureFifo (serialConfigureLine u))
      (true, { s.setUart p u with initialized := Function.update s.initialized p true })

/-- `while (!serial_is_transmit_empty(port))` -/
def waitTransmitEmpty (u : Uart) : Uart :=
  if _h : u.lineStatus &&& 0x20 = 0 then
    waitTransmitEmpty u.polled
  else u.polled
termination_by (u.waiting.length, u.busy)
decreasing_by
  unfold Uart.lineStatus at _h
  unfold Uart.polled
  cases hw : u.waiting with
  | nil => rw [if_pos hw] at _h; exact absurd _h (by decide)
  | cons v rest =>
    by_cases hb : u.busy = 0
    · simp only [if_pos hb]
      exact Prod.Lex.left _ _ (by simp)
    · simp only [if_neg hb]
      exact Prod.Lex.right _ (Nat.sub_lt (Nat.pos_of_ne_zero hb) Nat.one_pos)

def serialWriteByte (s : Serial) (port : UInt16) (byte : UInt8) : Bool × Serial :=
  match portIndex port with
  | none => (false, s)
  | some p =>
    if s.initialized p then (true, s.setUart p ((waitTransmitEmpty (s.uart p)).outb .data byte))
    else (false, s)

/-- The loop of `serial_write`. -/
def serialWriteLoop (port : UInt16) : Serial → Bytes → Nat → Nat × Serial
  | s, [], written => (written, s)
  | s, byte :: bytes, written =>
    match serialWriteByte s port byte with
    | (true, s) => serialWriteLoop port s bytes (written + 1)
    | (false, s) => (written, s)

/-- `serial_write`: `none` is NULL. -/
def serialWrite (s : Serial) (port : UInt16) (data : Option Bytes) : Nat × Serial :=
  match data with
  | none => (0, s)
  | some bytes => if bytes.length = 0 then (0, s) else serialWriteLoop port s bytes 0

/-! ## Calls -/

inductive SerialCall where
  | init (port : UInt16)
  | write (port : UInt16) (data : Option Bytes)
  deriving Repr, DecidableEq

inductive SerialResult where
  | initialized (ok : Bool)
  | written (n : Nat)
  deriving Repr, DecidableEq

def serialCall (s : Serial) : SerialCall → SerialResult × Serial
  | .init port => (.initialized (serialInit s port).1, (serialInit s port).2)
  | .write port data => (.written (serialWrite s port data).1, (serialWrite s port data).2)

def serialCalls : Serial → List SerialCall → List SerialResult × Serial
  | s, [] => ([], s)
  | s, c :: cs =>
    let (r, s) := serialCall s c
    let (rs, s) := serialCalls s cs
    (r :: rs, s)

end MayaOs.Drivers
