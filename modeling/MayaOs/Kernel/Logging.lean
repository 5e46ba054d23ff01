import MayaOs.Lib.Bytes
import MayaOs.Lib.RingBuffer

/-!
# The kernel log (`kernel/logging.c`)

`vsnprintf` is not part of the repository: `buf` is what it has left in the buffer of `klog`. Nor is
`serial_write_char`: `serial` are the characters that it has been given.

Left out: `klog_flush`, which does nothing.
-/

namespace MayaOs.Kernel

open MayaOs.Lib

def klogRingSize : Nat := 4096

/-- `ring`, `log_initialized`, and the bytes that have been put into the ring so far. -/
structure KlogState where
  ring : RingBuffer UInt8
  initialized : Bool
  serial : List UInt8
  stream : List UInt8

/-- "[DEBUG] ", "[INFO]  ", "[WARN]  ", "[ERROR] " and "[PANIC] ". -/
def levelStr : List (List UInt8) :=
  [[91, 68, 69, 66, 85, 71, 93, 32], [91, 73, 78, 70, 79, 93, 32, 32],
    [91, 87, 65, 82, 78, 93, 32, 32], [91, 69, 82, 82, 79, 82, 93, 32],
    [91, 80, 65, 78, 73, 67, 93, 32]]

/-- `ring_putc`; `head` is where the ring is written, `tail` where it is read. -/
def ringPutc (r : RingBuffer UInt8) (c : UInt8) : RingBuffer UInt8 :=
  let r := { r with
    buffer := Function.update r.buffer r.writePos c
    writePos := (r.writePos + 1) % klogRingSize }
  if r.count < klogRingSize then { r with count := r.count + 1 }
  else { r with readPos := (r.readPos + 1) % klogRingSize }

/-- One turn of the loop of `ring_puts`. -/
def KlogState.putc (s : KlogState) (c : UInt8) : KlogState :=
  { s with ring := ringPutc s.ring c, serial := s.serial ++ [c], stream := s.stream ++ [c] }

def ringPuts (s : KlogState) (text : List UInt8) : KlogState :=
  (cString text).foldl KlogState.putc s

def klog (s : KlogState) (level : Int) (buf : List UInt8) : KlogState :=
  if s.initialized = false then s
  else if level < 0 ∨ 4 < level then s
  else ringPuts (ringPuts (ringPuts s (levelStr.getD level.toNat [])) buf) [13, 10]

/-- `klog_init`; `buf` is the text of its own message. -/
def klogInit (s : KlogState) (buf : List UInt8) : KlogState :=
  if s.initialized then s
  else
    klog
      { s with
        ring := { buffer := fun _ => 0, readPos := 0, writePos := 0, count := 0 }
        initialized := true } 1 buf

/-- The loop of `klog_dump_serial`. -/
def klogDumpLoop (buffer : Nat → UInt8) : Nat → Nat → List UInt8 → List UInt8
  | 0, _, serial => serial
  | count + 1, idx, serial =>
    klogDumpLoop buffer count ((idx + 1) % klogRingSize) (serial ++ [buffer idx])

def klogDumpSerial (s : KlogState) : KlogState :=
  if s.initialized then
    { s with serial := klogDumpLoop s.ring.buffer s.ring.count s.ring.readPos s.serial }
  else s

end MayaOs.Kernel
