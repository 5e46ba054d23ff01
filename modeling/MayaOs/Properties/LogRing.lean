import MayaOs.Kernel.Logging
import MayaOs.Lib.Run

/-!
# The ring of the kernel log

* `stream_klog` — what a call puts into the ring
* `klog_ring` — a dump gives the last 4096 of all the bytes that were put into it
-/

namespace MayaOs.Kernel

open MayaOs.Lib

variable {s s' : KlogState}

/-- The ring holds the last bytes of the stream. -/
structure LogOk (s : KlogState) : Prop where
  initialized : s.initialized = true
  wellFormed : s.ring.WellFormed klogRingSize
  contents_eq : s.ring.contents klogRingSize = s.stream.rtake klogRingSize

/-! ## One byte -/

theorem ringPutc_eq {r : RingBuffer UInt8} (hw : r.WellFormed klogRingSize) (c : UInt8) :
    ringPutc r c = r.pushOver klogRingSize c := by
  unfold ringPutc RingBuffer.pushOver
  dsimp only
  split
  · rfl
  · next hfull =>
    -- a full ring goes on with the same count
    have hcount : r.count = r.count - 1 + 1 := by
      have hle := hw.count_le
      unfold klogRingSize at hfull hle
      omega
    unfold RingBuffer.push RingBuffer.pop
    dsimp only
    rw [← hcount]

theorem logOk_putc (h : LogOk s) (c : UInt8) : LogOk (s.putc c) := by
  have hpos : 0 < klogRingSize := by decide
  refine ⟨h.initialized, ?_, ?_⟩
  · show (ringPutc s.ring c).WellFormed klogRingSize
    rw [ringPutc_eq h.wellFormed]
    exact h.wellFormed.pushOver hpos c
  · show (ringPutc s.ring c).contents klogRingSize = (s.stream ++ [c]).rtake klogRingSize
    rw [ringPutc_eq h.wellFormed]
    exact RingBuffer.contents_pushOver hpos h.wellFormed h.contents_eq c

/-! ## A call -/

theorem logOk_ringPuts (h : LogOk s) (text : List UInt8) : LogOk (ringPuts s text) :=
  List.foldlRecOn (cString text) KlogState.putc h fun _ ht c _ => logOk_putc ht c

theorem logOk_klog (h : LogOk s) (level : Int) (buf : List UInt8) : LogOk (klog s level buf) := by
  unfold klog
  rw [if_neg (by rw [h.initialized]; decide)]
  split
  · exact h
  · exact logOk_ringPuts (logOk_ringPuts (logOk_ringPuts h _) _) _

theorem stream_ringPuts (s : KlogState) (text : List UInt8) :
    (ringPuts s text).stream = s.stream ++ cString text := by
  unfold ringPuts
  generalize cString text = cs
  induction cs generalizing s with
  | nil => exact (List.append_nil _).symm
  | cons c cs ih =>
    rw [List.foldl_cons, ih]
    show (s.stream ++ [c]) ++ cs = _
    rw [List.append_assoc]
    rfl

/-- The prefix, the message up to its first NUL, and the end of the line; nothing for a level that is
not one. -/
def klogBytes (level : Int) (buf : List UInt8) : List UInt8 :=
  if level < 0 ∨ 4 < level then []
  else cString (levelStr.getD level.toNat []) ++ cString buf ++ [13, 10]

/-- **What a call puts into the ring.** -/
theorem stream_klog (h : s.initialized = true) (level : Int) (buf : List UInt8) :
    (klog s level buf).stream = s.stream ++ klogBytes level buf := by
  unfold klog klogBytes
  rw [if_neg (by rw [h]; decide)]
  split
  · exact (List.append_nil _).symm
  · rw [stream_ringPuts, stream_ringPuts, stream_ringPuts, List.append_assoc, List.append_assoc,
      List.append_assoc]
    rfl

/-! ## A dump -/

theorem klogDumpLoop_eq (buffer : Nat → UInt8) : ∀ (count idx : Nat) (serial : List UInt8),
    klogDumpLoop buffer count idx serial =
      serial ++ RingBuffer.cells klogRingSize buffer idx count := by
  intro count
  induction count with
  | zero => intro idx serial; exact (List.append_nil _).symm
  | succ count ih =>
    intro idx serial
    rw [klogDumpLoop, ih, RingBuffer.cells, List.append_assoc]
    rfl

/-- A dump adds the last bytes of the stream to the output, oldest first, and changes nothing else. -/
structure DumpsLast (s : KlogState) : Prop where
  serial_eq : (klogDumpSerial s).serial = s.serial ++ s.stream.drop (s.stream.length - 4096)
  length_eq : (s.stream.drop (s.stream.length - 4096)).length = min s.stream.length 4096
  ring_eq : (klogDumpSerial s).ring = s.ring
  stream_eq : (klogDumpSerial s).stream = s.stream

theorem LogOk.dumpsLast (h : LogOk s) : DumpsLast s := by
  have hdump : klogDumpSerial s =
      { s with serial := s.serial ++ s.ring.contents klogRingSize } := by
    unfold klogDumpSerial
    rw [if_pos h.initialized, klogDumpLoop_eq]
    rfl
  refine ⟨?_, ?_, by rw [hdump], by rw [hdump]⟩
  · rw [hdump, h.contents_eq]
    rfl
  · rw [List.length_drop]
    omega

/-! ## Runs -/

inductive KlogOp where
  | log (level : Int) (buf : List UInt8)
  | dump
  deriving Repr, DecidableEq

def klogStep (s : KlogState) : KlogOp → Option KlogState
  | .log level buf => some (klog s level buf)
  | .dump => some (klogDumpSerial s)

/-- The static state. -/
def KlogState.boot : KlogState where
  ring := { buffer := fun _ => 0, readPos := 0, writePos := 0, count := 0 }
  initialized := false
  serial := []
  stream := []

theorem logOk_init (buf : List UInt8) : LogOk (klogInit .boot buf) :=
  logOk_klog (s := { KlogState.boot with initialized := true })
    ⟨rfl, ⟨Nat.zero_le _, by decide, by decide, rfl⟩, rfl⟩ 1 buf

theorem logOk_step {op : KlogOp} (h : LogOk s) (hs : klogStep s op = some s') : LogOk s' := by
  cases op with
  | log level buf =>
    cases hs
    exact logOk_klog h level buf
  | dump =>
    cases hs
    have hdump := h.dumpsLast
    refine ⟨?_, by rw [hdump.ring_eq]; exact h.wellFormed, ?_⟩
    · unfold klogDumpSerial
      split <;> exact h.initialized
    · rw [hdump.ring_eq, hdump.stream_eq]
      exact h.contents_eq

/-- Each call puts its bytes at the end of the stream. -/
def StreamGrows (s : KlogState) (op : KlogOp) (s' : KlogState) : Prop :=
  match op with
  | .log level buf => s'.stream = s.stream ++ klogBytes level buf
  | .dump => s'.stream = s.stream

/--
**Whenever it is made, a dump gives the last 4096 bytes put into the ring, or all there are.**

The stream is that of `klog_init` and all the calls of `klog` so far, with any levels and messages.
-/
theorem klog_ring (buf : List UInt8) (ops : List KlogOp) :
    Always klogStep DumpsLast (klogInit .boot buf) ops ∧
      Along klogStep StreamGrows (klogInit .boot buf) ops := by
  have hstep : ∀ s op s', LogOk s → klogStep s op = some s' → LogOk s' :=
    fun _ _ _ => logOk_step
  refine ⟨Always.of_invariant (fun _ => LogOk.dumpsLast) hstep (logOk_init buf),
    Along.of_step (fun s op s' h hs => ?_) hstep (logOk_init buf)⟩
  cases op with
  | log level buf =>
    cases hs
    exact stream_klog h.initialized level buf
  | dump =>
    cases hs
    exact h.dumpsLast.stream_eq

end MayaOs.Kernel
