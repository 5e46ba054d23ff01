import MayaOs.Lib.Polling

/-!
# The timer driver (`drivers/timer.c`)

Interrupts come while `timer_wait` halts, any number of them before each test of its loop.

`MAX_TIMER_CALLBACKS` is in a header that is not part of the source: there are as many slots as the
list has. Left out: what `timer_init` tells the PIT.
-/

namespace MayaOs.Drivers

open MayaOs.Lib

/-- One entry of `timer_callbacks`, `callback_intervals` and `callback_counters`. -/
structure TimerSlot where
  callback : Option UInt32
  interval : UInt32
  counter : UInt32
  deriving Repr, DecidableEq

def TimerSlot.empty : TimerSlot where
  callback := none
  interval := 0
  counter := 0

/-- The variables of the driver. -/
structure PitTimer where
  tickCount : UInt32
  ticksPerSecond : UInt32
  slots : List TimerSlot
  initialized : Bool
  deriving Repr, DecidableEq

/-- The variables before `timer_init`, with `n` slots. -/
def PitTimer.boot (n : Nat) : PitTimer where
  tickCount := 0
  ticksPerSecond := 0
  slots := List.replicate n TimerSlot.empty
  initialized := false

/-! ## timer_handler -/

/-- One turn of the loop, and the callback that it runs. -/
def TimerSlot.count (slot : TimerSlot) : TimerSlot × Option UInt32 :=
  match slot.callback with
  | none => (slot, none)
  | some f =>
    let slot := { slot with counter := slot.counter + 1 }
    if slot.interval ≤ slot.counter then ({ slot with counter := 0 }, some f) else (slot, none)

/-- `timer_handler`, and the callbacks that it runs. -/
def timerHandler (d : PitTimer) : PitTimer × List UInt32 :=
  ({ d with
      tickCount := d.tickCount + 1
      slots := d.slots.map fun slot => slot.count.1 },
    d.slots.filterMap fun slot => slot.count.2)

def timerInit (d : PitTimer) (frequency : UInt32) : PitTimer × Bool :=
  if d.initialized ∨ frequency = 0 then (d, false)
  else
    ({ d with
        ticksPerSecond := frequency
        initialized := true
        slots := d.slots.map fun _ => TimerSlot.empty }, true)

/-! ## timer_sleep -/

/-- The condition of the loop in `timer_wait`. -/
def waitGoing (start ticks : UInt32) (d : PitTimer) : Bool := d.tickCount - start < ticks

/-- The argument of `timer_wait`. -/
def sleepTicks (d : PitTimer) (milliseconds : UInt32) : UInt32 :=
  milliseconds * d.ticksPerSecond / 1000

/-- `timer_sleep` when it has come to the loop of `timer_wait`, or has returned before it. -/
def timerSleep (d : PitTimer) : Polling PitTimer where
  clock := d
  waiting := d.initialized && d.ticksPerSecond != 0

/-! ## Callbacks -/

/-- The slot, or -1; `callback` is NULL if it is 0. -/
def timerAddCallback (d : PitTimer) (callback intervalMs : UInt32) : PitTimer × Int :=
  if d.initialized = false ∨ callback = 0 ∨ intervalMs = 0 then (d, -1)
  else
    match d.slots.findIdx? fun slot => slot.callback.isNone with
    | none => (d, -1)
    | some i =>
      ({ d with
          slots := d.slots.set i
            { callback := some callback, interval := sleepTicks d intervalMs, counter := 0 } }, i)

def timerRemoveCallback (d : PitTimer) (callbackId : Int) : PitTimer × Bool :=
  if d.initialized = false ∨ callbackId < 0 ∨ d.slots.length ≤ callbackId then (d, false)
  else ({ d with slots := d.slots.set callbackId.toNat TimerSlot.empty }, true)

inductive TimerEvent where
  | add (callback intervalMs : UInt32)
  | remove (callbackId : Int)
  | interrupt
  deriving Repr, DecidableEq

inductive TimerOutput where
  | added (callbackId : Int)
  | removed (ok : Bool)
  /-- the callbacks that the interrupt has run -/
  | ran (callbacks : List UInt32)
  deriving Repr, DecidableEq

/-- The callbacks do not call back into the driver. -/
def timerStep (d : PitTimer) : TimerEvent → PitTimer × TimerOutput
  | .add callback intervalMs =>
    let r := timerAddCallback d callback intervalMs
    (r.1, .added r.2)
  | .remove callbackId =>
    let r := timerRemoveCallback d callbackId
    (r.1, .removed r.2)
  | .interrupt =>
    let r := timerHandler d
    (r.1, .ran r.2)

end MayaOs.Drivers
