import Mathlib.Data.List.Forall2
import MayaOs.Drivers.Timer
import MayaOs.Lib.Alarms
import MayaOs.Lib.Outputs

/-!
# The callbacks of the timer driver

Each slot is an alarm: its counter is what is left of the time since the callback was added.

* `timerStep_simulates` — one call of the driver, beside one of the clock
* `timer_callbacks` — the driver is a clock with alarms, over every run
-/

namespace MayaOs.Drivers

open MayaOs.Lib

/-! ## The clock -/

/-- The ticks between two runs of a callback: at least one, and 2^32 milliseconds times ticks wrap. -/
def callbackPeriod (ticksPerSecond intervalMs : UInt32) : Nat :=
  max 1 (intervalMs.toNat * ticksPerSecond.toNat % 2 ^ 32 / 1000)

/-- `n` slots, no alarm is set. -/
def alarmClock (n : Nat) : AlarmClock UInt32 where
  now := 0
  slots := List.replicate n none

/-- What the calls mean. -/
def alarmStep (ticksPerSecond : UInt32) (c : AlarmClock UInt32) :
    TimerEvent → AlarmClock UInt32 × TimerOutput
  | .add callback intervalMs =>
    if callback = 0 ∨ intervalMs = 0 then (c, .added (-1))
    else
      let r := c.add callback (callbackPeriod ticksPerSecond intervalMs)
      (r.1, .added (r.2.elim (-1) Nat.cast))
  | .remove callbackId =>
    if callbackId < 0 ∨ c.slots.length ≤ callbackId then (c, .removed false)
    else (c.remove callbackId.toNat, .removed true)
  | .interrupt =>
    let r := c.tick
    (r.1, .ran r.2)

/-! ## The slots -/

/-- A slot with its alarm. -/
def Tracks (now : Nat) (slot : TimerSlot) : Option (Alarm UInt32) → Prop
  | none => slot.callback = none
  | some a =>
    slot.callback = some a.action ∧ a.since ≤ now ∧ a.period = max 1 slot.interval.toNat ∧
      slot.counter.toNat = (now - a.since) % a.period

theorem tracks_isNone {now : Nat} {slot : TimerSlot} {alarm : Option (Alarm UInt32)}
    (h : Tracks now slot alarm) : slot.callback.isNone = alarm.isNone := by
  cases alarm with
  | none =>
    have hnone : slot.callback = none := h
    rw [hnone]
    rfl
  | some a =>
    rw [h.1]
    rfl

/-- **A turn of the loop in the handler runs the callback when the alarm rings.** -/
theorem count_tracks {now : Nat} {slot : TimerSlot} {alarm : Option (Alarm UInt32)}
    (h : Tracks now slot alarm) :
    slot.count.2 = AlarmClock.rings (now + 1) alarm ∧ Tracks (now + 1) slot.count.1 alarm := by
  cases alarm with
  | none =>
    have hnone : slot.callback = none := h
    unfold TimerSlot.count
    rw [hnone]
    exact ⟨rfl, hnone⟩
  | some a =>
    obtain ⟨hcallback, hsince, hperiod, hcounter⟩ := h
    have hpos : 0 < a.period := by omega
    obtain ⟨hdue, hmod⟩ := counter_step (k := now - a.since) hpos
    have hlt := Nat.mod_lt (now - a.since) hpos
    have hinterval := slot.interval.toNat_lt
    have hnext : (slot.counter + 1).toNat = (now - a.since) % a.period + 1 := by
      rw [UInt32.toNat_add, hcounter]
      exact Nat.mod_eq_of_lt (show (now - a.since) % a.period + 1 < 2 ^ 32 by omega)
    have hreached : slot.interval ≤ slot.counter + 1 ↔
        a.period ≤ (now - a.since) % a.period + 1 := by
      rw [UInt32.le_iff_toNat_le, hnext]
      omega
    have hrings : a.Due (now + 1) ↔ a.period ≤ (now - a.since) % a.period + 1 := by
      rw [hdue, Alarm.Due, show now + 1 - a.since = now - a.since + 1 from by omega]
    have htime : now + 1 - a.since = now - a.since + 1 := by omega
    unfold TimerSlot.count
    rw [hcallback]
    dsimp only
    by_cases hring : slot.interval ≤ slot.counter + 1
    · have hlast := hreached.mp hring
      rw [if_pos hring]
      refine ⟨?_, rfl, by omega, hperiod, ?_⟩
      · rw [AlarmClock.rings, if_pos (hrings.mpr hlast)]
      · rw [htime, hmod, if_pos hlast]
        rfl
    · have hlast := fun hl => hring (hreached.mpr hl)
      rw [if_neg hring]
      refine ⟨?_, rfl, by omega, hperiod, ?_⟩
      · rw [AlarmClock.rings, if_neg fun hd => hlast (hrings.mp hd)]
      · rw [htime, hmod, if_neg hlast]
        exact hnext

/-! ## The calls -/

/-- The variables of the driver beside the clock. -/
structure IsClock (ticksPerSecond : UInt32) (d : PitTimer) (c : AlarmClock UInt32) : Prop where
  initialized : d.initialized = true
  ticksPerSecond : d.ticksPerSecond = ticksPerSecond
  slots : List.Forall₂ (Tracks c.now) d.slots c.slots

theorem forall₂_set {α β : Type} {P : α → β → Prop} {x : α} {y : β} (hxy : P x y) :
    ∀ {xs : List α} {ys : List β}, List.Forall₂ P xs ys → ∀ i, List.Forall₂ P (xs.set i x) (ys.set i y)
  | [], [], .nil, _ => .nil
  | _ :: _, _ :: _, .cons _ hrest, 0 => .cons hxy hrest
  | _ :: _, _ :: _, .cons hfirst hrest, i + 1 => .cons hfirst (forall₂_set hxy hrest i)

/-- The first free slot is the same one. -/
theorem findIdx?_tracks {now : Nat} : ∀ {slots : List TimerSlot}
    {alarms : List (Option (Alarm UInt32))}, List.Forall₂ (Tracks now) slots alarms →
      slots.findIdx? (fun slot => slot.callback.isNone) = alarms.findIdx? Option.isNone
  | [], [], .nil => rfl
  | slot :: slots, alarm :: alarms, .cons hfirst hrest => by
    rw [List.findIdx?_cons, List.findIdx?_cons, tracks_isNone hfirst, findIdx?_tracks hrest]

theorem forall₂_count {now : Nat} : ∀ {slots : List TimerSlot}
    {alarms : List (Option (Alarm UInt32))}, List.Forall₂ (Tracks now) slots alarms →
      slots.filterMap (fun slot => slot.count.2) = alarms.filterMap (AlarmClock.rings (now + 1)) ∧
        List.Forall₂ (Tracks (now + 1)) (slots.map fun slot => slot.count.1) alarms
  | [], [], .nil => ⟨rfl, .nil⟩
  | slot :: slots, alarm :: alarms, .cons hfirst hrest => by
    obtain ⟨hring, hslot⟩ := count_tracks hfirst
    obtain ⟨hrings, hslots⟩ := forall₂_count hrest
    exact ⟨by rw [List.filterMap_cons, List.filterMap_cons, hring, hrings], .cons hslot hslots⟩

variable {ticksPerSecond : UInt32}

theorem sleepTicks_period {d : PitTimer} (h : d.ticksPerSecond = ticksPerSecond)
    (intervalMs : UInt32) :
    max 1 (sleepTicks d intervalMs).toNat = callbackPeriod ticksPerSecond intervalMs := by
  rw [sleepTicks, h, callbackPeriod, UInt32.toNat_div, UInt32.toNat_mul]
  rfl

/-- **One call of the driver, beside one of the clock.** -/
theorem timerStep_simulates :
    Simulates timerStep (alarmStep ticksPerSecond) (IsClock ticksPerSecond) := by
  intro d c h event
  have hlen : d.slots.length = c.slots.length := h.slots.length_eq
  cases event with
  | add callback intervalMs =>
    rw [timerStep, alarmStep, timerAddCallback, AlarmClock.add, ← findIdx?_tracks h.slots]
    by_cases hbad : callback = 0 ∨ intervalMs = 0
    · rw [if_pos (.inr hbad), if_pos hbad]
      exact ⟨rfl, h⟩
    · rw [if_neg (by rw [h.initialized]; simpa using hbad), if_neg hbad]
      cases d.slots.findIdx? fun slot => slot.callback.isNone with
      | none => exact ⟨rfl, h⟩
      | some i =>
        have hslot : Tracks c.now
            { callback := some callback, interval := sleepTicks d intervalMs, counter := 0 }
            (some { action := callback, period := callbackPeriod ticksPerSecond intervalMs,
                    since := c.now }) := by
          refine ⟨rfl, Nat.le_refl _, (sleepTicks_period h.ticksPerSecond intervalMs).symm, ?_⟩
          rw [Nat.sub_self, Nat.zero_mod]
          rfl
        exact ⟨rfl, h.initialized, h.ticksPerSecond, forall₂_set hslot h.slots i⟩
  | remove callbackId =>
    rw [timerStep, alarmStep, timerRemoveCallback, ← hlen]
    by_cases hbad : callbackId < 0 ∨ d.slots.length ≤ callbackId
    · rw [if_pos (.inr hbad), if_pos hbad]
      exact ⟨rfl, h⟩
    · rw [if_neg (by rw [h.initialized]; simpa using hbad), if_neg hbad]
      have hslot : Tracks c.now TimerSlot.empty none := rfl
      exact ⟨rfl, h.initialized, h.ticksPerSecond, forall₂_set hslot h.slots callbackId.toNat⟩
  | interrupt =>
    obtain ⟨hrings, hslots⟩ := forall₂_count h.slots
    exact ⟨congrArg TimerOutput.ran hrings, h.initialized, h.ticksPerSecond, hslots⟩

theorem isClock_init (n : Nat) (frequency : UInt32) (h : frequency ≠ 0) :
    IsClock frequency (timerInit (PitTimer.boot n) frequency).1 (alarmClock n) := by
  unfold timerInit
  rw [if_neg (by simpa [PitTimer.boot] using h)]
  refine ⟨rfl, rfl, ?_⟩
  show List.Forall₂ _ ((List.replicate n TimerSlot.empty).map _) _
  rw [List.map_replicate]
  induction n with
  | zero => exact .nil
  | succ n ih => exact .cons rfl ih

/--
**The driver is a clock with alarms.** In every run of calls and interrupts after `timer_init`, each
interrupt runs the callbacks for which a multiple of their period has passed since they were added,
in the order of their slots, and each call gives the slot and the result that the clock gives.
-/
theorem timer_callbacks (n : Nat) (frequency : UInt32) (h : frequency ≠ 0)
    (events : List TimerEvent) :
    outputs timerStep (timerInit (PitTimer.boot n) frequency).1 events =
      outputs (alarmStep frequency) (alarmClock n) events :=
  (timerStep_simulates.outputs_eq (isClock_init n frequency h)).1

/-- Two callbacks at 1000 Hz, one every two milliseconds and one every millisecond. -/
theorem timer_callbacks_two :
    outputs timerStep (timerInit (PitTimer.boot 2) 1000).1
      [.add 7 2, .interrupt, .add 8 1, .interrupt, .interrupt, .add 9 1, .remove 0, .interrupt] =
    [.added 0, .ran [], .added 1, .ran [7, 8], .ran [8], .added (-1), .removed true, .ran [8]] :=
  timer_callbacks 2 1000 (by decide) _

end MayaOs.Drivers
