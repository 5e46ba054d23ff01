import MayaOs.Drivers.Timer
import MayaOs.Kernel.Scheduler
import MayaOs.Properties.RuntimeAccounting

/-!
# How long a sleep is

Both functions compute in 32 bits. A long sleep is cut short where the product overflows; the one of
the kernel also returns at once when its target is beyond the last number of the counter, while the
driver's difference does not mind.

* `kernel_sleep_iff`, `driver_sleep_iff` — how long each of them waits
* `timerInit_ticked` — the driver is initialized from `timer_init` on
* `timer_sleep_iff` — when a sleep is as long as it should be
-/

namespace MayaOs.Drivers

open MayaOs.Kernel MayaOs.Lib

/-! ## The kernel -/

theorem timerHandler_ticks (k : KernelState) :
    (Kernel.timerHandler k).timer.ticks = k.timer.ticks + 1 := by
  rcases timerHandler_cases k with heq | heq | heq
  · rw [heq]
    rfl
  · rw [heq]
    rfl
  · rw [heq, switchTask_timer]
    rfl

theorem toNat_targetTicks (k : KernelState) (milliseconds : UInt32) :
    (targetTicks k milliseconds).toNat =
      (k.timer.ticks.toNat + milliseconds.toNat * 1000 % 2 ^ 32 / 1000) % 2 ^ 32 := by
  unfold targetTicks timerFrequency
  rw [UInt32.toNat_add, UInt32.toNat_div, UInt32.toNat_mul]
  rfl

/-- **The kernel's sleep** ends with its target: too early if the product or the target overflows. -/
theorem kernel_sleep_iff {k : KernelState} (hon : k.timer.initialized = true)
    (milliseconds : UInt32) :
    ReturnsAfter Kernel.timerHandler (sleepGoing (targetTicks k milliseconds))
        (milliseconds.toNat * timerFrequency.toNat / 1000) (Kernel.timerSleep k) ↔
      milliseconds = 0 ∨ milliseconds.toNat * 1000 < 2 ^ 32 ∧
        k.timer.ticks.toNat + milliseconds.toNat < 2 ^ 32 := by
  have hexact : milliseconds.toNat * timerFrequency.toNat / 1000 = milliseconds.toNat :=
    Nat.mul_div_cancel _ (by decide)
  have hzero : milliseconds = 0 ↔ milliseconds.toNat = 0 := by rw [← UInt32.toNat_inj]; rfl
  unfold Kernel.timerSleep sleepGoing
  rw [hon, returns_after_iff, hexact, hzero]
  simp only [decide_eq_true_iff, UInt32.lt_iff_toNat_lt, toNat_targetTicks,
    toNat_iterate (fun k : KernelState => k.timer.ticks) timerHandler_ticks k]
  have hticks := k.timer.ticks.toNat_lt
  have hms := milliseconds.toNat_lt
  generalize k.timer.ticks.toNat = start at hticks ⊢
  generalize milliseconds.toNat = n at hms ⊢
  constructor
  · intro h
    by_cases hn : n = 0
    · exact Or.inl hn
    · -- the first test, and the one after the time that was computed
      have hfirst := h 0 (by omega)
      have hlast := h (n * 1000 % 2 ^ 32 / 1000)
      omega
  · rintro (rfl | ⟨hproduct, htarget⟩) k hk
    · omega
    · rw [Nat.mod_eq_of_lt hproduct, Nat.mul_div_cancel _ (by decide), Nat.mod_eq_of_lt htarget]
      omega

/-! ## The driver -/

/-- **The driver's sleep** counts from its start, so that only the product can overflow. -/
theorem driver_sleep_iff {d : PitTimer} (hon : d.initialized = true) (hf : d.ticksPerSecond ≠ 0)
    (milliseconds : UInt32) :
    ReturnsAfter (fun d => (timerHandler d).1) (waitGoing d.tickCount (sleepTicks d milliseconds))
        (milliseconds.toNat * d.ticksPerSecond.toNat / 1000) (timerSleep d) ↔
      milliseconds.toNat * d.ticksPerSecond.toNat < 2 ^ 32 := by
  have hwaiting : (d.initialized && d.ticksPerSecond != 0) = true := by simp [hon, hf]
  have hticks : (sleepTicks d milliseconds).toNat =
      milliseconds.toNat * d.ticksPerSecond.toNat % 2 ^ 32 / 1000 := by
    unfold sleepTicks
    rw [UInt32.toNat_div, UInt32.toNat_mul]
    rfl
  unfold timerSleep waitGoing
  rw [hwaiting, returns_after_iff]
  simp only [decide_eq_true_iff, UInt32.lt_iff_toNat_lt, hticks, UInt32.toNat_sub,
    toNat_iterate PitTimer.tickCount (fun _ => rfl : ∀ d, (timerHandler d).1.tickCount = _) d]
  have hstart := d.tickCount.toNat_lt
  generalize d.tickCount.toNat = start at hstart ⊢
  generalize milliseconds.toNat * d.ticksPerSecond.toNat = product
  constructor
  · intro h
    have hlast := h (product % 2 ^ 32 / 1000)
    omega
  · intro hproduct k hk
    omega

/-- `timer_init` refuses the frequency 0 only, and an interrupt changes neither flag nor frequency. -/
theorem timerInit_ticked (n : Nat) {frequency : UInt32} (hf : frequency ≠ 0) (m : Nat) :
    let d := (fun d => (timerHandler d).1)^[m] (timerInit (PitTimer.boot n) frequency).1
    d.initialized = true ∧ d.ticksPerSecond = frequency := by
  have hinit : timerInit (PitTimer.boot n) frequency =
      ({ PitTimer.boot n with
          ticksPerSecond := frequency
          initialized := true
          slots := (PitTimer.boot n).slots.map fun _ => TimerSlot.empty }, true) := by
    unfold timerInit
    rw [if_neg (by simp [hf, PitTimer.boot])]
  induction m with
  | zero =>
    rw [hinit]
    exact ⟨rfl, rfl⟩
  | succ m ih =>
    rw [Function.iterate_succ_apply']
    exact ih

/-! ## The result -/

/--
**When a sleep takes as many ticks as it should**: the driver's, while the product fits into 32 bits;
the kernel's, while the target does as well.

The counter starts anywhere, and the sleeps are those of an initialized timer of either kind.
-/
theorem timer_sleep_iff {k : KernelState} {d : PitTimer} (hk : k.timer.initialized = true)
    (hd : d.initialized = true) (hf : d.ticksPerSecond ≠ 0) (milliseconds : UInt32) :
    (ReturnsAfter Kernel.timerHandler (sleepGoing (targetTicks k milliseconds))
        (milliseconds.toNat * timerFrequency.toNat / 1000) (Kernel.timerSleep k) ↔
      milliseconds = 0 ∨ milliseconds.toNat * 1000 < 2 ^ 32 ∧
        k.timer.ticks.toNat + milliseconds.toNat < 2 ^ 32) ∧
    (ReturnsAfter (fun d => (timerHandler d).1)
        (waitGoing d.tickCount (sleepTicks d milliseconds))
        (milliseconds.toNat * d.ticksPerSecond.toNat / 1000) (timerSleep d) ↔
      milliseconds.toNat * d.ticksPerSecond.toNat < 2 ^ 32) :=
  ⟨kernel_sleep_iff hk milliseconds, driver_sleep_iff hd hf milliseconds⟩

/-- 250 milliseconds, of timers that have just been initialized. -/
theorem timer_sleep_short :
    let k := Kernel.timerInit KernelState.boot
    let d := (timerInit (PitTimer.boot 8) 100).1
    ReturnsAfter Kernel.timerHandler (sleepGoing (targetTicks k 250)) 250 (Kernel.timerSleep k) ∧
      ReturnsAfter (fun d => (timerHandler d).1) (waitGoing d.tickCount (sleepTicks d 250)) 25
        (timerSleep d) := by
  intro k d
  have hticks : (250 : UInt32).toNat * d.ticksPerSecond.toNat / 1000 = 25 := by decide
  have h := timer_sleep_iff (k := k) (d := d) rfl rfl (by decide) 250
  rw [hticks] at h
  exact ⟨h.1.mpr (by decide), h.2.mpr (by decide)⟩

/-- One millisecond at the end of the kernel's counter, and 72 minutes of the driver, are over at
once. -/
theorem timer_sleep_wraps :
    let timer : TimerState := { ticks := 0xFFFFFFFF, callback := false, initialized := true }
    let k := { KernelState.boot with timer := timer }
    let d := (timerInit (PitTimer.boot 8) 1000).1
    run (pollStep Kernel.timerHandler (sleepGoing (targetTicks k 1))) (Kernel.timerSleep k)
        [PollAction.test] = some ⟨k, false⟩ ∧
      run (pollStep (fun d => (timerHandler d).1)
        (waitGoing d.tickCount (sleepTicks d 4294968))) (timerSleep d) [PollAction.test] =
          some ⟨d, false⟩ ∧
      ¬ ReturnsAfter Kernel.timerHandler (sleepGoing (targetTicks k 1)) 1 (Kernel.timerSleep k) ∧
      ¬ ReturnsAfter (fun d => (timerHandler d).1) (waitGoing d.tickCount (sleepTicks d 4294968))
          4294968 (timerSleep d) := by
  intro timer k d
  have hkernel : sleepGoing (targetTicks k 1) k = false := by decide
  have hdriver : waitGoing d.tickCount (sleepTicks d 4294968) d = false := by decide
  have hk : run (pollStep Kernel.timerHandler (sleepGoing (targetTicks k 1))) (Kernel.timerSleep k)
      [PollAction.test] = some ⟨k, false⟩ := by
    rw [← hkernel]
    rfl
  have hd : run (pollStep (fun d => (timerHandler d).1)
      (waitGoing d.tickCount (sleepTicks d 4294968))) (timerSleep d) [PollAction.test] =
        some ⟨d, false⟩ := by
    rw [← hdriver]
    rfl
  exact ⟨hk, hd, fun h => absurd (h _ _ hk rfl) (by decide), fun h => absurd (h _ _ hd rfl) (by decide)⟩

end MayaOs.Drivers
