import Mathlib.Algebra.BigOperators.Intervals
import MayaOs.Drivers.Rtc

/-!
# Reading the real time clock with interrupts on

The chip shows one time, in BCD, for as long as a call of `rtc_get_datetime` takes.

* `bcdToBinary_toBcd` — two digits are decoded
* `rtcHandler_of_steady` — `rtc_handler` reads the time, and leaves the register of the year selected
* `readInterrupted_of_steady` — after an interrupt between the two accesses the year is read
* `rtc_get_datetime_exact_iff` — when `rtc_get_datetime` returns the time
-/

namespace MayaOs.Drivers

open MayaOs.Kernel

/-! ## The time -/

inductive RtcField where
  | second
  | minute
  | hour
  | day
  | month
  | year
  deriving Repr, DecidableEq

def RtcField.register : RtcField → UInt8
  | .second => rtcSeconds
  | .minute => rtcMinutes
  | .hour => rtcHours
  | .day => rtcDay
  | .month => rtcMonth
  | .year => rtcYear

/-- The place in the order in which the fields are read. -/
def RtcField.position : RtcField → Nat
  | .second => 0
  | .minute => 1
  | .hour => 2
  | .day => 3
  | .month => 4
  | .year => 5

def toBcd (n : Fin 100) : UInt8 := UInt8.ofNat (16 * (n.val / 10) + n.val % 10)

/-- What `rtc_get_datetime` should return. -/
def datetimeOf (time : RtcField → Fin 100) : RtcDatetime where
  second := UInt8.ofNat (time .second)
  minute := UInt8.ofNat (time .minute)
  hour := UInt8.ofNat (time .hour)
  day := UInt8.ofNat (time .day)
  month := UInt8.ofNat (time .month)
  year := UInt16.ofNat (time .year) + 2000

/-- The chip shows `time` at every moment. The other registers may change. -/
def Steady (chip : Nat → UInt8 → UInt8) (time : RtcField → Fin 100) : Prop :=
  ∀ n f, chip n f.register = toBcd (time f)

theorem bcdToBinary_toBcd : ∀ n : Fin 100, bcdToBinary (toBcd n) = UInt8.ofNat n := by decide

theorem toNat_ofNat (n : Fin 100) : (UInt8.ofNat n).toNat = n := by
  rw [UInt8.toNat_ofNat']
  omega

theorem ofNat_inj {m n : Fin 100} (h : UInt8.ofNat m = UInt8.ofNat n) : m = n := by
  refine Fin.ext ?_
  rw [← toNat_ofNat m, h, toNat_ofNat]

theorem toUInt16_ofNat : ∀ n : Fin 100, (UInt8.ofNat n).toUInt16 = UInt16.ofNat n := by decide +kernel

theorem datetimeOf_inj {time time' : RtcField → Fin 100} (h : datetimeOf time = datetimeOf time')
    (f : RtcField) (hf : f ≠ .year) : time f = time' f := by
  obtain ⟨hsecond, hminute, hhour, hday, hmonth, -⟩ := RtcDatetime.mk.inj h
  cases f with
  | second => exact ofNat_inj hsecond
  | minute => exact ofNat_inj hminute
  | hour => exact ofNat_inj hhour
  | day => exact ofNat_inj hday
  | month => exact ofNat_inj hmonth
  | year => exact absurd rfl hf

theorem RtcField.register_unmasked (f : RtcField) : f.register &&& 0x7F = f.register := by
  cases f <;> decide

/-! ## The six assignments -/

variable {chip : Nat → UInt8 → UInt8} {irqs : Nat → Nat} {time : RtcField → Fin 100}

/-- The state of the driver when `rtc_handler` has run `n` times. -/
def keptTime (time : RtcField → Fin 100) (n : Nat) (s : RtcState) : RtcState :=
  if n = 0 then s else { s with currentTime := datetimeOf time }

@[simp] theorem keptTime_zero (s : RtcState) : keptTime time 0 s = s := rfl

theorem keptTime_updateInProgress (n : Nat) (s : RtcState) :
    (keptTime time n s).updateInProgress = s.updateInProgress := by
  unfold keptTime
  split <;> rfl

theorem keptTime_add (m n : Nat) (s : RtcState) :
    keptTime time n (keptTime time m s) = keptTime time (m + n) s := by
  unfold keptTime
  rcases m with _ | m <;> rcases n with _ | n <;> rfl

/-- While `P` holds, reads return the fields of `shown` and run `rtc_handler` `served i` times. -/
structure ReadsFields (P : RtcState → Prop) (time shown : RtcField → Fin 100) (served : Nat → Nat)
    (read : Nat → UInt8 → Rtc → UInt8 × Rtc) : Prop where
  keeps : ∀ n s, P s → P (keptTime time n s)
  value : ∀ (f : RtcField) d, P d.state → (read f.position f.register d).1 = toBcd (shown f)
  state : ∀ (f : RtcField) d, P d.state →
    (read f.position f.register d).2.state = keptTime time (served f.position) d.state

theorem readDatetime_eq {P : RtcState → Prop} {shown : RtcField → Fin 100} {served : Nat → Nat}
    {read : Nat → UInt8 → Rtc → UInt8 × Rtc} (hread : ReadsFields P time shown served read)
    {d : Rtc} (hd : P d.state) :
    (readDatetime read d).1 = datetimeOf shown ∧
      (readDatetime read d).2.state =
        keptTime time (∑ i ∈ Finset.range 6, served i) d.state := by
  have hnext : ∀ (f : RtcField) d, P d.state → P (read f.position f.register d).2.state := by
    intro f d hd
    rw [hread.state f d hd]
    exact hread.keeps _ _ hd
  have h₁ : P (read 0 rtcSeconds d).2.state := hnext .second d hd
  have h₂ : P (read 1 rtcMinutes _).2.state := hnext .minute _ h₁
  have h₃ : P (read 2 rtcHours _).2.state := hnext .hour _ h₂
  have h₄ : P (read 3 rtcDay _).2.state := hnext .day _ h₃
  have h₅ : P (read 4 rtcMonth _).2.state := hnext .month _ h₄
  constructor
  · have hsecond : (read 0 rtcSeconds _).1 = _ := hread.value .second _ hd
    have hminute : (read 1 rtcMinutes _).1 = _ := hread.value .minute _ h₁
    have hhour : (read 2 rtcHours _).1 = _ := hread.value .hour _ h₂
    have hday : (read 3 rtcDay _).1 = _ := hread.value .day _ h₃
    have hmonth : (read 4 rtcMonth _).1 = _ := hread.value .month _ h₄
    have hyear : (read 5 rtcYear _).1 = _ := hread.value .year _ h₅
    simp only [readDatetime, hsecond, hminute, hhour, hday, hmonth, hyear, bcdToBinary_toBcd]
    rw [toUInt16_ofNat]
    rfl
  · have hsecond : (read 0 rtcSeconds _).2.state = _ := hread.state .second _ hd
    have hminute : (read 1 rtcMinutes _).2.state = _ := hread.state .minute _ h₁
    have hhour : (read 2 rtcHours _).2.state = _ := hread.state .hour _ h₂
    have hday : (read 3 rtcDay _).2.state = _ := hread.state .day _ h₃
    have hmonth : (read 4 rtcMonth _).2.state = _ := hread.state .month _ h₄
    have hyear : (read 5 rtcYear _).2.state = _ := hread.state .year _ h₅
    show (read 5 rtcYear _).2.state = _
    rw [hyear, hmonth, hday, hhour, hminute, hsecond]
    simp only [keptTime_add, Finset.sum_range_succ, Finset.sum_range_zero, Nat.zero_add]
    rfl

/-! ## Interrupts -/

theorem rtcReadRegister_of_steady (h : Steady chip time) (f : RtcField) (d : Rtc) :
    (rtcReadRegister chip f.register d).1 = toBcd (time f) := by
  show chip _ (f.register &&& 0x7F) = _
  rw [RtcField.register_unmasked, h]

theorem readsFields_of_steady (h : Steady chip time) :
    ReadsFields (fun _ => True) time time (fun _ => 0) fun _ => rtcReadRegister chip where
  keeps _ _ _ := trivial
  value f d _ := rtcReadRegister_of_steady h f d
  state _ _ _ := rfl

/-- `rtc_handler` when it is not interrupting itself. -/
theorem rtcHandler_eq (chip : Nat → UInt8 → UInt8) {d : Rtc} (hd : d.state.updateInProgress = false) :
    ∃ d' : Rtc, d'.state = { d.state with updateInProgress := true } ∧
      (rtcHandler chip d).state =
        { (readDatetime (fun _ => rtcReadRegister chip) d').2.state with
          currentTime := (readDatetime (fun _ => rtcReadRegister chip) d').1
          updateInProgress := false } ∧
      (rtcHandler chip d).index = rtcYear := by
  refine ⟨{ (rtcReadRegister chip rtcStatusC d).2 with
    state := { d.state with updateInProgress := true } }, rfl, ?_⟩
  have hquiet : ¬ (rtcReadRegister chip rtcStatusC d).2.state.updateInProgress = true := by
    show ¬ d.state.updateInProgress = true
    rw [hd]
    decide
  unfold rtcHandler
  simp only [if_neg hquiet]
  exact ⟨rfl, rfl⟩

/-- **`rtc_handler` reads the time, and leaves the register of the year selected.** -/
theorem rtcHandler_of_steady (h : Steady chip time) {d : Rtc}
    (hd : d.state.updateInProgress = false) :
    (rtcHandler chip d).state = keptTime time 1 d.state ∧ (rtcHandler chip d).index = rtcYear := by
  obtain ⟨d', hd', hstate, hindex⟩ := rtcHandler_eq chip hd
  obtain ⟨hvalue, hkept⟩ := readDatetime_eq (readsFields_of_steady h) (show (fun _ => True) d'.state from trivial)
  refine ⟨?_, hindex⟩
  rw [hstate, hvalue, hkept, Finset.sum_const_zero, keptTime_zero, hd']
  show { d.state with currentTime := datetimeOf time, updateInProgress := false } = _
  rw [← hd]
  rfl

/-- What `n` interrupts leave behind. -/
theorem handlers_of_steady (h : Steady chip time) {d : Rtc}
    (hd : d.state.updateInProgress = false) (n : Nat) :
    ((rtcHandler chip)^[n] d).state = keptTime time n d.state ∧
      ((rtcHandler chip)^[n] d).index = if n = 0 then d.index else rtcYear := by
  induction n with
  | zero => exact ⟨rfl, rfl⟩
  | succ n ih =>
    obtain ⟨hstate, -⟩ := ih
    have hquiet : ((rtcHandler chip)^[n] d).state.updateInProgress = false := by
      rw [hstate, keptTime_updateInProgress, hd]
    obtain ⟨hnext, hindex⟩ := rtcHandler_of_steady h hquiet
    rw [Function.iterate_succ_apply']
    exact ⟨by rw [hnext, hstate, keptTime_add], hindex⟩

/-- What reading a register with interrupts on leaves behind. -/
theorem readInterrupted_state (h : Steady chip time) (irqs : Nat → Nat) {d : Rtc}
    (hd : d.state.updateInProgress = false) (k : Nat) (reg : UInt8) :
    (readInterrupted chip irqs k reg d).2.state =
      keptTime time (irqs k + irqs (k + 1)) d.state := by
  have hfirst := (handlers_of_steady h hd (irqs k)).1
  have hquiet : (((rtcHandler chip)^[irqs k] d).select reg).state.updateInProgress = false := by
    show ((rtcHandler chip)^[irqs k] d).state.updateInProgress = false
    rw [hfirst, keptTime_updateInProgress, hd]
  have hsecond := (handlers_of_steady h hquiet (irqs (k + 1))).1
  show ((rtcHandler chip)^[irqs (k + 1)] _).state = _
  rw [hsecond]
  show keptTime time _ ((rtcHandler chip)^[irqs k] d).state = _
  rw [hfirst, keptTime_add]

/-- **After an interrupt between the two accesses the year is read.** -/
theorem readInterrupted_of_steady (h : Steady chip time) {d : Rtc}
    (hd : d.state.updateInProgress = false) (k : Nat) (f : RtcField) :
    (readInterrupted chip irqs k f.register d).1 =
      toBcd (if irqs (k + 1) = 0 then time f else time .year) := by
  have hquiet :
      (((rtcHandler chip)^[irqs k] d).select f.register).state.updateInProgress = false := by
    show ((rtcHandler chip)^[irqs k] d).state.updateInProgress = false
    rw [(handlers_of_steady h hd (irqs k)).1, keptTime_updateInProgress, hd]
  have hindex := (handlers_of_steady h hquiet (irqs (k + 1))).2
  show chip _ (((rtcHandler chip)^[irqs (k + 1)] _).index &&& 0x7F) = _
  rw [hindex]
  by_cases hk : irqs (k + 1) = 0
  · rw [if_pos hk, if_pos hk]
    show chip _ (f.register &&& 0x7F) = _
    rw [RtcField.register_unmasked, h]
  · rw [if_neg hk, if_neg hk]
    exact h _ .year

/-! ## rtc_get_datetime -/

section Polls

variable (chip : Nat → UInt8 → UInt8) (irqs : Nat → Nat) (d : Rtc)

/-- The driver after `n` turns of the loop that waits. -/
def afterPolls : Nat → Rtc
  | 0 => d
  | n + 1 => (readInterrupted chip irqs (2 * n) rtcStatusA (afterPolls n)).2

/-- Turn `n` of the loop has read that an update is in progress. -/
def PolledBusy (n : Nat) : Prop :=
  (readInterrupted chip irqs (2 * n) rtcStatusA (afterPolls chip irqs d n)).1 &&& 0x80 ≠ 0

instance (n : Nat) : Decidable (PolledBusy chip irqs d n) := inferInstanceAs (Decidable (_ ≠ _))

end Polls

section Waiting

variable {d : Rtc}

/-- A turn that finds the chip busy. -/
theorem waitForUpdate_busy {n : Nat} (hn : PolledBusy chip irqs d n) (fuel : Nat) :
    waitForUpdate chip irqs (fuel + 1) n (afterPolls chip irqs d n) =
      waitForUpdate chip irqs fuel (n + 1) (afterPolls chip irqs d (n + 1)) :=
  if_pos hn

/-- The first turn that does not. -/
theorem waitForUpdate_clear {n : Nat} (hn : ¬ PolledBusy chip irqs d n) (fuel : Nat) :
    waitForUpdate chip irqs (fuel + 1) n (afterPolls chip irqs d n) =
      some (n + 1, afterPolls chip irqs d (n + 1)) :=
  if_neg hn

/-- **The loop is left after the first turn that finds no update in progress.** -/
theorem waitForUpdate_eq {n : Nat} (hclear : ¬ PolledBusy chip irqs d n)
    (hbusy : ∀ m < n, PolledBusy chip irqs d m) : ∀ {fuel k : Nat}, k ≤ n → n < k + fuel →
      waitForUpdate chip irqs fuel k (afterPolls chip irqs d k) =
        some (n + 1, afterPolls chip irqs d (n + 1)) := by
  intro fuel
  induction fuel with
  | zero => intro k _ _; omega
  | succ fuel ih =>
    intro k hk hfuel
    rcases Nat.eq_or_lt_of_le hk with rfl | hlt
    · exact waitForUpdate_clear hclear fuel
    · rw [waitForUpdate_busy (hbusy k hlt)]
      exact ih hlt (by omega)

/-- And never without such a turn. -/
theorem waitForUpdate_never (hbusy : ∀ m, PolledBusy chip irqs d m) : ∀ fuel k : Nat,
    waitForUpdate chip irqs fuel k (afterPolls chip irqs d k) = none := by
  intro fuel
  induction fuel with
  | zero => exact fun _ => rfl
  | succ fuel ih =>
    intro k
    rw [waitForUpdate_busy (hbusy k)]
    exact ih (k + 1)

/-- However often the loop is gone round, each interrupt of it is served once. -/
theorem afterPolls_state (h : Steady chip time) (hd : d.state.updateInProgress = false) (n : Nat) :
    (afterPolls chip irqs d n).state =
      keptTime time (∑ k ∈ Finset.range (2 * n), irqs k) d.state := by
  induction n with
  | zero => exact (keptTime_zero _).symm
  | succ n ih =>
    have hquiet : (afterPolls chip irqs d n).state.updateInProgress = false := by
      rw [ih, keptTime_updateInProgress, hd]
    show (readInterrupted chip irqs (2 * n) rtcStatusA (afterPolls chip irqs d n)).2.state = _
    rw [readInterrupted_state h irqs hquiet, ih, keptTime_add, show 2 * (n + 1) = 2 * n + 1 + 1 by omega,
      Finset.sum_range_succ, Finset.sum_range_succ, Nat.add_assoc]

end Waiting

/-- `rtc_init` leaves the driver ready, and `rtc_handler` in the table for IRQ 8. -/
theorem rtcInit_ready (rtcHandlerAddress : UInt32) {d : Rtc} (s : InterruptState)
    (hd : d.state.initialized = false) :
    ∃ d', rtcInit chip rtcHandlerAddress d s =
        (true, d', registerInterruptHandler s 40 rtcHandlerAddress) ∧
      d'.state.initialized = true ∧ d'.state.updateInProgress = false := by
  have hfirst : ¬ d.state.initialized = true := by
    rw [hd]
    decide
  unfold rtcInit
  simp only [if_neg hfirst]
  exact ⟨_, rfl, rfl, rfl⟩

/-- The fields with the year in the place of those that were interrupted. -/
def torn (time : RtcField → Fin 100) (irqs : Nat → Nat) (turns : Nat) (f : RtcField) : Fin 100 :=
  if irqs (2 * (turns + f.position) + 1) = 0 then time f else time .year

theorem readsFields_interrupted (h : Steady chip time) (irqs : Nat → Nat) (turns : Nat) :
    ReadsFields (fun s => s.updateInProgress = false) time (torn time irqs turns)
      (fun i => irqs (2 * (turns + i)) + irqs (2 * (turns + i) + 1))
      fun i => readInterrupted chip irqs (2 * (turns + i)) where
  keeps n s hs := (keptTime_updateInProgress n s).trans hs
  value f _ hd := readInterrupted_of_steady h hd _ f
  state _ _ hd := readInterrupted_state h irqs hd _ _

/-- Each assignment accesses the ports twice. -/
theorem sum_assignments (irqs : Nat → Nat) (turns : Nat) :
    ∑ i ∈ Finset.range 6, (irqs (2 * (turns + i)) + irqs (2 * (turns + i) + 1)) =
      ∑ k ∈ Finset.Ico (2 * turns) (2 * (turns + 6)), irqs k := by
  rw [Finset.sum_Ico_eq_sum_range, show 2 * (turns + 6) - 2 * turns = 12 by omega]
  simp only [Finset.sum_range_succ, Finset.sum_range_zero]
  simp only [Nat.mul_add, Nat.add_assoc, Nat.zero_add]

theorem datetimeOf_torn_iff {turns : Nat} : datetimeOf (torn time irqs turns) = datetimeOf time ↔
    ∀ f : RtcField, irqs (2 * (turns + f.position) + 1) = 0 ∨ time f = time .year := by
  constructor
  · intro h f
    by_cases hf : f = .year
    · exact Or.inr (congrArg time hf)
    · have hfield := datetimeOf_inj h f hf
      unfold torn at hfield
      by_cases hk : irqs (2 * (turns + f.position) + 1) = 0
      · exact Or.inl hk
      · rw [if_neg hk] at hfield
        exact Or.inr hfield.symm
  · intro h
    refine congrArg datetimeOf (funext fun f => ?_)
    unfold torn
    split
    · rfl
    · exact ((h f).resolve_left ‹_›).symm

/--
**`rtc_get_datetime` returns the time iff no interrupt comes between the two accesses of a field, or
that field is equal to the year.**

Turn `n` of its loop is the first that finds no update in progress; if there is none, the call does not
return. An interrupted field is returned as the year. The time that `rtc_handler` keeps is right
whenever an interrupt has come.
-/
theorem rtc_get_datetime_exact_iff (hsteady : Steady chip time) {d : Rtc}
    (hinit : d.state.initialized = true) (hquiet : d.state.updateInProgress = false)
    (dt : RtcDatetime) :
    (∀ n, ¬ PolledBusy chip irqs d n → (∀ m < n, PolledBusy chip irqs d m) → ∀ fuel, n < fuel →
      ∃ d', rtcGetDatetime chip irqs fuel d (some dt) =
          some (some (datetimeOf (torn time irqs (n + 1))), d') ∧
        (datetimeOf (torn time irqs (n + 1)) = datetimeOf time ↔
          ∀ f : RtcField, irqs (2 * (n + 1 + f.position) + 1) = 0 ∨ time f = time .year) ∧
        d'.state = keptTime time (∑ k ∈ Finset.range (2 * (n + 1 + 6)), irqs k) d.state) ∧
      ((∀ m, PolledBusy chip irqs d m) →
        ∀ fuel, rtcGetDatetime chip irqs fuel d (some dt) = none) := by
  have hcall : ∀ fuel, rtcGetDatetime chip irqs fuel d (some dt) =
      (waitForUpdate chip irqs fuel 0 d).bind fun r =>
        some (some (readDatetime (fun i => readInterrupted chip irqs (2 * (r.1 + i))) r.2).1,
          (readDatetime (fun i => readInterrupted chip irqs (2 * (r.1 + i))) r.2).2) := by
    intro fuel
    unfold rtcGetDatetime
    rw [if_neg (by rw [hinit]; simp)]
    rfl
  refine ⟨fun n hclear hbusy fuel hfuel => ?_, fun hbusy fuel => ?_⟩
  · have hwait : waitForUpdate chip irqs fuel 0 d = some (n + 1, afterPolls chip irqs d (n + 1)) :=
      waitForUpdate_eq hclear hbusy (Nat.zero_le n) (by omega)
    have hstate : (afterPolls chip irqs d (n + 1)).state = _ := afterPolls_state hsteady hquiet (n + 1)
    have hquiet₁ : (afterPolls chip irqs d (n + 1)).state.updateInProgress = false := by
      rw [hstate, keptTime_updateInProgress, hquiet]
    obtain ⟨hvalue, hlast⟩ :=
      readDatetime_eq (readsFields_interrupted hsteady irqs (n + 1)) hquiet₁
    have hdone : rtcGetDatetime chip irqs fuel d (some dt) =
        some (some (datetimeOf (torn time irqs (n + 1))),
          (readDatetime (fun i => readInterrupted chip irqs (2 * (n + 1 + i)))
            (afterPolls chip irqs d (n + 1))).2) := by
      rw [hcall, hwait, Option.bind_some, hvalue]
    refine ⟨_, hdone, datetimeOf_torn_iff, ?_⟩
    rw [hlast, hstate, keptTime_add, sum_assignments, Finset.range_eq_Ico,
      Finset.sum_Ico_consecutive _ (Nat.zero_le _) (by omega), ← Finset.range_eq_Ico]
  · have hwait : waitForUpdate chip irqs fuel 0 d = none := waitForUpdate_never hbusy fuel 0
    rw [hcall, hwait]
    rfl

/-- 12:34:56 on the 17th of March 2026. -/
def wallTime : RtcField → Fin 100
  | .second => 56
  | .minute => 34
  | .hour => 12
  | .day => 17
  | .month => 3
  | .year => 26

/-- The first two accesses find an update in progress. -/
def wallChip (n : Nat) (reg : UInt8) : UInt8 :=
  if reg = 0 then 0x56 else if reg = 2 then 0x34 else if reg = 4 then 0x12
  else if reg = 7 then 0x17 else if reg = 8 then 0x03 else if reg = 9 then 0x26
  else if reg = 0x0A ∧ n < 2 then 0x80 else 0

/-- An interrupt after the register of the seconds was selected. -/
def secondsIrq (k : Nat) : Nat := if k = 5 then 1 else 0

def rtcIdle : Rtc where
  state := { currentTime := RtcDatetime.zero, initialized := true, updateInProgress := false }
  index := 0
  accesses := 0
  written := []

/-- One turn finds the chip busy; the seconds are returned as the year. -/
theorem rtc_get_datetime_exact_iff_interrupted :
    ∃ d', rtcGetDatetime wallChip secondsIrq 2 rtcIdle (some RtcDatetime.zero) =
        some (some ⟨26, 34, 12, 17, 3, 2026⟩, d') ∧
      d'.state = ⟨⟨56, 34, 12, 17, 3, 2026⟩, true, false⟩ := by
  have hsteady : Steady wallChip wallTime := by
    intro n f
    cases f <;> rfl
  have hclear : ¬ PolledBusy wallChip secondsIrq rtcIdle 1 := by decide
  have hbusy : ∀ m < 1, PolledBusy wallChip secondsIrq rtcIdle m := by decide
  obtain ⟨d', hrun, -, hstate⟩ :=
    (rtc_get_datetime_exact_iff hsteady rfl rfl RtcDatetime.zero).1 1 hclear hbusy 2 (by decide)
  have hvalue : datetimeOf (torn wallTime secondsIrq (1 + 1)) = ⟨26, 34, 12, 17, 3, 2026⟩ := by
    decide
  refine ⟨d', hvalue ▸ hrun, hstate.trans ?_⟩
  decide

end MayaOs.Drivers
