import Mathlib.Logic.Function.Basic

/-!
# Spinlocks (`kernel/spinlock.c`)

`spinlock_acquire` and `spinlock_release` as atomic steps of several CPUs: each access to the lock
word and each change of a CPU's interrupt-enable flag is a step of its own. A CPU is named by its
APIC id.

`interrupt_disable` returns the flag and clears it, `interrupt_restore` sets it to its argument.
The lock pointer is not NULL.
-/

namespace MayaOs.Kernel

/-- `spinlock_t`; nobody is `-1` in `cpu`. -/
structure Spinlock where
  locked : Bool
  cpu : Int
  interruptFlags : Bool
  deriving Repr, DecidableEq

def spinlockInit : Spinlock where
  locked := false
  cpu := -1
  interruptFlags := false

/-- What a CPU does next. -/
inductive SpinPc where
  /-- outside, `spinlock_release` not the last thing it did -/
  | idle
  /-- `spinlock_acquire`: `interrupt_disable` has returned `flags` -/
  | saveFlags (flags : Bool)
  /-- "Check for recursive locking" -/
  | checkLocked
  | checkCpu
  | reloadFlags
  | undoDisable (flags : Bool)
  /-- `__sync_lock_test_and_set` -/
  | testAndSet
  /-- "Spin until lock is available" -/
  | spin
  /-- "Set owner" -/
  | setOwner
  /-- `spinlock_acquire` has returned -/
  | critical
  /-- `spinlock_release`: "Verify owner" -/
  | verifyOwner
  | clearOwner
  | clearLocked
  | loadFlags
  | restore (flags : Bool)
  /-- `spinlock_release` has just returned -/
  | released
  deriving Repr, DecidableEq

/-- The next step of a CPU inside one of the functions, on the lock and its interrupt flag. -/
def spinAdvance (c : Nat) (lock : Spinlock) (irq : Bool) : SpinPc → Option (Spinlock × Bool × SpinPc)
  | .saveFlags flags => some ({ lock with interruptFlags := flags }, irq, .checkLocked)
  | .checkLocked => some (lock, irq, if lock.locked then .checkCpu else .testAndSet)
  | .checkCpu => some (lock, irq, if lock.cpu = c then .reloadFlags else .testAndSet)
  | .reloadFlags => some (lock, irq, .undoDisable lock.interruptFlags)
  -- a recursive call returns like one that has the lock
  | .undoDisable flags => some (lock, flags, .critical)
  | .testAndSet => some ({ lock with locked := true }, irq, if lock.locked then .spin else .setOwner)
  | .spin => some (lock, irq, if lock.locked then .spin else .testAndSet)
  | .setOwner => some ({ lock with cpu := c }, irq, .critical)
  | .verifyOwner => some (lock, irq, if lock.cpu = c then .clearOwner else .released)
  | .clearOwner => some ({ lock with cpu := -1 }, irq, .clearLocked)
  | .clearLocked => some ({ lock with locked := false }, irq, .loadFlags)
  | .loadFlags => some (lock, irq, .restore lock.interruptFlags)
  | .restore flags => some (lock, flags, .released)
  | .idle => none
  | .critical => none
  | .released => none

/-- A lock and the CPUs. `before` is a CPU's interrupt flag just before its last acquire. -/
structure SpinSystem where
  lock : Spinlock
  pc : Nat → SpinPc
  irq : Nat → Bool
  before : Nat → Bool

inductive SpinAction where
  /-- the CPU calls `spinlock_acquire`, whose first step is `interrupt_disable` -/
  | acquire (cpu : Nat)
  /-- the CPU calls `spinlock_release` -/
  | release (cpu : Nat)
  | advance (cpu : Nat)
  /-- outside, the CPU enables or disables its interrupts -/
  | setIrq (cpu : Nat) (enabled : Bool)
  deriving Repr, DecidableEq

/-- After `spinlock_init`, with any interrupt flags. -/
def SpinSystem.boot (irq : Nat → Bool) : SpinSystem where
  lock := spinlockInit
  pc := fun _ => .idle
  irq := irq
  before := irq

/-- One atomic step of one CPU; acquire and release alternate. -/
def spinStep (s : SpinSystem) : SpinAction → Option SpinSystem
  | .acquire c =>
    if s.pc c = .idle ∨ s.pc c = .released then
      some { s with
        pc := Function.update s.pc c (.saveFlags (s.irq c))
        irq := Function.update s.irq c false
        before := Function.update s.before c (s.irq c) }
    else none
  | .release c =>
    if s.pc c = .critical then some { s with pc := Function.update s.pc c .verifyOwner } else none
  | .advance c =>
    (spinAdvance c s.lock (s.irq c) (s.pc c)).map fun r =>
      { s with
        lock := r.1
        irq := Function.update s.irq c r.2.1
        pc := Function.update s.pc c r.2.2 }
  | .setIrq c enabled =>
    if s.pc c = .idle ∨ s.pc c = .released then
      some { s with
        pc := Function.update s.pc c .idle
        irq := Function.update s.irq c enabled }
    else none

end MayaOs.Kernel
