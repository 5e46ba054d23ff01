import MayaOs.Kernel.Scheduler
import MayaOs.Kernel.UserMemory

/-!
# System calls (`kernel/syscall.c`)

A handler is named by its function: one of the eight of `syscall.c`, or another one that somebody
registers. What the others do is up to `user`.

Left out: the log, and the entry for interrupt 0x80 that `syscall_init` installs.
-/

namespace MayaOs.Kernel

/-- `struct registers`. -/
structure Registers where
  gs : UInt32
  fs : UInt32
  es : UInt32
  ds : UInt32
  edi : UInt32
  esi : UInt32
  ebp : UInt32
  esp : UInt32
  ebx : UInt32
  edx : UInt32
  ecx : UInt32
  eax : UInt32
  intNo : UInt32
  errCode : UInt32
  eip : UInt32
  cs : UInt32
  eflags : UInt32
  useresp : UInt32
  ss : UInt32
  deriving Repr, DecidableEq

/-- What the handlers work on: processes, user memory, and what has been written to the screen. -/
structure SyscallWorld where
  kernel : KernelState
  userMem : UInt32 → UInt8
  screen : List UInt8

/-- `syscall_handler_t`. -/
inductive SyscallHandler (U : Type) where
  | sysExit
  | sysWrite
  | sysRead
  | sysOpen
  | sysClose
  | sysGetpid
  | sysSleep
  | sysFork
  | user (u : U)
  deriving Repr, DecidableEq

/-! ## The handlers -/

/-- `(uint32_t)-1`. -/
def syscallError : UInt32 := 0xFFFFFFFF

def sysWrite (args : List UInt32) (argCount : UInt32) (w : SyscallWorld) : UInt32 × SyscallWorld :=
  if argCount < 3 then (syscallError, w)
  else
    let fd := args.getD 0 0
    let buf := args.getD 1 0
    let count := args.getD 2 0
    if buf = 0 ∨ count = 0 ∨ memoryValidateUserBuffer buf count = false then (syscallError, w)
    else if fd = 1 ∨ fd = 2 then
      (count, { w with
        screen := w.screen ++
          (List.range count.toNat).map fun i => w.userMem (buf + UInt32.ofNat i) })
    else (syscallError, w)

def sysRead (args : List UInt32) (argCount : UInt32) (w : SyscallWorld) : UInt32 × SyscallWorld :=
  if argCount < 3 then (syscallError, w)
  else
    let fd := args.getD 0 0
    let buf := args.getD 1 0
    let count := args.getD 2 0
    if buf = 0 ∨ count = 0 ∨ memoryValidateUserBuffer buf count = false then (syscallError, w)
    else if fd = 0 then (0, w)
    else (syscallError, w)

/-- "TODO: Implement vfs_open": the call fails, whatever the check of the path says. -/
def sysOpen (args : List UInt32) (argCount : UInt32) (w : SyscallWorld) : UInt32 × SyscallWorld :=
  if argCount < 2 then (syscallError, w)
  else
    let path := args.getD 0 0
    if path = 0 ∨ memoryValidateUserString w.userMem path = false then (syscallError, w)
    else (syscallError, w)

def sysGetpid (w : SyscallWorld) : UInt32 × SyscallWorld :=
  if w.kernel.pm.currentProcess = null then (syscallError, w)
  else (UInt32.ofNat (w.kernel.mem w.kernel.pm.currentProcess).pid, w)

def sysSleep (argCount : UInt32) (w : SyscallWorld) : UInt32 × SyscallWorld :=
  if argCount < 1 then (syscallError, w) else (0, w)

/-- What the other handlers do. -/
abbrev UserHandlers (U : Type) :=
  U → List UInt32 → UInt32 → SyscallWorld → UInt32 × SyscallWorld

/-- A call through the function pointer. -/
def invokeHandler {U : Type} (user : UserHandlers U) :
    SyscallHandler U → List UInt32 → UInt32 → SyscallWorld → UInt32 × SyscallWorld
  | .sysExit, args, argCount, w =>
    let r := sysExit w.kernel (args.take argCount.toNat)
    (r.1, { w with kernel := r.2 })
  | .sysWrite, args, argCount, w => sysWrite args argCount w
  | .sysRead, args, argCount, w => sysRead args argCount w
  | .sysOpen, args, argCount, w => sysOpen args argCount w
  | .sysClose, _, _, w => (syscallError, w)
  | .sysGetpid, _, _, w => sysGetpid w
  | .sysSleep, _, argCount, w => sysSleep argCount w
  | .sysFork, _, _, w => (syscallError, w)
  | .user u, args, argCount, w => user u args argCount w

/-! ## The table -/

/-- `syscall_entry_t`, with `none` for NULL. -/
structure SyscallEntry (U : Type) where
  handler : Option (SyscallHandler U)
  name : Option String
  argCount : UInt32
  deriving Repr, DecidableEq

def SyscallEntry.zero {U : Type} : SyscallEntry U where
  handler := none
  name := none
  argCount := 0

def maxSyscalls : UInt32 := 128

/-- `syscall_state`. -/
structure SyscallState (U : Type) where
  syscalls : List (SyscallEntry U)
  syscallCount : UInt32
  initialized : Bool
  deriving Repr, DecidableEq

/-- After `memset`, and at boot. -/
def SyscallState.zero {U : Type} : SyscallState U where
  syscalls := List.replicate maxSyscalls.toNat SyscallEntry.zero
  syscallCount := 0
  initialized := false

variable {U : Type}

def syscallRegister (s : SyscallState U) (num : UInt32) (handler : Option (SyscallHandler U))
    (name : Option String) (argCount : UInt32) : Bool × SyscallState U :=
  if s.initialized = false ∨ num ≥ maxSyscalls ∨ handler = none ∨ name = none then (false, s)
  else
    (true, { s with
      syscalls := s.syscalls.set num.toNat { handler := handler, name := name, argCount := argCount }
      syscallCount := if num ≥ s.syscallCount then num + 1 else s.syscallCount })

/-- The arguments of the eight calls in `syscall_init_defaults`. -/
def syscallDefaults : List (UInt32 × SyscallHandler U × String × UInt32) :=
  [(0, .sysExit, "exit", 1), (1, .sysWrite, "write", 3), (2, .sysRead, "read", 3),
   (3, .sysOpen, "open", 2), (4, .sysClose, "close", 1), (5, .sysGetpid, "getpid", 0),
   (6, .sysSleep, "sleep", 1), (7, .sysFork, "fork", 0)]

def syscallInitDefaults (s : SyscallState U) : SyscallState U :=
  syscallDefaults.foldl
    (fun s d => (syscallRegister s d.1 (some d.2.1) (some d.2.2.1) d.2.2.2).2) s

/-- `initialized` is set after the defaults. -/
def syscallInit (s : SyscallState U) : Bool × SyscallState U :=
  if s.initialized then (true, s)
  else (true, { syscallInitDefaults SyscallState.zero with initialized := true })

/-! ## Dispatch -/

/-- What `syscall_handler` does: the handler it calls, if any, and the results. -/
structure Dispatched (U : Type) where
  called : Option (SyscallHandler U × List UInt32 × UInt32)
  regs : Registers
  world : SyscallWorld

def syscallHandler (user : UserHandlers U) (s : SyscallState U) (r : Registers)
    (w : SyscallWorld) : Dispatched U :=
  let num := r.eax
  let entry := s.syscalls.getD num.toNat SyscallEntry.zero
  match (if num ≥ s.syscallCount then none else entry.handler) with
  | none => { called := none, regs := { r with eax := syscallError }, world := w }
  | some handler =>
    let args := [r.ebx, r.ecx, r.edx, r.esi, r.edi]
    let result := invokeHandler user handler args entry.argCount w
    { called := some (handler, args, entry.argCount)
      regs := { r with eax := result.1 }
      world := result.2 }

end MayaOs.Kernel
