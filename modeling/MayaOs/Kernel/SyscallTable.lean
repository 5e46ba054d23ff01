import MayaOs.Kernel.Syscall
import MayaOs.Lib.Bytes

/-!
# The table of system calls (`kernel/syscall_table.c`)

What each handler does with its arguments, as a trace: which addresses it has checked, what it reads
of user memory itself, and what it hands to the rest of the kernel. The services of the rest of the
kernel, and `memory_validate_user_ptr`, which no file defines, are parameters.
-/

namespace MayaOs.Kernel.SyscallTable

open MayaOs.Lib

/-- A call of another part of the kernel. -/
inductive ServiceCall where
  | processExit (status : UInt32)
  | processFork
  | fsRead (fd buf count : UInt32)
  | fsWrite (fd buf count : UInt32)
  | fsOpen (path flags mode : UInt32)
  | fsClose (fd : UInt32)
  | processExecve (path argv envp : UInt32)
  | processWait (status : UInt32)
  | pipeCreate (readFd writeFd : UInt32)
  | fsDup (fd : UInt32)
  | fsDup2 (oldFd newFd : UInt32)
  | memorySbrk (increment : UInt32)
  | timerSleep (ms : UInt32)
  | processKill (pid sig : UInt32)
  | netSocket (domain type protocol : UInt32)
  | netBind (sockfd addr addrlen : UInt32)
  | netConnect (sockfd addr addrlen : UInt32)
  | netListen (sockfd backlog : UInt32)
  | netAccept (sockfd addr addrlen : UInt32)
  | netSend (sockfd buf len flags : UInt32)
  | netRecv (sockfd buf len flags : UInt32)
  deriving Repr, DecidableEq

/-- One step of a handler. -/
inductive UserEvent where
  | checkBuffer (ptr len : UInt32)
  | checkString (str : UInt32)
  | checkPtr (ptr : UInt32)
  /-- The handler itself reads `len` bytes at `ptr`. -/
  | deref (ptr len : UInt32)
  | call (c : ServiceCall)
  deriving Repr, DecidableEq

/-- What can be read at each address of user memory. -/
abbrev UserMemory := UInt32 → UInt8

/-- The word at `a`. -/
def wordAt (m : UserMemory) (a : UInt32) : UInt32 := u32 (m a) (m (a + 1)) (m (a + 2)) (m (a + 3))

/-- What the handlers find: user memory, and what the rest of the kernel answers. -/
structure Services where
  mem : UserMemory
  /-- The pid of `process_get_current()`. -/
  currentPid : Option UInt32
  /-- The pid of the child that `process_fork` makes. -/
  childPid : Option UInt32
  validateUserPtr : UInt32 → Bool
  result : ServiceCall → UInt32

/-- What a handler does and returns. -/
abbrev Handled := List UserEvent × UInt32

/-- `uint32_t args[]`. -/
abbrev Args := Nat → UInt32

variable (k : Services)

/-! ## The handlers -/

/-- The handlers that only pass numbers on. -/
def service (c : ServiceCall) : Handled := ([.call c], k.result c)

/-- `if (!memory_validate_user_buffer(ptr, len)) return -1;` before the call. -/
def withBuffer (ptr len : UInt32) (c : ServiceCall) : Handled :=
  if memoryValidateUserBuffer ptr len = false then ([.checkBuffer ptr len], syscallError)
  else ([.checkBuffer ptr len, .call c], k.result c)

def sysExit (args : Args) : Handled := ([.call (.processExit (args 0))], 0)

def sysFork (_ : Args) : Handled := ([.call .processFork], k.childPid.getD syscallError)

def sysRead (args : Args) : Handled :=
  withBuffer k (args 1) (args 2) (.fsRead (args 0) (args 1) (args 2))

def sysWrite (args : Args) : Handled :=
  withBuffer k (args 1) (args 2) (.fsWrite (args 0) (args 1) (args 2))

def sysOpen (args : Args) : Handled :=
  let path := args 0
  if memoryValidateUserString k.mem path = false then ([.checkString path], syscallError)
  else
    ([.checkString path, .call (.fsOpen path (args 1) (args 2))],
      k.result (.fsOpen path (args 1) (args 2)))

def sysClose (args : Args) : Handled := service k (.fsClose (args 0))

def sysExecve (args : Args) : Handled :=
  let path := args 0
  let argv := args 1
  let envp := args 2
  if memoryValidateUserString k.mem path = false then ([.checkString path], syscallError)
  else if k.validateUserPtr argv = false then ([.checkString path, .checkPtr argv], syscallError)
  else if k.validateUserPtr envp = false then
    ([.checkString path, .checkPtr argv, .checkPtr envp], syscallError)
  else
    ([.checkString path, .checkPtr argv, .checkPtr envp, .call (.processExecve path argv envp)],
      k.result (.processExecve path argv envp))

def sysWait (args : Args) : Handled :=
  let status := args 0
  if status = 0 then service k (.processWait status)
  else withBuffer k status 4 (.processWait status)

/-- `&fds[0]` and `&fds[1]` are passed on. -/
def sysPipe (args : Args) : Handled :=
  let fds := args 0
  withBuffer k fds 8 (.pipeCreate fds (fds + 4))

def sysDup (args : Args) : Handled := service k (.fsDup (args 0))

def sysDup2 (args : Args) : Handled := service k (.fsDup2 (args 0) (args 1))

def sysGetpid (_ : Args) : Handled := ([], k.currentPid.getD syscallError)

def sysBrk (args : Args) : Handled := service k (.memorySbrk (args 0))

def sysSleep (args : Args) : Handled := ([.call (.timerSleep (args 0))], 0)

def sysKill (args : Args) : Handled := service k (.processKill (args 0) (args 1))

def sysSocket (args : Args) : Handled := service k (.netSocket (args 0) (args 1) (args 2))

def sysBind (args : Args) : Handled :=
  withBuffer k (args 1) (args 2) (.netBind (args 0) (args 1) (args 2))

def sysConnect (args : Args) : Handled :=
  withBuffer k (args 1) (args 2) (.netConnect (args 0) (args 1) (args 2))

def sysListen (args : Args) : Handled := service k (.netListen (args 0) (args 1))

/--
`if (addr && addrlen && !memory_validate_user_buffer(addr, *addrlen) || ...)`: `&&` binds tighter
than `||`.
-/
def sysAccept (args : Args) : Handled :=
  let addr := args 1
  let addrlen := args 2
  let checkAddr :=
    if addr ≠ 0 ∧ addrlen ≠ 0 then
      let len := wordAt k.mem addrlen
      ([UserEvent.deref addrlen 4, .checkBuffer addr len], !memoryValidateUserBuffer addr len)
    else ([], false)
  if checkAddr.2 = true then (checkAddr.1, syscallError)
  else if memoryValidateUserBuffer addrlen 4 = false then
    (checkAddr.1 ++ [.checkBuffer addrlen 4], syscallError)
  else
    (checkAddr.1 ++ [.checkBuffer addrlen 4, .call (.netAccept (args 0) addr addrlen)],
      k.result (.netAccept (args 0) addr addrlen))

def sysSend (args : Args) : Handled :=
  withBuffer k (args 1) (args 2) (.netSend (args 0) (args 1) (args 2) (args 3))

def sysRecv (args : Args) : Handled :=
  withBuffer k (args 1) (args 2) (.netRecv (args 0) (args 1) (args 2) (args 3))

/-! ## The table -/

/-- The `SYS_` constants. -/
inductive Syscall where
  | exit
  | fork
  | read
  | write
  | open
  | close
  | execve
  | wait
  | pipe
  | dup
  | dup2
  | getpid
  | brk
  | sleep
  | kill
  | socket
  | bind
  | connect
  | listen
  | accept
  | send
  | recv
  deriving Repr, DecidableEq

/-- `syscall_table`. -/
def syscallTable : Syscall → String × (Services → Args → Handled) × UInt32
  | .exit => ("exit", fun _ => sysExit, 1)
  | .fork => ("fork", sysFork, 0)
  | .read => ("read", sysRead, 3)
  | .write => ("write", sysWrite, 3)
  | .open => ("open", sysOpen, 3)
  | .close => ("close", sysClose, 1)
  | .execve => ("execve", sysExecve, 3)
  | .wait => ("wait", sysWait, 1)
  | .pipe => ("pipe", sysPipe, 1)
  | .dup => ("dup", sysDup, 1)
  | .dup2 => ("dup2", sysDup2, 2)
  | .getpid => ("getpid", sysGetpid, 0)
  | .brk => ("brk", sysBrk, 1)
  | .sleep => ("sleep", fun _ => sysSleep, 1)
  | .kill => ("kill", sysKill, 2)
  | .socket => ("socket", sysSocket, 3)
  | .bind => ("bind", sysBind, 3)
  | .connect => ("connect", sysConnect, 3)
  | .listen => ("listen", sysListen, 2)
  | .accept => ("accept", sysAccept, 3)
  | .send => ("send", sysSend, 4)
  | .recv => ("recv", sysRecv, 4)

/-- What the handler in the table does. -/
def handle (n : Syscall) (args : Args) : Handled := (syscallTable n).2.1 k args

end MayaOs.Kernel.SyscallTable
