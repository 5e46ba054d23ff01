import Mathlib.Data.Set.Lattice
import Mathlib.Order.Interval.Set.Basic
import MayaOs.Kernel.SyscallTable

/-!
# What the system calls do to user memory

Which bytes a handler touches, or hands on, and which bytes it has had checked before. Bytes are
natural numbers here, so nothing wraps around.

* `guarded_iff` — every handler checks first, except `sys_accept` with an address and a length
* `accept_reads_kernel` — `accept` reads a word of the kernel
-/

namespace MayaOs.Kernel.SyscallTable

/-! ## Bytes -/

/-- The bytes of a buffer. -/
def bufferBytes (ptr len : UInt32) : Set Nat := Set.Ico ptr.toNat (ptr.toNat + len.toNat)

/-- The bytes of a string, up to its terminator. -/
def stringBytes (mem : UserMemory) (str : UInt32) : Set Nat :=
  {a | ∃ i, a = str.toNat + i ∧ ∀ j < i, mem (str + UInt32.ofNat j) ≠ 0}

/--
The user memory that a call hands on. Of `argv` and `envp` no length is known; `accept` takes the
length of its buffer from user memory.
-/
def ServiceCall.userBytes (mem : UserMemory) : ServiceCall → Set Nat
  | .fsRead _ buf count => bufferBytes buf count
  | .fsWrite _ buf count => bufferBytes buf count
  | .fsOpen path _ _ => stringBytes mem path
  | .processExecve path _ _ => stringBytes mem path
  | .processWait status => if status = 0 then ∅ else bufferBytes status 4
  | .pipeCreate readFd writeFd => bufferBytes readFd 4 ∪ bufferBytes writeFd 4
  | .netBind _ addr addrlen => bufferBytes addr addrlen
  | .netConnect _ addr addrlen => bufferBytes addr addrlen
  | .netAccept _ addr addrlen =>
    (if addr = 0 then ∅ else bufferBytes addr (wordAt mem addrlen)) ∪ bufferBytes addrlen 4
  | .netSend _ buf len _ => bufferBytes buf len
  | .netRecv _ buf len _ => bufferBytes buf len
  | _ => ∅

/-- What a step touches or hands on. -/
def accessed (mem : UserMemory) : UserEvent → Set Nat
  | .deref ptr len => bufferBytes ptr len
  | .call c => c.userBytes mem
  | _ => ∅

/-- What a step has checked and found good. -/
def accepted (mem : UserMemory) : UserEvent → Set Nat
  | .checkBuffer ptr len => if memoryValidateUserBuffer ptr len = true then bufferBytes ptr len else ∅
  | .checkString str => if memoryValidateUserString mem str = true then stringBytes mem str else ∅
  | _ => ∅

def accessedBytes (mem : UserMemory) (t : List UserEvent) : Set Nat :=
  {a | ∃ e ∈ t, a ∈ accessed mem e}

def acceptedBytes (mem : UserMemory) (t : List UserEvent) : Set Nat :=
  {a | ∃ e ∈ t, a ∈ accepted mem e}

/-- Every byte is accepted before it is accessed; what is accepted before a call is what is accessed;
and all of it is below the kernel. -/
structure Guarded (mem : UserMemory) (t : List UserEvent) : Prop where
  before : ∀ pre e post, t = pre ++ e :: post → accessed mem e ⊆ acceptedBytes mem pre
  exact : ∀ pre c, t = pre ++ [.call c] → acceptedBytes mem t = accessedBytes mem t
  below : ∀ a ∈ accessedBytes mem t, a < 0xC0000000

/-! ## What is accepted is below the kernel -/

theorem bufferBytes_below {ptr len : UInt32} (h : memoryValidateUserBuffer ptr len = true) :
    ∀ a ∈ bufferBytes ptr len, a < 0xC0000000 := by
  rintro a ⟨-, ha⟩
  have hle := ((memoryValidateUserBuffer_iff ptr len).mp h).2.2
  omega

theorem stringBytes_below {mem : UserMemory} {str : UInt32}
    (h : memoryValidateUserString mem str = true) :
    ∀ a ∈ stringBytes mem str, a < 0xC0000000 := by
  rintro a ⟨i, rfl, hi⟩
  unfold memoryValidateUserString at h
  split at h
  · cases h
  · split at h
    · cases h
    · rename_i hlow
      obtain ⟨k, -, -, hk, hzero, -⟩ :=
        scanUserString_spec (UInt32.not_le.mp hlow) 4096 0 (Nat.le_refl _) h
      -- the terminator bounds the string
      have hik : i ≤ k := by
        by_contra hlt
        exact hi k (Nat.lt_of_not_le hlt) hzero
      omega

theorem accepted_below {mem : UserMemory} {e : UserEvent} :
    ∀ a ∈ accepted mem e, a < 0xC0000000 := by
  intro a ha
  cases e with
  | checkBuffer ptr len =>
    simp only [accepted] at ha
    split at ha
    · rename_i hv
      exact bufferBytes_below hv a ha
    · exact absurd ha (Set.notMem_empty a)
  | checkString str =>
    simp only [accepted] at ha
    split at ha
    · rename_i hv
      exact stringBytes_below hv a ha
    · exact absurd ha (Set.notMem_empty a)
  | checkPtr ptr => exact absurd ha (Set.notMem_empty a)
  | deref ptr len => exact absurd ha (Set.notMem_empty a)
  | call c => exact absurd ha (Set.notMem_empty a)

/-! ## Traces -/

/-- A trace without calls that touches nothing. -/
theorem guarded_of_no_access {mem : UserMemory} {t : List UserEvent}
    (h : ∀ e ∈ t, accessed mem e = ∅) (hcall : ∀ c, .call c ∉ t) : Guarded mem t where
  before := by
    rintro pre e post rfl
    rw [h e (by simp)]
    exact Set.empty_subset _
  exact := fun pre c ht => absurd (by rw [ht]; simp) (hcall c)
  below := by
    rintro a ⟨e, he, ha⟩
    rw [h e he] at ha
    exact absurd ha (Set.notMem_empty a)

/-- A trace that ends with the one access, of exactly what has been accepted. -/
theorem guarded_of_call {mem : UserMemory} (pre : List UserEvent) {c : ServiceCall}
    (h : ∀ e ∈ pre, accessed mem e = ∅) (hc : c.userBytes mem = acceptedBytes mem pre) :
    Guarded mem (pre ++ [.call c]) := by
  have hacc : accessedBytes mem (pre ++ [.call c]) = c.userBytes mem := by
    ext a
    constructor
    · rintro ⟨e, he, ha⟩
      rcases List.mem_append.mp he with he | he
      · rw [h e he] at ha
        exact absurd ha (Set.notMem_empty a)
      · rw [List.mem_singleton.mp he] at ha
        exact ha
    · intro ha
      exact ⟨.call c, by simp, ha⟩
  have hokay : acceptedBytes mem (pre ++ [.call c]) = acceptedBytes mem pre := by
    ext a
    constructor
    · rintro ⟨e, he, ha⟩
      rcases List.mem_append.mp he with he | he
      · exact ⟨e, he, ha⟩
      · rw [List.mem_singleton.mp he] at ha
        exact absurd ha (Set.notMem_empty a)
    · rintro ⟨e, he, ha⟩
      exact ⟨e, List.mem_append_left _ he, ha⟩
  refine ⟨?_, ?_, ?_⟩
  · intro pre' e post ht
    rcases List.eq_nil_or_concat post with rfl | ⟨post, e', rfl⟩
    · obtain ⟨rfl, he⟩ := List.append_inj' ht rfl
      cases he
      exact hc.subset
    · -- anything but the last step touches nothing
      have hmem : e ∈ pre := by
        rw [List.concat_eq_append, ← List.cons_append, ← List.append_assoc] at ht
        obtain ⟨rfl, -⟩ := List.append_inj' ht rfl
        simp
      rw [h e hmem]
      exact Set.empty_subset _
  · intro _ _ _
    rw [hacc, hokay, hc]
  · rw [hacc, hc]
    rintro a ⟨e, -, ha⟩
    exact accepted_below a ha

/-! ## The handlers -/

variable {k : Services}

theorem guarded_service {c : ServiceCall} (hc : c.userBytes k.mem = ∅) :
    Guarded k.mem [.call c] := by
  refine guarded_of_call [] (by simp) ?_
  rw [hc]
  ext a
  simp [acceptedBytes]

theorem acceptedBytes_checkBuffer {mem : UserMemory} {ptr len : UInt32}
    (h : memoryValidateUserBuffer ptr len = true) :
    acceptedBytes mem [.checkBuffer ptr len] = bufferBytes ptr len := by
  ext a
  simp [acceptedBytes, accepted, h]

theorem guarded_withBuffer {ptr len : UInt32} {c : ServiceCall}
    (hc : memoryValidateUserBuffer ptr len = true → c.userBytes k.mem = bufferBytes ptr len) :
    Guarded k.mem (withBuffer k ptr len c).1 := by
  unfold withBuffer
  split
  · exact guarded_of_no_access (by simp [accessed]) (by simp)
  · rename_i hv
    rw [Bool.not_eq_false] at hv
    exact guarded_of_call [.checkBuffer ptr len] (by simp [accessed])
      ((hc hv).trans (acceptedBytes_checkBuffer hv).symm)

theorem guarded_sysOpen (args : Args) : Guarded k.mem (sysOpen k args).1 := by
  unfold sysOpen
  dsimp only
  split
  · exact guarded_of_no_access (by simp [accessed]) (by simp)
  · rename_i hv
    rw [Bool.not_eq_false] at hv
    refine guarded_of_call [.checkString (args 0)] (by simp [accessed]) ?_
    ext a
    simp [acceptedBytes, accepted, hv, ServiceCall.userBytes]

theorem guarded_sysExecve (args : Args) : Guarded k.mem (sysExecve k args).1 := by
  unfold sysExecve
  dsimp only
  split
  · exact guarded_of_no_access (by simp [accessed]) (by simp)
  · rename_i hv
    rw [Bool.not_eq_false] at hv
    split
    · exact guarded_of_no_access (by simp [accessed]) (by simp)
    · split
      · exact guarded_of_no_access (by simp [accessed]) (by simp)
      · refine guarded_of_call [.checkString (args 0), .checkPtr (args 1), .checkPtr (args 2)]
          (by simp [accessed]) ?_
        ext a
        simp [acceptedBytes, accepted, hv, ServiceCall.userBytes]

theorem guarded_sysWait (args : Args) : Guarded k.mem (sysWait k args).1 := by
  unfold sysWait
  by_cases h0 : args 0 = 0
  · simp only [if_pos h0]
    refine guarded_service ?_
    simp only [ServiceCall.userBytes, if_pos h0]
  · simp only [if_neg h0]
    refine guarded_withBuffer fun _ => ?_
    simp only [ServiceCall.userBytes, if_neg h0]

/-- The two descriptors make up the eight bytes that have been checked. -/
theorem guarded_sysPipe (args : Args) : Guarded k.mem (sysPipe k args).1 := by
  refine guarded_withBuffer fun hv => ?_
  have hle := ((memoryValidateUserBuffer_iff _ _).mp hv).2.2
  have h8 : (8 : UInt32).toNat = 8 := rfl
  have h4 : (4 : UInt32).toNat = 4 := rfl
  have hadd : (args 0 + 4).toNat = (args 0).toNat + 4 := by
    rw [UInt32.toNat_add, h4, Nat.mod_eq_of_lt (by omega)]
  ext a
  simp only [ServiceCall.userBytes, bufferBytes, Set.mem_union, Set.mem_Ico, hadd, h8, h4]
  omega

/-- Without an address the length is checked before it is read, or used for anything. -/
theorem guarded_sysAccept {args : Args} (h : ¬ (args 1 ≠ 0 ∧ args 2 ≠ 0)) :
    Guarded k.mem (sysAccept k args).1 := by
  unfold sysAccept
  simp only [if_neg h, Bool.false_eq_true, if_false, List.nil_append]
  split
  · exact guarded_of_no_access (by simp [accessed]) (by simp)
  · rename_i hv
    rw [Bool.not_eq_false] at hv
    refine guarded_of_call [.checkBuffer (args 2) 4] (by simp [accessed]) ?_
    rw [acceptedBytes_checkBuffer hv]
    have h1 : args 1 = 0 := by
      by_contra h1
      exact ((memoryValidateUserBuffer_iff _ _).mp hv).1 (by_contra fun h2 => h ⟨h1, h2⟩)
    simp only [ServiceCall.userBytes, if_pos h1, Set.empty_union]

/-- With both, `*addrlen` is the first thing that happens. -/
theorem sysAccept_derefs {args : Args} (h : args 1 ≠ 0 ∧ args 2 ≠ 0) :
    ∃ post, (sysAccept k args).1 = [] ++ .deref (args 2) 4 :: post := by
  unfold sysAccept
  simp only [if_pos h]
  split
  · exact ⟨_, rfl⟩
  · split
    · exact ⟨_, rfl⟩
    · exact ⟨_, rfl⟩

theorem not_guarded_of_derefs {mem : UserMemory} {t post : List UserEvent} {ptr : UInt32}
    (h : t = [] ++ .deref ptr 4 :: post) : ¬ Guarded mem t := by
  intro hg
  have hmem : ptr.toNat ∈ bufferBytes ptr 4 := ⟨Nat.le_refl _, Nat.lt_add_of_pos_right (by decide)⟩
  obtain ⟨e, he, -⟩ := hg.before [] _ post h hmem
  simp at he

/-! ## Main results -/

/-- **Every handler of the table touches, or hands on, only bytes of user memory that it has had
checked, except exactly** `accept` with an address and a length. -/
theorem guarded_iff (k : Services) (n : Syscall) (args : Args) :
    Guarded k.mem (handle k n args).1 ↔ ¬ (n = .accept ∧ args 1 ≠ 0 ∧ args 2 ≠ 0) := by
  by_cases hn : n = .accept
  · subst hn
    constructor
    · rintro hg ⟨-, h⟩
      obtain ⟨post, hpost⟩ := sysAccept_derefs (k := k) h
      exact not_guarded_of_derefs hpost hg
    · intro h
      exact guarded_sysAccept fun hboth => h ⟨rfl, hboth⟩
  · refine iff_of_true ?_ fun h => hn h.1
    cases n with
    | exit => exact guarded_service rfl
    | fork => exact guarded_service rfl
    | read => exact guarded_withBuffer fun _ => rfl
    | write => exact guarded_withBuffer fun _ => rfl
    | «open» => exact guarded_sysOpen args
    | close => exact guarded_service rfl
    | execve => exact guarded_sysExecve args
    | wait => exact guarded_sysWait args
    | pipe => exact guarded_sysPipe args
    | dup => exact guarded_service rfl
    | dup2 => exact guarded_service rfl
    | getpid =>
      exact guarded_of_no_access (fun _ he => absurd he List.not_mem_nil) fun _ => List.not_mem_nil
    | brk => exact guarded_service rfl
    | sleep => exact guarded_service rfl
    | kill => exact guarded_service rfl
    | socket => exact guarded_service rfl
    | bind => exact guarded_withBuffer fun _ => rfl
    | connect => exact guarded_withBuffer fun _ => rfl
    | listen => exact guarded_service rfl
    | accept => exact absurd rfl hn
    | send => exact guarded_withBuffer fun _ => rfl
    | recv => exact guarded_withBuffer fun _ => rfl

/-- The arguments of `accept(3, 0x08050000, 0xC0100000)`. -/
def kernelLength : Args := fun i => [3, 0x08050000, 0xC0100000].getD i 0

/-- Nothing but zeros in memory, and services that do nothing. -/
def idleServices : Services where
  mem := fun _ => 0
  currentPid := none
  childPid := none
  validateUserPtr := fun _ => true
  result := fun _ => 0

/-- `accept` reads its length from the kernel. -/
theorem accept_reads_kernel :
    (handle idleServices .accept kernelLength).1.head? = some (.deref 0xC0100000 4) ∧
      ¬ Guarded idleServices.mem (handle idleServices .accept kernelLength).1 := by
  have hboth : kernelLength 1 ≠ 0 ∧ kernelLength 2 ≠ 0 := by decide
  obtain ⟨post, hpost⟩ := sysAccept_derefs (k := idleServices) hboth
  exact ⟨congrArg List.head? hpost, not_guarded_of_derefs hpost⟩

end MayaOs.Kernel.SyscallTable
