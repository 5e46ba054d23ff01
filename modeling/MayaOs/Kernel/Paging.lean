import MayaOs.Lib.ByteMemory

/-!
# Paging (`kernel/memory.c`)

Addresses and entries are `uint32_t` values as numbers. The page directory and the page tables are
read and written at their addresses, whatever is mapped there.

`kmalloc_aligned` is a parameter here. It is always called for one page; its `n`-th call makes of the
memory an address, 0 for NULL, and the memory it leaves.
-/

namespace MayaOs.Kernel

open MayaOs.Lib

def pageSize : Nat := 4096

/-- `kmalloc_aligned(PAGE_SIZE)`, by the number of calls before. -/
abbrev FrameAllocator := Nat → ByteMemory → Nat × ByteMemory

/-- The static variables, the control registers, and the memory. -/
structure PagingState where
  mem : ByteMemory
  pageDirectory : Nat
  mmuInitialized : Bool
  cr0 : Nat
  cr3 : Nat
  /-- How often `kmalloc_aligned` has been called. -/
  allocations : Nat

/-! ## Entries -/

/-- `table[i]`. -/
def entry (m : ByteMemory) (table i : Nat) : Nat := word m (table + 4 * i)

def setEntry (m : ByteMemory) (table i v : Nat) : ByteMemory := storeWord m (table + 4 * i) v

def pdIndex (addr : Nat) : Nat := addr >>> 22
def ptIndex (addr : Nat) : Nat := (addr >>> 12) &&& 0x3FF

/-! ## The functions -/

variable (kmallocAligned : FrameAllocator)

/-- A call of `kmalloc_aligned`. -/
def allocateFrame (s : PagingState) : Nat × PagingState :=
  let r := kmallocAligned s.allocations s.mem
  (r.1, { s with mem := r.2, allocations := s.allocations + 1 })

/-- "Get/Create page table", `none` when `kmalloc_aligned` returns NULL. -/
def getPageTable (s : PagingState) (pdIndex : Nat) : Option Nat × PagingState :=
  if entry s.mem s.pageDirectory pdIndex &&& 1 = 0 then
    let (pageTable, s) := allocateFrame kmallocAligned s
    if pageTable = 0 then (none, s)
    else
      let m := memset s.mem pageTable 0 pageSize
      (some pageTable, { s with mem := setEntry m s.pageDirectory pdIndex (pageTable ||| 3) })
  else (some (entry s.mem s.pageDirectory pdIndex &&& 0xFFFFF000), s)

/-- `page_map`. -/
def pageMap (s : PagingState) (virtualAddr physicalAddr : Nat) : Bool × PagingState :=
  if s.mmuInitialized = false then (false, s)
  else
    match getPageTable kmallocAligned s (pdIndex virtualAddr) with
    | (none, s) => (false, s)
    | (some pageTable, s) =>
      (true, { s with
        mem := setEntry s.mem pageTable (ptIndex virtualAddr) (physicalAddr &&& 0xFFFFF000 ||| 3) })

/-- "Identity map first 4MB". -/
def identityMap (s : PagingState) : PagingState :=
  (List.range 1024).foldl (fun s i =>
    (pageMap kmallocAligned s (i * pageSize) (i * pageSize)).2) s

/-- `vmm_init`. -/
def vmmInit (s : PagingState) : Bool × PagingState :=
  if s.mmuInitialized = true then (true, s)
  else
    let (directory, s) := allocateFrame kmallocAligned s
    let s := { s with pageDirectory := directory }
    if directory = 0 then (false, s)
    else
      let s := { s with mem := memset s.mem directory 0 pageSize }
      let s := identityMap kmallocAligned s
      (true, { s with cr0 := s.cr0 ||| 0x80000000, cr3 := s.pageDirectory, mmuInitialized := true })

/-- "Proper page table walk", `none` where there is no present entry. -/
def walk (s : PagingState) (addr : Nat) : Option Nat :=
  if entry s.mem s.pageDirectory (pdIndex addr) &&& 1 = 0 then none
  else
    let pageTable := entry s.mem s.pageDirectory (pdIndex addr) &&& 0xFFFFF000
    if entry s.mem pageTable (ptIndex addr) &&& 1 = 0 then none
    else some (entry s.mem pageTable (ptIndex addr) &&& 0xFFFFF000 ||| addr &&& 0xFFF)

/-- `memory_get_physical`. -/
def memoryGetPhysical (s : PagingState) (addr : Nat) : Nat :=
  if addr < 0x400000 then addr else (walk s addr).getD 0

/-- The loop of `memory_map_physical`, `none` when it is still going after so many steps. -/
def mapPhysicalLoop (stop : Nat) : Nat → PagingState → Nat → Option PagingState
  | 0, _, _ => none
  | fuel + 1, s, addr =>
    if addr < stop then
      mapPhysicalLoop stop fuel (pageMap kmallocAligned s addr addr).2 (wrap32 (addr + 0x1000))
    else some s

/-- There are not more pages than this. -/
def maxPages : Nat := 2 ^ 20

/-- `memory_map_physical`. -/
def memoryMapPhysical (s : PagingState) (physAddr size : Nat) : Option (Nat × PagingState) :=
  let start := physAddr &&& 0xFFFFF000
  let stop := wrap32 (physAddr + size + 0xFFF) &&& 0xFFFFF000
  (mapPhysicalLoop kmallocAligned stop (maxPages + 1) s start).map fun s => (physAddr, s)

/-- `memory_map_region_v`. -/
def memoryMapRegionV (s : PagingState) (physAddr virtAddr size _flags : Nat) :
    Nat × PagingState :=
  let pStart := physAddr &&& 0xFFFFF000
  let vStart := virtAddr &&& 0xFFFFF000
  let count := wrap32 (size + 0xFFF) / 0x1000
  (virtAddr, (List.range count).foldl (fun s i =>
    (pageMap kmallocAligned s (wrap32 (vStart + i * 0x1000)) (wrap32 (pStart + i * 0x1000))).2) s)

end MayaOs.Kernel
