import MayaOs.Lib.Run
import MayaOs.Properties.FatGeometry

/-!
# The heap blocks of the FAT32 driver

A block is numbered by the call of `kmalloc` that has returned it, so that every call that succeeds
returns a new one.

* `fat32InitFrom_owned` — `fat32_init` leaves three blocks, or none
* `fat_blocks_balanced` — so it is after any calls of `fat32_init` and `fat32_cleanup`
-/

namespace MayaOs.Fs

open MayaOs.Lib MayaOs.Drivers

/-! ## Blocks -/

/-- The blocks in use after a call; `none` if a block is freed that is not in use. -/
def liveStep (live : List Nat) : HeapCall → Option (List Nat)
  | .kmalloc block => some (block :: live)
  | .kfree block => if block ∈ live then some (live.erase block) else none

/-- The outcomes of the calls of `kmalloc` from the `n`th on: a new block, or NULL. -/
def numbered : Nat → List Bool → List (Option Nat)
  | _, [] => []
  | n, success :: outcomes => (if success then some n else none) :: numbered (n + 1) outcomes

/-- The calls so far have been in order, and the blocks to come are new. -/
structure HeapInv (heap : FatHeap) (live : List Nat) : Prop where
  inUse : run liveStep [] heap.calls = some live
  nodup : live.Nodup
  fresh : ∃ n outcomes, heap.outcomes = numbered n outcomes ∧ ∀ block ∈ live, block < n

theorem HeapInv.kmalloc {heap : FatHeap} {live : List Nat} (h : HeapInv heap live) (size : UInt32) :
    (∃ heap', heap.kmalloc size = (none, heap') ∧ HeapInv heap' live) ∨
      ∃ block heap', heap.kmalloc size = (some block, heap') ∧ HeapInv heap' (block :: live) := by
  obtain ⟨n, outcomes, hfresh, hlt⟩ := h.fresh
  unfold FatHeap.kmalloc
  by_cases hsize : size = 0
  · exact Or.inl ⟨heap, if_pos hsize, h⟩
  · rw [if_neg hsize, hfresh]
    cases outcomes with
    | nil => exact Or.inl ⟨heap, rfl, h⟩
    | cons success outcomes =>
      cases success with
      | false =>
        refine Or.inl ⟨_, rfl, h.inUse, h.nodup, n + 1, outcomes, rfl, fun block hblock => ?_⟩
        exact Nat.lt_succ_of_lt (hlt block hblock)
      | true =>
        refine Or.inr ⟨n, _, rfl, ?_, ?_, n + 1, outcomes, rfl, fun block hblock => ?_⟩
        · rw [run_append, h.inUse]
          rfl
        · exact List.nodup_cons.mpr ⟨fun hmem => Nat.lt_irrefl n (hlt n hmem), h.nodup⟩
        · rcases List.mem_cons.mp hblock with rfl | hblock
          · exact Nat.lt_succ_self _
          · exact Nat.lt_succ_of_lt (hlt block hblock)

theorem HeapInv.kfree {heap : FatHeap} {live : List Nat} {block : Nat} (h : HeapInv heap live)
    (hblock : block ∈ live) : HeapInv (heap.kfree block) (live.erase block) := by
  obtain ⟨n, outcomes, hfresh, hlt⟩ := h.fresh
  refine ⟨?_, h.nodup.erase block, n, outcomes, hfresh, fun b hb => hlt b (List.mem_of_mem_erase hb)⟩
  rw [FatHeap.kfree, run_append, h.inUse, Option.bind_some, run_cons, liveStep, if_pos hblock]
  rfl

/-- Giving back the block that was taken last. -/
theorem HeapInv.kfree_last {heap : FatHeap} {live : List Nat} {block : Nat}
    (h : HeapInv heap (block :: live)) : HeapInv (heap.kfree block) live := by
  have hfreed := h.kfree List.mem_cons_self
  rwa [List.erase_cons_head] at hfreed

/-! ## The calls -/

structure FatRun where
  driver : Fat32Driver
  heap : FatHeap

/-- What the reads of a call of `fat32_init` give: `boot` for the boot sector, `read` for the rest. -/
structure Mounting where
  boot : Option Bytes
  read : UInt32 → UInt8 → Option Bytes
  bootClusters : ∀ sector, boot = some sector → sectorsPerCluster sector ≠ 0
  readLength : ∀ lba count data, read lba count = some data → data.length = 512 * count.toNat

/-- A call of `fat32_init` with this drive, whose boot sector has clusters. -/
def Mounting.ofDrive (ata : AtaState) (hpos : sectorsPerCluster (ata.disk.sector 0) ≠ 0) :
    Mounting where
  boot := ataReadSectors ata 0 1
  read := ataReadSectors ata
  bootClusters _ hread := eq_of_ataReadSectors_first hread ▸ hpos
  readLength _ _ _ hread := length_ataReadSectors hread

inductive FatOp where
  | init (m : Mounting)
  | cleanup

/-- A call; `none` if it faults. -/
def fatStep (s : FatRun) : FatOp → Option FatRun
  | .init m =>
    (fat32InitFrom s.driver m.boot m.read s.heap).toOption.map fun r =>
      { driver := r.2.1, heap := r.2.2 }
  | .cleanup =>
    let r := fat32Cleanup s.driver s.heap
    some { driver := r.1, heap := r.2 }

/-- At the start; `outcomes` tells which calls of `kmalloc` will succeed. -/
def FatRun.start (outcomes : List Bool) : FatRun where
  driver := Fat32Driver.start
  heap := { outcomes := numbered 0 outcomes, calls := [] }

/-- No block has been freed that was not in use; three are in use if the volume is mounted, and none
otherwise. -/
structure BlocksBalanced (s : FatRun) (live : List Nat) : Prop where
  inUse : run liveStep [] s.heap.calls = some live
  nodup : live.Nodup
  count : live.length = if s.driver.fs.mounted then 3 else 0

/-! ## What the driver owns -/

/-- The blocks in use are those that the pointers of a mounted volume point to. -/
inductive Owned (s : Fat32Driver) : List Nat → Prop where
  | unmounted (hfs : s.fs.mounted = false) : Owned s []
  | mounted (table boot buffer : Nat) (hfs : s.fs.mounted = true) (htable : s.fatTable = some table)
    (hboot : s.bootSector = some boot) (hbuffer : s.clusterBuffer = some buffer) :
    Owned s [table, boot, buffer]

/-- **`fat32_init` on an unmounted volume gives back what it has taken, or mounts the volume.** -/
theorem fat32InitFrom_owned {s : Fat32Driver} {heap : FatHeap} (hs : s.fs.mounted = false)
    (hheap : HeapInv heap []) (m : Mounting) :
    ∃ ok s' heap' live, fat32InitFrom s m.boot m.read heap = .ok (ok, s', heap') ∧
      HeapInv heap' live ∧ Owned s' live := by
  unfold fat32InitFrom
  rw [if_neg (by rw [hs]; decide)]
  rcases hheap.kmalloc 512 with ⟨heap₁, heq₁, h₁⟩ | ⟨buffer, heap₁, heq₁, h₁⟩
  · rw [heq₁]
    exact ⟨_, _, _, _, rfl, h₁, .unmounted hs⟩
  rw [heq₁]
  dsimp only
  cases hread : m.boot with
  | none => exact ⟨_, _, _, _, rfl, h₁.kfree_last, .unmounted hs⟩
  | some sector =>
    dsimp only
    rcases h₁.kmalloc bootSectorSize with ⟨heap₂, heq₂, h₂⟩ | ⟨boot, heap₂, heq₂, h₂⟩
    · rw [heq₂]
      exact ⟨_, _, _, _, rfl, h₂.kfree_last, .unmounted hs⟩
    rw [heq₂]
    dsimp only
    by_cases hsig : u16At sector 510 ≠ fat32Signature
    · rw [if_pos hsig]
      exact ⟨_, _, _, _, rfl, h₂.kfree_last.kfree_last, .unmounted hs⟩
    rw [if_neg hsig, if_neg (m.bootClusters sector hread)]
    rcases h₂.kmalloc (sectorsPerFat32 sector * 512) with ⟨heap₃, heq₃, h₃⟩ | ⟨table, heap₃, heq₃, h₃⟩
    · rw [heq₃]
      exact ⟨_, _, _, _, rfl, h₃.kfree_last.kfree_last, .unmounted hs⟩
    rw [heq₃]
    dsimp only
    cases hdata : m.read (reservedSectors sector).toUInt32 (sectorsPerFat32 sector).toUInt8 with
    | none => exact ⟨_, _, _, _, rfl, h₃.kfree_last.kfree_last.kfree_last, .unmounted hs⟩
    | some data =>
      dsimp only
      have hfits : ¬ (sectorsPerFat32 sector * 512).toNat < data.length := by
        rw [m.readLength _ _ _ hdata]
        exact Nat.not_lt.mpr (loaded_le_allocated _)
      rw [if_neg hfits]
      exact ⟨_, _, _, _, rfl, h₃, .mounted table boot buffer rfl rfl rfl rfl⟩

theorem fat32InitFrom_mounted {s : Fat32Driver} (hs : s.fs.mounted = true) {boot : Option Bytes}
    {read : UInt32 → UInt8 → Option Bytes} {heap : FatHeap} :
    fat32InitFrom s boot read heap = .ok (true, s, heap) := if_pos hs

theorem fat32Cleanup_owned {s : Fat32Driver} {heap : FatHeap} {live : List Nat}
    (hheap : HeapInv heap live) (hs : Owned s live) :
    ∃ live', HeapInv (fat32Cleanup s heap).2 live' ∧ Owned (fat32Cleanup s heap).1 live' := by
  unfold fat32Cleanup
  cases hs with
  | unmounted hfs =>
    rw [if_pos hfs]
    exact ⟨[], hheap, .unmounted hfs⟩
  | mounted table boot buffer hfs htable hboot hbuffer =>
    rw [if_neg (by rw [hfs]; decide), htable, hboot, hbuffer]
    refine ⟨[], ?_, .unmounted rfl⟩
    -- the boot sector goes first, it is not the one that was taken last
    have hne : (table == boot) = false := by
      have := hheap.nodup
      simp only [List.nodup_cons, List.mem_cons, not_or] at this
      exact beq_eq_false_iff_ne.mpr this.1.1
    have h₁ : HeapInv (heap.kfree boot) _ := hheap.kfree (by simp)
    rw [List.erase_cons, hne, List.erase_cons_head] at h₁
    exact h₁.kfree_last.kfree_last

/-! ## Runs -/

def FatInv (s : FatRun) : Prop := ∃ live, HeapInv s.heap live ∧ Owned s.driver live

theorem FatInv.balanced {s : FatRun} (h : FatInv s) : ∃ live, BlocksBalanced s live := by
  obtain ⟨live, hheap, howned⟩ := h
  refine ⟨live, hheap.inUse, hheap.nodup, ?_⟩
  cases howned with
  | unmounted hfs => rw [hfs]; rfl
  | mounted table boot buffer hfs _ _ _ => rw [hfs]; rfl

/-- **One call**, which does not fault. -/
theorem FatInv.step {s : FatRun} (h : FatInv s) (op : FatOp) :
    ∃ s', fatStep s op = some s' ∧ FatInv s' := by
  obtain ⟨live, hheap, howned⟩ := h
  cases op with
  | init m =>
    by_cases hfs : s.driver.fs.mounted = true
    · refine ⟨s, ?_, live, hheap, howned⟩
      rw [fatStep, fat32InitFrom_mounted hfs]
      rfl
    · have hunmounted := Bool.eq_false_iff.mpr hfs
      cases howned with
      | mounted _ _ _ hyes => exact absurd hyes hfs
      | unmounted _ =>
        obtain ⟨ok, s', heap', live', heq, hheap', howned'⟩ :=
          fat32InitFrom_owned hunmounted hheap m
        refine ⟨{ driver := s', heap := heap' }, ?_, live', hheap', howned'⟩
        rw [fatStep, heq]
        rfl
  | cleanup =>
    obtain ⟨live', hlive⟩ := fat32Cleanup_owned hheap howned
    exact ⟨_, rfl, live', hlive⟩

theorem fatInv_start (outcomes : List Bool) : FatInv (FatRun.start outcomes) :=
  ⟨[], ⟨rfl, List.nodup_nil, 0, outcomes, rfl, by simp⟩, .unmounted rfl⟩

/--
**After any calls the driver has three blocks if the volume is mounted, none otherwise**, and has freed
no block twice.

Any call of `kmalloc` and any read may fail. The calls themselves do not fault.
-/
theorem fat_blocks_balanced (outcomes : List Bool) : ∀ ops : List FatOp,
    ∃ s live, run fatStep (FatRun.start outcomes) ops = some s ∧ BlocksBalanced s live := by
  have hrun : ∀ (ops : List FatOp) (s : FatRun), FatInv s →
      ∃ s', run fatStep s ops = some s' ∧ FatInv s' := by
    intro ops
    induction ops with
    | nil => exact fun s hs => ⟨s, rfl, hs⟩
    | cons op ops ih =>
      intro s hs
      obtain ⟨t, ht, hinv⟩ := hs.step op
      obtain ⟨s', hs', hinv'⟩ := ih t hinv
      exact ⟨s', run_cons_eq_some.mpr ⟨t, ht, hs'⟩, hinv'⟩
  intro ops
  obtain ⟨s, hs, hinv⟩ := hrun ops _ (fatInv_start outcomes)
  obtain ⟨live, hlive⟩ := hinv.balanced
  exact ⟨s, live, hs, hlive⟩

/-! ## A volume that is mounted at the second try -/

/-- One sector to a cluster, one reserved, and one for the table. -/
def smallSector : BootSector where
  bytes := List.replicate 13 0 ++ [1, 1, 0] ++ List.replicate 20 0 ++ [1, 0, 0, 0] ++
    List.replicate 470 0 ++ [0x55, 0xAA]
  length_bytes := by simp only [List.length_append, List.length_replicate]; rfl
  signature := by decide +kernel

def smallMounting : Mounting := .ofDrive smallSector.drive (by decide +kernel)

/-- The second allocation of the first call fails, so the buffer is given back; the second call mounts
the volume, and the cleanup frees its three blocks. -/
theorem retry_balanced :
    (∃ s live, run fatStep (FatRun.start [true, false, true, true, true])
        [.init smallMounting, .init smallMounting, .cleanup] = some s ∧ BlocksBalanced s live) ∧
      (run fatStep (FatRun.start [true, false, true, true, true])
        [.init smallMounting, .init smallMounting]).map (fun s => s.driver.fs.mounted) = some true ∧
      (run fatStep (FatRun.start [true, false, true, true, true])
        [.init smallMounting, .init smallMounting, .cleanup]).map (fun s => s.heap.calls) =
        some [.kmalloc 0, .kfree 0, .kmalloc 2, .kmalloc 3, .kmalloc 4, .kfree 3, .kfree 4, .kfree 2] :=
  ⟨fat_blocks_balanced _ _, by decide +kernel, by decide +kernel⟩

end MayaOs.Fs
