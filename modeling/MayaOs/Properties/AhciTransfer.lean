import Mathlib.Algebra.BigOperators.Group.List.Basic
import MayaOs.Properties.AhciPorts

/-!
# What an AHCI command transfers

An entry of the PRDT stands for `dbc + 1` bytes, and the controller takes the first `prdtl` entries of
the table.

* `described_gt` — for a count that fits into the command, the entries describe more than was asked
  for
* `ahci_transfer_never` — no command is as it should be
-/

namespace MayaOs.Drivers

open MayaOs.Lib

/-! ## The property -/

/-- The physical addresses that an entry stands for. -/
def PrdtEntry.addresses (e : PrdtEntry) : List Nat :=
  (List.range (e.dbc.toNat + 1)).map fun k => e.dbau.toNat * 2 ^ 32 + e.dba.toNat + k

/-- What `memset` has left in an entry that was not written. -/
def PrdtEntry.zero : PrdtEntry where
  dba := 0
  dbau := 0
  dbc := 0
  i := false

/-- The entries that the controller takes. -/
def AhciCommand.entries (command : AhciCommand) : List PrdtEntry :=
  (List.range command.prdtl.toNat).map fun i => command.prdt.getD i PrdtEntry.zero

/-- The controller transfers what was asked for, within the table, and the drive as many sectors. -/
structure Transfers (command : AhciCommand) (base : UInt32) (count : Nat) : Prop where
  described : command.entries.flatMap PrdtEntry.addresses =
    (List.range (512 * count)).map (base.toNat + ·)
  fits : 128 + 16 * command.prdt.length ≤ 256
  sectors : (u16At command.cfis 12).toNat = count

/-! ## The command -/

theorem ahciReadCommand_some {hw : AhciHost} {s : AhciSystem} {slots : UInt32} {port : Nat}
    {start : UInt64} {count buffer : UInt32} {command : AhciCommand}
    (h : ahciReadCommand hw s slots port start count buffer = .ok (some command)) :
    count ≠ 0 ∧ command.prdtl = ((count - 1) >>> 4).toUInt16 + 1 ∧
      command.prdt = ahciPrdt (hw.physical buffer) count ∧ command.cfis = ahciFis start count := by
  rcases ahciReadCommand_cases hw s slots port start count buffer with
    hnone | ⟨used, herror, -⟩ | ⟨command', hsome, hpos, -, hfields⟩
  · exact absurd (hnone.symm.trans h) (by simp)
  · exact absurd (herror.symm.trans h) (by simp)
  · cases hsome.symm.trans h
    exact ⟨hpos, hfields⟩

/-- The count in the command has 16 bits. -/
theorem sectors_ahciFis (start : UInt64) (count : UInt32) :
    (u16At (ahciFis start count) 12).toNat = count.toNat % 65536 := by
  have hlow : count.toUInt8.toNat = count.toNat % 256 := UInt32.toNat_toUInt8 count
  have hhigh : (count >>> 8).toUInt8.toNat = count.toNat / 256 % 256 := by
    rw [UInt32.toNat_toUInt8, UInt32.toNat_shiftRight]
    show (count.toNat >>> 8) % 256 = _
    rw [Nat.shiftRight_eq_div_pow]
  have hword : u16At (ahciFis start count) 12 = u16 count.toUInt8 (count >>> 8).toUInt8 := rfl
  rw [hword, u16, UInt16.toNat_ofNat', hlow, hhigh]
  omega

/-! ## Counts that fit into the command -/

section Counts

variable {count : UInt32}

theorem toNat_bytes (hcount : count.toNat < 65536) : (count * ahciSectorSize).toNat = 512 * count.toNat := by
  rw [UInt32.toNat_mul, Nat.mul_comm]
  show 512 * count.toNat % 2 ^ 32 = _
  omega

theorem toNat_prdtl (hcount : count.toNat < 65536) (hpos : count ≠ 0) :
    (((count - 1) >>> 4).toUInt16 + 1).toNat = (count.toNat - 1) / 16 + 1 := by
  have hne : count.toNat ≠ 0 := fun h => hpos (UInt32.toNat_inj.mp h)
  have hone : (1 : UInt32) ≤ count := UInt32.le_iff_toNat_le.mpr (Nat.one_le_iff_ne_zero.mpr hne)
  have hshift : ((count - 1) >>> 4).toNat = (count.toNat - 1) / 16 := by
    rw [UInt32.toNat_shiftRight, UInt32.toNat_sub_of_le _ _ hone]
    show (count.toNat - 1) >>> 4 = _
    rw [Nat.shiftRight_eq_div_pow]
  rw [UInt16.toNat_add, UInt32.toNat_toUInt16, hshift]
  show ((count.toNat - 1) / 16 % 65536 + 1) % 65536 = _
  omega

/-- One entry more than there are blocks of 64 KB. -/
theorem length_ahciPrdt (hcount : count.toNat < 65536) (dba : UInt32) :
    (ahciPrdt dba count).length = (512 * count.toNat + 65535) / 65536 + 1 := by
  unfold ahciPrdt
  rw [List.length_map, List.length_range, UInt32.toNat_shiftRight, UInt32.toNat_add,
    toNat_bytes hcount]
  show ((512 * count.toNat + 131071) % 2 ^ 32) >>> 16 = _
  rw [Nat.shiftRight_eq_div_pow]
  omega

/-- All entries but the last one stand for 64 KB. -/
theorem dbc_ahciPrdt (hcount : count.toNat < 65536) (dba : UInt32) {i : Nat}
    (hi : i < (512 * count.toNat + 65535) / 65536) :
    ((ahciPrdt dba count).getD i PrdtEntry.zero).dbc = 0xFFFF := by
  have hlen := length_ahciPrdt hcount dba
  unfold ahciPrdt at hlen ⊢
  rw [List.length_map, List.length_range] at hlen
  rw [List.getD_eq_getElem?_getD, List.getElem?_map, List.getElem?_range (by omega)]
  show (if _ then _ else _) = _
  rw [if_neg (by omega)]

end Counts

/-- **The entries describe more bytes than were asked for.** -/
theorem described_gt {command : AhciCommand} {dba count : UInt32} (hcount : count.toNat < 65536)
    (hpos : count ≠ 0) (hprdtl : command.prdtl = ((count - 1) >>> 4).toUInt16 + 1)
    (hprdt : command.prdt = ahciPrdt dba count) :
    512 * count.toNat < (command.entries.flatMap PrdtEntry.addresses).length := by
  have hne : count.toNat ≠ 0 := fun h => hpos (UInt32.toNat_inj.mp h)
  have hentries : command.prdtl.toNat = (count.toNat - 1) / 16 + 1 := by
    rw [hprdtl, toNat_prdtl hcount hpos]
  -- the entries that stand for 64 KB each, and the rest
  obtain ⟨full, hfull⟩ : ∃ n, n = (512 * count.toNat + 65535) / 65536 := ⟨_, rfl⟩
  have hsplit : command.prdtl.toNat = full + (command.prdtl.toNat - full) := by omega
  have hlength : ∀ i, (command.prdt.getD i PrdtEntry.zero).addresses.length =
      (command.prdt.getD i PrdtEntry.zero).dbc.toNat + 1 := by
    intro i
    rw [PrdtEntry.addresses, List.length_map, List.length_range]
  have hblocks : ((List.range full).map fun i =>
      (command.prdt.getD i PrdtEntry.zero).addresses.length).sum = full * 65536 := by
    have hsame : ∀ i ∈ List.range full,
        (command.prdt.getD i PrdtEntry.zero).addresses.length = 65536 := by
      intro i hi
      rw [hlength, hprdt, dbc_ahciPrdt hcount dba (hfull ▸ List.mem_range.mp hi)]
      rfl
    rw [List.map_congr_left hsame, List.map_const', List.sum_replicate_nat, List.length_range]
  have hrest : command.prdtl.toNat - full ≤ ((List.range (command.prdtl.toNat - full)).map fun i =>
      (command.prdt.getD (full + i) PrdtEntry.zero).addresses.length).sum := by
    have hone := List.length_le_sum_of_one_le ((List.range (command.prdtl.toNat - full)).map fun i =>
      (command.prdt.getD (full + i) PrdtEntry.zero).addresses.length) fun n hn => by
        obtain ⟨i, -, rfl⟩ := List.mem_map.mp hn
        rw [hlength]
        exact Nat.le_add_left _ _
    rwa [List.length_map, List.length_range] at hone
  rw [List.length_flatMap, AhciCommand.entries, List.map_map, hsplit, List.range_add, List.map_append,
    List.sum_append, List.map_map]
  show 512 * count.toNat < ((List.range full).map fun i =>
      (command.prdt.getD i PrdtEntry.zero).addresses.length).sum +
    ((List.range (command.prdtl.toNat - full)).map fun i =>
      (command.prdt.getD (full + i) PrdtEntry.zero).addresses.length).sum
  omega

/-- A command is wrong in its count or in its entries. -/
theorem not_transfers {hw : AhciHost} {s : AhciSystem} {slots : UInt32} {port : Nat}
    {start : UInt64} {count buffer : UInt32} {command : AhciCommand}
    (h : ahciReadCommand hw s slots port start count buffer = .ok (some command)) :
    ¬ Transfers command (hw.physical buffer) count.toNat := by
  rintro ⟨hdescribed, -, hsectors⟩
  obtain ⟨hpos, hprdtl, hprdt, hcfis⟩ := ahciReadCommand_some h
  rw [hcfis, sectors_ahciFis] at hsectors
  have hgt := described_gt (by omega) hpos hprdtl hprdt
  rw [hdescribed, List.length_map, List.length_range] at hgt
  exact Nat.lt_irrefl _ hgt

/-! ## Main results -/

/--
**No call that gets past the checks transfers what was asked for.**

The table overflows, or the count does not fit into the command, or the entries describe more than
the buffer.
-/
theorem ahci_transfer_never (hw : AhciHost) (s : AhciSystem) (slots : UInt32) (port : Nat)
    (start : UInt64) (count buffer : UInt32)
    (hissues : ahciReadCommand hw s slots port start count buffer ≠ .ok none) :
    (∃ used, ahciReadCommand hw s slots port start count buffer =
        .error (.fault (.outOfBounds used)) ∧ 256 < used) ∨
      ∃ command, ahciReadCommand hw s slots port start count buffer = .ok (some command) ∧
        ¬ Transfers command (hw.physical buffer) count.toNat := by
  rcases ahciReadCommand_cases hw s slots port start count buffer with
    hnone | ⟨used, herror, hused⟩ | ⟨command, hsome, -⟩
  · exact absurd hnone hissues
  · -- a table that overflows has more than the 256 bytes that were asked for
    exact Or.inl ⟨used, herror, Nat.lt_trans (by decide) hused⟩
  · exact Or.inr ⟨command, hsome, not_transfers hsome⟩

/-- One port, ready for commands. -/
def onePortSystem : AhciSystem :=
  { AhciSystem.boot with hbaMem := 0xFEBF1000, portCount := 1, initialized := true }

/-- **One sector**: the first entry alone stands for 64 KB. -/
theorem ahci_transfer_one :
    ∃ command, ahciReadCommand (exampleHba 1) onePortSystem 0 0 0 1 0x200000 = .ok (some command) ∧
      ¬ Transfers command 0x200000 1 := by
  refine ⟨_, rfl, ?_⟩
  have hread : ahciReadCommand (exampleHba 1) onePortSystem 0 0 0 1 0x200000 = .ok (some _) := rfl
  exact not_transfers hread

theorem ahci_transfer_eight :
    (∃ used, ahciReadCommand (exampleHba 1) onePortSystem 0 0 7 8 0x200000 =
        .error (.fault (.outOfBounds used)) ∧ 256 < used) ∨
      ∃ command, ahciReadCommand (exampleHba 1) onePortSystem 0 0 7 8 0x200000 = .ok (some command) ∧
        ¬ Transfers command ((exampleHba 1).physical 0x200000) (8 : UInt32).toNat :=
  ahci_transfer_never (exampleHba 1) onePortSystem 0 0 7 8 0x200000 (by
    intro h
    cases h)

end MayaOs.Drivers
