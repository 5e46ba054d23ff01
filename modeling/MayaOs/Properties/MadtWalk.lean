import MayaOs.Kernel.Apic

/-!
# Going through the entries of the MADT

* `madt_walk_iff` — when the loop ends and stays inside the table
* `apicInit_returns` — then `apic_init` returns
* `madt_walk_stuck` — tables that `acpi_get_table` returns, with an entry of the length 0 and with one
  that is cut off
-/

namespace MayaOs.Kernel

open MayaOs.Lib

variable {m : ByteMemory} {madt : Nat} {s : ApicState}

/-! ## Where the entries are -/

/-- There is an entry at this offset, if the table goes that far: each one begins where the length of
the one before it says. -/
inductive MadtEntryAt (m : ByteMemory) (madt : Nat) : Nat → Prop where
  | first : MadtEntryAt m madt madtSize
  | next {o : Nat} : MadtEntryAt m madt o → o < acpiLength m madt →
      MadtEntryAt m madt (o + madtEntryLength m madt o)

/-- Every entry has a length, and all of its record is in the table. -/
def MadtEntriesFit (m : ByteMemory) (madt : Nat) : Prop :=
  ∀ o, MadtEntryAt m madt o → o < acpiLength m madt →
    madtEntryLength m madt o ≠ 0 ∧ o + madtRecordSize m madt o ≤ acpiLength m madt

/-- From this entry on the loop ends, and it has read the table only. -/
def WalksInside (m : ByteMemory) (madt o : Nat) : Prop :=
  ∀ s, ∃ n t reads, madtWalk m madt n o s = some (t, reads) ∧
    ∀ r ∈ reads, r.offset + r.size ≤ acpiLength m madt

/-! ## One step -/

/-- What the loop reads; the state of the driver does not enter. -/
def madtReads (m : ByteMemory) (madt : Nat) : Nat → Nat → Option (List MadtRead)
  | 0, _ => none
  | n + 1, o =>
    if o < acpiLength m madt then
      (madtReads m madt n (o + madtEntryLength m madt o)).map
        (⟨o, madtRecordSize m madt o⟩ :: ·)
    else some []

theorem madtWalk_reads : ∀ n o s, (madtWalk m madt n o s).map Prod.snd = madtReads m madt n o := by
  intro n
  induction n with
  | zero => intro o s; rfl
  | succ n ih =>
    intro o s
    rw [madtWalk, madtReads]
    split
    · rw [← ih _ (madtEntry m madt o s), Option.map_map, Option.map_map]
      rfl
    · rfl

theorem walksInside_iff {o : Nat} : WalksInside m madt o ↔
    ∃ n reads, madtReads m madt n o = some reads ∧
      ∀ r ∈ reads, r.offset + r.size ≤ acpiLength m madt := by
  constructor
  · intro h
    obtain ⟨n, t, reads, hn, hinside⟩ := h ⟨0, 0, 0, false⟩
    exact ⟨n, reads, by rw [← madtWalk_reads, hn]; rfl, hinside⟩
  · rintro ⟨n, reads, hn, hinside⟩ s
    rw [← madtWalk_reads n o s] at hn
    obtain ⟨⟨t, reads⟩, hwalk, rfl⟩ := Option.map_eq_some_iff.mp hn
    exact ⟨n, t, reads, hwalk, hinside⟩

theorem walksInside_end {o : Nat} (h : acpiLength m madt ≤ o) : WalksInside m madt o :=
  walksInside_iff.mpr ⟨1, [], if_neg (Nat.not_lt.mpr h), fun _ hr => absurd hr List.not_mem_nil⟩

/-- **The loop stays inside from an entry on iff the entry is inside and it stays inside from the next
one on.** -/
theorem walksInside_entry {o : Nat} (h : o < acpiLength m madt) :
    WalksInside m madt o ↔ o + madtRecordSize m madt o ≤ acpiLength m madt ∧
      WalksInside m madt (o + madtEntryLength m madt o) := by
  rw [walksInside_iff, walksInside_iff]
  constructor
  · rintro ⟨n, reads, hn, hinside⟩
    cases n with
    | zero => cases hn
    | succ n =>
      rw [madtReads, if_pos h] at hn
      obtain ⟨rest, hrest, rfl⟩ := Option.map_eq_some_iff.mp hn
      exact ⟨hinside _ List.mem_cons_self, n, rest, hrest,
        fun r hr => hinside r (List.mem_cons_of_mem _ hr)⟩
  · rintro ⟨hrecord, n, rest, hrest, hinside⟩
    refine ⟨n + 1, ⟨o, madtRecordSize m madt o⟩ :: rest, ?_, fun r hr => ?_⟩
    · rw [madtReads, if_pos h, hrest]
      rfl
    · rcases List.mem_cons.mp hr with rfl | hr
      · exact hrecord
      · exact hinside r hr

/-- At an entry with the length 0 the loop does not end. -/
theorem not_walksInside_of_zero {o : Nat} (h : o < acpiLength m madt)
    (hzero : madtEntryLength m madt o = 0) : ¬ WalksInside m madt o := by
  intro hwalk
  obtain ⟨n, reads, hn, -⟩ := walksInside_iff.mp hwalk
  have hnone : ∀ k, madtReads m madt k o = none := by
    intro k
    induction k with
    | zero => rfl
    | succ k ih =>
      rw [madtReads, if_pos h, hzero, Nat.add_zero, ih]
      rfl
  rw [hnone n] at hn
  cases hn

/-! ## The walk -/

/-- With entries that fit, every turn takes the loop closer to the end. -/
theorem walksInside_of_fit (hfit : MadtEntriesFit m madt) {o : Nat} (ho : MadtEntryAt m madt o) :
    WalksInside m madt o := by
  by_cases h : o < acpiLength m madt
  · obtain ⟨hne, hrecord⟩ := hfit o ho h
    exact (walksInside_entry h).mpr ⟨hrecord, walksInside_of_fit hfit (ho.next h)⟩
  · exact walksInside_end (Nat.le_of_not_lt h)
termination_by acpiLength m madt - o
decreasing_by omega

/--
**The loop of `apic_init` ends and reads the MADT only iff every entry that begins inside of the table
has a length other than 0 and ends inside of the table.**

Entries are those that the lengths lead to from the first one on; an entry of another type than 0 and 1
is its header.
-/
theorem madt_walk_iff (m : ByteMemory) (madt : Nat) :
    WalksInside m madt madtSize ↔ MadtEntriesFit m madt := by
  constructor
  · intro h o ho hlt
    have hwalk : WalksInside m madt o := by
      clear hlt
      induction ho with
      | first => exact h
      | next _ hlt ih => exact ((walksInside_entry hlt).mp ih).2
    exact ⟨fun hzero => not_walksInside_of_zero hlt hzero hwalk, ((walksInside_entry hlt).mp hwalk).1⟩
  · intro hfit
    exact walksInside_of_fit hfit MadtEntryAt.first

/-- **With such a table `apic_init` returns.** -/
theorem apicInit_returns {acpi : AcpiState}
    (hfit : MadtEntriesFit m (acpiGetTable m acpi acpiMadtSignature)) (s : ApicState) :
    ∃ n r, apicInit n m acpi s = some r := by
  unfold apicInit
  split
  · exact ⟨0, _, rfl⟩
  · dsimp only
    split
    · exact ⟨0, _, rfl⟩
    · split
      · exact ⟨0, _, rfl⟩
      · obtain ⟨n, t, reads, hn, -⟩ := walksInside_of_fit hfit MadtEntryAt.first _
        exact ⟨n, _, by rw [hn]; rfl⟩

/-! ## Entries that do not fit -/

/-- An RSDT at 0x1000 with one entry, for a MADT at 0x2000. The MADT has 46 bytes, its last two are
the type and the length of an entry; they do not change the sum as long as they add up to 2. -/
def madtMemory (type length : UInt8) : ByteMemory := fun a =>
  let rsdt : List UInt8 := [0x52, 0x53, 0x44, 0x54, 40, 0, 0, 0, 0, 0x7B]
  let madt : List UInt8 := acpiMadtSignature ++ [46, 0, 0, 0, 0, 0xD5]
  if a < 0x1000 then 0
  else if a < 0x1025 then rsdt.getD (a - 0x1000) 0
  else if a = 0x1025 then 0x20
  else if a < 0x2000 then 0
  else if a = 0x2026 then 0xE0
  else if a = 0x2027 then 0xFE
  else if a = 0x202C then type
  else if a = 0x202D then length
  else madt.getD (a - 0x2000) 0

/--
An entry of the type 2 with the length 0, at which the loop stays; and one of the type 0 with the
length 2, of which six bytes are missing. `acpi_get_table` returns both tables.
-/
theorem madt_walk_stuck :
    let acpi : AcpiState := { rsdp := 0xE0000, rsdt := 0x1000, fadt := 0, initialized := true }
    (acpiGetTable (madtMemory 2 0) acpi acpiMadtSignature = 0x2000 ∧
      ¬ WalksInside (madtMemory 2 0) 0x2000 madtSize) ∧
    (acpiGetTable (madtMemory 0 2) acpi acpiMadtSignature = 0x2000 ∧
      ¬ WalksInside (madtMemory 0 2) 0x2000 madtSize) := by
  refine ⟨⟨by decide +kernel, not_walksInside_of_zero (by decide) (by decide)⟩,
    by decide +kernel, fun h => ?_⟩
  exact absurd ((walksInside_entry (by decide)).mp h).1 (by decide)

end MayaOs.Kernel
