import MayaOs.Kernel.Acpi

/-!
# Finding an ACPI table

* `acpiValidateTable_iff` — the sum that `acpi_validate_table` computes is that of the bytes
* `acpiFindLoop_result`, `acpiFindLoop_reads` — what the search returns, and what it reads
* `acpi_find_iff` — when the search keeps inside the RSDT and returns a table
* `acpiInit_validates` — the sum of the RSDT has been looked at before
* `acpi_find_short` — an RSDT and a table whose declared lengths are too small
-/

namespace MayaOs.Kernel

open MayaOs.Lib

variable {m : ByteMemory} {rsdt : Nat} {signature : List UInt8}

/-! ## The checksum -/

/-- The sum of the bytes of a table. -/
def byteSum (m : ByteMemory) (table length : Nat) : Nat :=
  ((bytesAt m table length).map UInt8.toNat).sum

theorem toNat_foldl_add (bytes : List UInt8) : ∀ sum : UInt8,
    (bytes.foldl (· + ·) sum).toNat = (sum.toNat + (bytes.map UInt8.toNat).sum) % 256 := by
  induction bytes with
  | nil =>
    intro sum
    exact (Nat.mod_eq_of_lt sum.toNat_lt).symm
  | cons b bytes ih =>
    intro sum
    rw [List.foldl_cons, ih, UInt8.toNat_add, List.map_cons, List.sum_cons, Nat.mod_add_mod,
      Nat.add_assoc]

theorem acpiValidateTable_iff (m : ByteMemory) (table length : Nat) :
    acpiValidateTable m table length = true ↔ byteSum m table length % 256 = 0 := by
  have hsum := toNat_foldl_add (bytesAt m table length) 0
  rw [UInt8.toNat_zero, Nat.zero_add] at hsum
  unfold acpiValidateTable byteSum
  rw [beq_iff_eq, ← UInt8.toNat_inj, hsum, UInt8.toNat_zero]

/-! ## The search -/

/-- The entry is the first one whose table is accepted. -/
def FirstAccepted (m : ByteMemory) (rsdt : Nat) (signature : List UInt8) (first i : Nat) : Prop :=
  acpiAccepts m signature (acpiEntry m rsdt i) = true ∧
    ∀ j, first ≤ j → j < i → acpiAccepts m signature (acpiEntry m rsdt j) = false

/-- **The search returns the first table that is accepted.** -/
theorem acpiFindLoop_result : ∀ n i : Nat,
    (∃ k, i ≤ k ∧ k < i + n ∧ FirstAccepted m rsdt signature i k ∧
      (acpiFindLoop m rsdt signature n i).1 = acpiEntry m rsdt k) ∨
    ((∀ k, i ≤ k → k < i + n → acpiAccepts m signature (acpiEntry m rsdt k) = false) ∧
      (acpiFindLoop m rsdt signature n i).1 = 0) := by
  intro n
  induction n with
  | zero => intro i; exact Or.inr ⟨fun k hik hk => by omega, rfl⟩
  | succ n ih =>
    intro i
    rw [acpiFindLoop]
    by_cases hi : acpiAccepts m signature (acpiEntry m rsdt i) = true
    · rw [if_pos hi]
      exact Or.inl ⟨i, Nat.le_refl i, by omega, ⟨hi, fun j hij hji => by omega⟩, rfl⟩
    · rw [if_neg hi]
      rw [Bool.not_eq_true] at hi
      rcases ih (i + 1) with ⟨k, hik, hk, hfirst, heq⟩ | ⟨hnone, heq⟩
      · refine Or.inl ⟨k, by omega, by omega, ⟨hfirst.1, fun j hij hjk => ?_⟩, heq⟩
        rcases Nat.eq_or_lt_of_le hij with rfl | hlt
        · exact hi
        · exact hfirst.2 j hlt hjk
      · refine Or.inr ⟨fun k hik hk => ?_, heq⟩
        rcases Nat.eq_or_lt_of_le hik with rfl | hlt
        · exact hi
        · exact hnone k hlt (by omega)

theorem acpiFindTable_eq {i : Nat} (hi : i < acpiEntryCount m rsdt)
    (h : FirstAccepted m rsdt signature 0 i) :
    (acpiFindTable m rsdt signature).1 = acpiEntry m rsdt i := by
  rcases acpiFindLoop_result (acpiEntryCount m rsdt) 0 with ⟨k, -, -, hk, heq⟩ | ⟨hnone, -⟩
  · -- there is only one first entry
    have hki : k = i := by
      rcases Nat.lt_trichotomy k i with hlt | heq | hlt
      · exact absurd hk.1 (by rw [h.2 k (Nat.zero_le k) hlt]; decide)
      · exact heq
      · exact absurd h.1 (by rw [hk.2 i (Nat.zero_le i) hlt]; decide)
    rw [← hki]
    exact heq
  · exact absurd h.1 (by rw [hnone i (Nat.zero_le i) (by omega)]; decide)

/-- **The search reads the entries in turn**, the first one if there is one. -/
theorem acpiFindLoop_reads : ∀ n i : Nat,
    (∀ k ∈ (acpiFindLoop m rsdt signature n i).2, i ≤ k ∧ k < i + n) ∧
      (0 < n → i ∈ (acpiFindLoop m rsdt signature n i).2) := by
  intro n
  induction n with
  | zero => intro i; exact ⟨fun k hk => absurd hk List.not_mem_nil, fun h => absurd h (Nat.lt_irrefl 0)⟩
  | succ n ih =>
    intro i
    rw [acpiFindLoop]
    split
    · refine ⟨fun k hk => ?_, fun _ => List.mem_singleton_self i⟩
      rw [List.mem_singleton.mp hk]
      exact ⟨Nat.le_refl i, by omega⟩
    · refine ⟨fun k hk => ?_, fun _ => List.mem_cons_self⟩
      rcases List.mem_cons.mp hk with rfl | hk
      · omega
      · have := (ih (i + 1)).1 k hk
        omega

/-! ## The property -/

/-- A table with the signature that is as long as a header, and whose bytes add up to 0. -/
structure TableOk (m : ByteMemory) (signature : List UInt8) (table : Nat) : Prop where
  hasSignature : acpiSignature m table = signature
  coversHeader : acpiHeaderSize ≤ acpiLength m table
  sum : byteSum m table (acpiLength m table) % 256 = 0

/-- The search reads entries of the RSDT only, and what it returns is such a table. -/
structure FindsSafely (m : ByteMemory) (rsdt : Nat) (signature : List UInt8) : Prop where
  inside : ∀ i ∈ (acpiFindTable m rsdt signature).2,
    acpiHeaderSize + 4 * i + 4 ≤ acpiLength m rsdt
  found : (acpiFindTable m rsdt signature).1 ≠ 0 →
    TableOk m signature (acpiFindTable m rsdt signature).1

theorem acpiAccepts_iff {table : Nat} : acpiAccepts m signature table = true ↔
    acpiSignature m table = signature ∧ byteSum m table (acpiLength m table) % 256 = 0 := by
  unfold acpiAccepts
  rw [Bool.and_eq_true, beq_iff_eq, acpiValidateTable_iff]

/-- The number of entries, for a length that covers the header. -/
theorem acpiEntryCount_eq (h : acpiHeaderSize ≤ acpiLength m rsdt) :
    acpiEntryCount m rsdt = (acpiLength m rsdt - acpiHeaderSize) / 4 := by
  have hlt : acpiLength m rsdt < 2 ^ 32 := word_lt m _
  unfold acpiHeaderSize at h
  unfold acpiEntryCount wrap32 acpiHeaderSize
  congr 1
  omega

/-- **A length that does not cover the header wraps around.** -/
theorem acpiEntryCount_pos (h : acpiLength m rsdt < acpiHeaderSize) :
    0 < acpiEntryCount m rsdt := by
  unfold acpiHeaderSize at h
  unfold acpiEntryCount wrap32 acpiHeaderSize
  omega

theorem coversHeader_of_findsSafely (h : FindsSafely m rsdt signature) :
    acpiHeaderSize ≤ acpiLength m rsdt := by
  by_contra hshort
  have hpos := acpiEntryCount_pos (Nat.lt_of_not_le hshort)
  have hread := h.inside 0 ((acpiFindLoop_reads _ 0).2 hpos)
  omega

/--
**The search keeps inside the RSDT and returns such a table iff the length of the RSDT covers its
header, and so does that of the first table listed that has the signature and the right sum.**

The search ends in any case, and the checksum of the RSDT does not matter.
-/
theorem acpi_find_iff (m : ByteMemory) (rsdt : Nat) (signature : List UInt8) :
    FindsSafely m rsdt signature ↔
      acpiHeaderSize ≤ acpiLength m rsdt ∧
        ∀ i, i < (acpiLength m rsdt - acpiHeaderSize) / 4 → FirstAccepted m rsdt signature 0 i →
          acpiEntry m rsdt i ≠ 0 → acpiHeaderSize ≤ acpiLength m (acpiEntry m rsdt i) := by
  constructor
  · intro h
    have hcovers := coversHeader_of_findsSafely h
    refine ⟨hcovers, fun i hi hfirst hne => ?_⟩
    rw [← acpiEntryCount_eq hcovers] at hi
    have heq := acpiFindTable_eq hi hfirst
    rw [← heq] at hne ⊢
    exact (h.found hne).coversHeader
  · rintro ⟨hcovers, hfirst⟩
    rw [← acpiEntryCount_eq hcovers] at hfirst
    refine ⟨fun i hi => ?_, fun hne => ?_⟩
    · have hlt := ((acpiFindLoop_reads _ 0).1 i hi).2
      rw [acpiEntryCount_eq hcovers] at hlt
      omega
    · rcases acpiFindLoop_result (acpiEntryCount m rsdt) 0 with ⟨k, -, hk, hk', heq⟩ | ⟨-, heq⟩
      · rw [Nat.zero_add] at hk
        change (acpiFindTable m rsdt signature).1 = _ at heq
        rw [heq] at hne ⊢
        obtain ⟨hsignature, hsum⟩ := acpiAccepts_iff.mp hk'.1
        exact ⟨hsignature, hfirst k hk hk' hne, hsum⟩
      · exact absurd heq hne

/-- `acpi_init` has looked at the sum of the RSDT before it searches for a table. -/
theorem acpiInit_validates {s t : AcpiState} (hfirst : s.initialized = false)
    (h : acpiInit m s = (true, t)) :
    byteSum m t.rsdt (acpiLength m t.rsdt) % 256 = 0 := by
  unfold acpiInit at h
  -- where the RSDP is found does not matter
  generalize acpiSearchRsdp m = found at h
  rw [hfirst, if_neg Bool.false_ne_true] at h
  dsimp only at h
  split at h
  · exact absurd (congrArg Prod.fst h) Bool.false_ne_true
  · split at h
    · exact absurd (congrArg Prod.fst h) Bool.false_ne_true
    · split at h
      · exact absurd (congrArg Prod.fst h) Bool.false_ne_true
      · next hvalid =>
        split at h
        · exact absurd (congrArg Prod.fst h) Bool.false_ne_true
        · have ht := congrArg Prod.snd h
          dsimp only at ht
          rw [← ht]
          exact (acpiValidateTable_iff m _ _).mp ((Bool.not_eq_false _).mp hvalid)

/-! ## Lengths that are too small -/

/-- An RSDT at 0x1000 with one entry, for a table at 0x2000 with the length 0. -/
def acpiShortTable : ByteMemory := fun a =>
  if a = 0x1000 then 0x52
  else if a = 0x1001 then 0x53
  else if a = 0x1002 then 0x44
  else if a = 0x1003 then 0x54
  else if a = 0x1004 then 40
  else if a = 0x1009 then 0x7B
  else if a = 0x1025 then 0x20
  else if 0x2000 ≤ a ∧ a < 0x2004 then acpiFadtSignature.getD (a - 0x2000) 0
  else 0

/--
Two RSDTs with a right sum: in memory that is all 0 the RSDT has the length 0, and the search reads
entries behind it; the table of `acpiShortTable` is returned.
-/
theorem acpi_find_short :
    (acpiValidateTable (fun _ => 0) 0x1000 (acpiLength (fun _ => 0) 0x1000) = true ∧
      ¬ FindsSafely (fun _ => 0) 0x1000 acpiFadtSignature) ∧
    (acpiValidateTable acpiShortTable 0x1000 (acpiLength acpiShortTable 0x1000) = true ∧
      (acpiFindTable acpiShortTable 0x1000 acpiFadtSignature).1 = 0x2000 ∧
      ¬ FindsSafely acpiShortTable 0x1000 acpiFadtSignature) := by
  have hlength : acpiLength acpiShortTable 0x2000 = 0 := by decide
  have hfound : (acpiFindTable acpiShortTable 0x1000 acpiFadtSignature).1 = 0x2000 := by
    decide +kernel
  refine ⟨⟨by decide, fun h => ?_⟩, by decide +kernel, hfound, fun h => ?_⟩
  · exact absurd (coversHeader_of_findsSafely h) (by decide)
  · have hcovers := (h.found (by rw [hfound]; decide)).coversHeader
    rw [hfound, hlength] at hcovers
    exact absurd hcovers (by decide)

end MayaOs.Kernel
