import MayaOs.Kernel.PhysicalMemory
import MayaOs.Lib.Bytes

/-!
# Two layouts of the memory map

In the map of the boot loader a record has a size field before the base address, and the next record
is found by it. `pmm_init` knows no size field, and goes on by the length of the memory region.

* `measuresMemory_of_firstRegionOnly` — when the total is right nevertheless
* `high_memory_lost` — the usual map of a PC
-/

namespace MayaOs.Kernel

open MayaOs.Lib

/-! ## The layout of the specification -/

/-- A record of the map: `size` bytes come behind the size field. -/
structure MmapEntry where
  size : Nat
  baseAddr : Nat
  length : Nat
  type : Nat
  deriving Repr, DecidableEq

def mmapEntryAt (m : ByteMemory) (x : Nat) : MmapEntry where
  size := word m x
  baseAddr := doubleWord m (x + 4)
  length := doubleWord m (x + 12)
  type := word m (x + 20)

/-- The records fill the memory from an address to `stop`. -/
inductive LaidOut (m : ByteMemory) (stop : Nat) : Nat → List MmapEntry → Prop where
  | nil : LaidOut m stop stop []
  | cons {x : Nat} {entries : List MmapEntry} (hsize : 20 ≤ (mmapEntryAt m x).size)
      (hrest : LaidOut m stop (x + 4 + (mmapEntryAt m x).size) entries) :
      LaidOut m stop x (mmapEntryAt m x :: entries)

/-- The lengths of the regions of type 1. -/
def availableLength (entries : List MmapEntry) : Nat :=
  ((entries.filter fun e => e.type == 1).map fun e => e.length).sum

/-! ## The layout of the source -/

/-- `struct memory_map`. -/
structure MapRecord where
  length : Nat
  type : Nat
  deriving Repr, DecidableEq

def mapRecordAt (m : ByteMemory) (x : Nat) : MapRecord where
  length := recordLength m x
  type := recordType m x

/-- Records within `[start, stop)`, each `length + 4` behind the last one, up to `mmapEnd`. -/
inductive RecordChain (m : ByteMemory) (start stop mmapEnd : Nat) : Nat → List MapRecord → Prop where
  | done {x : Nat} (hend : mmapEnd ≤ x) : RecordChain m start stop mmapEnd x []
  | record {x : Nat} {records : List MapRecord} (hlt : x < mmapEnd) (hstart : start ≤ x + 8)
      (hstop : x + 20 ≤ stop)
      (hrest : RecordChain m start stop mmapEnd (wrap32 (x + (mapRecordAt m x).length + 4)) records) :
      RecordChain m start stop mmapEnd x (mapRecordAt m x :: records)

def recordedLength (records : List MapRecord) : Nat :=
  ((records.filter fun r => r.type == 1).map fun r => r.length).sum

/-! ## The loop follows the chain -/

section Loop

variable {m : ByteMemory} {start stop mmapEnd : Nat}

/-- The reads are within the map. -/
def ReadsInside (start stop : Nat) (reads : List (Nat × Nat)) : Prop :=
  ∀ r ∈ reads, start ≤ r.1 ∧ r.1 + r.2 ≤ stop

theorem readsInside_append {reads rest : List (Nat × Nat)} :
    ReadsInside start stop (reads ++ rest) ↔
      ReadsInside start stop reads ∧ ReadsInside start stop rest :=
  List.forall_mem_append

theorem readsInside_record {x : Nat} :
    ReadsInside start stop (recordReads x) ↔ start ≤ x + 8 ∧ x + 20 ≤ stop := by
  unfold ReadsInside recordReads
  simp only [List.forall_mem_cons, List.not_mem_nil, false_implies, implies_true, and_true]
  omega

theorem recordedLength_cons (r : MapRecord) (records : List MapRecord) :
    recordedLength (r :: records) =
      (if r.type = 1 then r.length else 0) + recordedLength records := by
  unfold recordedLength
  by_cases h : r.type = 1
  · rw [List.filter_cons_of_pos (by simpa using h), if_pos h, List.map_cons, List.sum_cons]
  · rw [List.filter_cons_of_neg (by simpa using h), if_neg h, Nat.zero_add]

/-- The total after a record. -/
theorem total_record (x total : Nat) (records : List MapRecord) :
    wrap32 ((if recordType m x = 1 then wrap32 (total + recordLength m x) else total) +
        recordedLength records) =
      wrap32 (total + recordedLength (mapRecordAt m x :: records)) := by
  rw [recordedLength_cons]
  unfold mapRecordAt wrap32
  simp only []
  split <;> omega

/-- Along a chain the loop comes to its end. -/
theorem RecordChain.pmmLoop {x : Nat} {records : List MapRecord}
    (h : RecordChain m start stop mmapEnd x records) :
    ∀ {total : Nat}, total < 2 ^ 32 → ∃ fuel t reads,
      Kernel.pmmLoop m mmapEnd fuel { memoryMap := x, totalMemory := total } = some (t, reads) ∧
        ReadsInside start stop reads ∧ t.totalMemory = wrap32 (total + recordedLength records) := by
  induction h with
  | @done x hend =>
    intro total htotal
    refine ⟨1, ⟨x, total⟩, [], ?_, fun _ hr => absurd hr List.not_mem_nil, (wrap32_eq_self htotal).symm⟩
    unfold Kernel.pmmLoop
    rw [if_neg (Nat.not_lt.mpr hend)]
  | @record x records hlt hstart hstop _ ih =>
    intro total htotal
    have hnext : (if recordType m x = 1 then wrap32 (total + recordLength m x) else total) <
        2 ^ 32 := by
      split
      · exact Nat.mod_lt _ (by decide)
      · exact htotal
    obtain ⟨fuel, t, reads, hloop, hinside, ht⟩ := ih hnext
    refine ⟨fuel + 1, t, recordReads x ++ reads, ?_, ?_, ?_⟩
    · unfold Kernel.pmmLoop
      rw [if_pos hlt]
      simp only []
      unfold mapRecordAt at hloop
      rw [hloop]
      rfl
    · exact readsInside_append.mpr ⟨readsInside_record.mpr ⟨hstart, hstop⟩, hinside⟩
    · rw [ht, total_record]

/-- A loop that comes to its end has followed a chain. -/
theorem chain_of_pmmLoop : ∀ {fuel x total : Nat} {t : PhysicalMemory} {reads : List (Nat × Nat)},
    total < 2 ^ 32 →
    pmmLoop m mmapEnd fuel { memoryMap := x, totalMemory := total } = some (t, reads) →
    ReadsInside start stop reads → ∃ records, RecordChain m start stop mmapEnd x records ∧
      t.totalMemory = wrap32 (total + recordedLength records) := by
  intro fuel
  induction fuel with
  | zero => intro x total t reads _ h; cases h
  | succ fuel ih =>
    intro x total t reads htotal h hinside
    unfold pmmLoop at h
    split at h
    · next hlt =>
      simp only [] at hlt h
      obtain ⟨⟨t', reads'⟩, hloop, heq⟩ := Option.map_eq_some_iff.mp h
      obtain ⟨rfl, rfl⟩ := Prod.mk.inj heq
      obtain ⟨hrecord, hrest⟩ := readsInside_append.mp hinside
      obtain ⟨hstart, hstop⟩ := readsInside_record.mp hrecord
      have hnext : (if recordType m x = 1 then wrap32 (total + recordLength m x) else total) <
          2 ^ 32 := by
        split
        · exact Nat.mod_lt _ (by decide)
        · exact htotal
      obtain ⟨records, hchain, ht⟩ := ih hnext hloop hrest
      refine ⟨mapRecordAt m x :: records, .record hlt hstart hstop hchain, ?_⟩
      rw [ht, total_record]
    · next hend =>
      cases h
      exact ⟨[], .done (Nat.not_lt.mp hend), (wrap32_eq_self htotal).symm⟩

theorem RecordChain.unique {x : Nat} {records records' : List MapRecord}
    (h : RecordChain m start stop mmapEnd x records)
    (h' : RecordChain m start stop mmapEnd x records') : records = records' := by
  induction h generalizing records' with
  | done hend =>
    cases h' with
    | done => rfl
    | record hlt => exact absurd hend (Nat.not_le.mpr hlt)
  | record hlt _ _ _ ih =>
    cases h' with
    | done hend => exact absurd hend (Nat.not_le.mpr hlt)
    | record _ _ _ hrest => rw [ih hrest]

end Loop

/-! ## Main result -/

/-- `pmm_init` comes to its end, reads within the map only, and has the total of its regions. -/
def MeasuresMemory (m : ByteMemory) (s : PhysicalMemory) (mbi : MultibootInfo)
    (entries : List MmapEntry) : Prop :=
  ∃ fuel t reads, pmmInit m fuel s (some mbi) = some (true, t, reads) ∧
    ReadsInside mbi.mmapAddr.toNat (mbi.mmapAddr.toNat + mbi.mmapLength.toNat) reads ∧
    t.totalMemory = wrap32 (availableLength entries)

/-- The map in the layout of the source. -/
def SourceLayout (m : ByteMemory) (mbi : MultibootInfo) (records : List MapRecord) : Prop :=
  RecordChain m mbi.mmapAddr.toNat (mbi.mmapAddr.toNat + mbi.mmapLength.toNat)
    (wrap32 (mbi.mmapAddr.toNat + mbi.mmapLength.toNat)) mbi.mmapAddr.toNat records

variable {m : ByteMemory} {mbi : MultibootInfo} {entries : List MmapEntry}

theorem pmmInit_some (hflags : mbi.flags &&& 0x40 ≠ 0) (fuel : Nat) (s : PhysicalMemory) :
    pmmInit m fuel s (some mbi) = (pmmLoop m
      (wrap32 (mbi.mmapAddr.toNat + mbi.mmapLength.toNat)) fuel
      { memoryMap := mbi.mmapAddr.toNat, totalMemory := 0 }).map fun r => (true, r) := by
  unfold pmmInit
  simp only []
  rw [if_neg hflags]

theorem chain_of_measures (hflags : mbi.flags &&& 0x40 ≠ 0) {s : PhysicalMemory}
    (h : MeasuresMemory m s mbi entries) : ∃ records, SourceLayout m mbi records ∧
      wrap32 (recordedLength records) = wrap32 (availableLength entries) := by
  obtain ⟨fuel, t, reads, hinit, hinside, htotal⟩ := h
  rw [pmmInit_some hflags] at hinit
  obtain ⟨r, hloop, heq⟩ := Option.map_eq_some_iff.mp hinit
  obtain rfl : r = (t, reads) := (Prod.mk.inj heq).2
  obtain ⟨records, hchain, ht⟩ := chain_of_pmmLoop (by decide) hloop hinside
  rw [Nat.zero_add] at ht
  exact ⟨records, hchain, ht.symm.trans htotal⟩

theorem SourceLayout.measures (hflags : mbi.flags &&& 0x40 ≠ 0) {s : PhysicalMemory}
    {records : List MapRecord} (h : SourceLayout m mbi records)
    (htotal : wrap32 (recordedLength records) = wrap32 (availableLength entries)) :
    MeasuresMemory m s mbi entries := by
  obtain ⟨fuel, t, reads, hloop, hinside, ht⟩ := RecordChain.pmmLoop h (by decide : 0 < 2 ^ 32)
  rw [Nat.zero_add] at ht
  refine ⟨fuel, t, reads, ?_, hinside, ht.trans htotal⟩
  rw [pmmInit_some hflags, hloop]
  rfl

/-- The two layouts agree on the total. -/
theorem SourceLayout.measures_iff (hflags : mbi.flags &&& 0x40 ≠ 0) {s : PhysicalMemory}
    {records : List MapRecord} (h : SourceLayout m mbi records) : MeasuresMemory m s mbi entries ↔
      wrap32 (recordedLength records) = wrap32 (availableLength entries) := by
  constructor
  · intro hmeasures
    obtain ⟨records', h', htotal⟩ := chain_of_measures hflags hmeasures
    rwa [h.unique h']
  · exact h.measures hflags

/-! ### Ordinary maps -/

/-- The first region is below 4 GB, and longer than the map. -/
structure OrdinaryMap (mbi : MultibootInfo) (e : MmapEntry) : Prop where
  low : e.baseAddr < 2 ^ 32
  long : mbi.mmapAddr.toNat + mbi.mmapLength.toNat ≤ mbi.mmapAddr.toNat + 8 + e.length % 2 ^ 32
  fits : mbi.mmapAddr.toNat + 8 + e.length % 2 ^ 32 < 2 ^ 32

theorem availableLength_cons (e : MmapEntry) (rest : List MmapEntry) :
    availableLength (e :: rest) = (if e.type = 1 then e.length else 0) + availableLength rest := by
  unfold availableLength
  by_cases h : e.type = 1
  · rw [List.filter_cons_of_pos (by simpa using h), if_pos h, List.map_cons, List.sum_cons]
  · rw [List.filter_cons_of_neg (by simpa using h), if_neg h, Nat.zero_add]

theorem LaidOut.le {stop x : Nat} (h : LaidOut m stop x entries) : x ≤ stop := by
  induction h with
  | nil => exact Nat.le_refl _
  | cons _ _ ih => omega

theorem LaidOut.head {stop x : Nat} {e : MmapEntry} {rest : List MmapEntry}
    (h : LaidOut m stop x (e :: rest)) : e = mmapEntryAt m x := by
  cases h
  rfl

/-- The record at the start of an ordinary map has no length, and the one four bytes behind it is the
first of the map. -/
theorem OrdinaryMap.sourceLayout {stop : Nat} {rest : List MmapEntry}
    (hstop : stop = mbi.mmapAddr.toNat + mbi.mmapLength.toNat)
    (hmap : LaidOut m stop mbi.mmapAddr.toNat (mmapEntryAt m mbi.mmapAddr.toNat :: rest))
    (h : OrdinaryMap mbi (mmapEntryAt m mbi.mmapAddr.toNat)) :
    SourceLayout m mbi [mapRecordAt m mbi.mmapAddr.toNat, mapRecordAt m (mbi.mmapAddr.toNat + 4)] ∧
      2 ^ 32 ∣ (mapRecordAt m mbi.mmapAddr.toNat).length ∧
      (mapRecordAt m (mbi.mmapAddr.toNat + 4)).length = (mmapEntryAt m mbi.mmapAddr.toNat).length ∧
      (mapRecordAt m (mbi.mmapAddr.toNat + 4)).type = (mmapEntryAt m mbi.mmapAddr.toNat).type := by
  obtain ⟨hlow, hlong, hfits⟩ := h
  unfold SourceLayout
  generalize mbi.mmapAddr.toNat = a at *
  have hroom : a + 24 ≤ stop := by
    cases hmap with
    | cons hsize hrest =>
      have hle := hrest.le
      omega
  have hhigh : word m (a + 8) = 0 := by
    change word m (a + 4) + 2 ^ 32 * word m (a + 8) < 2 ^ 32 at hlow
    omega
  have hfirst : (mapRecordAt m a).length = 2 ^ 32 * word m (a + 12) := by
    show word m (a + 8) + 2 ^ 32 * word m (a + 12) = _
    rw [hhigh, Nat.zero_add]
  have hsecond : (mapRecordAt m (a + 4)).length = (mmapEntryAt m a).length := rfl
  refine ⟨?_, ⟨_, hfirst⟩, hsecond, rfl⟩
  rw [← hstop] at hlong ⊢
  have hend : wrap32 stop = stop := wrap32_eq_self (by omega)
  have hnext : wrap32 (a + (mapRecordAt m a).length + 4) = a + 4 := by
    unfold wrap32
    omega
  have hlast : wrap32 (a + 4 + (mapRecordAt m (a + 4)).length + 4) =
      a + 8 + (mmapEntryAt m a).length % 2 ^ 32 := by
    unfold wrap32
    omega
  rw [hend]
  refine .record (by omega) (by omega) (by omega) ?_
  rw [hnext]
  refine .record (by omega) (by omega) (by omega) ?_
  rw [hlast]
  exact .done hlong

/-- **Of an ordinary map only the first region counts.** -/
theorem OrdinaryMap.measures_iff {e : MmapEntry} {rest : List MmapEntry} (h : OrdinaryMap mbi e)
    (hflags : mbi.flags &&& 0x40 ≠ 0) {s : PhysicalMemory}
    (hmap : LaidOut m (mbi.mmapAddr.toNat + mbi.mmapLength.toNat) mbi.mmapAddr.toNat (e :: rest)) :
    MeasuresMemory m s mbi (e :: rest) ↔ 2 ^ 32 ∣ availableLength rest := by
  obtain rfl := hmap.head
  obtain ⟨hlayout, hfirst, hlength, htype⟩ := h.sourceLayout rfl hmap
  rw [hlayout.measures_iff hflags, recordedLength_cons, recordedLength_cons, hlength, htype,
    availableLength_cons]
  obtain ⟨k, hk⟩ := hfirst
  have hnone : recordedLength [] = 0 := rfl
  rw [hk, hnone]
  unfold wrap32
  split <;> omega

/-! ### All maps -/

/-- There is no record, or the first one is that of an ordinary map. -/
def Ordinary (mbi : MultibootInfo) : List MmapEntry → Prop
  | [] => True
  | e :: _ => OrdinaryMap mbi e

/-- All the memory is in the first region, up to a multiple of 2^32. -/
def FirstRegionOnly : List MmapEntry → Prop
  | [] => True
  | _ :: rest => 2 ^ 32 ∣ availableLength rest

/-- An empty map ends the loop before its first round. -/
theorem measures_nil (hflags : mbi.flags &&& 0x40 ≠ 0)
    (hmap : LaidOut m (mbi.mmapAddr.toNat + mbi.mmapLength.toNat) mbi.mmapAddr.toNat [])
    (s : PhysicalMemory) : MeasuresMemory m s mbi [] := by
  have hend : mbi.mmapAddr.toNat + mbi.mmapLength.toNat = mbi.mmapAddr.toNat := by
    generalize hstop : mbi.mmapAddr.toNat + mbi.mmapLength.toNat = stop at hmap
    cases hmap
    rfl
  have hlayout : SourceLayout m mbi [] := by
    refine .done ?_
    rw [hend]
    exact Nat.mod_le _ _
  exact hlayout.measures hflags rfl

/--
**`pmm_init` measures an ordinary map that is laid out as the specification has it iff there is no
memory but in the first region.**

The size fields, the regions behind the first one and the contents of the memory around the map are
arbitrary.
-/
theorem measuresMemory_of_firstRegionOnly (hflags : mbi.flags &&& 0x40 ≠ 0)
    (hmap : LaidOut m (mbi.mmapAddr.toNat + mbi.mmapLength.toNat) mbi.mmapAddr.toNat entries)
    (s : PhysicalMemory) :
    (Ordinary mbi entries ∧ FirstRegionOnly entries → MeasuresMemory m s mbi entries) ∧
      (Ordinary mbi entries → (MeasuresMemory m s mbi entries ↔ FirstRegionOnly entries)) := by
  have hiff : Ordinary mbi entries → (MeasuresMemory m s mbi entries ↔ FirstRegionOnly entries) := by
    intro hordinary
    cases entries with
    | nil => exact iff_of_true (measures_nil hflags hmap s) trivial
    | cons e rest => exact OrdinaryMap.measures_iff hordinary hflags hmap
  exact ⟨fun h => (hiff h.1).mpr h.2, hiff⟩

/-- A map at 36 KB. -/
def mapAt36K (bytes : Bytes) : ByteMemory := fun x => bytes.getD (x - 0x9000) 0

/-- A record with a base address and a length below 4 GB. -/
def entryBytes (baseAddr length type : UInt32) : Bytes :=
  le32 20 ++ le32 baseAddr ++ le32 0 ++ le32 length ++ le32 0 ++ le32 type

/-- The memory below 640 KB. -/
def lowMemory : Bytes := entryBytes 0 0x9FC00 1

/-- The memory from 1 MB on. -/
def highMemory : Bytes := entryBytes 0x100000 0x7EE0000 1

def infoAt36K (length : UInt32) : MultibootInfo := ⟨0x40, length, 0x9000⟩

/-- A map with one region. -/
theorem measuresMemory_low : MeasuresMemory (mapAt36K lowMemory) ⟨0, 0⟩ (infoAt36K 24)
    [mmapEntryAt (mapAt36K lowMemory) 0x9000] := by
  have hend : 0x9000 + 4 + (mmapEntryAt (mapAt36K lowMemory) 0x9000).size = 0x9000 + 24 := by
    decide +kernel
  have hmap : LaidOut (mapAt36K lowMemory) (0x9000 + 24) 0x9000
      [mmapEntryAt (mapAt36K lowMemory) 0x9000] := by
    refine .cons (by decide +kernel) ?_
    rw [hend]
    exact .nil
  have hordinary : OrdinaryMap (infoAt36K 24) (mmapEntryAt (mapAt36K lowMemory) 0x9000) :=
    ⟨by decide +kernel, by decide +kernel, by decide +kernel⟩
  exact (@measuresMemory_of_firstRegionOnly _ (infoAt36K 24) _ (by decide) hmap ⟨0, 0⟩).1
    ⟨hordinary, Nat.dvd_zero _⟩

/-- **The memory from 1 MB on is not counted.** -/
theorem high_memory_lost : ∃ entries, LaidOut (mapAt36K (lowMemory ++ highMemory)) (0x9000 + 48)
      0x9000 entries ∧ availableLength entries = 0x9FC00 + 0x7EE0000 ∧
    ¬ MeasuresMemory (mapAt36K (lowMemory ++ highMemory)) ⟨0, 0⟩ (infoAt36K 48) entries := by
  have hnext : 0x9000 + 4 + (mmapEntryAt (mapAt36K (lowMemory ++ highMemory)) 0x9000).size =
      0x9018 := by decide +kernel
  have hend : 0x9018 + 4 + (mmapEntryAt (mapAt36K (lowMemory ++ highMemory)) 0x9018).size =
      0x9000 + 48 := by decide +kernel
  have hmap : LaidOut (mapAt36K (lowMemory ++ highMemory)) (0x9000 + 48) 0x9000
      [mmapEntryAt (mapAt36K (lowMemory ++ highMemory)) 0x9000,
        mmapEntryAt (mapAt36K (lowMemory ++ highMemory)) 0x9018] := by
    refine .cons (by decide +kernel) ?_
    rw [hnext]
    refine .cons (by decide +kernel) ?_
    rw [hend]
    exact .nil
  have hordinary : OrdinaryMap (infoAt36K 48)
      (mmapEntryAt (mapAt36K (lowMemory ++ highMemory)) 0x9000) :=
    ⟨by decide +kernel, by decide +kernel, by decide +kernel⟩
  refine ⟨_, hmap, by decide +kernel, fun hmeasures => ?_⟩
  have hrest := (hordinary.measures_iff (by decide) hmap).mp hmeasures
  exact absurd hrest (by decide +kernel)

end MayaOs.Kernel
