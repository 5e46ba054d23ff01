import Mathlib.Data.List.Nodup
import Mathlib.Data.List.Perm.Subperm
import MayaOs.Properties.PageTables

/-!
# Mapping regions

Both loops map page after page. `memory_map_physical` rounds the end of the region up, which wraps
around at the top of the address space; `memory_map_region_v` counts the pages from the size alone.

* `mapsRegions_iff` — when the whole region is mapped
-/

namespace MayaOs.Kernel

open MayaOs.Lib

variable {kmallocAligned : FrameAllocator}

/-! ## Allocation that always succeeds -/

/-- Whatever is mapped from here on, there is a fresh page for each new table. -/
def Supplied (kmallocAligned : FrameAllocator) (s : MapSystem) : Prop :=
  ∀ t, Reachable (mapStep kmallocAligned) s t → ∀ v : UInt32, ¬ Present t.paging (pdIndex v.toNat) →
    FreshFrame t.paging (kmallocAligned t.paging.allocations t.paging.mem) ∧
      (kmallocAligned t.paging.allocations t.paging.mem).1 ≠ 0

/-- The tables are in order, and will be. -/
structure Ready (kmallocAligned : FrameAllocator) (s : PagingState) : Prop where
  tables : TablesOk s
  supplied : ∃ log, Supplied kmallocAligned ⟨s, log⟩

theorem Supplied.allocates {s : MapSystem} (h : Supplied kmallocAligned s) (c : MapCall) :
    MapAllocates kmallocAligned s c :=
  fun habsent => (h s ⟨[], rfl⟩ c.virtualAddr habsent).1

theorem Supplied.step {s t : MapSystem} {c : MapCall} (h : Supplied kmallocAligned s)
    (ht : mapStep kmallocAligned s c = some t) : Supplied kmallocAligned t := by
  rintro u ⟨calls, hu⟩
  exact h u ⟨c :: calls, run_cons_eq_some.mpr ⟨t, ht, hu⟩⟩

/-- `page_map` succeeds. -/
theorem pageMap_fst {s : PagingState} {log : List (MapCall × Bool)} (h : TablesOk s)
    (hs : Supplied kmallocAligned ⟨s, log⟩) (v : UInt32) (p : Nat) :
    (pageMap kmallocAligned s v.toNat p).1 = true := by
  unfold pageMap
  rw [if_neg (by rw [h.initialized]; simp)]
  unfold getPageTable allocateFrame
  by_cases habsent : entry s.mem s.pageDirectory (pdIndex v.toNat) &&& 1 = 0
  · rw [if_pos habsent]
    simp only []
    rw [if_neg (hs ⟨s, log⟩ ⟨[], rfl⟩ v (not_not.mpr habsent)).2]
  · rw [if_neg habsent]

/-- **A page is mapped.** -/
theorem Ready.pageMap {s : PagingState} (h : Ready kmallocAligned s) {v p : Nat} (hv : v < 2 ^ 32)
    (hp : p < 2 ^ 32) :
    Ready kmallocAligned (pageMap kmallocAligned s v p).2 ∧
      ∀ a < 2 ^ 32, walk (pageMap kmallocAligned s v p).2 a =
        if a / 4096 = v / 4096 then some (p &&& 0xFFFFF000 ||| a &&& 0xFFF) else walk s a := by
  obtain ⟨log, hs⟩ := h.supplied
  obtain ⟨v, rfl⟩ : ∃ x : UInt32, x.toNat = v := ⟨UInt32.ofNat v, UInt32.toNat_ofNat_of_lt' hv⟩
  obtain ⟨p, rfl⟩ : ∃ x : UInt32, x.toNat = p := ⟨UInt32.ofNat p, UInt32.toNat_ofNat_of_lt' hp⟩
  rcases hmap : Kernel.pageMap kmallocAligned s v.toNat p.toNat with ⟨ok, t⟩
  have hok : ok = true := by
    rw [← pageMap_fst h.tables hs v p.toNat, hmap]
  obtain ⟨htables, hwalk⟩ := walk_pageMap h.tables hv hp (hs.allocates ⟨v, p⟩) hmap
  refine ⟨⟨htables, (⟨v, p⟩, ok) :: log, hs.step (c := ⟨v, p⟩) ?_⟩, fun a ha => ?_⟩
  · unfold mapStep
    rw [hmap]
  · rw [hwalk a ha, hok]
    simp only [true_and]

/-- Where `page_map` leads, as a number. -/
theorem translate_eq {p : Nat} (hp : p < 2 ^ 32) (a : Nat) :
    p &&& 0xFFFFF000 ||| a &&& 0xFFF = p / 4096 * 4096 + a % 4096 := by
  have hor : p &&& 0xFFFFF000 ||| a % 4096 = (p &&& 0xFFFFF000) + a % 4096 :=
    or_eq_add (n := 12) (pageFrame_and hp).aligned (Nat.mod_lt a (by decide))
  rw [and_offsetMask, hor, and_pageMask hp]

/-! ## The loops -/

/-- `memory_map_region_v` maps so many pages in a row. -/
theorem Ready.mapPages {s : PagingState} (h : Ready kmallocAligned s) {v p : Nat}
    (hv : 4096 ∣ v) (hp : 4096 ∣ p) {t : PagingState} : ∀ count : Nat,
    v + 4096 * count ≤ 2 ^ 32 → p + 4096 * count ≤ 2 ^ 32 →
    t = (List.range count).foldl (fun s i => (Kernel.pageMap kmallocAligned s
      (wrap32 (v + i * 0x1000)) (wrap32 (p + i * 0x1000))).2) s →
    Ready kmallocAligned t ∧ ∀ a < 2 ^ 32, walk t a =
      if v ≤ a ∧ a < v + 4096 * count then some (p + (a - v)) else walk s a := by
  intro count
  induction count generalizing t with
  | zero =>
    intro _ _ ht
    subst ht
    refine ⟨h, fun a _ => ?_⟩
    rw [if_neg (by omega)]
  | succ n ih =>
    intro hvn hpn ht
    rw [List.range_succ, List.foldl_append, List.foldl_cons, List.foldl_nil,
      wrap32_eq_self (by omega), wrap32_eq_self (by omega)] at ht
    obtain ⟨hready, hwalk⟩ := ih (by omega) (by omega) rfl
    obtain ⟨hready', hwalk'⟩ := hready.pageMap (v := v + n * 0x1000) (p := p + n * 0x1000)
      (by omega) (by omega)
    rw [← ht] at hready' hwalk'
    refine ⟨hready', fun a ha => ?_⟩
    rw [hwalk' a ha, hwalk a ha, translate_eq (by omega)]
    split
    · rw [if_pos (by omega)]
      congr 1
      omega
    · split
      · rw [if_pos (by omega)]
      · rw [if_neg (by omega)]

/-- The loop of `memory_map_physical` comes to its end, and maps each page to itself. -/
theorem Ready.mapPhysicalLoop {stop : Nat} (hstop : 4096 ∣ stop) (hlt : stop < 2 ^ 32) :
    ∀ (n addr fuel : Nat) {s : PagingState}, Ready kmallocAligned s → 4096 ∣ addr →
      stop ≤ addr + 4096 * n → addr < 2 ^ 32 → n < fuel →
      ∃ t, Kernel.mapPhysicalLoop kmallocAligned stop fuel s addr = some t ∧
        ∀ a < 2 ^ 32, walk t a = if addr ≤ a ∧ a < stop then some a else walk s a := by
  intro n
  induction n with
  | zero =>
    intro addr fuel s _ _ hend _ hfuel
    obtain ⟨fuel, rfl⟩ := Nat.exists_eq_add_of_lt hfuel
    refine ⟨s, ?_, fun a _ => by rw [if_neg (by omega)]⟩
    unfold Kernel.mapPhysicalLoop
    rw [if_neg (by omega)]
  | succ n ih =>
    intro addr fuel s h haddr hend hlt' hfuel
    obtain ⟨fuel, rfl⟩ : ∃ m, fuel = m + 1 := ⟨fuel - 1, by omega⟩
    unfold Kernel.mapPhysicalLoop
    by_cases hmore : addr < stop
    · rw [if_pos hmore, wrap32_eq_self (by omega)]
      obtain ⟨hready, hwalk⟩ := h.pageMap hlt' hlt'
      obtain ⟨t, ht, hwalk'⟩ := ih (addr + 0x1000) fuel hready (by omega) (by omega) (by omega)
        (by omega)
      refine ⟨t, ht, fun a ha => ?_⟩
      rw [hwalk' a ha, hwalk a ha, translate_eq hlt']
      split
      · rw [if_pos (by omega)]
      · split
        · rw [if_pos (by omega)]
          congr 1
          omega
        · rw [if_neg (by omega)]
    · rw [if_neg hmore]
      exact ⟨s, rfl, fun a _ => by rw [if_neg (by omega)]⟩

/-! ## Main result -/

/-- `memory_map_physical` maps the region to itself. -/
def MapsPhysical (kmallocAligned : FrameAllocator) (s : PagingState) (phys size : Nat) : Prop :=
  ∃ t, memoryMapPhysical kmallocAligned s phys size = some (phys, t) ∧
    ∀ k < size, walk t (phys + k) = some (phys + k)

/-- `memory_map_region_v` maps the one region to the other. -/
def MapsRegion (kmallocAligned : FrameAllocator) (s : PagingState) (phys virt size flags : Nat) :
    Prop :=
  ∀ k < size, walk (memoryMapRegionV kmallocAligned s phys virt size flags).2 (virt + k) =
    some (phys + k)

/-- The pages that `memory_map_region_v` counts. -/
def countedBytes (size : Nat) : Nat := 4096 * (wrap32 (size + 0xFFF) / 0x1000)

theorem mapsPhysical_iff {s : PagingState} (h : Ready kmallocAligned s) {phys size : Nat}
    (hphys : phys < 2 ^ 32) (hend : phys + size ≤ 2 ^ 32) :
    MapsPhysical kmallocAligned s phys size ↔
      phys + size ≤ 2 ^ 32 - 4096 ∨ ∀ k < size, walk s (phys + k) = some (phys + k) := by
  have hstop : wrap32 (phys + size + 0xFFF) < 2 ^ 32 := Nat.mod_lt _ (by decide)
  have hpages : wrap32 (phys + size + 0xFFF) &&& 0xFFFFF000 ≤
      (phys &&& 0xFFFFF000) + 4096 * maxPages := by
    have hlt := (pageFrame_and hstop).lt
    unfold maxPages
    omega
  obtain ⟨t, ht, hwalk⟩ := Ready.mapPhysicalLoop (pageFrame_and hstop).aligned
    (pageFrame_and hstop).lt maxPages (phys &&& 0xFFFFF000) (maxPages + 1) h
    (pageFrame_and hphys).aligned hpages (pageFrame_and hphys).lt (Nat.lt_succ_self _)
  have hmap : memoryMapPhysical kmallocAligned s phys size = some (phys, t) := by
    unfold memoryMapPhysical
    simp only []
    rw [ht]
    rfl
  rw [and_pageMask hphys, and_pageMask hstop] at hwalk
  unfold MapsPhysical
  rw [hmap]
  simp only [Option.some.injEq, Prod.mk.injEq, true_and, exists_eq_left']
  by_cases hfits : phys + size ≤ 2 ^ 32 - 4096
  · refine iff_of_true (fun k hk => ?_) (Or.inl hfits)
    rw [hwalk _ (by omega), wrap32_eq_self (by omega), if_pos (by omega)]
  · have hzero : wrap32 (phys + size + 0xFFF) / 4096 * 4096 = 0 := by
      unfold wrap32
      omega
    rw [hzero] at hwalk
    have hsame : ∀ k < size, walk t (phys + k) = walk s (phys + k) := fun k hk => by
      rw [hwalk _ (by omega), if_neg (by omega)]
    constructor
    · intro hall
      exact Or.inr fun k hk => (hsame k hk).symm.trans (hall k hk)
    · rintro (hc | hall) k hk
      · exact absurd hc hfits
      · exact (hsame k hk).trans (hall k hk)

theorem mapsRegion_iff_counted {s : PagingState} (h : Ready kmallocAligned s)
    {phys virt size flags : Nat} (hoffset : phys % 4096 = virt % 4096)
    (hphys : phys + size ≤ 2 ^ 32) (hvirt : virt + size ≤ 2 ^ 32) (hsize : size < 2 ^ 32)
    (hp : phys < 2 ^ 32) (hv : virt < 2 ^ 32) :
    MapsRegion kmallocAligned s phys virt size flags ↔
      ∀ k < size, countedBytes size ≤ phys % 4096 + k → walk s (virt + k) = some (phys + k) := by
  obtain ⟨n, hn⟩ : ∃ n, wrap32 (size + 0xFFF) / 0x1000 = n := ⟨_, rfl⟩
  have hcount : 4096 * n ≤ size + 0xFFF := by
    unfold wrap32 at hn
    omega
  obtain ⟨-, hwalk⟩ := h.mapPages (Nat.dvd_mul_left 4096 (virt / 4096))
    (Nat.dvd_mul_left 4096 (phys / 4096)) n (by omega) (by omega) rfl
  have hmapped : ∀ k < size,
      walk (memoryMapRegionV kmallocAligned s phys virt size flags).2 (virt + k) =
        if phys % 4096 + k < countedBytes size then some (phys + k) else walk s (virt + k) := by
    intro k hk
    unfold memoryMapRegionV countedBytes
    simp only []
    rw [and_pageMask hp, and_pageMask hv, hn, hwalk _ (by omega)]
    split
    · rw [if_pos (by omega)]
      congr 1
      omega
    · rw [if_neg (by omega)]
  unfold MapsRegion
  refine forall₂_congr fun k hk => ?_
  rw [hmapped k hk]
  split
  · exact iff_of_true rfl fun hc => by omega
  · next hout => exact ⟨fun heq _ => heq, fun hall => hall (by omega)⟩

/-- Every state that `page_map` leads to from an empty directory is ready. -/
theorem Zeroed.ready {s₀ : PagingState} (h : Zeroed s₀) (hs : Supplied kmallocAligned ⟨s₀, []⟩)
    {s : MapSystem} (hreach : Reachable (mapStep kmallocAligned) ⟨s₀, []⟩ s) :
    Ready kmallocAligned s.paging := by
  have hinv : HoldsMappings s ∧ Supplied kmallocAligned s := by
    refine hreach.invariant (I := fun s => HoldsMappings s ∧ Supplied kmallocAligned s) ?_
      ⟨h.holdsMappings, hs⟩
    exact fun s c t hi ht => ⟨holdsMappings_step hi.1 (hi.2.allocates c) ht, hi.2.step ht⟩
  exact ⟨hinv.1.tables, s.log, hinv.2⟩

/--
**Both regions are mapped iff the end of the first does not wrap around and the second has no byte
beyond the pages counted from its size; what is not mapped by the call may have been mapped before.**

The state is any one that `page_map` leads to from an empty directory.
-/
theorem mapsRegions_iff {s₀ : PagingState} (h : Zeroed s₀)
    (hs : Supplied kmallocAligned ⟨s₀, []⟩) {s : MapSystem}
    (hreach : Reachable (mapStep kmallocAligned) ⟨s₀, []⟩ s) (phys virt size flags : UInt32)
    (hoffset : phys.toNat % 4096 = virt.toNat % 4096)
    (hphys : phys.toNat + size.toNat ≤ 2 ^ 32) (hvirt : virt.toNat + size.toNat ≤ 2 ^ 32) :
    (MapsPhysical kmallocAligned s.paging phys.toNat size.toNat ∧
        MapsRegion kmallocAligned s.paging phys.toNat virt.toNat size.toNat flags.toNat) ↔
      (phys.toNat + size.toNat ≤ 2 ^ 32 - 4096 ∨
          ∀ k < size.toNat, walk s.paging (phys.toNat + k) = some (phys.toNat + k)) ∧
        ∀ k < size.toNat, countedBytes size.toNat ≤ phys.toNat % 4096 + k →
          walk s.paging (virt.toNat + k) = some (phys.toNat + k) := by
  have hready := h.ready hs hreach
  exact and_congr (mapsPhysical_iff hready phys.toNat_lt hphys)
    (mapsRegion_iff_counted hready hoffset hphys hvirt size.toNat_lt phys.toNat_lt virt.toNat_lt)

/-! ## A supply of pages -/

/-- The pages from 16 MB on that no entry of the directory at 1 MB points to. -/
def freePage (_ : Nat) (m : ByteMemory) : Nat × ByteMemory :=
  (((List.range 1025).map fun i => 0x1000000 + i * pageSize).find? (fun f =>
    (List.range 1024).all fun i => entry m 0x100000 i &&& 0xFFFFF000 != f) |>.getD 0, m)

theorem pageFrame_from16MB {i : Nat} (hi : i < 1025) : PageFrame (0x1000000 + i * pageSize) := by
  unfold pageSize
  exact ⟨⟨4096 + i, by omega⟩, by omega⟩

/-- There are more pages than entries. -/
theorem freePage_spec (n : Nat) (m : ByteMemory) :
    0x1000000 ≤ (freePage n m).1 ∧ PageFrame (freePage n m).1 ∧
      ∀ i < 1024, (freePage n m).1 ≠ entry m 0x100000 i &&& 0xFFFFF000 := by
  unfold freePage
  cases hfind : ((List.range 1025).map fun i => 0x1000000 + i * pageSize).find? (fun f =>
      (List.range 1024).all fun i => entry m 0x100000 i &&& 0xFFFFF000 != f) with
  | some f =>
    obtain ⟨i, hi, rfl⟩ := List.mem_map.mp (List.mem_of_find?_eq_some hfind)
    have hfree := List.find?_some hfind
    rw [List.all_eq_true] at hfree
    have hframe := pageFrame_from16MB (List.mem_range.mp hi)
    rw [Option.getD_some]
    refine ⟨Nat.le_add_right _ _, hframe, fun j hj heq => ?_⟩
    have hne := hfree j (List.mem_range.mpr hj)
    rw [bne_iff_ne] at hne
    exact hne heq.symm
  | none =>
    have hsub : (List.range 1025).map (fun i => 0x1000000 + i * pageSize) ⊆
        (List.range 1024).map fun i => entry m 0x100000 i &&& 0xFFFFF000 := by
      intro f hf
      have hused := List.find?_eq_none.mp hfind f hf
      rw [List.all_eq_true] at hused
      simp only [not_forall, bne_iff_ne, ne_eq, not_not] at hused
      obtain ⟨i, hi, heq⟩ := hused
      exact List.mem_map.mpr ⟨i, hi, heq⟩
    have hnodup : ((List.range 1025).map fun i => 0x1000000 + i * pageSize).Nodup := by
      refine List.nodup_range.map fun i j hij => ?_
      unfold pageSize at hij
      omega
    have hlen := (List.subperm_of_subset hnodup hsub).length_le
    simp only [List.length_map, List.length_range] at hlen
    omega

theorem pageDirectory_pageMap (s : PagingState) (v p : Nat) :
    (pageMap kmallocAligned s v p).2.pageDirectory = s.pageDirectory := by
  unfold pageMap getPageTable allocateFrame
  split
  · rfl
  · by_cases habsent : entry s.mem s.pageDirectory (pdIndex v) &&& 1 = 0
    · simp only [habsent, if_true]
      by_cases hnull : (kmallocAligned s.allocations s.mem).1 = 0
      · simp only [hnull, if_true]
      · simp only [hnull, if_false]
    · simp only [habsent, if_false]

theorem supplied_freePage : Supplied freePage ⟨emptyDirectory, []⟩ := by
  intro t hreach v _
  have hdir : t.paging.pageDirectory = 0x100000 := by
    refine hreach.invariant (I := fun t => t.paging.pageDirectory = 0x100000) ?_ rfl
    rintro s c t hs ⟨⟩
    exact (pageDirectory_pageMap s.paging _ _).trans hs
  obtain ⟨hlow, hframe, hfree⟩ := freePage_spec t.paging.allocations t.paging.mem
  refine ⟨⟨hframe, fun _ => ⟨by omega, fun i hi _ => ?_⟩, fun _ _ => rfl, fun _ _ _ _ _ => rfl⟩,
    by omega⟩
  unfold tableAt
  rw [hdir]
  exact hfree i hi

/-- A page of a device. -/
theorem mapsRegions_page :
    (MapsPhysical freePage emptyDirectory (0xFEBC0000 : UInt32).toNat (0x1000 : UInt32).toNat ∧
        MapsRegion freePage emptyDirectory (0xFEBC0000 : UInt32).toNat (0xC0000000 : UInt32).toNat
          (0x1000 : UInt32).toNat (3 : UInt32).toNat) :=
  (mapsRegions_iff zeroed_emptyDirectory supplied_freePage ⟨[], rfl⟩ 0xFEBC0000 0xC0000000 0x1000 3
    (by decide) (by decide) (by decide)).mpr
    ⟨Or.inl (by decide), fun k hk hout => absurd hout (by
      have hk : k < 4096 := hk
      have hcounted : countedBytes (0x1000 : UInt32).toNat = 4096 := by decide
      have hzero : (0xFEBC0000 : UInt32).toNat % 4096 = 0 := by decide
      omega)⟩

/-- **The second page of a region of one page that starts in the middle of a page is not mapped.** -/
theorem straddled_page_lost : Zeroed emptyDirectory ∧ Supplied freePage ⟨emptyDirectory, []⟩ ∧
    ¬ (MapsPhysical freePage emptyDirectory 0xFEBC0800 0x1000 ∧
      MapsRegion freePage emptyDirectory 0xFEBC0800 0xC0000800 0x1000 3) := by
  refine ⟨zeroed_emptyDirectory, supplied_freePage, fun hboth => ?_⟩
  have hready := zeroed_emptyDirectory.ready supplied_freePage ⟨[], rfl⟩
  have hregion := (mapsRegion_iff_counted hready (by decide) (by decide) (by decide) (by decide)
    (by decide) (by decide)).mp hboth.2 0x800 (by decide) (by decide)
  rw [walk_of_absent (zeroed_emptyDirectory.absent (pdIndex_lt (by decide)))] at hregion
  simp at hregion

end MayaOs.Kernel
