import MayaOs.Kernel.Paging
import MayaOs.Lib.Run

/-!
# The page tables are a flat map

`TablesOk` says that no two present entries of the directory share a table, and that none is the
directory. Then `page_map` changes the translation of one page only.

* `walk_pageMap` — the translations after `page_map`
* `translations_always` — after any calls of `page_map`, the last one that succeeded for a page counts
* `firstMegabytes_never_mapped` — paging is turned on with an empty directory
-/

namespace MayaOs.Kernel

open MayaOs.Lib

/-! ## Pages and indices -/

/-- The address of a page. -/
structure PageFrame (f : Nat) : Prop where
  aligned : 4096 ∣ f
  lt : f < 2 ^ 32

theorem pdIndex_eq (a : Nat) : pdIndex a = a / 4194304 := Nat.shiftRight_eq_div_pow a 22

theorem ptIndex_eq (a : Nat) : ptIndex a = a / 4096 % 1024 := by
  unfold ptIndex
  rw [Nat.shiftRight_eq_div_pow]
  exact Nat.and_two_pow_sub_one_eq_mod _ 10

theorem pdIndex_lt {a : Nat} (h : a < 2 ^ 32) : pdIndex a < 1024 := by
  rw [pdIndex_eq]
  omega

theorem ptIndex_lt (a : Nat) : ptIndex a < 1024 := by
  rw [ptIndex_eq]
  omega

/-- The indices are those of the page. -/
theorem indices_eq_iff {a b : Nat} :
    (pdIndex a = pdIndex b ∧ ptIndex a = ptIndex b) ↔ a / 4096 = b / 4096 := by
  rw [pdIndex_eq, pdIndex_eq, ptIndex_eq, ptIndex_eq]
  omega

theorem and_offsetMask (a : Nat) : a &&& 0xFFF = a % 4096 := Nat.and_two_pow_sub_one_eq_mod a 12

/-! ## Entries -/

theorem entry_lt (m : ByteMemory) (t i : Nat) : entry m t i < 2 ^ 32 := word_lt m _

theorem pageFrame_entry (m : ByteMemory) (t i : Nat) : PageFrame (entry m t i &&& 0xFFFFF000) := by
  have h := entry_lt m t i
  rw [and_pageMask h]
  exact ⟨Nat.dvd_mul_left 4096 _, by omega⟩

theorem pageFrame_and {p : Nat} (h : p < 2 ^ 32) : PageFrame (p &&& 0xFFFFF000) := by
  rw [and_pageMask h]
  exact ⟨Nat.dvd_mul_left 4096 _, by omega⟩

theorem PageFrame.entry_eq {f : Nat} (h : PageFrame f) : f ||| 3 = f + 3 := by
  obtain ⟨k, rfl⟩ := h.aligned
  exact or_eq_add (n := 2) ⟨1024 * k, by omega⟩ (by decide)

theorem PageFrame.entry_lt {f : Nat} (h : PageFrame f) : f ||| 3 < 2 ^ 32 := by
  have halign := h.aligned
  have hlt := h.lt
  rw [h.entry_eq]
  omega

theorem PageFrame.entry_present {f : Nat} (h : PageFrame f) : (f ||| 3) &&& 1 ≠ 0 := by
  have halign := h.aligned
  rw [h.entry_eq, Nat.and_one_is_mod]
  omega

theorem PageFrame.entry_frame {f : Nat} (h : PageFrame f) : (f ||| 3) &&& 0xFFFFF000 = f := by
  have halign := h.aligned
  rw [and_pageMask h.entry_lt, h.entry_eq]
  omega

theorem entry_setEntry (m : ByteMemory) {t t' i j : Nat} (ht : PageFrame t) (ht' : PageFrame t')
    (hi : i < 1024) (hj : j < 1024) {v : Nat} (hv : v < 2 ^ 32) :
    entry (setEntry m t i v) t' j = if t = t' ∧ i = j then v else entry m t' j := by
  have h1 := ht.aligned
  have h2 := ht.lt
  have h3 := ht'.aligned
  have h4 := ht'.lt
  unfold entry setEntry
  split
  · next h =>
    obtain ⟨rfl, rfl⟩ := h
    exact word_storeWord m (by omega) hv
  · exact word_storeWord_of_apart m (by omega) (by omega) (by omega) v

theorem entry_memset (m : ByteMemory) {f t i : Nat} (hf : PageFrame f) (ht : PageFrame t)
    (hi : i < 1024) :
    entry (memset m f 0 pageSize) t i = if f = t then 0 else entry m t i := by
  have h1 := hf.aligned
  have h2 := hf.lt
  have h3 := ht.aligned
  have h4 := ht.lt
  unfold entry pageSize
  split
  · next h =>
    subst h
    exact word_memset m (by omega) (by omega) (by omega)
  · exact word_memset_of_apart m 0 (by omega) (by omega) (by omega)

/-! ## The tables -/

/-- The directory has a table at `i`. -/
def Present (s : PagingState) (i : Nat) : Prop := entry s.mem s.pageDirectory i &&& 1 ≠ 0

/-- The table at `i`. -/
def tableAt (s : PagingState) (i : Nat) : Nat := entry s.mem s.pageDirectory i &&& 0xFFFFF000

structure TablesOk (s : PagingState) : Prop where
  initialized : s.mmuInitialized = true
  directory : PageFrame s.pageDirectory
  ne_directory : ∀ i < 1024, Present s i → tableAt s i ≠ s.pageDirectory
  distinct : ∀ i < 1024, ∀ j < 1024, Present s i → Present s j → tableAt s i = tableAt s j → i = j

/-- What is assumed of `kmalloc_aligned`: it returns NULL or a page that is not in use, and writes
neither to the directory nor to a table. -/
structure FreshFrame (s : PagingState) (r : Nat × ByteMemory) : Prop where
  frame : PageFrame r.1
  fresh : r.1 ≠ 0 → r.1 ≠ s.pageDirectory ∧ ∀ i < 1024, Present s i → r.1 ≠ tableAt s i
  directory : ∀ i < 1024, entry r.2 s.pageDirectory i = entry s.mem s.pageDirectory i
  tables : ∀ i < 1024, Present s i → ∀ j < 1024,
    entry r.2 (tableAt s i) j = entry s.mem (tableAt s i) j

theorem pageFrame_tableAt (s : PagingState) (i : Nat) : PageFrame (tableAt s i) :=
  pageFrame_entry _ _ _

theorem walk_of_absent {s : PagingState} {a : Nat} (h : ¬ Present s (pdIndex a)) :
    walk s a = none := by
  unfold walk
  rw [if_pos (not_not.mp h)]

theorem walk_of_present {s : PagingState} {a : Nat} (h : Present s (pdIndex a)) :
    walk s a = if entry s.mem (tableAt s (pdIndex a)) (ptIndex a) &&& 1 = 0 then none
      else some (entry s.mem (tableAt s (pdIndex a)) (ptIndex a) &&& 0xFFFFF000 ||| a &&& 0xFFF) := by
  unfold walk
  rw [if_neg h]
  rfl

/-- Directories and tables with the same entries translate alike. -/
theorem walk_congr {s t : PagingState} (a : Nat)
    (hdir : entry t.mem t.pageDirectory (pdIndex a) = entry s.mem s.pageDirectory (pdIndex a))
    (htab : Present s (pdIndex a) → entry t.mem (tableAt s (pdIndex a)) (ptIndex a) =
      entry s.mem (tableAt s (pdIndex a)) (ptIndex a)) : walk t a = walk s a := by
  have hpresent : Present t (pdIndex a) ↔ Present s (pdIndex a) := by
    unfold Present
    rw [hdir]
  have htable : tableAt t (pdIndex a) = tableAt s (pdIndex a) := by
    unfold tableAt
    rw [hdir]
  by_cases h : Present s (pdIndex a)
  · rw [walk_of_present h, walk_of_present (hpresent.mpr h), htable, htab h]
  · rw [walk_of_absent h, walk_of_absent (mt hpresent.mp h)]

/-! ## What page_map does to the memory -/

/-- The directory as it was. -/
theorem TablesOk.congr {s t : PagingState} (h : TablesOk s)
    (hinit : t.mmuInitialized = s.mmuInitialized) (hpd : t.pageDirectory = s.pageDirectory)
    (hdir : ∀ i < 1024, entry t.mem s.pageDirectory i = entry s.mem s.pageDirectory i) :
    TablesOk t ∧ ∀ i < 1024, (Present t i ↔ Present s i) ∧ tableAt t i = tableAt s i := by
  have hsame : ∀ i < 1024, (Present t i ↔ Present s i) ∧ tableAt t i = tableAt s i := fun i hi => by
    unfold Present tableAt
    rw [hpd, hdir i hi]
    exact ⟨Iff.rfl, rfl⟩
  refine ⟨⟨by rw [hinit]; exact h.initialized, by rw [hpd]; exact h.directory, ?_, ?_⟩, hsame⟩
  · intro i hi hp
    rw [hpd, (hsame i hi).2]
    exact h.ne_directory i hi ((hsame i hi).1.mp hp)
  · intro i hi j hj hpi hpj heq
    rw [(hsame i hi).2, (hsame j hj).2] at heq
    exact h.distinct i hi j hj ((hsame i hi).1.mp hpi) ((hsame j hj).1.mp hpj) heq

section NewTable

variable {s t : PagingState} (h : TablesOk s) {i f : Nat} (hi : i < 1024) (hf : PageFrame f)
  (hdir : f ≠ s.pageDirectory)
  (ht : t = { s with mem := setEntry (memset s.mem f 0 pageSize) s.pageDirectory i (f ||| 3) })
include h hi hf hdir ht

theorem TablesOk.newTable_entry {j : Nat} (hj : j < 1024) :
    entry t.mem t.pageDirectory j = if i = j then f ||| 3 else entry s.mem s.pageDirectory j := by
  rw [ht]
  show entry (setEntry _ s.pageDirectory i _) s.pageDirectory j = _
  rw [entry_setEntry _ h.directory h.directory hi hj hf.entry_lt, entry_memset _ hf h.directory hj,
    if_neg hdir]
  simp only [true_and]

theorem TablesOk.newTable_self : Present t i ∧ tableAt t i = f := by
  unfold Present tableAt
  rw [h.newTable_entry hi hf hdir ht hi, if_pos rfl]
  exact ⟨hf.entry_present, hf.entry_frame⟩

theorem TablesOk.newTable_other {j : Nat} (hj : j < 1024) (hne : i ≠ j) :
    (Present t j ↔ Present s j) ∧ tableAt t j = tableAt s j := by
  unfold Present tableAt
  rw [h.newTable_entry hi hf hdir ht hj, if_neg hne]
  exact ⟨Iff.rfl, rfl⟩

variable (htab : ∀ j < 1024, Present s j → f ≠ tableAt s j)
include htab

theorem TablesOk.newTable : TablesOk t := by
  have hself := h.newTable_self hi hf hdir ht
  have hother : ∀ j < 1024, i ≠ j → (Present t j ↔ Present s j) ∧ tableAt t j = tableAt s j :=
    fun j hj hne => h.newTable_other hi hf hdir ht hj hne
  have hpd : t.pageDirectory = s.pageDirectory := by rw [ht]
  refine ⟨?_, ?_, ?_, ?_⟩
  · rw [ht]
    exact h.initialized
  · rw [hpd]
    exact h.directory
  · intro j hj hp
    rw [hpd]
    by_cases hij : i = j
    · subst hij
      rw [hself.2]
      exact hdir
    · rw [(hother j hj hij).2]
      exact h.ne_directory j hj ((hother j hj hij).1.mp hp)
  · intro j hj k hk hpj hpk heq
    by_cases hij : i = j <;> by_cases hik : i = k
    · exact hij.symm.trans hik
    · subst hij
      rw [hself.2, (hother k hk hik).2] at heq
      exact absurd heq (htab k hk ((hother k hk hik).1.mp hpk))
    · subst hik
      rw [hself.2, (hother j hj hij).2] at heq
      exact absurd heq.symm (htab j hj ((hother j hj hij).1.mp hpj))
    · rw [(hother j hj hij).2, (hother k hk hik).2] at heq
      exact h.distinct j hj k hk ((hother j hj hij).1.mp hpj) ((hother k hk hik).1.mp hpk) heq

variable (habsent : ¬ Present s i)
include habsent

/-- A new table is empty. -/
theorem TablesOk.newTable_walk {a : Nat} (ha : a < 2 ^ 32) : walk t a = walk s a := by
  have hj := pdIndex_lt ha
  by_cases hij : i = pdIndex a
  · subst hij
    obtain ⟨hpresent, htable⟩ := h.newTable_self hi hf hdir ht
    have hzero : entry t.mem f (ptIndex a) = 0 := by
      rw [ht]
      show entry (setEntry _ s.pageDirectory _ _) f _ = 0
      rw [entry_setEntry _ h.directory hf hi (ptIndex_lt a) hf.entry_lt,
        if_neg (fun hc => hdir hc.1.symm), entry_memset _ hf hf (ptIndex_lt a), if_pos rfl]
    rw [walk_of_absent habsent, walk_of_present hpresent, htable, hzero]
    rfl
  · refine walk_congr a (by rw [h.newTable_entry hi hf hdir ht hj, if_neg hij]) fun hp => ?_
    rw [ht]
    show entry (setEntry _ s.pageDirectory _ _) (tableAt s (pdIndex a)) _ = _
    rw [entry_setEntry _ h.directory (pageFrame_tableAt s _) hi (ptIndex_lt a) hf.entry_lt,
      if_neg (fun hc => h.ne_directory _ hj hp hc.1.symm),
      entry_memset _ hf (pageFrame_tableAt s _) (ptIndex_lt a), if_neg (htab _ hj hp)]

end NewTable

/-- An entry of a table is written. -/
theorem TablesOk.setPage {s : PagingState} (h : TablesOk s) {v p : Nat} (hv : v < 2 ^ 32)
    (hp : p < 2 ^ 32) (hpresent : Present s (pdIndex v)) {t : PagingState}
    (ht : t = { s with
      mem := setEntry s.mem (tableAt s (pdIndex v)) (ptIndex v) (p &&& 0xFFFFF000 ||| 3) }) :
    TablesOk t ∧ ∀ a < 2 ^ 32, walk t a =
      if a / 4096 = v / 4096 then some (p &&& 0xFFFFF000 ||| a &&& 0xFFF) else walk s a := by
  have hi := pdIndex_lt hv
  have hframe := pageFrame_and hp
  have hentry : ∀ t', PageFrame t' → ∀ j < 1024, entry t.mem t' j =
      if tableAt s (pdIndex v) = t' ∧ ptIndex v = j then p &&& 0xFFFFF000 ||| 3
      else entry s.mem t' j := fun t' ht' j hj => by
    rw [ht]
    exact entry_setEntry _ (pageFrame_tableAt s _) ht' (ptIndex_lt v) hj hframe.entry_lt
  have hdir : ∀ j < 1024, entry t.mem s.pageDirectory j = entry s.mem s.pageDirectory j :=
    fun j hj => by
      rw [hentry _ h.directory j hj, if_neg fun hc => h.ne_directory _ hi hpresent hc.1]
  have hpd : t.pageDirectory = s.pageDirectory := by rw [ht]
  obtain ⟨hok, hsame⟩ := h.congr (by rw [ht]) hpd hdir
  refine ⟨hok, ?_⟩
  · intro a ha
    have hj := pdIndex_lt ha
    split
    · next hpage =>
      obtain ⟨hpdi, hpti⟩ := indices_eq_iff.mpr hpage
      have hnew : entry t.mem (tableAt t (pdIndex a)) (ptIndex a) = p &&& 0xFFFFF000 ||| 3 := by
        rw [hpdi, hpti, (hsame _ hi).2, hentry _ (pageFrame_tableAt s _) _ (ptIndex_lt v)]
        simp only [true_and, if_true]
      rw [walk_of_present (by rw [hpdi]; exact (hsame _ hi).1.mpr hpresent), hnew,
        if_neg hframe.entry_present, hframe.entry_frame]
    · next hpage =>
      refine walk_congr a (by rw [hpd, hdir _ hj]) fun hpa => ?_
      rw [hentry _ (pageFrame_tableAt s _) _ (ptIndex_lt a), if_neg]
      rintro ⟨htab, hidx⟩
      exact hpage (indices_eq_iff.mp ⟨h.distinct _ hj _ hi hpa hpresent htab.symm, hidx.symm⟩)

/-! ## page_map -/

variable {kmallocAligned : FrameAllocator}

/-- `kmalloc_aligned`, if it is called for the table of the address, does as is assumed of it. -/
def AllocatesFresh (kmallocAligned : FrameAllocator) (s : PagingState) (v : Nat) : Prop :=
  ¬ Present s (pdIndex v) → FreshFrame s (kmallocAligned s.allocations s.mem)

/-- The memory after `kmalloc_aligned`. -/
theorem TablesOk.allocate {s : PagingState} (h : TablesOk s)
    (hr : FreshFrame s (kmallocAligned s.allocations s.mem)) {t : PagingState}
    (ht : t = (allocateFrame kmallocAligned s).2) :
    TablesOk t ∧ (∀ i < 1024, (Present t i ↔ Present s i) ∧ tableAt t i = tableAt s i) ∧
      ∀ a < 2 ^ 32, walk t a = walk s a := by
  subst ht
  obtain ⟨hok, hsame⟩ := h.congr (t := (allocateFrame kmallocAligned s).2) rfl rfl hr.directory
  refine ⟨hok, hsame, fun a ha => ?_⟩
  exact walk_congr a (hr.directory _ (pdIndex_lt ha)) fun hp =>
    hr.tables _ (pdIndex_lt ha) hp _ (ptIndex_lt a)

theorem getPageTable_spec {s : PagingState} (h : TablesOk s) {v : Nat} (hv : v < 2 ^ 32)
    (hfresh : AllocatesFresh kmallocAligned s v) {r : Option Nat} {t : PagingState}
    (ht : getPageTable kmallocAligned s (pdIndex v) = (r, t)) :
    TablesOk t ∧ (∀ a < 2 ^ 32, walk t a = walk s a) ∧
      ∀ table, r = some table → Present t (pdIndex v) ∧ tableAt t (pdIndex v) = table := by
  have hi := pdIndex_lt hv
  unfold getPageTable at ht
  split at ht
  · next habsent =>
    have habsent : ¬ Present s (pdIndex v) := not_not.mpr habsent
    have hr := hfresh habsent
    rcases halloc : allocateFrame kmallocAligned s with ⟨f, s'⟩
    have hf : f = (kmallocAligned s.allocations s.mem).1 := (Prod.mk.inj halloc).1.symm
    obtain ⟨hok, hsame, hwalk⟩ := h.allocate hr (t := s') (by rw [halloc])
    rw [halloc] at ht
    simp only [] at ht
    split at ht
    · obtain ⟨rfl, rfl⟩ := Prod.mk.inj ht
      exact ⟨hok, hwalk, fun table hnone => by cases hnone⟩
    · next hne =>
      obtain ⟨rfl, ht'⟩ := Prod.mk.inj ht
      rw [hf] at hne
      have hpd : s'.pageDirectory = s.pageDirectory := by rw [← (Prod.mk.inj halloc).2]
      have hframe : PageFrame f := by
        rw [hf]
        exact hr.frame
      have hdir : f ≠ s'.pageDirectory := by
        rw [hf, hpd]
        exact (hr.fresh hne).1
      have htab : ∀ j < 1024, Present s' j → f ≠ tableAt s' j := by
        intro j hj hp
        rw [hf, (hsame j hj).2]
        exact (hr.fresh hne).2 j hj ((hsame j hj).1.mp hp)
      refine ⟨hok.newTable hi hframe hdir ht'.symm htab, fun a ha => ?_, fun table hsome => ?_⟩
      · have hempty := hok.newTable_walk hi hframe hdir ht'.symm htab
          (mt (hsame _ hi).1.mp habsent) ha
        exact hempty.trans (hwalk a ha)
      · cases hsome
        exact hok.newTable_self hi hframe hdir ht'.symm
  · next hpresent =>
    obtain ⟨rfl, rfl⟩ := Prod.mk.inj ht
    refine ⟨h, fun a _ => rfl, fun table hsome => ?_⟩
    cases hsome
    exact ⟨hpresent, rfl⟩

/-- **`page_map` keeps the tables in order, and changes the translation of the page only.** -/
theorem walk_pageMap {s : PagingState} (h : TablesOk s) {v p : Nat} (hv : v < 2 ^ 32)
    (hp : p < 2 ^ 32) (hfresh : AllocatesFresh kmallocAligned s v) {ok : Bool} {t : PagingState}
    (ht : pageMap kmallocAligned s v p = (ok, t)) :
    TablesOk t ∧ ∀ a < 2 ^ 32, walk t a =
      if ok = true ∧ a / 4096 = v / 4096 then some (p &&& 0xFFFFF000 ||| a &&& 0xFFF)
      else walk s a := by
  unfold pageMap at ht
  rw [if_neg (by rw [h.initialized]; simp)] at ht
  rcases hget : getPageTable kmallocAligned s (pdIndex v) with ⟨r, s'⟩
  obtain ⟨hok, hwalk, htable⟩ := getPageTable_spec h hv hfresh hget
  rw [hget] at ht
  cases r with
  | none =>
    obtain ⟨rfl, rfl⟩ := Prod.mk.inj ht
    refine ⟨hok, fun a ha => ?_⟩
    rw [if_neg (by simp), hwalk a ha]
  | some table =>
    obtain ⟨rfl, ht'⟩ := Prod.mk.inj ht
    obtain ⟨hpresent, rfl⟩ := htable table rfl
    obtain ⟨hok', hwalk'⟩ := hok.setPage hv hp hpresent ht'.symm
    refine ⟨hok', fun a ha => ?_⟩
    rw [hwalk' a ha, hwalk a ha]
    simp only [true_and]

/-! ## Calls in a row -/

/-- An empty directory. -/
structure Zeroed (s : PagingState) : Prop where
  initialized : s.mmuInitialized = true
  directory : PageFrame s.pageDirectory
  zero : ∀ i < 1024, entry s.mem s.pageDirectory i = 0

theorem Zeroed.absent {s : PagingState} (h : Zeroed s) {i : Nat} (hi : i < 1024) : ¬ Present s i := by
  unfold Present
  rw [h.zero i hi]
  simp

theorem Zeroed.tablesOk {s : PagingState} (h : Zeroed s) : TablesOk s where
  initialized := h.initialized
  directory := h.directory
  ne_directory := fun _ hi hp => absurd hp (h.absent hi)
  distinct := fun _ hi _ _ hp _ _ => absurd hp (h.absent hi)

/-- The arguments of `page_map`. -/
structure MapCall where
  virtualAddr : UInt32
  physicalAddr : UInt32
  deriving Repr, DecidableEq

/-- The calls so far with their results, the last one first. -/
structure MapSystem where
  paging : PagingState
  log : List (MapCall × Bool)

def mapStep (kmallocAligned : FrameAllocator) (s : MapSystem) (c : MapCall) : Option MapSystem :=
  let (ok, paging) := pageMap kmallocAligned s.paging c.virtualAddr.toNat c.physicalAddr.toNat
  some { paging := paging, log := (c, ok) :: s.log }

/-- The last call that has succeeded for the page of the address. -/
def lastMapping (log : List (MapCall × Bool)) (a : UInt32) : Option MapCall :=
  (log.find? fun e => e.2 && e.1.virtualAddr.toNat / pageSize == a.toNat / pageSize).map Prod.fst

/-- Where the address should lead. -/
def MapCall.translate (c : MapCall) (a : UInt32) : Nat :=
  c.physicalAddr.toNat &&& 0xFFFFF000 ||| a.toNat &&& 0xFFF

theorem lastMapping_cons (c : MapCall) (ok : Bool) (log : List (MapCall × Bool)) (a : UInt32) :
    lastMapping ((c, ok) :: log) a =
      if ok = true ∧ a.toNat / 4096 = c.virtualAddr.toNat / 4096 then some c
      else lastMapping log a := by
  unfold lastMapping pageSize
  by_cases h : ok = true ∧ a.toNat / 4096 = c.virtualAddr.toNat / 4096
  · rw [if_pos h, List.find?_cons_of_pos (by simp [h.1, h.2])]
    rfl
  · rw [if_neg h, List.find?_cons_of_neg]
    intro hc
    rw [Bool.and_eq_true, beq_iff_eq] at hc
    exact h ⟨hc.1, hc.2.symm⟩

/-- The tables are the map of the log. -/
structure HoldsMappings (s : MapSystem) : Prop where
  tables : TablesOk s.paging
  walk : ∀ a : UInt32, walk s.paging a.toNat = (lastMapping s.log a).map fun c => c.translate a

/-- What is assumed of `kmalloc_aligned` in this call. -/
def MapAllocates (kmallocAligned : FrameAllocator) (s : MapSystem) (c : MapCall) : Prop :=
  AllocatesFresh kmallocAligned s.paging c.virtualAddr.toNat

/-- **One call.** -/
theorem holdsMappings_step {s t : MapSystem} {c : MapCall} (h : HoldsMappings s)
    (hfresh : MapAllocates kmallocAligned s c) (ht : mapStep kmallocAligned s c = some t) :
    HoldsMappings t := by
  rcases hmap : pageMap kmallocAligned s.paging c.virtualAddr.toNat c.physicalAddr.toNat with
    ⟨ok, paging⟩
  obtain ⟨htables, hwalk⟩ := walk_pageMap h.tables c.virtualAddr.toNat_lt c.physicalAddr.toNat_lt
    hfresh hmap
  unfold mapStep at ht
  rw [hmap] at ht
  cases ht
  refine ⟨htables, fun a => ?_⟩
  rw [hwalk a.toNat a.toNat_lt, lastMapping_cons]
  split
  · rfl
  · exact h.walk a

/-- A call that fails. -/
def FailureHarmless (kmallocAligned : FrameAllocator) (s : MapSystem) (c : MapCall)
    (t : MapSystem) : Prop :=
  (pageMap kmallocAligned s.paging c.virtualAddr.toNat c.physicalAddr.toNat).1 = false →
    ∀ a : UInt32, memoryGetPhysical t.paging a.toNat = memoryGetPhysical s.paging a.toNat

theorem failureHarmless_step {s t : MapSystem} {c : MapCall} (h : HoldsMappings s)
    (hfresh : MapAllocates kmallocAligned s c) (ht : mapStep kmallocAligned s c = some t) :
    FailureHarmless kmallocAligned s c t := by
  intro hfail a
  rcases hmap : pageMap kmallocAligned s.paging c.virtualAddr.toNat c.physicalAddr.toNat with
    ⟨ok, paging⟩
  obtain ⟨-, hwalk⟩ := walk_pageMap h.tables c.virtualAddr.toNat_lt c.physicalAddr.toNat_lt
    hfresh hmap
  unfold mapStep at ht
  rw [hmap] at ht hfail
  cases ht
  have hsame : walk paging a.toNat = walk s.paging a.toNat := by
    rw [hwalk a.toNat a.toNat_lt, if_neg (fun hc => Bool.noConfusion (hfail.symm.trans hc.1))]
  show memoryGetPhysical paging a.toNat = _
  unfold memoryGetPhysical
  rw [hsame]

/-- `memory_get_physical` of every address above the first 4 MB. -/
def TranslatesLast (s : MapSystem) : Prop :=
  ∀ a : UInt32, 0x400000 ≤ a.toNat →
    memoryGetPhysical s.paging a.toNat = ((lastMapping s.log a).map fun c => c.translate a).getD 0

theorem HoldsMappings.translatesLast {s : MapSystem} (h : HoldsMappings s) : TranslatesLast s := by
  intro a ha
  unfold memoryGetPhysical
  rw [if_neg (Nat.not_lt.mpr ha), h.walk a]

/-- Nothing is mapped at first. -/
theorem Zeroed.holdsMappings {s : PagingState} (h : Zeroed s) : HoldsMappings ⟨s, []⟩ where
  tables := h.tablesOk
  walk := fun a => walk_of_absent (h.absent (pdIndex_lt a.toNat_lt))

/--
**Throughout any calls of `page_map`, `memory_get_physical` gives what the last call that succeeded
for the page has mapped, and 0 where there was none; a call that fails changes no translation.**

The directory is empty at first, and `kmalloc_aligned` returns NULL or a fresh page whenever it is
called.
-/
theorem translations_always {s : PagingState} (h : Zeroed s) {calls : List MapCall}
    (hfresh : Guarded (mapStep kmallocAligned) (MapAllocates kmallocAligned) ⟨s, []⟩ calls) :
    Always (mapStep kmallocAligned) TranslatesLast ⟨s, []⟩ calls ∧
      Along (mapStep kmallocAligned) (FailureHarmless kmallocAligned) ⟨s, []⟩ calls := by
  constructor
  · exact hfresh.always (fun _ => HoldsMappings.translatesLast)
      (fun _ _ _ hs hg ht => holdsMappings_step hs hg ht) h.holdsMappings
  · refine Along.of_invariant (I := HoldsMappings) ?_ ?_ h.holdsMappings hfresh.along
    · exact fun s c t hs ht hg => failureHarmless_step hs hg ht
    · exact fun s c t hs ht hg => holdsMappings_step hs hg ht

/-- One page is left. -/
def lastFrame : FrameAllocator := fun n m => (if n = 0 then 0x1000000 else 0, m)

def emptyDirectory : PagingState where
  mem := fun _ => 0
  pageDirectory := 0x100000
  mmuInitialized := true
  cr0 := 0
  cr3 := 0x100000
  allocations := 0

theorem zeroed_emptyDirectory : Zeroed emptyDirectory :=
  ⟨rfl, ⟨by decide, by decide⟩, fun _ _ => rfl⟩

/-- A page mapped twice, and one for which there is no table left. -/
def remapCalls : List MapCall :=
  [⟨0x400000, 0x1234567⟩, ⟨0x400FFF, 0x89000⟩, ⟨0x800000, 0x89000⟩]

theorem translations_remapped :
    Always (mapStep lastFrame) TranslatesLast ⟨emptyDirectory, []⟩ remapCalls ∧
      Along (mapStep lastFrame) (FailureHarmless lastFrame) ⟨emptyDirectory, []⟩ remapCalls := by
  refine translations_always zeroed_emptyDirectory ⟨fun _ => ?_, ?_⟩
  · refine ⟨⟨by decide, by decide⟩, fun _ => ⟨by decide, fun i hi hp => ?_⟩, fun _ _ => rfl,
      fun _ _ _ _ _ => rfl⟩
    exact absurd hp (zeroed_emptyDirectory.absent hi)
  rintro s ⟨⟩
  refine ⟨fun habsent => absurd (by unfold Present; decide +kernel) habsent, ?_⟩
  rintro s ⟨⟩
  refine ⟨fun _ => ?_, ?_⟩
  · exact ⟨⟨by decide +kernel, by decide +kernel⟩, fun hne => absurd (by decide +kernel) hne,
      fun _ _ => rfl, fun _ _ _ _ _ => rfl⟩
  rintro s ⟨⟩
  trivial

/-!
## Turning paging on

`vmm_init` calls `page_map` for the first 4 MB before it sets `mmu_initialized`, and `page_map` does
nothing until then.
-/

variable {s : PagingState}

/-- The bit PG of CR0 is set, and CR3 has the directory. -/
def PagingEnabled (s : PagingState) : Prop :=
  s.cr0 &&& 0x80000000 ≠ 0 ∧ s.cr3 = s.pageDirectory

/-- The first 4 MB are mapped to themselves when `vmm_init` has turned paging on. -/
def MapsFirstMegabytes (kmallocAligned : FrameAllocator) (s : PagingState) : Prop :=
  (vmmInit kmallocAligned s).1 = true → PagingEnabled (vmmInit kmallocAligned s).2 →
    ∀ v < 0x400000, walk (vmmInit kmallocAligned s).2 v = some v

theorem pageMap_uninitialized (h : s.mmuInitialized = false) (v p : Nat) :
    pageMap kmallocAligned s v p = (false, s) := by
  unfold pageMap
  rw [if_pos h]

theorem identityMap_uninitialized (h : s.mmuInitialized = false) :
    identityMap kmallocAligned s = s := by
  have hloop : ∀ is : List Nat, is.foldl (fun s i =>
      (pageMap kmallocAligned s (i * pageSize) (i * pageSize)).2) s = s := by
    intro is
    induction is with
    | nil => rfl
    | cons i is ih => rw [List.foldl_cons, pageMap_uninitialized h, ih]
  exact hloop _

theorem setBit_ne_zero (x : Nat) : (x ||| 0x80000000) &&& 0x80000000 ≠ 0 := by
  rw [Nat.and_or_distrib_right, Nat.and_self]
  intro h
  exact absurd (Nat.or_eq_zero_iff.mp h).2 (by decide)

/-- **`vmm_init` turns paging on with an empty directory.** -/
theorem vmmInit_empty (h : s.mmuInitialized = false)
    (hframe : PageFrame (kmallocAligned s.allocations s.mem).1)
    (hne : (kmallocAligned s.allocations s.mem).1 ≠ 0) :
    (vmmInit kmallocAligned s).1 = true ∧ PagingEnabled (vmmInit kmallocAligned s).2 ∧
      ∀ v < 2 ^ 32, walk (vmmInit kmallocAligned s).2 v = none := by
  rcases halloc : allocateFrame kmallocAligned s with ⟨f, s'⟩
  obtain ⟨rfl, rfl⟩ := Prod.mk.inj halloc
  unfold vmmInit
  rw [if_neg (by rw [h]; simp), halloc]
  simp only []
  rw [if_neg hne, identityMap_uninitialized (by exact h)]
  refine ⟨rfl, ⟨setBit_ne_zero _, rfl⟩, fun v hv => walk_of_absent ?_⟩
  unfold Present
  rw [entry_memset _ hframe hframe (pdIndex_lt hv), if_pos rfl]
  simp

/-- **The first 4 MB are never mapped when paging is turned on.** -/
theorem firstMegabytes_never_mapped (h : s.mmuInitialized = false)
    (hframe : PageFrame (kmallocAligned s.allocations s.mem).1)
    (hne : (kmallocAligned s.allocations s.mem).1 ≠ 0) :
    ¬ MapsFirstMegabytes kmallocAligned s := by
  obtain ⟨hok, hon, hnone⟩ := vmmInit_empty h hframe hne
  intro hmaps
  have hzero := hmaps hok hon 0 (by decide)
  rw [hnone 0 (by decide)] at hzero
  simp at hzero

/-- The kernel before `vmm_init`. -/
def pagingBoot : PagingState where
  mem := fun _ => 0
  pageDirectory := 0
  mmuInitialized := false
  cr0 := 0x11
  cr3 := 0
  allocations := 0

/-- The pages from 16 MB on. -/
def pagesFrom16MB : FrameAllocator := fun n m => (0x1000000 + n * pageSize, m)

theorem firstMegabytes_lost : ¬ MapsFirstMegabytes pagesFrom16MB pagingBoot :=
  firstMegabytes_never_mapped rfl ⟨by decide, by decide⟩ (by decide)

/-- The kernel's own code at 1 MB has no translation. -/
theorem kernel_unmapped : ∃ t, vmmInit pagesFrom16MB pagingBoot = (true, t) ∧ PagingEnabled t ∧
    walk t 0x100000 = none ∧ ¬ MapsFirstMegabytes pagesFrom16MB pagingBoot := by
  obtain ⟨hok, hon, hnone⟩ := @vmmInit_empty pagesFrom16MB pagingBoot rfl
    ⟨by decide, by decide⟩ (by decide)
  refine ⟨_, Prod.ext hok rfl, hon, hnone _ (by decide), fun hmaps => ?_⟩
  have hkernel := hmaps hok hon 0x100000 (by decide)
  rw [hnone 0x100000 (by decide)] at hkernel
  simp at hkernel

end MayaOs.Kernel
