import Mathlib.Data.List.Perm.Subperm
import MayaOs.Drivers.Ahci

/-!
# Two numberings of the AHCI ports

`ahci_init` counts the active ports and stores what belongs to one under its count;
`ahci_read_sectors` takes the count for the number of the port at the controller.

* `issuesOnOwn_iff_noGap` — commands go to the port that has the command list they are in iff there
  is no gap below an active port
* `sparse_ports_mismatch` — two drives, at the first and the third port
-/

namespace MayaOs.Drivers

open MayaOs.Lib

/-! ## The property -/

/-- The command list base address in an assignment. -/
def PortWrite.commandBase : PortWrite → Option UInt32
  | .clb value => some value
  | _ => none

def PortWrite.fisBase : PortWrite → Option UInt32
  | .fb value => some value
  | _ => none

/-- The value that was assigned last. -/
def lastSet (writes : List (Nat × PortWrite)) (port : Nat) (value : PortWrite → Option UInt32) :
    Option UInt32 :=
  writes.findSome? fun w => if w.1 = port then value w.2 else none

/-- A command for port `p` goes to a port whose command list and FIS area are those of `p`. -/
def IssuesOnOwn (hw : AhciHost) (s : AhciSystem) : Prop :=
  ∀ p < s.portCount, ∀ slots start count buffer command,
    ahciReadCommand hw s slots p start count buffer = .ok (some command) →
      lastSet s.writes command.port PortWrite.commandBase = some (hw.physical (s.cmdList p)) ∧
      lastSet s.writes command.port PortWrite.fisBase = some (hw.physical (s.fisBase p))

/-- Below an active port all ports are active. -/
def NoGap (hw : AhciHost) : Prop :=
  ∀ i j, i < j → j < ahciMaxPorts → portActive hw j = true → portActive hw i = true

/-! ## Commands -/

/-- The port is the argument. -/
theorem ahciReadCommand_port {hw : AhciHost} {s : AhciSystem} {slots : UInt32} {port : Nat}
    {start : UInt64} {count buffer : UInt32} {command : AhciCommand}
    (h : ahciReadCommand hw s slots port start count buffer = .ok (some command)) :
    command.port = port := by
  rcases ahciReadCommand_cases hw s slots port start count buffer with
    hnone | ⟨used, herror, -⟩ | ⟨command', hsome, -, hport, -⟩
  · exact absurd (hnone.symm.trans h) (by simp)
  · exact absurd (herror.symm.trans h) (by simp)
  · cases hsome.symm.trans h
    exact hport

/-- Reading one sector from an idle port comes to a command. -/
theorem ahciReadCommand_one (hw : AhciHost) {s : AhciSystem} {p : Nat}
    (hinit : s.initialized = true) (hp : p < s.portCount) :
    ∃ command, ahciReadCommand hw s 0 p 0 1 1 = .ok (some command) := by
  unfold ahciReadCommand
  rw [if_neg (by simp only [hinit, not_or, Nat.not_le]; exact ⟨by simp, hp, by decide, by decide⟩)]
  exact ⟨_, rfl⟩

theorem issuesOnOwn_iff {hw : AhciHost} {s : AhciSystem} (hinit : s.initialized = true) :
    IssuesOnOwn hw s ↔ ∀ p < s.portCount,
      lastSet s.writes p PortWrite.commandBase = some (hw.physical (s.cmdList p)) ∧
      lastSet s.writes p PortWrite.fisBase = some (hw.physical (s.fisBase p)) := by
  constructor
  · intro h p hp
    obtain ⟨command, hcommand⟩ := ahciReadCommand_one hw hinit hp
    have hset := h p hp _ _ _ _ _ hcommand
    rwa [ahciReadCommand_port hcommand] at hset
  · intro h p hp slots start count buffer command hcommand
    rw [ahciReadCommand_port hcommand]
    exact h p hp

/-! ## Initialization of one port -/

/-- Allocating the tables changes nothing else. -/
theorem ahciAllocTables_snd (hw : AhciHost) (portNum : Nat) (i : Nat) (s : AhciSystem) :
    ∃ tables calls, (ahciAllocTables hw portNum i s).2
      = { s with cmdTables := tables, calls := calls } := by
  induction i, s using ahciAllocTables.induct hw portNum with
  | case1 i s hi s₁ hs₁ =>
    have hzero : (s.allocDma hw).1 = 0 := congrArg Prod.fst hs₁
    rw [ahciAllocTables, dif_pos hi]
    simp only []
    rw [if_pos hzero]
    exact ⟨_, _, rfl⟩
  | case2 i s hi table s₁ hs₁ s₂ hne ih =>
    cases hs₁
    have hzero : (s.allocDma hw).1 ≠ 0 := hne
    obtain ⟨tables, calls, h⟩ := ih
    rw [ahciAllocTables, dif_pos hi]
    simp only []
    rw [if_neg hzero]
    exact ⟨tables, calls, h⟩
  | case3 i s hi =>
    rw [ahciAllocTables, dif_neg hi]
    exact ⟨_, _, rfl⟩

/-- What a successful initialization leaves. -/
structure PortReady (hw : AhciHost) (s s' : AhciSystem) (port portNum : Nat) : Prop where
  portCount : s'.portCount = s.portCount
  base : lastSet s'.writes port PortWrite.commandBase = some (hw.physical (s'.cmdList portNum))
  fis : lastSet s'.writes port PortWrite.fisBase = some (hw.physical (s'.fisBase portNum))
  cmdList : ∀ p, p ≠ portNum → s'.cmdList p = s.cmdList p
  fisBase : ∀ p, p ≠ portNum → s'.fisBase p = s.fisBase p
  others : ∀ q, q ≠ port → ∀ value, lastSet s'.writes q value = lastSet s.writes q value

/-- **A port gets the command list and the FIS area that are stored under its number.** -/
theorem portReady_of_ahciPortInitialize {hw : AhciHost} {s s' : AhciSystem} {port portNum : Nat}
    (h : ahciPortInitialize hw s port portNum = .ok (true, s')) : PortReady hw s s' port portNum := by
  unfold ahciPortInitialize at h
  simp only [] at h
  split at h
  · cases h
  · split at h
    · cases h
    · split at h
      · cases h
      · split at h
        · cases h
        · split at h
          · cases h
          · obtain ⟨tables, calls, htables⟩ := ahciAllocTables_snd hw portNum 0 _
            rw [htables] at h
            cases h
            refine ⟨rfl, ?_, ?_, ?_, ?_, ?_⟩
            · simp [lastSet, AhciSystem.write, AhciSystem.allocDma, PortWrite.commandBase]
            · simp [lastSet, AhciSystem.write, AhciSystem.allocDma, PortWrite.fisBase]
            · intro p hp
              exact Function.update_of_ne hp ..
            · intro p hp
              exact Function.update_of_ne hp ..
            · intro q hq value
              simp [lastSet, AhciSystem.write, AhciSystem.allocDma, hq.symm]

/-! ## All ports -/

/-- Every number that has been given out is that of the port that was initialized under it. -/
def Matched (hw : AhciHost) (s : AhciSystem) : Prop :=
  ∀ p < s.portCount,
    lastSet s.writes p PortWrite.commandBase = some (hw.physical (s.cmdList p)) ∧
    lastSet s.writes p PortWrite.fisBase = some (hw.physical (s.fisBase p))

/-- The loop counts the active ports and leaves the others alone. -/
theorem ahciInitPorts_active {hw : AhciHost} : ∀ {is : List Nat} {s s' : AhciSystem},
    ahciInitPorts hw is s = .ok (true, s') →
      s'.portCount = s.portCount + (is.filter (portActive hw)).length ∧
      ∀ q ∉ is.filter (portActive hw), ∀ value,
        lastSet s'.writes q value = lastSet s.writes q value := by
  intro is
  induction is with
  | nil =>
    intro s s' h
    cases h
    exact ⟨rfl, fun _ _ _ => rfl⟩
  | cons i is ih =>
    intro s s' h
    rw [ahciInitPorts] at h
    by_cases hactive : portActive hw i = false
    · rw [if_pos hactive] at h
      rw [List.filter_cons_of_neg (by rw [hactive]; simp)]
      exact ih h
    · rw [if_neg hactive] at h
      rw [List.filter_cons_of_pos (by simpa using hactive)]
      cases hport : ahciPortInitialize hw s i s.portCount with
      | error e =>
        rw [hport] at h
        cases h
      | ok r =>
        obtain ⟨ok, s₁⟩ := r
        rw [hport] at h
        cases ok with
        | false => cases h
        | true =>
          have hready := portReady_of_ahciPortInitialize hport
          obtain ⟨hcount, hothers⟩ := ih h
          refine ⟨?_, fun q hq value => ?_⟩
          · rw [hcount, List.length_cons]
            show s₁.portCount + 1 + _ = _
            rw [hready.portCount]
            omega
          · rw [List.mem_cons, not_or] at hq
            exact (hothers q hq.2 value).trans (hready.others q hq.1 value)

/-- Initializing port `s.portCount` under its own number. -/
theorem Matched.next {hw : AhciHost} {s s' : AhciSystem} (h : Matched hw s)
    (hready : PortReady hw s s' s.portCount s.portCount) :
    Matched hw { s' with portCount := s'.portCount + 1 } := by
  intro p hp
  rcases Nat.lt_or_ge p s.portCount with hlt | hge
  · obtain ⟨hbase, hfis⟩ := h p hlt
    show lastSet s'.writes p _ = some (hw.physical (s'.cmdList p)) ∧
      lastSet s'.writes p _ = some (hw.physical (s'.fisBase p))
    rw [hready.others p (Nat.ne_of_lt hlt), hready.others p (Nat.ne_of_lt hlt),
      hready.cmdList p (Nat.ne_of_lt hlt), hready.fisBase p (Nat.ne_of_lt hlt)]
    exact ⟨hbase, hfis⟩
  · obtain rfl : p = s.portCount := by
      have hp' : p < s'.portCount + 1 := hp
      rw [hready.portCount] at hp'
      omega
    exact ⟨hready.base, hready.fis⟩

/-- **Without a gap the two numbers of a port are the same.**

From port `m` on: either all ports before have been active, or no more are to come. -/
theorem ahciInitPorts_matched {hw : AhciHost} (hgap : NoGap hw) : ∀ {n m : Nat} {s s' : AhciSystem},
    m + n = ahciMaxPorts → Matched hw s →
      (s.portCount = m ∨ ∀ i, m ≤ i → i < ahciMaxPorts → portActive hw i = false) →
      ahciInitPorts hw (List.range' m n) s = .ok (true, s') → Matched hw s' := by
  intro n
  induction n with
  | zero =>
    intro m s s' _ hs _ h
    cases h
    exact hs
  | succ n ih =>
    intro m s s' hmn hs hcount h
    rw [List.range'_succ, ahciInitPorts] at h
    by_cases hactive : portActive hw m = false
    · rw [if_pos hactive] at h
      refine ih (by omega) hs (Or.inr fun i hi hmax => ?_) h
      by_contra hne
      rw [hgap m i hi hmax (by simpa using hne)] at hactive
      cases hactive
    · rw [if_neg hactive] at h
      have hm : s.portCount = m := by
        rcases hcount with hm | hnone
        · exact hm
        · exact absurd (hnone m (Nat.le_refl m) (by omega)) hactive
      subst hm
      cases hport : ahciPortInitialize hw s s.portCount s.portCount with
      | error e =>
        rw [hport] at h
        cases h
      | ok r =>
        obtain ⟨ok, s₁⟩ := r
        rw [hport] at h
        cases ok with
        | false => cases h
        | true =>
          have hready := portReady_of_ahciPortInitialize hport
          exact ih (by omega) (hs.next hready) (Or.inl (congrArg (· + 1) hready.portCount)) h

theorem ahciInit_true {hw : AhciHost} {devices : List PciDevice} {s s' : AhciSystem}
    (hinit : s.initialized = false) (h : ahciInit hw devices s = .ok (true, s')) :
    ∃ bar5 s₁, ahciInitPorts hw (List.range ahciMaxPorts)
        { s with writes := [], hbaMem := memoryMapPhysical bar5 } = .ok (true, s₁) ∧
      s' = { s₁ with initialized := true } := by
  unfold ahciInit at h
  rw [if_neg (by simp [hinit])] at h
  split at h
  · cases h
  · next bar5 _ =>
    simp only [] at h
    split at h
    · cases h
    · split at h
      · cases h
      · cases hports : ahciInitPorts hw (List.range ahciMaxPorts)
          { s with writes := [], hbaMem := memoryMapPhysical bar5 } with
        | error e =>
          rw [hports] at h
          cases h
        | ok r =>
          obtain ⟨ok, s₁⟩ := r
          rw [hports] at h
          cases ok with
          | false => cases h
          | true =>
            cases h
            exact ⟨bar5, s₁, hports, rfl⟩

/-- What has been set by `ahci_init` is at the active ports. -/
theorem mem_active_of_issuesOnOwn {hw : AhciHost} {devices : List PciDevice} {s s' : AhciSystem}
    (hinit : s.initialized = false) (h : ahciInit hw devices s = .ok (true, s'))
    (hown : IssuesOnOwn hw s') {p : Nat} (hp : p < s'.portCount) :
    p ∈ (List.range ahciMaxPorts).filter (portActive hw) := by
  obtain ⟨bar5, s₁, hports, rfl⟩ := ahciInit_true hinit h
  by_contra hnot
  have hset := ((issuesOnOwn_iff rfl).mp hown p hp).1
  have hnone := (ahciInitPorts_active hports).2 p hnot PortWrite.commandBase
  simp only [hnone] at hset
  cases hset

/--
**Commands go to the port that their command list was set for iff there is no gap.**

`port_count` has to be 0 before the call as well: a call that fails leaves it as it is.
-/
theorem issuesOnOwn_iff_noGap {hw : AhciHost} {devices : List PciDevice} {s s' : AhciSystem}
    (hinit : s.initialized = false) (h : ahciInit hw devices s = .ok (true, s')) :
    IssuesOnOwn hw s' ↔ s.portCount = 0 ∧ NoGap hw := by
  let active := (List.range ahciMaxPorts).filter (portActive hw)
  have hactive : ∀ i, i ∈ active ↔ i < ahciMaxPorts ∧ portActive hw i = true := by
    intro i
    rw [List.mem_filter, List.mem_range]
  have hcount : s'.portCount = s.portCount + active.length := by
    obtain ⟨bar5, s₁, hports, rfl⟩ := ahciInit_true hinit h
    exact (ahciInitPorts_active hports).1
  constructor
  · intro hown
    -- all the numbers up to `port_count` are active ports
    have hsub : List.range s'.portCount ⊆ active := fun p hp =>
      mem_active_of_issuesOnOwn hinit h hown (List.mem_range.mp hp)
    have hperm := List.subperm_of_subset List.nodup_range hsub
    have hle := hperm.length_le
    rw [List.length_range, hcount] at hle
    have hzero : s.portCount = 0 := by omega
    have hall : ∀ i, i ∈ active → i < s'.portCount := by
      intro i hi
      have hlen : active.length ≤ (List.range s'.portCount).length := by
        rw [List.length_range]
        omega
      exact List.mem_range.mp ((hperm.perm_of_length_le hlen).mem_iff.mpr hi)
    refine ⟨hzero, fun i j hij hj hjactive => ?_⟩
    have hjlt := hall j ((hactive j).mpr ⟨hj, hjactive⟩)
    exact ((hactive i).mp (hsub (List.mem_range.mpr (Nat.lt_trans hij hjlt)))).2
  · rintro ⟨hzero, hgap⟩
    obtain ⟨bar5, s₁, hports, rfl⟩ := ahciInit_true hinit h
    rw [issuesOnOwn_iff rfl]
    rw [List.range_eq_range'] at hports
    have hnone : Matched hw { s with writes := [], hbaMem := memoryMapPhysical bar5 } := by
      intro p hp
      exact absurd (hzero ▸ hp : p < 0) (Nat.not_lt_zero p)
    have hmatched : Matched hw s₁ :=
      ahciInitPorts_matched hgap (Nat.zero_add _) hnone (Or.inl hzero) hports
    exact hmatched

/-! ## Two drives -/

/-- A controller with the ports `pi`, a drive at each of them, and enough memory. -/
def exampleHba (pi : UInt32) : AhciHost where
  pi := pi
  ssts := fun _ => 0x113
  resets := true
  stops := fun _ => true
  alloc := fun n => UInt32.ofNat (0x100000 + 0x1000 * n)
  physical := id

def exampleController : PciDevice where
  bus := 0
  device := 31
  function := 2
  vendorId := 0x8086
  deviceId := 0x2922
  classCode := 1
  subclass := 6
  progIf := 1
  revisionId := 2
  interruptLine := 10
  interruptPin := 1
  bar := #v[0, 0, 0, 0, 0, 0xFEBF1000]
  barSize := #v[0, 0, 0, 0, 0, 0x1000]

/-- Two calls of `ahci_port_initialize`. -/
theorem ahciInit_two (pi : UInt32) (hpi : pi = 3 ∨ pi = 5) :
    ∃ s, ahciInit (exampleHba pi) [exampleController] AhciSystem.boot = .ok (true, s) ∧
      s.portCount = 2 := by
  have hrun : (ahciInit (exampleHba pi) [exampleController] AhciSystem.boot).toOption.map
      (fun r => (r.1, r.2.portCount)) = some (true, 2) := by
    rcases hpi with rfl | rfl <;> decide +kernel
  cases h : ahciInit (exampleHba pi) [exampleController] AhciSystem.boot with
  | error e =>
    rw [h] at hrun
    cases hrun
  | ok r =>
    obtain ⟨ok, s⟩ := r
    rw [h] at hrun
    obtain ⟨rfl, hcount⟩ : ok = true ∧ s.portCount = 2 := by simpa [Except.toOption] using hrun
    exact ⟨s, rfl, hcount⟩

/-- The first two ports. -/
theorem issuesOnOwn_adjacent :
    ∃ s, ahciInit (exampleHba 3) [exampleController] AhciSystem.boot = .ok (true, s) ∧
      s.portCount = 2 ∧ IssuesOnOwn (exampleHba 3) s := by
  obtain ⟨s, h, hcount⟩ := ahciInit_two 3 (Or.inl rfl)
  have htwo : ∀ j < ahciMaxPorts, portActive (exampleHba 3) j = true → j < 2 := by decide +kernel
  have hboth : ∀ i < 2, portActive (exampleHba 3) i = true := by decide
  refine ⟨s, h, hcount, (issuesOnOwn_iff_noGap rfl h).mpr ⟨rfl, fun i j hij hj hactive => ?_⟩⟩
  exact hboth i (Nat.lt_trans hij (htwo j hj hactive))

/-- **The first and the third port**: commands for the second drive go to a port without a device. -/
theorem sparse_ports_mismatch :
    ∃ s, ahciInit (exampleHba 5) [exampleController] AhciSystem.boot = .ok (true, s) ∧
      s.portCount = 2 ∧ ¬ IssuesOnOwn (exampleHba 5) s := by
  obtain ⟨s, h, hcount⟩ := ahciInit_two 5 (Or.inr rfl)
  refine ⟨s, h, hcount, fun hown => ?_⟩
  have hmem := mem_active_of_issuesOnOwn rfl h hown (show 1 < s.portCount by rw [hcount]; decide)
  exact absurd (List.mem_filter.mp hmem).2 (by decide)

end MayaOs.Drivers
