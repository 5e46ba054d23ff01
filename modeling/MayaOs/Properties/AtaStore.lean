import MayaOs.Lib.Outputs
import MayaOs.Properties.AtaAddress

/-!
# The disk keeps what is written

Reads and writes one after the other, through the registers of a drive. A read gives for each sector
what the last write to it has put there.

* `HoldsStored.step` — one call
* `ata_store` — the answers of the driver, call by call
-/

namespace MayaOs.Drivers

open MayaOs.Lib

/-! ## Calls -/

/-- `ata_read_sectors` and `ata_write_sectors`; `none` for the buffer is NULL. -/
inductive AtaCall where
  | read (lba : UInt32) (count : UInt8) (buffer : Option Bytes)
  | write (lba : UInt32) (count : UInt8) (buffer : Option Bytes)
  deriving Repr, DecidableEq

/-- The answer is `none` for `false`, else the buffer after the call. -/
def ataStep (s : AtaPioState) (c : AtaChannel) :
    AtaCall → Except AtaStop (AtaChannel × Option Bytes)
  | .read lba count buffer => do
    match ← pioReadSectors s c lba count buffer with
    | none => return (c, none)
    | some (c, buffer) => return (c, some buffer)
  | .write lba count buffer => do
    match ← pioWriteSectors s c lba count buffer with
    | none => return (c, none)
    | some c => return (c, buffer)

/-- The drive has the sectors, and the buffer has room for them. -/
def AtaCall.Fits (capacity : Nat) : AtaCall → Prop
  | .read lba count (some buffer) =>
    lba.toNat % 2 ^ 28 + count.toNat ≤ capacity ∧ 512 * count.toNat ≤ buffer.length
  | .write lba count (some buffer) =>
    lba.toNat % 2 ^ 28 + count.toNat ≤ capacity ∧ 512 * count.toNat ≤ buffer.length
  | _ => True

/-! ## What the calls say -/

/-- What a call puts into sector `n`. -/
def AtaCall.stored (n : Nat) : AtaCall → Option Bytes
  | .write lba count (some buffer) =>
    let first := lba.toNat % 2 ^ 28
    if first ≤ n ∧ n < first + count.toNat then some ((buffer.drop (512 * (n - first))).take 512)
    else none
  | _ => none

/-- What the last of the calls has put into sector `n`; newest first. -/
def lastStored (d : Disk) (n : Nat) : List AtaCall → Bytes
  | [] => d.sector n
  | call :: earlier => (call.stored n).getD (lastStored d n earlier)

/-- The answer to a call after `earlier` ones, newest first. -/
def ataAnswer (d : Disk) (earlier : List AtaCall) : AtaCall → Option Bytes
  | .read lba count (some buffer) =>
    if count = 0 then none
    else
      some (((List.range count.toNat).flatMap fun i =>
        lastStored d (lba.toNat % 2 ^ 28 + i) earlier) ++ buffer.drop (512 * count.toNat))
  | .write _ count (some buffer) => if count = 0 then none else some buffer
  | _ => none

/-- The calls so far are all that matters. -/
def ataHistory (d : Disk) (earlier : List AtaCall) (call : AtaCall) :
    List AtaCall × Option Bytes :=
  (call :: earlier, ataAnswer d earlier call)

theorem finalState_ataHistory (d : Disk) : ∀ calls earlier : List AtaCall,
    finalState (ataHistory d) earlier calls = calls.reverse ++ earlier
  | [], _ => rfl
  | call :: calls, earlier => by
    rw [finalState, ataHistory, finalState_ataHistory d calls, List.reverse_cons, List.append_assoc]
    rfl

/-! ## The drive after some calls -/

/-- The drive that is used holds what was stored last; the other one is as it was. -/
structure HoldsStored (s : AtaPioState) (c₀ c : AtaChannel) (earlier : List AtaCall) : Prop where
  sector : ∀ n, (c.drives s.isSlave).disk.sector n =
    lastStored (c₀.drives s.isSlave).disk n earlier
  capacity : (c.drives s.isSlave).capacity = (c₀.drives s.isSlave).capacity
  other : c.drives (!s.isSlave) = c₀.drives (!s.isSlave)

theorem setSectors_capacity (s : AtaPioState) (c : AtaChannel) (lba : UInt32) (count : UInt8)
    (first n : Nat) (data : Bytes) :
    (((ataIssued s c lba count true).setSectors first n data).drives s.isSlave).capacity =
      (c.drives s.isSlave).capacity := by
  have hslave : (ataIssued s c lba count true).slave = s.isSlave := ataSelect_slave s c lba count
  unfold AtaChannel.setSectors
  simp only [hslave, Function.update_self]
  rfl

section Step

variable {s : AtaPioState} {c₀ c : AtaChannel} {earlier : List AtaCall} {lba : UInt32} {count : UInt8}
  {buffer : Bytes}

theorem HoldsStored.sectors (h : HoldsStored s c₀ c earlier) (first n : Nat) :
    (c.drives s.isSlave).disk.sectors first n =
      (List.range n).flatMap fun i => lastStored (c₀.drives s.isSlave).disk (first + i) earlier := by
  unfold Disk.sectors
  exact congrArg (List.flatMap · _) (funext fun i => h.sector (first + i))

/-- **A write**, sector by sector. -/
theorem HoldsStored.write (h : HoldsStored s c₀ c earlier)
    (hlen : 512 * count.toNat ≤ buffer.length) :
    HoldsStored s c₀
      { (ataIssued s c lba count true).setSectors (lba.toNat % 2 ^ 28) count.toNat buffer with
        transfer := .idle, busy := 0 }
      (.write lba count (some buffer) :: earlier) where
  sector n := by
    have hdisk := setSectors_disk s c lba count (lba.toNat % 2 ^ 28) count.toNat buffer
    refine (congrArg (Disk.sector · n) hdisk).trans ?_
    unfold lastStored AtaCall.stored
    dsimp only
    by_cases hin : lba.toNat % 2 ^ 28 ≤ n ∧ n < lba.toNat % 2 ^ 28 + count.toNat
    · obtain ⟨i, rfl⟩ := Nat.exists_eq_add_of_le hin.1
      rw [if_pos hin, Option.getD_some, Disk.setSectors_sector count.toNat hlen (by omega),
        Nat.add_sub_cancel_left]
    · rw [if_neg hin, Option.getD_none, Disk.setSectors_outside count.toNat hlen (by omega)]
      exact h.sector n
  capacity := (setSectors_capacity s c lba count _ _ buffer).trans h.capacity
  other := (setSectors_other s c lba count _ _ buffer).trans h.other

/-- A call that stores nothing is as good as none. -/
theorem HoldsStored.cons (h : HoldsStored s c₀ c earlier) {call : AtaCall}
    (hcall : ∀ n, call.stored n = none) : HoldsStored s c₀ c (call :: earlier) where
  sector n := by
    rw [lastStored, hcall n]
    exact h.sector n
  capacity := h.capacity
  other := h.other

/-- Nothing but registers and the list of commands has changed. -/
theorem HoldsStored.congr {c' : AtaChannel} (h : HoldsStored s c₀ c earlier)
    (hdrives : c'.drives = c.drives) : HoldsStored s c₀ c' earlier where
  sector n := by
    rw [hdrives]
    exact h.sector n
  capacity := by
    rw [hdrives]
    exact h.capacity
  other := by
    rw [hdrives]
    exact h.other

/-- A call with NULL or for no sectors. -/
theorem ataStep_refused {call : AtaCall} (s : AtaPioState) (c : AtaChannel)
    (h : match call with
      | .read _ count buffer => buffer = none ∨ count = 0
      | .write _ count buffer => buffer = none ∨ count = 0) :
    ataStep s c call = .ok (c, none) := by
  cases call with
  | read lba count buffer =>
    have hread : pioReadSectors s c lba count buffer = .ok none := by
      unfold pioReadSectors
      cases buffer with
      | none => rfl
      | some buffer => exact if_pos (Or.inr (h.resolve_left nofun))
    rw [ataStep, hread]
    rfl
  | write lba count buffer =>
    have hwrite : pioWriteSectors s c lba count buffer = .ok none := by
      unfold pioWriteSectors
      cases buffer with
      | none => rfl
      | some buffer => exact if_pos (Or.inr (h.resolve_left nofun))
    rw [ataStep, hwrite]
    rfl

/-- **One call.** -/
theorem HoldsStored.step (h : HoldsStored s c₀ c earlier) (hinit : s.initialized = true)
    {call : AtaCall} (hfits : call.Fits (c₀.drives s.isSlave).capacity) :
    ∃ c', ataStep s c call = .ok (c', ataAnswer (c₀.drives s.isSlave).disk earlier call) ∧
      HoldsStored s c₀ c' (call :: earlier) := by
  rw [← h.capacity] at hfits
  cases call with
  | read lba count buffer =>
    have hnone : ∀ n, (AtaCall.read lba count buffer).stored n = none := fun _ => rfl
    cases buffer with
    | none => exact ⟨c, ataStep_refused s c (Or.inl rfl), h.cons hnone⟩
    | some buffer =>
      by_cases hcount : count = 0
      · refine ⟨c, ?_, h.cons hnone⟩
        rw [ataStep_refused s c (Or.inr hcount), ataAnswer, if_pos hcount]
      · have hread : HoldsStored s c₀
            { ataIssued s c lba count false with transfer := .idle, busy := 0 } earlier :=
          h.congr rfl
        refine ⟨_, ?_, hread.cons hnone⟩
        rw [ataStep, pioReadSectors_eq hinit hcount hfits.1 hfits.2, ataAnswer, if_neg hcount,
          ← h.sectors]
        rfl
  | write lba count buffer =>
    cases buffer with
    | none =>
      have hnone : ∀ n, (AtaCall.write lba count none).stored n = none := fun _ => rfl
      exact ⟨c, ataStep_refused s c (Or.inl rfl), h.cons hnone⟩
    | some buffer =>
      by_cases hcount : count = 0
      · have hnone : ∀ n, (AtaCall.write lba count (some buffer)).stored n = none := by
          intro n
          subst hcount
          exact if_neg fun hin => absurd hin.2 (Nat.not_lt.mpr hin.1)
        refine ⟨c, ?_, h.cons hnone⟩
        rw [ataStep_refused s c (Or.inr hcount), ataAnswer, if_pos hcount]
      · refine ⟨_, ?_, h.write hfits.2⟩
        rw [ataStep, pioWriteSectors_eq hinit hcount hfits.1 hfits.2, ataAnswer, if_neg hcount]
        rfl

end Step

/-! ## Runs -/

theorem expected_fits {calls : List AtaCall} (capacity : Nat) (d : Disk) :
    ∀ {earlier : List AtaCall}, (∀ call ∈ calls, call.Fits capacity) →
      Expected (fun _ call => AtaCall.Fits capacity call) (ataHistory d) earlier calls := by
  induction calls with
  | nil => intro _ _; trivial
  | cons call calls ih =>
    intro earlier h
    exact ⟨h call List.mem_cons_self, ih fun c hc => h c (List.mem_cons_of_mem call hc)⟩

/--
**The disk keeps what is written.** Any reads and writes, in any order, give what the calls before
them say: the last write to each sector, else what was on the disk. The other drive is left alone.
-/
theorem ata_store {s : AtaPioState} (hinit : s.initialized = true) (c : AtaChannel)
    {calls : List AtaCall} (hfits : ∀ call ∈ calls, call.Fits (c.drives s.isSlave).capacity) :
    ∃ c', tryOutputs (ataStep s) c calls =
        .ok (c', outputs (ataHistory (c.drives s.isSlave).disk) [] calls) ∧
      (∀ n, (c'.drives s.isSlave).disk.sector n =
        lastStored (c.drives s.isSlave).disk n calls.reverse) ∧
      c'.drives (!s.isSlave) = c.drives (!s.isSlave) := by
  have hstart : HoldsStored s c c [] := ⟨fun _ => rfl, rfl, rfl⟩
  obtain ⟨c', hrun, hend⟩ := tryOutputs_eq (f := ataStep s)
    (fun _ _ h call hcall => h.step hinit hcall) hstart
    (expected_fits _ (c.drives s.isSlave).disk hfits)
  rw [finalState_ataHistory, List.append_nil] at hend
  exact ⟨c', hrun, hend.sector, hend.other⟩

/-- Two sectors are written, the second one once more as sector 2²⁸ + 6, and both are read. -/
def rewrittenSector : List AtaCall :=
  [.write 5 2 (some (List.replicate 1024 1)), .write 0x10000006 1 (some (List.replicate 512 2)),
    .read 5 2 (some (List.replicate 1024 0))]

theorem ata_store_rewritten : ∃ c', tryOutputs (ataStep ataLarge) ataBlank rewrittenSector =
      .ok (c', [some (List.replicate 1024 1), some (List.replicate 512 2),
        some (List.replicate 512 1 ++ List.replicate 512 2)]) ∧
    (c'.drives false).disk.sector 6 = List.replicate 512 2 := by
  have hfits : ∀ call ∈ rewrittenSector, call.Fits (ataBlank.drives ataLarge.isSlave).capacity := by
    intro call hcall
    simp only [rewrittenSector, List.mem_cons, List.not_mem_nil, or_false] at hcall
    rcases hcall with rfl | rfl | rfl <;> exact ⟨by decide, by rw [List.length_replicate]; decide⟩
  have hanswers : outputs (ataHistory (ataBlank.drives ataLarge.isSlave).disk) [] rewrittenSector =
      [some (List.replicate 1024 1), some (List.replicate 512 2),
        some (List.replicate 512 1 ++ List.replicate 512 2)] := by
    decide +kernel
  obtain ⟨c', hrun, hsector, -⟩ := ata_store rfl ataBlank hfits
  rw [hanswers] at hrun
  refine ⟨c', hrun, (hsector 6).trans ?_⟩
  decide +kernel

end MayaOs.Drivers
