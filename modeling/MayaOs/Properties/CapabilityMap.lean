import MayaOs.Kernel.Security
import MayaOs.Lib.KeyedTable
import MayaOs.Lib.Run

/-!
# The capability table is a map

What the table is for: to give each number on record a set of capabilities. `replay` is the map that
the calls so far amount to, and the table holds it.

* `HoldsCaps.grant`, `HoldsCaps.revoke` — the operations do to the map what they should
* `replay_bit_iff` — the map, in terms of what was granted and not revoked since
* `mapsCaps_always` — at any time the answers are those of the history
-/

namespace MayaOs.Kernel

open MayaOs.Lib

/-! ## Calls -/

inductive SecOp where
  | grant (pid : Nat) (caps : UInt32)
  | revoke (pid : Nat) (caps : UInt32)
  | check (pid : Nat) (cap : UInt32)
  deriving Repr, DecidableEq

structure SecCall where
  op : SecOp
  result : Bool
  deriving Repr, DecidableEq

/-- The calls so far are newest first. -/
structure SecSystem where
  sec : SecState
  log : List SecCall

def SecSystem.boot : SecSystem where
  sec := secInit SecState.unset
  log := []

def secStep (s : SecSystem) : SecOp → Option SecSystem
  | .grant pid caps =>
    let r := secGrantCap s.sec pid caps
    some { sec := r.2, log := ⟨.grant pid caps, r.1⟩ :: s.log }
  | .revoke pid caps =>
    let r := secRevokeCap s.sec pid caps
    some { sec := r.2, log := ⟨.revoke pid caps, r.1⟩ :: s.log }
  | .check pid cap =>
    some { s with log := ⟨.check pid cap, secCheckCap s.sec pid cap⟩ :: s.log }

/-! ## The property -/

/-- Bit `i` of a mask. -/
def hasBit (mask : UInt32) (i : Nat) : Bool := mask.toNat.testBit i

/-- Something has been granted to the number. -/
def Recorded (log : List SecCall) (pid : Nat) : Prop := ∃ caps, ⟨.grant pid caps, true⟩ ∈ log

/-- The bit has been granted, and not revoked since. -/
def BitGranted (log : List SecCall) (pid i : Nat) : Prop :=
  ∃ later caps before, log = later ++ ⟨.grant pid caps, true⟩ :: before ∧ hasBit caps i = true ∧
    ∀ call ∈ later, ∀ caps', call.op = .revoke pid caps' → hasBit caps' i = false

/-- The numbers of the active entries. -/
def activePids (t : List SecEntry) : List Nat := keys SecEntry.active SecEntry.pid t

/-- 256 numbers are on record. -/
def FullyRecorded (log : List SecCall) : Prop :=
  ∃ pids : List Nat, pids.Nodup ∧ pids.length = 256 ∧ ∀ q, q ∈ pids ↔ Recorded log q

structure MapsCaps (s : SecSystem) : Prop where
  unique : (activePids s.sec.capTable).Nodup
  check : ∀ pid cap, secCheckCap s.sec pid cap = true ↔
    Recorded s.log pid ∧ ∀ i, hasBit cap i = true → BitGranted s.log pid i
  fails : ∀ pid caps, (secGrantCap s.sec pid caps).1 = false ↔
    ¬ Recorded s.log pid ∧ FullyRecorded s.log
  unchanged : ∀ pid caps s', secGrantCap s.sec pid caps = (false, s') → s' = s.sec

/-! ## Bits -/

theorem hasBit_or (a b : UInt32) (i : Nat) : hasBit (a ||| b) i = (hasBit a i || hasBit b i) := by
  unfold hasBit
  rw [UInt32.toNat_or, Nat.testBit_or]

theorem hasBit_and_not (a b : UInt32) (i : Nat) :
    hasBit (a &&& ~~~ b) i = (hasBit a i && !hasBit b i) := by
  unfold hasBit
  show (a &&& ~~~ b).toBitVec.toNat.testBit i
    = (a.toBitVec.toNat.testBit i && !b.toBitVec.toNat.testBit i)
  rw [BitVec.testBit_toNat, BitVec.testBit_toNat, BitVec.testBit_toNat, UInt32.toBitVec_and,
    UInt32.toBitVec_not, BitVec.getLsbD_and, BitVec.getLsbD_not]
  by_cases hi : i < 32
  · simp [hi]
  · simp [hi, BitVec.getLsbD_of_ge a.toBitVec i (by omega)]

/-- One mask lies within another. -/
theorem and_eq_right_iff_hasBit (a b : UInt32) :
    a &&& b = b ↔ ∀ i, hasBit b i = true → hasBit a i = true := by
  constructor
  · intro h i hi
    rw [← h] at hi
    unfold hasBit at hi ⊢
    rw [UInt32.toNat_and, Nat.testBit_and, Bool.and_eq_true] at hi
    exact hi.1
  · intro h
    apply UInt32.toNat_inj.mp
    rw [UInt32.toNat_and]
    apply Nat.eq_of_testBit_eq
    intro i
    rw [Nat.testBit_and]
    cases hb : b.toNat.testBit i with
    | false => exact Bool.and_false _
    | true =>
      have ha : a.toNat.testBit i = true := h i hb
      rw [ha]
      rfl

/-! ## The map -/

/-- The capabilities of the numbers on record. -/
abbrev CapMap := Nat → Option UInt32

def CapMap.grant (m : CapMap) (pid : Nat) (caps : UInt32) : CapMap :=
  Function.update m pid (some ((m pid).getD 0 ||| caps))

def CapMap.revoke (m : CapMap) (pid : Nat) (caps : UInt32) : CapMap :=
  Function.update m pid ((m pid).map fun c => c &&& ~~~ caps)

/-- The map after these calls. A grant that has failed leaves it alone. -/
def replay : List SecCall → CapMap
  | [] => fun _ => none
  | call :: log =>
    match call.op, call.result with
    | .grant pid caps, true => (replay log).grant pid caps
    | .revoke pid caps, _ => (replay log).revoke pid caps
    | _, _ => replay log

/-! ### In terms of the calls -/

theorem recorded_cons {call : SecCall} {log : List SecCall} {pid : Nat} :
    Recorded (call :: log) pid ↔ (∃ caps, call = ⟨.grant pid caps, true⟩) ∨ Recorded log pid := by
  constructor
  · rintro ⟨caps, hmem⟩
    rcases List.mem_cons.mp hmem with rfl | hmem
    · exact Or.inl ⟨caps, rfl⟩
    · exact Or.inr ⟨caps, hmem⟩
  · rintro (⟨caps, rfl⟩ | ⟨caps, hmem⟩)
    · exact ⟨caps, List.mem_cons_self⟩
    · exact ⟨caps, List.mem_cons_of_mem _ hmem⟩

theorem bitGranted_cons {call : SecCall} {log : List SecCall} {pid i : Nat} :
    BitGranted (call :: log) pid i ↔
      (∃ caps, call = ⟨.grant pid caps, true⟩ ∧ hasBit caps i = true) ∨
      (∀ caps, call.op = .revoke pid caps → hasBit caps i = false) ∧ BitGranted log pid i := by
  constructor
  · rintro ⟨later, caps, before, heq, hbit, hlater⟩
    cases later with
    | nil => exact Or.inl ⟨caps, (List.cons.inj heq).1, hbit⟩
    | cons call' later =>
      obtain ⟨rfl, rfl⟩ := List.cons.inj heq
      exact Or.inr ⟨hlater _ List.mem_cons_self, later, caps, before, rfl, hbit,
        fun c hc => hlater c (List.mem_cons_of_mem _ hc)⟩
  · rintro (⟨caps, rfl, hbit⟩ | ⟨hcall, later, caps, before, rfl, hbit, hlater⟩)
    · exact ⟨[], caps, log, rfl, hbit, by simp⟩
    · refine ⟨call :: later, caps, before, rfl, hbit, fun c hc => ?_⟩
      rcases List.mem_cons.mp hc with rfl | hc
      · exact hcall
      · exact hlater c hc

/-- **A number is in the map iff it is on record.** -/
theorem replay_isSome_iff {log : List SecCall} {pid : Nat} :
    (replay log pid).isSome = true ↔ Recorded log pid := by
  induction log with
  | nil => simp [replay, Recorded]
  | cons call log ih =>
    rw [recorded_cons, ← ih]
    obtain ⟨op, result⟩ := call
    cases op with
    | grant q caps =>
      cases result with
      | false => simp [replay]
      | true =>
        by_cases hq : pid = q
        · subst hq
          simp [replay, CapMap.grant]
        · simp [replay, CapMap.grant, hq, Ne.symm hq]
    | revoke q caps =>
      by_cases hq : pid = q
      · subst hq
        simp [replay, CapMap.revoke]
      · simp [replay, CapMap.revoke, hq]
    | check q cap => simp [replay]

/-- **A bit is in the map iff it was granted and not revoked since.** -/
theorem replay_bit_iff {log : List SecCall} {pid i : Nat} :
    hasBit ((replay log pid).getD 0) i = true ↔ BitGranted log pid i := by
  induction log with
  | nil =>
    refine iff_of_false ?_ ?_
    · show ¬ (0 : UInt32).toNat.testBit i = true
      simp
    · rintro ⟨later, caps, before, heq, -⟩
      exact absurd heq.symm (by simp)
  | cons call log ih =>
    rw [bitGranted_cons, ← ih]
    obtain ⟨op, result⟩ := call
    cases op with
    | grant q caps =>
      cases result with
      | false => simp [replay]
      | true =>
        by_cases hq : pid = q
        · subst hq
          simp [replay, CapMap.grant, hasBit_or, or_comm]
        · simp [replay, CapMap.grant, hq, Ne.symm hq]
    | revoke q caps =>
      by_cases hq : pid = q
      · subst hq
        cases hm : replay log pid with
        | none =>
          have hzero : hasBit 0 i = false := Nat.zero_testBit i
          simp [replay, CapMap.revoke, hm, hzero]
        | some c => simp [replay, CapMap.revoke, hm, hasBit_and_not, and_comm]
      · simp [replay, CapMap.revoke, hq, Ne.symm hq]
    | check q cap => simp [replay]

/-! ## The table holds the map -/

structure HoldsCaps (t : List SecEntry) (m : CapMap) : Prop where
  length : t.length = 256
  unique : (activePids t).Nodup
  recorded : ∀ pid, pid ∈ activePids t ↔ (m pid).isSome = true
  caps : ∀ pid, capsAt t pid = (m pid).getD 0

theorem secFindEntry_eq_none_iff {t : List SecEntry} {pid : Nat} :
    secFindEntry t pid = none ↔ pid ∉ activePids t := lookup_eq_none_iff

theorem HoldsCaps.find_none_iff {t : List SecEntry} {m : CapMap} (h : HoldsCaps t m) {pid : Nat} :
    secFindEntry t pid = none ↔ m pid = none := by
  rw [secFindEntry_eq_none_iff, h.recorded, Option.not_isSome_iff_eq_none]

theorem HoldsCaps.find_some {t : List SecEntry} {m : CapMap} (h : HoldsCaps t m) {pid i : Nat}
    (hf : secFindEntry t pid = some i) : ∃ c, m pid = some c := by
  refine Option.ne_none_iff_exists'.mp fun hnone => ?_
  rw [h.find_none_iff.mpr hnone] at hf
  cases hf

/-- Changing the capabilities in the entry of a number. -/
theorem HoldsCaps.modify {t : List SecEntry} {m : CapMap} (h : HoldsCaps t m) {pid i : Nat}
    (hf : secFindEntry t pid = some i) (g : UInt32 → UInt32) :
    HoldsCaps (t.modify i fun e => { e with caps := g e.caps })
      (Function.update m pid ((m pid).map g)) := by
  have hkeys : activePids (t.modify i fun e => { e with caps := g e.caps }) = activePids t :=
    keys_modify (f := fun e : SecEntry => { e with caps := g e.caps }) (fun _ => rfl)
      (fun _ => rfl) t i
  obtain ⟨c, hc⟩ := h.find_some hf
  refine ⟨by rw [List.length_modify, h.length], by rw [hkeys]; exact h.unique, fun q => ?_,
    fun q => ?_⟩
  · rw [hkeys, h.recorded]
    by_cases hq : q = pid
    · subst hq
      simp
    · rw [Function.update_of_ne hq]
  · rw [capsAt_modify hf]
    by_cases hq : q = pid
    · subst hq
      rw [if_pos rfl, Function.update_self, h.caps, hc]
      rfl
    · rw [if_neg hq, Function.update_of_ne hq, h.caps]

/-- A new number starts with nothing. -/
theorem HoldsCaps.alloc {t t' : List SecEntry} {m : CapMap} (h : HoldsCaps t m) {pid i : Nat}
    (hnone : secFindEntry t pid = none) (ha : secAllocEntry t pid = some (i, t')) :
    HoldsCaps t' (Function.update m pid (some 0)) := by
  obtain ⟨-, hcaps⟩ := capsAt_alloc hnone ha
  unfold secAllocEntry at ha
  split at ha
  · cases ha
  · next j hj =>
    cases ha
    obtain ⟨hlt, hfree, -⟩ := List.findIdx?_eq_some_iff_getElem.mp hj
    have hperm : (activePids (t.set i { pid := pid, caps := 0, active := true })).Perm
        (pid :: activePids t) := keys_set_perm rfl hlt (by simpa using hfree)
    have hnew : pid ∉ activePids t := secFindEntry_eq_none_iff.mp hnone
    refine ⟨by rw [List.length_set, h.length],
      hperm.nodup_iff.mpr (List.nodup_cons.mpr ⟨hnew, h.unique⟩), fun q => ?_, fun q => ?_⟩
    · rw [hperm.mem_iff, List.mem_cons, h.recorded]
      by_cases hq : q = pid
      · subst hq
        simp
      · simp [hq]
    · rw [hcaps, h.caps]
      by_cases hq : q = pid
      · subst hq
        rw [Function.update_self, h.find_none_iff.mp hnone]
        rfl
      · rw [Function.update_of_ne hq]

theorem secAllocEntry_eq_none_iff (t : List SecEntry) (pid : Nat) :
    secAllocEntry t pid = none ↔ (activePids t).length = t.length := by
  have hfree : t.findIdx? (fun e => !e.active) = none ↔ (activePids t).length = t.length :=
    free_eq_none_iff
  unfold secAllocEntry
  rw [← hfree]
  split
  · next hn => exact iff_of_true rfl hn
  · next i hi => exact iff_of_false (by simp) (by rw [hi]; simp)

/-- **A successful grant does to the table what it does to the map.** -/
theorem HoldsCaps.grant {s s' : SecState} {m : CapMap} (h : HoldsCaps s.capTable m)
    {pid : Nat} {caps : UInt32} (hok : secGrantCap s pid caps = (true, s')) :
    HoldsCaps s'.capTable (m.grant pid caps) ∧ s'.initialized = s.initialized := by
  unfold secGrantCap at hok
  split at hok
  · cases hok
  · split at hok
    · next i hf =>
      cases hok
      obtain ⟨c, hc⟩ := h.find_some hf
      have hnext := h.modify hf fun x => x ||| caps
      unfold CapMap.grant
      rw [hc] at hnext ⊢
      exact ⟨hnext, rfl⟩
    · next hf =>
      split at hok
      · cases hok
      · next i t ha =>
        cases hok
        have hnext := (h.alloc hf ha).modify (capsAt_alloc hf ha).1 fun x => x ||| caps
        unfold CapMap.grant
        rw [h.find_none_iff.mp hf]
        rw [Function.update_idem, Function.update_self] at hnext
        exact ⟨hnext, rfl⟩

theorem HoldsCaps.revoke {s : SecState} {m : CapMap} (h : HoldsCaps s.capTable m) (pid : Nat)
    (caps : UInt32) (hinit : s.initialized = true) :
    HoldsCaps (secRevokeCap s pid caps).2.capTable (m.revoke pid caps) ∧
      (secRevokeCap s pid caps).2.initialized = true := by
  unfold secRevokeCap
  rw [if_neg (by rw [hinit]; simp)]
  cases hf : secFindEntry s.capTable pid with
  | none =>
    have hnone := h.find_none_iff.mp hf
    have hsame : m.revoke pid caps = m := by
      unfold CapMap.revoke
      rw [hnone, Option.map_none, ← hnone, Function.update_eq_self]
    rw [hsame]
    exact ⟨h, hinit⟩
  | some i => exact ⟨h.modify hf fun x => x &&& ~~~ caps, hinit⟩

/-- **A grant fails iff the number is new and the table is full.** -/
theorem HoldsCaps.grant_false_iff {s : SecState} {m : CapMap} (h : HoldsCaps s.capTable m)
    (hinit : s.initialized = true) (pid : Nat) (caps : UInt32) :
    (secGrantCap s pid caps).1 = false ↔
      pid ∉ activePids s.capTable ∧ (activePids s.capTable).length = 256 := by
  rw [← secFindEntry_eq_none_iff, ← h.length, ← secAllocEntry_eq_none_iff s.capTable pid]
  unfold secGrantCap
  rw [if_neg (by rw [hinit]; simp)]
  cases secFindEntry s.capTable pid with
  | some i => simp
  | none => cases secAllocEntry s.capTable pid <;> simp

theorem secCheckCap_iff {s : SecState} (hinit : s.initialized = true) (pid : Nat) (cap : UInt32) :
    secCheckCap s pid cap = true ↔
      pid ∈ activePids s.capTable ∧ capsAt s.capTable pid &&& cap = cap := by
  have hnone : secFindEntry s.capTable pid = none ↔ _ := secFindEntry_eq_none_iff
  unfold secCheckCap capsAt
  rw [if_neg (by rw [hinit]; simp)]
  cases hf : secFindEntry s.capTable pid with
  | none => simp [hnone.mp hf]
  | some i =>
    have hmem : pid ∈ activePids s.capTable := by
      by_contra hnot
      rw [hnone.mpr hnot] at hf
      cases hf
    simp [hmem]

/-! ## Any number of calls -/

structure SecInv (s : SecSystem) : Prop where
  initialized : s.sec.initialized = true
  table : HoldsCaps s.sec.capTable (replay s.log)

theorem secInv_boot : SecInv SecSystem.boot where
  initialized := rfl
  table :=
    { length := List.length_replicate
      unique := by
        show (activePids (List.replicate maxSecEntries SecEntry.zero)).Nodup
        decide
      recorded := fun pid => by
        refine iff_of_false (fun hmem => ?_) (by simp [SecSystem.boot, replay])
        obtain ⟨e, he, hactive, -⟩ := mem_keys.mp hmem
        rw [List.eq_of_mem_replicate he] at hactive
        cases hactive
      caps := fun pid => by
        have hnone : secFindEntry (List.replicate maxSecEntries SecEntry.zero) pid = none := by
          refine List.findIdx?_eq_none_iff.mpr fun e he => ?_
          rw [List.eq_of_mem_replicate he]
          rfl
        show capsAt (List.replicate maxSecEntries SecEntry.zero) pid = 0
        rw [capsAt, hnone] }

theorem SecInv.step {s s' : SecSystem} {op : SecOp} (h : SecInv s) (hs : secStep s op = some s') :
    SecInv s' := by
  cases op with
  | grant pid caps =>
    cases hs
    rcases hr : secGrantCap s.sec pid caps with ⟨result, sec⟩
    cases result with
    | true =>
      obtain ⟨htable, hinit⟩ := h.table.grant hr
      exact ⟨hinit.trans h.initialized, htable⟩
    | false =>
      obtain rfl := secGrantCap_false hr
      exact ⟨h.initialized, h.table⟩
  | revoke pid caps =>
    cases hs
    obtain ⟨htable, hinit⟩ := h.table.revoke pid caps h.initialized
    exact ⟨hinit, htable⟩
  | check pid cap =>
    cases hs
    exact ⟨h.initialized, h.table⟩

theorem SecInv.mem_activePids_iff {s : SecSystem} (h : SecInv s) {pid : Nat} :
    pid ∈ activePids s.sec.capTable ↔ Recorded s.log pid := by
  rw [h.table.recorded, replay_isSome_iff]

theorem SecInv.fullyRecorded_iff {s : SecSystem} (h : SecInv s) :
    FullyRecorded s.log ↔ (activePids s.sec.capTable).length = 256 := by
  constructor
  · rintro ⟨pids, hnodup, hlen, hmem⟩
    have hperm : pids.Perm (activePids s.sec.capTable) :=
      (List.perm_ext_iff_of_nodup hnodup h.table.unique).mpr fun q => by
        rw [hmem, h.mem_activePids_iff]
    rw [← hperm.length_eq, hlen]
  · intro hlen
    exact ⟨_, h.table.unique, hlen, fun q => h.mem_activePids_iff⟩

theorem SecInv.mapsCaps {s : SecSystem} (h : SecInv s) : MapsCaps s where
  unique := h.table.unique
  check := fun pid cap => by
    rw [secCheckCap_iff h.initialized, h.mem_activePids_iff, h.table.caps, and_eq_right_iff_hasBit]
    exact and_congr_right fun _ => forall₂_congr fun i _ => replay_bit_iff
  fails := fun pid caps => by
    rw [h.table.grant_false_iff h.initialized, h.mem_activePids_iff, h.fullyRecorded_iff]
  unchanged := fun pid caps s' hfail => secGrantCap_false hfail

/--
**At any time the table answers for the calls so far.**

No number has two active entries, a check succeeds iff all of its bits have been granted and not
revoked since, and a grant fails iff its number is new and there are 256 others.
-/
theorem mapsCaps_always (ops : List SecOp) : Always secStep MapsCaps SecSystem.boot ops := by
  refine Always.of_invariant (I := SecInv) (fun s h => h.mapsCaps) ?_ secInv_boot
  intro s op s' h hs
  exact h.step hs

end MayaOs.Kernel
