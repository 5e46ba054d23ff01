import Mathlib.Data.List.Basic

/-!
# The capability table (`kernel/security.c`)

`cap_table` is keyed by process number. The log messages are left out.

* `secGetCaps_grant`, `secGetCaps_revoke` — what the two operations do to every number
-/

namespace MayaOs.Kernel

def maxSecEntries : Nat := 256

/-- `sec_entry_t`. -/
structure SecEntry where
  pid : Nat
  caps : UInt32
  active : Bool
  deriving Repr, DecidableEq

structure SecState where
  capTable : List SecEntry
  initialized : Bool
  deriving Repr, DecidableEq

def SecEntry.zero : SecEntry := { pid := 0, caps := 0, active := false }

/-- The static variables before `sec_init`. -/
def SecState.unset : SecState where
  capTable := List.replicate maxSecEntries SecEntry.zero
  initialized := false

def secInit (s : SecState) : SecState :=
  if s.initialized then s
  else { capTable := List.replicate maxSecEntries SecEntry.zero, initialized := true }

/-- The test of `sec_find_entry`. -/
def SecEntry.isFor (pid : Nat) (e : SecEntry) : Bool := e.active && e.pid == pid

/-- The index of the entry of `pid`, if there is one. -/
def secFindEntry (t : List SecEntry) (pid : Nat) : Option Nat := t.findIdx? (SecEntry.isFor pid)

/-- Takes the first inactive entry for `pid`. -/
def secAllocEntry (t : List SecEntry) (pid : Nat) : Option (Nat × List SecEntry) :=
  match t.findIdx? (fun e => !e.active) with
  | none => none
  | some i => some (i, t.set i { pid := pid, caps := 0, active := true })

/-- `cap_table[idx].caps |= caps`. -/
def orCaps (t : List SecEntry) (i : Nat) (caps : UInt32) : List SecEntry :=
  t.modify i fun e => { e with caps := e.caps ||| caps }

/-- `cap_table[idx].caps &= ~caps`. -/
def clearCaps (t : List SecEntry) (i : Nat) (caps : UInt32) : List SecEntry :=
  t.modify i fun e => { e with caps := e.caps &&& ~~~caps }

def secGrantCap (s : SecState) (pid : Nat) (caps : UInt32) : Bool × SecState :=
  if s.initialized = false then (false, s)
  else
    match secFindEntry s.capTable pid with
    | some i => (true, { s with capTable := orCaps s.capTable i caps })
    | none =>
      match secAllocEntry s.capTable pid with
      | none => (false, s)
      | some (i, t) => (true, { s with capTable := orCaps t i caps })

def secRevokeCap (s : SecState) (pid : Nat) (caps : UInt32) : Bool × SecState :=
  if s.initialized = false then (false, s)
  else
    match secFindEntry s.capTable pid with
    | none => (false, s)
    | some i => (true, { s with capTable := clearCaps s.capTable i caps })

/-- `caps` of the entry of `pid`, 0 if there is none. -/
def capsAt (t : List SecEntry) (pid : Nat) : UInt32 :=
  match secFindEntry t pid with
  | none => 0
  | some i => (t.getD i SecEntry.zero).caps

def secGetCaps (s : SecState) (pid : Nat) : UInt32 :=
  if s.initialized = false then 0 else capsAt s.capTable pid

def secCheckCap (s : SecState) (pid : Nat) (cap : UInt32) : Bool :=
  if s.initialized = false then false
  else
    match secFindEntry s.capTable pid with
    | none => false
    | some i => (s.capTable.getD i SecEntry.zero).caps &&& cap == cap

/-! ## Lookups after a change of the table -/

/-- The search only looks at which entries are for `pid`. -/
theorem secFindEntry_congr {t t' : List SecEntry} {pid : Nat}
    (h : t'.map (SecEntry.isFor pid) = t.map (SecEntry.isFor pid)) :
    secFindEntry t' pid = secFindEntry t pid := by
  have hmap : ∀ u : List SecEntry, secFindEntry u pid = (u.map (SecEntry.isFor pid)).findIdx? id := by
    intro u
    rw [List.findIdx?_map]
    rfl
  rw [hmap, hmap, h]

theorem secFindEntry_eq_some {t : List SecEntry} {pid i : Nat} (h : secFindEntry t pid = some i) :
    ∃ e, t[i]? = some e ∧ e.active = true ∧ e.pid = pid := by
  obtain ⟨hlt, he, _⟩ := List.findIdx?_eq_some_iff_getElem.mp h
  simp only [SecEntry.isFor, Bool.and_eq_true, beq_iff_eq] at he
  exact ⟨t[i], List.getElem?_eq_getElem hlt, he.1, he.2⟩

/-- A change of the capabilities in one entry is not seen by the search. -/
theorem secFindEntry_modify (t : List SecEntry) (i pid : Nat) (g : UInt32 → UInt32) :
    secFindEntry (t.modify i fun e => { e with caps := g e.caps }) pid = secFindEntry t pid := by
  apply secFindEntry_congr
  apply List.ext_getElem?
  intro j
  rw [List.getElem?_map, List.getElem?_map, List.getElem?_modify]
  cases t[j]? with
  | none => rfl
  | some e => by_cases hj : i = j <;> simp [hj, SecEntry.isFor]

/-- **Changing the capabilities in the entry of `pid` changes those of no other number.** -/
theorem capsAt_modify {t : List SecEntry} {i pid : Nat} (h : secFindEntry t pid = some i)
    (g : UInt32 → UInt32) (q : Nat) :
    capsAt (t.modify i fun e => { e with caps := g e.caps }) q
      = if q = pid then g (capsAt t pid) else capsAt t q := by
  obtain ⟨e, hie, -, hpid⟩ := secFindEntry_eq_some h
  unfold capsAt
  rw [secFindEntry_modify]
  by_cases hq : q = pid
  · subst hq
    simp [h, hie]
  · rw [if_neg hq]
    cases hf : secFindEntry t q with
    | none => rfl
    | some j =>
      obtain ⟨e', hje, -, hpid'⟩ := secFindEntry_eq_some hf
      have hij : i ≠ j := by
        rintro rfl
        rw [hie] at hje
        cases hje
        exact hq (hpid'.symm.trans hpid)
      simp [hij]

/-- A number without an entry is found in the cell that is written for it. -/
theorem secFindEntry_set_self {t : List SecEntry} {pid j : Nat} (hnone : secFindEntry t pid = none)
    (hj : j < t.length) :
    secFindEntry (t.set j { pid := pid, caps := 0, active := true }) pid = some j := by
  unfold secFindEntry
  rw [List.findIdx?_eq_some_iff_getElem]
  refine ⟨by simpa using hj, by simp [SecEntry.isFor], ?_⟩
  intro m hm
  have hmlt : m < t.length := by omega
  rw [List.getElem_set_ne (by omega)]
  rw [List.findIdx?_eq_none_iff.mp hnone _ (List.getElem_mem hmlt)]
  simp

/-- The search for another number passes over the cell, as it did before. -/
theorem secFindEntry_set_of_ne {t : List SecEntry} {pid q j : Nat} (hj : j < t.length)
    (hinactive : t[j].active = false) (hq : q ≠ pid) :
    secFindEntry (t.set j { pid := pid, caps := 0, active := true }) q = secFindEntry t q := by
  have hjlt : j < (t.map (SecEntry.isFor q)).length := by rwa [List.length_map]
  have hfalse : SecEntry.isFor q { pid := pid, caps := 0, active := true }
      = (t.map (SecEntry.isFor q))[j] := by
    simp [SecEntry.isFor, hinactive, Ne.symm hq]
  apply secFindEntry_congr
  rw [List.map_set, hfalse, List.set_getElem_self]

/-- A fresh entry for `pid` hides no entry of another number. -/
theorem capsAt_alloc {t : List SecEntry} {pid : Nat} {i : Nat} {t' : List SecEntry}
    (hnone : secFindEntry t pid = none) (h : secAllocEntry t pid = some (i, t')) :
    secFindEntry t' pid = some i ∧ ∀ q, capsAt t' q = capsAt t q := by
  unfold secAllocEntry at h
  split at h
  · cases h
  · next j hj =>
    simp only [Option.some.injEq, Prod.mk.injEq] at h
    obtain ⟨rfl, rfl⟩ := h
    obtain ⟨hlt, hinact, _⟩ := List.findIdx?_eq_some_iff_getElem.mp hj
    have hinactive : t[j].active = false := by simpa using hinact
    have hfind := secFindEntry_set_self hnone hlt
    refine ⟨hfind, fun q => ?_⟩
    by_cases hq : q = pid
    · subst hq
      unfold capsAt
      rw [hfind, hnone]
      simp [hlt]
    · unfold capsAt
      rw [secFindEntry_set_of_ne hlt hinactive hq]
      cases hf : secFindEntry t q with
      | none => rfl
      | some m =>
        -- the entry of `q` is active, so it is not the one that is written
        obtain ⟨e, hme, hact, -⟩ := secFindEntry_eq_some hf
        have hjm : j ≠ m := by
          rintro rfl
          rw [List.getElem?_eq_getElem hlt] at hme
          cases hme
          rw [hinactive] at hact
          cases hact
        simp [List.getElem?_set_ne hjm]

/-! ## grant and revoke -/

theorem secGetCaps_eq {s : SecState} (hi : ¬ s.initialized = false) (t : List SecEntry) (pid : Nat) :
    secGetCaps { s with capTable := t } pid = capsAt t pid := if_neg hi

/-- **A successful grant adds to its number and to no other.** -/
theorem secGetCaps_grant {s s' : SecState} {pid : Nat} {caps : UInt32}
    (h : secGrantCap s pid caps = (true, s')) (q : Nat) :
    secGetCaps s' q = if q = pid then secGetCaps s pid ||| caps else secGetCaps s q := by
  unfold secGrantCap at h
  split at h
  · cases h
  · next hi =>
    split at h
    · next i hf =>
      cases h
      rw [secGetCaps_eq hi, secGetCaps_eq hi, secGetCaps_eq hi]
      exact capsAt_modify hf (fun c => c ||| caps) q
    · next hf =>
      split at h
      · cases h
      · next i t ha =>
        cases h
        obtain ⟨hfind, hsame⟩ := capsAt_alloc hf ha
        rw [secGetCaps_eq hi, secGetCaps_eq hi, secGetCaps_eq hi, orCaps,
          capsAt_modify hfind (fun c => c ||| caps) q, hsame, hsame]

theorem secGrantCap_false {s s' : SecState} {pid : Nat} {caps : UInt32}
    (h : secGrantCap s pid caps = (false, s')) : s' = s := by
  unfold secGrantCap at h
  split at h
  · cases h; rfl
  · split at h
    · cases h
    · split at h
      · cases h; rfl
      · cases h

/-- **A revoke removes from its number and from no other**, whether there is an entry or not. -/
theorem secGetCaps_revoke (s : SecState) (pid : Nat) (caps : UInt32) (q : Nat) :
    secGetCaps (secRevokeCap s pid caps).2 q
      = if q = pid then secGetCaps s pid &&& ~~~caps else secGetCaps s q := by
  unfold secRevokeCap
  split
  · next hi =>
    by_cases hq : q = pid
    · simp [secGetCaps, hi]
    · rw [if_neg hq]
  · next hi =>
    cases hf : secFindEntry s.capTable pid with
    | none =>
      -- nothing is on record, so nothing is removed
      by_cases hq : q = pid
      · subst hq
        simp [secGetCaps, hi, capsAt, hf]
      · rw [if_neg hq]
    | some i =>
      rw [secGetCaps_eq hi, secGetCaps_eq hi, secGetCaps_eq hi]
      exact capsAt_modify hf (fun c => c &&& ~~~caps) q

end MayaOs.Kernel
