import Mathlib.Data.Finite.Prod
import MayaOs.Lib.WhileLoop
import MayaOs.Properties.FatSearch

/-!
# Following a chain of clusters

A FAT entry links to a cluster by its low 28 bits. The loops of `fat32_readdir` and of the search for
a file go through the clusters of a chain; what they do with the contents of a cluster is a parameter
here. They take an entry as it is, do not look whether it has been loaded, do not notice that they have
come back, and read a cluster of any size into a buffer of 512 bytes.

* `walksChain_iff` — when such a loop ends and follows the chain
* `fat_chain_iff` — the same for the two loops of the source
* `fat_chain_broken` — a cycle, an entry with its upper bits set, and a cluster of two sectors
-/

namespace MayaOs.Fs

open MayaOs.Lib

def fat32ClusterBad : UInt32 := 0x0FFFFFF7

/-- The bits of a FAT entry that count. -/
def low28 (v : UInt32) : UInt32 := v &&& 0x0FFFFFFF

/-- A value that is neither the end of a chain nor free, bad or outside the volume. -/
def IsCluster (fs : Fat32Fs) (c : UInt32) : Prop :=
  2 ≤ c ∧ c.toNat < fs.clustersCount.toNat + 2 ∧ c < fat32ClusterBad

instance (fs : Fat32Fs) (c : UInt32) : Decidable (IsCluster fs c) :=
  inferInstanceAs (Decidable (_ ∧ _))

/-- The checks of the loop and of `fat32_read_cluster` on a mounted volume. -/
def Enters (fs : Fat32Fs) (c : UInt32) : Prop :=
  (2 ≤ c ∧ c < fat32Eoc) ∧ c < fs.clustersCount + 2

instance (fs : Fat32Fs) (c : UInt32) : Decidable (Enters fs c) :=
  inferInstanceAs (Decidable (_ ∧ _))

/-- If the cluster is read, it fits in `cluster_buffer`. -/
def BufferHolds (fs : Fat32Fs) (c : UInt32) : Prop :=
  ∀ data, fs.ataReadSectors (fat32ClusterToLba fs c) fs.sectorsPerCluster = some data →
    data.length ≤ clusterBufferSize

/-! ## Walks -/

section Walk

variable {σ : Type} (fs : Fat32Fs) (look : σ → List DirEntry → Option σ)

/-- What the contents of the cluster lead to; `none`: the loop is left. -/
def goesOn (s : UInt32 × σ) : Option σ :=
  (fs.ataReadSectors (fat32ClusterToLba fs s.1) fs.sectorsPerCluster).bind fun buffer =>
    look s.2 (clusterEntries fs buffer)

/-- The cluster that is visited next; `land` tells where an entry leads. -/
def nextVisit (land : UInt32 → Option UInt32) (s : UInt32 × σ) : Option (UInt32 × σ) :=
  (goesOn fs look s).bind fun t => fs.fatTable[s.1.toNat]?.bind fun v =>
    (land v).map fun c => (c, t)

/-- The state of the walk at the `n`th cluster. -/
def visitAt (land : UInt32 → Option UInt32) (start : Option UInt32) (t : σ) (n : Nat) :
    Option (UInt32 × σ) :=
  start.bind fun c => stateAfter (nextVisit fs look land) n (c, t)

/-- Where the code goes. -/
def taken (v : UInt32) : Option UInt32 := if Enters fs v then some v else none

/-- The cluster with this number. -/
def named (v : UInt32) : Option UInt32 := if IsCluster fs v then some v else none

def codeVisit (c : UInt32) (t : σ) : Nat → Option (UInt32 × σ) :=
  visitAt fs look (taken fs) (taken fs c) t

/-- The walk along the chain. -/
def chainVisit (c : UInt32) (t : σ) : Nat → Option (UInt32 × σ) :=
  visitAt fs look (fun v => named fs (low28 v)) (named fs c) t

/-- The loop ends, all entries that it takes are in the table and all that it reads fits in the buffer,
and it visits the clusters of the chain, up to the one whose contents end it. -/
structure WalksChain (loop : Nat → Option (Except Fault (Option DirEntry))) (c : UInt32) (t : σ) :
    Prop where
  ends : ∃ n r, loop n = some r
  inside : ∀ n fault, loop n ≠ some (.error fault)
  visits : ∀ n, (codeVisit fs look c t n).map Prod.fst = (chainVisit fs look c t n).map Prod.fst

/-- The volume is so large that the bad mark passes for a cluster. -/
def BadAccepted (v : UInt32) : Prop :=
  v = fat32ClusterBad ∧ fat32ClusterBad.toNat < fs.clustersCount.toNat + 2 ∧
    fs.clustersCount.toNat + 2 < 2 ^ 32

/-- The condition: `clusters_count + 2` does not overflow, a cluster has one sector if the first one is
read at all, each entry of the chain is loaded and has its upper bits clear, and the chain does not
come back in the same state. -/
structure FollowsLinks (c : UInt32) (t : σ) : Prop where
  count : IsCluster fs c → fs.clustersCount.toNat + 2 < 2 ^ 32
  buffer : IsCluster fs c →
    fs.ataReadSectors (fat32ClusterToLba fs c) fs.sectorsPerCluster ≠ none → fs.sectorsPerCluster ≤ 1
  start : ¬ BadAccepted fs c
  links : ∀ n s t', chainVisit fs look c t n = some s → goesOn fs look s = some t' →
    ∃ v, fs.fatTable[s.1.toNat]? = some v ∧ (IsCluster fs (low28 v) → v.toNat < 2 ^ 28) ∧
      ¬ BadAccepted fs v
  once : IsCluster fs c → Once (nextVisit fs look fun v => named fs (low28 v)) (c, t)

/-- A loop of the source: one turn for each cluster. -/
structure IsClusterLoop (loop : Nat → UInt32 → σ → Option (Except Fault (Option DirEntry))) :
    Prop where
  zero : ∀ c t, loop 0 c t = none
  stops : ∀ n c t, ¬ Enters fs c → ∃ e, loop (n + 1) c t = some (.ok e)
  overruns : ∀ n c t, Enters fs c → ¬ BufferHolds fs c →
    loop (n + 1) c t = some (.error (.outOfBounds clusterBufferSize))
  leaves : ∀ n c t, Enters fs c → BufferHolds fs c → goesOn fs look (c, t) = none →
    ∃ e, loop (n + 1) c t = some (.ok e)
  outside : ∀ n c t t', Enters fs c → BufferHolds fs c → goesOn fs look (c, t) = some t' →
    fs.fatTable[c.toNat]? = none → loop (n + 1) c t = some (.error (.outOfBounds c.toNat))
  turn : ∀ n c t t' v, Enters fs c → BufferHolds fs c → goesOn fs look (c, t) = some t' →
    fs.fatTable[c.toNat]? = some v → loop (n + 1) c t = loop n v t'

/-- Every cluster that the code visits fits in the buffer, if it is read. -/
def BufferHoldsAlong (c : UInt32) (t : σ) : Prop :=
  ∀ n s, codeVisit fs look c t n = some s → BufferHolds fs s.1

variable {fs look} {land land' : UInt32 → Option UInt32} {start : Option UInt32} {t : σ} {n : Nat}
  {c : UInt32} {loop : Nat → UInt32 → σ → Option (Except Fault (Option DirEntry))}

/-! ### States of a walk -/

theorem visitAt_zero : visitAt fs look land start t 0 = start.map fun c => (c, t) := by
  cases start <;> rfl

theorem visitAt_none : visitAt fs look land none t n = none := rfl

/-- One turn at the end. -/
theorem visitAt_succ :
    visitAt fs look land start t (n + 1) =
      (visitAt fs look land start t n).bind (nextVisit fs look land) := by
  cases start with
  | none => rfl
  | some c =>
    show stateAfter _ (n + 1) (c, t) = (stateAfter _ n (c, t)).bind _
    rw [stateAfter_add]
    congr 1
    funext s
    cases hs : nextVisit fs look land s <;> simp [stateAfter, hs]

/-- One turn at the start. -/
theorem visitAt_succ_some :
    visitAt fs look land (some c) t (n + 1) =
      (goesOn fs look (c, t)).bind fun t' => fs.fatTable[c.toNat]?.bind fun v =>
        visitAt fs look land (land v) t' n := by
  show (nextVisit fs look land (c, t)).bind _ = _
  unfold nextVisit
  cases goesOn fs look (c, t) with
  | none => rfl
  | some t' =>
    cases fs.fatTable[c.toNat]? with
    | none => rfl
    | some v =>
      show ((land v).map _).bind _ = visitAt fs look land (land v) t' n
      cases land v <;> rfl

theorem codeVisit_succ (hin : Enters fs c) :
    codeVisit fs look c t (n + 1) =
      (goesOn fs look (c, t)).bind fun t' => fs.fatTable[c.toNat]?.bind fun v =>
        codeVisit fs look v t' n := by
  unfold codeVisit
  rw [← visitAt_succ_some, taken, if_pos hin]

theorem codeVisit_out (hout : ¬ Enters fs c) : codeVisit fs look c t n = none := by
  unfold codeVisit taken
  rw [if_neg hout]
  rfl

theorem codeVisit_zero (hin : Enters fs c) : codeVisit fs look c t 0 = some (c, t) := by
  unfold codeVisit taken
  rw [if_pos hin]
  rfl

/-- What has been counted does not depend on where the entries lead. -/
theorem nextVisit_eq_of_fst {s : UInt32 × σ}
    (h : (nextVisit fs look land s).map Prod.fst = (nextVisit fs look land' s).map Prod.fst) :
    nextVisit fs look land s = nextVisit fs look land' s := by
  unfold nextVisit at h ⊢
  cases hgo : goesOn fs look s with
  | none => rfl
  | some t' =>
    rw [hgo, Option.bind_some, Option.bind_some] at h
    cases htable : fs.fatTable[s.1.toNat]? with
    | none => rfl
    | some v =>
      simp only [htable, Option.bind_some, Option.map_map, Function.comp_def, Option.map_id'] at h ⊢
      rw [h]

/-! ### The buffer -/

theorem BufferHoldsAlong.head (h : BufferHoldsAlong fs look c t) (hin : Enters fs c) :
    BufferHolds fs c :=
  h 0 (c, t) (codeVisit_zero hin)

theorem BufferHoldsAlong.tail (h : BufferHoldsAlong fs look c t) (hin : Enters fs c) {t' : σ}
    {v : UInt32} (hgo : goesOn fs look (c, t) = some t') (hv : fs.fatTable[c.toNat]? = some v) :
    BufferHoldsAlong fs look v t' := by
  intro n s hs
  refine h (n + 1) s ?_
  rw [codeVisit_succ hin, hgo, Option.bind_some, hv, Option.bind_some, hs]

/-- One sector fits. -/
theorem bufferHolds_of_one (hsectors : WholeSectors fs) (hone : fs.sectorsPerCluster ≤ 1)
    (c : UInt32) : BufferHolds fs c := by
  intro data hdata
  have hle : fs.sectorsPerCluster.toNat ≤ 1 := UInt8.le_iff_toNat_le.mp hone
  have hlen := hsectors _ _ _ hdata
  show data.length ≤ 512
  omega

/-- Two do not. -/
theorem one_of_bufferHolds (hsectors : WholeSectors fs)
    (hread : fs.ataReadSectors (fat32ClusterToLba fs c) fs.sectorsPerCluster ≠ none)
    (h : BufferHolds fs c) : fs.sectorsPerCluster ≤ 1 := by
  obtain ⟨data, hdata⟩ := Option.ne_none_iff_exists'.mp hread
  have hlen := hsectors _ _ _ hdata
  have hfits : data.length ≤ 512 := h data hdata
  refine UInt8.le_iff_toNat_le.mpr ?_
  show fs.sectorsPerCluster.toNat ≤ 1
  omega

/-- The first cluster decides for all: behind one that is not read there is none. -/
theorem bufferHoldsAlong_of_start (hsectors : WholeSectors fs)
    (h : Enters fs c → fs.ataReadSectors (fat32ClusterToLba fs c) fs.sectorsPerCluster ≠ none →
      fs.sectorsPerCluster ≤ 1) : BufferHoldsAlong fs look c t := by
  by_cases hone : fs.sectorsPerCluster ≤ 1
  · exact fun _ s _ => bufferHolds_of_one hsectors hone s.1
  · intro n s hs
    have hin : Enters fs c := by
      by_contra hout
      rw [codeVisit_out hout] at hs
      cases hs
    have hnone : fs.ataReadSectors (fat32ClusterToLba fs c) fs.sectorsPerCluster = none := by
      by_contra hread
      exact hone (h hin hread)
    cases n with
    | zero =>
      rw [codeVisit_zero hin] at hs
      cases hs
      intro data hdata
      rw [hnone] at hdata
      cases hdata
    | succ n =>
      have hgo : goesOn fs look (c, t) = none := by
        unfold goesOn
        rw [hnone]
        rfl
      rw [codeVisit_succ hin, hgo] at hs
      cases hs

/-! ### The loop and its walk -/

/-- The loop is still going at the `n`th cluster. -/
theorem IsClusterLoop.going (h : IsClusterLoop fs look loop) : ∀ {n : Nat} {c : UInt32} {t : σ},
    BufferHoldsAlong fs look c t → codeVisit fs look c t n ≠ none → loop n c t = none := by
  intro n
  induction n with
  | zero => exact fun _ _ => h.zero _ _
  | succ n ih =>
    intro c t hbuffer hvisit
    by_cases hin : Enters fs c
    · rw [codeVisit_succ hin] at hvisit
      cases hgo : goesOn fs look (c, t) with
      | none =>
        rw [hgo] at hvisit
        exact absurd rfl hvisit
      | some t' =>
        cases htable : fs.fatTable[c.toNat]? with
        | none =>
          rw [hgo, htable] at hvisit
          exact absurd rfl hvisit
        | some v =>
          rw [hgo, htable] at hvisit
          rw [h.turn n c t t' v hin (hbuffer.head hin) hgo htable]
          exact ih (hbuffer.tail hin hgo htable) hvisit
    · exact absurd (codeVisit_out hin) hvisit

/-- The loop is left when the walk ends. -/
theorem IsClusterLoop.left (h : IsClusterLoop fs look loop) : ∀ {n : Nat} {c : UInt32} {t : σ},
    BufferHoldsAlong fs look c t → codeVisit fs look c t n = none →
      ∃ r, loop (n + 1) c t = some r := by
  intro n
  induction n with
  | zero =>
    intro c t _ hvisit
    have hout : ¬ Enters fs c := by
      intro hin
      rw [codeVisit_zero hin] at hvisit
      cases hvisit
    obtain ⟨e, he⟩ := h.stops 0 c t hout
    exact ⟨_, he⟩
  | succ n ih =>
    intro c t hbuffer hvisit
    by_cases hin : Enters fs c
    · cases hgo : goesOn fs look (c, t) with
      | none =>
        obtain ⟨e, he⟩ := h.leaves (n + 1) c t hin (hbuffer.head hin) hgo
        exact ⟨_, he⟩
      | some t' =>
        cases htable : fs.fatTable[c.toNat]? with
        | none => exact ⟨_, h.outside (n + 1) c t t' hin (hbuffer.head hin) hgo htable⟩
        | some v =>
          rw [codeVisit_succ hin, hgo, htable] at hvisit
          rw [h.turn (n + 1) c t t' v hin (hbuffer.head hin) hgo htable]
          exact ih (hbuffer.tail hin hgo htable) hvisit
    · obtain ⟨e, he⟩ := h.stops (n + 1) c t hin
      exact ⟨_, he⟩

/-- It faults at a cluster that it goes on from without an entry. -/
theorem IsClusterLoop.faults (h : IsClusterLoop fs look loop) {t' : σ} {s : UInt32 × σ}
    (hgo : goesOn fs look s = some t') (hnone : fs.fatTable[s.1.toNat]? = none) :
    ∀ {n : Nat} {c : UInt32} {t : σ}, BufferHoldsAlong fs look c t →
      codeVisit fs look c t n = some s →
        loop (n + 1) c t = some (.error (.outOfBounds s.1.toNat)) := by
  intro n
  induction n with
  | zero =>
    intro c t hbuffer hvisit
    have hin : Enters fs c := by
      by_contra hout
      rw [codeVisit_out hout] at hvisit
      cases hvisit
    rw [codeVisit_zero hin] at hvisit
    cases hvisit
    exact h.outside 0 c t t' hin (hbuffer.head hin) hgo hnone
  | succ n ih =>
    intro c t hbuffer hvisit
    have hin : Enters fs c := by
      by_contra hout
      rw [codeVisit_out hout] at hvisit
      cases hvisit
    rw [codeVisit_succ hin] at hvisit
    obtain ⟨u, hu, hvisit⟩ := Option.bind_eq_some_iff.mp hvisit
    obtain ⟨v, hv, hvisit⟩ := Option.bind_eq_some_iff.mp hvisit
    rw [h.turn (n + 1) c t u v hin (hbuffer.head hin) hu hv]
    exact ih (hbuffer.tail hin hu hv) hvisit

/-- And nowhere else. -/
theorem IsClusterLoop.ok (h : IsClusterLoop fs look loop) : ∀ {n : Nat} {c : UInt32} {t : σ},
    BufferHoldsAlong fs look c t →
    (∀ m s t', codeVisit fs look c t m = some s → goesOn fs look s = some t' →
      ∃ v, fs.fatTable[s.1.toNat]? = some v) →
    ∀ fault, loop n c t ≠ some (.error fault) := by
  intro n
  induction n with
  | zero =>
    intro c t _ _ fault
    rw [h.zero]
    exact nofun
  | succ n ih =>
    intro c t hbuffer hentries fault
    by_cases hin : Enters fs c
    · cases hgo : goesOn fs look (c, t) with
      | none =>
        obtain ⟨e, he⟩ := h.leaves n c t hin (hbuffer.head hin) hgo
        rw [he]
        exact nofun
      | some t' =>
        obtain ⟨v, hv⟩ := hentries 0 (c, t) t' (codeVisit_zero hin) hgo
        rw [h.turn n c t t' v hin (hbuffer.head hin) hgo hv]
        refine ih (hbuffer.tail hin hgo hv) (fun m s u hs hu => hentries (m + 1) s u ?_ hu) fault
        rw [codeVisit_succ hin, hgo, Option.bind_some, hv, Option.bind_some, hs]
    · obtain ⟨e, he⟩ := h.stops n c t hin
      rw [he]
      exact nofun

/-- A loop without a fault does not overrun the buffer with its first cluster. -/
theorem IsClusterLoop.start_fits (h : IsClusterLoop fs look loop) (hsectors : WholeSectors fs)
    (hinside : ∀ n fault, loop n c t ≠ some (.error fault)) (hin : Enters fs c)
    (hread : fs.ataReadSectors (fat32ClusterToLba fs c) fs.sectorsPerCluster ≠ none) :
    fs.sectorsPerCluster ≤ 1 := by
  refine one_of_bufferHolds hsectors hread ?_
  by_contra hno
  exact hinside 1 _ (h.overruns 0 c t hin hno)

/-! ### Entries -/

theorem toNat_low28 (v : UInt32) : (low28 v).toNat = v.toNat % 2 ^ 28 := by
  rw [low28, UInt32.toNat_and]
  exact Nat.and_two_pow_sub_one_eq_mod v.toNat 28

/-- Without overflow. -/
theorem enters_iff (hcount : fs.clustersCount.toNat + 2 < 2 ^ 32) {v : UInt32} :
    Enters fs v ↔ 2 ≤ v.toNat ∧ v.toNat < 0x0FFFFFF8 ∧ v.toNat < fs.clustersCount.toNat + 2 := by
  have hadd : (fs.clustersCount + 2).toNat = fs.clustersCount.toNat + 2 := by
    rw [UInt32.toNat_add]
    exact Nat.mod_eq_of_lt hcount
  unfold Enters
  rw [UInt32.le_iff_toNat_le, UInt32.lt_iff_toNat_lt, UInt32.lt_iff_toNat_lt, hadd, and_assoc]
  rfl

theorem isCluster_iff {v : UInt32} :
    IsCluster fs v ↔ 2 ≤ v.toNat ∧ v.toNat < fs.clustersCount.toNat + 2 ∧ v.toNat < 0x0FFFFFF7 := by
  unfold IsCluster
  rw [UInt32.le_iff_toNat_le, UInt32.lt_iff_toNat_lt]
  rfl

theorem badAccepted_iff {v : UInt32} :
    BadAccepted fs v ↔ v.toNat = 0x0FFFFFF7 ∧ 0x0FFFFFF7 < fs.clustersCount.toNat + 2 ∧
      fs.clustersCount.toNat + 2 < 2 ^ 32 := by
  unfold BadAccepted
  rw [← UInt32.toNat_inj]
  rfl

/-- With an overflow nothing passes the check. -/
theorem not_enters (hcount : ¬ fs.clustersCount.toNat + 2 < 2 ^ 32) (v : UInt32) : ¬ Enters fs v := by
  rintro ⟨⟨hge, -⟩, hlt⟩
  have hlt' := UInt32.lt_iff_toNat_lt.mp hlt
  have hge' : 2 ≤ v.toNat := UInt32.le_iff_toNat_le.mp hge
  have hc := fs.clustersCount.toNat_lt
  rw [UInt32.toNat_add] at hlt'
  have hwrap : (fs.clustersCount.toNat + (2 : UInt32).toNat) % 2 ^ 32 ≤ 1 := by
    show (fs.clustersCount.toNat + 2) % 2 ^ 32 ≤ 1
    omega
  omega

theorem taken_eq_named_iff (hcount : fs.clustersCount.toNat + 2 < 2 ^ 32) {v : UInt32} :
    taken fs v = named fs v ↔ ¬ BadAccepted fs v := by
  unfold taken named
  have hin := enters_iff hcount (v := v)
  rw [badAccepted_iff]
  by_cases hcluster : IsCluster fs v
  · have hnat := isCluster_iff.mp hcluster
    rw [if_pos hcluster, if_pos (hin.mpr (by omega))]
    exact iff_of_true rfl (by omega)
  · rw [if_neg hcluster]
    rw [isCluster_iff] at hcluster
    by_cases henters : Enters fs v
    · rw [if_pos henters]
      rw [hin] at henters
      exact iff_of_false (by simp) (by omega)
    · rw [if_neg henters]
      rw [hin] at henters
      exact iff_of_true rfl (by omega)

/-- **When the code follows an entry as it should.** -/
theorem taken_eq_named_low28_iff (hcount : fs.clustersCount.toNat + 2 < 2 ^ 32) {v : UInt32} :
    taken fs v = named fs (low28 v) ↔
      (IsCluster fs (low28 v) → v.toNat < 2 ^ 28) ∧ ¬ BadAccepted fs v := by
  have hlow := toNat_low28 v
  by_cases hclear : v.toNat < 2 ^ 28
  · have hsame : low28 v = v := UInt32.toNat_inj.mp (by omega)
    rw [hsame, taken_eq_named_iff hcount]
    exact (and_iff_right fun _ => hclear).symm
  · -- the code stops there
    have hout : ¬ Enters fs v := by
      rw [enters_iff hcount]
      omega
    have hbad : ¬ BadAccepted fs v := by
      rw [badAccepted_iff]
      omega
    unfold taken named
    rw [if_neg hout, and_iff_left hbad]
    by_cases hcluster : IsCluster fs (low28 v)
    · rw [if_pos hcluster]
      exact iff_of_false (by simp) fun h => hclear (h hcluster)
    · rw [if_neg hcluster]
      exact iff_of_true rfl fun h => absurd h hcluster

/-! ### Both walks -/

theorem named_eq_some {s : UInt32 × σ} (h : chainVisit fs look c t n = some s) :
    IsCluster fs c := by
  by_contra hno
  unfold chainVisit named at h
  rw [if_neg hno, visitAt_none] at h
  cases h

/-- The walks are the same as long as every entry leads both to the same cluster. -/
theorem visits_congr {start' : Option UInt32} (hstart : start = start')
    (hlinks : ∀ n s t', visitAt fs look land' start' t n = some s → goesOn fs look s = some t' →
      ∃ v, fs.fatTable[s.1.toNat]? = some v ∧ land v = land' v) :
    ∀ n, visitAt fs look land start t n = visitAt fs look land' start' t n := by
  intro n
  induction n with
  | zero => rw [visitAt_zero, visitAt_zero, hstart]
  | succ n ih =>
    rw [visitAt_succ, visitAt_succ, ih]
    cases hs : visitAt fs look land' start' t n with
    | none => rfl
    | some s =>
      rw [Option.bind_some, Option.bind_some]
      unfold nextVisit
      cases hgo : goesOn fs look s with
      | none => rfl
      | some t' =>
        obtain ⟨v, hv, hland⟩ := hlinks n s t' hs hgo
        rw [Option.bind_some, Option.bind_some, hv, Option.bind_some, Option.bind_some, hland]

/-- Walks that visit the same clusters are the same. -/
theorem visits_of_fst {start' : Option UInt32}
    (h : ∀ n, (visitAt fs look land start t n).map Prod.fst =
      (visitAt fs look land' start' t n).map Prod.fst) :
    ∀ n, visitAt fs look land start t n = visitAt fs look land' start' t n := by
  intro n
  induction n with
  | zero =>
    have hzero := h 0
    rw [visitAt_zero, visitAt_zero] at hzero ⊢
    cases start <;> cases start' <;> simp_all
  | succ n ih =>
    have hsucc := h (n + 1)
    rw [visitAt_succ, visitAt_succ, ih] at hsucc ⊢
    cases hs : visitAt fs look land' start' t n with
    | none => rfl
    | some s =>
      rw [hs] at hsucc
      exact nextVisit_eq_of_fst hsucc

theorem finite_uint32 : Finite UInt32 := Finite.of_injective UInt32.toFin fun _ _ => UInt32.toFin_inj.mp

theorem chainVisit_ends_iff [Finite σ] (hc : IsCluster fs c) :
    (∃ n, chainVisit fs look c t n = none) ↔
      Once (nextVisit fs look fun v => named fs (low28 v)) (c, t) := by
  have := finite_uint32
  obtain ⟨hfin⟩ := nonempty_fintype (UInt32 × σ)
  have hends : (∃ n, stateAfter (nextVisit fs look fun v => named fs (low28 v)) n (c, t) = none) ↔
      Once (nextVisit fs look fun v => named fs (low28 v)) (c, t) :=
    ends_iff_once (S := Finset.univ) (fun s _ _ => Finset.mem_univ s) (c, t)
  rw [← hends]
  unfold chainVisit named
  rw [if_pos hc]
  rfl

/-- A start that leads the code and the chain to the same cluster. -/
theorem start_iff :
    taken fs c = named fs c ↔
      (IsCluster fs c → fs.clustersCount.toNat + 2 < 2 ^ 32) ∧ ¬ BadAccepted fs c := by
  by_cases hcount : fs.clustersCount.toNat + 2 < 2 ^ 32
  · rw [taken_eq_named_iff hcount]
    exact (and_iff_right fun _ => hcount).symm
  · have hbad : ¬ BadAccepted fs c := fun h => hcount h.2.2
    unfold taken named
    rw [if_neg (not_enters hcount c), and_iff_left hbad]
    by_cases hcluster : IsCluster fs c
    · rw [if_pos hcluster]
      exact iff_of_false (by simp) fun h => hcount (h hcluster)
    · rw [if_neg hcluster]
      exact iff_of_true rfl fun h => absurd h hcluster

/-- Where the code starts as it should. -/
theorem enters_iff_isCluster (hstart : taken fs c = named fs c) : Enters fs c ↔ IsCluster fs c := by
  unfold taken named at hstart
  by_cases hin : Enters fs c <;> by_cases hc : IsCluster fs c <;> simp_all

theorem WalksChain.followsLinks [Finite σ] (hl : IsClusterLoop fs look loop)
    (hsectors : WholeSectors fs) (h : WalksChain fs look (fun n => loop n c t) c t) : FollowsLinks fs look c t := by
  have hsame : ∀ n, codeVisit fs look c t n = chainVisit fs look c t n := visits_of_fst h.visits
  have hstart : taken fs c = named fs c := by
    have hzero := hsame 0
    unfold codeVisit chainVisit at hzero
    rw [visitAt_zero, visitAt_zero] at hzero
    exact Option.map_injective (fun _ _ heq => congrArg Prod.fst heq) hzero
  obtain ⟨hcount, hbad⟩ := start_iff.mp hstart
  have hfirst := hl.start_fits (c := c) (t := t) hsectors h.inside
  have hbuffer : BufferHoldsAlong fs look c t := bufferHoldsAlong_of_start hsectors hfirst
  refine ⟨hcount, fun hc => hfirst ((enters_iff_isCluster hstart).mpr hc), hbad,
    fun n s t' hs hgo => ?_, fun hc => ?_⟩
  · have hcode := (hsame n).trans hs
    cases hv : fs.fatTable[s.1.toNat]? with
    | none => exact absurd (hl.faults hgo hv hbuffer hcode) (h.inside (n + 1) _)
    | some v =>
      have hnext := hsame (n + 1)
      rw [codeVisit, chainVisit, visitAt_succ, visitAt_succ, ← codeVisit, ← chainVisit, hs, hcode,
        Option.bind_some, Option.bind_some, nextVisit, nextVisit, hgo, Option.bind_some,
        Option.bind_some, hv, Option.bind_some, Option.bind_some] at hnext
      have hland := Option.map_injective (fun _ _ heq => congrArg Prod.fst heq) hnext
      exact ⟨v, rfl, (taken_eq_named_low28_iff (hcount (named_eq_some hs))).mp hland⟩
  · obtain ⟨n, r, hr⟩ := h.ends
    refine (chainVisit_ends_iff hc).mp ⟨n, ?_⟩
    by_contra hsome
    rw [← hsame] at hsome
    rw [hl.going hbuffer hsome] at hr
    cases hr

theorem FollowsLinks.walksChain [Finite σ] (hl : IsClusterLoop fs look loop)
    (hsectors : WholeSectors fs) (h : FollowsLinks fs look c t) :
    WalksChain fs look (fun n => loop n c t) c t := by
  have hstart : taken fs c = named fs c := start_iff.mpr ⟨h.count, h.start⟩
  have hbuffer : BufferHoldsAlong fs look c t := bufferHoldsAlong_of_start hsectors
    fun hin => h.buffer ((enters_iff_isCluster hstart).mp hin)
  have hsame : ∀ n, codeVisit fs look c t n = chainVisit fs look c t n := by
    refine visits_congr hstart fun n s t' hs hgo => ?_
    obtain ⟨v, hv, hclean⟩ := h.links n s t' hs hgo
    exact ⟨v, hv, (taken_eq_named_low28_iff (h.count (named_eq_some hs))).mpr hclean⟩
  refine ⟨?_, fun n fault => ?_, fun n => by rw [hsame]⟩
  · have hend : ∃ n, chainVisit fs look c t n = none := by
      by_cases hc : IsCluster fs c
      · exact (chainVisit_ends_iff hc).mpr (h.once hc)
      · refine ⟨0, ?_⟩
        unfold chainVisit named
        rw [if_neg hc]
        rfl
    obtain ⟨n, hn⟩ := hend
    exact ⟨n + 1, hl.left hbuffer ((hsame n).trans hn)⟩
  · refine hl.ok hbuffer (fun m s t' hs hgo => ?_) fault
    obtain ⟨v, hv, -⟩ := h.links m s t' ((hsame m).symm.trans hs) hgo
    exact ⟨v, hv⟩

/-- **When a loop ends and follows the chain.** -/
theorem walksChain_iff [Finite σ] (hl : IsClusterLoop fs look loop) (hsectors : WholeSectors fs) :
    WalksChain fs look (fun n => loop n c t) c t ↔ FollowsLinks fs look c t :=
  ⟨fun h => h.followsLinks hl hsectors, fun h => h.walksChain hl hsectors⟩

end Walk

/-! ## The loops of the source -/

/-- The loop over the entries of a cluster in the search. -/
def searchLook (fatName : Bytes) (t : Unit) (entries : List DirEntry) : Option Unit :=
  if (entries.find? fun e => e.name = fatName).isSome then none else some t

theorem find?_eq_none_of_searchLook {fatName : Bytes} {t t' : Unit} {entries : List DirEntry}
    (h : searchLook fatName t entries = some t') :
    entries.find? (fun e => e.name = fatName) = none := by
  unfold searchLook at h
  split at h
  · cases h
  · next hsome => exact Option.not_isSome_iff_eq_none.mp hsome

/-- What the loop over a cluster has counted, if it goes on. -/
def Scan.count? : Scan → Option UInt32
  | .returned _ => none
  | .continued count => some count

theorem Scan.count?_eq_some {scan : Scan} {count : UInt32} (h : scan.count? = some count) :
    scan = .continued count := by
  cases scan with
  | returned e => cases h
  | continued c =>
    cases h
    rfl

/-- The loop over the entries of a cluster in the listing. -/
def readdirLook (index count : UInt32) (entries : List DirEntry) : Option UInt32 :=
  (readdirEntries index entries count).count?

theorem Enters.accepted {fs : Fat32Fs} {c : UInt32} (h : Enters fs c) (hmounted : fs.mounted = true) :
    Accepted fs c :=
  ⟨hmounted, h.1.1, h.2⟩

/-- The loop runs, but the cluster is refused. -/
theorem not_accepted {fs : Fat32Fs} {c : UInt32} (hin : 2 ≤ c ∧ c < fat32Eoc) (hout : ¬ Enters fs c) :
    ¬ Accepted fs c :=
  fun h => hout ⟨hin, h.2.2⟩

/-- A cluster that the loop enters, on a mounted volume. -/
theorem Enters.readCluster {fs : Fat32Fs} {c : UInt32} (h : Enters fs c)
    (hmounted : fs.mounted = true) (hbuffer : BufferHolds fs c) :
    fat32ReadCluster fs c =
      .ok (fs.ataReadSectors (fat32ClusterToLba fs c) fs.sectorsPerCluster) := by
  rw [fat32ReadCluster_accepted (h.accepted hmounted)]
  cases hread : fs.ataReadSectors (fat32ClusterToLba fs c) fs.sectorsPerCluster with
  | none => rfl
  | some data => exact intoClusterBuffer_fits (hbuffer data hread)

theorem Enters.readCluster_overruns {fs : Fat32Fs} {c : UInt32} (h : Enters fs c)
    (hmounted : fs.mounted = true) (hbuffer : ¬ BufferHolds fs c) :
    fat32ReadCluster fs c = .error (.outOfBounds clusterBufferSize) := by
  unfold BufferHolds at hbuffer
  push Not at hbuffer
  obtain ⟨data, hread, hlong⟩ := hbuffer
  rw [fat32ReadCluster_accepted (h.accepted hmounted), hread]
  exact intoClusterBuffer_overruns hlong

theorem searchLoop_isClusterLoop {fs : Fat32Fs} (hmounted : fs.mounted = true) (fatName : Bytes) :
    IsClusterLoop fs (searchLook fatName) fun n c _ => searchLoop fs fatName n c where
  zero _ _ := rfl
  stops := by
    intro n c _ hout
    rw [searchLoop]
    split
    · next hin =>
      rw [fat32ReadCluster_refused (not_accepted hin hout)]
      exact ⟨none, rfl⟩
    · exact ⟨none, rfl⟩
  overruns := by
    intro n c _ hin hbuffer
    rw [searchLoop, if_pos hin.1, hin.readCluster_overruns hmounted hbuffer]
  leaves := by
    intro n c _ hin hbuffer hgo
    rw [searchLoop, if_pos hin.1, hin.readCluster hmounted hbuffer]
    unfold goesOn searchLook at hgo
    cases hread : fs.ataReadSectors (fat32ClusterToLba fs c) fs.sectorsPerCluster with
    | none => exact ⟨none, rfl⟩
    | some buffer =>
      rw [hread, Option.bind_some] at hgo
      cases hfind : (clusterEntries fs buffer).find? fun e => e.name = fatName with
      | none =>
        rw [hfind] at hgo
        cases hgo
      | some e => exact ⟨some e, by simp only [hfind]⟩
  outside := by
    intro n c _ t' hin hbuffer hgo hnone
    rw [searchLoop, if_pos hin.1, hin.readCluster hmounted hbuffer]
    obtain ⟨buffer, hread, hlook⟩ := Option.bind_eq_some_iff.mp hgo
    have hfind := find?_eq_none_of_searchLook hlook
    simp only [hread, hfind, nextCluster, hnone]
  turn := by
    intro n c _ t' v hin hbuffer hgo hv
    rw [searchLoop, if_pos hin.1, hin.readCluster hmounted hbuffer]
    obtain ⟨buffer, hread, hlook⟩ := Option.bind_eq_some_iff.mp hgo
    have hfind := find?_eq_none_of_searchLook hlook
    simp only [hread, hfind, nextCluster, hv]

theorem readdirLoop_isClusterLoop {fs : Fat32Fs} (hmounted : fs.mounted = true) (index : UInt32) :
    IsClusterLoop fs (readdirLook index) fun n c count => readdirLoop fs index n c count where
  zero _ _ := rfl
  stops := by
    intro n c count hout
    rw [readdirLoop]
    split
    · next hin =>
      rw [fat32ReadCluster_refused (not_accepted hin hout)]
      exact ⟨none, rfl⟩
    · exact ⟨none, rfl⟩
  overruns := by
    intro n c count hin hbuffer
    rw [readdirLoop, if_pos hin.1, hin.readCluster_overruns hmounted hbuffer]
  leaves := by
    intro n c count hin hbuffer hgo
    rw [readdirLoop, if_pos hin.1, hin.readCluster hmounted hbuffer]
    unfold goesOn readdirLook at hgo
    cases hread : fs.ataReadSectors (fat32ClusterToLba fs c) fs.sectorsPerCluster with
    | none => exact ⟨none, rfl⟩
    | some buffer =>
      rw [hread, Option.bind_some] at hgo
      cases hscan : readdirEntries index (clusterEntries fs buffer) count with
      | returned e => exact ⟨e, by simp only [hscan]⟩
      | continued count' =>
        simp only [hscan] at hgo
        cases hgo
  outside := by
    intro n c count count' hin hbuffer hgo hnone
    rw [readdirLoop, if_pos hin.1, hin.readCluster hmounted hbuffer]
    obtain ⟨buffer, hread, hlook⟩ := Option.bind_eq_some_iff.mp hgo
    have hscan : readdirEntries index (clusterEntries fs buffer) count = .continued count' :=
      Scan.count?_eq_some hlook
    simp only [hread, hscan, nextCluster, hnone]
  turn := by
    intro n c count count' v hin hbuffer hgo hv
    rw [readdirLoop, if_pos hin.1, hin.readCluster hmounted hbuffer]
    obtain ⟨buffer, hread, hlook⟩ := Option.bind_eq_some_iff.mp hgo
    have hscan : readdirEntries index (clusterEntries fs buffer) count = .continued count' :=
      Scan.count?_eq_some hlook
    simp only [hread, hscan, nextCluster, hv]

/-- `fat32_readdir` for the directory at `inode`. -/
def ReaddirWalks (fs : Fat32Fs) (inode index : UInt32) : Prop :=
  WalksChain fs (readdirLook index) (fun n => readdirEntry fs n inode index) inode 0

/-- The search of `fat32_read_file`. -/
def SearchWalks (fs : Fat32Fs) (filename : Bytes) : Prop :=
  WalksChain fs (searchLook (fatName filename)) (fun n => fat32FindFile fs n filename)
    fs.rootCluster ()

theorem readdirWalks_iff {fs : Fat32Fs} (hmounted : fs.mounted = true) (hsectors : WholeSectors fs)
    (inode index : UInt32) :
    ReaddirWalks fs inode index ↔ FollowsLinks fs (readdirLook index) inode 0 := by
  have := finite_uint32
  rw [← walksChain_iff (readdirLoop_isClusterLoop hmounted index) hsectors]
  unfold ReaddirWalks readdirEntry
  simp only [hmounted, Bool.true_eq_false, if_false]

theorem searchWalks_iff {fs : Fat32Fs} (hmounted : fs.mounted = true) (hsectors : WholeSectors fs)
    (filename : Bytes) :
    SearchWalks fs filename ↔ FollowsLinks fs (searchLook (fatName filename)) fs.rootCluster () := by
  rw [← walksChain_iff (searchLoop_isClusterLoop hmounted (fatName filename)) hsectors]
  unfold SearchWalks fat32FindFile
  simp only [hmounted, Bool.true_eq_false, if_false]

/--
**When the two loops end, stay inside the table and the buffer and follow the chain.**

The contents of the disk are arbitrary, and so are the cluster of the directory, the index and the
name.
-/
theorem fat_chain_iff {fs : Fat32Fs} (hmounted : fs.mounted = true) (hsectors : WholeSectors fs)
    (inode index : UInt32) (filename : Bytes) :
    (ReaddirWalks fs inode index ↔ FollowsLinks fs (readdirLook index) inode 0) ∧
      (SearchWalks fs filename ↔
        FollowsLinks fs (searchLook (fatName filename)) fs.rootCluster ()) :=
  ⟨readdirWalks_iff hmounted hsectors inode index, searchWalks_iff hmounted hsectors filename⟩

/-! ## Broken chains -/

/-- A directory whose first cluster holds deleted entries only; its entry in the table is `link`. All
sectors of a cluster are the same. -/
def linkedFs (sectorsPerCluster : UInt8) (link : UInt32) : Fat32Fs where
  rootCluster := 2
  sectorsPerCluster := sectorsPerCluster
  fatTable := [0x0FFFFFF8, 0x0FFFFFFF, link, 0x0FFFFFFF]
  dataStart := 34
  clustersCount := 2
  mounted := true
  ataReadSectors := fun lba count => some (List.replicate count.toNat
    (if lba = 34 then List.replicate 512 0xE5 else fileSector (fatName readme))).flatten

theorem wholeSectors_linkedFs (sectorsPerCluster : UInt8) (link : UInt32) :
    WholeSectors (linkedFs sectorsPerCluster link) := by
  intro lba count data hdata
  obtain rfl := Option.some.inj hdata
  rw [List.length_flatten, List.map_replicate, List.sum_replicate_nat, Nat.mul_comm]
  congr 1
  split
  · exact List.length_replicate
  · exact length_fileSector (length_fatName readme)

/-- A chain of two clusters. -/
theorem fat_chain_two :
    (ReaddirWalks (linkedFs 1 3) 2 0 ↔ FollowsLinks (linkedFs 1 3) (readdirLook 0) 2 0) ∧
      (SearchWalks (linkedFs 1 3) readme ↔
        FollowsLinks (linkedFs 1 3) (searchLook (fatName readme)) (linkedFs 1 3).rootCluster ()) :=
  fat_chain_iff rfl (wholeSectors_linkedFs 1 3) 2 0 readme

/-- **A cycle, an entry whose upper bits are set, and a cluster of two sectors**: the loop does not
end, or not where it should, or the buffer is overrun. -/
theorem fat_chain_broken :
    ¬ ReaddirWalks (linkedFs 1 2) 2 0 ∧ ¬ SearchWalks (linkedFs 1 0x10000003) readme ∧
      ¬ SearchWalks (linkedFs 2 3) readme := by
  refine ⟨?_, ?_, ?_⟩
  · rw [readdirWalks_iff rfl (wholeSectors_linkedFs 1 2)]
    intro h
    have hback := h.once (by decide) 0 1 (2, 0) rfl (by decide +kernel)
    exact absurd hback (by decide)
  · rw [searchWalks_iff rfl (wholeSectors_linkedFs 1 0x10000003)]
    intro h
    obtain ⟨v, hv, hclear, -⟩ := h.links 0 (2, ()) () rfl (by decide +kernel)
    obtain rfl : 0x10000003 = v := Option.some.inj hv
    exact absurd (hclear (by decide)) (by decide)
  · rw [searchWalks_iff rfl (wholeSectors_linkedFs 2 3)]
    intro h
    exact absurd (h.buffer (by decide) nofun) (by decide)

end MayaOs.Fs
