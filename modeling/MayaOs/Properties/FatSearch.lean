import Mathlib.Data.List.TakeWhile
import MayaOs.Fs.Fat32

/-!
# The search for a file and the listing of the directory

A directory is the list of its entries, in the order of its clusters. The search is `List.find?` on
it and the listing picks from a filtered part of it, so the two can be compared as functions on
lists.

* `findFile_iff_listed` — the search selects what is listed first under the 8.3 form of a name
* `long_name_selected` — a long name selects an entry that is listed under another name
-/

namespace MayaOs.Fs

open MayaOs.Lib

/-! ## Directories -/

/-- A chain of clusters that ends and that the drive gives, as the entries of each. -/
inductive Directory (fs : Fat32Fs) : UInt32 → List (List DirEntry) → Prop where
  | stop {c : UInt32} (hend : ¬ (2 ≤ c ∧ c < fat32Eoc)) : Directory fs c []
  | step {c next : UInt32} {buffer : Bytes} {css : List (List DirEntry)}
      (hin : 2 ≤ c ∧ c < fat32Eoc) (hread : ClusterRead fs c buffer)
      (hnext : nextCluster fs c = .ok next) (hrest : Directory fs next css) :
      Directory fs c (clusterEntries fs buffer :: css)

/-- Not deleted and no volume label. -/
def DirEntry.Kept (e : DirEntry) : Prop := e.first ≠ 0xE5 ∧ e.attributes &&& 0x08 = 0

instance (e : DirEntry) : Decidable e.Kept := inferInstanceAs (Decidable (_ ∧ _))

/-- What the listing shows of a directory: what is kept, up to the end marker. -/
def listed (es : List DirEntry) : List DirEntry :=
  (es.takeWhile fun e => e.first ≠ 0x00).filter fun e => e.Kept

theorem listed_end {e : DirEntry} (h : e.first = 0x00) (es : List DirEntry) :
    listed (e :: es) = [] := by
  simp [listed, h]

theorem listed_kept {e : DirEntry} (h : e.first ≠ 0x00) (hk : e.Kept) (es : List DirEntry) :
    listed (e :: es) = e :: listed es := by
  simp [listed, h, hk]

theorem listed_dropped {e : DirEntry} (h : e.first ≠ 0x00) (hk : ¬ e.Kept) (es : List DirEntry) :
    listed (e :: es) = listed es := by
  simp [listed, h, hk]

/-! ## The two loops -/

/-- **The search goes through the directory once**, where a cluster fits in the buffer. -/
theorem searchLoop_eq {fs : Fat32Fs} (hone : fs.sectorsPerCluster ≤ 1) (name : Bytes) {c : UInt32} {css : List (List DirEntry)}
    (h : Directory fs c css) : ∀ fuel, css.length < fuel →
      searchLoop fs name fuel c = some (.ok (css.flatten.find? fun e => e.name = name)) := by
  induction h with
  | stop hend =>
    intro fuel hfuel
    obtain ⟨n, rfl⟩ := Nat.exists_eq_add_one_of_ne_zero (Nat.ne_zero_of_lt hfuel)
    rw [searchLoop, if_neg hend]
    rfl
  | @step c next buffer css hin hread hnext _ ih =>
    intro fuel hfuel
    rw [List.length_cons] at hfuel
    obtain ⟨n, rfl⟩ := Nat.exists_eq_add_one_of_ne_zero (Nat.ne_zero_of_lt hfuel)
    rw [searchLoop, if_pos hin, hread.fits hone, List.flatten_cons, List.find?_append]
    dsimp only
    cases hfind : (clusterEntries fs buffer).find? fun e => e.name = name with
    | some e => rfl
    | none =>
      dsimp only
      rw [hnext]
      exact ih n (by omega)

/-- What the loop over a cluster contributes: it answers for every continuation of the directory, or
leaves the rest of the index to it. -/
theorem readdirEntries_spec (index : UInt32) : ∀ (es : List DirEntry) (count : UInt32),
    count.toNat ≤ index.toNat →
      match readdirEntries index es count with
      | .returned r => ∀ es', (listed (es ++ es'))[index.toNat - count.toNat]? = r
      | .continued count' => count'.toNat ≤ index.toNat ∧
          ∀ es', (listed (es ++ es'))[index.toNat - count.toNat]? =
            (listed es')[index.toNat - count'.toNat]? := by
  intro es
  induction es with
  | nil => exact fun count h => ⟨h, fun _ => rfl⟩
  | cons e es ih =>
    intro count hle
    rw [readdirEntries]
    by_cases h0 : e.first = 0x00
    · rw [if_pos h0]
      intro es'
      rw [List.cons_append, listed_end h0]
      rfl
    · rw [if_neg h0]
      have hdrop : ¬ e.Kept → ∀ es', listed (e :: es ++ es') = listed (es ++ es') :=
        fun hk es' => listed_dropped h0 hk (es ++ es')
      by_cases hdel : e.first = 0xE5
      · rw [if_pos hdel]
        simp only [hdrop fun hk => hk.1 hdel]
        exact ih count hle
      · rw [if_neg hdel]
        by_cases hlabel : e.attributes &&& 0x08 ≠ 0
        · rw [if_pos hlabel]
          simp only [hdrop fun hk => hlabel hk.2]
          exact ih count hle
        · rw [if_neg hlabel]
          rw [not_not] at hlabel
          have hkept : ∀ es', listed (e :: es ++ es') = e :: listed (es ++ es') :=
            fun es' => listed_kept h0 ⟨hdel, hlabel⟩ (es ++ es')
          simp only [hkept]
          by_cases hidx : count = index
          · rw [if_pos hidx, hidx]
            intro es'
            rw [Nat.sub_self]
            rfl
          · rw [if_neg hidx]
            have hlt : count.toNat < index.toNat :=
              Nat.lt_of_le_of_ne hle fun heq => hidx (UInt32.toNat_inj.mp heq)
            have hsucc : (count + 1).toNat = count.toNat + 1 := by
              have := index.toNat_lt
              rw [UInt32.toNat_add, Nat.mod_eq_of_lt]
              · rfl
              · show count.toNat + 1 < 2 ^ 32
                omega
            have hsub : index.toNat - count.toNat = index.toNat - (count + 1).toNat + 1 := by
              rw [hsucc]
              omega
            simp only [hsub, List.getElem?_cons_succ]
            exact ih (count + 1) (by rw [hsucc]; omega)

/-- **The listing has the entries that are shown, in order.** -/
theorem readdirLoop_eq {fs : Fat32Fs} (hone : fs.sectorsPerCluster ≤ 1) (index : UInt32)
    {c : UInt32} {css : List (List DirEntry)} (h : Directory fs c css) : ∀ fuel, css.length < fuel → ∀ count : UInt32,
      count.toNat ≤ index.toNat →
        readdirLoop fs index fuel c count =
          some (.ok (listed css.flatten)[index.toNat - count.toNat]?) := by
  induction h with
  | stop hend =>
    intro fuel hfuel count _
    obtain ⟨n, rfl⟩ := Nat.exists_eq_add_one_of_ne_zero (Nat.ne_zero_of_lt hfuel)
    rw [readdirLoop, if_neg hend]
    rfl
  | @step c next buffer css hin hread hnext _ ih =>
    intro fuel hfuel count hcount
    rw [List.length_cons] at hfuel
    obtain ⟨n, rfl⟩ := Nat.exists_eq_add_one_of_ne_zero (Nat.ne_zero_of_lt hfuel)
    rw [readdirLoop, if_pos hin, hread.fits hone, List.flatten_cons]
    have hscan := readdirEntries_spec index (clusterEntries fs buffer) count hcount
    dsimp only
    cases hres : readdirEntries index (clusterEntries fs buffer) count with
    | returned r =>
      rw [hres] at hscan
      rw [hscan css.flatten]
    | continued count' =>
      rw [hres] at hscan
      rw [hscan.2 css.flatten]
      dsimp only
      rw [hnext]
      exact ih n (by omega) count' hscan.1

/-! ## What is found and what is listed -/

/-- The first entry with this name is neither deleted nor a label, and no end marker stands before
it. -/
def FirstShown (es : List DirEntry) (name : Bytes) : Prop :=
  ∀ pre e post, es = pre ++ e :: post → (∀ x ∈ pre, x.name ≠ name) → e.name = name →
    (∀ x ∈ pre, x.first ≠ 0x00) ∧ e.first ≠ 0x00 ∧ e.Kept

theorem FirstShown.tail {e : DirEntry} {es : List DirEntry} {name : Bytes}
    (h : FirstShown (e :: es) name) (hne : e.name ≠ name) : FirstShown es name := by
  rintro pre e' post rfl hpre he'
  have hcons := h (e :: pre) e' post rfl
    (fun x hx => (List.mem_cons.mp hx).elim (fun heq => heq ▸ hne) (hpre x)) he'
  exact ⟨fun x hx => hcons.1 x (List.mem_cons_of_mem e hx), hcons.2⟩

theorem find?_listed {name : Bytes} : ∀ {es : List DirEntry}, FirstShown es name →
    es.find? (fun e => e.name = name) = (listed es).find? fun e => e.name = name := by
  intro es
  induction es with
  | nil => intro _; rfl
  | cons e es ih =>
    intro h
    by_cases hname : e.name = name
    · obtain ⟨-, h0, hk⟩ := h [] e es rfl (by simp) hname
      rw [listed_kept h0 hk, List.find?_cons_of_pos (by simpa using hname),
        List.find?_cons_of_pos (by simpa using hname)]
    · rw [List.find?_cons_of_neg (by simpa using hname)]
      by_cases h0 : e.first = 0x00
      · rw [listed_end h0, List.find?_nil]
        -- behind the end marker nothing may have the name
        cases hfind : es.find? fun e => e.name = name with
        | none => rfl
        | some e' =>
          obtain ⟨he', pre, post, rfl, hpre⟩ := List.find?_eq_some_iff_append.mp hfind
          have hshown := h (e :: pre) e' post rfl (by simpa [hname] using hpre) (by simpa using he')
          exact absurd h0 (hshown.1 e List.mem_cons_self)
      · rw [ih (h.tail hname)]
        by_cases hk : e.Kept
        · rw [listed_kept h0 hk, List.find?_cons_of_neg (by simpa using hname)]
        · rw [listed_dropped h0 hk]

/-! ## Names that survive the 8.3 form -/

/-- At most eight bytes before the first dot, one to three after it, and no space. -/
def Fits (filename : Bytes) : Prop :=
  space ∉ filename ∧ (filename.takeWhile (· != dot)).length ≤ 8 ∧
    ∀ ext, extension filename = some ext → 1 ≤ ext.length ∧ ext.length ≤ 3

/-- The extension that goes into the 8.3 form. -/
def keptExtension (filename : Bytes) : Bytes :=
  match extension filename with
  | some ext => if ext.length ≤ 3 then ext else []
  | none => []

theorem length_keptExtension (filename : Bytes) : (keptExtension filename).length ≤ 3 := by
  unfold keptExtension
  split
  · split
    · assumption
    · exact Nat.zero_le 3
  · exact Nat.zero_le 3

theorem takeWhile_append_spaces (bs : Bytes) (n : Nat) :
    (bs ++ List.replicate n space).takeWhile (· != space) = bs.takeWhile (· != space) := by
  induction bs with
  | nil =>
    rw [List.nil_append]
    cases n with
    | zero => rfl
    | succ n => rw [List.replicate_succ, List.takeWhile_cons_of_neg (by simp), List.takeWhile_nil]
  | cons b bs ih =>
    rw [List.cons_append]
    by_cases hb : b = space
    · rw [List.takeWhile_cons_of_neg (by simp [hb]), List.takeWhile_cons_of_neg (by simp [hb])]
    · rw [List.takeWhile_cons_of_pos (by simp [hb]), List.takeWhile_cons_of_pos (by simp [hb]), ih]

theorem length_padded {bs : Bytes} {n : Nat} (h : bs.length ≤ n) : (padded bs n).length = n := by
  rw [padded, List.length_append, List.length_replicate]
  omega

theorem length_fatName (filename : Bytes) : (fatName filename).length = 11 := by
  have hform : fatName filename = padded ((filename.takeWhile (· != dot)).take 8) 8 ++
      padded (keptExtension filename) 3 := rfl
  rw [hform, List.length_append, length_padded (List.length_take_le 8 _),
    length_padded (length_keptExtension filename)]

theorem normalName_append {name ext : Bytes} (hname : name.length = 8) (hext : ext.length = 3) :
    normalName (name ++ ext) = name.takeWhile (· != space) ++
      if byteAt ext 0 ≠ space then dot :: ext.takeWhile (· != space) else [] := by
  have hbyte : byteAt (name ++ ext) 8 = byteAt ext 0 := by
    rw [byteAt, byteAt, List.getD_eq_getElem?_getD, List.getD_eq_getElem?_getD,
      List.getElem?_append_right (by omega), hname]
  rw [normalName, hbyte, List.take_left' hname, List.drop_left' hname, List.take_of_length_le hext.le]

theorem takeWhile_space_eq_self {bs : Bytes} (h : space ∉ bs) :
    bs.takeWhile (· != space) = bs := by
  rw [List.takeWhile_eq_self_iff]
  exact fun b hb => bne_iff_ne.mpr fun heq => h (heq ▸ hb)

/-- A name is what stands before the first dot, and the rest. -/
theorem eq_takeWhile_dot (filename : Bytes) :
    filename = filename.takeWhile (· != dot) ++
      match extension filename with
      | some ext => dot :: ext
      | none => [] := by
  have hsplit := (List.takeWhile_append_dropWhile (p := (· != dot)) (l := filename)).symm
  unfold extension
  cases hdrop : filename.dropWhile (· != dot) with
  | nil =>
    rw [hdrop] at hsplit
    exact hsplit
  | cons b ext =>
    have hb : b = dot := by
      have hne := List.dropWhile_get_zero_not (p := (· != dot)) filename (by simp [hdrop])
      simpa [hdrop] using hne
    rw [hdrop, hb] at hsplit
    exact hsplit

/-- What the extension is decoded to, with its dot. -/
def shownExtension (kept : Bytes) : Bytes :=
  match kept with
  | [] => []
  | b :: ext => if b = space then [] else dot :: b :: ext.takeWhile (· != space)

/-- Decoding the 8.3 form of a name. -/
theorem normalName_fatName (filename : Bytes) :
    normalName (fatName filename) =
      ((filename.takeWhile (· != dot)).take 8).takeWhile (· != space) ++
        shownExtension (keptExtension filename) := by
  have hform : fatName filename = padded ((filename.takeWhile (· != dot)).take 8) 8 ++
      padded (keptExtension filename) 3 := rfl
  rw [hform, normalName_append (length_padded (List.length_take_le 8 _))
    (length_padded (length_keptExtension filename)), padded, padded, takeWhile_append_spaces,
    takeWhile_append_spaces]
  cases keptExtension filename with
  | nil => rfl
  | cons b ext =>
    show _ ++ (if b ≠ space then _ else _) = _
    by_cases hb : b = space
    · simp [shownExtension, hb]
    · simp [shownExtension, hb]

theorem space_notMem_takeWhile (bs : Bytes) : space ∉ bs.takeWhile (· != space) := by
  intro h
  have hne := List.mem_takeWhile_imp h
  simp at hne

/-- Nothing in a decoded name is a space. -/
theorem space_notMem_shownExtension (kept : Bytes) : space ∉ shownExtension kept := by
  unfold shownExtension
  split
  · exact List.not_mem_nil
  · split
    · exact List.not_mem_nil
    · next hb =>
      rw [List.mem_cons, List.mem_cons, not_or, not_or]
      exact ⟨by decide, fun heq => hb heq.symm, space_notMem_takeWhile _⟩

theorem takeWhile_shownExtension (kept : Bytes) :
    (shownExtension kept).takeWhile (· != dot) = [] := by
  unfold shownExtension
  split
  · rfl
  · split
    · rfl
    · rfl

section Decoded

variable {filename : Bytes}

theorem space_notMem_of_decoded (h : normalName (fatName filename) = filename) :
    space ∉ filename := by
  rw [← h, normalName_fatName, List.mem_append, not_or]
  exact ⟨space_notMem_takeWhile _, space_notMem_shownExtension _⟩

/-- A name that is decoded as it was keeps what stands before its first dot. -/
theorem base_of_decoded (h : normalName (fatName filename) = filename) :
    ((filename.takeWhile (· != dot)).take 8).takeWhile (· != space) =
      filename.takeWhile (· != dot) := by
  have hnodot : ∀ b ∈ ((filename.takeWhile (· != dot)).take 8).takeWhile (· != space),
      (b != dot) = true := by
    intro b hb
    have hb8 := (List.takeWhile_sublist _).subset hb
    have hbase := (List.take_sublist 8 _).subset hb8
    exact List.mem_takeWhile_imp (p := (· != dot)) hbase
  -- both sides up to the first dot
  have hcut := congrArg (List.takeWhile (· != dot)) h
  rwa [normalName_fatName, List.takeWhile_append_of_pos hnodot, takeWhile_shownExtension,
    List.append_nil] at hcut

/-- An extension that is decoded as it was has one to three characters. -/
theorem extension_of_decoded (h : normalName (fatName filename) = filename) {ext : Bytes}
    (hext : extension filename = some ext) : 1 ≤ ext.length ∧ ext.length ≤ 3 := by
  have hsplit := eq_takeWhile_dot filename
  have hbase := base_of_decoded h
  rw [hext] at hsplit
  rw [normalName_fatName, hbase] at h
  have hrest : shownExtension (keptExtension filename) = dot :: ext :=
    List.append_cancel_left (h.trans hsplit)
  have hkept : keptExtension filename = if ext.length ≤ 3 then ext else [] := by
    rw [keptExtension, hext]
  rw [hkept] at hrest
  by_cases hle : ext.length ≤ 3
  · refine ⟨Nat.one_le_iff_ne_zero.mpr fun h0 => ?_, hle⟩
    rw [if_pos hle, List.length_eq_zero_iff.mp h0] at hrest
    cases hrest
  · rw [if_neg hle] at hrest
    cases hrest

theorem decoded_of_fits (h : Fits filename) : normalName (fatName filename) = filename := by
  obtain ⟨hspace, hlen, hext⟩ := h
  have hsplit := eq_takeWhile_dot filename
  have hbase : space ∉ filename.takeWhile (· != dot) :=
    fun hmem => hspace ((List.takeWhile_sublist _).subset hmem)
  rw [normalName_fatName, List.take_of_length_le hlen, takeWhile_space_eq_self hbase]
  unfold keptExtension
  cases hex : extension filename with
  | none =>
    rw [hex] at hsplit
    exact hsplit.symm
  | some ext =>
    rw [hex] at hsplit
    obtain ⟨hpos, hle⟩ := hext ext hex
    obtain ⟨b, ext, rfl⟩ := List.exists_cons_of_length_pos hpos
    have hmem : ∀ x ∈ b :: ext, x ≠ space := by
      rintro x hx rfl
      exact hspace (hsplit ▸ List.mem_append_right _ (List.mem_cons_of_mem dot hx))
    dsimp only
    rw [if_pos hle, shownExtension, if_neg (hmem b List.mem_cons_self),
      takeWhile_space_eq_self fun h => hmem space (List.mem_cons_of_mem b h) rfl]
    exact hsplit.symm

end Decoded

/-- **The 8.3 form of a name decodes to the name exactly when it fits.** -/
theorem normalName_fatName_iff (filename : Bytes) :
    normalName (fatName filename) = filename ↔ Fits filename := by
  refine ⟨fun h => ⟨space_notMem_of_decoded h, ?_, fun ext => extension_of_decoded h⟩,
    decoded_of_fits⟩
  rw [← base_of_decoded h]
  exact Nat.le_trans (List.takeWhile_sublist _).length_le (List.length_take_le 8 _)

/-! ## Main results -/

/-- The entry with this index in the listing, the first there with this name. -/
def FirstListed (fs : Fat32Fs) (fuel : Nat) (inode index : UInt32) (name : Bytes) (e : DirEntry) :
    Prop :=
  readdirEntry fs fuel inode index = some (.ok (some e)) ∧ e.name = name ∧
    ∀ index' < index, ∀ e', readdirEntry fs fuel inode index' = some (.ok (some e')) →
      e'.name ≠ name

/-- The first element with a property, by its index. -/
theorem find?_eq_some_iff_index {l : List DirEntry} {p : DirEntry → Bool} {e : DirEntry}
    (hlen : l.length ≤ 2 ^ 32) :
    l.find? p = some e ↔ ∃ index : UInt32, l[index.toNat]? = some e ∧ p e = true ∧
      ∀ index' < index, ∀ e', l[index'.toNat]? = some e' → p e' = false := by
  rw [List.find?_eq_some_iff_getElem]
  constructor
  · rintro ⟨hp, i, hi, rfl, hfirst⟩
    have hnat : (UInt32.ofNat i).toNat = i := UInt32.toNat_ofNat_of_lt' (by
      show i < 2 ^ 32
      omega)
    refine ⟨UInt32.ofNat i, by rw [hnat, List.getElem?_eq_getElem hi], hp, fun j hj e' he' => ?_⟩
    rw [UInt32.lt_iff_toNat_lt, hnat] at hj
    rw [List.getElem?_eq_getElem (by omega), Option.some_inj] at he'
    have hne := hfirst j.toNat hj
    rw [he'] at hne
    simpa using hne
  · rintro ⟨index, hget, hp, hfirst⟩
    obtain ⟨hi, hget⟩ := List.getElem?_eq_some_iff.mp hget
    refine ⟨hp, index.toNat, hi, hget, fun j hj => ?_⟩
    have hnat : (UInt32.ofNat j).toNat = j := UInt32.toNat_ofNat_of_lt' (by
      show j < 2 ^ 32
      omega)
    have hlt : UInt32.ofNat j < index := by
      rw [UInt32.lt_iff_toNat_lt, hnat]
      exact hj
    rw [hfirst (UInt32.ofNat j) hlt _ (by rw [hnat, List.getElem?_eq_getElem])]
    rfl

/-- **The search selects an entry if and only if it is the first in the listing with the 8.3 form of
the filename**, where a cluster has one sector and the first entry with that form is shown at all. The
listing gives it the filename if that fits. -/
theorem findFile_iff_listed {fs : Fat32Fs} (hone : fs.sectorsPerCluster = 1)
    {css : List (List DirEntry)} (hdir : Directory fs fs.rootCluster css) (filename : Bytes)
    (hshown : FirstShown css.flatten (fatName filename))
    (hcount : (listed css.flatten).length ≤ 2 ^ 32) {fuel : Nat} (hfuel : css.length < fuel) :
    (∃ r, fat32FindFile fs fuel filename = some (.ok r)) ∧
    (∀ e, fat32FindFile fs fuel filename = some (.ok (some e)) ↔
      ∃ index, FirstListed fs fuel fs.rootCluster index (fatName filename) e) ∧
    (∀ index e, FirstListed fs fuel fs.rootCluster index (fatName filename) e →
      fat32Readdir fs fuel fs.rootCluster index =
        some (.ok (some ⟨normalName (fatName filename), e.firstCluster⟩))) ∧
    (normalName (fatName filename) = filename ↔ Fits filename) := by
  have hfits : fs.sectorsPerCluster ≤ 1 := hone ▸ UInt8.le_refl 1
  refine ⟨?_, ?_, ?_, normalName_fatName_iff filename⟩
  · unfold fat32FindFile
    split
    · exact ⟨none, rfl⟩
    · exact ⟨_, searchLoop_eq hfits _ hdir fuel hfuel⟩
  · intro e
    unfold fat32FindFile FirstListed readdirEntry
    by_cases hmounted : fs.mounted = false
    · simp [hmounted]
    · simp only [if_neg hmounted, searchLoop_eq hfits _ hdir fuel hfuel,
        readdirLoop_eq hfits _ hdir fuel hfuel 0 (Nat.zero_le _), find?_listed hshown, Option.some_inj,
        Except.ok.injEq]
      rw [find?_eq_some_iff_index hcount]
      simp
  · rintro index e ⟨hlist, hname, -⟩
    unfold fat32Readdir
    rw [hlist, ← hname]
    rfl

/-! ## A directory with one file -/

/-- The sector of a directory that holds one file. -/
def fileSector (name : Bytes) : Bytes :=
  name ++ [0x20] ++ List.replicate 14 0 ++ [3, 0, 5, 0, 0, 0] ++ List.replicate 480 0

theorem length_fileSector {name : Bytes} (h : name.length = 11) : (fileSector name).length = 512 := by
  unfold fileSector
  simp only [List.length_append, List.length_replicate, h]
  rfl

def oneFileFs (name : Bytes) : Fat32Fs where
  rootCluster := 2
  sectorsPerCluster := 1
  fatTable := [0x0FFFFFF8, 0x0FFFFFFF, 0x0FFFFFFF, 0x0FFFFFFF]
  dataStart := 34
  clustersCount := 2
  mounted := true
  ataReadSectors := fun lba _ => if lba = 34 then some (fileSector name) else some []

theorem directory_oneFileFs {name : Bytes} (hname : name.length = 11) :
    Directory (oneFileFs name) 2 [clusterEntries (oneFileFs name) (fileSector name)] := by
  have haccepted : Accepted (oneFileFs name) 2 := by
    refine ⟨rfl, by decide, ?_⟩
    show (2 : UInt32) < 2 + 2
    decide
  exact .step (by decide) ⟨haccepted, rfl, length_fileSector hname⟩ rfl (.stop (by decide))

/-- `README.TXT`. -/
def readme : Bytes := [0x52, 0x45, 0x41, 0x44, 0x4D, 0x45, 0x2E, 0x54, 0x58, 0x54]

theorem firstShown_of_head {e : DirEntry} {name : Bytes} (hname : e.name = name)
    (h0 : e.first ≠ 0x00) (hk : e.Kept) (es : List DirEntry) : FirstShown (e :: es) name := by
  intro pre e' post heq hpre he'
  cases pre with
  | nil =>
    obtain ⟨rfl, -⟩ := List.cons.inj heq
    exact ⟨by simp, h0, hk⟩
  | cons x pre =>
    obtain ⟨rfl, -⟩ := List.cons.inj heq
    exact absurd hname (hpre e List.mem_cons_self)

theorem readme_found :
    fat32FindFile (oneFileFs (fatName readme)) 2 readme =
        some (.ok (some (entryAt (fileSector (fatName readme)) 0))) ∧
      ∃ index, FirstListed (oneFileFs (fatName readme)) 2 2 index (fatName readme)
        (entryAt (fileSector (fatName readme)) 0) := by
  have hfound : fat32FindFile (oneFileFs (fatName readme)) 2 readme =
      some (.ok (some (entryAt (fileSector (fatName readme)) 0))) := by decide +kernel
  have hshown : FirstShown
      [clusterEntries (oneFileFs (fatName readme)) (fileSector (fatName readme))].flatten
      (fatName readme) :=
    firstShown_of_head (e := entryAt (fileSector (fatName readme)) 0) (by decide) (by decide)
      (by decide) _
  obtain ⟨-, hiff, -⟩ := findFile_iff_listed rfl (directory_oneFileFs (length_fatName readme)) readme
    hshown (by decide) (by decide : _ < 2)
  exact ⟨hfound, (hiff _).mp hfound⟩

/-- `LONGNAME1`. -/
def longName : Bytes := [0x4C, 0x4F, 0x4E, 0x47, 0x4E, 0x41, 0x4D, 0x45, 0x31]

/-- The search for `LONGNAME1` selects `LONGNAME`, which is listed under its own name only. -/
theorem long_name_selected :
    (∃ e, fat32FindFile (oneFileFs (fatName longName)) 2 longName = some (.ok (some e))) ∧
      ∀ index, ∃ r, fat32Readdir (oneFileFs (fatName longName)) 2 2 index = some (.ok r) ∧
        ∀ d, r = some d → d.name ≠ longName := by
  refine ⟨⟨entryAt (fileSector (fatName longName)) 0, by decide +kernel⟩, fun index => ?_⟩
  have hlisted : listed [clusterEntries (oneFileFs (fatName longName))
      (fileSector (fatName longName))].flatten = [entryAt (fileSector (fatName longName)) 0] := by
    decide
  have hread := readdirLoop_eq (by decide) index
    (directory_oneFileFs (length_fatName longName)) 2 (by decide) 0 (Nat.zero_le _)
  have hreaddir : fat32Readdir (oneFileFs (fatName longName)) 2 2 index = some (.ok
      (([entryAt (fileSector (fatName longName)) 0] : List DirEntry)[index.toNat]?.map
        DirEntry.toDirent)) := by
    unfold fat32Readdir readdirEntry
    rw [if_neg (by decide), hread, hlisted]
    rfl
  refine ⟨_, hreaddir, fun d hd => ?_⟩
  obtain ⟨e, he, rfl⟩ := Option.map_eq_some_iff.mp hd
  obtain rfl := List.mem_singleton.mp (List.mem_of_getElem? he)
  decide

end MayaOs.Fs
