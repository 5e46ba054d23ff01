import MayaOs.Drivers.AtaPio

/-!
# Where the disk is accessed

The registers hold 28 bits of `lba`. A call for sectors that the drive has at these 28 bits transfers
them in order, whatever `lba` was; any other call waits for ever.

* `ataReadLoop_offer`, `ataWriteLoop_await` — the loops over the sectors
* `pioReadSectors_eq`, `pioWriteSectors_eq` — what the calls do
* `pioReadSectors_refines` — the registers do what `ataReadSectors` says
* `ata_access_iff` — when the sectors are those that were asked for
-/

namespace MayaOs.Drivers

open MayaOs.Lib

/-! ## Writing sectors -/

theorem Disk.set_sector {d : Disk} {bytes : Bytes} (h : bytes.length = 512) (n m : Nat) :
    (d.set n bytes).sector m = if m = n then bytes else d.sector m := by
  unfold Disk.set
  rw [dif_pos h]
  exact Function.update_apply d.sector n bytes m

/-- `n` sectors of `data`, from `lba` on. -/
def Disk.setSectors (d : Disk) (lba : Nat) : Nat → Bytes → Disk
  | 0, _ => d
  | n + 1, data => (d.set lba (data.take 512)).setSectors (lba + 1) n (data.drop 512)

theorem Disk.setSectors_outside {m : Nat} (n : Nat) :
    ∀ {d : Disk} {lba : Nat} {data : Bytes}, 512 * n ≤ data.length → (m < lba ∨ lba + n ≤ m) →
      (d.setSectors lba n data).sector m = d.sector m := by
  induction n with
  | zero => intro d lba data _ _; rfl
  | succ n ih =>
    intro d lba data hlen hm
    have hsector : (data.take 512).length = 512 := by
      rw [List.length_take]
      omega
    rw [Disk.setSectors, ih (by rw [List.length_drop]; omega) (by omega), Disk.set_sector hsector,
      if_neg (by omega)]

theorem Disk.setSectors_sector (n : Nat) :
    ∀ {d : Disk} {lba i : Nat} {data : Bytes}, 512 * n ≤ data.length → i < n →
      (d.setSectors lba n data).sector (lba + i) = (data.drop (512 * i)).take 512 := by
  induction n with
  | zero => intro d lba i data _ hi; omega
  | succ n ih =>
    intro d lba i data hlen hi
    have hsector : (data.take 512).length = 512 := by
      rw [List.length_take]
      omega
    have hrest : 512 * n ≤ (data.drop 512).length := by
      rw [List.length_drop]
      omega
    rw [Disk.setSectors]
    cases i with
    | zero =>
      rw [Disk.setSectors_outside n hrest (Or.inl (by omega)), Disk.set_sector hsector]
      exact if_pos rfl
    | succ i =>
      rw [show lba + (i + 1) = lba + 1 + i by omega, ih hrest (by omega), List.drop_drop]
      congr 2
      omega

/-! ## Waiting -/

variable {c : AtaChannel}

theorem AtaChannel.status_busy (h : c.busy ≠ 0) : c.status &&& ataStatusBsy ≠ 0 := by
  unfold AtaChannel.status
  rw [if_pos h]
  decide

theorem ataWaitBsy_eq (c : AtaChannel) : ataWaitBsy c = { c with busy := 0 } := by
  induction c using ataWaitBsy.induct with
  | case1 c hstatus ih =>
    rw [ataWaitBsy, dif_pos hstatus, ih]
    rfl
  | case2 c hstatus =>
    have hbusy : c.busy = 0 := by
      by_contra hne
      exact hstatus (AtaChannel.status_busy hne)
    rw [ataWaitBsy, dif_neg hstatus]
    unfold AtaChannel.polled
    rw [hbusy]

/-- Data are transferred. -/
def AtaTransfer.Active : AtaTransfer → Prop
  | .idle => False
  | .failed => False
  | .toHost _ => True
  | .fromHost .. => True

theorem ataWaitDrq_active (hbusy : c.busy = 0) (h : c.transfer.Active) : ataWaitDrq c = .ok c := by
  have hstatus : c.status &&& ataStatusDrq ≠ 0 := by
    unfold AtaChannel.status
    rw [if_neg (not_not_intro hbusy)]
    split
    · next htransfer => rw [htransfer] at h; exact h.elim
    · next htransfer => rw [htransfer] at h; exact h.elim
    · decide
    · decide
  rw [ataWaitDrq, if_pos hstatus]
  unfold AtaChannel.polled
  rw [hbusy, Nat.zero_sub, ← hbusy]

/-- **A command that failed is waited for without end.** -/
theorem ataWaitDrq_failed (hbusy : c.busy = 0) (h : c.transfer = .failed) :
    ataWaitDrq c = .error .hang := by
  have hstatus : c.status &&& ataStatusDrq = 0 := by
    unfold AtaChannel.status
    rw [if_neg (not_not_intro hbusy), h]
    decide
  rw [ataWaitDrq, if_neg (not_not_intro hstatus), if_pos hbusy]

theorem ataWait_offer (c : AtaChannel) {data : Bytes} (h : data ≠ []) :
    ataWaitDrq (ataWaitBsy (c.offer data)) = .ok { c with transfer := .toHost data, busy := 0 } := by
  rw [ataWaitBsy_eq]
  unfold AtaChannel.offer
  rw [if_neg h]
  exact ataWaitDrq_active rfl trivial

theorem ataWait_await (c : AtaChannel) (lba n : Nat) :
    ataWaitDrq (ataWaitBsy (c.await lba (n + 1))) =
      .ok { c with transfer := .fromHost lba (n + 1) [], busy := 0 } := by
  rw [ataWaitBsy_eq]
  exact ataWaitDrq_active rfl trivial

/-! ## The loops -/

theorem AtaChannel.inw_toHost {a b : UInt8} {rest : Bytes} (hbusy : c.busy = 0)
    (h : c.transfer = .toHost (a :: b :: rest)) : c.inw = (u16 a b, c.offer rest) := by
  unfold AtaChannel.inw
  rw [if_neg (not_not_intro hbusy), h]

/-- Within a sector. -/
theorem AtaChannel.offer_within {data : Bytes} (h : data.length % 512 ≠ 0) :
    c.offer data = { c with transfer := .toHost data } := by
  unfold AtaChannel.offer
  rw [if_neg (by rintro rfl; exact h rfl), if_neg h]

/-- What was offered before is forgotten. -/
theorem AtaChannel.offer_toHost (c : AtaChannel) (data rest : Bytes) :
    ({ c with transfer := .toHost data }.offer rest) = c.offer rest := by
  unfold AtaChannel.offer
  split
  · rfl
  · rfl

/-- **A sector is fetched word by word.** -/
theorem ataReadWords_toHost (n : Nat) :
    ∀ (c : AtaChannel) (data rest pre x : Bytes), c.busy = 0 →
      c.transfer = .toHost (data ++ rest) → data.length = 2 * (n + 1) → n < 256 →
      rest.length % 512 = 0 → data.length ≤ x.length →
      ataReadWords (n + 1) c (pre ++ x) pre.length =
        .ok (c.offer rest, pre ++ data ++ x.drop data.length) := by
  induction n with
  | zero =>
    intro c data rest pre x hbusy htransfer hdata _ _ hx
    obtain ⟨a, b, rfl⟩ := List.length_eq_two.mp hdata
    rw [ataReadWords, AtaChannel.inw_toHost hbusy htransfer, le16_u16, write_append rfl hx]
    rfl
  | succ n ih =>
    intro c data rest pre x hbusy htransfer hdata hn hrest hx
    match data, hdata with
    | a :: b :: data, hdata =>
      simp only [List.length_cons] at hdata hx
      have hwithin : (data ++ rest).length % 512 ≠ 0 := by
        rw [List.length_append]
        omega
      have hinw : c.inw = (u16 a b, c.offer (data ++ rest)) :=
        AtaChannel.inw_toHost hbusy htransfer
      have hwrite : write (pre ++ x) pre.length (le16 (u16 a b)) =
          .ok (pre ++ [a, b] ++ x.drop 2) := by
        rw [le16_u16]
        exact write_append rfl (by simp only [List.length_cons, List.length_nil]; omega)
      have hnext : pre.length + 2 = (pre ++ [a, b]).length := by
        rw [List.length_append]
        rfl
      -- what is left of the sector
      have hrun := ih { c with transfer := .toHost (data ++ rest) } data rest (pre ++ [a, b])
        (x.drop 2) hbusy rfl (by omega) (by omega) hrest (by rw [List.length_drop]; omega)
      rw [AtaChannel.offer_toHost c _ _, List.drop_drop] at hrun
      rw [ataReadWords, hinw, hwrite, AtaChannel.offer_within hwithin]
      show ataReadWords (n + 1) _ _ (pre.length + 2) = _
      rw [hnext]
      refine hrun.trans ?_
      rw [List.append_assoc pre, List.length_cons, List.length_cons, Nat.add_comm 2 data.length]
      rfl

/-- **The loop of `ata_read_sectors` puts what is offered into the buffer.** -/
theorem ataReadLoop_offer (n : Nat) :
    ∀ (c : AtaChannel) (data pre x : Bytes), data.length = 512 * n → 512 * n ≤ x.length →
      ataReadLoop n (c.offer data) (pre ++ x) pre.length =
        .ok ({ c with transfer := .idle, busy := 0 }, pre ++ data ++ x.drop (512 * n)) := by
  induction n with
  | zero =>
    intro c data pre x hdata _
    have hnil : data = [] := List.eq_nil_of_length_eq_zero hdata
    subst hnil
    rw [List.append_nil, Nat.mul_zero, List.drop_zero]
    rfl
  | succ n ih =>
    intro c data pre x hdata hx
    have hsector : (data.take 512).length = 512 := by
      rw [List.length_take]
      omega
    have hrest : (data.drop 512).length = 512 * n := by
      rw [List.length_drop]
      omega
    have hne : data ≠ [] := by
      rintro rfl
      simp only [List.length_nil] at hdata
      omega
    have hwords := ataReadWords_toHost 255 { c with transfer := .toHost data, busy := 0 }
      (data.take 512) (data.drop 512) pre x rfl (by rw [List.take_append_drop]) hsector (by omega)
      (by omega) (by omega)
    have hloop := ih { c with transfer := .toHost data, busy := 0 } (data.drop 512)
      (pre ++ data.take 512) (x.drop 512) hrest (by rw [List.length_drop]; omega)
    rw [hsector] at hwords
    have hnext : pre.length + 512 = (pre ++ data.take 512).length := by
      rw [List.length_append, hsector]
    rw [ataReadLoop, ataWait_offer c hne]
    show (ataReadWords 256 _ _ _ >>= _) = _
    rw [hwords]
    show ataReadLoop n _ _ (pre.length + 512) = _
    rw [hnext, hloop, List.append_assoc pre, List.take_append_drop, List.drop_drop,
      Nat.mul_succ, Nat.add_comm 512]

theorem AtaChannel.outw_fromHost {lba left : Nat} {data : Bytes} (hbusy : c.busy = 0)
    (h : c.transfer = .fromHost lba left data) (value : UInt16) :
    c.outw value =
      if (data ++ le16 value).length = 512 then
        (c.store lba (data ++ le16 value)).await (lba + 1) (left - 1)
      else { c with transfer := .fromHost lba left (data ++ le16 value) } := by
  unfold AtaChannel.outw
  rw [if_neg (not_not_intro hbusy), h]

/-- What was awaited before is forgotten. -/
theorem AtaChannel.await_store (c : AtaChannel) (t : AtaTransfer) (lba next left : Nat)
    (data : Bytes) :
    ({ c with transfer := t }.store lba data).await next left =
      (c.store lba data).await next left := by
  unfold AtaChannel.await
  split <;> rfl

/-- **A sector is stored word by word.** -/
theorem ataWriteWords_fromHost (n : Nat) :
    ∀ (c : AtaChannel) (lba left : Nat) (data buffer : Bytes) (offset : Nat), c.busy = 0 →
      c.transfer = .fromHost lba left data → data.length + 2 * (n + 1) = 512 →
      offset + 2 * (n + 1) ≤ buffer.length →
      ataWriteWords (n + 1) c buffer offset =
        .ok ((c.store lba (data ++ (buffer.drop offset).take (2 * (n + 1)))).await (lba + 1)
          (left - 1)) := by
  induction n with
  | zero =>
    intro c lba left data buffer offset hbusy htransfer hdata hoffset
    have htwo : (buffer.drop offset).take (2 * (0 + 1)) = le16 (u16At buffer offset) := by
      rw [u16At, le16_u16, drop_eq_two_cons (by omega)]
      rfl
    rw [ataWriteWords, read16_eq (by omega), htwo]
    show Except.ok (c.outw _) = _
    rw [AtaChannel.outw_fromHost hbusy htransfer, if_pos]
    rw [List.length_append]
    exact hdata
  | succ n ih =>
    intro c lba left data buffer offset hbusy htransfer hdata hoffset
    have hcut : (buffer.drop offset).take (2 * (n + 1 + 1)) =
        le16 (u16At buffer offset) ++ (buffer.drop (offset + 2)).take (2 * (n + 1)) := by
      rw [u16At, le16_u16, drop_eq_two_cons (by omega)]
      rfl
    have hlen : (data ++ le16 (u16At buffer offset)).length = data.length + 2 := by
      rw [List.length_append]
      rfl
    have hrun := ih { c with transfer := .fromHost lba left (data ++ le16 (u16At buffer offset)) }
      lba left _ buffer (offset + 2) hbusy rfl (by omega) (by omega)
    rw [AtaChannel.await_store] at hrun
    rw [ataWriteWords, read16_eq (by omega), hcut, ← List.append_assoc]
    show ataWriteWords (n + 1) (c.outw _) buffer (offset + 2) = _
    rw [AtaChannel.outw_fromHost hbusy htransfer, if_neg (by omega)]
    exact hrun

/-- `n` sectors from `lba` on of the drive that is selected. -/
def AtaChannel.setSectors (c : AtaChannel) (lba n : Nat) (data : Bytes) : AtaChannel :=
  let drive := c.drives c.slave
  { c with
    drives :=
      Function.update c.drives c.slave { drive with disk := drive.disk.setSectors lba n data } }

/-- Sector after sector. -/
theorem AtaChannel.setSectors_store (c : AtaChannel) (lba n : Nat) (data : Bytes) :
    (c.store lba (data.take 512)).setSectors (lba + 1) n (data.drop 512) =
      c.setSectors lba (n + 1) data := by
  simp only [AtaChannel.setSectors, AtaChannel.store, AtaChannel.slave, Function.update_self,
    Function.update_idem, Disk.setSectors]

/-- **The loop of `ata_write_sectors` stores what is in the buffer.** -/
theorem ataWriteLoop_await (n : Nat) :
    ∀ (c : AtaChannel) (lba : Nat) (buffer : Bytes) (offset : Nat),
      offset + 512 * n ≤ buffer.length →
      ataWriteLoop n (c.await lba n) buffer offset =
        .ok { c.setSectors lba n (buffer.drop offset) with transfer := .idle, busy := 0 } := by
  induction n with
  | zero =>
    intro c lba buffer offset _
    have hsame : c.setSectors lba 0 (buffer.drop offset) = c := by
      simp only [AtaChannel.setSectors, Disk.setSectors, Function.update_eq_self]
    rw [hsame]
    rfl
  | succ n ih =>
    intro c lba buffer offset hoffset
    have hroom : offset + 512 ≤ buffer.length := by
      rw [Nat.mul_succ] at hoffset
      exact Nat.le_trans (Nat.add_le_add_left (Nat.le_add_left _ _) _) hoffset
    have hwords := ataWriteWords_fromHost 255
      { c with transfer := .fromHost lba (n + 1) [], busy := 0 } lba (n + 1) [] buffer offset rfl rfl
      rfl hroom
    rw [ataWriteLoop, ataWait_await]
    show (ataWriteWords 256 _ _ _ >>= _) = _
    rw [hwords]
    show ataWriteLoop n _ buffer (offset + 512) = _
    rw [Nat.add_sub_cancel, ih _ _ buffer (offset + 512) (by omega), List.nil_append,
      ← List.drop_drop, AtaChannel.setSectors_store]
    rfl

/-! ## The registers -/

section Select

variable (s : AtaPioState) (c : AtaChannel) (lba : UInt32) (count : UInt8)

theorem device_bits (slave : Bool) : ∀ k < 16,
    let device := (if slave then 0xF0 else 0xE0) ||| UInt8.ofNat k
    (device &&& 0x10 != 0) = slave ∧ device &&& 0x40 ≠ 0 ∧ device.toNat % 16 = k := by
  cases slave <;> decide

theorem ataSelect_hddevsel :
    (ataSelect s c lba count).hddevsel =
      (if s.isSlave then 0xF0 else 0xE0) ||| UInt8.ofNat (lba.toNat / 2 ^ 24 % 16) := by
  have hlow : ((lba >>> 24) &&& 0x0F).toUInt8 = UInt8.ofNat (lba.toNat / 2 ^ 24 % 16) := by
    refine UInt8.toNat_inj.mp ?_
    rw [UInt32.toNat_toUInt8, UInt32.toNat_and, UInt32.toNat_shiftRight, UInt8.toNat_ofNat']
    show (lba.toNat >>> 24 &&& 2 ^ 4 - 1) % 256 = _
    rw [Nat.and_two_pow_sub_one_eq_mod, Nat.shiftRight_eq_div_pow]
  rw [← hlow]
  rfl

theorem ataSelect_slave : (ataSelect s c lba count).slave = s.isSlave := by
  unfold AtaChannel.slave
  rw [ataSelect_hddevsel]
  exact (device_bits s.isSlave _ (Nat.mod_lt _ (by omega))).1

theorem toNat_low (x : UInt32) : (x &&& 0xFF).toUInt8.toNat = x.toNat % 256 := by
  rw [UInt32.toNat_toUInt8, UInt32.toNat_and]
  show (x.toNat &&& 2 ^ 8 - 1) % 256 = _
  rw [Nat.and_two_pow_sub_one_eq_mod, Nat.mod_mod]

/-- **The four registers hold the lower 28 bits.** -/
theorem ataSelect_lba : (ataSelect s c lba count).lba = lba.toNat % 2 ^ 28 := by
  have hdevice : (ataSelect s c lba count).hddevsel.toNat % 16 = lba.toNat / 2 ^ 24 % 16 := by
    rw [ataSelect_hddevsel]
    exact (device_bits s.isSlave _ (Nat.mod_lt _ (by omega))).2.2
  have h0 : (ataSelect s c lba count).lba0.toNat = lba.toNat % 256 := toNat_low lba
  have h1 : (ataSelect s c lba count).lba1.toNat = lba.toNat / 2 ^ 8 % 256 := by
    refine (toNat_low (lba >>> 8)).trans ?_
    rw [UInt32.toNat_shiftRight]
    exact congrArg (· % 256) (Nat.shiftRight_eq_div_pow lba.toNat 8)
  have h2 : (ataSelect s c lba count).lba2.toNat = lba.toNat / 2 ^ 16 % 256 := by
    refine (toNat_low (lba >>> 16)).trans ?_
    rw [UInt32.toNat_shiftRight]
    exact congrArg (· % 256) (Nat.shiftRight_eq_div_pow lba.toNat 16)
  unfold AtaChannel.lba
  rw [hdevice, h0, h1, h2]
  omega

variable {count} in
theorem ataSelect_count (h : count ≠ 0) : (ataSelect s c lba count).count = count.toNat :=
  if_neg h

/-- The drive has the sectors at the lower 28 bits. -/
def AtaChannel.Has (c : AtaChannel) (slave : Bool) (lba : UInt32) (count : UInt8) : Prop :=
  lba.toNat % 2 ^ 28 + count.toNat ≤ (c.drives slave).capacity

instance (slave : Bool) : Decidable (c.Has slave lba count) := inferInstanceAs (Decidable (_ ≤ _))

variable {count} in
theorem ataSelect_served (h : count ≠ 0) :
    (ataSelect s c lba count).Served ↔ c.Has s.isSlave lba count := by
  have hmode : (ataSelect s c lba count).hddevsel &&& 0x40 ≠ 0 := by
    rw [ataSelect_hddevsel]
    exact (device_bits s.isSlave _ (Nat.mod_lt _ (by omega))).2.1
  unfold AtaChannel.Served AtaChannel.Has
  rw [ataSelect_lba, ataSelect_count s c lba h, ataSelect_slave]
  exact and_iff_right hmode

/-- The channel once the command is in the registers. -/
def ataIssued (write : Bool) : AtaChannel :=
  { ataSelect s c lba count with
    commands :=
      { slave := s.isSlave, write := write, lba := lba.toNat % 2 ^ 28, count := count.toNat } ::
        c.commands }

variable {count} in
theorem execute_read (hcount : count ≠ 0) (hhas : c.Has s.isSlave lba count) :
    (ataSelect s c lba count).outb .command ataCmdReadPio =
      (ataIssued s c lba count false).offer
        ((c.drives s.isSlave).disk.sectors (lba.toNat % 2 ^ 28) count.toNat) := by
  show (ataSelect s c lba count).execute ataCmdReadPio = _
  unfold AtaChannel.execute
  rw [if_pos ⟨rfl, (ataSelect_served s c lba hcount).mpr hhas⟩, ataSelect_lba,
    ataSelect_count s c lba hcount, ataSelect_slave]
  rfl

variable {count} in
theorem execute_write (hcount : count ≠ 0) (hhas : c.Has s.isSlave lba count) :
    (ataSelect s c lba count).outb .command ataCmdWritePio =
      (ataIssued s c lba count true).await (lba.toNat % 2 ^ 28) count.toNat := by
  have hread : ¬ (ataCmdWritePio = ataCmdReadPio ∧ (ataSelect s c lba count).Served) :=
    fun h => absurd h.1 (by decide)
  show (ataSelect s c lba count).execute ataCmdWritePio = _
  unfold AtaChannel.execute
  rw [if_neg hread, if_pos ⟨rfl, (ataSelect_served s c lba hcount).mpr hhas⟩, ataSelect_lba,
    ataSelect_count s c lba hcount, ataSelect_slave]
  rfl

variable {count} in
theorem execute_refused (hcount : count ≠ 0) (hhas : ¬ c.Has s.isSlave lba count)
    (value : UInt8) :
    (ataSelect s c lba count).outb .command value =
      { ataSelect s c lba count with transfer := .failed, busy := 0 } := by
  have hserved : ¬ (ataSelect s c lba count).Served :=
    fun h => hhas ((ataSelect_served s c lba hcount).mp h)
  show (ataSelect s c lba count).execute value = _
  unfold AtaChannel.execute
  rw [if_neg fun h => hserved h.2, if_neg fun h => hserved h.2]

theorem setSectors_disk (first n : Nat) (data : Bytes) :
    (((ataIssued s c lba count true).setSectors first n data).drives s.isSlave).disk =
      (c.drives s.isSlave).disk.setSectors first n data := by
  have hslave : (ataIssued s c lba count true).slave = s.isSlave := ataSelect_slave s c lba count
  unfold AtaChannel.setSectors
  simp only [hslave, Function.update_self]
  rfl

theorem setSectors_other (first n : Nat) (data : Bytes) :
    ((ataIssued s c lba count true).setSectors first n data).drives (!s.isSlave) =
      c.drives (!s.isSlave) := by
  have hslave : (ataIssued s c lba count true).slave = s.isSlave := ataSelect_slave s c lba count
  unfold AtaChannel.setSectors
  simp only [hslave]
  rw [Function.update_of_ne (by cases s.isSlave <;> decide)]
  rfl

end Select

/-! ## The calls -/

section Calls

variable {s : AtaPioState} {lba : UInt32} {count : UInt8} {buffer : Bytes}

theorem not_refused (hinit : s.initialized = true) (hcount : count ≠ 0) :
    ¬ (s.initialized = false ∨ count = 0) := by
  rintro (h | h)
  · rw [hinit] at h
    cases h
  · exact hcount h

/-- **A read of sectors that the drive has.** -/
theorem pioReadSectors_eq (hinit : s.initialized = true) (hcount : count ≠ 0)
    (hhas : c.Has s.isSlave lba count) (hlen : 512 * count.toNat ≤ buffer.length) :
    pioReadSectors s c lba count (some buffer) =
      .ok (some ({ ataIssued s c lba count false with transfer := .idle, busy := 0 },
        (c.drives s.isSlave).disk.sectors (lba.toNat % 2 ^ 28) count.toNat ++
          buffer.drop (512 * count.toNat))) := by
  have hloop := ataReadLoop_offer count.toNat (ataIssued s c lba count false)
    ((c.drives s.isSlave).disk.sectors (lba.toNat % 2 ^ 28) count.toNat) [] buffer
    (Disk.length_sectors _ _ _) hlen
  unfold pioReadSectors
  simp only []
  rw [if_neg (not_refused hinit hcount), execute_read s c lba hcount hhas]
  show some <$> ataReadLoop count.toNat _ ([] ++ buffer) ([] : Bytes).length = _
  rw [hloop]
  rfl

/-- **A write of sectors that the drive has.** -/
theorem pioWriteSectors_eq (hinit : s.initialized = true) (hcount : count ≠ 0)
    (hhas : c.Has s.isSlave lba count) (hlen : 512 * count.toNat ≤ buffer.length) :
    pioWriteSectors s c lba count (some buffer) =
      .ok (some
        { (ataIssued s c lba count true).setSectors (lba.toNat % 2 ^ 28) count.toNat buffer with
          transfer := .idle, busy := 0 }) := by
  unfold pioWriteSectors
  simp only []
  rw [if_neg (not_refused hinit hcount), execute_write s c lba hcount hhas,
    ataWriteLoop_await _ _ _ _ _ (by omega), List.drop_zero]
  rfl

/-- Where the sectors of the buffer end up. -/
theorem pioWriteSectors_stores (hinit : s.initialized = true) (hcount : count ≠ 0)
    (hhas : c.Has s.isSlave lba count) (hlen : 512 * count.toNat ≤ buffer.length) :
    ∃ c', pioWriteSectors s c lba count (some buffer) = .ok (some c') ∧
      ∀ i, i < count.toNat → (c'.drives s.isSlave).disk.sector (lba.toNat % 2 ^ 28 + i) =
        (buffer.drop (512 * i)).take 512 := by
  refine ⟨_, pioWriteSectors_eq hinit hcount hhas hlen, ?_⟩
  intro i hi
  refine (congrArg (Disk.sector · (lba.toNat % 2 ^ 28 + i))
    (setSectors_disk s c lba count (lba.toNat % 2 ^ 28) count.toNat buffer)).trans ?_
  exact Disk.setSectors_sector count.toNat hlen hi

/-- **Sectors that the drive does not have** are waited for without end. -/
theorem pioReadSectors_hang (hinit : s.initialized = true) (hcount : count ≠ 0)
    (hhas : ¬ c.Has s.isSlave lba count) (buffer : Bytes) :
    pioReadSectors s c lba count (some buffer) = .error .hang := by
  obtain ⟨n, hn⟩ := Nat.exists_eq_succ_of_ne_zero fun h => hcount (UInt8.toNat_inj.mp h)
  unfold pioReadSectors
  simp only []
  rw [if_neg (not_refused hinit hcount), execute_refused s c lba hcount hhas, hn, ataReadLoop,
    ataWaitBsy_eq, ataWaitDrq_failed rfl rfl]
  rfl

theorem pioWriteSectors_hang (hinit : s.initialized = true) (hcount : count ≠ 0)
    (hhas : ¬ c.Has s.isSlave lba count) (buffer : Bytes) :
    pioWriteSectors s c lba count (some buffer) = .error .hang := by
  obtain ⟨n, hn⟩ := Nat.exists_eq_succ_of_ne_zero fun h => hcount (UInt8.toNat_inj.mp h)
  unfold pioWriteSectors
  simp only []
  rw [if_neg (not_refused hinit hcount), execute_refused s c lba hcount hhas, hn, ataWriteLoop,
    ataWaitBsy_eq, ataWaitDrq_failed rfl rfl]
  rfl

/-- **The registers do what `ataReadSectors` says**, if the drive has the sectors. -/
theorem pioReadSectors_refines (hhas : c.Has s.isSlave lba count)
    (hlen : 512 * count.toNat ≤ buffer.length) :
    (Option.map Prod.snd <$> pioReadSectors s c lba count (some buffer)) =
      .ok ((ataReadSectors ⟨s.initialized, (c.drives s.isSlave).disk⟩ lba count).map
        (· ++ buffer.drop (512 * count.toNat))) := by
  by_cases hguard : s.initialized = false ∨ count = 0
  · unfold pioReadSectors ataReadSectors
    simp only []
    rw [if_pos hguard, if_pos hguard]
    rfl
  · rw [not_or, Bool.not_eq_false] at hguard
    rw [pioReadSectors_eq hguard.1 hguard.2 hhas hlen, ataReadSectors_eq hguard.1 lba hguard.2]
    rfl

end Calls

/-! ## The property -/

/-- The sectors from `lba` on were read, and nothing else was done. -/
structure ReadDone (s : AtaPioState) (c : AtaChannel) (lba : UInt32) (count : UInt8)
    (buffer : Bytes) (c' : AtaChannel) (buffer' : Bytes) : Prop where
  command : c'.commands =
    { slave := s.isSlave, write := false, lba := lba.toNat, count := count.toNat } :: c.commands
  data : buffer' = (c.drives s.isSlave).disk.sectors lba.toNat count.toNat ++
    buffer.drop (512 * count.toNat)
  drives : c'.drives = c.drives

/-- The sectors from `lba` on were written, and no other ones. -/
structure WriteDone (s : AtaPioState) (c : AtaChannel) (lba : UInt32) (count : UInt8)
    (buffer : Bytes) (c' : AtaChannel) : Prop where
  command : c'.commands =
    { slave := s.isSlave, write := true, lba := lba.toNat, count := count.toNat } :: c.commands
  data : ∀ i, i < count.toNat →
    (c'.drives s.isSlave).disk.sector (lba.toNat + i) = (buffer.drop (512 * i)).take 512
  unchanged : ∀ n, n < lba.toNat ∨ lba.toNat + count.toNat ≤ n →
    (c'.drives s.isSlave).disk.sector n = (c.drives s.isSlave).disk.sector n
  other : c'.drives (!s.isSlave) = c.drives (!s.isSlave)

/-- A call that returns `true` has accessed the sectors that it was to access, and it returns `true`
for sectors below the size of the drive. -/
structure AccessOk (s : AtaPioState) (c : AtaChannel) (lba : UInt32) (count : UInt8)
    (buffer : Bytes) : Prop where
  read : ∀ c' buffer', pioReadSectors s c lba count (some buffer) = .ok (some (c', buffer')) →
    ReadDone s c lba count buffer c' buffer'
  write : ∀ c', pioWriteSectors s c lba count (some buffer) = .ok (some c') →
    WriteDone s c lba count buffer c'
  accepted : count ≠ 0 → lba.toNat + count.toNat ≤ (ataGetSize s).toNat →
    (∃ r, pioReadSectors s c lba count (some buffer) = .ok (some r)) ∧
      ∃ c', pioWriteSectors s c lba count (some buffer) = .ok (some c')

section Access

variable {s : AtaPioState} {lba : UInt32} {count : UInt8} {buffer : Bytes}

/-- A call that returns `false` at once. -/
theorem accessOk_refused (h : s.initialized = false ∨ count = 0) :
    AccessOk s c lba count buffer where
  read := by
    intro c' buffer' hrun
    unfold pioReadSectors at hrun
    simp only [if_pos h] at hrun
    cases hrun
  write := by
    intro c' hrun
    unfold pioWriteSectors at hrun
    simp only [if_pos h] at hrun
    cases hrun
  accepted := by
    intro hcount hsize
    rcases h with hinit | hzero
    · -- the size is 0
      unfold ataGetSize at hsize
      rw [if_pos hinit] at hsize
      have hzero : count.toNat = 0 := Nat.eq_zero_of_le_zero (Nat.le_trans (Nat.le_add_left _ _) hsize)
      exact absurd (UInt8.toNat_inj.mp hzero) hcount
    · exact absurd hzero hcount

/-- **28 bits are enough** for the sector. -/
theorem accessOk_low (hinit : s.initialized = true) (hcount : count ≠ 0)
    (hhas : c.Has s.isSlave lba count) (hlen : 512 * count.toNat ≤ buffer.length)
    (hlow : lba.toNat < 2 ^ 28) : AccessOk s c lba count buffer := by
  have hread := pioReadSectors_eq hinit hcount hhas hlen
  have hwrite := pioWriteSectors_eq hinit hcount hhas hlen
  refine ⟨?_, ?_, fun _ _ => ⟨⟨_, hread⟩, _, hwrite⟩⟩
  · intro c' buffer' hrun
    rw [hread, Nat.mod_eq_of_lt hlow] at hrun
    cases hrun
    refine ⟨?_, rfl, rfl⟩
    show AtaCommand.mk _ _ (lba.toNat % 2 ^ 28) _ :: _ = _
    rw [Nat.mod_eq_of_lt hlow]
  · intro c' hrun
    rw [hwrite, Nat.mod_eq_of_lt hlow] at hrun
    cases hrun
    have hdisk := setSectors_disk s c lba count lba.toNat count.toNat buffer
    refine ⟨?_, ?_, ?_, ?_⟩
    · show AtaCommand.mk _ _ (lba.toNat % 2 ^ 28) _ :: _ = _
      rw [Nat.mod_eq_of_lt hlow]
    · intro i hi
      refine (congrArg (Disk.sector · (lba.toNat + i)) hdisk).trans ?_
      exact Disk.setSectors_sector count.toNat hlen hi
    · intro n hn
      refine (congrArg (Disk.sector · n) hdisk).trans ?_
      exact Disk.setSectors_outside count.toNat hlen hn
    · exact setSectors_other s c lba count lba.toNat count.toNat buffer

/-- **A sector from 2²⁸ on** is taken for another one. -/
theorem lt_of_accessOk (hinit : s.initialized = true) (hcount : count ≠ 0)
    (hhas : c.Has s.isSlave lba count) (hlen : 512 * count.toNat ≤ buffer.length)
    (h : AccessOk s c lba count buffer) : lba.toNat < 2 ^ 28 := by
  have hcommand := (h.read _ _ (pioReadSectors_eq hinit hcount hhas hlen)).command
  have hlba : lba.toNat % 2 ^ 28 = lba.toNat :=
    congrArg AtaCommand.lba (List.cons.inj hcommand).1
  rw [← hlba]
  exact Nat.mod_lt _ (by decide)

/-- Sectors that the drive does not have: neither call returns. -/
theorem accessOk_iff_of_not_has (hinit : s.initialized = true) (hcount : count ≠ 0)
    (hhas : ¬ c.Has s.isSlave lba count) :
    AccessOk s c lba count buffer ↔ (ataGetSize s).toNat < lba.toNat + count.toNat := by
  have hread := pioReadSectors_hang hinit hcount hhas buffer
  have hwrite := pioWriteSectors_hang hinit hcount hhas buffer
  constructor
  · intro h
    by_contra hsize
    obtain ⟨⟨r, hr⟩, -⟩ := h.accepted hcount (Nat.le_of_not_lt hsize)
    rw [hread] at hr
    cases hr
  · intro hsize
    refine ⟨?_, ?_, fun _ hle => absurd hle (Nat.not_le.mpr hsize)⟩
    · intro c' buffer' hrun
      rw [hread] at hrun
      cases hrun
    · intro c' hrun
      rw [hwrite] at hrun
      cases hrun

/-- **The sectors that were asked for are accessed** iff nothing is to be done, or the sector has 28
bits and the drive has the sectors, or it does not have those at the 28 bits and the range ends behind
the size. -/
theorem ata_access_iff (hlen : 512 * count.toNat ≤ buffer.length) :
    AccessOk s c lba count buffer ↔
      s.initialized = false ∨ count = 0 ∨
        (c.Has s.isSlave lba count ∧ lba.toNat < 2 ^ 28) ∨
        (¬ c.Has s.isSlave lba count ∧ (ataGetSize s).toNat < lba.toNat + count.toNat) := by
  by_cases hrefused : s.initialized = false ∨ count = 0
  · rw [← or_assoc]
    exact ⟨fun _ => Or.inl hrefused, fun _ => accessOk_refused hrefused⟩
  rw [not_or, Bool.not_eq_false] at hrefused
  obtain ⟨hinit, hcount⟩ := hrefused
  by_cases hhas : c.Has s.isSlave lba count
  · simp only [hinit, hcount, hhas, not_true, false_and, or_false, true_and, false_or,
      Bool.true_eq_false]
    exact ⟨lt_of_accessOk hinit hcount hhas hlen, accessOk_low hinit hcount hhas hlen⟩
  · simp only [hinit, hcount, hhas, not_false_eq_true, false_and, false_or, true_and,
      Bool.true_eq_false]
    exact accessOk_iff_of_not_has hinit hcount hhas

end Access

/-! ## A drive of 2²⁸ + 1 sectors -/

def ataLarge : AtaPioState where
  isSlave := false
  identify :=
    { capabilities := 0x200, sectors28 := fun _ => 0xFFFF
      sectors48 := fun i => [1, 0x1000, 0, 0].getD i.val 0 }
  initialized := true

/-- Before the first command, with zeros on the drives. -/
def ataBlank : AtaChannel where
  drives := fun _ => { disk := .startingWith (List.replicate 512 0) List.length_replicate
                       capacity := 2 ^ 28 }
  seccount0 := 0
  lba0 := 0
  lba1 := 0
  lba2 := 0
  hddevsel := 0
  transfer := .idle
  busy := 0
  latency := fun _ => 0
  commands := []

theorem ata_access_low :
    AccessOk ataLarge ataBlank 5 2 (List.replicate 1024 0xFF) :=
  (ata_access_iff (by rw [List.length_replicate]; decide)).mpr
    (Or.inr (Or.inr (Or.inl ⟨by decide, by decide⟩)))

/-- The last sector lies below the size, and what is written to it goes to the first one. -/
theorem ata_access_high :
    (0x10000000 : UInt32).toNat + (1 : UInt8).toNat ≤ (ataGetSize ataLarge).toNat ∧
      (∃ c', pioWriteSectors ataLarge ataBlank 0x10000000 1 (some (List.replicate 512 0xFF)) =
          .ok (some c') ∧ (c'.drives false).disk.sector 0 = List.replicate 512 0xFF) ∧
      ¬ AccessOk ataLarge ataBlank 0x10000000 1 (List.replicate 512 0xFF) := by
  have hhas : ataBlank.Has ataLarge.isSlave 0x10000000 1 := by decide
  have hlen : 512 * (1 : UInt8).toNat ≤ (List.replicate 512 (0xFF : UInt8)).length := by
    rw [List.length_replicate]
    decide
  refine ⟨by decide, ?_, ?_⟩
  · obtain ⟨c', hrun, hstored⟩ := pioWriteSectors_stores rfl (by decide) hhas hlen
    refine ⟨c', hrun, ?_⟩
    refine (hstored 0 (by decide)).trans ?_
    rw [Nat.mul_zero, List.drop_zero, List.take_of_length_le (by rw [List.length_replicate])]
  · intro h
    exact absurd (lt_of_accessOk rfl (by decide) hhas hlen h) (by decide)

end MayaOs.Drivers
