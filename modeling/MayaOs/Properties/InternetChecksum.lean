import MayaOs.Lib.OnesComplement
import MayaOs.Properties.IcmpEcho

/-!
# The Internet checksum

`ip_checksum` and `icmp_checksum` add the words as the processor reads them, low byte first, fold the
carries and store the complement low byte first. The standard works on big-endian words.

* `le16_finishChecksum` — the two bytes that end up in memory are those of the standard
* `internet_checksum` — for all buffers up to 128 KiB, and with what the receivers make of it
-/

namespace MayaOs.Net

open MayaOs.Lib

/-! ## The property -/

/-- `sum` of `ip_checksum` before the carries are folded. -/
def accumulated (data : Bytes) : Nat := wrap32 (sumWords 0 data + oddByte 1 data)

/-- `checksum` is computed without overflow, and its bytes in memory are those of the standard. -/
structure IsInternetChecksum (data : Bytes) (checksum : UInt16) : Prop where
  exact : ∀ n, accumulated (data.take n) = (littleEndianWords (data.take n)).sum
  noOverflow : (littleEndianWords data).sum < 2 ^ 32
  bytes : le16 checksum = be16 (internetChecksum data)

/-- `packet` with the checksum of its first `n` bytes put at index `i`. -/
def fillChecksum (packet : Bytes) (i n : Nat) : Bytes :=
  packet.take i ++ be16 (internetChecksum ((packet.take i ++ [0, 0] ++ packet.drop (i + 2)).take n))
    ++ packet.drop (i + 2)

/-- What `ip_handle_packet` tests apart from the checksum. -/
structure OtherTests (s : IpState) (packet : Bytes) (handler : IpHandler) : Prop where
  initialized : s.initialized = true
  version : (byteAt packet 0).toNat / 16 = 4
  headerLength : 5 ≤ (byteAt packet 0).toNat % 16
  headerFits : headerBytes packet ≤ packet.length
  dest : u32At packet 16 = s.ipAddress
  handler : s.protocolHandlers (byteAt packet 9) = some handler

/-! ## The sum -/

theorem oddByte_cons_cons (factor : Nat) (a b : UInt8) (rest : Bytes) :
    oddByte factor (a :: b :: rest) = oddByte factor rest := by
  unfold oddByte byteAt
  rw [List.length_cons, List.length_cons, Nat.add_assoc, Nat.add_mod_right]
  split
  · next h =>
    have hlen : rest.length + (1 + 1) - 1 = (rest.length - 1) + 1 + 1 := by omega
    rw [hlen, List.getD_cons_succ, List.getD_cons_succ]
  · rfl

/-- Without overflow the accumulator is the sum of the words. -/
theorem sumWords_eq {data : Bytes} : ∀ {sum : Nat}, sum + (littleEndianWords data).sum < 2 ^ 32 →
    sumWords sum data + oddByte 1 data = sum + (littleEndianWords data).sum := by
  induction data using littleEndianWords.induct with
  | case1 a b rest ih =>
    intro sum h
    rw [littleEndianWords, List.sum_cons] at h
    rw [sumWords, oddByte_cons_cons, toNat_u16, wrap32_eq_self (by omega), ih (by omega),
      littleEndianWords, List.sum_cons, Nat.add_assoc]
  | case2 a => intro sum _; simp [sumWords, oddByte, byteAt, littleEndianWords]
  | case3 => intro sum _; simp [sumWords, oddByte, littleEndianWords]

theorem sum_littleEndianWords_lt {data : Bytes} (h : data.length ≤ 131072) :
    (littleEndianWords data).sum < 2 ^ 32 := by
  have hle := sum_le_of_lt (littleEndianWords_lt data)
  rw [littleEndianWords_eq data, List.length_map, length_bigEndianWords] at hle
  rw [littleEndianWords_eq data]
  omega

theorem accumulated_eq {data : Bytes} (h : data.length ≤ 131072) :
    accumulated data = (littleEndianWords data).sum := by
  have hlt := sum_littleEndianWords_lt h
  have hsum : sumWords 0 data + oddByte 1 data = 0 + (littleEndianWords data).sum :=
    sumWords_eq (by rw [Nat.zero_add]; exact hlt)
  rw [accumulated, hsum, Nat.zero_add, wrap32_eq_self hlt]

/-! ## The result -/

/-- Two rounds fold all carries. -/
theorem foldSum_eq_residue {sum : Nat} (h : sum < 2 ^ 32) : foldSum 2 sum = residue sum := by
  have hlt : foldSum 2 sum < 65536 := foldSum_lt (n := 0) h
  refine (residue_unique (by omega) ?_ ?_).symm
  · simp only [foldSum]
    split
    · rfl
    · split <;> omega
  · simp only [foldSum]
    split
    · rfl
    · split <;> omega

theorem toNat_finishChecksum {sum : Nat} (h : sum < 2 ^ 32) :
    (finishChecksum sum).toNat = 65535 - residue sum := by
  have hle := residue_le sum
  rw [finishChecksum, foldSum_eq_residue h, UInt16.toNat_not, UInt16.toNat_ofNat',
    Nat.mod_eq_of_lt (by omega)]
  rfl

theorem le16_of_toNat {x : UInt16} {n : Nat} (hn : n < 65536) (h : x.toNat = swapBytes n) :
    le16 x = be16 n := by
  unfold swapBytes at h
  have hhigh : x.toNat / 256 = n % 256 := by
    rw [h, Nat.add_mul_div_left _ _ (by omega), Nat.div_div_eq_div_mul, Nat.div_eq_of_lt hn,
      Nat.zero_add]
  unfold le16 be16
  rw [hhigh, h]
  refine List.cons_eq_cons.mpr ⟨?_, List.cons_eq_cons.mpr ⟨?_, rfl⟩⟩
  · apply UInt8.toNat_inj.mp
    rw [UInt8.toNat_ofNat', UInt8.toNat_ofNat']
    omega
  · apply UInt8.toNat_inj.mp
    rw [UInt8.toNat_ofNat', UInt8.toNat_ofNat']
    omega

/-- **The bytes in memory are those of the standard.** -/
theorem le16_finishChecksum {data : Bytes} {sum : Nat} (h : sum < 2 ^ 32)
    (hsum : sum = (littleEndianWords data).sum) :
    le16 (finishChecksum sum) = be16 (internetChecksum data) := by
  have hwords := bigEndianWords_lt data
  have hle := residue_le (bigEndianWords data).sum
  refine le16_of_toNat (by unfold internetChecksum; omega) ?_
  rw [toNat_finishChecksum h, hsum, littleEndianWords_eq, residue_swap, internetChecksum,
    onesSum_eq_residue hwords, swapBytes_compl (by omega)]

theorem isInternetChecksum {data : Bytes} (h : data.length ≤ 131072) :
    IsInternetChecksum data (ipChecksum data) where
  exact := fun n => accumulated_eq (Nat.le_trans (List.length_take_le' ..) h)
  noOverflow := sum_littleEndianWords_lt h
  bytes := by
    have heq := accumulated_eq h
    have hlt : accumulated data < 2 ^ 32 := by
      rw [heq]
      exact sum_littleEndianWords_lt h
    exact le16_finishChecksum hlt heq

/-- The packets of `ip_send_packet` are filled in this way. -/
theorem ipPacket_eq_fillChecksum (s : IpState) (destIp : UInt32) (protocol : UInt8)
    (data : Bytes) : ipPacket s destIp protocol data =
      fillChecksum (ipHeader s destIp protocol (UInt16.ofNat (20 + data.length)) 0 ++ data) 10 20 := by
  let header := ipHeader s destIp protocol (UInt16.ofNat (20 + data.length)) 0
  have hclear : ((header ++ data).take 10 ++ [0, 0] ++ (header ++ data).drop 12).take 20 = header :=
    rfl
  have hlen : header.length = 20 := rfl
  have hbytes := (isInternetChecksum (by omega : header.length ≤ 131072)).bytes
  unfold fillChecksum
  rw [hclear, ← hbytes]
  rfl

/-! ## The receivers -/

section Fill

variable {packet : Bytes} {i n : Nat}

theorem write_fillChecksum (h : i + 2 ≤ packet.length) (n : Nat) :
    write packet i (be16 (internetChecksum
      ((packet.take i ++ [0, 0] ++ packet.drop (i + 2)).take n))) =
      .ok (fillChecksum packet i n) :=
  write_eq h

theorem length_fillChecksum (h : i + 2 ≤ packet.length) (n : Nat) :
    (fillChecksum packet i n).length = packet.length :=
  length_of_write (write_fillChecksum h n)

theorem byteAt_fillChecksum (h : i + 2 ≤ packet.length) (n : Nat) {j : Nat}
    (hj : j < i ∨ i + 2 ≤ j) : byteAt (fillChecksum packet i n) j = byteAt packet j :=
  byteAt_of_write (write_fillChecksum h n) hj

/-- Clearing the field again. -/
theorem clear_fillChecksum (h : i + 2 ≤ packet.length) (n : Nat) :
    (fillChecksum packet i n).take i ++ le16 0 ++ (fillChecksum packet i n).drop (i + 2) =
      packet.take i ++ [0, 0] ++ packet.drop (i + 2) := by
  have hlen : (packet.take i).length = i := by
    rw [List.length_take]
    omega
  unfold fillChecksum
  rw [List.append_assoc (packet.take i), List.take_left' hlen, ← List.append_assoc,
    List.drop_left' (by rw [List.length_append, hlen, length_be16])]
  rfl

/-- **A checksum that was filled in passes the comparison.** -/
theorem ipChecksum_fillChecksum (h : i + 2 ≤ packet.length) (hn : n ≤ 131072) :
    ipChecksum (((fillChecksum packet i n).take i ++ le16 0 ++
      (fillChecksum packet i n).drop (i + 2)).take n) = u16At (fillChecksum packet i n) i := by
  rw [clear_fillChecksum h n]
  have hdata : ((packet.take i ++ [0, 0] ++ packet.drop (i + 2)).take n).length ≤ 131072 :=
    Nat.le_trans (List.length_take_le ..) hn
  have hbytes := (isInternetChecksum hdata).bytes
  have hwrite := write_fillChecksum h n
  rw [← hbytes] at hwrite
  have hlow := byteAt_of_write_self hwrite (by simp : 0 < (le16 _).length)
  have hhigh := byteAt_of_write_self hwrite (by simp : 1 < (le16 _).length)
  rw [u16At, hhigh]
  rw [Nat.add_zero] at hlow
  rw [hlow]
  exact (u16_le16 _).symm

/-- **`ip_handle_packet` hands the packet on** if it passes the other tests. -/
theorem ipHandlePacket_fillChecksum {s : IpState} {handler : IpHandler}
    (ht : OtherTests s packet handler) :
    ipHandlePacket s (some (fillChecksum packet 10 (headerBytes packet))) =
      .ok (some (handlerCall (fillChecksum packet 10 (headerBytes packet)) handler),
        some (fillChecksum packet 10 (headerBytes packet))) := by
  have hheader := ht.headerLength
  have hfits := ht.headerFits
  have hlow : headerBytes packet ≤ 60 := by unfold headerBytes; omega
  have hhigh : 20 ≤ headerBytes packet := by unfold headerBytes; omega
  have h12 : 10 + 2 ≤ packet.length := by omega
  have hlen := length_fillChecksum h12 (headerBytes packet)
  have hbyte := fun j hj => byteAt_fillChecksum h12 (headerBytes packet) (j := j) hj
  have h0 := hbyte 0 (by omega)
  have hsame : headerBytes (fillChecksum packet 10 (headerBytes packet)) = headerBytes packet := by
    rw [headerBytes, h0, headerBytes]
  have haccepts : Accepts s (fillChecksum packet 10 (headerBytes packet)) handler := by
    refine ⟨ht.initialized, ?_, ?_, ?_, ?_, ?_, ?_, ?_⟩
    · rw [hlen]; exact Nat.le_trans hhigh hfits
    · rw [h0]; exact ht.version
    · rw [h0]; exact ht.headerLength
    · rw [hsame, hlen]; exact hfits
    · rw [hsame]
      exact ipChecksum_fillChecksum h12 (by omega)
    · rw [u32At, hbyte 16 (by omega), hbyte _ (by omega), hbyte _ (by omega), hbyte _ (by omega)]
      exact ht.dest
    · rw [hbyte 9 (by omega)]; exact ht.handler
  rcases ipHandlePacket_cases s (fillChecksum packet 10 (headerBytes packet)) with
    ⟨handler', ha, heq⟩ | ⟨hno, -⟩
  · obtain rfl : handler' = handler := Option.some.inj (ha.handler.symm.trans haccepts.handler)
    exact heq
  · exact absurd haccepts (hno handler)

/-- The receiver's two writes to the field cancel each other. -/
theorem write_checksum_back {p : Bytes} (h : i + 2 ≤ p.length) :
    write (p.take i ++ le16 0 ++ p.drop (i + 2)) i (le16 (u16At p i)) = .ok p := by
  rw [write_middle (by rw [List.length_take]; omega) (by rw [length_le16, length_le16]), u16At,
    le16_u16, take_append_drop_two (by omega)]

/-- The copy of a request that fits is always made. -/
theorem echoReply_ok {h : Host} (halloc : h.Allocates 0) {p : Bytes} (hn : 8 ≤ n)
    (hfits : n ≤ p.length) :
    ∃ reply, echoReply h p n = .ok (some reply, { h with allocs := h.allocs.tail }) := by
  obtain ⟨block, hblock, hk⟩ := kmalloc_some halloc n
  have hslice : slice p 0 n = .ok (p.take n) := slice_eq (by omega)
  have hcopy : (p.take n).length = block.length := by
    rw [List.length_take, hblock]
    omega
  obtain ⟨r₁, hr₁, hl₁⟩ := write_ok (p.take n) 0 [icmpTypeEchoReply] (by
    rw [List.length_singleton, hcopy]
    omega)
  obtain ⟨r₂, hr₂, hl₂⟩ := write_ok r₁ 2 (le16 0) (by rw [length_le16, hl₁, hcopy]; omega)
  obtain ⟨r₃, hr₃, -⟩ := write_ok r₂ 2 (le16 (icmpChecksum r₂)) (by
    rw [length_le16, hl₂, hl₁, hcopy]
    omega)
  refine ⟨r₃, ?_⟩
  unfold echoReply
  rw [hk]
  simp only [hslice, write_all hcopy, hr₁, hr₂, hr₃, ok_bind, pure, Except.pure]

/-- **`icmp_handle_packet` goes on to the type of the message.** -/
theorem icmpExamine_fillChecksum {s : IcmpState} (hinit : s.initialized = true) (h : Host)
    (srcIp : UInt32) (h8 : 8 ≤ n) (hfits : n ≤ packet.length) (hn : n ≤ 131072) :
    (byteAt packet 0 = icmpTypeEchoRequest → h.Allocates 0 → ∃ reply,
      icmpExamine s h srcIp (some (fillChecksum packet 2 n)) n =
        .ok (.reply reply, some (fillChecksum packet 2 n), { h with allocs := h.allocs.tail })) ∧
    (byteAt packet 0 = icmpTypeEchoReply → s.echoCallback ≠ 0 → ∃ echo,
      icmpExamine s h srcIp (some (fillChecksum packet 2 n)) n =
        .ok (.call echo, some (fillChecksum packet 2 n), h)) := by
  have h4 : 2 + 2 ≤ packet.length := by omega
  have hlen := length_fillChecksum h4 n
  have htype := byteAt_fillChecksum h4 n (j := 0) (by omega)
  have hsum : icmpChecksum _ = _ := ipChecksum_fillChecksum h4 hn
  generalize fillChecksum packet 2 n = p at hlen htype hsum
  have hclear : write p 2 (le16 0) = .ok (p.take 2 ++ le16 0 ++ p.drop (2 + 2)) :=
    write_eq (by rw [length_le16]; omega)
  have hslice : slice (p.take 2 ++ le16 0 ++ p.drop (2 + 2)) 0 n =
      .ok ((p.take 2 ++ le16 0 ++ p.drop (2 + 2)).take n) := by
    refine slice_eq ?_
    simp only [List.length_append, List.length_take, length_le16, List.length_drop]
    omega
  have hback := write_checksum_back (i := 2) (p := p) (by omega)
  have hguard : ¬ (s.initialized = false ∨ n < icmpHeaderSize) := by
    simp only [hinit, icmpHeaderSize, Bool.true_eq_false, false_or]
    omega
  constructor
  · intro hreq halloc
    obtain ⟨reply, hreply⟩ := echoReply_ok halloc h8 (p := p) (by omega)
    refine ⟨reply, ?_⟩
    unfold icmpExamine
    simp only []
    rw [if_neg hguard, read16_eq (by omega)]
    simp only [hclear, hslice, hsum, hback, ok_bind, read8_eq (by omega : 0 < p.length), htype,
      hreq, hreply, pure, Except.pure]
    rw [if_neg (not_not.mpr rfl), if_pos trivial]
    rfl
  · intro hrep hcallback
    have hdata : slice p icmpHeaderSize (n - icmpHeaderSize) =
        .ok ((p.drop icmpHeaderSize).take (n - icmpHeaderSize)) :=
      slice_eq (by unfold icmpHeaderSize; omega)
    refine ⟨⟨s.echoCallback, srcIp, swap16 (u16At p 4), swap16 (u16At p 6),
      (p.drop icmpHeaderSize).take (n - icmpHeaderSize)⟩, ?_⟩
    unfold icmpExamine
    simp only []
    rw [if_neg hguard, read16_eq (by omega)]
    simp only [hclear, hslice, hsum, hback, ok_bind, read8_eq (by omega : 0 < p.length), htype,
      hrep, read16_eq (by omega : 4 + 1 < p.length), read16_eq (by omega : 6 + 1 < p.length), hdata,
      if_neg hcallback, pure, Except.pure]
    rw [if_neg (not_not.mpr rfl), if_neg (by decide), if_pos trivial]

end Fill

/--
**`ip_checksum` and `icmp_checksum` compute the Internet checksum**, and what carries it in its
checksum field passes the receiver's comparison.
-/
theorem internet_checksum :
    (∀ data : Bytes, data.length ≤ 131072 →
      IsInternetChecksum data (ipChecksum data) ∧ IsInternetChecksum data (icmpChecksum data)) ∧
    (∀ (s : IpState) (packet : Bytes) (handler : IpHandler), OtherTests s packet handler →
      ipHandlePacket s (some (fillChecksum packet 10 (headerBytes packet))) =
        .ok (some (handlerCall (fillChecksum packet 10 (headerBytes packet)) handler),
          some (fillChecksum packet 10 (headerBytes packet)))) ∧
    (∀ (s : IcmpState) (h : Host) (srcIp : UInt32) (packet : Bytes) (n : Nat),
      s.initialized = true → 8 ≤ n → n ≤ packet.length → n ≤ 131072 →
      (byteAt packet 0 = icmpTypeEchoRequest → h.Allocates 0 → ∃ reply,
        icmpExamine s h srcIp (some (fillChecksum packet 2 n)) n =
          .ok (.reply reply, some (fillChecksum packet 2 n), { h with allocs := h.allocs.tail })) ∧
      (byteAt packet 0 = icmpTypeEchoReply → s.echoCallback ≠ 0 → ∃ echo,
        icmpExamine s h srcIp (some (fillChecksum packet 2 n)) n =
          .ok (.call echo, some (fillChecksum packet 2 n), h))) := by
  refine ⟨fun data h => ⟨isInternetChecksum h, isInternetChecksum h⟩, ?_, ?_⟩
  · intro s packet handler ht
    exact ipHandlePacket_fillChecksum ht
  · intro s h srcIp packet n hinit h8 hfits hn
    exact icmpExamine_fillChecksum hinit h srcIp h8 hfits hn

/-- A header to 10.0.0.2 without its checksum. -/
def bareHeader : Bytes := [0x45, 0, 0, 20, 0, 0, 0, 0, 64, 1, 0, 0, 10, 0, 0, 1, 10, 0, 0, 2]

/-- An echo reply of odd length without its checksum. -/
def bareReply : Bytes := [0, 0, 0, 0, 0, 7, 0, 1, 1, 2, 3]

theorem internet_checksum_bare :
    IsInternetChecksum bareHeader (ipChecksum bareHeader) ∧
    IsInternetChecksum bareReply (icmpChecksum bareReply) ∧
    (ipHandlePacket (pingHost 0x0200000A ⟨2, 0, 0, 0, 0, 2⟩).ip
        (some (fillChecksum bareHeader 10 (headerBytes bareHeader))) =
      .ok (some (handlerCall (fillChecksum bareHeader 10 (headerBytes bareHeader)) .icmp),
        some (fillChecksum bareHeader 10 (headerBytes bareHeader)))) ∧
    ∃ echo, icmpExamine { echoCallback := 1, initialized := true }
        (pingHost 0x0200000A ⟨2, 0, 0, 0, 0, 2⟩) 0x0100000A (some (fillChecksum bareReply 2 11)) 11 =
      .ok (.call echo, some (fillChecksum bareReply 2 11),
        pingHost 0x0200000A ⟨2, 0, 0, 0, 0, 2⟩) := by
  refine ⟨(internet_checksum.1 bareHeader (by decide)).1,
    (internet_checksum.1 bareReply (by decide)).2, ?_, ?_⟩
  · exact internet_checksum.2.1 _ _ _ ⟨rfl, rfl, by decide, by decide, rfl, rfl⟩
  · exact (internet_checksum.2.2 _ _ _ bareReply 11 rfl (by decide) (by decide) (by decide)).2 rfl
      (by decide)

end MayaOs.Net
