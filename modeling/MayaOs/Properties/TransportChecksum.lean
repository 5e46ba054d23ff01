import MayaOs.Net.Builders
import MayaOs.Properties.InternetChecksum

/-!
# The checksums of UDP and TCP

`udp_checksum` and `tcp_checksum` add the words as the processor reads them. The protocol number, the
length of a segment and an odd last byte go into the sum as if it were a big-endian one.

* `finishChecksum_wire_iff` — a sum gives the checksum of a buffer iff it is congruent to the
  little-endian sum of its words
* `transport_checksum_iff` — the few datagrams and segments whose checksum is right
* `transport_checksum_wrong` — two payloads whose checksums are not
-/

namespace MayaOs.Net

open MayaOs.Lib

/-! ## The standard -/

/-- Addresses, a zero byte, the protocol and the length of header and payload. -/
def pseudoHeader (srcIp destIp : UInt32) (protocol : UInt8) (length : Nat) : Bytes :=
  le32 srcIp ++ le32 destIp ++ [0, protocol] ++ be16 length

/-- The checksum over pseudo-header, header and payload; the header has a zero checksum. -/
def standardChecksum (srcIp destIp : UInt32) (protocol : UInt8) (header data : Bytes) : Nat :=
  internetChecksum (pseudoHeader srcIp destIp protocol (header.length + data.length) ++ header ++ data)

/-- In UDP a zero checksum stands for none, and a computed 0 is sent as all ones. -/
def udpStandardChecksum (srcIp destIp : UInt32) (header data : Bytes) : Nat :=
  if standardChecksum srcIp destIp ipProtocolUdp header data = 0 then 0xFFFF
  else standardChecksum srcIp destIp ipProtocolUdp header data

/-- The last byte of a payload of odd length, 0 for an even length. -/
def lastOdd (data : Bytes) : Nat := oddByte 1 data

/-- The little-endian words that go into the standard's sum. -/
def standardSum (srcIp destIp : UInt32) (protocol : UInt8) (header data : Bytes) : Nat :=
  (littleEndianWords
    (pseudoHeader srcIp destIp protocol (header.length + data.length) ++ header ++ data)).sum

/-! ## Sums and checksums -/

theorem le16_inj {x y : UInt16} (h : le16 x = le16 y) : x = y := by
  unfold le16 at h
  simp only [List.cons.injEq, and_true] at h
  rw [← u16_le16 x, ← u16_le16 y, h.1, h.2]

/-- **A sum gives the checksum of a buffer iff it is congruent to the sum of its words.** -/
theorem finishChecksum_wire_iff {sum : Nat} {data : Bytes} (hsum : sum < 2 ^ 32) (hpos : 0 < sum)
    (hwords : (littleEndianWords data).sum < 2 ^ 32) (hdata : 0 < (littleEndianWords data).sum) :
    le16 (finishChecksum sum) = be16 (internetChecksum data) ↔
      sum % 65535 = (littleEndianWords data).sum % 65535 := by
  have hle := residue_le sum
  have hle' := residue_le (littleEndianWords data).sum
  have hmod := residue_mod sum
  have hmod' := residue_mod (littleEndianWords data).sum
  rw [← le16_finishChecksum hwords rfl]
  constructor
  · intro h
    have hnat := congrArg UInt16.toNat (le16_inj h)
    rw [toNat_finishChecksum hsum, toNat_finishChecksum hwords] at hnat
    omega
  · intro h
    have hres : residue sum = residue (littleEndianWords data).sum :=
      residue_congr h (by omega)
    have hnat : (finishChecksum sum).toNat =
        (finishChecksum (littleEndianWords data).sum).toNat := by
      rw [toNat_finishChecksum hsum, toNat_finishChecksum hwords, hres]
    rw [UInt16.toNat_inj.mp hnat]

/-- No sum of anything gives the checksum 0xFFFF. -/
theorem finishChecksum_ne_ones {sum : Nat} (hsum : sum < 2 ^ 32) (hpos : 0 < sum) :
    le16 (finishChecksum sum) ≠ be16 0xFFFF := by
  intro h
  have hones : le16 (finishChecksum sum) = le16 0xFFFF := h
  have hnat := congrArg UInt16.toNat (le16_inj hones)
  have hzero : residue sum = 0 ↔ sum = 0 := residue_eq_zero_iff
  rw [toNat_finishChecksum hsum] at hnat
  simp at hnat
  omega

/-- The factor of an odd last byte makes the difference. -/
theorem sumWords_oddByte {sum : Nat} {data : Bytes}
    (h : sum + (littleEndianWords data).sum < 2 ^ 32) :
    sumWords sum data + oddByte 256 data =
      sum + (littleEndianWords data).sum + 255 * lastOdd data := by
  have hsum := sumWords_eq h
  have hodd : oddByte 256 data = 256 * oddByte 1 data := by
    unfold oddByte
    split
    · rw [Nat.mul_one, Nat.mul_comm]
    · rfl
  unfold lastOdd
  omega

theorem lastOdd_lt (data : Bytes) : lastOdd data < 256 := by
  unfold lastOdd oddByte
  split
  · rw [Nat.mul_one]
    exact UInt8.toNat_lt _
  · omega

/-- What the standard adds up, piece by piece. -/
theorem standardSum_eq (srcIp destIp : UInt32) (protocol : UInt8) {header data : Bytes}
    (heven : header.length % 2 = 0) (hlen : header.length + data.length < 65536) :
    standardSum srcIp destIp protocol header data =
      srcIp.toNat / 65536 + srcIp.toNat % 65536 + (destIp.toNat / 65536 + destIp.toNat % 65536) +
        256 * protocol.toNat + swapBytes (header.length + data.length) +
        (littleEndianWords header).sum + (littleEndianWords data).sum := by
  have hpseudo : (pseudoHeader srcIp destIp protocol (header.length + data.length)).length = 12 :=
    rfl
  have hproto : (littleEndianWords [0, protocol]).sum = 256 * protocol.toNat := by
    simp [littleEndianWords]
  unfold standardSum
  rw [littleEndianWords_append (by rw [List.length_append, hpseudo]; omega),
    littleEndianWords_append (by rw [hpseudo]), pseudoHeader,
    littleEndianWords_append (by simp), littleEndianWords_append (by simp),
    littleEndianWords_append (by simp)]
  simp only [List.sum_append, sum_littleEndianWords_le32, hproto, sum_littleEndianWords_be16 hlen]

theorem sum_data_le {data : Bytes} (h : data.length ≤ 65507) :
    (littleEndianWords data).sum ≤ 65535 * 32754 := by
  have hle := sum_le_of_lt (littleEndianWords_lt data)
  rw [littleEndianWords_eq data, List.length_map, length_bigEndianWords, ← littleEndianWords_eq]
    at hle
  omega

/--
**When a code sum gives the standard's checksum**: `sum` is what has been added before the payload.
-/
theorem code_wire_iff (srcIp destIp : UInt32) {protocol : UInt8} (hprotocol : 0 < protocol.toNat)
    {header data : Bytes} (heven : header.length % 2 = 0) (hheader : header.length ≤ 20)
    (hlen : data.length ≤ 65507) {sum : Nat} (hpos : 0 < sum) (hsum : sum < 2 ^ 30) :
    le16 (finishChecksum (wrap32 (sumWords sum data + oddByte 256 data))) =
        be16 (standardChecksum srcIp destIp protocol header data) ↔
      (sum + (littleEndianWords data).sum + 255 * lastOdd data) % 65535 =
        standardSum srcIp destIp protocol header data % 65535 := by
  have hsrc := srcIp.toNat_lt
  have hdest := destIp.toNat_lt
  have hodd := lastOdd_lt data
  have hdata := sum_data_le hlen
  have hproto := protocol.toNat_lt
  have hswap := swapBytes_lt (by omega : header.length + data.length < 65536)
  have hstandard := standardSum_eq srcIp destIp protocol heven
    (by omega : header.length + data.length < 65536)
  have hheaderSum : (littleEndianWords header).sum ≤ 65535 * 10 := by
    have hle := sum_le_of_lt (littleEndianWords_lt header)
    rw [littleEndianWords_eq header, List.length_map, length_bigEndianWords,
      ← littleEndianWords_eq] at hle
    omega
  have hbound : standardSum srcIp destIp protocol header data < 2 ^ 32 := by omega
  have hpositive : 0 < standardSum srcIp destIp protocol header data := by omega
  rw [sumWords_oddByte (by omega), wrap32_eq_self (by omega)]
  exact finishChecksum_wire_iff (by omega) (by omega) hbound hpositive

/-! ## UDP -/

/-- What `udp_checksum` has added before the payload. -/
def udpSum (srcIp destIp : UInt32) (header : Bytes) : Nat :=
  srcIp.toNat / 65536 + srcIp.toNat % 65536 + destIp.toNat / 65536 + destIp.toNat % 65536 +
    ipProtocolUdp.toNat + (u16At header 4).toNat + (u16At header 0).toNat +
    (u16At header 2).toNat + (u16At header 4).toNat

theorem udpChecksum_eq (srcIp destIp : UInt32) (header data : Bytes) :
    udpChecksum srcIp destIp header data =
      finishChecksum (wrap32 (sumWords (udpSum srcIp destIp header) data + oddByte 256 data)) := by
  unfold udpChecksum udpSum
  simp only [Nat.add_assoc]

theorem udpSum_bounds (srcIp destIp : UInt32) (header : Bytes) :
    0 < udpSum srcIp destIp header ∧ udpSum srcIp destIp header < 2 ^ 30 := by
  have h0 := (u16At header 0).toNat_lt
  have h2 := (u16At header 2).toNat_lt
  have h4 := (u16At header 4).toNat_lt
  have hsrc := srcIp.toNat_lt
  have hdest := destIp.toNat_lt
  have hproto : ipProtocolUdp.toNat = 17 := rfl
  unfold udpSum
  omega

/-- The checksum 0xFFFF is never sent. -/
theorem udpChecksum_ne_ones (srcIp destIp : UInt32) (header : Bytes) {data : Bytes}
    (hlen : data.length ≤ 65507) : le16 (udpChecksum srcIp destIp header data) ≠ be16 0xFFFF := by
  obtain ⟨hpos, hsum⟩ := udpSum_bounds srcIp destIp header
  have hdata := sum_data_le hlen
  have hodd := lastOdd_lt data
  rw [udpChecksum_eq, sumWords_oddByte (by omega), wrap32_eq_self (by omega)]
  exact finishChecksum_ne_ones (by omega) (by omega)

theorem lastOdd_eq_iff {data : Bytes} {x : UInt8} (hx : x ≠ 0) :
    lastOdd data = x.toNat ↔ data.length % 2 = 1 ∧ byteAt data (data.length - 1) = x := by
  have hpos : x.toNat ≠ 0 := fun h => hx (UInt8.toNat_inj.mp h)
  unfold lastOdd oddByte
  by_cases hodd : data.length % 2 = 1
  · rw [if_pos hodd, Nat.mul_one, UInt8.toNat_inj]
    simp [hodd]
  · rw [if_neg hodd]
    simp only [hodd, false_and, iff_false]
    exact fun h => hpos h.symm

/-- The protocol number in the wrong byte is made up for by an odd last byte of the same value. -/
theorem udp_wire_iff (srcIp destIp : UInt32) {header data : Bytes} (hheader : header.length = 8)
    (hfield : u16At header 6 = 0)
    (hlength : u16At header 4 = swap16 (UInt16.ofNat (8 + data.length)))
    (hlen : data.length ≤ 65507) :
    le16 (udpChecksum srcIp destIp header data) =
        be16 (standardChecksum srcIp destIp ipProtocolUdp header data) ↔
      data.length % 2 = 1 ∧ byteAt data (data.length - 1) = ipProtocolUdp := by
  have hfields : (littleEndianWords header).sum =
      (u16At header 0).toNat + (u16At header 2).toNat + (u16At header 4).toNat := by
    rw [littleEndianWords_eq_map (n := 4) hheader]
    simp [List.range_succ, hfield, Nat.add_assoc]
  have hswap : (u16At header 4).toNat = swapBytes (header.length + data.length) := by
    rw [hlength, toNat_swap16, UInt16.toNat_ofNat', hheader, Nat.mod_eq_of_lt (by omega), swapBytes]
  have hstandard := standardSum_eq srcIp destIp ipProtocolUdp
    (by rw [hheader] : header.length % 2 = 0) (by omega : header.length + data.length < 65536)
  have hproto : ipProtocolUdp.toNat = 17 := rfl
  have hodd := lastOdd_lt data
  obtain ⟨hpos, hsum⟩ := udpSum_bounds srcIp destIp header
  have hdiff : standardSum srcIp destIp ipProtocolUdp header data =
      udpSum srcIp destIp header + (littleEndianWords data).sum + 255 * 17 := by
    unfold udpSum
    omega
  rw [udpChecksum_eq, code_wire_iff srcIp destIp (by rw [hproto]; omega) (by rw [hheader])
    (by omega) hlen hpos hsum, ← lastOdd_eq_iff (by decide), hproto, hdiff]
  omega

/-- What `udp_send` hands on is the datagram. -/
theorem udpDatagram_built {h h' : Host} {socket : UdpSocket} {destIp : UInt32} {destPort : UInt16}
    {data packet : Bytes}
    (hb : udpDatagram h (some socket) destIp destPort (some data) = .ok (some packet, h')) :
    packet = udpPacket h.ip.ipAddress destIp socket.localPort destPort data ∧
      data.length ≤ 65507 := by
  unfold udpDatagram at hb
  dsimp only at hb
  split at hb
  · simp at hb
  · split at hb
    · simp at hb
    · next hfits =>
      obtain ⟨rest, hk | ⟨block, hblock, hk⟩⟩ :=
        kmalloc_cases h (wrap32 (udpHeaderSize + data.length))
      · rw [hk] at hb
        simp at hb
      · rw [hk] at hb
        dsimp only at hb
        by_cases hwrap : udpHeaderSize + data.length < 2 ^ 32
        · rw [wrap32_eq_self hwrap] at hblock hfits hb
          obtain ⟨p₁, p₂, header, hp₁, hp₂, hheader, hp₃⟩ := write_udpPacket h.ip.ipAddress destIp
            socket.localPort destPort block data hblock
          unfold udpHeaderSize at hfits hp₂ hheader
          simp only [udpHeaderSize, hp₁, hp₂, hheader, hp₃, ok_bind, pure, Except.pure,
            Except.ok.injEq, Prod.mk.injEq, Option.some.injEq] at hb
          exact ⟨hb.1.symm, by omega⟩
        · -- the sum has wrapped around, and the data does not fit
          have hlt : block.length < udpHeaderSize + data.length := by
            rw [hblock]
            unfold udpHeaderSize at hfits hwrap ⊢
            omega
          rw [write_header_overflow (n := udpHeaderSize) rfl hlt] at hb
          simp at hb

/-- With a block for it the datagram is built. -/
theorem udpDatagram_eq {h : Host} (hinit : h.udp.initialized = true) (halloc : h.Allocates 0)
    (socket : UdpSocket) (destIp : UInt32) (destPort : UInt16) {data : Bytes}
    (hpos : 0 < data.length) (hfits : data.length ≤ 65499) :
    udpDatagram h (some socket) destIp destPort (some data) =
      .ok (some (udpPacket h.ip.ipAddress destIp socket.localPort destPort data),
        { h with allocs := h.allocs.tail }) := by
  have hwrap : wrap32 (udpHeaderSize + data.length) = 8 + data.length :=
    wrap32_eq_self (by unfold udpHeaderSize; omega)
  have hguard : ¬ (h.udp.initialized = false ∨ data.length = 0) := by
    simp only [hinit, Bool.true_eq_false, false_or]
    omega
  obtain ⟨block, hblock, hk⟩ := kmalloc_some halloc (8 + data.length)
  obtain ⟨p₁, p₂, header, hp₁, hp₂, hheader, hp₃⟩ := write_udpPacket h.ip.ipAddress destIp
    socket.localPort destPort block data hblock
  unfold udpDatagram
  simp only [hwrap]
  rw [if_neg hguard, if_neg (by omega), hk]
  simp only [hp₁, hp₂, hheader, hp₃, ok_bind, pure, Except.pure]

theorem udpHeader_fields (sourcePort destPort length : UInt16) :
    u16At (udpHeader sourcePort destPort length 0) 4 = swap16 length ∧
      u16At (udpHeader sourcePort destPort length 0) 6 = 0 :=
  ⟨u16_le16 _, u16_le16 _⟩

/-- **The datagrams with a right checksum.** -/
theorem udpPacket_wire_iff (srcIp destIp : UInt32) (sourcePort destPort : UInt16) {data : Bytes}
    (hlen : data.length ≤ 65507) :
    ((udpPacket srcIp destIp sourcePort destPort data).drop 6).take 2 =
        be16 (udpStandardChecksum srcIp destIp
          (udpHeader sourcePort destPort (UInt16.ofNat (8 + data.length)) 0) data) ↔
      standardChecksum srcIp destIp ipProtocolUdp
          (udpHeader sourcePort destPort (UInt16.ofNat (8 + data.length)) 0) data ≠ 0 ∧
        data.length % 2 = 1 ∧ byteAt data (data.length - 1) = ipProtocolUdp := by
  obtain ⟨hlength, hfield⟩ :=
    udpHeader_fields sourcePort destPort (UInt16.ofNat (8 + data.length))
  have hwire := udp_wire_iff srcIp destIp (length_udpHeader ..) hfield hlength hlen
  have hplace : ((udpPacket srcIp destIp sourcePort destPort data).drop 6).take 2 =
      le16 (udpChecksum srcIp destIp
        (udpHeader sourcePort destPort (UInt16.ofNat (8 + data.length)) 0) data) := rfl
  rw [hplace]
  unfold udpStandardChecksum
  by_cases hzero : standardChecksum srcIp destIp ipProtocolUdp
      (udpHeader sourcePort destPort (UInt16.ofNat (8 + data.length)) 0) data = 0
  · rw [if_pos hzero]
    exact ⟨fun hones => absurd hones (udpChecksum_ne_ones _ _ _ hlen), fun h => absurd hzero h.1⟩
  · rw [if_neg hzero, hwire]
    exact (and_iff_right hzero).symm

/-! ## TCP -/

/-- What `tcp_checksum` has added before the payload, of which there are `length` bytes. -/
def tcpSum (srcIp destIp : UInt32) (header : Bytes) (length : Nat) : Nat :=
  wrap32 (wrap32 (srcIp.toNat / 65536 + srcIp.toNat % 65536 + destIp.toNat / 65536 +
    destIp.toNat % 65536 + ipProtocolTcp.toNat + (tcpHeaderSize + length)) + sumTcpHeader header)

theorem tcpChecksum_eq (srcIp destIp : UInt32) (header data : Bytes) :
    tcpChecksum srcIp destIp header data = finishChecksum
      (wrap32 (sumWords (tcpSum srcIp destIp header data.length) data + oddByte 256 data)) := by
  unfold tcpChecksum tcpSum
  simp only [Nat.add_assoc]

theorem sumTcpHeader_eq {header : Bytes} (hheader : header.length = 20)
    (hfield : u16At header 16 = 0) : sumTcpHeader header = (littleEndianWords header).sum := by
  rw [littleEndianWords_eq_map (n := 10) hheader]
  simp [sumTcpHeader, List.range_succ, hfield]

/--
The protocol number and the length in the wrong byte order make up for each other for some lengths,
given the right last byte.
-/
theorem tcp_wire_iff (srcIp destIp : UInt32) {header data : Bytes} (hheader : header.length = 20)
    (hfield : u16At header 16 = 0) (hlen : data.length ≤ 65507) :
    le16 (tcpChecksum srcIp destIp header data) =
        be16 (standardChecksum srcIp destIp ipProtocolTcp header data) ↔
      ((20 + data.length) / 256 + lastOdd data) % 257 = ((20 + data.length) % 256 + 6) % 257 := by
  have hwords : (littleEndianWords header).sum ≤ 65535 * 10 := by
    have hle := sum_le_of_lt (littleEndianWords_lt header)
    rw [littleEndianWords_eq header, List.length_map, length_bigEndianWords, hheader,
      ← littleEndianWords_eq] at hle
    exact hle
  have hstandard := standardSum_eq srcIp destIp ipProtocolTcp
    (by rw [hheader] : header.length % 2 = 0) (by omega : header.length + data.length < 65536)
  have hsrc := srcIp.toNat_lt
  have hdest := destIp.toNat_lt
  have hproto : ipProtocolTcp.toNat = 6 := rfl
  have hsum : tcpSum srcIp destIp header data.length =
      srcIp.toNat / 65536 + srcIp.toNat % 65536 + destIp.toNat / 65536 + destIp.toNat % 65536 + 6 +
        (20 + data.length) + (littleEndianWords header).sum := by
    unfold tcpSum
    rw [sumTcpHeader_eq hheader hfield, hproto]
    have hfirst : srcIp.toNat / 65536 + srcIp.toNat % 65536 + destIp.toNat / 65536 +
        destIp.toNat % 65536 + 6 + (tcpHeaderSize + data.length) < 2 ^ 32 := by
      unfold tcpHeaderSize
      omega
    rw [wrap32_eq_self hfirst, wrap32_eq_self (by unfold tcpHeaderSize; omega)]
    rfl
  rw [tcpChecksum_eq, code_wire_iff srcIp destIp (by rw [hproto]; omega) (by rw [hheader])
    (by omega) hlen (by omega) (by omega)]
  -- swapping the two bytes of the length changes it by a multiple of 255
  have hswap : standardSum srcIp destIp ipProtocolTcp header data +
        255 * ((20 + data.length) / 256) =
      tcpSum srcIp destIp header data.length + (littleEndianWords data).sum +
        255 * ((20 + data.length) % 256 + 6) := by
    rw [hstandard, hsum, hproto, hheader]
    unfold swapBytes
    omega
  have hcancel : ∀ x y : Nat, 255 * x % 65535 = 255 * y % 65535 ↔ x % 257 = y % 257 := by
    intro x y
    omega
  rw [← hcancel]
  omega

/-- What `tcp_send_packet` hands on is the segment. -/
theorem tcpSegmentOf_built {h h' : Host} {socket socket' : TcpSocket} {flags : UInt8}
    {data packet : Bytes}
    (hb : tcpSegmentOf h (some socket) flags data = .ok (some (socket', packet), h')) :
    packet = tcpSegment h.ip.ipAddress socket flags data := by
  unfold tcpSegmentOf at hb
  obtain ⟨rest, hk | ⟨block, hblock, hk⟩⟩ :=
    kmalloc_cases h (wrap32 (tcpHeaderSize + data.length))
  · rw [hk] at hb
    simp at hb
  · rw [hk] at hb
    dsimp only at hb
    by_cases hwrap : tcpHeaderSize + data.length < 2 ^ 32
    · rw [wrap32_eq_self hwrap] at hblock
      obtain ⟨p₁, p₂, header, hp₁, hp₂, hheader, hp₃⟩ :=
        write_tcpSegment h.ip.ipAddress socket flags block data hblock
      simp only [hp₁, hp₂, hheader, hp₃, ok_bind, pure, Except.pure, Except.ok.injEq, Prod.mk.injEq,
        Option.some.injEq] at hb
      exact hb.1.2.symm
    · -- the block is smaller than the header and the data
      have hlt : block.length < tcpHeaderSize + data.length := by
        have := wrap32_lt (tcpHeaderSize + data.length)
        omega
      rw [write_header_overflow (n := tcpHeaderSize) rfl hlt] at hb
      simp at hb

/-- **The segments with a right checksum.** -/
theorem tcpSegment_wire_iff (ip : UInt32) (socket : TcpSocket) (flags : UInt8) {data : Bytes}
    (hlen : data.length ≤ 65507) :
    ((tcpSegment ip socket flags data).drop 16).take 2 =
        be16 (standardChecksum ip socket.remoteIp ipProtocolTcp (tcpHeader socket flags 0) data) ↔
      ((20 + data.length) / 256 + lastOdd data) % 257 = ((20 + data.length) % 256 + 6) % 257 := by
  have hfield : u16At (tcpHeader socket flags 0) 16 = 0 := u16_le16 0
  rw [← tcp_wire_iff ip socket.remoteIp (length_tcpHeader socket flags 0) hfield hlen]
  exact Iff.rfl

/--
**Which datagrams and segments carry the checksum of the standard.**

The bytes 6 and 7 of a datagram and 16 and 17 of a segment are those that the receiver reads.
-/
theorem transport_checksum_iff (h : Host) (data : Bytes) :
    (∀ h' (socket : UdpSocket) destIp destPort packet,
      udpDatagram h (some socket) destIp destPort (some data) = .ok (some packet, h') →
      ((packet.drop 6).take 2 = be16 (udpStandardChecksum h.ip.ipAddress destIp
          (udpHeader socket.localPort destPort (UInt16.ofNat (8 + data.length)) 0) data) ↔
        standardChecksum h.ip.ipAddress destIp ipProtocolUdp
            (udpHeader socket.localPort destPort (UInt16.ofNat (8 + data.length)) 0) data ≠ 0 ∧
          data.length % 2 = 1 ∧ byteAt data (data.length - 1) = ipProtocolUdp)) ∧
    (∀ h' (socket socket' : TcpSocket) flags packet, data.length ≤ 65507 →
      tcpSegmentOf h (some socket) flags data = .ok (some (socket', packet), h') →
      ((packet.drop 16).take 2 = be16 (standardChecksum h.ip.ipAddress socket.remoteIp ipProtocolTcp
          (tcpHeader socket flags 0) data) ↔
        ((20 + data.length) / 256 + lastOdd data) % 257 =
          ((20 + data.length) % 256 + 6) % 257)) := by
  constructor
  · intro h' socket destIp destPort packet hb
    obtain ⟨rfl, hlen⟩ := udpDatagram_built hb
    exact udpPacket_wire_iff _ _ _ _ hlen
  · intro h' socket socket' flags packet hlen hb
    rw [tcpSegmentOf_built hb]
    exact tcpSegment_wire_iff _ _ _ hlen

/-! ## Two wrong checksums -/

/-- 10.0.0.1. -/
def senderHost : Host :=
  { exampleHost 0x0100000A ⟨2, 0, 0, 0, 0, 1⟩ with udp := UdpState.fresh }

theorem senderHost_allocates : senderHost.Allocates 0 := by
  unfold Host.Allocates
  decide

/-- A connection to port 80 of 10.0.0.2. -/
def webSocket : TcpSocket where
  addr := 1
  localPort := 49152
  remotePort := 80
  remoteIp := 0x0200000A
  state := .synSent
  seqNum := 0
  ackNum := 0
  callback := 1

theorem udpDatagram_two : ∃ h', udpDatagram senderHost (some exampleSocket) 0x0200000A 7
    (some [1, 2]) = .ok (some (udpPacket 0x0100000A 0x0200000A 7 7 [1, 2]), h') :=
  ⟨_, udpDatagram_eq rfl senderHost_allocates exampleSocket 0x0200000A 7 (by decide) (by decide)⟩

theorem tcpSegmentOf_syn : ∃ h', tcpSegmentOf senderHost (some webSocket) tcpFlagSyn [] =
    .ok (some (webSocket, tcpSegment 0x0100000A webSocket tcpFlagSyn []), h') :=
  ⟨_, rfl⟩

/-- **The checksums of a datagram of two bytes and of a SYN are wrong.** -/
theorem transport_checksum_wrong :
    ((∃ h', udpDatagram senderHost (some exampleSocket) 0x0200000A 7 (some [1, 2]) =
        .ok (some (udpPacket 0x0100000A 0x0200000A 7 7 [1, 2]), h')) ∧
      ((udpPacket 0x0100000A 0x0200000A 7 7 [1, 2]).drop 6).take 2 ≠
        be16 (udpStandardChecksum 0x0100000A 0x0200000A (udpHeader 7 7 10 0) [1, 2])) ∧
    (∃ h', tcpSegmentOf senderHost (some webSocket) tcpFlagSyn [] =
        .ok (some (webSocket, tcpSegment 0x0100000A webSocket tcpFlagSyn []), h')) ∧
      ((tcpSegment 0x0100000A webSocket tcpFlagSyn []).drop 16).take 2 ≠
        be16 (standardChecksum 0x0100000A 0x0200000A ipProtocolTcp
          (tcpHeader webSocket tcpFlagSyn 0) []) :=
  ⟨⟨udpDatagram_two, by decide +kernel⟩, tcpSegmentOf_syn, by decide +kernel⟩

theorem transport_checksum_small :
    (((udpPacket 0x0100000A 0x0200000A 7 7 [1, 2]).drop 6).take 2 =
        be16 (udpStandardChecksum senderHost.ip.ipAddress 0x0200000A
          (udpHeader exampleSocket.localPort 7 (UInt16.ofNat (8 + [1, 2].length)) 0) [1, 2]) ↔
      standardChecksum senderHost.ip.ipAddress 0x0200000A ipProtocolUdp
          (udpHeader exampleSocket.localPort 7 (UInt16.ofNat (8 + [1, 2].length)) 0) [1, 2] ≠ 0 ∧
        [1, 2].length % 2 = 1 ∧ byteAt [1, 2] ([1, 2].length - 1) = ipProtocolUdp) ∧
    (((tcpSegment 0x0100000A webSocket tcpFlagSyn []).drop 16).take 2 =
        be16 (standardChecksum senderHost.ip.ipAddress webSocket.remoteIp ipProtocolTcp
          (tcpHeader webSocket tcpFlagSyn 0) []) ↔
      ((20 + ([] : Bytes).length) / 256 + lastOdd []) % 257 =
        ((20 + ([] : Bytes).length) % 256 + 6) % 257) := by
  obtain ⟨h', hudp⟩ := udpDatagram_two
  obtain ⟨h'', htcp⟩ := tcpSegmentOf_syn
  exact ⟨(transport_checksum_iff senderHost [1, 2]).1 h' exampleSocket 0x0200000A 7 _ hudp,
    (transport_checksum_iff senderHost []).2 h'' webSocket webSocket tcpFlagSyn _ (by decide) htcp⟩

end MayaOs.Net
