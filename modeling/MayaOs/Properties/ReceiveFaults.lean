import MayaOs.Net.Ip
import MayaOs.Properties.TcpFault
import MayaOs.Properties.TcpLan

/-!
# Frames that a host does not survive

From the card to the handlers of the protocols, nothing outside of a frame is read as long as the
length in the IP header is right. What remains is the RST for a segment without a socket.

* `inside_iff_totalLength` — the range handed to a handler is inside the buffer iff `total_length`
  lies between the length of the header and that of the buffer
* `tcpHandlePacket_take` — what lies behind a segment does not matter
* `udpHandlePacket_total`, `icmpHandlePacket_total`, `arpHandlePacket_total` — the other protocols
* `receive_fault_iff` — a frame of any bytes
* `lan_fault_iff` — the frames of hosts that run this kernel
-/

namespace MayaOs.Net

open MayaOs.Lib

/-!
## The range handed to a protocol handler

`ip_handle_packet` computes the length of the data from the packet's own `total_length`, which it
compares neither with the header nor with the buffer.
-/

/-- A received buffer; its length is a `size_t`. -/
abbrev Buffer := { packet : Bytes // packet.length < 2 ^ 32 }

/-- `[data, data + data_length)` lies inside `[packet, packet + length)`. -/
def Inside (packet : Bytes) (c : HandlerCall) : Prop := c.offset + c.length ≤ packet.length

/-- The length that a packet claims to have covers its header and fits its buffer. -/
def TotalLengthOk (packet : Bytes) : Prop :=
  headerBytes packet ≤ totalLength packet ∧ totalLength packet ≤ packet.length

theorem inside_handlerCall_iff (packet : Buffer) (handler : IpHandler)
    (hfits : headerBytes packet.1 ≤ packet.1.length) :
    Inside packet.1 (handlerCall packet.1 handler) ↔ TotalLengthOk packet.1 := by
  have hsize := packet.2
  have htotal : totalLength packet.1 < 2 ^ 16 := UInt16.toNat_lt _
  unfold Inside TotalLengthOk handlerCall
  simp only []
  by_cases hle : headerBytes packet.1 ≤ totalLength packet.1
  · -- the difference is not negative
    have hlen : wrap32 (totalLength packet.1 + 2 ^ 32 - headerBytes packet.1)
        = totalLength packet.1 - headerBytes packet.1 := by
      unfold wrap32
      omega
    rw [hlen]
    omega
  · have hlen : wrap32 (totalLength packet.1 + 2 ^ 32 - headerBytes packet.1)
        = totalLength packet.1 + 2 ^ 32 - headerBytes packet.1 := wrap32_eq_self (by omega)
    rw [hlen]
    omega

/--
**The range handed to a handler is inside the buffer iff the packet is dropped or its `total_length`
covers the header and fits the buffer.**
-/
theorem inside_iff_totalLength (s : IpState) (packet : Buffer) :
    (∀ c packet', ipHandlePacket s (some packet.1) = .ok (some c, packet') → Inside packet.1 c) ↔
      ((∃ handler, Accepts s packet.1 handler) → TotalLengthOk packet.1) := by
  rcases ipHandlePacket_cases s packet.1 with ⟨handler, ha, heq⟩ | ⟨hno, packet', heq⟩
  · rw [heq]
    constructor
    · intro h _
      exact (inside_handlerCall_iff packet handler ha.headerFits).mp (h _ _ rfl)
    · intro h c packet' hc
      cases hc
      exact (inside_handlerCall_iff packet handler ha.headerFits).mpr (h ⟨handler, ha⟩)
  · rw [heq]
    constructor
    · rintro _ ⟨handler, ha⟩
      exact absurd ha (hno handler)
    · intro _ c packet' hc
      cases hc

/-- A host at 10.0.0.2 that listens for UDP. -/
def udpHost : IpState where
  ipAddress := 0x0200000A
  subnetMask := 0x00FFFFFF
  gateway := 0x0100000A
  idCounter := 0
  protocolHandlers := fun protocol => if protocol = 17 then some .udp else none
  initialized := true

/-- A header from 10.0.0.1 that claims a total length of 65535. -/
def overlongPacket : Bytes :=
  [0x45, 0, 0xFF, 0xFF, 0, 0, 0, 0, 64, 17, 0x66, 0xEB, 10, 0, 0, 1, 10, 0, 0, 2]

/-- **The handler is told of data far behind the end of the buffer.** -/
theorem range_outside :
    ipHandlePacket udpHost (some overlongPacket) =
      .ok (some { handler := .udp, srcIp := 0x0100000A, offset := 20, length := 65515 },
        some overlongPacket) ∧
    overlongPacket.length = 20 ∧
    ¬ Inside overlongPacket
      { handler := .udp, srcIp := 0x0100000A, offset := 20, length := 65515 } := by
  refine ⟨by decide +kernel, rfl, ?_⟩
  unfold Inside
  decide

/-! ## The part of a buffer that is read -/

section Take

variable {b : Bytes} {n i : Nat}

theorem read8_take (h : i < n) : read8 (b.take n) i = read8 b i := by
  unfold read8
  rw [List.getElem?_take_of_lt h]

theorem read16_take (h : i + 1 < n) : read16 (b.take n) i = read16 b i := by
  unfold read16
  rw [read8_take (by omega), read8_take h]

theorem read32_take (h : i + 3 < n) : read32 (b.take n) i = read32 b i := by
  unfold read32
  rw [read8_take (by omega), read8_take (by omega), read8_take (by omega), read8_take h]

theorem slice_take {m : Nat} (h : i + m ≤ n) (hn : n ≤ b.length) :
    slice (b.take n) i m = slice b i m := by
  rw [slice_eq (by rw [List.length_take]; omega), slice_eq (by omega), List.drop_take,
    List.take_take, Nat.min_eq_left (by omega)]

end Take

/-! ## TCP -/

section Tcp

variable {h : Host} {srcIp : UInt32} {packet : Bytes} {length : Nat}

/-- **What lies behind a segment does not matter.** -/
theorem tcpHandlePacket_take (hle : length ≤ packet.length) :
    tcpHandlePacket h srcIp (some packet) length =
      tcpHandlePacket h srcIp (some (packet.take length)) (packet.take length).length := by
  rw [List.length_take_of_le hle]
  unfold tcpHandlePacket
  dsimp only
  by_cases hguard : h.tcp.initialized = false ∨ length < tcpHeaderSize
  · rw [if_pos hguard, if_pos hguard]
  · rw [not_or, Nat.not_lt] at hguard
    have hheader : 20 ≤ length := hguard.2
    have hflags : read8 (packet.take length) 13 = read8 packet 13 := read8_take (by omega)
    have hseq : read32 (packet.take length) 4 = read32 packet 4 := read32_take (by omega)
    have hdata : slice (packet.take length) tcpHeaderSize (length - tcpHeaderSize) =
        slice packet tcpHeaderSize (length - tcpHeaderSize) :=
      slice_take (show 20 + (length - 20) ≤ length by omega) hle
    have hlisten : ∀ socket srcPort, handleListen h socket srcIp srcPort (packet.take length) =
        handleListen h socket srcIp srcPort packet := by
      intro socket srcPort
      unfold handleListen
      rw [hflags, hseq]
    have hsent : ∀ socket, handleSynSent h socket (packet.take length) =
        handleSynSent h socket packet := by
      intro socket
      unfold handleSynSent
      rw [hflags, hseq]
    have hestablished : ∀ socket, handleEstablished h socket (packet.take length) length =
        handleEstablished h socket packet length := by
      intro socket
      unfold handleEstablished handleData
      rw [hflags, hdata]
    rw [read16_take (by omega), read16_take (by omega)]
    simp only [hlisten, hsent, hestablished]

/-- A segment for which there is no socket, while there is memory for the RST. -/
def Stray (h : Host) (srcIp : UInt32) (segment : Bytes) : Prop :=
  Examined h segment ∧ ¬ Matched h srcIp segment ∧ (kmalloc h tcpHeaderSize).1 ≠ none

theorem tcpHandlePacket_fault_iff (hle : length ≤ packet.length) :
    (∃ fault, tcpHandlePacket h srcIp (some packet) length = .error fault) ↔
      Stray h srcIp (packet.take length) := by
  have hok := handlePacket_ok_iff h srcIp (some (packet.take length))
  rw [tcpHandlePacket_take hle]
  constructor
  · rintro ⟨fault, hfault⟩
    have hnot : ¬ ∃ result, tcpHandlePacket h srcIp (some (packet.take length))
        (packet.take length).length = .ok result := by
      rintro ⟨result, hresult⟩
      rw [hresult] at hfault
      cases hfault
    by_contra hstray
    refine hnot (hok.mpr fun p hp he => ?_)
    cases hp
    by_contra hmatched
    rw [not_or] at hmatched
    exact hstray ⟨he, hmatched.1, hmatched.2⟩
  · rintro ⟨he, hmatched, hmemory⟩
    cases hres : tcpHandlePacket h srcIp (some (packet.take length)) (packet.take length).length with
    | error fault => exact ⟨fault, rfl⟩
    | ok result =>
      rcases hok.mp ⟨result, hres⟩ _ rfl he with hm | hk
      · exact absurd hm hmatched
      · exact absurd hk hmemory

end Tcp

/-! ## The other protocols -/

theorem udpHandlePacket_total (h : Host) (srcIp : UInt32) {packet : Bytes} {length : Nat}
    (hle : length ≤ packet.length) :
    ∃ calls, udpHandlePacket h srcIp (some packet) length = .ok calls := by
  unfold udpHandlePacket
  dsimp only
  split
  · exact ⟨_, rfl⟩
  · next hguard =>
    rw [not_or, Nat.not_lt] at hguard
    have hheader : 8 ≤ length := hguard.2
    rw [read16_eq (by omega), ok_bind, read16_eq (by omega), ok_bind]
    split
    · exact ⟨_, rfl⟩
    · obtain ⟨packet', hwrite, hlen⟩ := write_ok packet 6 (le16 0) (by rw [length_le16]; omega)
      have hudp : slice packet' 0 udpHeaderSize = .ok _ :=
        slice_eq (show 0 + 8 ≤ packet'.length by omega)
      have hdata : slice packet' udpHeaderSize (length - udpHeaderSize) = .ok _ :=
        slice_eq (show 8 + (length - 8) ≤ packet'.length by omega)
      rw [read16_eq (by omega), ok_bind, hwrite, ok_bind, hudp, ok_bind, hdata, ok_bind]
      split
      · exact ⟨_, rfl⟩
      · exact ⟨_, rfl⟩

theorem echoReply_total (h : Host) {packet : Bytes} {length : Nat} (hheader : 8 ≤ length)
    (hle : length ≤ packet.length) :
    ∃ reply h', echoReply h packet length = .ok (reply, h') ∧
      ∀ bytes, reply = some bytes → bytes.length = length := by
  unfold echoReply
  obtain ⟨rest, hk | ⟨block, hblock, hk⟩⟩ := kmalloc_cases h length
  · rw [hk]
    exact ⟨none, _, rfl, fun _ hnone => nomatch hnone⟩
  · have horiginal : ((packet.drop 0).take length).length = length := by
      rw [List.drop_zero, List.length_take_of_le hle]
    obtain ⟨p₁, hp₁, hlen₁⟩ := write_ok block 0 ((packet.drop 0).take length) (by omega)
    obtain ⟨p₂, hp₂, hlen₂⟩ := write_ok p₁ 0 [icmpTypeEchoReply] (by simp; omega)
    obtain ⟨p₃, hp₃, hlen₃⟩ := write_ok p₂ 2 (le16 0) (by rw [length_le16]; omega)
    obtain ⟨p₄, hp₄, hlen₄⟩ := write_ok p₃ 2 (le16 (icmpChecksum p₃)) (by rw [length_le16]; omega)
    rw [hk]
    dsimp only
    rw [slice_eq (by omega), ok_bind, hp₁, ok_bind, hp₂, ok_bind, hp₃, ok_bind, hp₄, ok_bind]
    refine ⟨some p₄, _, rfl, fun bytes hbytes => ?_⟩
    cases hbytes
    omega

theorem icmpExamine_total (s : IcmpState) (h : Host) (srcIp : UInt32) {packet : Bytes}
    {length : Nat} (hle : length ≤ packet.length) :
    ∃ action packet' h', icmpExamine s h srcIp (some packet) length = .ok (action, packet', h') ∧
      ∀ reply, action = .reply reply → reply.length = length := by
  unfold icmpExamine
  dsimp only
  split
  · exact ⟨_, _, _, rfl, fun _ hdrop => nomatch hdrop⟩
  · next hguard =>
    rw [not_or, Nat.not_lt] at hguard
    have hheader : 8 ≤ length := hguard.2
    obtain ⟨p₁, hp₁, hlen₁⟩ := write_ok packet 2 (le16 0) (by rw [length_le16]; omega)
    obtain ⟨p₂, hp₂, hlen₂⟩ :=
      write_ok p₁ 2 (le16 (u16At packet 2)) (by rw [length_le16]; omega)
    rw [read16_eq (by omega), ok_bind, hp₁, ok_bind, slice_eq (by omega), ok_bind]
    split
    · exact ⟨_, _, _, rfl, fun _ hdrop => nomatch hdrop⟩
    · rw [hp₂, ok_bind, read8_eq (by omega), ok_bind]
      split
      · obtain ⟨reply, h', hreply, hsize⟩ := echoReply_total h hheader (show length ≤ p₂.length by omega)
        rw [hreply, ok_bind]
        refine ⟨_, _, _, rfl, fun bytes hbytes => ?_⟩
        cases reply with
        | none => cases hbytes
        | some _ =>
          cases hbytes
          exact hsize bytes rfl
      · split
        · rw [read16_eq (by omega), ok_bind, read16_eq (by omega), ok_bind]
          split
          · exact ⟨_, _, _, rfl, fun _ hdrop => nomatch hdrop⟩
          · have hdata : slice p₂ icmpHeaderSize (length - icmpHeaderSize) = .ok _ :=
              slice_eq (show 8 + (length - 8) ≤ p₂.length by omega)
            rw [hdata, ok_bind]
            exact ⟨_, _, _, rfl, fun _ hcall => nomatch hcall⟩
        · exact ⟨_, _, _, rfl, fun _ hdrop => nomatch hdrop⟩

/-- The reply is no longer than the message. -/
theorem icmpHandlePacket_total (s : IcmpState) (h : Host) (srcIp : UInt32) {packet : Bytes}
    {length : Nat} (hle : length ≤ packet.length) (hshort : length < 2 ^ 16) :
    ∃ r, icmpHandlePacket s h srcIp (some packet) length = .ok r := by
  obtain ⟨action, packet', h', hexamine, hsize⟩ := icmpExamine_total s h srcIp hle
  unfold icmpHandlePacket
  rw [hexamine, ok_bind]
  cases action with
  | drop => exact ⟨_, rfl⟩
  | reply reply =>
    have hlen := hsize reply rfl
    obtain ⟨ok, h₁, -, -, hip, -⟩ := ipSendPacket_cases h' srcIp ipProtocolIcmp reply (by omega)
    dsimp only
    rw [hip, ok_bind]
    exact ⟨_, rfl⟩
  | call echo => exact ⟨_, rfl⟩

theorem readMac_ok {b : Bytes} {i : Nat} (h : i + 5 < b.length) : ∃ mac, readMac b i = .ok mac := by
  unfold readMac
  rw [read8_eq (by omega), ok_bind, read8_eq (by omega), ok_bind, read8_eq (by omega), ok_bind,
    read8_eq (by omega), ok_bind, read8_eq (by omega), ok_bind, read8_eq h, ok_bind]
  exact ⟨_, rfl⟩

theorem arpHandlePacket_total (h : Host) (packet : Bytes) :
    ∃ h', arpHandlePacket h packet = .ok h' := by
  unfold arpHandlePacket
  split
  · exact ⟨h, rfl⟩
  · rw [read16_eq (by omega), ok_bind]
    obtain ⟨mac, hread⟩ := readMac_ok (show 8 + 5 < packet.length by omega)
    split
    · rw [read32_eq (by omega), ok_bind, hread, ok_bind]
      exact ⟨_, rfl⟩
    · split
      · rw [read32_eq (by omega), ok_bind]
        split
        · obtain ⟨ok, h', frames, hsend, -⟩ := ethernetSendFrame_cases h mac arpType
            (arpReply h.nic.macAddr h.ip.ipAddress mac (u32At packet 14))
            (by rw [length_arpReply]; decide)
          rw [hread, ok_bind, read32_eq (by omega), ok_bind, hsend, ok_bind]
          exact ⟨h', rfl⟩
        · exact ⟨h, rfl⟩
      · exact ⟨h, rfl⟩

/-! ## A frame -/

/-- The packet that `ip_handle_packet` gets. -/
def IpPayload (n : LanNode) (frame packet : Bytes) : Prop :=
  ∃ rx, ethernetHandleFrame n.host.ethernet (some frame) = .ok (some rx) ∧
    rx.type = etherTypeIp ∧ rx.data = packet

/-- What the packet carries, as long as the length in its header says. -/
def ipData (packet : Bytes) : Bytes :=
  (packet.drop (headerBytes packet)).take (totalLength packet - headerBytes packet)

/-- The length in the header of a packet that is accepted covers the header, and the frame has it. -/
def Honest (n : LanNode) (frame : Bytes) : Prop :=
  ∀ packet handler, IpPayload n frame packet → Accepts n.host.ip packet handler →
    TotalLengthOk packet

/-- The frame has a TCP segment for the host, and the host has no socket for it. -/
def CarriesStray (n : LanNode) (frame : Bytes) : Prop :=
  ∃ packet, IpPayload n frame packet ∧ Accepts n.host.ip packet .tcp ∧
    Stray n.host (u32At packet 12) (ipData packet)

/-- `ethernet_handle_frame` reads nothing behind its header, and passes on short frames only. -/
theorem ethernetHandleFrame_total (s : EthernetState) (frame : Bytes) :
    ∃ r, ethernetHandleFrame s (some frame) = .ok r := by
  unfold ethernetHandleFrame
  dsimp only
  split
  · exact ⟨_, rfl⟩
  · next hguard =>
    rw [not_or, not_or, Nat.not_lt] at hguard
    have hheader : 14 ≤ frame.length := hguard.2.1
    obtain ⟨destMac, hdest⟩ := readMac_ok (show 0 + 5 < frame.length by omega)
    obtain ⟨srcMac, hsrc⟩ := readMac_ok (show 6 + 5 < frame.length by omega)
    rw [hdest, ok_bind]
    split
    · exact ⟨_, rfl⟩
    · rw [hsrc, ok_bind, read16_eq (by omega), ok_bind]
      split
      · exact ⟨_, rfl⟩
      · exact ⟨_, rfl⟩

/-- **A packet of any bytes**, with the right length. -/
theorem ipInput_fault_iff {n : LanNode} {packet : Bytes}
    (hlength : ∀ handler, Accepts n.host.ip packet handler → TotalLengthOk packet) :
    (∃ fault, ipInput n packet = .error fault) ↔
      Accepts n.host.ip packet .tcp ∧ Stray n.host (u32At packet 12) (ipData packet) := by
  unfold ipInput
  rcases ipHandlePacket_cases n.host.ip packet with ⟨handler, haccepts, hip⟩ | ⟨hno, packet', hip⟩
  · obtain ⟨hcovers, hfits⟩ := hlength handler haccepts
    have htotal : totalLength packet < 2 ^ 16 := UInt16.toNat_lt _
    have hwrap : wrap32 (totalLength packet + 2 ^ 32 - headerBytes packet) =
        totalLength packet - headerBytes packet := by
      rw [show totalLength packet + 2 ^ 32 - headerBytes packet =
        totalLength packet - headerBytes packet + 2 ^ 32 from by omega]
      exact (Nat.add_mod_right _ _).trans (Nat.mod_eq_of_lt (by omega))
    have hle : totalLength packet - headerBytes packet ≤
        (packet.drop (headerBytes packet)).length := by
      rw [List.length_drop]
      omega
    have hother : handler ≠ .tcp → ¬ Accepts n.host.ip packet .tcp := by
      intro hne htcp
      exact hne (Option.some.inj (haccepts.handler.symm.trans htcp.handler))
    rw [hip, ok_bind]
    unfold callHandler handlerCall
    dsimp only
    rw [hwrap]
    cases handler with
    | tcp =>
      rw [tcpHandlePacket_fault_iff hle]
      exact (and_iff_right haccepts).symm
    | udp =>
      obtain ⟨calls, hcalls⟩ := udpHandlePacket_total n.host (u32At packet 12) hle
      rw [hcalls, ok_bind]
      exact iff_of_false (fun ⟨_, hfault⟩ => nomatch hfault)
        fun htcp => hother IpHandler.noConfusion htcp.1
    | icmp =>
      obtain ⟨r, hr⟩ := icmpHandlePacket_total n.icmp n.host (u32At packet 12) hle (by omega)
      rw [hr, ok_bind]
      exact iff_of_false (fun ⟨_, hfault⟩ => nomatch hfault)
        fun htcp => hother IpHandler.noConfusion htcp.1
    | other callback =>
      exact iff_of_false (fun ⟨_, hfault⟩ => nomatch hfault)
        fun htcp => hother IpHandler.noConfusion htcp.1
  · rw [hip]
    exact iff_of_false (fun ⟨_, hfault⟩ => nomatch hfault) fun htcp => hno _ htcp.1

/--
**What a host does not survive is a TCP segment for which it has no socket**, when there is memory
for the RST. The frame has any bytes; only the length in its IP header is right.
-/
theorem receive_fault_iff {n : LanNode} {frame : Bytes} (h : Honest n frame) :
    (∃ fault, receive n frame = .error fault) ↔ CarriesStray n frame := by
  have hpayload : ∀ {rx packet}, ethernetHandleFrame n.host.ethernet (some frame) = .ok (some rx) →
      (IpPayload n frame packet ↔ rx.type = etherTypeIp ∧ rx.data = packet) := by
    intro rx packet hrx
    constructor
    · rintro ⟨rx', hrx', htype, hdata⟩
      rw [hrx] at hrx'
      cases hrx'
      exact ⟨htype, hdata⟩
    · rintro ⟨htype, hdata⟩
      exact ⟨rx, hrx, htype, hdata⟩
  obtain ⟨r, hr⟩ := ethernetHandleFrame_total n.host.ethernet frame
  unfold receive CarriesStray
  rw [hr, ok_bind]
  cases r with
  | none =>
    refine iff_of_false (fun ⟨_, hfault⟩ => nomatch hfault) ?_
    rintro ⟨packet, ⟨rx, hrx, -⟩, -⟩
    rw [hr] at hrx
    cases hrx
  | some rx =>
    simp only [hpayload hr]
    by_cases hip : rx.type = etherTypeIp
    · rw [if_pos hip]
      rw [ipInput_fault_iff fun handler => h rx.data handler ((hpayload hr).mpr ⟨hip, rfl⟩)]
      constructor
      · exact fun hstray => ⟨rx.data, ⟨hip, rfl⟩, hstray⟩
      · rintro ⟨_, ⟨-, rfl⟩, hstray⟩
        exact hstray
    · rw [if_neg hip]
      refine iff_of_false ?_ fun ⟨_, hpacket, _⟩ => hip hpacket.1
      rintro ⟨fault, hfault⟩
      split at hfault
      · obtain ⟨h', harp⟩ := arpHandlePacket_total n.host rx.data
        rw [harp] at hfault
        cases hfault
      · cases hfault

/-- A host at 10.0.0.2 after `tcp_init`, with no socket. -/
def lonelyNode : LanNode where
  host := listeningHost
  icmp := { echoCallback := 0, initialized := false }

/-- 20 bytes of zeros as a segment for 10.0.0.2. -/
def zeroSegmentFrame : Bytes :=
  etherFrame ⟨2, 0, 0, 0, 0, 2⟩ ⟨2, 0, 0, 0, 0, 1⟩ etherTypeIp
    (ipPacket { listeningHost.ip with ipAddress := 0x0100000A } 0x0200000A ipProtocolTcp
      (List.replicate 20 0))

theorem receive_fault_iff_zeros : CarriesStray lonelyNode zeroSegmentFrame := by
  have hhonest : Honest lonelyNode zeroSegmentFrame := by
    rintro packet handler ⟨rx, hrx, -, rfl⟩ -
    cases hrx
    exact ⟨by decide, by decide⟩
  have hcrash : (receive lonelyNode zeroSegmentFrame).toOption.isNone = true := by decide +kernel
  refine (receive_fault_iff hhonest).mp ?_
  cases hreceive : receive lonelyNode zeroSegmentFrame with
  | error fault => exact ⟨fault, rfl⟩
  | ok r =>
    rw [hreceive] at hcrash
    cases hcrash

/-! ## Hosts that run this kernel -/

/-- What a host makes of a frame of another one. -/
theorem QuietFrame.payload {frame : Bytes} (h : QuietFrame frame) {n : LanNode} {packet : Bytes}
    (hpayload : IpPayload n frame packet) :
    ∃ s destIp protocol data rest, packet = ipPacket s destIp protocol data ++ rest ∧
      data.length ≤ 1480 ∧ (protocol = ipProtocolTcp → IsSyn data) := by
  obtain ⟨rx, hrx, htype, rfl⟩ := hpayload
  obtain ⟨destMac, srcMac, type, payload, rfl, hquiet⟩ := h
  rcases ethernetHandleFrame_sent n.host.ethernet destMac srcMac type payload with
    hnone | ⟨callback, hsome⟩
  · rw [hnone] at hrx
    cases hrx
  · rw [hsome] at hrx
    cases hrx
    rcases hquiet with rfl | ⟨-, s, destIp, protocol, data, rfl, hlen, hsyn⟩
    · have harp : arpType ≠ etherTypeIp := by decide
      exact absurd htype harp
    · exact ⟨s, destIp, protocol, data, _, rfl, hlen, hsyn⟩

section Packet

variable (s : IpState) (destIp : UInt32) (protocol : UInt8) {data : Bytes} (rest : Bytes)

theorem headerBytes_ipPacket : headerBytes (ipPacket s destIp protocol data ++ rest) = 20 := by
  unfold ipPacket
  dsimp only
  rw [List.append_assoc]
  exact headerBytes_ipHeader ..

theorem totalLength_ipPacket (hlen : data.length ≤ 1480) :
    totalLength (ipPacket s destIp protocol data ++ rest) = 20 + data.length := by
  unfold totalLength ipPacket
  dsimp only
  rw [List.append_assoc, u16At_length_ipHeader, swap16_swap16, UInt16.toNat_ofNat',
    Nat.mod_eq_of_lt (by omega)]

theorem ipData_ipPacket (hlen : data.length ≤ 1480) :
    ipData (ipPacket s destIp protocol data ++ rest) = data := by
  unfold ipData
  rw [headerBytes_ipPacket, totalLength_ipPacket s destIp protocol rest hlen, Nat.add_sub_cancel_left]
  show (data ++ rest).take data.length = data
  exact List.take_left

end Packet

/-- The length is right in what `ip_send_packet` sends. -/
theorem QuietFrame.honest {frame : Bytes} (h : QuietFrame frame) (n : LanNode) : Honest n frame := by
  intro packet handler hpayload _
  obtain ⟨s, destIp, protocol, data, rest, rfl, hlen, -⟩ := h.payload hpayload
  unfold TotalLengthOk
  rw [headerBytes_ipPacket, totalLength_ipPacket s destIp protocol rest hlen, List.length_append,
    length_ipPacket]
  omega

/-- The frame has a SYN for the host, which `socket` of the host at `srcIp` has sent. -/
def CarriesSyn (n : LanNode) (frame : Bytes) (srcIp : UInt32) (socket : TcpSocket) : Prop :=
  ∃ packet ip, IpPayload n frame packet ∧ Accepts n.host.ip packet .tcp ∧
    u32At packet 12 = srcIp ∧ ipData packet = tcpSegment ip socket tcpFlagSyn []

/-- A socket of the host that is connected, or connects, to the one that has sent the SYN. -/
def Crosses (srcIp : UInt32) (socket x : TcpSocket) : Prop :=
  x.localPort = socket.remotePort ∧ x.remotePort = socket.localPort ∧ x.remoteIp = srcIp

/-- **Only a socket that crosses it takes a SYN**, since none listens. -/
theorem stray_syn_iff {n : LanNode} (hn : NodeQuiet n) (srcIp ip : UInt32) (socket : TcpSocket) :
    Stray n.host srcIp (tcpSegment ip socket tcpFlagSyn []) ↔
      n.host.tcp.initialized = true ∧ (∀ x ∈ n.host.tcp.sockets, ¬ Crosses srcIp socket x) ∧
        (kmalloc n.host tcpHeaderSize).1 ≠ none := by
  have hsrc : swap16 (u16At (tcpSegment ip socket tcpFlagSyn []) 0) = socket.localPort := by
    have hfield : u16At (tcpSegment ip socket tcpFlagSyn []) 0 = swap16 socket.localPort := u16_le16 _
    rw [hfield, swap16_swap16]
  have hdest : swap16 (u16At (tcpSegment ip socket tcpFlagSyn []) 2) = socket.remotePort := by
    have hfield : u16At (tcpSegment ip socket tcpFlagSyn []) 2 = swap16 socket.remotePort := u16_le16 _
    rw [hfield, swap16_swap16]
  have hmatched : Matched n.host srcIp (tcpSegment ip socket tcpFlagSyn []) ↔
      ∃ x ∈ n.host.tcp.sockets, Crosses srcIp socket x := by
    unfold Matched
    rw [hsrc, hdest]
    refine exists_congr fun x => and_congr_right fun hx => ?_
    have hlisten : x.state ≠ .listen := by
      rcases hn.idle x hx with hstate | hstate <;> rw [hstate] <;> exact TcpSocketState.noConfusion
    unfold tcpMatches Crosses
    simp [hlisten]
  have hexamined : Examined n.host (tcpSegment ip socket tcpFlagSyn []) ↔
      n.host.tcp.initialized = true :=
    and_iff_left (by rw [length_tcpSegment]; exact Nat.le_refl _)
  unfold Stray
  rw [hexamined, hmatched, not_exists]
  simp only [not_and]

variable {ι : Type} [DecidableEq ι]

/--
**A host of this network crashes on a frame exactly if it is a SYN which no socket of its own
crosses.** The frame is one that a host has sent, in any run of the hosts; it may arrive at any of
them.
-/
theorem lan_fault_iff {s₀ s : Lan ι} (h₀ : ∀ i, NodeFresh (s₀.nodes i)) (he : s₀.events = [])
    {as : List (LanEvent ι)} (hrun : run lanStep s₀ as = some s) (src dest : ι) {frame : Bytes}
    (hframe : frame ∈ (s.nodes src).host.nic.sent) :
    (∃ fault, receive (s.nodes dest) frame = .error fault) ↔
      ∃ srcIp socket, CarriesSyn (s.nodes dest) frame srcIp socket ∧
        (s.nodes dest).host.tcp.initialized = true ∧
        (∀ x ∈ (s.nodes dest).host.tcp.sockets, ¬ Crosses srcIp socket x) ∧
        (kmalloc (s.nodes dest).host tcpHeaderSize).1 ≠ none := by
  have hs := invariant_run lanStep_quiet ⟨fun i => (h₀ i).quiet, he⟩ hrun
  have hquiet := (hs.nodes src).sent frame hframe
  have hn := hs.nodes dest
  rw [receive_fault_iff (hquiet.honest (s.nodes dest))]
  constructor
  · rintro ⟨packet, hpayload, haccepts, hstray⟩
    obtain ⟨ipState, destIp, protocol, data, rest, rfl, hlen, hsyn⟩ := hquiet.payload hpayload
    have hprotocol : protocol = ipProtocolTcp := hn.handlers protocol haccepts.handler
    obtain ⟨ip, socket, rfl⟩ := hsyn hprotocol
    have hdata := ipData_ipPacket ipState destIp protocol rest hlen
    rw [hdata] at hstray
    exact ⟨_, socket, ⟨_, ip, hpayload, haccepts, rfl, hdata⟩, (stray_syn_iff hn _ ip socket).mp hstray⟩
  · rintro ⟨_, socket, ⟨packet, ip, hpayload, haccepts, rfl, hdata⟩, hno⟩
    refine ⟨packet, hpayload, haccepts, ?_⟩
    rw [hdata]
    exact (stray_syn_iff hn _ ip socket).mpr hno

/-- `tcp_connect` to a host without sockets. -/
def loneSyn : List (LanEvent Bool) :=
  [.call false (.tcpCreateSocket 1 0x100000), .call false (.tcpConnect 0x100000 0x0200000A 80)]

theorem lan_fault_iff_lone : ∃ s frame, run lanStep twoHosts loneSyn = some s ∧
    frame ∈ (s.nodes false).host.nic.sent ∧
    ∃ srcIp socket, CarriesSyn (s.nodes true) frame srcIp socket ∧
      (s.nodes true).host.tcp.initialized = true ∧
      (∀ x ∈ (s.nodes true).host.tcp.sockets, ¬ Crosses srcIp socket x) ∧
      (kmalloc (s.nodes true).host tcpHeaderSize).1 ≠ none := by
  have hcrash : ((run lanStep twoHosts loneSyn).elim false fun s =>
      (s.nodes false).host.nic.sent.any fun frame =>
        (receive (s.nodes true) frame).toOption.isNone) = true := by
    decide +kernel
  cases hrun : run lanStep twoHosts loneSyn with
  | none =>
    rw [hrun] at hcrash
    cases hcrash
  | some s =>
    rw [hrun, Option.elim_some, List.any_eq_true] at hcrash
    obtain ⟨frame, hframe, hnone⟩ := hcrash
    have hfault : ∃ fault, receive (s.nodes true) frame = .error fault := by
      cases hreceive : receive (s.nodes true) frame with
      | error fault => exact ⟨fault, rfl⟩
      | ok r =>
        rw [hreceive] at hnone
        cases hnone
    exact ⟨s, frame, rfl, hframe,
      (lan_fault_iff nodeFresh_twoHosts rfl hrun false true hframe).mp hfault⟩

end MayaOs.Net
