import MayaOs.Net.Builders

/-!
# What the packets contain

Two runs of a packet builder that differ in the former contents of the memory only. The heap blocks
of the builders and their variables on the stack are filled completely, with two exceptions:

* `icmp_send_destination_unreachable` leaves four bytes behind the header as they were
* `ip_send_packet` passes on an address that `arp_resolve` has not written before `arp_init`

* `determined_iff` — what is handed on does not depend on the memory iff this is neither of the two
* `unreachable_leaks` — the four bytes
-/

namespace MayaOs.Net

open MayaOs.Lib

/-- `n'` is `n` with other contents of the blocks still to be allocated and of the stack. -/
def SameButMemory (n n' : Node) : Prop :=
  ∃ allocs stack below, allocs.map Option.isSome = n.host.allocs.map Option.isSome ∧
    n' = { n with
      host := { n.host with allocs := allocs, stack := stack }
      stackBelow := below }

/-- What is handed on does not depend on these contents. -/
def Determined (n : Node) (call : PacketBuilder) : Prop :=
  ∀ n', SameButMemory n n' → handed n' call = handed n call

/-- `ip_send_packet` gets to `ethernet_send_frame`. -/
structure BuildsPacket (h : Host) (data : Bytes) : Prop where
  initialized : h.ip.initialized = true
  positive : 0 < data.length
  fits : data.length ≤ 65515
  packet : h.Allocates 0

/-- `icmp_send_destination_unreachable` gets to `ip_send_packet`. -/
structure BuildsUnreachable (s : IcmpState) (h : Host) (orig : Bytes) : Prop where
  initialized : s.initialized = true
  long : 28 ≤ orig.length
  noWrap : 12 ≤ wrap32 (icmpHeaderSize + 4 + orig.length)
  packet : h.Allocates 0

/-- The builder gets to the next layer, with bytes that it has not written. -/
def LeaksMemory (n : Node) : PacketBuilder → Prop
  | .icmpSendDestinationUnreachable _ _ (some orig) => BuildsUnreachable n.icmp n.host orig
  | .ipSendPacket _ _ (some data) => BuildsPacket n.host data ∧ n.host.arp.initialized = false
  | _ => False

/-! ## Two runs of kmalloc -/

section TwoRuns

variable {h : Host} {allocs : List (Option (Nat → UInt8))} {stack : Mac}

theorem allocates_congr (stack : Mac)
    (hallocs : allocs.map Option.isSome = h.allocs.map Option.isSome) :
    { h with allocs := allocs, stack := stack }.Allocates 0 ↔ h.Allocates 0 := by
  unfold Host.Allocates
  cases allocs with
  | nil =>
    rw [List.map_nil, eq_comm, List.map_eq_nil_iff] at hallocs
    rw [hallocs]
  | cons a allocs =>
    cases hl : h.allocs with
    | nil => rw [hl] at hallocs; cases hallocs
    | cons b rest =>
      rw [hl, List.map_cons, List.map_cons] at hallocs
      simp only [List.getD_cons_zero, (List.cons.inj hallocs).1]

/-- Both calls fail, or both give a block of the size asked for. -/
theorem kmalloc_congr (stack : Mac)
    (hallocs : allocs.map Option.isSome = h.allocs.map Option.isSome) (size : Nat) :
    ∃ rest rest', (kmalloc h size = (none, { h with allocs := rest }) ∧
        kmalloc { h with allocs := allocs, stack := stack } size =
          (none, { h with allocs := rest', stack := stack })) ∨
      h.Allocates 0 ∧ ∃ block block', block.length = size ∧ block'.length = size ∧
        kmalloc h size = (some block, { h with allocs := rest }) ∧
        kmalloc { h with allocs := allocs, stack := stack } size =
          (some block', { h with allocs := rest', stack := stack }) := by
  by_cases halloc : h.Allocates 0
  · obtain ⟨block, hblock, hk⟩ := kmalloc_some halloc size
    obtain ⟨block', hblock', hk'⟩ := kmalloc_some ((allocates_congr stack hallocs).mpr
      halloc) size
    exact ⟨_, _, Or.inr ⟨halloc, block, block', hblock, hblock', hk, hk'⟩⟩
  · exact ⟨_, _, Or.inl ⟨kmalloc_none halloc size,
      kmalloc_none (fun ha => halloc ((allocates_congr stack hallocs).mp ha)) size⟩⟩

/-! ## Builders that fill their block -/

variable {γ : Type}

theorem ethernetFrame_congr (hallocs : allocs.map Option.isSome = h.allocs.map Option.isSome)
    (destMac : Option Mac) (type : UInt16) (data : Option Bytes)
    (k : Option Bytes → Except Fault γ) :
    (ethernetFrame { h with allocs := allocs, stack := stack } destMac type data >>= fun r => k r.1)
      = (ethernetFrame h destMac type data >>= fun r => k r.1) := by
  rcases destMac with - | destMac
  · rfl
  · rcases data with - | data
    · rfl
    · unfold ethernetFrame
      dsimp only
      by_cases hg : h.ethernet.initialized = false ∨ data.length = 0
      · rw [if_pos hg, if_pos hg]
        rfl
      · rw [if_neg hg, if_neg hg]
        split
        · rfl
        · next hsize =>
          obtain ⟨rest, rest', ⟨hk, hk'⟩ | ⟨-, block, block', hblock, hblock', hk, hk'⟩⟩ :=
            kmalloc_congr stack hallocs
              (max ethernetMinFrameSize (wrap32 (ethernetHeaderSize + data.length)))
          · rw [hk, hk']
            rfl
          · rw [hk, hk']
            simp only [bind_assoc, pure_bind]
            by_cases hwrap : ethernetHeaderSize + data.length < 2 ^ 32
            · rw [wrap32_eq_self hwrap] at hblock hblock' ⊢
              have hpad : max ethernetMinFrameSize (ethernetHeaderSize + data.length) =
                  14 + data.length + (max ethernetMinFrameSize (ethernetHeaderSize + data.length) -
                    (ethernetHeaderSize + data.length)) := by
                unfold ethernetHeaderSize
                omega
              obtain ⟨f₁, f₂, hf₁, hf₂, hf₃⟩ := write_frame block
                (ethernetHeader destMac h.ethernet.macAddress type) data _ rfl (hblock.trans hpad)
              obtain ⟨g₁, g₂, hg₁, hg₂, hg₃⟩ := write_frame block'
                (ethernetHeader destMac h.ethernet.macAddress type) data _ rfl (hblock'.trans hpad)
              simp only [hf₁, hf₂, hg₁, hg₂, ok_bind]
              unfold ethernetHeaderSize at hf₃ hg₃ ⊢
              rw [hf₃, hg₃]
            · -- the sum has wrapped around
              have hsmall : max ethernetMinFrameSize (wrap32 (ethernetHeaderSize + data.length)) <
                  ethernetHeaderSize + data.length := by
                unfold ethernetMaxFrameSize at hsize
                omega
              rw [write_header_overflow (n := ethernetHeaderSize) rfl
                  (by rw [hblock']; exact hsmall),
                write_header_overflow (n := ethernetHeaderSize) rfl
                  (by rw [hblock]; exact hsmall), hblock, hblock']

theorem wrap32_le (n : Nat) : wrap32 n ≤ n := Nat.mod_le n _

theorem udpDatagram_congr (hallocs : allocs.map Option.isSome = h.allocs.map Option.isSome)
    (socket : Option UdpSocket) (destIp : UInt32) (destPort : UInt16) (data : Option Bytes)
    (k : Option Bytes → Except Fault γ) :
    (udpDatagram { h with allocs := allocs, stack := stack } socket destIp destPort data >>=
        fun r => k r.1)
      = (udpDatagram h socket destIp destPort data >>= fun r => k r.1) := by
  rcases socket with - | socket
  · rfl
  · rcases data with - | data
    · rfl
    · unfold udpDatagram
      dsimp only
      by_cases hg : h.udp.initialized = false ∨ data.length = 0
      · rw [if_pos hg, if_pos hg]
        rfl
      · rw [if_neg hg, if_neg hg]
        split
        · rfl
        · obtain ⟨rest, rest', ⟨hk, hk'⟩ | ⟨-, block, block', hblock, hblock', hk, hk'⟩⟩ :=
            kmalloc_congr stack hallocs (wrap32 (udpHeaderSize + data.length))
          · rw [hk, hk']
            rfl
          · rw [hk, hk']
            simp only [bind_assoc, pure_bind]
            exact write_header_congr (n := udpHeaderSize) rfl (by rw [hblock']; exact wrap32_le _)
              (hblock.trans hblock'.symm) _

theorem tcpSegmentOf_congr (hallocs : allocs.map Option.isSome = h.allocs.map Option.isSome)
    (socket : Option TcpSocket) (flags : UInt8) (data : Bytes)
    (k : Option (TcpSocket × Bytes) → Except Fault γ) :
    (tcpSegmentOf { h with allocs := allocs, stack := stack } socket flags data >>= fun r => k r.1)
      = (tcpSegmentOf h socket flags data >>= fun r => k r.1) := by
  unfold tcpSegmentOf
  obtain ⟨rest, rest', ⟨hk, hk'⟩ | ⟨-, block, block', hblock, hblock', hk, hk'⟩⟩ :=
    kmalloc_congr stack hallocs (wrap32 (tcpHeaderSize + data.length))
  · rw [hk, hk']
    rfl
  · rw [hk, hk']
    rcases socket with - | socket
    · rfl
    · simp only [bind_assoc, pure_bind]
      exact write_header_congr (n := tcpHeaderSize) rfl (by rw [hblock']; exact wrap32_le _)
        (hblock.trans hblock'.symm) _

theorem echoRequest_congr (hallocs : allocs.map Option.isSome = h.allocs.map Option.isSome)
    (s : IcmpState) (identifier sequence : UInt16) (data : Option Bytes)
    (k : Option Bytes → Except Fault γ) :
    (echoRequest s { h with allocs := allocs, stack := stack } identifier sequence data >>=
        fun r => k r.1)
      = (echoRequest s h identifier sequence data >>= fun r => k r.1) := by
  rcases data with - | data
  · rfl
  · unfold echoRequest
    dsimp only
    by_cases hg : s.initialized = false ∨ data.length = 0
    · rw [if_pos hg, if_pos hg]
      rfl
    · rw [if_neg hg, if_neg hg]
      obtain ⟨rest, rest', ⟨hk, hk'⟩ | ⟨-, block, block', hblock, hblock', hk, hk'⟩⟩ :=
        kmalloc_congr stack hallocs (wrap32 (icmpHeaderSize + data.length))
      · rw [hk, hk']
        rfl
      · rw [hk, hk']
        simp only [bind_assoc, pure_bind]
        exact write_header_congr (n := icmpHeaderSize) rfl (by rw [hblock']; exact wrap32_le _)
          (hblock.trans hblock'.symm) _

/-- The reply is a copy of the packet, changed in three fields. -/
theorem echoReply_congr (hallocs : allocs.map Option.isSome = h.allocs.map Option.isSome)
    (packet : Bytes) (length : Nat) (k : Option Bytes → Except Fault γ) :
    (echoReply { h with allocs := allocs, stack := stack } packet length >>= fun r => k r.1)
      = (echoReply h packet length >>= fun r => k r.1) := by
  unfold echoReply
  obtain ⟨rest, rest', ⟨hk, hk'⟩ | ⟨-, block, block', hblock, hblock', hk, hk'⟩⟩ :=
    kmalloc_congr stack hallocs length
  · rw [hk, hk']
    rfl
  · rw [hk, hk']
    simp only [bind_assoc, pure_bind]
    unfold slice
    by_cases hlen : 0 + length ≤ packet.length
    · have hcopy : ((packet.drop 0).take length).length = length := by
        rw [List.drop_zero, List.length_take]
        omega
      rw [if_pos hlen, ok_bind, ok_bind, write_all (hcopy.trans hblock.symm),
        write_all (hcopy.trans hblock'.symm)]
    · rw [if_neg hlen]
      rfl

theorem icmpExamine_congr (hallocs : allocs.map Option.isSome = h.allocs.map Option.isSome)
    (s : IcmpState) (srcIp : UInt32) (packet : Option Bytes) (length : Nat)
    (k : Option Bytes → Except Fault γ) :
    (icmpExamine s { h with allocs := allocs, stack := stack } srcIp packet length >>=
        fun r => k r.1.replyOf)
      = (icmpExamine s h srcIp packet length >>= fun r => k r.1.replyOf) := by
  rcases packet with - | packet
  · rfl
  · have hreply : ∀ packet : Bytes,
        (echoReply { h with allocs := allocs, stack := stack } packet length >>= fun r =>
          k (r.1.elim IcmpAction.drop IcmpAction.reply).replyOf)
        = (echoReply h packet length >>= fun r =>
          k (r.1.elim IcmpAction.drop IcmpAction.reply).replyOf) :=
      fun packet => echoReply_congr hallocs packet length fun r =>
        k (r.elim IcmpAction.drop IcmpAction.reply).replyOf
    unfold icmpExamine
    dsimp only
    by_cases hg : s.initialized = false ∨ length < icmpHeaderSize
    · rw [if_pos hg, if_pos hg]
      rfl
    · rw [if_neg hg, if_neg hg]
      simp only [bind_assoc]
      refine bind_congr fun recvChecksum => bind_congr fun packet => bind_congr fun message => ?_
      split
      · rfl
      · simp only [bind_assoc]
        refine bind_congr fun packet => bind_congr fun type => ?_
        split
        · simp only [bind_assoc, pure_bind]
          exact hreply packet
        · split
          · simp only [bind_assoc]
            refine bind_congr fun identifier => bind_congr fun sequence => ?_
            split
            · rfl
            · simp only [bind_assoc]
              rfl
          · rfl

/-- The block is cleared first. -/
theorem dhcpFill_congr {block block' : Bytes} (hblock : block.length = dhcpPacketSize + 32)
    (hblock' : block'.length = dhcpPacketSize + 32) (rest rest' : List (Option (Nat → UInt8)))
    (xid : UInt32) (extra : List (UInt8 × Bytes)) :
    dhcpFill { h with allocs := rest', stack := stack } block' xid extra
      = dhcpFill { h with allocs := rest } block xid extra := by
  unfold dhcpFill
  rw [write_all (by rw [List.length_replicate, hblock']),
    write_all (by rw [List.length_replicate, hblock])]

theorem dhcpDiscover_congr (hallocs : allocs.map Option.isSome = h.allocs.map Option.isSome)
    (s : DhcpState) (k : Option Bytes → Except Fault γ) :
    (dhcpDiscover s { h with allocs := allocs, stack := stack } >>= fun r => k r.1)
      = (dhcpDiscover s h >>= fun r => k r.1) := by
  unfold dhcpDiscover
  by_cases hg : s.initialized = false
  · rw [if_pos hg, if_pos hg]
    rfl
  · rw [if_neg hg, if_neg hg]
    obtain ⟨rest, rest', ⟨hk, hk'⟩ | ⟨-, block, block', hblock, hblock', hk, hk'⟩⟩ :=
      kmalloc_congr stack hallocs (dhcpPacketSize + 32)
    · rw [hk, hk']
      rfl
    · rw [hk, hk']
      simp only [bind_assoc, pure_bind, dhcpFill_congr hblock hblock' rest rest']

theorem dhcpRequest_congr (hallocs : allocs.map Option.isSome = h.allocs.map Option.isSome)
    (s : DhcpState) (k : Option Bytes → Except Fault γ) :
    (dhcpRequest s { h with allocs := allocs, stack := stack } >>= fun r => k r.1)
      = (dhcpRequest s h >>= fun r => k r.1) := by
  unfold dhcpRequest
  by_cases hg : s.initialized = false
  · rw [if_pos hg, if_pos hg]
    rfl
  · rw [if_neg hg, if_neg hg]
    obtain ⟨rest, rest', ⟨hk, hk'⟩ | ⟨-, block, block', hblock, hblock', hk, hk'⟩⟩ :=
      kmalloc_congr stack hallocs (dhcpPacketSize + 32)
    · rw [hk, hk']
      rfl
    · rw [hk, hk']
      simp only [bind_assoc, pure_bind, dhcpFill_congr hblock hblock' rest rest']

/-! ## ip_send_packet -/

/-- What `arp_resolve` leaves in the buffer of its caller. -/
def resolvedMac (s : ArpState) (ip : UInt32) (mac : Mac) : Mac :=
  if s.initialized = false then mac
  else ((s.cache.find? fun e => e.occupied && e.ip == ip).map ArpEntry.mac).getD Mac.broadcast

theorem arpResolve_eq (h : Host) (ip : UInt32) (mac : Mac) :
    ∃ h', arpResolve h ip mac = .ok (resolvedMac h.arp ip mac, h') := by
  unfold arpResolve resolvedMac
  by_cases hinit : h.arp.initialized = false
  · rw [if_pos hinit, if_pos hinit]
    exact ⟨h, rfl⟩
  · rw [if_neg hinit, if_neg hinit]
    cases h.arp.cache.find? fun e => e.occupied && e.ip == ip with
    | some e => exact ⟨h, rfl⟩
    | none =>
      obtain ⟨ok, h', frames, hsend, -, -⟩ := ethernetSendFrame_cases h Mac.broadcast arpType
        (arpRequest h.nic.macAddr h.ip.ipAddress ip) (by rw [length_arpRequest]; decide)
      refine ⟨h', ?_⟩
      simp only [arpSendRequest, hsend, ok_bind, pure, Except.pure]
      rfl

theorem ipPacketTo_built {h : Host} {data : Bytes} (hb : BuildsPacket h data) (destIp : UInt32)
    (protocol : UInt8) :
    ∃ h', ipPacketTo h destIp protocol (some data) =
      .ok (some (resolvedMac h.arp (nextHop h.ip destIp) h.stack,
        ipPacket h.ip destIp protocol data), h') := by
  have hpos := hb.positive
  have hfits := hb.fits
  have hwrap : wrap32 (ipHeaderLength + data.length) = 20 + data.length :=
    wrap32_eq_self (by unfold ipHeaderLength; omega)
  obtain ⟨block, hblock, hk⟩ := kmalloc_some hb.packet (20 + data.length)
  obtain ⟨p₁, p₂, header, hp₁, hp₂, hheader, hp₃⟩ :=
    write_ipPacket h.ip destIp protocol block data hblock
  obtain ⟨h', hresolve⟩ :=
    arpResolve_eq { h with allocs := h.allocs.tail } (nextHop h.ip destIp) h.stack
  unfold ipPacketTo
  simp only [hwrap]
  rw [if_neg (by rw [hb.initialized]; simp; exact List.ne_nil_of_length_pos hpos),
    if_neg (by omega), hk]
  simp only [hp₁, hp₂, hheader, hp₃, hresolve, ok_bind, pure, Except.pure]
  exact ⟨h', rfl⟩

/-- Without ARP to look at, the packet is the same. -/
theorem ipPacketTo_congr (hallocs : allocs.map Option.isSome = h.allocs.map Option.isSome)
    (destIp : UInt32) (protocol : UInt8) (data : Option Bytes)
    (hsafe : ∀ d, data = some d → BuildsPacket h d → h.arp.initialized = true)
    (k : Option (Mac × Bytes) → Except Fault γ) :
    (ipPacketTo { h with allocs := allocs, stack := stack } destIp protocol data >>=
        fun r => k r.1)
      = (ipPacketTo h destIp protocol data >>= fun r => k r.1) := by
  rcases data with - | data
  · rfl
  · by_cases hb : BuildsPacket h data
    · have harp := hsafe data rfl hb
      have hb' : BuildsPacket { h with allocs := allocs, stack := stack } data :=
        ⟨hb.initialized, hb.positive, hb.fits, (allocates_congr stack hallocs).mpr hb.packet⟩
      obtain ⟨h₁, hbuilt⟩ := ipPacketTo_built hb destIp protocol
      obtain ⟨h₂, hbuilt'⟩ := ipPacketTo_built hb' destIp protocol
      rw [hbuilt, hbuilt']
      simp only [ok_bind, resolvedMac, harp, Bool.true_eq_false, if_false]
    · unfold ipPacketTo
      dsimp only
      by_cases hg : h.ip.initialized = false ∨ data.length = 0
      · rw [if_pos hg, if_pos hg]
        rfl
      · rw [if_neg hg, if_neg hg]
        split
        · rfl
        · next hsize =>
          obtain ⟨rest, rest', ⟨hk, hk'⟩ | ⟨halloc, block, block', hblock, hblock', hk, hk'⟩⟩ :=
            kmalloc_congr stack hallocs (wrap32 (ipHeaderLength + data.length))
          · rw [hk, hk']
            rfl
          · -- there is memory, so the length was too large for the sum
            have hsmall : wrap32 (ipHeaderLength + data.length) <
                ipHeaderLength + data.length := by
              simp only [not_or, Bool.not_eq_false] at hg
              by_contra hge
              refine hb ⟨hg.1, by omega, ?_, halloc⟩
              unfold ipHeaderLength at hsize hge
              omega
            rw [hk, hk']
            simp only [bind_assoc]
            rw [write_header_overflow (n := ipHeaderLength) rfl (by rw [hblock']; exact hsmall),
              write_header_overflow (n := ipHeaderLength) rfl (by rw [hblock]; exact hsmall),
              hblock, hblock']

/-! ## icmp_send_destination_unreachable -/

/-- **The byte behind the header is the one that was in the block.** -/
theorem destinationUnreachable_built {s : IcmpState} {h : Host} {orig : Bytes}
    (hb : BuildsUnreachable s h orig) (code : UInt8) {junk : Nat → UInt8}
    {rest : List (Option (Nat → UInt8))} (hallocs : h.allocs = some junk :: rest) :
    ∃ packet h', destinationUnreachable s h code (some orig) = .ok (some packet, h') ∧
      byteAt packet 8 = junk 8 := by
  have hlong := hb.long
  have hwrap := hb.noWrap
  have hle := wrap32_le (icmpHeaderSize + 4 + orig.length)
  obtain ⟨total, ht⟩ : ∃ n, min 576 (wrap32 (icmpHeaderSize + 4 + orig.length)) = n := ⟨_, rfl⟩
  unfold icmpHeaderSize at hwrap hle ht
  have htotal : 12 ≤ total ∧ total ≤ 576 ∧ total ≤ 12 + orig.length := by omega
  have hdata : wrap32 (total + 2 ^ 32 - 8 - 4) = total - 12 := by
    unfold wrap32
    omega
  have hk : kmalloc h total = (some (junkBlock junk total), { h with allocs := rest }) := by
    unfold kmalloc
    rw [hallocs]
  have hlen := length_junkBlock junk total
  -- the three writes
  obtain ⟨p₁, hp₁⟩ : ∃ p, write (junkBlock junk total) 0
      (icmpHeader icmpTypeDestinationUnreachable code 0 0 0) = .ok p :=
    ⟨_, write_eq (by rw [hlen, length_icmpHeader]; omega)⟩
  have hslice : slice orig 0 (total - 12) = .ok (orig.take (total - 12)) :=
    slice_eq (by omega)
  have htake : (orig.take (total - 12)).length = total - 12 := by
    rw [List.length_take]
    omega
  obtain ⟨p₂, hp₂⟩ : ∃ p, write p₁ 12 (orig.take (total - 12)) = .ok p :=
    ⟨_, write_eq (by rw [length_of_write hp₁, hlen, htake]; omega)⟩
  obtain ⟨p₃, hp₃⟩ : ∃ p, write p₂ 2 (le16 (icmpChecksum p₂)) = .ok p :=
    ⟨_, write_eq (by rw [length_of_write hp₂, length_of_write hp₁, hlen, length_le16]; omega)⟩
  refine ⟨p₃, { h with allocs := rest }, ?_, ?_⟩
  · unfold destinationUnreachable icmpHeaderSize
    dsimp only
    rw [if_neg (by rw [hb.initialized]; simp only [Bool.true_eq_false, false_or]; omega)]
    rw [ht, hk]
    simp only [hp₁, hdata, hslice, hp₂, hp₃, ok_bind, pure, Except.pure]
  · rw [byteAt_of_write hp₃ (Or.inr (by rw [length_le16]; omega)),
      byteAt_of_write hp₂ (Or.inl (by omega)),
      byteAt_of_write hp₁ (Or.inr (by rw [length_icmpHeader]))]
    unfold byteAt junkBlock
    rw [List.getD_eq_getElem?_getD, List.getElem?_map, List.getElem?_range (by omega)]
    rfl

/-- A call that does not get there. -/
theorem destinationUnreachable_congr
    (hallocs : allocs.map Option.isSome = h.allocs.map Option.isSome) (s : IcmpState)
    (code : UInt8) (orig : Option Bytes) (hno : ∀ p, orig = some p → ¬ BuildsUnreachable s h p)
    (k : Option Bytes → Except Fault γ) :
    (destinationUnreachable s { h with allocs := allocs, stack := stack } code orig >>=
        fun r => k r.1)
      = (destinationUnreachable s h code orig >>= fun r => k r.1) := by
  rcases orig with - | orig
  · rfl
  · unfold destinationUnreachable
    dsimp only
    by_cases hg : s.initialized = false ∨ orig.length < 28
    · rw [if_pos hg, if_pos hg]
      rfl
    · rw [if_neg hg, if_neg hg]
      simp only [not_or, Bool.not_eq_false, Nat.not_lt] at hg
      obtain ⟨total, ht⟩ : ∃ n, min 576 (wrap32 (icmpHeaderSize + 4 + orig.length)) = n := ⟨_, rfl⟩
      rw [ht]
      obtain ⟨rest, rest', ⟨hk, hk'⟩ | ⟨halloc, block, block', hblock, hblock', hk, hk'⟩⟩ :=
        kmalloc_congr stack hallocs total
      · rw [hk, hk']
        rfl
      · -- the sum has wrapped around, and not even the header fits
        have hsmall : total < 12 := by
          by_contra hge
          exact hno orig rfl ⟨hg.1, hg.2, by omega, halloc⟩
        rw [hk, hk']
        simp only [bind_assoc]
        by_cases hheader : 8 ≤ total
        · rw [write_eq (by rw [hblock', length_icmpHeader]; omega),
            write_eq (by rw [hblock, length_icmpHeader]; omega), ok_bind, ok_bind]
          refine bind_congr fun data => ?_
          have hlen : ∀ b : Bytes, b.length = total → (b.take 0 ++
              icmpHeader icmpTypeDestinationUnreachable code 0 0 0 ++
              b.drop (0 + (icmpHeader icmpTypeDestinationUnreachable code 0 0 0).length)).length
              = total := by
            intro b hb
            simp only [List.length_append, List.length_take, List.length_drop, length_icmpHeader]
            omega
          rw [write_error (by rw [hlen block' hblock']; unfold icmpHeaderSize; omega),
            write_error (by rw [hlen block hblock]; unfold icmpHeaderSize; omega),
            hlen block hblock, hlen block' hblock']
          rfl
        · rw [write_error (by rw [hblock', length_icmpHeader]; omega),
            write_error (by rw [hblock, length_icmpHeader]; omega), hblock, hblock']
          rfl

end TwoRuns

/-! ## All builders -/

theorem leaks_ipSendPacket {n : Node} {destIp : UInt32} {protocol : UInt8} {data : Bytes}
    (hb : BuildsPacket n.host data) (harp : n.host.arp.initialized = false) :
    ¬ Determined n (.ipSendPacket destIp protocol (some data)) := by
  intro hdet
  -- another byte in the buffer for the address
  let stack : Mac := { n.host.stack with b0 := n.host.stack.b0 + 1 }
  have heq := hdet { n with host := { n.host with stack := stack } }
    ⟨n.host.allocs, stack, n.stackBelow, rfl, rfl⟩
  obtain ⟨h₁, hbuilt⟩ := ipPacketTo_built hb destIp protocol
  obtain ⟨h₂, hbuilt'⟩ := ipPacketTo_built (h := { n.host with stack := stack })
    ⟨hb.initialized, hb.positive, hb.fits, hb.packet⟩ destIp protocol
  unfold handed at heq
  simp only [hbuilt, hbuilt', ok_bind, pure, Except.pure, Option.map_some] at heq
  have hmac : stack = n.host.stack := by
    simpa only [resolvedMac, harp, if_true, Except.ok.injEq, Option.some.injEq,
      Handed.ethernetSendFrame.injEq, true_and, and_true] using heq
  have hb0 : n.host.stack.b0 + 1 = n.host.stack.b0 := congrArg Mac.b0 hmac
  simp at hb0

theorem leaks_destinationUnreachable {n : Node} {destIp : UInt32} {code : UInt8} {orig : Bytes}
    (hb : BuildsUnreachable n.icmp n.host orig) :
    ¬ Determined n (.icmpSendDestinationUnreachable destIp code (some orig)) := by
  intro hdet
  obtain ⟨junk, rest, hallocs⟩ : ∃ junk rest, n.host.allocs = some junk :: rest := by
    have halloc := hb.packet
    unfold Host.Allocates at halloc
    cases hl : n.host.allocs with
    | nil => rw [hl] at halloc; cases halloc
    | cons a rest =>
      rw [hl] at halloc
      obtain ⟨junk, rfl⟩ := Option.isSome_iff_exists.mp halloc
      exact ⟨junk, rest, rfl⟩
  -- other bytes in the first block
  let junk' : Nat → UInt8 := fun i => junk i + 1
  have heq := hdet { n with host := { n.host with allocs := some junk' :: rest } }
    ⟨some junk' :: rest, n.host.stack, n.stackBelow, by rw [hallocs]; rfl, rfl⟩
  obtain ⟨packet, h₁, hbuilt, hbyte⟩ := destinationUnreachable_built hb code hallocs
  obtain ⟨packet', h₂, hbuilt', hbyte'⟩ := destinationUnreachable_built
    (h := { n.host with allocs := some junk' :: rest })
    ⟨hb.initialized, hb.long, hb.noWrap, rfl⟩ code rfl
  unfold handed at heq
  simp only [hbuilt, hbuilt', ok_bind, pure, Except.pure, Option.map_some, Except.ok.injEq,
    Option.some.injEq, Handed.ipSendPacket.injEq, true_and] at heq
  rw [heq, hbyte] at hbyte'
  have hjunk : junk 8 = junk 8 + 1 := hbyte'
  simp at hjunk

/--
**What a packet builder hands to the next layer is independent of the former contents of the memory
iff it is neither `icmp_send_destination_unreachable` nor, before `arp_init`, `ip_send_packet`
getting that far.**
-/
theorem determined_iff (n : Node) (call : PacketBuilder) :
    Determined n call ↔ ¬ LeaksMemory n call := by
  constructor
  · intro hdet hleak
    cases call with
    | ipSendPacket destIp protocol data =>
      cases data with
      | none => exact hleak
      | some data => exact leaks_ipSendPacket hleak.1 hleak.2 hdet
    | icmpSendDestinationUnreachable destIp code orig =>
      cases orig with
      | none => exact hleak
      | some orig => exact leaks_destinationUnreachable hleak hdet
    | _ => exact hleak
  · rintro hno n' ⟨allocs, stack, below, hallocs, rfl⟩
    cases call with
    | ethernetSendFrame destMac type data =>
      exact ethernetFrame_congr hallocs destMac type data fun p => pure (p.map Handed.nicSendPacket)
    | ipSendPacket destIp protocol data =>
      refine ipPacketTo_congr hallocs destIp protocol data ?_ fun p =>
        pure (p.map fun p => Handed.ethernetSendFrame p.1 0x0800 p.2)
      rintro d rfl hb
      by_contra harp
      exact hno ⟨hb, Bool.not_eq_true _ ▸ harp⟩
    | udpSend socket destIp destPort data =>
      exact udpDatagram_congr hallocs socket destIp destPort data fun p =>
        pure (p.map (Handed.ipSendPacket destIp ipProtocolUdp))
    | tcpSendPacket socket flags data =>
      exact tcpSegmentOf_congr hallocs socket flags data fun p =>
        pure (p.map fun p => Handed.ipSendPacket p.1.remoteIp ipProtocolTcp p.2)
    | icmpSendEchoRequest destIp identifier sequence data =>
      exact echoRequest_congr hallocs n.icmp identifier sequence data fun p =>
        pure (p.map (Handed.ipSendPacket destIp ipProtocolIcmp))
    | icmpHandlePacket srcIp packet length =>
      exact icmpExamine_congr hallocs n.icmp srcIp packet length fun p =>
        pure (p.map (Handed.ipSendPacket srcIp ipProtocolIcmp))
    | icmpSendDestinationUnreachable destIp code orig =>
      refine destinationUnreachable_congr hallocs n.icmp code orig ?_ fun p =>
        pure (p.map (Handed.ipSendPacket destIp ipProtocolIcmp))
      rintro p rfl hb
      exact hno hb
    | dhcpSendDiscover =>
      exact dhcpDiscover_congr hallocs n.dhcp fun p =>
        pure (p.map (Handed.udpSend (dhcpSocket n.dhcp n.host) 0xFFFFFFFF dhcpServerPort))
    | dhcpSendRequest =>
      exact dhcpRequest_congr hallocs n.dhcp fun p =>
        pure (p.map (Handed.udpSend (dhcpSocket n.dhcp n.host) 0xFFFFFFFF dhcpServerPort))
    | arpSendRequest ip =>
      simp only [handed, arpRequestPacket_eq]

/-- A host with ICMP, where the next block to be allocated is full of the byte `junk`. -/
def reportingNode (junk : UInt8) : Node where
  host :=
    { nic := { macAddr := ⟨2, 0, 0, 0, 0, 2⟩, isRtl8139 := true, initialized := true, sent := [] }
      ethernet :=
        { macAddress := ⟨2, 0, 0, 0, 0, 2⟩, rxCallback := some .ipInput, initialized := true }
      arp := { cache := [], initialized := true }
      ip :=
        { ipAddress := 0x0200000A, subnetMask := 0x00FFFFFF, gateway := 0x0100000A, idCounter := 0
          protocolHandlers := fun protocol => if protocol = 1 then some .icmp else none
          initialized := true }
      udp := { sockets := [], nextPort := 49152, initialized := false }
      tcp := TcpState.fresh
      ticks := 0
      allocs := [some fun _ => junk]
      stack := ⟨0, 0, 0, 0, 0, 0⟩ }
  icmp := { echoCallback := 0, initialized := true }
  dhcp :=
    { socket := none, xid := 0, serverIp := 0, offeredIp := 0, leaseTime := 0, callback := 0
      initialized := false }
  stackBelow := fun _ => 0

/-- **Four bytes of the kernel heap are sent with the report about a packet of 28 bytes.** -/
theorem unreachable_leaks :
    SameButMemory (reportingNode 0) (reportingNode 0xAA) ∧
      handed (reportingNode 0)
          (.icmpSendDestinationUnreachable 0x0100000A 3 (some (List.replicate 28 0))) =
        .ok (some (.ipSendPacket 0x0100000A 1
          ([3, 3, 0xFC, 0xFC, 0, 0, 0, 0] ++ [0, 0, 0, 0] ++ List.replicate 28 0))) ∧
      handed (reportingNode 0xAA)
          (.icmpSendDestinationUnreachable 0x0100000A 3 (some (List.replicate 28 0))) =
        .ok (some (.ipSendPacket 0x0100000A 1
          ([3, 3, 0xA7, 0xA7, 0, 0, 0, 0] ++ [0xAA, 0xAA, 0xAA, 0xAA] ++ List.replicate 28 0))) ∧
      ¬ Determined (reportingNode 0)
        (.icmpSendDestinationUnreachable 0x0100000A 3 (some (List.replicate 28 0))) := by
  have hsame : SameButMemory (reportingNode 0) (reportingNode 0xAA) :=
    ⟨[some fun _ => 0xAA], ⟨0, 0, 0, 0, 0, 0⟩, fun _ => 0, rfl, rfl⟩
  refine ⟨hsame, rfl, rfl, fun hdet => ?_⟩
  have heq := hdet _ hsame
  revert heq
  decide

end MayaOs.Net
