import MayaOs.Lib.Run
import MayaOs.Net.Udp

/-!
# UDP from end to end

A datagram goes down through UDP, IP and Ethernet on one host and up through the same layers on
another one.

* `udpInv_of_reachable` — no two sockets in use have the same port
* `udpSend_delivered` — the datagram arrives at the socket it was sent to, once and unchanged
-/

namespace MayaOs.Net

open MayaOs.Lib

/-! ## Sockets -/

inductive UdpOp where
  | create (port : UInt16) (callback : Nat)
  | close (socket : Option Nat)

def udpStep (s : UdpState) : UdpOp → Option UdpState
  | .create port callback => some (udpCreateSocket s port callback).2
  | .close socket => some (udpCloseSocket s socket)

theorem reachable_udpCreateSocket (s : UdpState) (port : UInt16) (callback : Nat) :
    Reachable udpStep s (udpCreateSocket s port callback).2 :=
  ⟨[.create port callback], rfl⟩

/-- Sockets in use have different ports. -/
def PortsDistinct (sockets : List UdpSocket) : Prop :=
  ∀ a ∈ sockets, ∀ b ∈ sockets, a.inUse = true → b.inUse = true → a.localPort = b.localPort → a = b

structure UdpInv (s : UdpState) : Prop where
  initialized : s.initialized = true
  ports : PortsDistinct s.sockets

theorem PortsDistinct.set {sockets : List UdpSocket} (h : PortsDistinct sockets) {i : Nat}
    {socket : UdpSocket} (hnew : socket.inUse = true →
      ∀ a ∈ sockets, a.inUse = true → a.localPort ≠ socket.localPort) :
    PortsDistinct (sockets.set i socket) := by
  intro a ha b hb hau hbu hport
  rcases List.mem_or_eq_of_mem_set ha with ha' | ha'
  · rcases List.mem_or_eq_of_mem_set hb with hb' | hb'
    · exact h a ha' b hb' hau hbu hport
    · exact absurd (hb' ▸ hport) (hnew (hb' ▸ hbu) a ha' hau)
  · rcases List.mem_or_eq_of_mem_set hb with hb' | hb'
    · exact absurd (ha' ▸ hport.symm) (hnew (ha' ▸ hau) b hb' hbu)
    · rw [ha', hb']

theorem udpInv_assignPort {s : UdpState} (h : UdpInv s) (port : UInt16) :
    UdpInv (assignPort s port).2 := by
  unfold assignPort
  split
  · exact ⟨h.initialized, h.ports⟩
  · exact h

theorem udpInv_bindSocket {s : UdpState} (h : UdpInv s) (port : UInt16) (callback : Nat) :
    UdpInv (bindSocket s port callback).2 := by
  unfold bindSocket
  split
  · exact h
  · next hfree =>
    split
    · exact h
    · refine ⟨h.initialized, h.ports.set fun _ a ha hau hport => hfree ?_⟩
      rw [List.any_eq_true]
      exact ⟨a, ha, by rw [hau, hport]; simp⟩

theorem udpInv_create {s : UdpState} (h : UdpInv s) (port : UInt16) (callback : Nat) :
    UdpInv (udpCreateSocket s port callback).2 := by
  unfold udpCreateSocket
  split
  · exact h
  · exact udpInv_bindSocket (udpInv_assignPort h port) _ callback

theorem udpInv_close {s : UdpState} (h : UdpInv s) (socket : Option Nat) :
    UdpInv (udpCloseSocket s socket) := by
  unfold udpCloseSocket
  split
  · exact h
  · split
    · exact h
    · exact ⟨h.initialized, h.ports.set fun hu => by cases hu⟩

theorem udpInv_fresh : UdpInv UdpState.fresh := by
  refine ⟨rfl, fun a ha b hb hau _ _ => ?_⟩
  obtain rfl := List.eq_of_mem_replicate ha
  cases hau

/-- **After any creations and closings, sockets in use have different ports.** -/
theorem udpInv_of_reachable {s : UdpState} (h : Reachable udpStep UdpState.fresh s) : UdpInv s := by
  refine Reachable.invariant (I := UdpInv) ?_ udpInv_fresh h
  intro s op s' hs hstep
  cases op with
  | create port callback => cases hstep; exact udpInv_create hs port callback
  | close socket => cases hstep; exact udpInv_close hs socket

/-- The search of `udp_handle_packet` finds the socket that is bound to the port. -/
theorem UdpInv.find? {s : UdpState} (h : UdpInv s) {socket : UdpSocket} (hmem : socket ∈ s.sockets)
    (huse : socket.inUse = true) :
    s.sockets.find? (fun x => x.inUse && x.localPort == socket.localPort) = some socket := by
  cases hf : s.sockets.find? (fun x => x.inUse && x.localPort == socket.localPort) with
  | none =>
    have := List.find?_eq_none.mp hf socket hmem
    simp [huse] at this
  | some x =>
    have hx := List.find?_some hf
    simp only [Bool.and_eq_true, beq_iff_eq] at hx
    rw [h.ports x (List.mem_of_find?_eq_some hf) socket hmem hx.1 huse hx.2]

/-! ## The way up -/

/-- The calls of UDP callbacks when a frame is handed to `ethernet_handle_frame`. -/
def deliverUdp (h : Host) (frame : Bytes) : Except Fault (List UdpCall) := do
  match ← ethernetHandleFrame h.ethernet (some frame) with
  | none => return []
  | some rx =>
    if rx.callback = .ipInput ∧ rx.type = 0x0800 then
      match ← ipHandlePacket h.ip (some rx.data) with
      | (some call, some packet) =>
        if call.handler = .udp then
          udpHandlePacket h call.srcIp (some (packet.drop call.offset)) call.length
        else return []
      | _ => return []
    else return []

/-- A host whose layers are set up and that has this socket. -/
structure ListensOn (h : Host) (socket : UdpSocket) : Prop where
  ethernet : h.ethernet.initialized = true
  callback : h.ethernet.rxCallback = some .ipInput
  ip : h.ip.initialized = true
  handler : h.ip.protocolHandlers ipProtocolUdp = some .udp
  udp : Reachable udpStep UdpState.fresh h.udp
  bound : socket ∈ h.udp.sockets
  inUse : socket.inUse = true

/-- **A datagram in a frame arrives at its socket.** -/
theorem deliverUdp_etherFrame {h : Host} {socket : UdpSocket} (hl : ListensOn h socket)
    {destMac : Mac} (hdest : destMac = h.ethernet.macAddress ∨ destMac = Mac.broadcast)
    (srcMac : Mac) (s : IpState) (srcPort : UInt16) {data : Bytes} (hlen : data.length ≤ 1472) :
    deliverUdp h (etherFrame destMac srcMac 0x0800 (ipPacket s h.ip.ipAddress ipProtocolUdp
        (udpPacket s.ipAddress h.ip.ipAddress srcPort socket.localPort data))) =
      .ok [{
        callback := socket.callback, srcIp := s.ipAddress, srcPort := srcPort, data := data
        length := data.length }] := by
  have hinv := udpInv_of_reachable hl.udp
  let datagram := udpPacket s.ipAddress h.ip.ipAddress srcPort socket.localPort data
  let packet := ipPacket s h.ip.ipAddress ipProtocolUdp datagram
  have hpacket : packet.length = 28 + data.length := by
    rw [length_ipPacket, length_udpPacket]
    omega
  have hframe := ethernetHandleFrame_etherFrame hl.ethernet hl.callback hdest srcMac 0x0800 packet
    (by rw [hpacket]; omega)
  have hip := ipHandlePacket_ipPacket s hl.ip hl.handler datagram
    (List.replicate (46 - packet.length) 0) (by rw [length_udpPacket]; omega)
  have hudp := udpHandlePacket_udpPacket hinv.initialized s.ipAddress srcPort socket.localPort data
    (List.replicate (46 - packet.length) 0) (hinv.find? hl.bound hl.inUse)
  -- the padding stays behind the datagram, outside the length that IP passes on
  have hdrop : (ipPacket s h.ip.ipAddress ipProtocolUdp datagram ++
        List.replicate (46 - packet.length) 0).drop 20
      = datagram ++ List.replicate (46 - packet.length) 0 := by
    rw [ipPacket, List.append_assoc, List.drop_left' (length_ipHeader ..)]
  unfold deliverUdp
  rw [hframe]
  simp only [ok_bind, and_self, if_true]
  rw [hip]
  simp only [ok_bind, if_true]
  rw [hdrop, length_udpPacket]
  exact hudp

/-! ## From end to end -/

/-- The frames of a list that carry IPv4 packets. -/
def ipv4Frames (frames : List Bytes) : List Bytes :=
  frames.filter fun f => swap16 (u16At f 12) == 0x0800

/-- The destination address of a frame. -/
def frameDest (frame : Bytes) : Bytes := frame.take 6

theorem frameType_etherFrame (destMac srcMac : Mac) (type : UInt16) (data : Bytes) :
    swap16 (u16At (etherFrame destMac srcMac type data) 12) = type := by
  have hread : u16At (etherFrame destMac srcMac type data) 12 = swap16 type :=
    u16_le16 (swap16 type)
  rw [hread, swap16_swap16]

theorem Mac.bytes_inj {mac mac' : Mac} (h : mac.bytes = mac'.bytes) : mac = mac' := by
  cases mac
  cases mac'
  simp only [Mac.bytes, List.cons.injEq, and_true] at h
  simp only [h]

/-- Requests for addresses are not IPv4 frames. -/
theorem ipv4Frames_requests {requests : List Bytes} (h : ∀ f ∈ requests, IsArpRequest f) :
    ipv4Frames requests = [] := by
  refine List.filter_eq_nil_iff.mpr fun f hf => ?_
  obtain ⟨srcMac, packet, rfl⟩ := h f hf
  rw [frameType_etherFrame]
  decide

/-- After the requests for addresses there is one IPv4 frame. -/
theorem ipv4Frames_sent {requests : List Bytes} (h : ∀ f ∈ requests, IsArpRequest f)
    (destMac srcMac : Mac) (packet : Bytes) :
    ipv4Frames (requests ++ [etherFrame destMac srcMac 0x0800 packet])
      = [etherFrame destMac srcMac 0x0800 packet] := by
  have hnone := ipv4Frames_requests h
  unfold ipv4Frames at hnone ⊢
  rw [List.filter_append, hnone, List.nil_append, List.filter_singleton, frameType_etherFrame]
  rfl

/--
**A datagram that `udp_send` reports as sent arrives at the socket it is addressed to, exactly once
and unchanged.**

Exactly one of the frames sent by the call is an IPv4 frame. Handed to the host with the address, it
leads to one call of the callback of the socket that is bound to the port, with the address and port
of the sender.
-/
theorem udpSend_delivered {a a' b : Host} {sender receiver : UdpSocket} {payload : Bytes}
    (hlisten : ListensOn b receiver) (hlen : 1 ≤ payload.length ∧ payload.length ≤ 1472)
    (hsend : udpSend a (some sender) b.ip.ipAddress receiver.localPort (some payload)
      = .ok (true, a')) :
    ∃ frame, ipv4Frames (a'.nic.sent.drop a.nic.sent.length) = [frame] ∧
      (frameDest frame = b.ethernet.macAddress.bytes ∨ frameDest frame = Mac.broadcast.bytes →
        deliverUdp b frame = .ok [{
          callback := receiver.callback, srcIp := a.ip.ipAddress, srcPort := sender.localPort
          data := payload, length := payload.length }]) := by
  obtain ⟨-, -, requests, destMac, hreq, hsent⟩ := udpSend_ok (by omega) hsend
  let frame := etherFrame destMac a.ethernet.macAddress 0x0800 (ipPacket a.ip b.ip.ipAddress
    ipProtocolUdp (udpPacket a.ip.ipAddress b.ip.ipAddress sender.localPort receiver.localPort
      payload))
  refine ⟨frame, ?_, fun hdest => ?_⟩
  · rw [hsent, List.drop_left]
    exact ipv4Frames_sent hreq destMac a.ethernet.macAddress _
  · refine deliverUdp_etherFrame hlisten ?_ a.ethernet.macAddress a.ip sender.localPort hlen.2
    rcases hdest with hd | hd
    · exact Or.inl (Mac.bytes_inj hd)
    · exact Or.inr (Mac.bytes_inj hd)

/-- A host with this address, one socket on port 7, and an empty ARP cache. -/
def exampleHost (ip : UInt32) (mac : Mac) : Host where
  nic := { macAddr := mac, isRtl8139 := true, initialized := true, sent := [] }
  ethernet := { macAddress := mac, rxCallback := some .ipInput, initialized := true }
  arp := { cache := [], initialized := true }
  ip :=
    { ipAddress := ip
      subnetMask := 0x00FFFFFF
      gateway := 0x0100000A
      idCounter := 0
      protocolHandlers := fun protocol => if protocol = ipProtocolUdp then some .udp else none
      initialized := true }
  udp := (udpCreateSocket UdpState.fresh 7 1).2
  tcp := { sockets := [], nextPort := 49152, initialized := false }
  ticks := 0
  allocs := List.replicate 4 (some fun _ => 0xA5)
  stack := Mac.broadcast

/-- The socket of `exampleHost`. -/
def exampleSocket : UdpSocket where
  localPort := 7
  callback := 1
  inUse := true

/-- Three bytes go from 10.0.0.1 to 10.0.0.2. -/
theorem udpSend_delivered_three :
    ∃ a' frame,
      udpSend (exampleHost 0x0100000A ⟨2, 0, 0, 0, 0, 1⟩) (some exampleSocket) 0x0200000A 7
        (some [1, 2, 3]) = .ok (true, a') ∧
      ipv4Frames (a'.nic.sent.drop 0) = [frame] ∧
      (frameDest frame = [2, 0, 0, 0, 0, 2] ∨ frameDest frame = Mac.broadcast.bytes →
        deliverUdp (exampleHost 0x0200000A ⟨2, 0, 0, 0, 0, 2⟩) frame = .ok [{
          callback := 1, srcIp := 0x0100000A, srcPort := 7, data := [1, 2, 3], length := 3 }]) := by
  have hlisten : ListensOn (exampleHost 0x0200000A ⟨2, 0, 0, 0, 0, 2⟩) exampleSocket :=
    ⟨rfl, rfl, rfl, rfl, by simp only [exampleHost]; apply reachable_udpCreateSocket,
      by decide +kernel, rfl⟩
  have hok : (udpSend (exampleHost 0x0100000A ⟨2, 0, 0, 0, 0, 1⟩) (some exampleSocket) 0x0200000A
      7 (some [1, 2, 3])).map Prod.fst = .ok true := by decide +kernel
  cases hsend : udpSend (exampleHost 0x0100000A ⟨2, 0, 0, 0, 0, 1⟩) (some exampleSocket) 0x0200000A
    7 (some [1, 2, 3]) with
  | error fault =>
    rw [hsend] at hok
    cases hok
  | ok r =>
    obtain ⟨ok, a'⟩ := r
    rw [hsend] at hok
    cases hok
    obtain ⟨frame, hframe, hdeliver⟩ := udpSend_delivered hlisten (by decide) hsend
    exact ⟨a', frame, rfl, hframe, hdeliver⟩

end MayaOs.Net
