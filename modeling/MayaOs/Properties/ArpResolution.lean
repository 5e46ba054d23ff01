import MayaOs.Net.Ip
import MayaOs.Properties.UdpDelivery
import MayaOs.Properties.TcpSend

/-!
# Resolving an address

`arp_send_request` and `arp_handle_packet` pass `ethernet_send_frame` a type that is in network byte
order already, so that the receiver of the frame is not told that it is ARP.

* `learns_iff_broadcast` — after the exchange of request and reply, the address of the other host is
  resolved iff it is the one that is used for addresses that are not known
* `learns_of_arpType` — under the type that the receiver is told, it is resolved
-/

namespace MayaOs.Net

open MayaOs.Lib

/-! ## The exchange -/

/-- The receive callback: the payload goes to `arp_handle_packet` or to `ip_handle_packet`, by the
type that `ethernet_handle_frame` reports. What IP does with it is `ipInput`. -/
def receiveFrame (arpEtherType : UInt16) (ipInput : Host → Bytes → Except Fault Host) (h : Host)
    (frame : Bytes) : Except Fault Host := do
  match ← ethernetHandleFrame h.ethernet (some frame) with
  | none => return h
  | some rx =>
    if rx.type = arpEtherType then arpHandlePacket h rx.data
    else if rx.type = 0x0800 then ipInput h rx.data
    else return h

/-- Frames are received one after the other. -/
def receiveFrames (arpEtherType : UInt16) (ipInput : Host → Bytes → Except Fault Host) (h : Host)
    (frames : List Bytes) : Except Fault Host :=
  frames.foldlM (receiveFrame arpEtherType ipInput) h

/-- `a` looks for the address of `b`, `b` gets the frames that are sent, and `a` what `b` sends
then. -/
def arpExchange (arpEtherType : UInt16) (ipInput : Host → Bytes → Except Fault Host) (a b : Host) :
    Except Fault Host := do
  let (_, a') ← arpResolve a b.ip.ipAddress a.stack
  let b' ← receiveFrames arpEtherType ipInput b (a'.nic.sent.drop a.nic.sent.length)
  receiveFrames arpEtherType ipInput a' (b'.nic.sent.drop b.nic.sent.length)

/-- After the exchange `arp_resolve` gives the address of `b`. -/
def Learns (arpEtherType : UInt16) (ipInput : Host → Bytes → Except Fault Host) (a b : Host) : Prop :=
  ∃ a' a'', arpExchange arpEtherType ipInput a b = .ok a' ∧
    arpResolve a' b.ip.ipAddress a'.stack = .ok (b.ethernet.macAddress, a'')

/-- `arp_resolve` does not find the address in the cache. -/
structure Misses (a : Host) (ip : UInt32) : Prop where
  initialized : a.arp.initialized = true
  absent : (a.arp.cache.find? fun e => e.occupied && e.ip == ip) = none

/-! ## A miss -/

theorem SendsTo.arp {h h' : Host} {frames : List Bytes} (hs : SendsTo h h' frames) :
    h'.arp = h.arp := by
  obtain ⟨rest, id, rfl⟩ := hs
  rfl

/-- An address that is not in the cache is resolved to the broadcast address. -/
theorem arpResolve_of_misses {a : Host} {ip : UInt32} (h : Misses a ip) (mac : Mac) :
    ∃ a' frames, arpResolve a ip mac = .ok (Mac.broadcast, a') ∧ SendsTo a a' frames ∧
      (frames = [] ∨ frames = [etherFrame Mac.broadcast a.ethernet.macAddress arpType
        (arpRequest a.nic.macAddr a.ip.ipAddress ip)]) := by
  obtain ⟨ok, a', frames, hsend, hto, hframes⟩ := ethernetSendFrame_cases a Mac.broadcast arpType
    (arpRequest a.nic.macAddr a.ip.ipAddress ip) (by rw [length_arpRequest]; decide)
  refine ⟨a', frames, ?_, hto, ?_⟩
  · unfold arpResolve
    rw [if_neg (by rw [h.initialized]; simp), h.absent]
    simp only [arpSendRequest, hsend, ok_bind, pure, Except.pure]
  · rcases hframes with ⟨-, hf⟩ | ⟨-, -, -, hf⟩
    · exact Or.inl hf
    · exact Or.inr hf

/-- **A frame with an ARP packet is passed on to nobody**: the type that is reported is neither of
the two. -/
theorem receiveFrame_arpType (ipInput : Host → Bytes → Except Fault Host) (h : Host)
    (srcMac : Mac) {packet : Bytes} (hlen : packet.length ≤ 1500) :
    receiveFrame 0x0806 ipInput h (etherFrame Mac.broadcast srcMac arpType packet) = .ok h := by
  unfold receiveFrame
  by_cases hup : h.ethernet.initialized = true ∧ h.ethernet.rxCallback.isSome = true
  · obtain ⟨hinit, hcallback⟩ := hup
    obtain ⟨callback, hcallback⟩ := Option.isSome_iff_exists.mp hcallback
    rw [ethernetHandleFrame_etherFrame hinit hcallback (Or.inr rfl) srcMac arpType packet hlen]
    rfl
  · -- nothing is reported at all
    have hnone : ethernetHandleFrame h.ethernet
        (some (etherFrame Mac.broadcast srcMac arpType packet)) = .ok none := by
      unfold ethernetHandleFrame
      simp only []
      split
      · rfl
      · next hg =>
        have hinit : h.ethernet.initialized = true := by
          simp only [not_or, Bool.not_eq_false] at hg
          exact hg.1
        have hnull : h.ethernet.rxCallback = none := by
          cases hc : h.ethernet.rxCallback with
          | none => rfl
          | some callback => exact absurd ⟨hinit, by rw [hc]; rfl⟩ hup
        have hdest : readMac (etherFrame Mac.broadcast srcMac arpType packet) 0
            = .ok Mac.broadcast := rfl
        have hsrc : readMac (etherFrame Mac.broadcast srcMac arpType packet) 6 = .ok srcMac := rfl
        have htype : read16 (etherFrame Mac.broadcast srcMac arpType packet) 12
            = .ok (swap16 arpType) := by
          show Except.ok (u16 _ _) = _
          rw [u16_le16]
        simp only [hdest, hsrc, htype, hnull, ok_bind, pure, Except.pure]
        rw [if_neg (by simp)]
    rw [hnone]
    rfl

/-- The request does not reach `b`, so nothing comes back. -/
theorem arpExchange_of_misses (ipInput : Host → Bytes → Except Fault Host) {a b : Host}
    (hmiss : Misses a b.ip.ipAddress) :
    ∃ a' a'', arpExchange 0x0806 ipInput a b = .ok a' ∧
      arpResolve a' b.ip.ipAddress a'.stack = .ok (Mac.broadcast, a'') := by
  obtain ⟨a', frames, hresolve, hto, hframes⟩ := arpResolve_of_misses hmiss a.stack
  have hb : receiveFrames 0x0806 ipInput b frames = .ok b := by
    unfold receiveFrames
    rcases hframes with rfl | rfl
    · rfl
    · rw [List.foldlM_cons, receiveFrame_arpType ipInput b _ (by rw [length_arpRequest]; decide)]
      rfl
  have hmiss' : Misses a' b.ip.ipAddress := by
    refine ⟨?_, ?_⟩ <;> rw [hto.arp]
    · exact hmiss.initialized
    · exact hmiss.absent
  obtain ⟨a'', frames', hresolve', -, -⟩ := arpResolve_of_misses hmiss' a'.stack
  refine ⟨a', a'', ?_, hresolve'⟩
  unfold arpExchange
  rw [hresolve]
  simp only [ok_bind]
  rw [hto.drop_sent, hb]
  simp only [ok_bind]
  rw [List.drop_length]
  rfl

/-- **The address is resolved iff it is the broadcast address**, with which every address is
answered that is not in the cache. -/
theorem learns_iff_broadcast (ipInput : Host → Bytes → Except Fault Host) {a b : Host}
    (hmiss : Misses a b.ip.ipAddress) :
    Learns 0x0806 ipInput a b ↔ b.ethernet.macAddress = Mac.broadcast := by
  obtain ⟨a', a'', hexchange, hresolve⟩ := arpExchange_of_misses ipInput hmiss
  constructor
  · rintro ⟨a₁, a₂, h₁, h₂⟩
    rw [hexchange] at h₁
    cases h₁
    rw [hresolve] at h₂
    exact (congrArg Prod.fst (Except.ok.inj h₂)).symm
  · intro hmac
    exact ⟨a', a'', hexchange, by rw [hmac]; exact hresolve⟩

/-! ## Under the type that is reported -/

/-- A host that can send a frame and receive one, under the address of its card. -/
structure ArpUp (h : Host) : Prop where
  initialized : h.ethernet.initialized = true
  callback : h.ethernet.rxCallback.isSome = true
  mac : h.nic.macAddr = h.ethernet.macAddress
  nic : NicUp h
  frame : h.Allocates 0

theorem ethernetSendFrame_sent {h : Host} (hup : ArpUp h) (destMac : Mac) (type : UInt16)
    {data : Bytes} (hlen : 0 < data.length ∧ data.length ≤ 1500) :
    ∃ h', ethernetSendFrame h (some destMac) type (some data) = .ok (true, h') ∧
      SendsTo h h' [etherFrame destMac h.ethernet.macAddress type data] := by
  obtain ⟨h₁, hsend⟩ := (ethernetSendFrame_true_iff h destMac type data (by omega)).mpr
    ⟨hup.initialized, hlen.1, hlen.2, hup.frame, hup.nic⟩
  obtain ⟨ok, h', frames, hsend', hto, hframes⟩ :=
    ethernetSendFrame_cases h destMac type data (by omega)
  rw [hsend] at hsend'
  cases hsend'
  rcases hframes with ⟨hfalse, -⟩ | ⟨-, -, -, rfl⟩
  · cases hfalse
  · exact ⟨h₁, hsend, hto⟩

/-- The frames that ARP sends reach `arp_handle_packet`. -/
theorem receiveFrame_of_arpType (ipInput : Host → Bytes → Except Fault Host) {h : Host}
    (hinit : h.ethernet.initialized = true) (hcallback : h.ethernet.rxCallback.isSome = true)
    {destMac : Mac} (hdest : destMac = h.ethernet.macAddress ∨ destMac = Mac.broadcast)
    (srcMac : Mac) {packet : Bytes} (hlen : packet.length ≤ 1500) :
    receiveFrame 0x0608 ipInput h (etherFrame destMac srcMac arpType packet) =
      arpHandlePacket h (packet ++ List.replicate (46 - packet.length) 0) := by
  obtain ⟨callback, hcallback⟩ := Option.isSome_iff_exists.mp hcallback
  unfold receiveFrame
  rw [ethernetHandleFrame_etherFrame hinit hcallback hdest srcMac arpType packet hlen]
  rfl

/-- **A request for the own address is answered.** -/
theorem arpHandlePacket_request (h : Host) (srcMac : Mac) (srcIp : UInt32) (rest : Bytes) :
    arpHandlePacket h (arpRequest srcMac srcIp h.ip.ipAddress ++ rest) =
      (ethernetSendFrame h (some srcMac) arpType
        (some (arpReply h.nic.macAddr h.ip.ipAddress srcMac srcIp)) >>= fun r => .ok r.2) := by
  have hopcode : read16 (arpRequest srcMac srcIp h.ip.ipAddress ++ rest) 6 = .ok 0x0100 := rfl
  have hmac : readMac (arpRequest srcMac srcIp h.ip.ipAddress ++ rest) 8 = .ok srcMac := rfl
  have hsrc : read32 (arpRequest srcMac srcIp h.ip.ipAddress ++ rest) 14 = .ok srcIp := by
    show Except.ok (u32 _ _ _ _) = _
    rw [u32_le32]
  have hdest : read32 (arpRequest srcMac srcIp h.ip.ipAddress ++ rest) 24
      = .ok h.ip.ipAddress := by
    show Except.ok (u32 _ _ _ _) = _
    rw [u32_le32]
  unfold arpHandlePacket
  rw [if_neg (by rw [List.length_append, length_arpRequest]; omega)]
  simp only [hopcode, hmac, hsrc, hdest, ok_bind, pure, Except.pure]
  rw [if_neg (by decide), if_pos (by decide), if_pos trivial]

/-- **A reply goes into the cache.** -/
theorem arpHandlePacket_reply (h : Host) (srcMac : Mac) (srcIp : UInt32) (destMac : Mac)
    (destIp : UInt32) (rest : Bytes) :
    arpHandlePacket h (arpReply srcMac srcIp destMac destIp ++ rest) =
      .ok { h with arp := arpUpdate h.arp srcIp srcMac } := by
  have hopcode : read16 (arpReply srcMac srcIp destMac destIp ++ rest) 6 = .ok 0x0200 := rfl
  have hmac : readMac (arpReply srcMac srcIp destMac destIp ++ rest) 8 = .ok srcMac := rfl
  have hsrc : read32 (arpReply srcMac srcIp destMac destIp ++ rest) 14 = .ok srcIp := by
    show Except.ok (u32 _ _ _ _) = _
    rw [u32_le32]
  unfold arpHandlePacket
  rw [if_neg (by rw [List.length_append, length_arpReply]; omega)]
  simp only [hopcode, hmac, hsrc, ok_bind, pure, Except.pure]
  rw [if_pos (by decide)]

/-- What has been put into the cache is found, as long as there was room for it. -/
theorem find?_arpUpdate {s : ArpState} {ip : UInt32} (hroom : ∃ e ∈ s.cache, e.occupied = false)
    (mac : Mac) :
    (arpUpdate s ip mac).cache.find? (fun e => e.occupied && e.ip == ip)
      = some { ip := ip, mac := mac, occupied := true } := by
  unfold arpUpdate
  cases hidx : s.cache.findIdx? fun e => !e.occupied || e.ip == ip with
  | none =>
    obtain ⟨e, he, hfree⟩ := hroom
    have hno := List.findIdx?_eq_none_iff.mp hidx e he
    rw [hfree] at hno
    cases hno
  | some i =>
    obtain ⟨hi, -, hbefore⟩ := List.findIdx?_eq_some_iff_getElem.mp hidx
    refine List.find?_eq_some_iff_getElem.mpr ⟨by simp, i, by simpa using hi, by simp, ?_⟩
    -- the cells before it hold other addresses
    intro j hj
    have hother := hbefore j hj
    simp only [List.getElem_set_ne (Nat.ne_of_gt hj)]
    simp only [Bool.or_eq_true, Bool.not_eq_true', beq_iff_eq, not_or] at hother
    simp [hother.2]

theorem initialized_arpUpdate (s : ArpState) (ip : UInt32) (mac : Mac) :
    (arpUpdate s ip mac).initialized = s.initialized := by
  unfold arpUpdate
  split <;> rfl

/-- From then on it is the answer. -/
theorem arpResolve_arpUpdate {h : Host} {s : ArpState} {ip : UInt32} {mac : Mac}
    (harp : h.arp = arpUpdate s ip mac) (hinit : s.initialized = true)
    (hroom : ∃ e ∈ s.cache, e.occupied = false) (stack : Mac) :
    arpResolve h ip stack = .ok (mac, h) := by
  have hfind : h.arp.cache.find? (fun e => e.occupied && e.ip == ip)
      = some { ip := ip, mac := mac, occupied := true } := by
    rw [harp]
    exact find?_arpUpdate hroom mac
  unfold arpResolve
  rw [if_neg (by rw [harp, initialized_arpUpdate, hinit]; simp)]
  simp only [hfind]

/-- **If `arp_handle_packet` were called for the type that is reported, the exchange would resolve
the address.** -/
theorem learns_of_arpType (ipInput : Host → Bytes → Except Fault Host) {a b : Host} (ha : ArpUp a)
    (hb : ArpUp b) (hmiss : Misses a b.ip.ipAddress)
    (hroom : ∃ e ∈ a.arp.cache, e.occupied = false) : Learns 0x0608 ipInput a b := by
  let request := arpRequest a.nic.macAddr a.ip.ipAddress b.ip.ipAddress
  let reply := arpReply b.nic.macAddr b.ip.ipAddress a.nic.macAddr a.ip.ipAddress
  obtain ⟨a', hsend, hto⟩ := ethernetSendFrame_sent ha Mac.broadcast arpType
    (show 0 < request.length ∧ request.length ≤ 1500 by rw [length_arpRequest]; decide)
  obtain ⟨b', hsend', hto'⟩ := ethernetSendFrame_sent hb a.nic.macAddr arpType
    (show 0 < reply.length ∧ reply.length ≤ 1500 by rw [length_arpReply]; decide)
  have hresolve : arpResolve a b.ip.ipAddress a.stack = .ok (Mac.broadcast, a') := by
    unfold arpResolve
    rw [if_neg (by rw [hmiss.initialized]; simp), hmiss.absent]
    show (ethernetSendFrame a (some Mac.broadcast) arpType (some request) >>= _) >>= _ = _
    rw [hsend]
    rfl
  have hrequest : receiveFrames 0x0608 ipInput b
      [etherFrame Mac.broadcast a.ethernet.macAddress arpType request] = .ok b' := by
    unfold receiveFrames
    rw [List.foldlM_cons, receiveFrame_of_arpType ipInput hb.initialized hb.callback (Or.inr rfl)
      a.ethernet.macAddress (by rw [length_arpRequest]; decide)]
    rw [arpHandlePacket_request]
    show ((ethernetSendFrame b (some a.nic.macAddr) arpType (some reply) >>= _) >>= _) = _
    rw [hsend']
    rfl
  have hethernet : a'.ethernet = a.ethernet := hto.ethernet
  have hreply : receiveFrames 0x0608 ipInput a'
      [etherFrame a.nic.macAddr b.ethernet.macAddress arpType reply]
        = .ok { a' with arp := arpUpdate a'.arp b.ip.ipAddress b.nic.macAddr } := by
    unfold receiveFrames
    rw [List.foldlM_cons, receiveFrame_of_arpType ipInput (by rw [hethernet]; exact ha.initialized)
      (by rw [hethernet]; exact ha.callback) (Or.inl (by rw [hethernet]; exact ha.mac))
      b.ethernet.macAddress (by rw [length_arpReply]; decide), arpHandlePacket_reply]
    rfl
  refine ⟨{ a' with arp := arpUpdate a'.arp b.ip.ipAddress b.nic.macAddr },
    { a' with arp := arpUpdate a'.arp b.ip.ipAddress b.nic.macAddr }, ?_, ?_⟩
  · unfold arpExchange
    rw [hresolve]
    simp only [ok_bind]
    rw [hto.drop_sent, hrequest]
    simp only [ok_bind]
    rw [hto'.drop_sent, hreply]
  · rw [hb.mac]
    exact arpResolve_arpUpdate rfl (by rw [hto.arp]; exact hmiss.initialized)
      (by rw [hto.arp]; exact hroom) _

/-! ## Two hosts -/

/-- `exampleHost` after `arp_init`. -/
def arpHost (ip : UInt32) (mac : Mac) : Host :=
  { exampleHost ip mac with arp := arpInit }

theorem misses_arpHost (ip : UInt32) (mac : Mac) (dest : UInt32) : Misses (arpHost ip mac) dest := by
  refine ⟨rfl, List.find?_eq_none.mpr fun e he => ?_⟩
  rw [List.eq_of_mem_replicate he]
  simp

/-- A host whose address is the broadcast address is "resolved". -/
theorem learns_broadcast_host :
    Learns 0x0806 (fun h _ => .ok h) (arpHost 0x0100000A ⟨2, 0, 0, 0, 0, 1⟩)
      (arpHost 0x0200000A Mac.broadcast) :=
  (learns_iff_broadcast _ (misses_arpHost 0x0100000A ⟨2, 0, 0, 0, 0, 1⟩ 0x0200000A)).mpr rfl

/-- **Two hosts with empty caches, and with memory for all frames**: the address of the second one
is not resolved. -/
theorem request_not_dispatched :
    ArpUp (arpHost 0x0100000A ⟨2, 0, 0, 0, 0, 1⟩) ∧ ArpUp (arpHost 0x0200000A ⟨2, 0, 0, 0, 0, 2⟩) ∧
    Misses (arpHost 0x0100000A ⟨2, 0, 0, 0, 0, 1⟩) 0x0200000A ∧
    (∃ e ∈ (arpHost 0x0100000A ⟨2, 0, 0, 0, 0, 1⟩).arp.cache, e.occupied = false) ∧
    ¬ Learns 0x0806 (fun h _ => .ok h) (arpHost 0x0100000A ⟨2, 0, 0, 0, 0, 1⟩)
      (arpHost 0x0200000A ⟨2, 0, 0, 0, 0, 2⟩) := by
  have hmiss := misses_arpHost 0x0100000A ⟨2, 0, 0, 0, 0, 1⟩ 0x0200000A
  refine ⟨⟨rfl, rfl, rfl, ⟨rfl, rfl⟩, by unfold Host.Allocates; decide⟩,
    ⟨rfl, rfl, rfl, ⟨rfl, rfl⟩, by unfold Host.Allocates; decide⟩, hmiss,
    ⟨_, List.mem_cons_self, rfl⟩, ?_⟩
  rintro ⟨a₁, a₂, h₁, h₂⟩
  obtain ⟨a', a'', hexchange, hresolve⟩ := arpExchange_of_misses (fun h _ => .ok h)
    (b := arpHost 0x0200000A ⟨2, 0, 0, 0, 0, 2⟩) hmiss
  rw [hexchange] at h₁
  cases h₁
  rw [hresolve] at h₂
  have hmac : Mac.broadcast = ⟨2, 0, 0, 0, 0, 2⟩ := congrArg Prod.fst (Except.ok.inj h₂)
  exact absurd hmac (by decide)

end MayaOs.Net
