import MayaOs.Net.Ethernet

/-!
# Address resolution (`net/arp.c`)

* `arpResolve_cases` — resolving an address sends at most requests
-/

namespace MayaOs.Net

open MayaOs.Lib

/-- The type passed to `ethernet_send_frame`, which converts it to network byte order once more. -/
def arpType : UInt16 := 0x0608

/-- The `arp_packet_t` of a request. -/
def arpRequest (srcMac : Mac) (srcIp destIp : UInt32) : Bytes :=
  le16 0x0100 ++ le16 0x0008 ++ [6, 4] ++ le16 0x0100 ++ srcMac.bytes ++ le32 srcIp ++
    List.replicate 6 0 ++ le32 destIp

@[simp] theorem length_arpRequest (srcMac : Mac) (srcIp destIp : UInt32) :
    (arpRequest srcMac srcIp destIp).length = 28 := rfl

def arpSendRequest (h : Host) (ip : UInt32) : Except Fault Host := do
  let r ← ethernetSendFrame h (some Mac.broadcast) arpType
    (some (arpRequest h.nic.macAddr h.ip.ipAddress ip))
  return r.2

/-- `mac` is what the caller's buffer holds before the call. -/
def arpResolve (h : Host) (ip : UInt32) (mac : Mac) : Except Fault (Mac × Host) :=
  if h.arp.initialized = false then .ok (mac, h)
  else
    match h.arp.cache.find? fun e => e.occupied && e.ip == ip with
    | some e => .ok (e.mac, h)
    | none => do
      -- "Not in cache, send request and use broadcast for now"
      let h ← arpSendRequest h ip
      return (Mac.broadcast, h)

/-! ## arp_handle_packet -/

def arpCacheSize : Nat := 64

/-- `arp_state` after `arp_init`. -/
def arpInit : ArpState where
  cache := List.replicate arpCacheSize { ip := 0, mac := ⟨0, 0, 0, 0, 0, 0⟩, occupied := false }
  initialized := true

/-- "Update cache": the first cell that is not in use, or holds the same address. -/
def arpUpdate (s : ArpState) (ip : UInt32) (mac : Mac) : ArpState :=
  match s.cache.findIdx? fun e => !e.occupied || e.ip == ip with
  | none => s
  | some i => { s with cache := s.cache.set i { ip := ip, mac := mac, occupied := true } }

/-- The `arp_packet_t` of a reply. -/
def arpReply (srcMac : Mac) (srcIp : UInt32) (destMac : Mac) (destIp : UInt32) : Bytes :=
  le16 0x0100 ++ le16 0x0008 ++ [6, 4] ++ le16 0x0200 ++ srcMac.bytes ++ le32 srcIp ++
    destMac.bytes ++ le32 destIp

@[simp] theorem length_arpReply (srcMac : Mac) (srcIp : UInt32) (destMac : Mac) (destIp : UInt32) :
    (arpReply srcMac srcIp destMac destIp).length = 28 := rfl

def arpHandlePacket (h : Host) (packet : Bytes) : Except Fault Host :=
  if packet.length < 28 then .ok h
  else do
    let opcode ← read16 packet 6
    if swap16 opcode = 2 then
      let srcIp ← read32 packet 14
      let srcMac ← readMac packet 8
      return { h with arp := arpUpdate h.arp srcIp srcMac }
    else if swap16 opcode = 1 then
      let destIp ← read32 packet 24
      if destIp = h.ip.ipAddress then
        let srcMac ← readMac packet 8
        let srcIp ← read32 packet 14
        let r ← ethernetSendFrame h (some srcMac) arpType
          (some (arpReply h.nic.macAddr h.ip.ipAddress srcMac srcIp))
        return r.2
      else return h
    else return h

/-! ## Sending -/

/-- A frame that carries a request. -/
def IsArpRequest (frame : Bytes) : Prop :=
  ∃ srcMac packet, frame = etherFrame Mac.broadcast srcMac arpType packet

/-- **Resolving an address does not fail, and sends at most requests.** -/
theorem arpResolve_cases (h : Host) (ip : UInt32) (mac : Mac) :
    ∃ mac' h' frames, arpResolve h ip mac = .ok (mac', h') ∧ SendsTo h h' frames ∧
      ∀ f ∈ frames, IsArpRequest f := by
  have hnone : ∀ mac', ∃ mac'' h' frames, (Except.ok (mac', h) : Except Fault (Mac × Host))
      = .ok (mac'', h') ∧ SendsTo h h' frames ∧ ∀ f ∈ frames, IsArpRequest f :=
    fun mac' => ⟨mac', h, [], rfl, SendsTo.refl h h.allocs, by simp⟩
  unfold arpResolve
  split
  · exact hnone mac
  · split
    · next e _ => exact hnone e.mac
    · obtain ⟨ok, h', frames, hsend, hto, hframes⟩ := ethernetSendFrame_cases h Mac.broadcast arpType
        (arpRequest h.nic.macAddr h.ip.ipAddress ip) (by rw [length_arpRequest]; decide)
      refine ⟨Mac.broadcast, h', frames, ?_, hto, ?_⟩
      · simp only [arpSendRequest, hsend, ok_bind, pure, Except.pure]
      · intro f hf
        rcases hframes with ⟨-, rfl⟩ | ⟨-, -, -, rfl⟩
        · cases hf
        · rw [List.mem_singleton] at hf
          exact ⟨_, _, hf⟩

end MayaOs.Net
