import MayaOs.Net.Tcp

/-!
# Faults of the TCP input

`tcp_handle_packet` answers a packet that no socket matches with a RST sent from the socket NULL.

* `handlePacket_ok_iff` — a packet of exactly `length` bytes is handled without a fault iff it is
  ignored, some socket matches it, or there is no memory for the RST
* `unmatched_fault` — 20 bytes of zeros, sent to a host without sockets
-/

namespace MayaOs.Net

open MayaOs.Lib

/-- Some socket matches the packet. -/
def Matched (h : Host) (srcIp : UInt32) (packet : Bytes) : Prop :=
  ∃ socket ∈ h.tcp.sockets,
    tcpMatches srcIp (swap16 (u16At packet 0)) (swap16 (u16At packet 2)) socket = true

theorem matched_iff {h : Host} {srcIp : UInt32} {packet : Bytes} :
    Matched h srcIp packet ↔ ∃ socket, segmentSocket h srcIp packet = some socket := by
  unfold Matched segmentSocket TcpState.lookup
  rw [← Option.isSome_iff_exists, List.find?_isSome]

/-- Without a socket, only the RST decides about the outcome. -/
theorem tcpHandlePacket_unmatched {h : Host} {srcIp : UInt32} {packet : Bytes}
    (he : Examined h packet) (hno : ¬ Matched h srcIp packet) :
    (∃ result, tcpHandlePacket h srcIp (some packet) packet.length = .ok result) ↔
      (kmalloc h tcpHeaderSize).1 = none := by
  have hnone : segmentSocket h srcIp packet = none := by
    cases hs : segmentSocket h srcIp packet with
    | none => rfl
    | some socket => exact absurd (matched_iff.mpr ⟨socket, hs⟩) hno
  rw [tcpHandlePacket_examined he, hnone, ← tcpSendPacket_none h tcpFlagRst]
  cases hsend : tcpSendPacket h none tcpFlagRst [] with
  | ok h' => exact ⟨fun _ => ⟨h', rfl⟩, fun _ => ⟨([], h'), rfl⟩⟩
  | error fault =>
    constructor
    · rintro ⟨_, hres⟩
      cases hres
    · rintro ⟨_, hres⟩
      cases hres

/--
**A packet is handled without dereferencing NULL and without reading outside of it iff it is not
looked at, some socket matches it, or the allocation of the RST fails.**
-/
theorem handlePacket_ok_iff (h : Host) (srcIp : UInt32) (packet : Option Bytes) :
    (∃ result, tcpHandlePacket h srcIp packet (packet.elim 0 List.length) = .ok result) ↔
      ∀ p, packet = some p → Examined h p →
        Matched h srcIp p ∨ (kmalloc h tcpHeaderSize).1 = none := by
  cases packet with
  | none => exact ⟨fun _ p hp => (by cases hp), fun _ => ⟨([], h), rfl⟩⟩
  | some p =>
    show (∃ result, tcpHandlePacket h srcIp (some p) p.length = .ok result) ↔ _
    by_cases he : Examined h p
    · by_cases hm : Matched h srcIp p
      · obtain ⟨socket, hs⟩ := matched_iff.mp hm
        obtain ⟨events, h', g, hres, -, -⟩ := tcpHandlePacket_cases he hs
        refine ⟨fun _ q hq _ => ?_, fun _ => ⟨(events, h'), hres⟩⟩
        cases hq
        exact Or.inl hm
      · -- no socket: the RST decides
        rw [tcpHandlePacket_unmatched he hm]
        constructor
        · intro hk q _ _
          exact Or.inr hk
        · intro hcond
          exact (hcond p rfl he).resolve_left hm
    · refine ⟨fun _ q hq heq => ?_, fun _ => ⟨([], h), tcpHandlePacket_ignored he⟩⟩
      cases hq
      exact absurd heq he

/-- A host at 10.0.0.2 right after `tcp_init`; the next call of `kmalloc` succeeds. -/
def listeningHost : Host where
  nic := { macAddr := ⟨2, 0, 0, 0, 0, 2⟩, isRtl8139 := true, initialized := true, sent := [] }
  ethernet := { macAddress := ⟨2, 0, 0, 0, 0, 2⟩, rxCallback := some .ipInput, initialized := true }
  arp := { cache := [], initialized := true }
  ip :=
    { ipAddress := 0x0200000A, subnetMask := 0x00FFFFFF, gateway := 0x0100000A, idCounter := 0
      protocolHandlers := fun protocol => if protocol = 6 then some .tcp else none
      initialized := true }
  udp := { sockets := [], nextPort := 49152, initialized := false }
  tcp := TcpState.fresh
  ticks := 0
  allocs := [some fun _ => 0]
  stack := ⟨0, 0, 0, 0, 0, 0⟩

/-- **Any segment for a port without a socket makes the kernel dereference NULL.** -/
theorem unmatched_fault :
    tcpHandlePacket listeningHost 0x0100000A (some (List.replicate 20 0)) 20 = .error .nullDeref :=
  rfl

end MayaOs.Net
