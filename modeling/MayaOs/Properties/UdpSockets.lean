import MayaOs.Lib.KeyedTable
import MayaOs.Properties.UdpDelivery

/-!
# One socket for each port

* `udpCreateSocket_cases` — what a call can do to the sockets
* `portsBound_always` — after any calls, each bound port has one socket, which gets its datagrams
-/

namespace MayaOs.Net

open MayaOs.Lib

/-! ## The property -/

/-- The ports of the sockets in use. -/
def boundPorts (sockets : List UdpSocket) : List UInt16 :=
  keys UdpSocket.inUse UdpSocket.localPort sockets

/-- The socket in cell `i` is the one bound to the port. -/
structure BoundAt (s : UdpState) (i : Nat) (port : UInt16) (socket : UdpSocket) : Prop where
  cell : s.sockets[i]? = some socket
  inUse : socket.inUse = true
  bound : socket.localPort = port
  unique : ∀ j other, s.sockets[j]? = some other → other.inUse = true →
    other.localPort = port → j = i

structure PortsBound (s : UdpState) : Prop where
  distinct : (boundPorts s.sockets).Nodup
  nonzero : 0 ∉ boundPorts s.sockets
  unchanged : ∀ port callback s', udpCreateSocket s port callback = (none, s') →
    s'.sockets = s.sockets
  delivered : ∀ (h : Host) srcIp packet length calls, h.udp = s →
    udpHandlePacket h srcIp (some packet) length = .ok calls → calls = [] ∨
      ∃ i socket call, calls = [call] ∧ call.callback = socket.callback ∧
        BoundAt s i (swap16 (u16At packet 2)) socket

/-! ## The calls -/

theorem assignPort_sockets (s : UdpState) (port : UInt16) :
    (assignPort s port).2.sockets = s.sockets ∧
      (assignPort s port).2.initialized = s.initialized := by
  unfold assignPort
  split <;> exact ⟨rfl, rfl⟩

/-- The counter stays in the dynamic range when it wraps around. -/
theorem assignPort_ports {s : UdpState} (h : 49152 ≤ s.nextPort) (port : UInt16) :
    (assignPort s port).1 ≠ 0 ∧ 49152 ≤ (assignPort s port).2.nextPort := by
  unfold assignPort
  split
  · refine ⟨fun hzero => ?_, ?_⟩
    · rw [show s.nextPort = 0 from hzero] at h
      exact absurd h (by decide)
    · show 49152 ≤ if s.nextPort + 1 < 49152 then 49152 else s.nextPort + 1
      split
      · exact UInt16.le_refl _
      · next hlt => exact UInt16.not_lt.mp hlt
  · next hport => exact ⟨hport, h⟩

/-- What `bindSocket` can do: nothing, or put the port into a free cell. -/
theorem bindSocket_cases (s : UdpState) (port : UInt16) (callback : Nat) :
    bindSocket s port callback = (none, s) ∨
    ∃ i, ∃ hi : i < s.sockets.length, s.sockets[i].inUse = false ∧ port ∉ boundPorts s.sockets ∧
      bindSocket s port callback = (some i,
        { s with
          sockets := s.sockets.set i
            { localPort := port, callback := callback, inUse := true } }) := by
  unfold bindSocket
  split
  · exact Or.inl rfl
  · next hany =>
    cases hfree : s.sockets.findIdx? fun socket => !socket.inUse with
    | none => exact Or.inl rfl
    | some i =>
      obtain ⟨hi, hcell, -⟩ := List.findIdx?_eq_some_iff_getElem.mp hfree
      refine Or.inr ⟨i, hi, by simpa using hcell, fun hmem => hany ?_, rfl⟩
      obtain ⟨socket, hsocket, huse, hport⟩ := mem_keys.mp hmem
      exact List.any_eq_true.mpr ⟨socket, hsocket, by rw [huse, hport]; simp⟩

/-- **Everything `udp_create_socket` can do to the sockets**: nothing, or bind a new port. -/
theorem udpCreateSocket_cases (s : UdpState) (port : UInt16) (callback : Nat) :
    (udpCreateSocket s port callback).2.initialized = s.initialized ∧
    ((udpCreateSocket s port callback).1 = none ∧
        (udpCreateSocket s port callback).2.sockets = s.sockets ∨
      ∃ i, ∃ hi : i < s.sockets.length, s.sockets[i].inUse = false ∧
        (assignPort s port).1 ∉ boundPorts s.sockets ∧
        (udpCreateSocket s port callback).1 = some i ∧
        (udpCreateSocket s port callback).2.sockets = s.sockets.set i
          { localPort := (assignPort s port).1, callback := callback, inUse := true }) := by
  obtain ⟨hsockets, hinit⟩ := assignPort_sockets s port
  unfold udpCreateSocket
  split
  · exact ⟨rfl, Or.inl ⟨rfl, rfl⟩⟩
  · rcases bindSocket_cases (assignPort s port).2 (assignPort s port).1 callback with
      heq | ⟨i, hi, hfree, hnew, heq⟩
    · rw [heq]
      exact ⟨hinit, Or.inl ⟨rfl, hsockets⟩⟩
    · simp only [hsockets] at hi hfree hnew
      refine ⟨by rw [heq]; exact hinit, Or.inr ⟨i, hi, hfree, hnew, by rw [heq], ?_⟩⟩
      rw [heq]
      exact congrArg (fun sockets => List.set sockets i _) hsockets

/-! ## The invariant -/

structure SocketInv (s : UdpState) : Prop where
  initialized : s.initialized = true
  nextPort : 49152 ≤ s.nextPort
  distinct : (boundPorts s.sockets).Nodup
  nonzero : 0 ∉ boundPorts s.sockets

theorem socketInv_fresh : SocketInv UdpState.fresh where
  initialized := rfl
  nextPort := UInt16.le_refl _
  distinct := by decide +kernel
  nonzero := by decide +kernel

theorem udpCreateSocket_nextPort {s : UdpState} (h : 49152 ≤ s.nextPort) (port : UInt16)
    (callback : Nat) : 49152 ≤ (udpCreateSocket s port callback).2.nextPort := by
  unfold udpCreateSocket
  split
  · exact h
  · rcases bindSocket_cases (assignPort s port).2 (assignPort s port).1 callback with
      heq | ⟨i, hi, -, -, heq⟩ <;>
    · rw [heq]
      exact (assignPort_ports h port).2

theorem SocketInv.create {s : UdpState} (h : SocketInv s) (port : UInt16) (callback : Nat) :
    SocketInv (udpCreateSocket s port callback).2 := by
  obtain ⟨hinit, ⟨-, hsame⟩ | ⟨i, hi, hfree, hnew, -, hset⟩⟩ := udpCreateSocket_cases s port callback
  · refine ⟨hinit.trans h.initialized, udpCreateSocket_nextPort h.nextPort port callback, ?_, ?_⟩
    · rw [hsame]
      exact h.distinct
    · rw [hsame]
      exact h.nonzero
  · have hperm : (keys UdpSocket.inUse UdpSocket.localPort
          (udpCreateSocket s port callback).2.sockets).Perm
        ((assignPort s port).1 :: keys UdpSocket.inUse UdpSocket.localPort s.sockets) := by
      rw [hset]
      exact keys_set_perm rfl hi hfree
    refine ⟨hinit.trans h.initialized, udpCreateSocket_nextPort h.nextPort port callback, ?_, ?_⟩
    · exact hperm.nodup_iff.mpr (List.nodup_cons.mpr ⟨hnew, h.distinct⟩)
    · intro hzero
      rcases List.mem_cons.mp (hperm.mem_iff.mp hzero) with hport | hold
      · exact (assignPort_ports h.nextPort port).1 hport.symm
      · exact h.nonzero hold

theorem SocketInv.close {s : UdpState} (h : SocketInv s) (socket : Option Nat) :
    SocketInv (udpCloseSocket s socket) := by
  unfold udpCloseSocket
  cases socket with
  | none => exact h
  | some i =>
    show SocketInv (if s.initialized = false then s else _)
    rw [if_neg (by rw [h.initialized]; simp)]
    have hsub : (keys UdpSocket.inUse UdpSocket.localPort (s.sockets.set i UdpSocket.zero)).Sublist
        (keys UdpSocket.inUse UdpSocket.localPort s.sockets) := keys_set_sublist rfl s.sockets i
    exact ⟨h.initialized, h.nextPort, h.distinct.sublist hsub, fun hzero =>
      h.nonzero (hsub.subset hzero)⟩

/-- **One step.** -/
theorem socketInv_step {s s' : UdpState} {op : UdpOp} (h : SocketInv s)
    (hs : udpStep s op = some s') : SocketInv s' := by
  cases op with
  | create port callback => cases hs; exact h.create port callback
  | close socket => cases hs; exact h.close socket

/-! ## Datagrams -/

/-- The callback is that of the first socket in use with the port. -/
theorem udpHandlePacket_cases {h : Host} {srcIp : UInt32} {packet : Bytes} {length : Nat}
    {calls : List UdpCall} (heq : udpHandlePacket h srcIp (some packet) length = .ok calls) :
    calls = [] ∨ ∃ socket call, calls = [call] ∧ call.callback = socket.callback ∧
      h.udp.sockets.find? (fun s => s.inUse && s.localPort == swap16 (u16At packet 2))
        = some socket := by
  unfold udpHandlePacket at heq
  simp only [] at heq
  split at heq
  · exact Or.inl (Except.ok.inj heq).symm
  · obtain ⟨destPort, hdest, heq⟩ := bind_eq_ok.mp heq
    obtain ⟨srcPort, -, heq⟩ := bind_eq_ok.mp heq
    rw [← eq_u16At_of_read16 hdest]
    cases hfind : h.udp.sockets.find? fun s => s.inUse && s.localPort == swap16 destPort with
    | none =>
      rw [hfind] at heq
      exact Or.inl (Except.ok.inj heq).symm
    | some socket =>
      rw [hfind] at heq
      obtain ⟨recvChecksum, -, heq⟩ := bind_eq_ok.mp heq
      obtain ⟨cleared, -, heq⟩ := bind_eq_ok.mp heq
      obtain ⟨header, -, heq⟩ := bind_eq_ok.mp heq
      obtain ⟨data, -, heq⟩ := bind_eq_ok.mp heq
      split at heq
      · exact Or.inl (Except.ok.inj heq).symm
      · exact Or.inr ⟨socket, _, (Except.ok.inj heq).symm, rfl, rfl⟩

theorem SocketInv.boundAt {s : UdpState} (h : SocketInv s) {port : UInt16} {socket : UdpSocket}
    (hfind : s.sockets.find? (fun s => s.inUse && s.localPort == port) = some socket) :
    ∃ i, BoundAt s i port socket := by
  have hsome := List.find?_some hfind
  simp only [Bool.and_eq_true, beq_iff_eq] at hsome
  obtain ⟨i, hi⟩ := List.mem_iff_getElem?.mp (List.mem_of_find?_eq_some hfind)
  refine ⟨i, hi, hsome.1, hsome.2, fun j other hj huse hport => ?_⟩
  exact cell_unique h.distinct hj hi huse hsome.1 (hport.trans hsome.2.symm)

theorem SocketInv.portsBound {s : UdpState} (h : SocketInv s) : PortsBound s where
  distinct := h.distinct
  nonzero := h.nonzero
  unchanged := by
    intro port callback s' hnone
    obtain ⟨-, ⟨-, hsame⟩ | ⟨i, hi, -, -, hsome, -⟩⟩ := udpCreateSocket_cases s port callback
    · rw [hnone] at hsame
      exact hsame
    · rw [hnone] at hsome
      simp at hsome
  delivered := by
    rintro host srcIp packet length calls rfl heq
    rcases udpHandlePacket_cases heq with hnil | ⟨socket, call, hone, hcallback, hfind⟩
    · exact Or.inl hnil
    · obtain ⟨i, hbound⟩ := h.boundAt hfind
      exact Or.inr ⟨i, socket, call, hone, hcallback, hbound⟩

/-! ## Runs -/

theorem udp_udpInit {h : Host} (hinit : h.udp.initialized = false) :
    (udpInit h).2.udp = UdpState.fresh := by
  unfold udpInit
  rw [if_neg (by rw [hinit]; simp)]

/--
**After any calls, a port that is bound has one socket, and its datagrams go there.**

The ports asked for are arbitrary, 0 included, and any socket may be closed. A call that fails
leaves the sockets alone.
-/
theorem portsBound_always (h : Host) (hinit : h.udp.initialized = false) (ops : List UdpOp) :
    Always udpStep PortsBound (udpInit h).2.udp ops := by
  rw [udp_udpInit hinit]
  exact Always.of_invariant (fun _ hs => SocketInv.portsBound hs) (fun _ _ _ => socketInv_step)
    socketInv_fresh

/-- Two dynamic ports; the first socket is closed and its cell used again. -/
theorem portsBound_reuse :
    Always udpStep PortsBound
      (udpInit
        { exampleHost 0x0100000A ⟨2, 0, 0, 0, 0, 1⟩ with
          udp := { UdpState.fresh with initialized := false } }).2.udp
      [.create 0 1, .create 0 2, .close (some 0), .create 49153 3, .create 7 3] :=
  portsBound_always
    { exampleHost 0x0100000A ⟨2, 0, 0, 0, 0, 1⟩ with
      udp := { UdpState.fresh with initialized := false } } rfl _

end MayaOs.Net
