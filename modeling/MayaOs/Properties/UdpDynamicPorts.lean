import MayaOs.Properties.UdpSockets

/-!
# Dynamic UDP ports

`udp_create_socket` with port 0 takes the next value of a counter and gives up if a socket is bound to
that port, whatever other ports are free.

* `udpCreateSocket_dynamic_iff` — when the call fails
* `udp_dynamic_ports_iff` — it fails only with all slots in use iff the next port is free
* `udp_dynamic_port_taken` — the first dynamic port has been bound by its number
-/

namespace MayaOs.Net

open MayaOs.Lib

/-- All 256 of them. -/
def AllInUse (s : UdpState) : Prop :=
  s.sockets.length = udpMaxSockets ∧ ∀ socket ∈ s.sockets, socket.inUse = true

/-- What asking for a dynamic port should do. -/
structure DynamicCreate (s : UdpState) : Prop where
  fails : ∀ callback, callback ≠ 0 → (udpCreateSocket s 0 callback).1 = none → AllInUse s
  port : ∀ callback i, callback ≠ 0 → (udpCreateSocket s 0 callback).1 = some i →
    ∃ socket, (udpCreateSocket s 0 callback).2.sockets[i]? = some socket ∧
      socket.inUse = true ∧ 49152 ≤ socket.localPort

/-- The next port is free, or else there is no slot for it anyway. -/
def NextPortFree (s : UdpState) : Prop := s.nextPort ∉ boundPorts s.sockets ∨ AllInUse s

/-! ## The slots -/

theorem length_udpCreateSocket (s : UdpState) (port : UInt16) (callback : Nat) :
    (udpCreateSocket s port callback).2.sockets.length = s.sockets.length := by
  obtain ⟨-, ⟨-, hsame⟩ | ⟨i, hi, -, -, -, hset⟩⟩ := udpCreateSocket_cases s port callback
  · rw [hsame]
  · rw [hset, List.length_set]

theorem length_udpCloseSocket (s : UdpState) (socket : Option Nat) :
    (udpCloseSocket s socket).sockets.length = s.sockets.length := by
  unfold udpCloseSocket
  cases socket with
  | none => rfl
  | some i =>
    simp only []
    split
    · rfl
    · exact List.length_set

/-- `SocketInv`, and no slot is lost. -/
structure SlotInv (s : UdpState) : Prop extends SocketInv s where
  slots : s.sockets.length = udpMaxSockets

theorem slotInv_fresh : SlotInv UdpState.fresh where
  toSocketInv := socketInv_fresh
  slots := List.length_replicate

theorem slotInv_step {s s' : UdpState} {op : UdpOp} (h : SlotInv s) (hs : udpStep s op = some s') :
    SlotInv s' := by
  refine ⟨socketInv_step h.toSocketInv hs, ?_⟩
  cases op with
  | create port callback =>
    cases hs
    exact (length_udpCreateSocket s port callback).trans h.slots
  | close socket =>
    cases hs
    exact (length_udpCloseSocket s socket).trans h.slots

/-! ## Asking for a dynamic port -/

theorem bindSocket_eq_none_iff {s : UdpState} {port : UInt16} {callback : Nat} :
    (bindSocket s port callback).1 = none ↔
      port ∈ boundPorts s.sockets ∨ ∀ socket ∈ s.sockets, socket.inUse = true := by
  have hany : (s.sockets.any fun socket => socket.inUse && socket.localPort == port) = true ↔
      port ∈ boundPorts s.sockets := by
    simp only [boundPorts, mem_keys, List.any_eq_true, Bool.and_eq_true, beq_iff_eq]
  unfold bindSocket
  split
  · next htaken => exact iff_of_true rfl (Or.inl (hany.mp htaken))
  · next hfree =>
    rw [hany] at hfree
    rw [or_iff_right hfree]
    cases hslot : s.sockets.findIdx? fun socket => !socket.inUse with
    | none =>
      refine iff_of_true rfl fun socket hsocket => ?_
      simpa using List.findIdx?_eq_none_iff.mp hslot socket hsocket
    | some i =>
      obtain ⟨hi, hcell, -⟩ := List.findIdx?_eq_some_iff_getElem.mp hslot
      refine iff_of_false (by simp) fun hall => ?_
      rw [hall _ (List.getElem_mem hi)] at hcell
      exact absurd hcell (by decide)

theorem assignPort_zero (s : UdpState) : (assignPort s 0).1 = s.nextPort := by
  unfold assignPort
  rw [if_pos rfl]

/-- **The call fails if there is no slot, but also if the next port is bound.** -/
theorem udpCreateSocket_dynamic_iff {s : UdpState} (h : SlotInv s) {callback : Nat}
    (hcallback : callback ≠ 0) :
    (udpCreateSocket s 0 callback).1 = none ↔ s.nextPort ∈ boundPorts s.sockets ∨ AllInUse s := by
  unfold udpCreateSocket
  rw [if_neg (by simp [h.initialized, hcallback]), bindSocket_eq_none_iff, assignPort_zero,
    (assignPort_sockets s 0).1, AllInUse, and_iff_right h.slots]

theorem dynamic_port {s : UdpState} (h : SlotInv s) {callback i : Nat}
    (hsome : (udpCreateSocket s 0 callback).1 = some i) :
    ∃ socket, (udpCreateSocket s 0 callback).2.sockets[i]? = some socket ∧
      socket.inUse = true ∧ 49152 ≤ socket.localPort := by
  obtain ⟨-, ⟨hnone, -⟩ | ⟨j, hj, -, -, hslot, hset⟩⟩ := udpCreateSocket_cases s 0 callback
  · rw [hsome] at hnone
    cases hnone
  · obtain rfl : j = i := Option.some.inj (hslot.symm.trans hsome)
    rw [hset, List.getElem?_set_self hj, assignPort_zero]
    exact ⟨_, rfl, rfl, h.nextPort⟩

theorem SlotInv.dynamicCreate_iff {s : UdpState} (h : SlotInv s) :
    DynamicCreate s ↔ NextPortFree s := by
  unfold NextPortFree
  constructor
  · intro hcreate
    by_cases htaken : s.nextPort ∈ boundPorts s.sockets
    · have hnone := (udpCreateSocket_dynamic_iff h Nat.one_ne_zero).mpr (Or.inl htaken)
      exact Or.inr (hcreate.fails 1 Nat.one_ne_zero hnone)
    · exact Or.inl htaken
  · intro hfree
    refine ⟨fun callback hcallback hnone => ?_, fun callback i _ => dynamic_port h⟩
    rcases (udpCreateSocket_dynamic_iff h hcallback).mp hnone with htaken | hall
    · exact hfree.resolve_left fun hno => hno htaken
    · exact hall

/-! ## Runs -/

/--
**In every state that calls lead to, a dynamic port is refused only for want of a slot iff the next
port is free.**

The port that is given out is a dynamic one in any case.
-/
theorem udp_dynamic_ports_iff (h : Host) (hinit : h.udp.initialized = false) (ops : List UdpOp) :
    Always udpStep (fun s => DynamicCreate s ↔ NextPortFree s) (udpInit h).2.udp ops := by
  rw [udp_udpInit hinit]
  exact Always.of_invariant (fun _ hs => SlotInv.dynamicCreate_iff hs) (fun _ _ _ => slotInv_step)
    slotInv_fresh

/-- A host before `udp_init`. -/
def udpBootHost : Host :=
  { exampleHost 0x0100000A ⟨2, 0, 0, 0, 0, 1⟩ with
    udp := { UdpState.fresh with initialized := false } }

/-- **The first dynamic port is taken by its number**, and 255 slots are free. -/
theorem udp_dynamic_port_taken :
    ¬ Always udpStep DynamicCreate (udpInit udpBootHost).2.udp [.create 49152 1] := by
  rw [udp_udpInit rfl]
  rintro ⟨-, hrun⟩
  have hcreate := (hrun _ rfl).1
  have hnone : (udpCreateSocket (udpCreateSocket UdpState.fresh 49152 1).2 0 1).1 = none := by
    decide +kernel
  have hall := (hcreate.fails 1 Nat.one_ne_zero hnone).2
  have hzero : UdpSocket.zero ∈ (udpCreateSocket UdpState.fresh 49152 1).2.sockets := by
    decide +kernel
  exact absurd (hall _ hzero) (by decide)

/-- Two dynamic ports, and one that is bound by its number beforehand. -/
theorem udp_dynamic_ports_three :
    Always udpStep (fun s => DynamicCreate s ↔ NextPortFree s) (udpInit udpBootHost).2.udp
      [.create 0 1, .create 49153 1, .create 0 2, .create 0 2] :=
  udp_dynamic_ports_iff udpBootHost rfl _

end MayaOs.Net
