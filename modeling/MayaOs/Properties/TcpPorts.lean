import MayaOs.Lib.Run
import MayaOs.Net.Tcp
import MayaOs.Properties.UdpDelivery

/-!
# The ports of TCP sockets

`tcp_create_socket` takes the next value of a 16-bit counter that starts at 49152, and does not look
whether it has wrapped around.

* `tcpStep_ports` — of all calls only `tcp_create_socket` gives out a port
* `tcp_ports_iff` — the ports are distinct and dynamic as long as no more than 16384 sockets have been
  created
* `tcp_ports_wrap` — the socket after that gets port 0
-/

namespace MayaOs.Net

open MayaOs.Lib

def tcpPorts (s : TcpState) : List UInt16 := s.sockets.map TcpSocket.localPort

/-- The ports are pairwise distinct, and all of them are dynamic. -/
structure PortsOk (s : TcpState) : Prop where
  distinct : (tcpPorts s).Nodup
  dynamic : ∀ port ∈ tcpPorts s, 49152 ≤ port

/-! ## The calls -/

inductive TcpOp where
  | create (callback addr : Nat)
  | connect (socket : Nat) (ip : UInt32) (port : UInt16)
  | close (socket : Nat)
  | packet (srcIp : UInt32) (packet : Option Bytes)
  /-- anything else; the sockets belong to `tcp.c` alone -/
  | other (host : Host)

/-- `opened`: how many sockets have been created; a call without a callback or memory creates none. -/
structure TcpRun where
  host : Host
  opened : Nat

/-- A call; `none` if it faults. -/
def tcpStep (s : TcpRun) : TcpOp → Option TcpRun
  | .create callback addr =>
    some {
      host := { s.host with tcp := (tcpCreateSocket s.host.tcp callback addr).2 }
      opened :=
        if s.host.tcp.initialized = false ∨ callback = 0 ∨ addr = 0 then s.opened
        else s.opened + 1 }
  | .connect socket ip port =>
    (tcpConnect s.host socket ip port).toOption.map fun r => { s with host := r.2 }
  | .close socket => (tcpClose s.host socket).toOption.map fun h => { s with host := h }
  | .packet srcIp packet =>
    (tcpHandlePacket s.host srcIp packet (packet.elim 0 List.length)).toOption.map fun r =>
      { s with host := r.2 }
  | .other host => some { s with host := { host with tcp := s.host.tcp } }

/-- After `tcp_init`. -/
def TcpRun.start (h : Host) : TcpRun where
  host := (tcpInit h).2
  opened := 0

/-! ## What a call does to the ports -/

/-- No port is given out. -/
structure KeepsPorts (s s' : TcpState) : Prop where
  ports : (tcpPorts s').Sublist (tcpPorts s)
  nextPort : s'.nextPort = s.nextPort
  initialized : s'.initialized = s.initialized

theorem KeepsPorts.refl (s : TcpState) : KeepsPorts s s := ⟨List.Sublist.refl _, rfl, rfl⟩

theorem KeepsPorts.trans {s t u : TcpState} (h : KeepsPorts s t) (h' : KeepsPorts t u) :
    KeepsPorts s u :=
  ⟨h'.ports.trans h.ports, h'.nextPort.trans h.nextPort, h'.initialized.trans h.initialized⟩

/-- Changing a socket, but not its port. -/
theorem keepsPorts_modify (s : TcpState) (addr : Nat) {f : TcpSocket → TcpSocket}
    (hf : ∀ x, (f x).localPort = x.localPort) : KeepsPorts s (s.modify addr f) := by
  refine ⟨?_, rfl, rfl⟩
  have hsame : tcpPorts (s.modify addr f) = tcpPorts s := by
    unfold tcpPorts TcpState.modify
    rw [List.map_map]
    refine List.map_congr_left fun x _ => ?_
    rw [Function.comp_apply]
    split
    · exact hf x
    · rfl
  rw [hsame]

theorem keepsPorts_erase (s : TcpState) (p : TcpSocket → Bool) :
    KeepsPorts s { s with sockets := s.sockets.eraseP p } :=
  ⟨List.eraseP_sublist.map _, rfl, rfl⟩

theorem keepsPorts_of_connect {h h' : Host} {socket : Nat} {ip : UInt32} {port : UInt16} {ok : Bool}
    (hres : tcpConnect h socket ip port = .ok (ok, h')) : KeepsPorts h.tcp h'.tcp := by
  unfold tcpConnect at hres
  split at hres
  · cases hres
    exact KeepsPorts.refl _
  · split at hres
    · cases hres
    · next s hs =>
      split at hres
      · cases hres
        exact KeepsPorts.refl _
      · have hhas : h.tcp.Has socket :=
          ⟨s, List.mem_of_find?_eq_some hs, by simpa using List.find?_some hs⟩
        obtain ⟨h₁, n, hsend, htcp⟩ := send_after_modify hhas (f := fun s =>
          { s with remoteIp := ip, remotePort := port, seqNum := h.ticks, state := .synSent })
          (fun _ => rfl) tcpFlagSyn
        simp only [hsend, ok_bind] at hres
        cases hres
        rw [htcp]
        exact keepsPorts_modify _ _ fun _ => rfl

theorem keepsPorts_of_close {h h' : Host} {socket : Nat} (hres : tcpClose h socket = .ok h') :
    KeepsPorts h.tcp h'.tcp := by
  unfold tcpClose at hres
  split at hres
  · cases hres
    exact KeepsPorts.refl _
  · split at hres
    · cases hres
    · next s hs =>
      split at hres
      · obtain ⟨h₁, n, hsend, htcp⟩ :=
          tcpSendPacket_some h s (tcpFlagFin ||| tcpFlagAck) [] (by decide)
        rw [hsend] at hres
        cases hres
        refine KeepsPorts.trans ?_ (keepsPorts_modify h₁.tcp socket fun _ => rfl)
        rw [htcp]
        exact keepsPorts_modify _ _ fun _ => rfl
      · cases hres
        exact keepsPorts_erase _ _

theorem keepsPorts_of_packet {h h' : Host} {srcIp : UInt32} {packet : Option Bytes}
    {events : List TcpEvent}
    (hres : tcpHandlePacket h srcIp packet (packet.elim 0 List.length) = .ok (events, h')) :
    KeepsPorts h.tcp h'.tcp := by
  cases packet with
  | none =>
    cases hres
    exact KeepsPorts.refl _
  | some packet =>
    rcases tcpHandlePacket_ok hres with ⟨-, htcp, -⟩ | ⟨socket, g, -, -, hhandled, -⟩
    · rw [htcp]
      exact KeepsPorts.refl _
    · rw [hhandled.tcp]
      exact keepsPorts_modify _ _ hhandled.localPort

/-- The state in which the next port has been given to a new socket. -/
structure GivesPort (s s' : TcpState) : Prop where
  ports : tcpPorts s' = s.nextPort :: tcpPorts s
  nextPort : s'.nextPort = s.nextPort + 1
  initialized : s'.initialized = s.initialized

theorem tcpCreateSocket_fails {s : TcpState} {callback addr : Nat}
    (h : s.initialized = false ∨ callback = 0 ∨ addr = 0) :
    tcpCreateSocket s callback addr = (none, s) := by
  unfold tcpCreateSocket
  by_cases hguard : s.initialized = false ∨ callback = 0
  · rw [if_pos hguard]
  · rw [if_neg hguard, if_pos (by tauto)]

theorem tcpCreateSocket_gives {s : TcpState} {callback addr : Nat}
    (h : ¬ (s.initialized = false ∨ callback = 0 ∨ addr = 0)) :
    GivesPort s (tcpCreateSocket s callback addr).2 := by
  unfold tcpCreateSocket
  rw [if_neg (by tauto), if_neg (by tauto)]
  exact ⟨rfl, rfl, rfl⟩

/-- **What a call can do to the ports**: give out the next one, or none. -/
theorem tcpStep_ports {s s' : TcpRun} {op : TcpOp} (hs : tcpStep s op = some s') :
    (s'.opened = s.opened ∧ KeepsPorts s.host.tcp s'.host.tcp) ∨
      (s'.opened = s.opened + 1 ∧ GivesPort s.host.tcp s'.host.tcp) := by
  cases op with
  | create callback addr =>
    cases hs
    by_cases hno : s.host.tcp.initialized = false ∨ callback = 0 ∨ addr = 0
    · refine Or.inl ⟨if_pos hno, ?_⟩
      simp only [tcpCreateSocket_fails hno]
      exact KeepsPorts.refl _
    · exact Or.inr ⟨if_neg hno, tcpCreateSocket_gives hno⟩
  | connect socket ip port =>
    simp only [tcpStep] at hs
    cases hres : tcpConnect s.host socket ip port with
    | error fault => rw [hres] at hs; cases hs
    | ok r =>
      rw [hres] at hs
      cases hs
      exact Or.inl ⟨rfl, keepsPorts_of_connect hres⟩
  | close socket =>
    simp only [tcpStep] at hs
    cases hres : tcpClose s.host socket with
    | error fault => rw [hres] at hs; cases hs
    | ok h =>
      rw [hres] at hs
      cases hs
      exact Or.inl ⟨rfl, keepsPorts_of_close hres⟩
  | packet srcIp packet =>
    simp only [tcpStep] at hs
    cases hres : tcpHandlePacket s.host srcIp packet (packet.elim 0 List.length) with
    | error fault => rw [hres] at hs; cases hs
    | ok r =>
      rw [hres] at hs
      cases hs
      exact Or.inl ⟨rfl, keepsPorts_of_packet hres⟩
  | other host =>
    cases hs
    exact Or.inl ⟨rfl, KeepsPorts.refl _⟩

/-! ## The invariant -/

/-- The ports from 49152 to 65535. -/
def tcpDynamicPorts : Nat := 16384

/-- The counter has gone up by one for each socket. -/
structure PortInv (s : TcpRun) : Prop where
  opened : s.opened ≤ tcpDynamicPorts
  nextPort : s.host.tcp.nextPort = UInt16.ofNat (49152 + s.opened)
  distinct : (tcpPorts s.host.tcp).Nodup
  given : ∀ port ∈ tcpPorts s.host.tcp, 49152 ≤ port.toNat ∧ port.toNat < 49152 + s.opened

theorem PortInv.portsOk {s : TcpRun} (h : PortInv s) : PortsOk s.host.tcp :=
  ⟨h.distinct, fun port hport => UInt16.le_iff_toNat_le.mpr (h.given port hport).1⟩

theorem PortInv.keeps {s s' : TcpRun} (h : PortInv s) (hopened : s'.opened = s.opened)
    (hkeeps : KeepsPorts s.host.tcp s'.host.tcp) : PortInv s' where
  opened := hopened ▸ h.opened
  nextPort := by rw [hkeeps.nextPort, hopened, h.nextPort]
  distinct := h.distinct.sublist hkeeps.ports
  given := fun port hport => hopened ▸ h.given port (hkeeps.ports.subset hport)

theorem toNat_tcpPort {n : Nat} (h : n < tcpDynamicPorts) :
    (UInt16.ofNat (49152 + n)).toNat = 49152 + n := by
  unfold tcpDynamicPorts at h
  rw [UInt16.toNat_ofNat']
  omega

/-- There is a port left. -/
theorem PortInv.gives {s s' : TcpRun} (h : PortInv s) (hopened : s'.opened = s.opened + 1)
    (hgives : GivesPort s.host.tcp s'.host.tcp) (hleft : s'.opened ≤ tcpDynamicPorts) :
    PortInv s' := by
  have hlt : s.opened < tcpDynamicPorts := by omega
  have hport := toNat_tcpPort hlt
  rw [← h.nextPort] at hport
  refine ⟨hleft, ?_, ?_, ?_⟩
  · rw [hgives.nextPort, h.nextPort, hopened, ← Nat.add_assoc]
    exact (UInt16.ofNat_add _ _).symm
  · rw [hgives.ports, List.nodup_cons]
    refine ⟨fun hmem => ?_, h.distinct⟩
    have := (h.given _ hmem).2
    omega
  · rw [hgives.ports, hopened]
    intro port hmem
    rcases List.mem_cons.mp hmem with rfl | hmem
    · omega
    · have := h.given port hmem
      omega

/-- The counter has come to 0. -/
theorem PortInv.not_portsOk {s s' : TcpRun} (h : PortInv s) (hopened : s'.opened = s.opened + 1)
    (hgives : GivesPort s.host.tcp s'.host.tcp) (hnone : ¬ s'.opened ≤ tcpDynamicPorts) :
    ¬ PortsOk s'.host.tcp := by
  intro hok
  have hall : s.opened = tcpDynamicPorts := by
    have := h.opened
    omega
  have hzero : s.host.tcp.nextPort = 0 := by
    rw [h.nextPort, hall]
    rfl
  have hdynamic := hok.dynamic 0 (by rw [hgives.ports, hzero]; exact List.mem_cons_self)
  exact absurd hdynamic (by decide)

theorem portInv_start {h : Host} (hinit : h.tcp.initialized = false) : PortInv (TcpRun.start h) := by
  have htcp : (TcpRun.start h).host.tcp = TcpState.fresh := by
    unfold TcpRun.start tcpInit
    rw [if_neg (by rw [hinit]; simp)]
  refine ⟨Nat.zero_le _, ?_, ?_, ?_⟩
  · rw [htcp]
    rfl
  · rw [htcp]
    exact List.nodup_nil
  · rw [htcp]
    intro port hport
    cases hport

/-- **A call leaves the ports as they should be iff there was a port left.** -/
theorem portsOk_step_iff {s s' : TcpRun} {op : TcpOp} (h : PortInv s)
    (hs : tcpStep s op = some s') : PortsOk s'.host.tcp ↔ s'.opened ≤ tcpDynamicPorts := by
  rcases tcpStep_ports hs with ⟨hopened, hkeeps⟩ | ⟨hopened, hgives⟩
  · exact iff_of_true (h.keeps hopened hkeeps).portsOk (hopened ▸ h.opened)
  · constructor
    · intro hok
      by_contra hnone
      exact h.not_portsOk hopened hgives hnone hok
    · exact fun hleft => (h.gives hopened hgives hleft).portsOk

theorem PortInv.step {s s' : TcpRun} {op : TcpOp} (h : PortInv s) (hs : tcpStep s op = some s')
    (hleft : s'.opened ≤ tcpDynamicPorts) : PortInv s' := by
  rcases tcpStep_ports hs with ⟨hopened, hkeeps⟩ | ⟨hopened, hgives⟩
  · exact h.keeps hopened hkeeps
  · exact h.gives hopened hgives hleft

/-! ## Runs -/

theorem portsOk_always_iff {s : TcpRun} (h : PortInv s) (ops : List TcpOp) :
    Always tcpStep (fun s => PortsOk s.host.tcp) s ops ↔
      Always tcpStep (fun s => s.opened ≤ tcpDynamicPorts) s ops := by
  have hinv : ∀ s op s', PortInv s → tcpStep s op = some s' → s'.opened ≤ tcpDynamicPorts →
      PortInv s' := fun _ _ _ h hs hleft => h.step hs hleft
  rw [always_iff_along (fun _ _ _ h hs => portsOk_step_iff h hs) hinv h h.portsOk,
    always_iff_along (fun _ _ _ _ _ => Iff.rfl) hinv h h.opened]

/--
**The ports are distinct and dynamic in every state of a run iff no more than 16384 sockets have been
created in any of them.**

The run starts with `tcp_init`. Sockets that have been closed count too.
-/
theorem tcp_ports_iff (h : Host) (hinit : h.tcp.initialized = false) (ops : List TcpOp) :
    Always tcpStep (fun s => PortsOk s.host.tcp) (TcpRun.start h) ops ↔
      Always tcpStep (fun s => s.opened ≤ tcpDynamicPorts) (TcpRun.start h) ops :=
  portsOk_always_iff (portInv_start hinit) ops

theorem opened_le_of_run {ops : List TcpOp} : ∀ {s s' : TcpRun}, run tcpStep s ops = some s' →
    s'.opened ≤ s.opened + ops.length := by
  induction ops with
  | nil =>
    intro s s' hrun
    cases hrun
    exact Nat.le_refl _
  | cons op ops ih =>
    intro s s' hrun
    obtain ⟨t, hs, hrest⟩ := run_cons_eq_some.mp hrun
    have hle := ih hrest
    rw [List.length_cons]
    rcases tcpStep_ports hs with ⟨hopened, -⟩ | ⟨hopened, -⟩
    · omega
    · omega

/-- A short run cannot use up the ports. -/
theorem always_opened_le {s : TcpRun} {ops : List TcpOp}
    (hshort : s.opened + ops.length ≤ tcpDynamicPorts) :
    Always tcpStep (fun s => s.opened ≤ tcpDynamicPorts) s ops := by
  refine always_iff_forall_initial.mpr fun pre post t hops hrun => ?_
  have hle := opened_le_of_run hrun
  rw [hops, List.length_append] at hshort
  omega

/-! ## Wrapping around -/

/-- Calls of `tcp_create_socket`; the sockets are put at these addresses. -/
def tcpCreates (addrs : List Nat) : List TcpOp := addrs.map (.create 1)

theorem run_tcpCreates : ∀ {addrs : List Nat} {s : TcpRun}, s.host.tcp.initialized = true →
    (∀ addr ∈ addrs, addr ≠ 0) → ∃ s', run tcpStep s (tcpCreates addrs) = some s' ∧
      s'.opened = s.opened + addrs.length := by
  intro addrs
  induction addrs with
  | nil =>
    intro s _ _
    exact ⟨s, rfl, rfl⟩
  | cons addr addrs ih =>
    intro s hinit haddrs
    have haddr : addr ≠ 0 := haddrs addr List.mem_cons_self
    have hyes : ¬ (s.host.tcp.initialized = false ∨ 1 = 0 ∨ addr = 0) := by simp [hinit, haddr]
    have hgives := tcpCreateSocket_gives hyes
    obtain ⟨s', hrun, hopened⟩ := ih
      (s := {
        host := { s.host with tcp := (tcpCreateSocket s.host.tcp 1 addr).2 }
        opened := s.opened + 1 }) (hgives.initialized.trans hinit)
      fun a ha => haddrs a (List.mem_cons_of_mem _ ha)
    refine ⟨s', run_cons_eq_some.mpr ⟨_, ?_, hrun⟩, ?_⟩
    · rw [tcpStep, if_neg hyes]
    · rw [hopened, List.length_cons]
      show s.opened + 1 + _ = _
      omega

/-- A host before `tcp_init`. -/
def tcpBootHost : Host :=
  { exampleHost 0x0100000A ⟨2, 0, 0, 0, 0, 1⟩ with
    tcp := { TcpState.fresh with initialized := false } }

/-- **16385 sockets**, none of them closed: the last one gets port 0. -/
theorem tcp_ports_wrap :
    ¬ Always tcpStep (fun s => PortsOk s.host.tcp) (TcpRun.start tcpBootHost)
      (tcpCreates (List.range' 1 16385)) := by
  rw [portsOk_always_iff (portInv_start rfl)]
  intro halways
  have haddrs : ∀ addr ∈ List.range' 1 16385, addr ≠ 0 := by
    intro addr haddr
    have := List.mem_range'_1.mp haddr
    omega
  obtain ⟨s, hrun, hopened⟩ := run_tcpCreates (s := TcpRun.start tcpBootHost) rfl haddrs
  have hle := always_iff_forall_initial.mp halways _ [] s (List.append_nil _).symm hrun
  rw [hopened, List.length_range'] at hle
  exact absurd hle (by decide)

/-- Two sockets; one of them connects and both are closed. -/
theorem tcp_ports_two :
    Always tcpStep (fun s => PortsOk s.host.tcp) (TcpRun.start tcpBootHost)
      [.create 1 4096, .create 1 8192, .connect 4096 0x0200000A 80, .close 8192, .close 4096] :=
  (tcp_ports_iff tcpBootHost rfl _).mpr (always_opened_le (by decide))

end MayaOs.Net
