import MayaOs.Lib.BoundedMap
import MayaOs.Properties.PacketContents

/-!
# The ARP cache over runs

* `arpUpdate_content` — a reply puts the sender's address into the bounded map that the cache is
* `arpHandlePacket_effect` — every other packet leaves it as it is
* `arp_cache_refines` — which address `arp_resolve` gives after any packets
-/

namespace MayaOs.Net

open MayaOs.Lib

/-! ## Replies -/

def macAt (b : Bytes) (i : Nat) : Mac :=
  ⟨byteAt b i, byteAt b (i + 1), byteAt b (i + 2), byteAt b (i + 3), byteAt b (i + 4),
    byteAt b (i + 5)⟩

theorem readMac_eq {b : Bytes} {i : Nat} (h : i + 5 < b.length) : readMac b i = .ok (macAt b i) := by
  unfold readMac
  rw [read8_eq (by omega), read8_eq (by omega), read8_eq (by omega), read8_eq (by omega),
    read8_eq (by omega), read8_eq h]
  rfl

/-- The sender of a reply, if the packet is one. -/
def arpSender (packet : Bytes) : Option (UInt32 × Mac) :=
  if 28 ≤ packet.length ∧ swap16 (u16At packet 6) = 2 then some (u32At packet 14, macAt packet 8)
  else none

/-- **Only a reply changes the cache**, and no packet faults. -/
theorem arpHandlePacket_effect (h : Host) (packet : Bytes) :
    ∃ h', arpHandlePacket h packet = .ok h' ∧
      h'.arp = (arpSender packet).elim h.arp fun p => arpUpdate h.arp p.1 p.2 := by
  unfold arpHandlePacket arpSender
  by_cases hshort : packet.length < 28
  · rw [if_pos hshort, if_neg (by omega)]
    exact ⟨h, rfl, rfl⟩
  · have hlen : 28 ≤ packet.length := by omega
    rw [if_neg hshort]
    simp only [read16_eq (by omega : 6 + 1 < packet.length),
      read32_eq (by omega : 14 + 3 < packet.length), read32_eq (by omega : 24 + 3 < packet.length),
      readMac_eq (by omega : 8 + 5 < packet.length), ok_bind, pure, Except.pure]
    by_cases hreply : swap16 (u16At packet 6) = 2
    · rw [if_pos hreply, if_pos ⟨hlen, hreply⟩]
      exact ⟨_, rfl, rfl⟩
    · have hno : ¬ (28 ≤ packet.length ∧ swap16 (u16At packet 6) = 2) := fun h => hreply h.2
      rw [if_neg hreply, if_neg hno]
      split
      · split
        · obtain ⟨ok, h', frames, hsend, hto, -⟩ := ethernetSendFrame_cases h (macAt packet 8) arpType
            (arpReply h.nic.macAddr h.ip.ipAddress (macAt packet 8) (u32At packet 14))
            (by rw [length_arpReply]; decide)
          refine ⟨h', by rw [hsend]; rfl, ?_⟩
          obtain ⟨rest, id, rfl⟩ := hto
          rfl
        · exact ⟨h, rfl, rfl⟩
      · exact ⟨h, rfl, rfl⟩

/-! ## The cache as a bounded map -/

/-- A cell of the cache; the MAC address of a cell in use is always there. -/
def arpCells : CellFormat UInt32 Mac ArpEntry where
  used := ArpEntry.occupied
  name := ArpEntry.ip
  cell ip mac := { ip := ip, mac := mac.getD Mac.broadcast, occupied := true }
  blank := { ip := 0, mac := ⟨0, 0, 0, 0, 0, 0⟩, occupied := false }
  used_cell _ _ := rfl
  name_cell _ _ := rfl
  used_blank := rfl

/-- What `arp_state` is after replies from these senders. -/
def arpAfter (replies : List (UInt32 × Mac)) : ArpState where
  cache := arpCells.content arpCacheSize replies
  initialized := true

theorem arpInit_eq : arpInit = arpAfter [] := rfl

theorem arpUpdate_eq_store (s : ArpState) (ip : UInt32) (mac : Mac) :
    arpUpdate s ip mac = { s with
      cache := store ArpEntry.occupied ArpEntry.ip s.cache ip
        { ip := ip, mac := mac, occupied := true } } := by
  unfold arpUpdate store
  cases s.cache.findIdx? fun e => !e.occupied || e.ip == ip <;> rfl

/-- **A reply puts the address of its sender into the map.** -/
theorem arpUpdate_content (replies : List (UInt32 × Mac)) (ip : UInt32) (mac : Mac) :
    arpUpdate (arpAfter replies) ip mac = arpAfter (replies ++ [(ip, mac)]) := by
  rw [arpUpdate_eq_store]
  unfold arpAfter
  rw [← arpCells.store_content]
  rfl

/-! ## Runs -/

inductive ArpOp where
  | packet (packet : Bytes)
  /-- anything else; the cache belongs to `arp.c` alone -/
  | other (host : Host)

def arpStep (h : Host) : ArpOp → Except Fault Host
  | .packet packet => arpHandlePacket h packet
  | .other host => .ok { host with arp := h.arp }

/-- The senders of the replies, in the order of arrival. -/
def arpReplies (ops : List ArpOp) : List (UInt32 × Mac) :=
  ops.filterMap fun
    | .packet packet => arpSender packet
    | .other _ => none

theorem arpStep_effect {h : Host} {replies : List (UInt32 × Mac)} (harp : h.arp = arpAfter replies)
    (op : ArpOp) : ∃ h', arpStep h op = .ok h' ∧ h'.arp = arpAfter (replies ++ arpReplies [op]) := by
  cases op with
  | packet packet =>
    obtain ⟨h', hres, heffect⟩ := arpHandlePacket_effect h packet
    refine ⟨h', hres, ?_⟩
    rw [heffect, harp]
    cases hsender : arpSender packet with
    | none => simp [arpReplies, hsender]
    | some p =>
      rw [Option.elim_some, arpUpdate_content]
      simp [arpReplies, hsender]
  | other host => exact ⟨_, rfl, by simp [arpReplies, harp]⟩

theorem arpRun_effect (ops : List ArpOp) : ∀ {h : Host} {replies : List (UInt32 × Mac)},
    h.arp = arpAfter replies →
    ∃ h', ops.foldlM arpStep h = .ok h' ∧ h'.arp = arpAfter (replies ++ arpReplies ops) := by
  induction ops with
  | nil =>
    intro h replies harp
    exact ⟨h, rfl, by simp [arpReplies, harp]⟩
  | cons op ops ih =>
    intro h replies harp
    obtain ⟨h₁, hstep, harp₁⟩ := arpStep_effect harp op
    obtain ⟨h', hrun, harp'⟩ := ih harp₁
    refine ⟨h', by rw [List.foldlM_cons, hstep]; exact hrun, ?_⟩
    rw [harp', List.append_assoc, arpReplies, arpReplies, arpReplies, ← List.filterMap_append]
    rfl

/-- The first 64 senders, in the order of their first reply. -/
def arpKnown (replies : List (UInt32 × Mac)) : List UInt32 := (firstKeys replies).take arpCacheSize

/-- The cache behaves as a map of the first 64 senders to the addresses in their latest replies. -/
structure ArpRefines (replies : List (UInt32 × Mac)) (h : Host) : Prop where
  filled : ∃ n ≤ arpCacheSize, h.arp.cache.map ArpEntry.occupied =
    List.replicate n true ++ List.replicate (arpCacheSize - n) false
  distinct : (keys ArpEntry.occupied ArpEntry.ip h.arp.cache).Nodup
  known : ∀ ip ∈ arpKnown replies, ∀ stack, ∃ mac h', latest replies ip = some mac ∧
    arpResolve h ip stack = .ok (mac, h')
  unknown : ∀ ip ∉ arpKnown replies, ∀ stack, ∃ h', arpResolve h ip stack = .ok (Mac.broadcast, h')

theorem arpRefines_of_eq {h : Host} {replies : List (UInt32 × Mac)}
    (harp : h.arp = arpAfter replies) : ArpRefines replies h := by
  have hfind : ∀ ip, h.arp.cache.find? (fun e => e.occupied && e.ip == ip) =
      if ip ∈ arpKnown replies then some (arpCells.cell ip (latest replies ip)) else none := by
    intro ip
    rw [harp]
    exact arpCells.find?_content arpCacheSize replies ip
  have hinit : h.arp.initialized = true := by rw [harp]; rfl
  refine ⟨?_, ?_, fun ip hip stack => ?_, fun ip hip stack => ?_⟩
  · refine ⟨min arpCacheSize (firstKeys replies).length, Nat.min_le_left .., ?_⟩
    rw [harp]
    refine (arpCells.used_content arpCacheSize replies).trans ?_
    congr 2
    omega
  · rw [harp]
    refine (arpCells.keys_content arpCacheSize replies).symm ▸ ?_
    exact (nodup_firstKeys replies).sublist (List.take_sublist ..)
  · obtain ⟨mac, hmac⟩ := latest_isSome (List.mem_of_mem_take hip)
    obtain ⟨h', hres⟩ := arpResolve_eq h ip stack
    refine ⟨mac, h', hmac, ?_⟩
    rw [hres, resolvedMac, hinit, hfind, if_pos hip, hmac]
    rfl
  · obtain ⟨h', hres⟩ := arpResolve_eq h ip stack
    refine ⟨h', ?_⟩
    rw [hres, resolvedMac, hinit, hfind, if_neg hip]
    rfl

/--
**After any packets since `arp_init`, the cache is the bounded map.**

No packet faults, and between packets anything else may happen to the host.
-/
theorem arp_cache_refines (h : Host) (ops : List ArpOp) :
    ∃ h', ops.foldlM arpStep { h with arp := arpInit } = .ok h' ∧
      ArpRefines (arpReplies ops) h' := by
  obtain ⟨h', hrun, harp⟩ := arpRun_effect ops (h := { h with arp := arpInit }) arpInit_eq
  exact ⟨h', hrun, arpRefines_of_eq harp⟩

end MayaOs.Net
