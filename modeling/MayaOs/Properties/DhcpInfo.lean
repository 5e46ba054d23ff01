import MayaOs.Properties.DhcpLease
import MayaOs.Properties.DhcpRoundtrip

/-!
# What the DHCP client passes on

Subnet mask, router and DNS server are copied from the options of an ACK into a local variable that is
not initialized before.

* `option_eq` — `dhcp_get_option` finds the first option of a type
* `dhcp_info_iff` — the callback gets what the packet says, whatever was on the stack, iff each of the
  three options is there with exactly four bytes
* `dhcp_info_two_servers` — an ACK with two DNS servers
-/

namespace MayaOs.Net

open MayaOs.Lib

/-! ## The options of a packet -/

/-- The bytes from an index up to the end of the options. -/
def optionWindow (options : Nat → UInt8) (optionsLen offset : Nat) : Bytes :=
  (List.range (optionsLen - offset)).map fun i => options (offset + i)

/-- The first option of a type. -/
def Datagram.first (d : Datagram) (type : UInt8) : Option Bytes :=
  tlvLookup (tlvFields dhcpOptionPad dhcpOptionEnd
    (optionWindow (fun i => d.data (dhcpPacketSize + i)) (d.length - dhcpPacketSize) 0)) type

section Window

variable {options : Nat → UInt8} {optionsLen offset capacity : Nat} {type : UInt8}

theorem length_optionWindow : (optionWindow options optionsLen offset).length = optionsLen - offset := by
  rw [optionWindow, List.length_map, List.length_range]

theorem optionWindow_nil (h : optionsLen ≤ offset) : optionWindow options optionsLen offset = [] :=
  List.eq_nil_of_length_eq_zero (by rw [length_optionWindow]; omega)

theorem optionWindow_cons (h : offset < optionsLen) :
    optionWindow options optionsLen offset =
      options offset :: optionWindow options optionsLen (offset + 1) := by
  obtain ⟨n, hn⟩ : ∃ n, optionsLen - offset = n + 1 := ⟨optionsLen - offset - 1, by omega⟩
  have hrest : optionsLen - (offset + 1) = n := by omega
  rw [optionWindow, optionWindow, hn, hrest, List.range_succ_eq_map, List.map_cons, List.map_map]
  refine congrArg _ (List.map_congr_left fun i _ => congrArg options ?_)
  show offset + (i + 1) = _
  omega

theorem drop_optionWindow (n : Nat) :
    (optionWindow options optionsLen offset).drop n =
      optionWindow options optionsLen (offset + n) := by
  refine List.ext_getElem (by rw [List.length_drop, length_optionWindow, length_optionWindow]; omega)
    fun i _ _ => ?_
  simp [optionWindow, Nat.add_assoc]

theorem take_optionWindow {n : Nat} (h : n ≤ optionsLen - offset) :
    (optionWindow options optionsLen offset).take n =
      (List.range n).map fun i => options (offset + i) := by
  refine List.ext_getElem (by rw [List.length_take, length_optionWindow]; simp; omega)
    fun i _ _ => ?_
  simp [optionWindow]

/-- **The loop finds the first option of the type.** -/
theorem dhcpScanOptions_eq : ∀ {n offset : Nat},
    dhcpScanOptions options optionsLen type capacity n offset =
      (tlvLookup (tlvFieldsFrom dhcpOptionPad dhcpOptionEnd n
        (optionWindow options optionsLen offset)) type).filter fun bytes =>
          bytes.length ≤ capacity := by
  intro n
  induction n with
  | zero => intro offset; rfl
  | succ n ih =>
    intro offset
    rw [dhcpScanOptions]
    by_cases hin : optionsLen ≤ offset
    · rw [if_pos hin, optionWindow_nil hin]
      rfl
    · rw [if_neg hin, optionWindow_cons (by omega)]
      by_cases hend : options offset = dhcpOptionEnd
      · rw [if_pos hend, hend, tlvFieldsFrom_stop]
        rfl
      · rw [if_neg hend]
        by_cases hpad : options offset = dhcpOptionPad
        · rw [if_pos hpad, hpad, tlvFieldsFrom_pad (by decide)]
          exact ih
        · rw [if_neg hpad]
          dsimp only
          by_cases hlast : optionsLen ≤ offset + 1
          · -- a type without a length
            rw [if_pos (by omega), optionWindow_nil hlast, tlvFieldsFrom, if_neg hend, if_neg hpad]
            rfl
          · rw [optionWindow_cons (by omega), tlvFieldsFrom_field hend hpad, length_optionWindow]
            by_cases hlong : optionsLen < offset + 2 + (options (offset + 1)).toNat
            · rw [if_pos hlong, if_pos (by omega)]
              rfl
            · have hfits : ¬ optionsLen - (offset + 1 + 1) < (options (offset + 1)).toNat := by
                omega
              rw [if_neg hlong, if_neg hfits, take_optionWindow (by omega), drop_optionWindow,
                tlvLookup_cons]
              by_cases htype : options offset = type
              · rw [if_pos htype, if_pos htype, Option.filter_some]
                simp only [List.length_map, List.length_range, decide_eq_true_eq]
              · rw [if_neg htype, if_neg htype]
                exact ih

end Window

/-- **`dhcp_get_option` finds the first option of a type**, if there is room for it. -/
theorem option_eq (d : Datagram) (type : UInt8) (capacity : Nat) :
    d.option type capacity = (d.first type).filter fun bytes => bytes.length ≤ capacity := by
  unfold Datagram.option dhcpGetOption Datagram.first tlvFields
  rw [length_optionWindow, Nat.sub_zero]
  exact dhcpScanOptions_eq

/-! ## The property -/

/-- The address in an option: its first four bytes, if there is room for one or more addresses. -/
def addressOr (fixed : UInt32) : Option Bytes → UInt32
  | none => fixed
  | some bytes => if 0 < bytes.length ∧ 4 ∣ bytes.length then u32At bytes 0 else fixed

/-- The three fields are those of the packet, or else those of `fixed`. -/
structure FromPacket (d : Datagram) (fixed info : DhcpInfo) : Prop where
  subnetMask : info.subnetMask = addressOr fixed.subnetMask (d.first dhcpOptionSubnetMask)
  router : info.router = addressOr fixed.router (d.first dhcpOptionRouter)
  dnsServer : info.dnsServer = addressOr fixed.dnsServer (d.first dhcpOptionDnsServer)

/-- A call that finds these contents of the stack passes `info` to the callback. -/
def Passes (s : DhcpState) (h : Host) (d : Datagram) (junk : DhcpLocals) (info : DhcpInfo) : Prop :=
  ∃ r, dhcpHandlePacket s h d junk = .ok r ∧ r.called = some info

/-- What is passed on depends on the packet only, and is what the packet says. -/
structure InfoDetermined (s : DhcpState) (h : Host) (d : Datagram) : Prop where
  fromPacket : ∃ fixed, ∀ junk info, Passes s h d junk info → FromPacket d fixed info
  same : ∀ junk junk' info info', Passes s h d junk info → Passes s h d junk' info' → info = info'

/-- The packet may be taken for an ACK, and there is a callback. -/
def AckAccepted (s : DhcpState) (d : Datagram) : Prop :=
  s.callback ≠ 0 ∧ ∃ junk, dhcpMessageType s d junk = some dhcpMessageAck

/-- The first option of the type has four bytes. -/
def OneAddress (d : Datagram) (type : UInt8) : Prop :=
  ∃ bytes, d.first type = some bytes ∧ bytes.length = 4

/-- So it is with each of the three. -/
structure OneAddressEach (d : Datagram) : Prop where
  subnetMask : OneAddress d dhcpOptionSubnetMask
  router : OneAddress d dhcpOptionRouter
  dnsServer : OneAddress d dhcpOptionDnsServer

/-! ## A variable that an option is copied to -/

theorem overlay32_full {bytes : Bytes} (h : bytes.length = 4) (x : UInt32) :
    overlay32 x bytes = u32At bytes 0 := by
  have hnone : (le32 x).drop bytes.length = [] := by
    rw [h]
    rfl
  rw [overlay32, hnone, List.append_nil]

/-- The last byte of the variable stays. -/
theorem overlay32_short {bytes : Bytes} (h : bytes.length < 4) (x : UInt32) :
    (overlay32 x bytes).toNat / 2 ^ 24 = x.toNat / 2 ^ 24 := by
  have hlast : byteAt (bytes ++ (le32 x).drop bytes.length) 3 = UInt8.ofNat (x.toNat / 2 ^ 24) := by
    rw [byteAt, List.getD_eq_getElem?_getD, List.getElem?_append_right (by omega),
      List.getElem?_drop, Nat.add_sub_cancel' (by omega)]
    rfl
  have hx := x.toNat_lt
  rw [overlay32, u32At, toNat_u32]
  simp only [Nat.zero_add, hlast, UInt8.toNat_ofNat']
  have h₀ := (byteAt (bytes ++ (le32 x).drop bytes.length) 0).toNat_lt
  have h₁ := (byteAt (bytes ++ (le32 x).drop bytes.length) 1).toNat_lt
  have h₂ := (byteAt (bytes ++ (le32 x).drop bytes.length) 2).toNat_lt
  omega

/-- **A variable that does not depend on its former contents** has been filled by four bytes. -/
theorem oneAddress_of_overlay {d : Datagram} {type : UInt8}
    (h : overlay32 0 ((d.option type 4).getD []) = overlay32 0xFFFFFFFF ((d.option type 4).getD [])) :
    OneAddress d type := by
  by_cases hlen : ((d.option type 4).getD []).length < 4
  · have hzero := overlay32_short hlen 0
    rw [h, overlay32_short hlen 0xFFFFFFFF] at hzero
    exact absurd hzero (by decide)
  · rw [option_eq] at hlen
    cases hfirst : d.first type with
    | none =>
      rw [hfirst] at hlen
      exact absurd (by decide) hlen
    | some bytes =>
      refine ⟨bytes, hfirst, ?_⟩
      rw [hfirst, Option.filter_some] at hlen
      split at hlen
      · next hle =>
        have hle' : bytes.length ≤ 4 := by simpa using hle
        simp only [Option.getD_some] at hlen
        omega
      · exact absurd (by decide) hlen

theorem OneAddress.overlay {d : Datagram} {type : UInt8} (h : OneAddress d type)
    (x fixed : UInt32) :
    overlay32 x ((d.option type 4).getD []) = addressOr fixed (d.first type) := by
  obtain ⟨bytes, hfirst, hlen⟩ := h
  have haddress : addressOr fixed (some bytes) = u32At bytes 0 :=
    if_pos (by rw [hlen]; exact ⟨by decide, Nat.dvd_refl 4⟩)
  rw [option_eq, hfirst, Option.filter_some, if_pos (by simp [hlen]), Option.getD_some,
    overlay32_full hlen, haddress]

/-! ## The callback -/

/-- The callback is called for an ACK only, with the local variable. -/
theorem passes_iff {s : DhcpState} {h : Host} {d : Datagram} {junk : DhcpLocals} {info : DhcpInfo} :
    Passes s h d junk info ↔ s.callback ≠ 0 ∧
      dhcpMessageType s d junk.messageType = some dhcpMessageAck ∧ info = dhcpInfo s d junk.info := by
  obtain ⟨r, hr, hcases⟩ := dhcpHandlePacket_cases s h d junk
  have hpasses : Passes s h d junk info ↔ r.called = some info := by
    constructor
    · rintro ⟨r', hr', hcalled⟩
      rw [hr] at hr'
      rwa [Except.ok.inj hr']
    · exact fun hcalled => ⟨r, hr, hcalled⟩
  have hna : some dhcpMessageOffer ≠ some dhcpMessageAck := by decide
  have hnn : some dhcpMessageNak ≠ some dhcpMessageAck := by decide
  rw [hpasses]
  rcases hcases with ⟨htype, -, hcalled, -⟩ | ⟨htype, -, -, hcalled⟩ | ⟨htype, hcalled⟩ |
    ⟨-, hack, -, -, -, hcalled⟩
  · rw [hcalled, htype]
    exact iff_of_false (by simp) fun hno => hna hno.2.1
  · rw [hcalled, htype]
    by_cases hcallback : s.callback ≠ 0
    · rw [if_pos hcallback, Option.some_inj]
      exact ⟨fun heq => ⟨hcallback, rfl, heq.symm⟩, fun hall => hall.2.2.symm⟩
    · rw [if_neg hcallback]
      exact iff_of_false (by simp) fun hno => hcallback hno.1
  · rw [hcalled, htype]
    exact iff_of_false (by simp) fun hno => hnn hno.2.1
  · rw [hcalled]
    exact iff_of_false (by simp) fun hno => hack hno.2.1

/-- Local variables with every address set to `x`. -/
def DhcpLocals.filled (type : UInt8) (x : UInt32) : DhcpLocals where
  messageType := type
  info :=
    { ipAddress := x, subnetMask := x, router := x, dnsServer := x, serverIp := x, leaseTime := x }

/-- Two runs that find different contents of the stack tell which options are missing. -/
theorem InfoDetermined.oneAddressEach {s : DhcpState} {h : Host} {d : Datagram}
    (hdet : InfoDetermined s h d) (hack : AckAccepted s d) : OneAddressEach d := by
  obtain ⟨hcallback, junk, htype⟩ := hack
  have hpass : ∀ x, Passes s h d (.filled junk x) (dhcpInfo s d (DhcpLocals.filled junk x).info) :=
    fun x => passes_iff.mpr ⟨hcallback, htype, rfl⟩
  have hsame := hdet.same _ _ _ _ (hpass 0) (hpass 0xFFFFFFFF)
  simp only [dhcpInfo, DhcpLocals.filled, DhcpInfo.mk.injEq] at hsame
  obtain ⟨-, hmask, hrouter, hdns, -⟩ := hsame
  exact ⟨oneAddress_of_overlay hmask, oneAddress_of_overlay hrouter, oneAddress_of_overlay hdns⟩

theorem OneAddressEach.infoDetermined {d : Datagram} (hone : OneAddressEach d) (s : DhcpState)
    (h : Host) : InfoDetermined s h d := by
  obtain ⟨hmask, hrouter, hdns⟩ := hone
  refine ⟨⟨(DhcpLocals.filled 0 0).info, fun junk info hpass => ?_⟩, ?_⟩
  · obtain ⟨-, -, rfl⟩ := passes_iff.mp hpass
    exact ⟨hmask.overlay _ _, hrouter.overlay _ _, hdns.overlay _ _⟩
  · intro junk junk' info info' hpass hpass'
    obtain ⟨-, -, rfl⟩ := passes_iff.mp hpass
    obtain ⟨-, -, rfl⟩ := passes_iff.mp hpass'
    simp only [dhcpInfo, hmask.overlay _ 0, hrouter.overlay _ 0, hdns.overlay _ 0]

/--
**The callback gets what the packet says, and nothing of the stack, iff the options for subnet mask,
router and DNS server are all there, with one address each.**
-/
theorem dhcp_info_iff (s : DhcpState) (h : Host) (d : Datagram) (hack : AckAccepted s d) :
    InfoDetermined s h d ↔ OneAddressEach d :=
  ⟨fun hdet => hdet.oneAddressEach hack, fun hone => hone.infoDetermined s h⟩

/-! ## An ACK with two DNS servers -/

/-- The ACK of `dhcpAck` with other options. -/
def ackPacket (items : List DhcpItem) : Bytes :=
  dhcpAck.take dhcpPacketSize ++ (tlvBytes items ++ [dhcpOptionEnd])

def ackDatagram (items : List DhcpItem) : Datagram where
  srcIp := 0x0600000A
  srcPort := 67
  data := byteAt (ackPacket items)
  length := (ackPacket items).length

theorem length_ackHeader : (dhcpAck.take dhcpPacketSize).length = dhcpPacketSize := by
  decide +kernel

/-- Its options are those that were stored. -/
theorem first_ackDatagram (items : List DhcpItem) (type : UInt8) :
    (ackDatagram items).first type = tlvLookup (tlvPairs items) type := by
  have hcount : (ackPacket items).length - dhcpPacketSize =
      (tlvBytes items ++ [dhcpOptionEnd]).length := by
    rw [ackPacket, List.length_append, length_ackHeader, Nat.add_sub_cancel_left]
  have hwindow : optionWindow (fun i => (ackDatagram items).data (dhcpPacketSize + i))
      ((ackDatagram items).length - dhcpPacketSize) 0 = tlvBytes items ++ [dhcpOptionEnd] := by
    have hmiddle := map_byteAt_middle (dhcpAck.take dhcpPacketSize)
      (tlvBytes items ++ [dhcpOptionEnd]) []
    rw [length_ackHeader, List.append_nil] at hmiddle
    rw [optionWindow, show (ackDatagram items).length = (ackPacket items).length from rfl, hcount,
      Nat.sub_zero]
    simp only [Nat.zero_add]
    exact hmiddle
  have hitems : items.length ≤ (tlvBytes items ++ [dhcpOptionEnd]).length := by
    rw [List.length_append]
    exact Nat.le_trans (length_le_tlvBytes items) (Nat.le_add_right _ _)
  rw [Datagram.first, hwindow, tlvFields]
  exact congrArg (tlvLookup · type) (tlvFieldsFrom_tlvBytes [] (by decide) hitems)

/-- A client that waits under transaction 5. -/
def waitingState : DhcpState := { DhcpState.unset with xid := 5, callback := 1, initialized := true }

def ackType : DhcpItem := some ⟨dhcpOptionMessageType, [dhcpMessageAck], by decide, by decide, by decide⟩

theorem ackAccepted_ackDatagram (items : List DhcpItem) :
    AckAccepted waitingState (ackDatagram (ackType :: items)) := by
  have hheader : ∀ i < dhcpPacketSize, (ackDatagram (ackType :: items)).data i = byteAt dhcpAck i := by
    intro i hi
    show byteAt (ackPacket (ackType :: items)) i = _
    rw [ackPacket, byteAt, List.getD_eq_getElem?_getD,
      List.getElem?_append_left (by rw [length_ackHeader]; exact hi), ← List.getD_eq_getElem?_getD]
    exact byteAt_take hi
  have hlen : ¬ (ackDatagram (ackType :: items)).length < dhcpPacketSize := by
    show ¬ (ackPacket _).length < _
    rw [ackPacket, List.length_append, length_ackHeader]
    omega
  have hop : (ackDatagram (ackType :: items)).op = dhcpOpReply := hheader 0 (by decide)
  have hu32 : ∀ i, i + 3 < dhcpPacketSize →
      (ackDatagram (ackType :: items)).u32 i = u32At dhcpAck i := by
    intro i hi
    unfold Datagram.u32 u32At
    rw [hheader i (by omega), hheader (i + 1) (by omega), hheader (i + 2) (by omega),
      hheader (i + 3) hi]
  have hxid : (ackDatagram (ackType :: items)).xid = 5 :=
    (hu32 4 (by decide)).trans (by decide +kernel)
  have hcookie : (ackDatagram (ackType :: items)).magicCookie = dhcpMagicCookie :=
    (hu32 236 (by decide)).trans (by decide +kernel)
  refine ⟨by decide, 0, ?_⟩
  have hpassed : ¬ ((ackDatagram (ackType :: items)).op ≠ dhcpOpReply ∨
      (ackDatagram (ackType :: items)).xid ≠ waitingState.xid ∨
        (ackDatagram (ackType :: items)).magicCookie ≠ dhcpMagicCookie) := by
    rw [hop, hxid, hcookie]
    decide
  rw [dhcpMessageType, if_neg hlen, if_neg hpassed, option_eq, first_ackDatagram, ackType,
    tlvPairs_field, tlvLookup_cons, if_pos rfl]
  rfl

/-- Subnet mask, router, and DNS servers. -/
def ackOptions (dnsServers : Bytes) (h : dnsServers.length < 256) : List DhcpItem :=
  [ackType, some ⟨dhcpOptionSubnetMask, [255, 255, 255, 0], by decide, by decide, by decide⟩,
    routerItem [10, 0, 0, 1] (by decide), dnsServerItem dnsServers h]

/-- **With two DNS servers the callback gets what was on the stack.** -/
theorem dhcp_info_two_servers :
    AckAccepted waitingState (ackDatagram (ackOptions [8, 8, 8, 8, 8, 8, 4, 4] (by decide))) ∧
      ¬ InfoDetermined waitingState dhcpHost
        (ackDatagram (ackOptions [8, 8, 8, 8, 8, 8, 4, 4] (by decide))) := by
  refine ⟨ackAccepted_ackDatagram _, fun hdet => ?_⟩
  obtain ⟨bytes, hfirst, hlen⟩ := (hdet.oneAddressEach (ackAccepted_ackDatagram _)).dnsServer
  rw [first_ackDatagram] at hfirst
  obtain rfl := Option.some.inj hfirst
  exact absurd hlen (by decide)

theorem dhcp_info_one_server :
    InfoDetermined waitingState dhcpHost (ackDatagram (ackOptions [8, 8, 8, 8] (by decide))) := by
  refine (dhcp_info_iff waitingState dhcpHost _ (ackAccepted_ackDatagram _)).mpr ⟨?_, ?_, ?_⟩ <;>
  · rw [OneAddress, first_ackDatagram]
    exact ⟨_, rfl, rfl⟩

end MayaOs.Net
