import MayaOs.Net.Udp

/-!
# The DHCP client (`net/dhcp.c`)

The socket is an index of the table of UDP sockets.

* `dhcpDiscover`, `dhcpRequest` — the messages, before `udp_send`
* `dhcpFill_eq`, `dhcpRequest_cases` — the bytes they consist of
* `dhcpHandlePacket` — what is done on a datagram from a server
-/

namespace MayaOs.Net

open MayaOs.Lib

def dhcpServerPort : UInt16 := 67
def dhcpClientPort : UInt16 := 68

def dhcpMagicCookie : UInt32 := 0x63825363

/-- `sizeof(dhcp_packet_t)`. -/
def dhcpPacketSize : Nat := 240

def dhcpOpReply : UInt8 := 2

def dhcpOptionPad : UInt8 := 0
def dhcpOptionSubnetMask : UInt8 := 1
def dhcpOptionRouter : UInt8 := 3
def dhcpOptionDnsServer : UInt8 := 6
def dhcpOptionRequestedIp : UInt8 := 50
def dhcpOptionLeaseTime : UInt8 := 51
def dhcpOptionMessageType : UInt8 := 53
def dhcpOptionServerId : UInt8 := 54
def dhcpOptionParameterRequest : UInt8 := 55
def dhcpOptionEnd : UInt8 := 255

def dhcpMessageDiscover : UInt8 := 1
def dhcpMessageOffer : UInt8 := 2
def dhcpMessageRequest : UInt8 := 3
def dhcpMessageAck : UInt8 := 5
def dhcpMessageNak : UInt8 := 6

/-- `dhcp_state`. -/
structure DhcpState where
  socket : Option Nat
  xid : UInt32
  serverIp : UInt32
  offeredIp : UInt32
  leaseTime : UInt32
  callback : Nat
  initialized : Bool

/-- The static variable before `dhcp_init`. -/
def DhcpState.unset : DhcpState where
  socket := none
  xid := 0
  serverIp := 0
  offeredIp := 0
  leaseTime := 0
  callback := 0
  initialized := false

/-! ## Messages to the server -/

/-- The options from their start to the end of the buffer, and the offset behind the new option. -/
def dhcpAddOption (options : Bytes) (offset : Nat) (type length : UInt8) (data : Bytes) :
    Except Fault (Bytes × Nat) := do
  let options ← write options offset [type]
  let options ← write options (offset + 1) [length]
  let data ← slice data 0 length.toNat
  let options ← write options (offset + 2) data
  return (options, offset + 2 + length.toNat)

/-- "Add parameter request list". -/
def dhcpParams : Bytes := [dhcpOptionSubnetMask, dhcpOptionRouter, dhcpOptionDnsServer]

/-- A message with these options, the parameter request list and the end option, in a new block. -/
def dhcpFill (h : Host) (packet : Bytes) (xid : UInt32) (extra : List (UInt8 × Bytes)) :
    Except Fault Bytes := do
  -- `memset(packet, 0, packet_size)`
  let packet ← write packet 0 (List.replicate (dhcpPacketSize + 32) 0)
  let packet ← write packet 0 [1, 1, 6]
  let packet ← write packet 4 (le32 xid)
  let packet ← write packet 10 (le16 0)
  let packet ← write packet 236 (le32 dhcpMagicCookie)
  let packet ← write packet 28 h.nic.macAddr.bytes
  let header ← slice packet 0 dhcpPacketSize
  let options ← slice packet dhcpPacketSize 32
  let (options, offset) ← extra.foldlM (fun r option =>
    dhcpAddOption r.1 r.2 option.1 (UInt8.ofNat option.2.length) option.2) (options, 0)
  let (options, offset) ← dhcpAddOption options offset dhcpOptionParameterRequest 3 dhcpParams
  let options ← write options offset [dhcpOptionEnd]
  slice (header ++ options) 0 (dhcpPacketSize + (offset + 1))

/-- The message, if it comes to the call of `udp_send`, and the new transaction. -/
def dhcpDiscover (s : DhcpState) (h : Host) : Except Fault (Option Bytes × DhcpState × Host) :=
  if s.initialized = false then .ok (none, s, h)
  else
    match kmalloc h (dhcpPacketSize + 32) with
    | (none, h) => .ok (none, s, h)
    | (some packet, h) => do
      let message ← dhcpFill h packet h.ticks [(dhcpOptionMessageType, [dhcpMessageDiscover])]
      return (some message, { s with xid := h.ticks }, h)

/-- The message, if it comes to the call of `udp_send`. -/
def dhcpRequest (s : DhcpState) (h : Host) : Except Fault (Option Bytes × Host) :=
  if s.initialized = false then .ok (none, h)
  else
    match kmalloc h (dhcpPacketSize + 32) with
    | (none, h) => .ok (none, h)
    | (some packet, h) => do
      let message ← dhcpFill h packet s.xid
        [(dhcpOptionMessageType, [dhcpMessageRequest]), (dhcpOptionRequestedIp, le32 s.offeredIp),
          (dhcpOptionServerId, le32 s.serverIp)]
      return (some message, h)

/-- `dhcp_state.socket`. -/
def dhcpSocket (s : DhcpState) (h : Host) : Option UdpSocket :=
  s.socket.bind fun i => h.udp.sockets[i]?

def dhcpSendDiscover (s : DhcpState) (h : Host) : Except Fault (DhcpState × Host) := do
  let (message, s, h) ← dhcpDiscover s h
  match message with
  | none => return (s, h)
  | some message =>
    let (_, h) ← udpSend h (dhcpSocket s h) 0xFFFFFFFF dhcpServerPort (some message)
    return (s, h)

def dhcpSendRequest (s : DhcpState) (h : Host) : Except Fault Host := do
  let (message, h) ← dhcpRequest s h
  match message with
  | none => return h
  | some message =>
    let (_, h) ← udpSend h (dhcpSocket s h) 0xFFFFFFFF dhcpServerPort (some message)
    return h

/-- The call of `udp_send`, if it comes to that, and the message if it was accepted. -/
def dhcpTransmit (s : DhcpState) (h : Host) (message : Option Bytes) :
    Except Fault (Option Bytes × Host) :=
  match message with
  | none => .ok (none, h)
  | some message => do
    let (ok, h) ← udpSend h (dhcpSocket s h) 0xFFFFFFFF dhcpServerPort (some message)
    return (if ok then some message else none, h)

theorem dhcpSendDiscover_eq (s : DhcpState) (h : Host) :
    dhcpSendDiscover s h = (do
      let (message, s, h) ← dhcpDiscover s h
      let r ← dhcpTransmit s h message
      return (s, r.2)) := by
  unfold dhcpSendDiscover
  refine bind_congr fun r => ?_
  rcases r with ⟨_ | message, s, h⟩
  · rfl
  · simp only [dhcpTransmit, bind_assoc, pure_bind]

theorem dhcpSendRequest_eq (s : DhcpState) (h : Host) :
    dhcpSendRequest s h = (do
      let (message, h) ← dhcpRequest s h
      let r ← dhcpTransmit s h message
      return r.2) := by
  unfold dhcpSendRequest
  refine bind_congr fun r => ?_
  rcases r with ⟨_ | message, h⟩
  · rfl
  · simp only [dhcpTransmit, bind_assoc, pure_bind]

/-! ### The bytes of a message -/

/-- Options as they are stored. -/
def dhcpOptionBytes (options : List (UInt8 × Bytes)) : Bytes :=
  options.flatMap fun option => option.1 :: UInt8.ofNat option.2.length :: option.2

/-- An option is put behind the others. -/
theorem dhcpAddOption_append {a x data : Bytes} {length : UInt8} (type : UInt8)
    (hlen : length.toNat = data.length) (hfit : data.length + 2 ≤ x.length) :
    dhcpAddOption (a ++ x) a.length type length data
      = .ok (a ++ (type :: length :: data) ++ x.drop (data.length + 2),
          (a ++ (type :: length :: data)).length) := by
  obtain ⟨b, x, rfl⟩ : ∃ b x', x = b :: x' := List.exists_cons_of_length_pos (by omega)
  obtain ⟨c, x, rfl⟩ : ∃ c x', x = c :: x' :=
    List.exists_cons_of_length_pos (by rw [List.length_cons] at hfit; omega)
  have htype : write (a ++ (b :: c :: x)) a.length [type] = .ok (a ++ [type] ++ (c :: x)) :=
    write_append rfl (by simp)
  have hlength : write (a ++ [type] ++ (c :: x)) (a.length + 1) [length]
      = .ok (a ++ [type] ++ [length] ++ x) := write_append (by simp) (by simp)
  have hdata : write (a ++ [type] ++ [length] ++ x) (a.length + 2) data
      = .ok (a ++ [type] ++ [length] ++ data ++ x.drop data.length) := by
    refine write_append (by simp) ?_
    rw [List.length_cons, List.length_cons] at hfit
    omega
  have hslice : slice data 0 length.toNat = .ok data := by
    rw [slice_eq (by omega), List.drop_zero, hlen, List.take_length]
  unfold dhcpAddOption
  simp only [htype, hlength, hdata, hslice, ok_bind, pure, Except.pure]
  simp [hlen, Nat.add_comm, Nat.add_left_comm]

/-- The loop over the options. -/
theorem foldlM_dhcpAddOption : ∀ (options : List (UInt8 × Bytes)) (a x : Bytes),
    (∀ o ∈ options, o.2.length < 256) → (dhcpOptionBytes options).length ≤ x.length →
      options.foldlM (fun r option =>
          dhcpAddOption r.1 r.2 option.1 (UInt8.ofNat option.2.length) option.2) (a ++ x, a.length)
        = .ok (a ++ dhcpOptionBytes options ++ x.drop (dhcpOptionBytes options).length,
            (a ++ dhcpOptionBytes options).length) := by
  intro options
  induction options with
  | nil =>
    intro a x _ _
    simp [dhcpOptionBytes, pure, Except.pure]
  | cons o options ih =>
    intro a x hshort hfit
    have hlen : (UInt8.ofNat o.2.length).toNat = o.2.length :=
      UInt8.toNat_ofNat_of_lt' (hshort o List.mem_cons_self)
    have hcons : dhcpOptionBytes (o :: options)
        = (o.1 :: UInt8.ofNat o.2.length :: o.2) ++ dhcpOptionBytes options := rfl
    rw [hcons, List.length_append, List.length_cons, List.length_cons] at hfit
    have hcount : (o.1 :: UInt8.ofNat o.2.length :: o.2 ++ dhcpOptionBytes options).length
        = o.2.length + 2 + (dhcpOptionBytes options).length := by
      rw [List.length_append, List.length_cons, List.length_cons]
    rw [List.foldlM_cons]
    simp only []
    rw [dhcpAddOption_append o.1 hlen (by omega), ok_bind,
      ih _ _ (fun o' ho' => hshort o' (List.mem_cons_of_mem _ ho'))
        (by rw [List.length_drop]; omega), hcons, hcount, List.drop_drop, List.append_assoc a]

/-- The bytes of the options, with the parameter request list and the end option. -/
def dhcpOptionArea (extra : List (UInt8 × Bytes)) : Bytes :=
  dhcpOptionBytes extra ++ (dhcpOptionParameterRequest :: 3 :: dhcpParams) ++ [dhcpOptionEnd]

theorem length_dhcpOptionArea (extra : List (UInt8 × Bytes)) :
    (dhcpOptionArea extra).length = (dhcpOptionBytes extra).length + 6 := by
  rw [dhcpOptionArea, List.length_append, List.length_append]
  rfl

/-- Filling the options behind a header. -/
theorem dhcpOptionArea_eq {area : Bytes} (header : Bytes) {extra : List (UInt8 × Bytes)}
    (hshort : ∀ o ∈ extra, o.2.length < 256)
    (hfit : (dhcpOptionArea extra).length ≤ area.length) :
    (do
      let (options, offset) ← extra.foldlM (fun (r : Bytes × Nat) (option : UInt8 × Bytes) =>
        dhcpAddOption r.1 r.2 option.1 (UInt8.ofNat option.2.length) option.2) (area, 0)
      let (options, offset) ← dhcpAddOption options offset dhcpOptionParameterRequest 3 dhcpParams
      let options ← write options offset [dhcpOptionEnd]
      slice (header ++ options) 0 (header.length + (offset + 1)))
        = .ok (header ++ dhcpOptionArea extra) := by
  rw [length_dhcpOptionArea] at hfit
  have hextra := foldlM_dhcpAddOption extra [] area hshort (by omega)
  rw [List.nil_append, List.nil_append, List.length_nil] at hextra
  have hparams : dhcpParams.length + 2 ≤ (area.drop (dhcpOptionBytes extra).length).length := by
    rw [List.length_drop]
    show 5 ≤ _
    omega
  have hend : [dhcpOptionEnd].length
      ≤ ((area.drop (dhcpOptionBytes extra).length).drop (dhcpParams.length + 2)).length := by
    rw [List.length_drop, List.length_drop]
    show 1 ≤ _ - 5
    omega
  rw [hextra, ok_bind]
  simp only []
  rw [dhcpAddOption_append dhcpOptionParameterRequest rfl hparams, ok_bind]
  simp only []
  rw [write_append rfl hend, ok_bind]
  have hcut : header.length
        + ((dhcpOptionBytes extra ++ (dhcpOptionParameterRequest :: 3 :: dhcpParams)).length + 1)
      = (header ++ dhcpOptionArea extra).length := by
    simp only [dhcpOptionArea, List.length_append, List.length_singleton]
  rw [hcut, ← List.append_assoc]
  exact slice_left _ _

/-- **A message is a header with the transaction and the options behind it.** -/
theorem dhcpFill_eq (h : Host) {packet : Bytes} (hlen : packet.length = dhcpPacketSize + 32)
    (xid : UInt32) {extra : List (UInt8 × Bytes)} (hshort : ∀ o ∈ extra, o.2.length < 256)
    (hfit : (dhcpOptionArea extra).length ≤ 32) :
    ∃ header, header.length = dhcpPacketSize ∧ u32At header 4 = xid ∧
      dhcpFill h packet xid extra = .ok (header ++ dhcpOptionArea extra) := by
  obtain ⟨p₁, hp₁, hl₁⟩ := write_ok (List.replicate (dhcpPacketSize + 32) 0) 0 [1, 1, 6]
    (by rw [List.length_replicate]; decide)
  rw [List.length_replicate] at hl₁
  obtain ⟨p₂, hp₂, hl₂⟩ := write_ok p₁ 4 (le32 xid) (by rw [hl₁, length_le32]; decide)
  obtain ⟨p₃, hp₃, hl₃⟩ := write_ok p₂ 10 (le16 0) (by rw [hl₂, hl₁]; decide)
  obtain ⟨p₄, hp₄, hl₄⟩ := write_ok p₃ 236 (le32 dhcpMagicCookie) (by rw [hl₃, hl₂, hl₁]; decide)
  obtain ⟨p₅, hp₅, hl₅⟩ := write_ok p₄ 28 h.nic.macAddr.bytes
    (by rw [hl₄, hl₃, hl₂, hl₁, Mac.length_bytes]; decide)
  have hl : p₅.length = dhcpPacketSize + 32 := by rw [hl₅, hl₄, hl₃, hl₂, hl₁]
  have hheader : slice p₅ 0 dhcpPacketSize = .ok (p₅.take dhcpPacketSize) := by
    rw [slice_eq (by rw [hl]; decide), List.drop_zero]
  have hhead : (p₅.take dhcpPacketSize).length = dhcpPacketSize := by
    rw [List.length_take, hl]
    rfl
  obtain ⟨area, harea, hla⟩ : ∃ area, slice p₅ dhcpPacketSize 32 = .ok area ∧ area.length = 32 :=
    ⟨_, slice_eq (by rw [hl]), by rw [List.length_take, List.length_drop, hl]; decide⟩
  refine ⟨p₅.take dhcpPacketSize, hhead, ?_, ?_⟩
  · -- none of the later assignments is to the transaction
    have hbyte : ∀ j < 4, byteAt (p₅.take dhcpPacketSize) (4 + j) = byteAt (le32 xid) j := by
      intro j hj
      rw [byteAt_take (by unfold dhcpPacketSize; omega), byteAt_of_write hp₅ (by omega),
        byteAt_of_write hp₄ (by omega), byteAt_of_write hp₃ (by omega),
        byteAt_of_write_self hp₂ (by rw [length_le32]; exact hj)]
    have h₀ := hbyte 0 (by omega)
    have h₁ := hbyte 1 (by omega)
    have h₂ := hbyte 2 (by omega)
    have h₃ := hbyte 3 (by omega)
    unfold u32At
    rw [h₀, h₁, h₂, h₃]
    exact u32_le32 xid
  · have hoptions := dhcpOptionArea_eq (p₅.take dhcpPacketSize) hshort
      (show _ ≤ area.length by rw [hla]; exact hfit)
    unfold dhcpFill
    rw [write_all (by rw [List.length_replicate, hlen])]
    simp only [hp₁, hp₂, hp₃, hp₄, hp₅, hheader, harea, ok_bind]
    rw [hhead] at hoptions
    exact hoptions

/-- What `dhcp_send_request` hands to `udp_send`. -/
theorem dhcpRequest_cases (s : DhcpState) (h : Host) :
    ∃ message h', dhcpRequest s h = .ok (message, h') ∧ ∀ m, message = some m →
      ∃ header, header.length = dhcpPacketSize ∧ u32At header 4 = s.xid ∧
        m = header ++ dhcpOptionArea [(dhcpOptionMessageType, [dhcpMessageRequest]),
          (dhcpOptionRequestedIp, le32 s.offeredIp), (dhcpOptionServerId, le32 s.serverIp)] := by
  unfold dhcpRequest
  by_cases hinit : s.initialized = false
  · rw [if_pos hinit]
    exact ⟨none, h, rfl, by simp⟩
  · rw [if_neg hinit]
    obtain ⟨rest, hk | ⟨block, hblock, hk⟩⟩ := kmalloc_cases h (dhcpPacketSize + 32)
    · rw [hk]
      exact ⟨none, _, rfl, by simp⟩
    · obtain ⟨header, hlen, hxid, hfill⟩ := dhcpFill_eq { h with allocs := rest } hblock s.xid
        (show ∀ o ∈ [(dhcpOptionMessageType, [dhcpMessageRequest]),
          (dhcpOptionRequestedIp, le32 s.offeredIp), (dhcpOptionServerId, le32 s.serverIp)],
          o.2.length < 256 by simp) (by rw [length_dhcpOptionArea]; show 15 + 6 ≤ 32; omega)
      rw [hk]
      simp only [hfill, ok_bind]
      exact ⟨_, _, rfl, fun m hm => ⟨header, hlen, hxid, (Option.some.inj hm).symm⟩⟩
/-- What `dhcp_send_discover` hands to `udp_send`. -/
theorem dhcpDiscover_cases (s : DhcpState) (h : Host) :
    ∃ message xid h', dhcpDiscover s h = .ok (message, { s with xid := xid }, h') ∧
      ∀ m, message = some m → m.length ≤ dhcpPacketSize + 32 := by
  unfold dhcpDiscover
  by_cases hinit : s.initialized = false
  · rw [if_pos hinit]
    exact ⟨none, s.xid, h, rfl, by simp⟩
  · rw [if_neg hinit]
    obtain ⟨rest, hk | ⟨block, hblock, hk⟩⟩ := kmalloc_cases h (dhcpPacketSize + 32)
    · rw [hk]
      exact ⟨none, s.xid, _, rfl, by simp⟩
    · have hfit : (dhcpOptionArea [(dhcpOptionMessageType, [dhcpMessageDiscover])]).length ≤ 32 := by
        rw [length_dhcpOptionArea]
        decide
      obtain ⟨header, hlen, -, hfill⟩ := dhcpFill_eq { h with allocs := rest } hblock h.ticks
        (show ∀ o ∈ [(dhcpOptionMessageType, [dhcpMessageDiscover])], o.2.length < 256 by simp) hfit
      rw [hk]
      simp only [hfill, ok_bind]
      refine ⟨_, h.ticks, _, rfl, fun m hm => ?_⟩
      obtain rfl := Option.some.inj hm
      rw [List.length_append, hlen]
      omega

/-- A message is given to `udp_send` as it is. -/
theorem dhcpTransmit_cases (s : DhcpState) (h : Host) {message : Option Bytes}
    (hlen : ∀ m, message = some m → m.length ≤ dhcpPacketSize + 32) :
    ∃ sent h', dhcpTransmit s h message = .ok (sent, h') ∧ ∀ m, sent = some m → message = some m := by
  cases message with
  | none => exact ⟨none, h, rfl, by simp⟩
  | some message =>
    have hle := hlen message rfl
    unfold dhcpPacketSize at hle
    obtain ⟨ok, h', hsend⟩ := udpSend_total h (dhcpSocket s h) 0xFFFFFFFF dhcpServerPort
      (show message.length + 42 < 2 ^ 32 by omega)
    refine ⟨if ok then some message else none, h', ?_, ?_⟩
    · rw [dhcpTransmit, hsend]
      rfl
    · cases ok <;> simp

/-! ### Starting -/

/-- `dhcp_init`, where `dhcp_handle_packet` is at the address `handler`. -/
def dhcpInit (s : DhcpState) (h : Host) (callback handler : Nat) :
    Except Fault (Bool × DhcpState × Host) :=
  if s.initialized then .ok (true, s, h)
  else if callback = 0 then .ok (false, s, h)
  else
    let r := udpCreateSocket h.udp dhcpClientPort handler
    let s := { s with socket := r.1 }
    let h := { h with udp := r.2 }
    match r.1 with
    | none => .ok (false, s, h)
    | some _ => do
      let (s, h) ← dhcpSendDiscover { s with callback := callback, initialized := true } h
      return (true, s, h)

/-! ## Messages from the server -/

/-- The loop of `dhcp_get_option`. The byte for the length may be the one behind the options. -/
def dhcpScanOptions (options : Nat → UInt8) (optionsLen : Nat) (type : UInt8) (capacity : Nat) :
    Nat → Nat → Option Bytes
  | 0, _ => none
  | n + 1, offset =>
    if optionsLen ≤ offset then none
    else if options offset = dhcpOptionEnd then none
    else if options offset = dhcpOptionPad then
      dhcpScanOptions options optionsLen type capacity n (offset + 1)
    else
      let optionLength := (options (offset + 1)).toNat
      if optionsLen < offset + 2 + optionLength then none
      else if options offset = type then
        if optionLength ≤ capacity then
          some ((List.range optionLength).map fun i => options (offset + 2 + i))
        else none
      else dhcpScanOptions options optionsLen type capacity n (offset + 2 + optionLength)

/-- What is copied to the buffer of `capacity` bytes; `none` if `false` is returned. -/
def dhcpGetOption (options : Nat → UInt8) (optionsLen : Nat) (type : UInt8) (capacity : Nat) :
    Option Bytes :=
  dhcpScanOptions options optionsLen type capacity optionsLen 0

/-- Each turn of the loop takes at least one byte, so that there are turns enough. -/
theorem dhcpScanOptions_turns {options : Nat → UInt8} {optionsLen capacity : Nat} {type : UInt8} :
    ∀ {n m offset : Nat}, optionsLen - offset ≤ n → optionsLen - offset ≤ m →
      dhcpScanOptions options optionsLen type capacity n offset
        = dhcpScanOptions options optionsLen type capacity m offset := by
  intro n
  induction n with
  | zero =>
    intro m offset hn _
    cases m with
    | zero => rfl
    | succ m => rw [dhcpScanOptions, dhcpScanOptions, if_pos (by omega)]
  | succ n ih =>
    intro m offset hn hm
    cases m with
    | zero => rw [dhcpScanOptions, dhcpScanOptions, if_pos (by omega)]
    | succ m =>
      rw [dhcpScanOptions, dhcpScanOptions]
      by_cases hend : optionsLen ≤ offset
      · rw [if_pos hend, if_pos hend]
      · have hnext : ∀ k, 0 < k → dhcpScanOptions options optionsLen type capacity n (offset + k)
            = dhcpScanOptions options optionsLen type capacity m (offset + k) :=
          fun k hk => ih (by omega) (by omega)
        have hlength := hnext (2 + (options (offset + 1)).toNat) (by omega)
        rw [← Nat.add_assoc] at hlength
        simp only [hnext 1 Nat.one_pos, hlength]

/-- The indices of the options that are read, and what is copied to `data`; `none` if `false` is
returned. -/
structure OptionAccess where
  reads : List Nat
  copied : Option Bytes
  deriving Repr, DecidableEq

/-- The body of the loop of `dhcp_get_option` with its 32-bit offsets, and the next offset if the loop
goes on. -/
def dhcpOptionTurn (options : Nat → UInt8) (optionsLen : Nat) (type : UInt8)
    (capacity offset : Nat) : OptionAccess × Option Nat :=
  let optionType := options offset
  let offset₁ := wrap32 (offset + 1)
  if optionType = dhcpOptionEnd then ({ reads := [offset], copied := none }, none)
  else if optionType = dhcpOptionPad then ({ reads := [offset], copied := none }, some offset₁)
  else
    let optionLength := (options offset₁).toNat
    let offset₂ := wrap32 (offset₁ + 1)
    if optionsLen < wrap32 (offset₂ + optionLength) then
      ({ reads := [offset, offset₁], copied := none }, none)
    else if optionType = type then
      if optionLength ≤ capacity then
        let source := (List.range optionLength).map (offset₂ + ·)
        ({ reads := offset :: offset₁ :: source, copied := some (source.map options) }, none)
      else ({ reads := [offset, offset₁], copied := none }, none)
    else ({ reads := [offset, offset₁], copied := none }, some (wrap32 (offset₂ + optionLength)))

/-- `while (offset < options_len)`; `none` if the loop has not been left after so many turns. -/
def dhcpOptionLoop (options : Nat → UInt8) (optionsLen : Nat) (type : UInt8) (capacity : Nat) :
    Nat → Nat → Option OptionAccess
  | 0, _ => none
  | n + 1, offset =>
    if optionsLen ≤ offset then some { reads := [], copied := none }
    else
      match dhcpOptionTurn options optionsLen type capacity offset with
      | (access, none) => some access
      | (access, some offset') =>
        (dhcpOptionLoop options optionsLen type capacity n offset').map fun rest =>
          { reads := access.reads ++ rest.reads, copied := rest.copied }

/-- A variable of 4 bytes after `memcpy` to its start. -/
def overlay32 (x : UInt32) (bytes : Bytes) : UInt32 :=
  u32At (bytes ++ (le32 x).drop bytes.length) 0

/-- `__builtin_bswap32`. -/
def bswap32 (x : UInt32) : UInt32 := u32At (le32 x).reverse 0

/-- The arguments of `dhcp_handle_packet`; `data` is the memory from the pointer on. -/
structure Datagram where
  srcIp : UInt32
  srcPort : UInt16
  data : Nat → UInt8
  length : Nat

def Datagram.u32 (d : Datagram) (i : Nat) : UInt32 :=
  Lib.u32 (d.data i) (d.data (i + 1)) (d.data (i + 2)) (d.data (i + 3))

def Datagram.op (d : Datagram) : UInt8 := d.data 0
def Datagram.xid (d : Datagram) : UInt32 := d.u32 4
def Datagram.yiaddr (d : Datagram) : UInt32 := d.u32 16
def Datagram.magicCookie (d : Datagram) : UInt32 := d.u32 236

def Datagram.option (d : Datagram) (type : UInt8) (capacity : Nat) : Option Bytes :=
  dhcpGetOption (fun i => d.data (dhcpPacketSize + i)) (d.length - dhcpPacketSize) type capacity

/-- `dhcp_info_t`. -/
structure DhcpInfo where
  ipAddress : UInt32
  subnetMask : UInt32
  router : UInt32
  dnsServer : UInt32
  serverIp : UInt32
  leaseTime : UInt32
  deriving Repr, DecidableEq

/-- The former contents of the local variables. -/
structure DhcpLocals where
  messageType : UInt8
  info : DhcpInfo

/-- The message type, if the packet passes the checks; an option of length 0 leaves it as it was. -/
def dhcpMessageType (s : DhcpState) (d : Datagram) (junk : UInt8) : Option UInt8 :=
  if d.length < dhcpPacketSize then none
  else if d.op ≠ dhcpOpReply ∨ d.xid ≠ s.xid ∨ d.magicCookie ≠ dhcpMagicCookie then none
  else (d.option dhcpOptionMessageType 1).map fun bytes => bytes.headD junk

/-- The state that an offer leaves, before the request is sent. -/
def dhcpTakeOffer (s : DhcpState) (d : Datagram) : DhcpState :=
  { s with
    offeredIp := d.yiaddr
    serverIp := d.srcIp
    leaseTime :=
      match d.option dhcpOptionLeaseTime 4 with
      | some bytes => bswap32 (overlay32 s.leaseTime bytes)
      | none => 3600 }

/-- What is passed to the callback. -/
def dhcpInfo (s : DhcpState) (d : Datagram) (junk : DhcpInfo) : DhcpInfo where
  ipAddress := d.yiaddr
  subnetMask := overlay32 junk.subnetMask ((d.option dhcpOptionSubnetMask 4).getD [])
  router := overlay32 junk.router ((d.option dhcpOptionRouter 4).getD [])
  dnsServer := overlay32 junk.dnsServer ((d.option dhcpOptionDnsServer 4).getD [])
  serverIp := s.serverIp
  leaseTime := s.leaseTime

/-- What `dhcp_handle_packet` leaves: the message that `udp_send` has accepted, if any, and the
argument of the callback if it was called. -/
structure DhcpOutcome where
  state : DhcpState
  host : Host
  sent : Option Bytes
  called : Option DhcpInfo

def dhcpHandlePacket (s : DhcpState) (h : Host) (d : Datagram) (junk : DhcpLocals) :
    Except Fault DhcpOutcome :=
  match dhcpMessageType s d junk.messageType with
  | none => .ok { state := s, host := h, sent := none, called := none }
  | some type =>
    if type = dhcpMessageOffer then do
      let s := dhcpTakeOffer s d
      let (message, h) ← dhcpRequest s h
      let (sent, h) ← dhcpTransmit s h message
      return { state := s, host := h, sent := sent, called := none }
    else if type = dhcpMessageAck then
      .ok {
        state := s, host := h, sent := none
        called := if s.callback ≠ 0 then some (dhcpInfo s d junk.info) else none }
    else if type = dhcpMessageNak then do
      let (message, s, h) ← dhcpDiscover s h
      let (sent, h) ← dhcpTransmit s h message
      return { state := s, host := h, sent := sent, called := none }
    else .ok { state := s, host := h, sent := none, called := none }

end MayaOs.Net
