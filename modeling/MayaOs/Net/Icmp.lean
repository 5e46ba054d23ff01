import MayaOs.Net.Ip

/-!
# ICMP (`net/icmp.c`)

The echo callback does not call back into the stack; its call is returned.

* `echoRequest`, `icmpExamine`, `destinationUnreachable` — the messages, before `ip_send_packet`
-/

namespace MayaOs.Net

open MayaOs.Lib

def icmpHeaderSize : Nat := 8

def ipProtocolIcmp : UInt8 := 1

def icmpTypeEchoRequest : UInt8 := 8
def icmpTypeEchoReply : UInt8 := 0
def icmpTypeDestinationUnreachable : UInt8 := 3

/-- `icmp_state`. -/
structure IcmpState where
  echoCallback : Nat
  initialized : Bool

def icmpChecksum (data : Bytes) : UInt16 :=
  finishChecksum (wrap32 (sumWords 0 data + oddByte 1 data))

def icmpInit (s : IcmpState) (ip : IpState) : Bool × IcmpState × IpState :=
  if s.initialized then (true, s, ip)
  else
    let r := ipRegisterProtocol ip ipProtocolIcmp (some .icmp)
    (r.1, { echoCallback := 0, initialized := true }, r.2)

def icmpSetEchoCallback (s : IcmpState) (callback : Nat) : IcmpState :=
  if s.initialized = false then s else { s with echoCallback := callback }

/-- `icmp_header_t`. -/
def icmpHeader (type code : UInt8) (checksum identifier sequence : UInt16) : Bytes :=
  [type, code] ++ le16 checksum ++ le16 identifier ++ le16 sequence

@[simp] theorem length_icmpHeader (type code : UInt8) (checksum identifier sequence : UInt16) :
    (icmpHeader type code checksum identifier sequence).length = 8 := rfl

/-! ## icmp_send_echo_request -/

/-- The message, if it comes to the call of `ip_send_packet`. -/
def echoRequest (s : IcmpState) (h : Host) (identifier sequence : UInt16) (data : Option Bytes) :
    Except Fault (Option Bytes × Host) :=
  match data with
  | none => .ok (none, h)
  | some data =>
    if s.initialized = false ∨ data.length = 0 then .ok (none, h)
    else
      match kmalloc h (wrap32 (icmpHeaderSize + data.length)) with
      | (none, h) => .ok (none, h)
      | (some packet, h) => do
        let packet ← write packet 0
          (icmpHeader icmpTypeEchoRequest 0 0 (swap16 identifier) (swap16 sequence))
        let packet ← write packet icmpHeaderSize data
        let packet ← write packet 2 (le16 (icmpChecksum packet))
        return (some packet, h)

def icmpSendEchoRequest (s : IcmpState) (h : Host) (destIp : UInt32) (identifier sequence : UInt16)
    (data : Option Bytes) : Except Fault (Bool × Host) := do
  let (packet, h) ← echoRequest s h identifier sequence data
  match packet with
  | none => return (false, h)
  | some packet => ipSendPacket h destIp ipProtocolIcmp (some packet)

/-! ## icmp_handle_packet -/

/-- A call `echo_callback(src_ip, identifier, sequence, data, data_length)`. -/
structure EchoCall where
  callback : Nat
  srcIp : UInt32
  identifier : UInt16
  sequence : UInt16
  data : Bytes
  deriving Repr, DecidableEq

/-- What a packet leads to. -/
inductive IcmpAction where
  | drop
  /-- `reply` goes to `ip_send_packet` -/
  | reply (reply : Bytes)
  | call (echo : EchoCall)
  deriving Repr, DecidableEq

/-- `packet` with `length` bytes, copied and turned into a reply. -/
def echoReply (h : Host) (packet : Bytes) (length : Nat) : Except Fault (Option Bytes × Host) :=
  match kmalloc h length with
  | (none, h) => .ok (none, h)
  | (some reply, h) => do
    let original ← slice packet 0 length
    let reply ← write reply 0 original
    let reply ← write reply 0 [icmpTypeEchoReply]
    let reply ← write reply 2 (le16 0)
    let reply ← write reply 2 (le16 (icmpChecksum reply))
    return (some reply, h)

/-- Everything before the call of `ip_send_packet`, with the buffer afterwards; `packet` is the
memory from the pointer to the end of the buffer, `length` the argument. -/
def icmpExamine (s : IcmpState) (h : Host) (srcIp : UInt32) (packet : Option Bytes) (length : Nat) :
    Except Fault (IcmpAction × Option Bytes × Host) :=
  match packet with
  | none => .ok (.drop, none, h)
  | some packet =>
    if s.initialized = false ∨ length < icmpHeaderSize then .ok (.drop, some packet, h)
    else do
      let recvChecksum ← read16 packet 2
      let packet ← write packet 2 (le16 0)
      let message ← slice packet 0 length
      -- the field stays cleared in a packet that is dropped here
      if recvChecksum ≠ icmpChecksum message then return (.drop, some packet, h)
      else
        let packet ← write packet 2 (le16 recvChecksum)
        let type ← read8 packet 0
        if type = icmpTypeEchoRequest then
          let (reply, h) ← echoReply h packet length
          return (reply.elim .drop .reply, some packet, h)
        else if type = icmpTypeEchoReply then
          let identifier ← read16 packet 4
          let sequence ← read16 packet 6
          if s.echoCallback = 0 then return (.drop, some packet, h)
          else
            let data ← slice packet icmpHeaderSize (length - icmpHeaderSize)
            return (.call
              { callback := s.echoCallback, srcIp := srcIp, identifier := swap16 identifier
                sequence := swap16 sequence, data := data }, some packet, h)
        else return (.drop, some packet, h)

def icmpHandlePacket (s : IcmpState) (h : Host) (srcIp : UInt32) (packet : Option Bytes)
    (length : Nat) : Except Fault (Option EchoCall × Option Bytes × Host) := do
  let (action, packet, h) ← icmpExamine s h srcIp packet length
  match action with
  | .drop => return (none, packet, h)
  | .reply reply =>
    let (_, h) ← ipSendPacket h srcIp ipProtocolIcmp (some reply)
    return (none, packet, h)
  | .call echo => return (some echo, packet, h)

/-! ## icmp_send_destination_unreachable -/

/-- The message, if it comes to the call of `ip_send_packet`. -/
def destinationUnreachable (s : IcmpState) (h : Host) (code : UInt8) (origPacket : Option Bytes) :
    Except Fault (Option Bytes × Host) :=
  match origPacket with
  | none => .ok (none, h)
  | some orig =>
    if s.initialized = false ∨ orig.length < 28 then .ok (none, h)
    else
      let totalLength := min 576 (wrap32 (icmpHeaderSize + 4 + orig.length))
      match kmalloc h totalLength with
      | (none, h) => .ok (none, h)
      | (some packet, h) => do
        let packet ← write packet 0 (icmpHeader icmpTypeDestinationUnreachable code 0 0 0)
        -- the four bytes between the header and the data are not written
        let data ← slice orig 0 (wrap32 (totalLength + 2 ^ 32 - icmpHeaderSize - 4))
        let packet ← write packet (icmpHeaderSize + 4) data
        let packet ← write packet 2 (le16 (icmpChecksum packet))
        return (some packet, h)

def icmpSendDestinationUnreachable (s : IcmpState) (h : Host) (destIp : UInt32) (code : UInt8)
    (origPacket : Option Bytes) : Except Fault Host := do
  let (packet, h) ← destinationUnreachable s h code origPacket
  match packet with
  | none => return h
  | some packet =>
    let (_, h) ← ipSendPacket h destIp ipProtocolIcmp (some packet)
    return h

end MayaOs.Net
