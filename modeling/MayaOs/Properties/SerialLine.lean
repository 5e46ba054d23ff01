import MayaOs.Drivers.Serial

/-!
# What the serial ports send

* `waitTransmitEmpty_driven` — the loop ends with an empty FIFO, and nothing is lost
* `serialWriteLoop_driven` — every byte is put behind those before it
* `serialCalls_holds` — what a list of calls sends
* `serial_session` — from the first call on
-/

namespace MayaOs.Drivers

open MayaOs.Lib

/-! ## What the calls ask for -/

/-- The ports that are initialized after a call of `serial_init`. -/
def afterInit (on : ComPort → Bool) (port : UInt16) (p : ComPort) : Bool :=
  on p || decide (portIndex port = some p)

def SerialCall.next (on : ComPort → Bool) : SerialCall → ComPort → Bool
  | .init port => afterInit on port
  | .write _ _ => on

/-- What a call asks the port `p` to send. -/
def SerialCall.payload (on : ComPort → Bool) (p : ComPort) : SerialCall → Bytes
  | .init _ => []
  | .write port data => if on p = true ∧ portIndex port = some p then data.getD [] else []

/-- What a call returns: the number of the bytes when its port is initialized, and else 0. -/
def SerialCall.result (on : ComPort → Bool) : SerialCall → SerialResult
  | .init port => .initialized (portIndex port).isSome
  | .write port data =>
    .written (match portIndex port with
      | none => 0
      | some p => if on p then (data.getD []).length else 0)

/-- The bytes for the port `p`: those of the calls that come after its `serial_init`. -/
def serialPayload (p : ComPort) : (ComPort → Bool) → List SerialCall → Bytes
  | _, [] => []
  | on, c :: cs => c.payload on p ++ serialPayload p (c.next on) cs

def serialResults : (ComPort → Bool) → List SerialCall → List SerialResult
  | _, [] => []
  | on, c :: cs => c.result on :: serialResults (c.next on) cs

def serialReady (on : ComPort → Bool) (cs : List SerialCall) : ComPort → Bool :=
  cs.foldl SerialCall.next on

/-! ## One UART -/

/-- A UART that was `u₀` at first, was then set up, and got the bytes `out`. -/
structure Driven (u₀ : Uart) (out : Bytes) (u : Uart) : Prop where
  dll : u.dll = 3
  dlm : u.dlm = u₀.dlm
  lcr : u.lcr = 3
  mcr : u.mcr = 0x0B
  bytes : u.sent ++ u.waiting = u₀.sent ++ out
  room : u.waiting.length ≤ 1

variable {u₀ u : Uart} {out : Bytes}

theorem serialConfigureBaudRate_eq (u : Uart) :
    serialConfigureBaudRate u 3 = { u with dll := 3, lcr := 0x80 } := by
  have hdlab : (0x80 : UInt8) &&& 0x80 ≠ 0 := by decide
  have hfirst : (u.outb .lineCommand 0x80).outb .data (((3 : UInt16) >>> 8) &&& 0x00FF).toUInt8 =
      { u with dll := 0, lcr := 0x80 } := if_pos hdlab
  have hsecond : Uart.outb { u with dll := 0, lcr := 0x80 } .data ((3 : UInt16) &&& 0x00FF).toUInt8 =
      { u with dll := 3, lcr := 0x80 } := if_pos hdlab
  exact (congrArg (Uart.outb · .data ((3 : UInt16) &&& 0x00FF).toUInt8) hfirst).trans hsecond

theorem serialConfigureFifo_eq (u : Uart) :
    serialConfigureFifo u = { u with waiting := [], busy := 0 } := by
  have hclear : (0xC7 : UInt8) &&& 0x04 ≠ 0 := by decide
  unfold serialConfigureFifo Uart.outb
  simp only [if_pos hclear]

theorem serialConfigure_eq (u : Uart) :
    serialConfigureModem (serialConfigureFifo (serialConfigureLine (serialConfigureBaudRate u 3))) =
      { u with dll := 3, lcr := 0x03, mcr := 0x0B, waiting := [], busy := 0 } := by
  rw [serialConfigureBaudRate_eq, serialConfigureFifo_eq]
  rfl

/-- `serial_init` leaves an empty FIFO and writes one half of the divisor only. -/
theorem driven_init (u₀ : Uart) :
    Driven u₀ [] (serialConfigureModem (serialConfigureFifo (serialConfigureLine
      (serialConfigureBaudRate u₀ 3)))) := by
  rw [serialConfigure_eq]
  exact ⟨rfl, rfl, rfl, rfl, rfl, Nat.zero_le 1⟩

theorem Driven.polled (h : Driven u₀ out u) : Driven u₀ out u.polled := by
  unfold Uart.polled
  cases hw : u.waiting with
  | nil => exact h
  | cons v rest =>
    by_cases hb : u.busy = 0
    · simp only [if_pos hb]
      have hroom := h.room
      rw [hw, List.length_cons] at hroom
      refine { h with bytes := ?_, room := show rest.length ≤ 1 by omega }
      show u.sent ++ [v] ++ rest = _
      rw [← h.bytes, hw, List.append_assoc, List.singleton_append]
    · simp only [if_neg hb]
      exact { h with bytes := hw ▸ h.bytes, room := hw ▸ h.room }

theorem waiting_of_lineStatus (h : ¬ u.lineStatus &&& 0x20 = 0) : u.waiting = [] := by
  unfold Uart.lineStatus at h
  by_contra hw
  rw [if_neg hw] at h
  exact h rfl

/-- **The loop ends with an empty FIFO, and nothing is lost.** -/
theorem waitTransmitEmpty_driven :
    ∀ u : Uart, Driven u₀ out u →
      Driven u₀ out (waitTransmitEmpty u) ∧ (waitTransmitEmpty u).waiting = [] := by
  intro u
  induction u using waitTransmitEmpty.induct with
  | case1 u hbusy ih =>
    intro h
    rw [waitTransmitEmpty, dif_pos hbusy]
    exact ih h.polled
  | case2 u hempty =>
    intro h
    have hw := waiting_of_lineStatus hempty
    rw [waitTransmitEmpty, dif_neg hempty]
    refine ⟨h.polled, ?_⟩
    unfold Uart.polled
    rw [hw]
    exact hw

theorem Driven.outb (h : Driven u₀ out u) (hw : u.waiting = []) (v : UInt8) :
    Driven u₀ (out ++ [v]) (u.outb .data v) := by
  have hdata : u.outb .data v =
      { u with waiting := [v], busy := u.latency u.sent.length } := by
    unfold Uart.outb Uart.transmit
    rw [h.lcr, if_neg (by decide), if_pos hw]
  have hbytes := h.bytes
  rw [hw, List.append_nil] at hbytes
  rw [hdata]
  refine { h with bytes := ?_, room := Nat.le_refl 1 }
  show u.sent ++ [v] = _
  rw [hbytes, List.append_assoc]

/-! ## The driver -/

/-- A port is as it was at first, or set up with the bytes that it got. -/
def Holds (uart : ComPort → Uart) (on : ComPort → Bool) (out : ComPort → Bytes) (s : Serial) : Prop :=
  s.initialized = on ∧ ∀ p, if on p then Driven (uart p) (out p) (s.uart p)
    else out p = [] ∧ s.uart p = uart p

variable {uart : ComPort → Uart} {on : ComPort → Bool} {outs : ComPort → Bytes} {s : Serial}

theorem serialWriteByte_on {port : UInt16} {p : ComPort} (hport : portIndex port = some p)
    (hon : s.initialized p = true) (byte : UInt8) :
    serialWriteByte s port byte =
      (true, s.setUart p ((waitTransmitEmpty (s.uart p)).outb .data byte)) := by
  unfold serialWriteByte
  rw [hport]
  exact if_pos hon

/-- **Every byte is put behind those before it.** -/
theorem serialWriteLoop_driven {port : UInt16} {p : ComPort} (hport : portIndex port = some p) :
    ∀ (bytes : Bytes) {s : Serial} {out : Bytes} (written : Nat), s.initialized p = true →
      Driven u₀ out (s.uart p) →
        (serialWriteLoop port s bytes written).1 = written + bytes.length ∧
        ∃ u, (serialWriteLoop port s bytes written).2 = s.setUart p u ∧
          Driven u₀ (out ++ bytes) u := by
  intro bytes
  induction bytes with
  | nil =>
    intro s out written _ h
    refine ⟨rfl, s.uart p, ?_, by rwa [List.append_nil]⟩
    show s = _
    unfold Serial.setUart
    rw [Function.update_eq_self]
  | cons byte bytes ih =>
    intro s out written hon h
    obtain ⟨hwait, hempty⟩ := waitTransmitEmpty_driven _ h
    have hbyte := hwait.outb hempty byte
    rw [← s.setUart_self p ((waitTransmitEmpty (s.uart p)).outb .data byte)] at hbyte
    obtain ⟨hcount, u, hs, hu⟩ := ih (written + 1) (show (s.setUart p _).initialized p = true from hon) hbyte
    rw [serialWriteLoop, serialWriteByte_on hport hon]
    refine ⟨?_, u, ?_, ?_⟩
    · rw [hcount, List.length_cons]
      omega
    · rw [hs]
      unfold Serial.setUart
      rw [Function.update_idem]
    · rwa [List.append_assoc, List.singleton_append] at hu

/-- Nothing is written to a port that is not initialized. -/
theorem serialWriteLoop_off {port : UInt16}
    (hoff : ∀ p, portIndex port = some p → s.initialized p = false) (bytes : Bytes) (written : Nat) :
    serialWriteLoop port s bytes written = (written, s) := by
  cases bytes with
  | nil => rfl
  | cons byte bytes =>
    have hbyte : serialWriteByte s port byte = (false, s) := by
      unfold serialWriteByte
      cases hport : portIndex port with
      | none => rfl
      | some p =>
        simp only [hoff p hport]
        rfl
    rw [serialWriteLoop, hbyte]

theorem serialWrite_eq (s : Serial) (port : UInt16) (data : Option Bytes) :
    serialWrite s port data = serialWriteLoop port s (data.getD []) 0 := by
  unfold serialWrite
  cases data with
  | none => rfl
  | some bytes =>
    by_cases hlen : bytes.length = 0
    · obtain rfl := List.eq_nil_of_length_eq_zero hlen
      rfl
    · exact if_neg hlen

theorem holds_init (h : Holds uart on outs s) (port : UInt16) :
    Holds uart (afterInit on port) outs (serialInit s port).2 ∧
      (serialInit s port).1 = (portIndex port).isSome := by
  obtain ⟨rfl, hports⟩ := h
  unfold serialInit
  cases hport : portIndex port with
  | none =>
    have hon : afterInit s.initialized port = s.initialized := by
      funext q
      simp [afterInit, hport]
    exact ⟨by rw [hon]; exact ⟨rfl, hports⟩, rfl⟩
  | some p =>
    by_cases hp : s.initialized p = true
    · have hon : afterInit s.initialized port = s.initialized := by
        funext q
        by_cases hq : p = q
        · subst hq
          simp [afterInit, hp]
        · simp [afterInit, hport, hq]
      simp only [if_pos hp]
      exact ⟨by rw [hon]; exact ⟨rfl, hports⟩, rfl⟩
    · have hfirst := hports p
      rw [if_neg hp] at hfirst
      simp only [if_neg hp]
      refine ⟨⟨?_, fun q => ?_⟩, rfl⟩
      · funext q
        by_cases hq : q = p
        · subst hq
          simp [afterInit, hport]
        · simp [afterInit, hport, hq, Ne.symm hq]
      · by_cases hq : q = p
        · subst hq
          rw [if_pos (by simp [afterInit, hport]), hfirst.1]
          show Driven _ _ ((s.setUart q _).uart q)
          rw [s.setUart_self, hfirst.2]
          exact driven_init _
        · have hon : afterInit s.initialized port q = s.initialized q := by
            simp [afterInit, hport, Ne.symm hq]
          have hother := hports q
          rw [← s.setUart_of_ne hq] at hother
          rw [hon]
          exact hother

theorem holds_write (h : Holds uart on outs s) (port : UInt16) (data : Option Bytes) :
    Holds uart on (fun p => outs p ++ (SerialCall.write port data).payload on p)
        (serialWrite s port data).2 ∧
      SerialResult.written (serialWrite s port data).1 = (SerialCall.write port data).result on := by
  obtain ⟨rfl, hports⟩ := h
  rw [serialWrite_eq]
  by_cases hon : ∃ p, portIndex port = some p ∧ s.initialized p = true
  · obtain ⟨p, hport, hp⟩ := hon
    have hdriven := hports p
    rw [if_pos hp] at hdriven
    obtain ⟨hcount, u, hs, hu⟩ := serialWriteLoop_driven hport (data.getD []) 0 hp hdriven
    refine ⟨?_, ?_⟩
    · rw [hs]
      refine ⟨rfl, fun q => ?_⟩
      by_cases hq : q = p
      · subst hq
        have hpayload : (SerialCall.write port data).payload s.initialized q = data.getD [] :=
          if_pos ⟨hp, hport⟩
        simp only [hpayload, s.setUart_self]
        rw [if_pos hp]
        exact hu
      · have hpayload : (SerialCall.write port data).payload s.initialized q = [] :=
          if_neg (by rw [hport]; exact fun h => hq (Option.some.inj h.2).symm)
        simp only [hpayload, List.append_nil, s.setUart_of_ne hq]
        exact hports q
    · rw [hcount, Nat.zero_add]
      simp only [SerialCall.result, hport, if_pos hp]
  · have hoff : ∀ p, portIndex port = some p → s.initialized p = false := by
      intro p hport
      by_contra hp
      exact hon ⟨p, hport, by simpa using hp⟩
    rw [serialWriteLoop_off hoff]
    refine ⟨⟨rfl, fun q => ?_⟩, ?_⟩
    · have hpayload : (SerialCall.write port data).payload s.initialized q = [] :=
        if_neg fun h => hon ⟨q, h.2, h.1⟩
      simp only [hpayload, List.append_nil]
      exact hports q
    · cases hport : portIndex port with
      | none => simp only [SerialCall.result, hport]
      | some p =>
        simp only [SerialCall.result, hport, hoff p hport]
        rfl

/-- One call. -/
theorem serialCall_holds (h : Holds uart on outs s) (c : SerialCall) :
    Holds uart (c.next on) (fun p => outs p ++ c.payload on p) (serialCall s c).2 ∧
      (serialCall s c).1 = c.result on := by
  cases c with
  | init port =>
    obtain ⟨hs, hresult⟩ := holds_init h port
    refine ⟨?_, congrArg SerialResult.initialized hresult⟩
    show Holds uart (afterInit on port) (fun p => outs p ++ []) (serialInit s port).2
    simpa only [List.append_nil] using hs
  | write port data => exact holds_write h port data

/-- **What a list of calls sends.** -/
theorem serialCalls_holds :
    ∀ (cs : List SerialCall) {on : ComPort → Bool} {outs : ComPort → Bytes} {s : Serial},
      Holds uart on outs s →
        Holds uart (serialReady on cs) (fun p => outs p ++ serialPayload p on cs)
            (serialCalls s cs).2 ∧
          (serialCalls s cs).1 = serialResults on cs := by
  intro cs
  induction cs with
  | nil =>
    intro on outs s h
    refine ⟨?_, rfl⟩
    show Holds uart on (fun p => outs p ++ []) s
    simpa only [List.append_nil] using h
  | cons c cs ih =>
    intro on outs s h
    obtain ⟨hcall, hresult⟩ := serialCall_holds h c
    obtain ⟨hrest, hresults⟩ := ih hcall
    refine ⟨?_, congrArg₂ List.cons hresult hresults⟩
    simp only [List.append_assoc] at hrest
    exact hrest

/-- A UART after a list of calls, the first ones of all. -/
def uartAfter (uart : ComPort → Uart) (cs : List SerialCall) : ComPort → Uart :=
  (serialCalls (Serial.boot uart) cs).2.uart

theorem Driven.divisor_iff (h : Driven u₀ out u) : u.divisor = 3 ↔ u₀.dlm = 0 := by
  have hdll : u.dll.toNat = 3 := by
    rw [h.dll]
    rfl
  unfold Uart.divisor
  rw [hdll, h.dlm, ← UInt8.toNat_inj]
  show _ ↔ _ = 0
  omega

/--
**Every byte that is written to a port after its `serial_init` is sent, once and in order, and nothing
else; a port without `serial_init` stays as it is.**

At most the last byte is still in the FIFO. The speed is right iff the upper half of the divisor was 0
from the start, as `serial_init` writes both halves to the lower one.
-/
theorem serial_session (uart : ComPort → Uart) (cs : List SerialCall) :
    (serialCalls (Serial.boot uart) cs).1 = serialResults (fun _ => false) cs ∧
      ∀ p, if serialReady (fun _ => false) cs p then
          (uartAfter uart cs p).sent ++ (uartAfter uart cs p).waiting =
              (uart p).sent ++ serialPayload p (fun _ => false) cs ∧
            (uartAfter uart cs p).waiting.length ≤ 1 ∧
            (uartAfter uart cs p).lcr = 0x03 ∧ (uartAfter uart cs p).mcr = 0x0B ∧
            ((uartAfter uart cs p).divisor = 3 ↔ (uart p).dlm = 0)
        else uartAfter uart cs p = uart p := by
  have hboot : Holds uart (fun _ => false) (fun _ => []) (Serial.boot uart) :=
    ⟨rfl, fun _ => ⟨rfl, rfl⟩⟩
  obtain ⟨⟨-, hports⟩, hresults⟩ := serialCalls_holds cs hboot
  refine ⟨hresults, fun p => ?_⟩
  have hport := hports p
  by_cases hready : serialReady (fun _ => false) cs p = true
  · rw [if_pos hready] at hport ⊢
    exact ⟨hport.bytes, hport.room, hport.lcr, hport.mcr, hport.divisor_iff⟩
  · rw [if_neg hready] at hport ⊢
    exact hport.2

end MayaOs.Drivers
