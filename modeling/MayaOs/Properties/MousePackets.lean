import MayaOs.Drivers.Mouse

/-!
# The packets of the mouse

* `mouseStates_eq` — the handler groups the bytes into packets, and skips first bytes without bit 3
* `mouseMovement_eq` — the sign bits of a packet have no effect
* `mouse_packets_iff` — when the positions are those that the packets tell
* `mouse_packets_fast` — a fast movement
-/

namespace MayaOs.Drivers

/-! ## Grouping -/

structure MousePacket where
  first : UInt8
  second : UInt8
  third : UInt8
  deriving Repr, DecidableEq

/-- The packets in a stream of bytes: three bytes each, a first byte without bit 3 is skipped. -/
def packets : List UInt8 → List MousePacket
  | [] => []
  | first :: rest =>
    if first &&& 0x08 = 0 then packets rest
    else
      match rest with
      | second :: third :: rest => ⟨first, second, third⟩ :: packets rest
      | _ => []
termination_by bytes => bytes.length

/-- The bytes that come with status bit 0x20. -/
def delivered (is : List MouseInterrupt) : List UInt8 :=
  (is.filter fun i => i.status &&& 0x20 != 0).map MouseInterrupt.data

/-- The states that a list of packets leads through. -/
def statesAfter (step : MouseState → MousePacket → MouseState) :
    MouseState → List MousePacket → List MouseState
  | _, [] => []
  | s, p :: ps => step s p :: statesAfter step (step s p) ps

def codeStep (s : MouseState) (p : MousePacket) : MouseState :=
  mouseUpdate s p.first p.second p.third

/-- The packets that bytes make after the first `cycle` bytes of a packet. -/
def packetsFrom (cycle : Nat) (byte0 byte1 : UInt8) (bytes : List UInt8) : List MousePacket :=
  match cycle with
  | 0 => packets bytes
  | 1 =>
    match bytes with
    | second :: third :: rest => ⟨byte0, second, third⟩ :: packets rest
    | _ => []
  | _ =>
    match bytes with
    | third :: rest => ⟨byte0, byte1, third⟩ :: packets rest
    | [] => []

theorem packets_nil : packets [] = [] := by rw [packets.eq_def]

theorem packets_skip {first : UInt8} (h : first &&& 0x08 = 0) (rest : List UInt8) :
    packets (first :: rest) = packets rest := by
  rw [packets.eq_def]
  exact if_pos h

theorem packets_first {first : UInt8} (h : first &&& 0x08 ≠ 0) (byte1 : UInt8) (rest : List UInt8) :
    packets (first :: rest) = packetsFrom 1 first byte1 rest := by
  rw [packets.eq_def]
  exact if_neg h

theorem packetsFrom_second (byte0 byte1 second : UInt8) (rest : List UInt8) :
    packetsFrom 1 byte0 byte1 (second :: rest) = packetsFrom 2 byte0 second rest := by
  cases rest <;> rfl

theorem delivered_cons (i : MouseInterrupt) (is : List MouseInterrupt) :
    delivered (i :: is) =
      if i.status &&& 0x20 = 0 then delivered is else i.data :: delivered is := by
  unfold delivered
  by_cases h : i.status &&& 0x20 = 0
  · rw [List.filter_cons_of_neg (by rw [h]; decide), if_pos h]
  · rw [List.filter_cons_of_pos (by simpa using h), if_neg h, List.map_cons]

/-- **The handler groups the bytes.** -/
theorem mouseStates_eq : ∀ (is : List MouseInterrupt) (d : MouseDriver), d.cycle ≤ 2 →
    mouseStates d is =
      statesAfter codeStep d.state (packetsFrom d.cycle d.byte0 d.byte1 (delivered is)) := by
  intro is
  induction is with
  | nil =>
    rintro ⟨state, cycle, byte0, byte1, byte2⟩ hd
    obtain rfl | rfl | rfl : cycle = 0 ∨ cycle = 1 ∨ cycle = 2 := by
      change cycle ≤ 2 at hd
      omega
    · show [] = statesAfter codeStep state (packets [])
      rw [packets_nil]
      rfl
    · rfl
    · rfl
  | cons i is ih =>
    rintro ⟨state, cycle, byte0, byte1, byte2⟩ hd
    rw [mouseStates, delivered_cons]
    unfold mouseHandler
    by_cases hstatus : i.status &&& 0x20 = 0
    · rw [if_pos hstatus, if_pos hstatus]
      exact ih _ hd
    · rw [if_neg hstatus, if_neg hstatus]
      obtain rfl | rfl | rfl : cycle = 0 ∨ cycle = 1 ∨ cycle = 2 := by
        change cycle ≤ 2 at hd
        omega
      · dsimp only
        by_cases hfirst : i.data &&& 0x08 = 0
        · rw [if_pos hfirst]
          show mouseStates _ is = statesAfter codeStep state (packets (i.data :: delivered is))
          rw [packets_skip hfirst]
          exact ih _ (Nat.zero_le _)
        · rw [if_neg hfirst]
          show mouseStates _ is = statesAfter codeStep state (packets (i.data :: delivered is))
          rw [packets_first hfirst byte1]
          exact ih _ (by show 1 ≤ 2; decide)
      · show mouseStates _ is = statesAfter codeStep state
          (packetsFrom 1 byte0 byte1 (i.data :: delivered is))
        rw [packetsFrom_second]
        exact ih _ (by show 2 ≤ 2; decide)
      · show _ :: mouseStates _ is = _ :: statesAfter codeStep _ (packets (delivered is))
        rw [ih _ (Nat.zero_le _)]
        rfl

/-! ## Movements -/

theorem toUInt8_toUInt32_toInt32 (b : Int8) : b.toInt32.toUInt32.toUInt8 = b.toUInt8 := by
  rw [← UInt8.toBitVec_inj, UInt32.toBitVec_toUInt8, Int32.toBitVec_toUInt32,
    Int8.toBitVec_toInt32, Int8.toBitVec_toUInt8]
  ext i hi
  rw [BitVec.getElem_setWidth, BitVec.getLsbD_signExtend]
  simp [hi]
  omega

/-- **Setting the upper 24 bits of a byte has no effect.** -/
theorem mouseMovement_eq (negative : Bool) (byte : UInt8) :
    mouseMovement negative byte = byte.toInt8 := by
  cases negative with
  | false => rfl
  | true =>
    have hzero : (0xFFFFFF00 : UInt32).toUInt8 = 0 := by decide
    unfold mouseMovement
    dsimp only
    rw [if_pos rfl, UInt32.toUInt8_or, toUInt8_toUInt32_toInt32, UInt8.toUInt8_toInt8, hzero,
      UInt8.or_zero]

theorem toInt_toInt8 (byte : UInt8) :
    byte.toInt8.toInt = if byte.toNat < 128 then (byte.toNat : Int) else byte.toNat - 256 := by
  show byte.toBitVec.toInt = _
  rw [BitVec.toInt_eq_toNat_cond, UInt8.toNat_toBitVec]
  split <;> split <;> omega

/-- Nine bits in two's complement. -/
def nineBits (negative : Bool) (byte : UInt8) : Int :=
  if negative then byte.toNat - 256 else byte.toNat

def clamp (top v : Int) : Int := max 0 (min top v)

/-- The state after a packet, with movements of nine bits. -/
def packetStep (s : MouseState) (p : MousePacket) : MouseState where
  x := clamp (screenWidth - 1) (s.x + nineBits (p.first &&& 0x10 != 0) p.second)
  y := clamp (screenHeight - 1) (s.y - nineBits (p.first &&& 0x20 != 0) p.third)
  buttons := p.first &&& 0x07

/-- The position is on the screen. -/
structure OnScreen (s : MouseState) : Prop where
  x_nonneg : 0 ≤ s.x
  x_lt : s.x < screenWidth
  y_nonneg : 0 ≤ s.y
  y_lt : s.y < screenHeight

/-- The sign bits are those of the bytes; or the movement is -256, on the left edge of the screen or on
its lower edge, out of the screen. -/
def PacketFits (s : MouseState) (p : MousePacket) : Prop :=
  ((p.first &&& 0x10 != 0) = decide (128 ≤ p.second.toNat) ∨ p.second = 0 ∧ s.x = 0) ∧
    ((p.first &&& 0x20 != 0) = decide (128 ≤ p.third.toNat) ∨
      p.third = 0 ∧ s.y = screenHeight - 1)

instance (s : MouseState) (p : MousePacket) : Decidable (PacketFits s p) :=
  inferInstanceAs (Decidable (_ ∧ _))

/-! ## One packet -/

/-- A movement of eight bits and one of nine lead to the same place. -/
theorem clamp_add_iff {top x : Int} (htop : 0 < top) (h0 : 0 ≤ x) (hle : x ≤ top) (negative : Bool)
    (byte : UInt8) :
    clamp top (x + byte.toInt8.toInt) = clamp top (x + nineBits negative byte) ↔
      negative = decide (128 ≤ byte.toNat) ∨ byte = 0 ∧ x = 0 := by
  have hbyte := byte.toNat_lt
  rw [toInt_toInt8, ← UInt8.toNat_inj, UInt8.toNat_zero]
  unfold clamp nineBits
  by_cases hsign : byte.toNat < 128
  · rw [if_pos hsign, decide_eq_false (Nat.not_le_of_lt hsign)]
    cases negative
    · simp
    · simp only [if_true, Bool.true_eq_false, false_or]
      omega
  · rw [if_neg hsign, decide_eq_true (Nat.le_of_not_lt hsign)]
    cases negative
    · simp only [Bool.false_eq_true, if_false, false_or]
      omega
    · simp

/-- The axis turned round. -/
theorem clamp_sub {top : Int} (htop : 0 < top) (y m : Int) :
    clamp top (y - m) = top - clamp top (top - y + m) := by
  unfold clamp
  omega

theorem clamp_sub_iff {top y : Int} (htop : 0 < top) (h0 : 0 ≤ y) (hle : y ≤ top) (negative : Bool)
    (byte : UInt8) :
    clamp top (y - byte.toInt8.toInt) = clamp top (y - nineBits negative byte) ↔
      negative = decide (128 ≤ byte.toNat) ∨ byte = 0 ∧ y = top := by
  have hedge : top - y = 0 ↔ y = top := by omega
  have hturn : ∀ a b : Int, top - a = top - b ↔ a = b := by omega
  rw [clamp_sub htop, clamp_sub htop, hturn,
    clamp_add_iff htop (by omega) (by omega) negative byte, hedge]

/-- The state after a packet, with movements of eight bits. -/
theorem codeStep_eq (s : MouseState) (p : MousePacket) : codeStep s p =
    { x := clamp (screenWidth - 1) (s.x + p.second.toInt8.toInt)
      y := clamp (screenHeight - 1) (s.y - p.third.toInt8.toInt)
      buttons := p.first &&& 0x07 } := by
  have hclamp : ∀ size v : Int, 0 < size →
      (if size ≤ (if v < 0 then 0 else v) then size - 1 else (if v < 0 then 0 else v)) =
        clamp (size - 1) v := by
    intro size v hsize
    unfold clamp
    split <;> split <;> omega
  unfold codeStep mouseUpdate
  dsimp only
  rw [mouseMovement_eq, mouseMovement_eq, hclamp screenWidth _ (by decide),
    hclamp screenHeight _ (by decide)]

/-- **When a packet moves the mouse as it should.** -/
theorem codeStep_eq_iff {s : MouseState} (h : OnScreen s) (p : MousePacket) :
    codeStep s p = packetStep s p ↔ PacketFits s p := by
  rw [codeStep_eq, packetStep, MouseState.mk.injEq,
    clamp_add_iff (by decide) h.x_nonneg (Int.le_sub_one_of_lt h.x_lt),
    clamp_sub_iff (by decide) h.y_nonneg (Int.le_sub_one_of_lt h.y_lt)]
  exact and_congr_right fun _ => and_iff_left rfl

theorem onScreen_packetStep (s : MouseState) (p : MousePacket) : OnScreen (packetStep s p) := by
  have hclamp : ∀ size v : Int, 0 < size → 0 ≤ clamp (size - 1) v ∧ clamp (size - 1) v < size := by
    intro size v hsize
    unfold clamp
    omega
  obtain ⟨hx, hx'⟩ := hclamp screenWidth (s.x + nineBits (p.first &&& 0x10 != 0) p.second) (by decide)
  obtain ⟨hy, hy'⟩ := hclamp screenHeight (s.y - nineBits (p.first &&& 0x20 != 0) p.third) (by decide)
  exact ⟨hx, hx', hy, hy'⟩

/-! ## Streams -/

/-- Every packet fits the state before it. -/
def PacketsFit : MouseState → List MousePacket → Prop
  | _, [] => True
  | s, p :: ps => PacketFits s p ∧ PacketsFit (packetStep s p) ps

theorem statesAfter_eq_iff : ∀ (ps : List MousePacket) {s : MouseState}, OnScreen s →
    (statesAfter codeStep s ps = statesAfter packetStep s ps ↔ PacketsFit s ps) := by
  intro ps
  induction ps with
  | nil => intro s _; exact iff_of_true rfl trivial
  | cons p ps ih =>
    intro s hs
    rw [statesAfter, statesAfter, PacketsFit, List.cons.injEq, codeStep_eq_iff hs]
    refine and_congr_right fun hfits => ?_
    rw [(codeStep_eq_iff hs p).mpr hfits]
    exact ih (onScreen_packetStep s p)

/--
**After `mouse_init` the states are those that the packets tell iff the ninth bit of every movement is
the sign of its byte.**

The packets are those of the bytes that come with status bit 0x20. The one exception is a movement of
-256 at an edge of the screen that it does not leave.
-/
theorem mouse_packets_iff (is : List MouseInterrupt) :
    mouseStates mouseInit is = statesAfter packetStep mouseInit.state (packets (delivered is)) ↔
      PacketsFit mouseInit.state (packets (delivered is)) := by
  rw [mouseStates_eq is mouseInit (by decide)]
  exact statesAfter_eq_iff _ ⟨by decide, by decide, by decide, by decide⟩

/-- A movement by 130 to the right is taken for one by 126 to the left. -/
theorem mouse_packets_fast :
    let is : List MouseInterrupt := [⟨0x20, 0x08⟩, ⟨0x20, 130⟩, ⟨0x20, 0⟩]
    mouseStates mouseInit is = [⟨34, 100, 0⟩] ∧
      statesAfter packetStep mouseInit.state (packets (delivered is)) = [⟨290, 100, 0⟩] ∧
      mouseStates mouseInit is ≠
        statesAfter packetStep mouseInit.state (packets (delivered is)) := by
  intro is
  have hcode : mouseStates mouseInit is = [⟨34, 100, 0⟩] := by decide
  have hpackets : statesAfter packetStep mouseInit.state (packets (delivered is)) =
      [⟨290, 100, 0⟩] := by
    rw [show delivered is = [0x08, 130, 0] by decide, packets_first (by decide) 0]
    show statesAfter packetStep mouseInit.state (⟨0x08, 130, 0⟩ :: packets []) = _
    rw [packets_nil]
    decide
  exact ⟨hcode, hpackets, by rw [hcode, hpackets]; decide⟩

end MayaOs.Drivers
