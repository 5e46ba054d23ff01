import MayaOs.Net.Host

/-!
# Ethernet (`net/ethernet.c`)

* `ethernetSendFrame_cases` — a frame is sent as `etherFrame`, or not at all
* `ethernetHandleFrame_etherFrame` — what the receiver makes of such a frame
-/

namespace MayaOs.Net

open MayaOs.Lib

def ethernetHeaderSize : Nat := 14

def ethernetMinFrameSize : Nat := 60

def ethernetMaxFrameSize : Nat := 1514

/-- `ethernet_header_t`; the type is converted to network byte order. -/
def ethernetHeader (destMac srcMac : Mac) (type : UInt16) : Bytes :=
  destMac.bytes ++ srcMac.bytes ++ le16 (swap16 type)

@[simp] theorem length_ethernetHeader (destMac srcMac : Mac) (type : UInt16) :
    (ethernetHeader destMac srcMac type).length = 14 := rfl

/-- `none` stands for a NULL pointer. -/
def ethernetSendFrame (h : Host) (destMac : Option Mac) (type : UInt16) (data : Option Bytes) :
    Except Fault (Bool × Host) :=
  match destMac, data with
  | some destMac, some data =>
    if h.ethernet.initialized = false ∨ data.length = 0 then .ok (false, h)
    else
      let frameSize := max ethernetMinFrameSize (wrap32 (ethernetHeaderSize + data.length))
      if ethernetMaxFrameSize < frameSize then .ok (false, h)
      else
        match kmalloc h frameSize with
        | (none, h) => .ok (false, h)
        | (some frame, h) => do
          let frame ← write frame 0 (ethernetHeader destMac h.ethernet.macAddress type)
          let frame ← write frame ethernetHeaderSize data
          -- "Pad if necessary"
          let used := wrap32 (ethernetHeaderSize + data.length)
          let frame ← write frame used (List.replicate (frameSize - used) 0)
          return nicSendPacket h frame
  | _, _ => .ok (false, h)

def readMac (b : Bytes) (i : Nat) : Except Fault Mac := do
  let b0 ← read8 b i
  let b1 ← read8 b (i + 1)
  let b2 ← read8 b (i + 2)
  let b3 ← read8 b (i + 3)
  let b4 ← read8 b (i + 4)
  let b5 ← read8 b (i + 5)
  return ⟨b0, b1, b2, b3, b4, b5⟩

/-- The arguments of a call of the receive callback. -/
structure EthernetRx where
  callback : EthernetCallback
  srcMac : Mac
  type : UInt16
  data : Bytes

def ethernetHandleFrame (s : EthernetState) (frame : Option Bytes) :
    Except Fault (Option EthernetRx) :=
  match frame with
  | none => .ok none
  | some frame =>
    if s.initialized = false ∨ frame.length < ethernetHeaderSize ∨
        ethernetMaxFrameSize < frame.length then .ok none
    else do
      let destMac ← readMac frame 0
      -- "Check if frame is for us (unicast or broadcast)"
      if destMac ≠ Mac.broadcast ∧ destMac ≠ s.macAddress then return none
      else
        let srcMac ← readMac frame 6
        let type ← read16 frame 12
        match s.rxCallback with
        | none => return none
        | some callback =>
          return some
            { callback := callback, srcMac := srcMac, type := swap16 type
              data := frame.drop ethernetHeaderSize }

/-! ## Sending -/

/-- A padded frame. -/
def etherFrame (destMac srcMac : Mac) (type : UInt16) (data : Bytes) : Bytes :=
  ethernetHeader destMac srcMac type ++ data ++ List.replicate (46 - data.length) 0

/-- `h'` is `h` after these frames have been sent; identification numbers and memory were used. -/
def SendsTo (h h' : Host) (frames : List Bytes) : Prop :=
  ∃ rest id, h' = { h with
    allocs := rest
    nic := { h.nic with sent := h.nic.sent ++ frames }
    ip := { h.ip with idCounter := id } }

theorem SendsTo.refl (h : Host) (rest : List (Option (Nat → UInt8))) :
    SendsTo h { h with allocs := rest } [] :=
  ⟨rest, h.ip.idCounter, by rw [List.append_nil]⟩

theorem SendsTo.trans {h₁ h₂ h₃ : Host} {frames frames' : List Bytes} (h : SendsTo h₁ h₂ frames)
    (h' : SendsTo h₂ h₃ frames') : SendsTo h₁ h₃ (frames ++ frames') := by
  obtain ⟨rest, id, rfl⟩ := h
  obtain ⟨rest', id', rfl⟩ := h'
  exact ⟨rest', id', by rw [← List.append_assoc]⟩

theorem SendsTo.ethernet {h h' : Host} {frames : List Bytes} (hs : SendsTo h h' frames) :
    h'.ethernet = h.ethernet := by
  obtain ⟨rest, id, rfl⟩ := hs
  rfl

theorem SendsTo.tcp {h h' : Host} {frames : List Bytes} (hs : SendsTo h h' frames) :
    h'.tcp = h.tcp := by
  obtain ⟨rest, id, rfl⟩ := hs
  rfl

/-- The frames sent meanwhile. -/
theorem SendsTo.drop_sent {h h' : Host} {frames : List Bytes} (hs : SendsTo h h' frames) :
    h'.nic.sent.drop h.nic.sent.length = frames := by
  obtain ⟨rest, id, rfl⟩ := hs
  exact List.drop_left

/-- The identification number does not matter. -/
theorem SendsTo.setId {h h' : Host} {frames : List Bytes} (hs : SendsTo h h' frames) (id : UInt16) :
    SendsTo h { h' with ip := { h'.ip with idCounter := id } } frames := by
  obtain ⟨rest, id', rfl⟩ := hs
  exact ⟨rest, id, rfl⟩

/-- Filling a new block with the parts of a frame. -/
theorem write_frame (block header data : Bytes) (pad : Nat) (hheader : header.length = 14)
    (hblock : block.length = 14 + data.length + pad) :
    ∃ f₁ f₂, write block 0 header = .ok f₁ ∧ write f₁ ethernetHeaderSize data = .ok f₂ ∧
      write f₂ (14 + data.length) (List.replicate pad 0)
        = .ok (header ++ data ++ List.replicate pad 0) := by
  refine ⟨header ++ block.drop 14, header ++ data ++ (block.drop 14).drop data.length, ?_, ?_, ?_⟩
  · rw [← hheader]
    exact write_append (a := []) rfl (by omega)
  · exact write_append hheader.symm (by rw [List.length_drop]; omega)
  · refine write_append_end (by rw [List.length_append, hheader]) ?_
    rw [List.length_replicate, List.length_drop, List.length_drop]
    omega

/-- **`ethernet_send_frame` sends the padded frame, or nothing.** -/
theorem ethernetSendFrame_cases (h : Host) (destMac : Mac) (type : UInt16) (data : Bytes)
    (hlen : data.length + 14 < 2 ^ 32) :
    ∃ ok h' frames, ethernetSendFrame h (some destMac) type (some data) = .ok (ok, h') ∧
      SendsTo h h' frames ∧
      (ok = false ∧ frames = [] ∨ ok = true ∧ 0 < data.length ∧ data.length ≤ 1500 ∧
        frames = [etherFrame destMac h.ethernet.macAddress type data]) := by
  -- every early return
  have hnone : ∀ rest, ∃ ok h' frames, (Except.ok (false, { h with allocs := rest })
      : Except Fault (Bool × Host)) = .ok (ok, h') ∧ SendsTo h h' frames ∧
      (ok = false ∧ frames = [] ∨ ok = true ∧ 0 < data.length ∧ data.length ≤ 1500 ∧
        frames = [etherFrame destMac h.ethernet.macAddress type data]) :=
    fun rest => ⟨false, _, [], rfl, SendsTo.refl h rest, Or.inl ⟨rfl, rfl⟩⟩
  have hwrap : wrap32 (ethernetHeaderSize + data.length) = 14 + data.length :=
    wrap32_eq_self (by unfold ethernetHeaderSize; omega)
  unfold ethernetSendFrame
  simp only [hwrap, ethernetMinFrameSize, ethernetMaxFrameSize]
  by_cases hg : h.ethernet.initialized = false ∨ data.length = 0
  · rw [if_pos hg]
    exact hnone h.allocs
  · rw [if_neg hg]
    simp only [not_or] at hg
    by_cases hsize : 1514 < max 60 (14 + data.length)
    · rw [if_pos hsize]
      exact hnone h.allocs
    · rw [if_neg hsize]
      obtain ⟨rest, hk | ⟨block, hblock, hk⟩⟩ := kmalloc_cases h (max 60 (14 + data.length))
      · rw [hk]
        exact hnone rest
      · rw [hk]
        have hpad : max 60 (14 + data.length) - (14 + data.length) = 46 - data.length := by omega
        obtain ⟨f₁, f₂, hf₁, hf₂, hf₃⟩ :=
          write_frame block (ethernetHeader destMac h.ethernet.macAddress type) data
            (46 - data.length) rfl (by omega)
        simp only [hpad, hf₁, hf₂, hf₃, ok_bind, pure, Except.pure, nicSendPacket]
        by_cases hinit : h.nic.initialized = false
        · rw [if_pos hinit]
          exact hnone rest
        · rw [if_neg hinit]
          by_cases hcard : h.nic.isRtl8139 = true
          · rw [if_pos hcard]
            exact ⟨true, _, _, rfl, ⟨rest, h.ip.idCounter, rfl⟩,
              Or.inr ⟨rfl, by omega, by omega, rfl⟩⟩
          · rw [if_neg hcard]
            exact hnone rest

/-! ## Receiving -/

/-- **What the receiver makes of a frame that was sent with `ethernet_send_frame`.** -/
theorem ethernetHandleFrame_etherFrame {s : EthernetState} (hinit : s.initialized = true)
    {callback : EthernetCallback} (hcallback : s.rxCallback = some callback) {destMac : Mac}
    (hdest : destMac = s.macAddress ∨ destMac = Mac.broadcast) (srcMac : Mac) (type : UInt16)
    (data : Bytes) (hlen : data.length ≤ 1500) :
    ethernetHandleFrame s (some (etherFrame destMac srcMac type data)) =
      .ok (some
        { callback := callback, srcMac := srcMac, type := type
          data := data ++ List.replicate (46 - data.length) 0 }) := by
  have hlength : (etherFrame destMac srcMac type data).length = max 60 (14 + data.length) := by
    simp only [etherFrame, List.length_append, length_ethernetHeader, List.length_replicate]
    omega
  have hdestRead : readMac (etherFrame destMac srcMac type data) 0 = .ok destMac := rfl
  have hsrcRead : readMac (etherFrame destMac srcMac type data) 6 = .ok srcMac := rfl
  have htypeRead : read16 (etherFrame destMac srcMac type data) 12 = .ok (swap16 type) := by
    show Except.ok (u16 _ _) = _
    rw [u16_le16]
  have hdrop : (etherFrame destMac srcMac type data).drop ethernetHeaderSize
      = data ++ List.replicate (46 - data.length) 0 := rfl
  unfold ethernetHandleFrame
  simp only [hlength, ethernetHeaderSize, ethernetMaxFrameSize] at hdrop ⊢
  rw [if_neg (by simp only [hinit, Bool.true_eq_false, false_or]; omega)]
  simp only [hdestRead, hsrcRead, htypeRead, hdrop, hcallback, ok_bind, pure, Except.pure,
    swap16_swap16]
  rw [if_neg]
  rintro ⟨hb, hm⟩
  rcases hdest with hd | hd
  · exact hm hd
  · exact hb hd

end MayaOs.Net
