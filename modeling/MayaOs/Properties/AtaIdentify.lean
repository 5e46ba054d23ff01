import MayaOs.Properties.AtaAddress

/-!
# Identifying a drive

IDENTIFY returns 512 bytes, and `ata_identify_t` has 242. `ata_init` stores all of them.

* `ataReadWords_short` — when there is no room for the words
* `ataIdentifyDrive_missing`, `ataIdentifyDrive_present` — the drive
* `ata_init_footprint` — what is written, and the size that `ata_get_size` gives then
-/

namespace MayaOs.Drivers

open MayaOs.Lib

/-! ## Words without room -/

/-- The words that fit are stored before. -/
theorem ataReadWords_short (n : Nat) : ∀ (c : AtaChannel) (b : Bytes) (offset : Nat),
    offset ≤ b.length → b.length < offset + 2 * n →
      ataReadWords n c b offset = .error (.fault (.outOfBounds b.length)) := by
  induction n with
  | zero => intro c b offset _ _; omega
  | succ n ih =>
    intro c b offset _ hshort
    have hword : (le16 c.inw.1).length = 2 := length_le16 _
    by_cases hroom : offset + 2 ≤ b.length
    · obtain ⟨b', hwrite, hlen⟩ := write_ok b offset (le16 c.inw.1) (by omega)
      rw [ataReadWords, hwrite]
      show ataReadWords n c.inw.2 b' (offset + 2) = _
      rw [ih c.inw.2 b' (offset + 2) (by omega) (by omega), hlen]
    · rw [ataReadWords, write_error (by omega)]
      rfl

/-! ## Waiting -/

namespace AtaBus

variable {b : AtaBus}

/-- The channel with the status read until it is not busy. -/
def ready (b : AtaBus) : AtaBus := { b with channel := { b.channel with busy := 0 } }

theorem waitBsy_missing (h : b.identify b.channel.slave = none) : b.waitBsy = b.polled := by
  have hstatus : b.status = 0 := by
    unfold status
    rw [h]
  rw [waitBsy, dif_neg (by rw [hstatus]; decide)]

theorem status_present {data : Bytes} (h : b.identify b.channel.slave = some data) :
    b.status = b.channel.status := by
  unfold status
  rw [h]

theorem waitBsy_present {data : Bytes} (h : b.identify b.channel.slave = some data) :
    b.waitBsy = b.ready := by
  induction b using waitBsy.induct with
  | case1 b hstatus ih =>
    rw [waitBsy, dif_pos hstatus, ih h]
    rfl
  | case2 b hstatus =>
    have hbusy : b.channel.busy = 0 := by
      by_contra hne
      rw [status_present h] at hstatus
      exact hstatus (AtaChannel.status_busy hne)
    rw [waitBsy, dif_neg hstatus]
    unfold polled ready AtaChannel.polled
    rw [hbusy]

/-- The registers, the drives and what they do stay as they are. -/
theorem waitBsy_cases (b : AtaBus) :
    ∃ busy, b.waitBsy = { b with channel := { b.channel with busy } } := by
  cases h : b.identify b.channel.slave with
  | none => exact ⟨_, waitBsy_missing h⟩
  | some data => exact ⟨0, waitBsy_present h⟩

/-- The drive has something for the host. -/
theorem waitDrq_active {data : Bytes} (h : b.identify b.channel.slave = some data)
    (hbusy : b.channel.busy = 0) (hactive : b.channel.transfer.Active) :
    b.waitDrq = .ok b := by
  have hstatus : b.channel.status &&& ataStatusDrq ≠ 0 := by
    unfold AtaChannel.status
    rw [if_neg (not_not_intro hbusy)]
    split
    · next htransfer => rw [htransfer] at hactive; exact hactive.elim
    · next htransfer => rw [htransfer] at hactive; exact hactive.elim
    · decide
    · decide
  rw [waitDrq, status_present h, if_pos hstatus]
  unfold polled AtaChannel.polled
  rw [hbusy, Nat.zero_sub, ← hbusy]

/-- Selecting a drive. -/
def selected (b : AtaBus) (isSlave : Bool) : AtaBus :=
  b.outb .hddevsel (if isSlave then 0xB0 else 0xA0)

theorem selected_slave (b : AtaBus) (isSlave : Bool) :
    (b.selected isSlave).channel.slave = isSlave := by
  unfold selected outb
  rw [if_neg fun h => AtaRegister.noConfusion h.1]
  show ((if isSlave then 0xB0 else 0xA0 : UInt8) &&& 0x10 != 0) = isSlave
  cases isSlave <;> decide

/-- What IDENTIFY does. -/
theorem outb_identify (b : AtaBus) :
    b.outb .command ataCmdIdentify =
      match b.identify b.channel.slave with
      | none => b
      | some data => { b with channel := b.channel.offer data } :=
  if_pos ⟨rfl, rfl⟩

end AtaBus

/-! ## The drive -/

section Drive

variable {mem : Bytes} {b : AtaBus} {isSlave : Bool} {data : Bytes}

/-- `ata_identify_drive` once the command has been given. -/
theorem ataIdentifyDrive_eq {issued : AtaBus}
    (h : (b.selected isSlave).waitBsy.outb .command ataCmdIdentify = issued) :
    ataIdentifyDrive mem b isSlave =
      if issued.status = 0 then .ok (false, mem, issued.polled)
      else do
        let b ← issued.polled.waitBsy.waitDrq
        let (channel, mem) ← ataReadWords 256 b.channel mem ataIdentifyAt
        return (true, mem, { b with channel }) := by
  subst h
  rfl

theorem ataIdentifyDrive_missing (h : b.identify isSlave = none) :
    ∃ b', ataIdentifyDrive mem b isSlave = .ok (false, mem, b') := by
  have hselected : (b.selected isSlave).identify (b.selected isSlave).channel.slave = none := by
    rw [b.selected_slave]
    cases isSlave <;> exact h
  have hpolled : (b.selected isSlave).polled.identify (b.selected isSlave).polled.channel.slave =
      none := hselected
  have hstatus : (b.selected isSlave).polled.status = 0 := by
    unfold AtaBus.status
    rw [hpolled]
  have hissued : (b.selected isSlave).waitBsy.outb .command ataCmdIdentify =
      (b.selected isSlave).polled := by
    rw [AtaBus.waitBsy_missing hselected, AtaBus.outb_identify, hpolled]
  exact ⟨_, (ataIdentifyDrive_eq hissued).trans (if_pos hstatus)⟩

theorem ataIdentifyDrive_present (h : b.identify isSlave = some data) (mem : Bytes) :
    ataIdentifyDrive mem b isSlave =
      ataReadWords 256
          { (b.selected isSlave).channel with transfer := .toHost data, busy := 0 } mem
          ataIdentifyAt >>= fun (channel, mem) =>
        .ok (true, mem, { b.selected isSlave with channel }) := by
  have hlen := b.length_identify isSlave data h
  have hne : data ≠ [] := by
    rintro rfl
    cases hlen
  have hselected : (b.selected isSlave).identify (b.selected isSlave).channel.slave = some data := by
    rw [b.selected_slave]
    cases isSlave <;> exact h
  -- the bus when the command has been given
  let issued : AtaBus :=
    { b.selected isSlave with channel := (b.selected isSlave).ready.channel.offer data }
  have hissued : (b.selected isSlave).waitBsy.outb .command ataCmdIdentify = issued := by
    have hready : (b.selected isSlave).ready.identify (b.selected isSlave).ready.channel.slave =
        some data := hselected
    rw [AtaBus.waitBsy_present hselected, AtaBus.outb_identify, hready]
    rfl
  have hoffer : (b.selected isSlave).ready.channel.offer data =
      { (b.selected isSlave).channel with
        transfer := .toHost data, busy := (b.selected isSlave).channel.latency 1 } := by
    unfold AtaChannel.offer
    rw [if_neg hne, if_pos (by rw [hlen]), hlen]
    rfl
  have hpresent : issued.identify issued.channel.slave = some data := by
    show (b.selected isSlave).identify ((b.selected isSlave).ready.channel.offer data).slave = _
    rw [hoffer]
    exact hselected
  have hstatus : issued.status ≠ 0 := by
    rw [AtaBus.status_present hpresent]
    show ((b.selected isSlave).ready.channel.offer data).status ≠ 0
    rw [hoffer]
    unfold AtaChannel.status
    split
    · decide
    · show ataStatusDrdy ||| ataStatusDrq ≠ 0
      decide
  have hready : issued.polled.waitBsy.waitDrq = .ok issued.polled.ready := by
    have hpolled : issued.polled.identify issued.polled.channel.slave = some data := hpresent
    rw [AtaBus.waitBsy_present hpolled]
    refine AtaBus.waitDrq_active hpolled rfl ?_
    show ((b.selected isSlave).ready.channel.offer data).transfer.Active
    rw [hoffer]
    trivial
  have hchannel : issued.polled.ready.channel =
      { (b.selected isSlave).channel with transfer := .toHost data, busy := 0 } := by
    show { ((b.selected isSlave).ready.channel.offer data) with busy := 0 } = _
    rw [hoffer]
  rw [ataIdentifyDrive_eq hissued, if_neg hstatus, hready]
  show (ataReadWords 256 issued.polled.ready.channel mem ataIdentifyAt >>= _) = _
  rw [hchannel]
  rfl

end Drive

/-! ## Memory -/

section Memory

variable {mem : Bytes} {b : AtaBus} {isSlave : Bool} {data : Bytes}

/-- The fields before `identify`. -/
def ataHeader (isSlave : Bool) : Bytes :=
  le16 0x1F0 ++ le16 (0x1F0 + 0x206) ++ [if isSlave then 1 else 0]

theorem length_ataHeader (isSlave : Bool) : (ataHeader isSlave).length = ataIdentifyAt := rfl

/-- The bus when `ata_identify_drive` is called. -/
def AtaBus.reset (b : AtaBus) : AtaBus := ((b.outbControl 0x04).outbControl 0x00).waitBsy

theorem AtaBus.reset_cases (b : AtaBus) :
    b.reset.identify = b.identify ∧ b.reset.channel.drives = b.channel.drives := by
  obtain ⟨busy, hwait⟩ := ((b.outbControl 0x04).outbControl 0x00).waitBsy_cases
  unfold AtaBus.reset
  rw [hwait]
  exact ⟨rfl, rfl⟩

theorem ataInit_eq (hsize : ataStateSize ≤ mem.length) (hfresh : byteAt mem ataInitializedAt = 0) :
    ataInit mem b isSlave =
      ataIdentifyDrive (ataHeader isSlave ++ mem.drop ataIdentifyAt) b.reset isSlave >>=
        fun (found, mem, b) =>
          if found then do
            let mem ← (write mem ataInitializedAt [1]).mapError .fault
            return (true, mem, b)
          else return (false, mem, b) := by
  have hlong : 248 ≤ mem.length := hsize
  have hio : write mem ataIoBaseAt (le16 0x1F0) = .ok (le16 0x1F0 ++ mem.drop 2) := by
    exact write_append (a := []) rfl (by rw [length_le16]; omega)
  have hcontrol : write (le16 0x1F0 ++ mem.drop 2) ataControlBaseAt (le16 (0x1F0 + 0x206)) =
      .ok (le16 0x1F0 ++ le16 (0x1F0 + 0x206) ++ mem.drop 4) := by
    refine (write_append (a := le16 0x1F0) rfl ?_).trans ?_
    · rw [length_le16, List.length_drop]
      omega
    · rw [length_le16, List.drop_drop]
  have hslave : write (le16 0x1F0 ++ le16 (0x1F0 + 0x206) ++ mem.drop 4) ataIsSlaveAt
      [if isSlave then 1 else 0] = .ok (ataHeader isSlave ++ mem.drop ataIdentifyAt) := by
    refine (write_append (a := le16 0x1F0 ++ le16 (0x1F0 + 0x206)) rfl ?_).trans ?_
    · rw [List.length_singleton, List.length_drop]
      omega
    · rw [List.length_singleton, List.drop_drop]
      rfl
  have hread : read8 mem ataInitializedAt = .ok 0 := by
    rw [read8_eq (Nat.lt_of_lt_of_le (by decide) hsize), hfresh]
  unfold ataInit
  rw [hread, hio]
  show ((write _ ataControlBaseAt _).mapError AtaStop.fault >>= _) = _
  rw [hcontrol]
  show ((write _ ataIsSlaveAt _).mapError AtaStop.fault >>= _) = _
  rw [hslave]
  rfl

/-- What `ata_init` leaves behind the flag `initialized`. -/
theorem ataInit_present (hsize : 517 ≤ mem.length) (hfresh : byteAt mem ataInitializedAt = 0)
    (h : b.identify isSlave = some data) :
    ∃ b', ataInit mem b isSlave =
        .ok (true, ataHeader isSlave ++ data.take 242 ++ [1] ++ (data.drop 243 ++ mem.drop 517),
          b') ∧
      b'.channel.drives = b.channel.drives := by
  obtain ⟨hidentify, hdrives⟩ := b.reset_cases
  have hlen := b.length_identify isSlave data h
  have hwords := ataReadWords_toHost 255
    { (b.reset.selected isSlave).channel with transfer := .toHost data, busy := 0 } data []
    (ataHeader isSlave) (mem.drop ataIdentifyAt) rfl (by rw [List.append_nil]) hlen (by omega) rfl
    (by rw [List.length_drop, hlen]; show 512 ≤ mem.length - 5; omega)
  rw [hlen, List.drop_drop, length_ataHeader] at hwords
  have hmark : write (ataHeader isSlave ++ data ++ mem.drop (ataIdentifyAt + 512)) ataInitializedAt
      [1] = .ok (ataHeader isSlave ++ data.take 242 ++ [1] ++ (data.drop 243 ++ mem.drop 517)) := by
    have hsplit : ataHeader isSlave ++ data ++ mem.drop (ataIdentifyAt + 512) =
        ataHeader isSlave ++ data.take 242 ++ (data.drop 242 ++ mem.drop 517) := by
      rw [List.append_assoc, List.append_assoc, ← List.append_assoc (data.take 242),
        List.take_append_drop]
      rfl
    have hfront : ataInitializedAt = (ataHeader isSlave ++ data.take 242).length := by
      rw [List.length_append, length_ataHeader, List.length_take_of_le (by omega)]
      rfl
    have hroom : 1 ≤ (data.drop 242).length := by
      rw [List.length_drop]
      omega
    rw [hsplit, write_append hfront (by rw [List.length_append]; exact Nat.le_add_right_of_le hroom),
      List.length_singleton, List.drop_append_of_le_length hroom, List.drop_drop]
  let channel : AtaChannel :=
    { (b.reset.selected isSlave).channel with transfer := .idle, busy := 0 }
  rw [ataInit_eq (Nat.le_trans (by decide) hsize) hfresh,
    ataIdentifyDrive_present (by rw [hidentify]; exact h), hwords]
  refine ⟨{ b.reset.selected isSlave with channel }, ?_, hdrives⟩
  show ((write _ ataInitializedAt [1]).mapError AtaStop.fault >>= _) = _
  rw [hmark]
  rfl

/-- There is no room for the last words. -/
theorem ataInit_overrun (hsize : ataStateSize ≤ mem.length) (hshort : mem.length < 517)
    (hfresh : byteAt mem ataInitializedAt = 0) (h : b.identify isSlave = some data) :
    ataInit mem b isSlave = .error (.fault (.outOfBounds mem.length)) := by
  have hlong : 248 ≤ mem.length := hsize
  have hlen : (ataHeader isSlave ++ mem.drop ataIdentifyAt).length = mem.length := by
    rw [List.length_append, List.length_drop, length_ataHeader]
    show 5 + (mem.length - 5) = _
    omega
  have hwords := ataReadWords_short 256
    { (b.reset.selected isSlave).channel with transfer := .toHost data, busy := 0 }
    (ataHeader isSlave ++ mem.drop ataIdentifyAt) ataIdentifyAt (by rw [hlen]; show 5 ≤ _; omega)
    (by rw [hlen]; exact hshort)
  rw [hlen] at hwords
  rw [ataInit_eq hsize hfresh, ataIdentifyDrive_present (by rw [b.reset_cases.1]; exact h), hwords]
  rfl

/-- A word of the answer to IDENTIFY. -/
def identifyWord (data : Bytes) (i : Nat) : UInt16 := u16At data (2 * i)

/-- The state in which the answer to IDENTIFY leaves the driver. -/
def identifiedState (isSlave : Bool) (data : Bytes) : AtaPioState where
  isSlave := isSlave
  identify :=
    { capabilities := identifyWord data 80
      sectors28 := fun i => identifyWord data (93 + i)
      sectors48 := fun i => identifyWord data (117 + i) }
  initialized := true

theorem ataStateAt_identified (hlen : data.length = 512) (rest : Bytes) :
    ataStateAt (ataHeader isSlave ++ data.take 242 ++ [1] ++ rest) =
      identifiedState isSlave data := by
  have htake : (data.take 242).length = 242 := List.length_take_of_le (by omega)
  have hbyte : ∀ i < 242,
      byteAt (ataHeader isSlave ++ data.take 242 ++ [1] ++ rest) (ataIdentifyAt + i) =
        byteAt data i := by
    intro i hi
    rw [List.append_assoc, List.append_assoc, ← length_ataHeader isSlave, byteAt_append_right,
      byteAt_append_left (by omega), byteAt_take hi]
  have hword : ∀ i, i + 1 < 242 →
      u16At (ataHeader isSlave ++ data.take 242 ++ [1] ++ rest) (ataIdentifyAt + i) =
        u16At data i := by
    intro i hi
    unfold u16At
    rw [hbyte i (by omega), Nat.add_assoc, hbyte (i + 1) hi]
  have hslave : byteAt (ataHeader isSlave ++ data.take 242 ++ [1] ++ rest) ataIsSlaveAt =
      if isSlave then 1 else 0 := by
    rw [List.append_assoc, List.append_assoc, byteAt_append_left (by rw [length_ataHeader]; decide)]
    cases isSlave <;> rfl
  have hmark : byteAt (ataHeader isSlave ++ data.take 242 ++ [1] ++ rest) ataInitializedAt = 1 := by
    have hfront : ataInitializedAt = (ataHeader isSlave ++ data.take 242).length := by
      rw [List.length_append, length_ataHeader, htake]
      rfl
    rw [List.append_assoc, hfront]
    exact byteAt_middle _ _ _
  unfold ataStateAt identifiedState identifyWord
  rw [hslave, hmark, hword capabilitiesAt (by decide)]
  congr 1
  · cases isSlave <;> decide
  · congr 1
    · funext i
      rw [Nat.add_assoc, hword (sectors28At + 2 * i) (by show 186 + 2 * i.val + 1 < 242; omega)]
      exact congrArg (u16At data) (by show 186 + 2 * i.val = 2 * (93 + i.val); omega)
    · funext i
      rw [Nat.add_assoc, hword (sectors48At + 2 * i) (by show 234 + 2 * i.val + 1 < 242; omega)]
      exact congrArg (u16At data) (by show 234 + 2 * i.val = 2 * (117 + i.val); omega)

/--
**`ata_init` writes 269 bytes behind its variables**, whatever drive it finds.

They are the last words of the answer to IDENTIFY, which is stored from `identify` on; its byte 242 gives
way to the flag `initialized`. The size of the drive is made of the words 80, 93, 94 and 117 to 120.
-/
theorem ata_init_footprint (hsize : ataStateSize ≤ mem.length)
    (hfresh : byteAt mem ataInitializedAt = 0) :
    (b.identify isSlave = none → ∃ b', ataInit mem b isSlave =
      .ok (false, ataHeader isSlave ++ mem.drop ataIdentifyAt, b')) ∧
    ∀ data, b.identify isSlave = some data →
      (mem.length < ataStateSize + 269 →
        ataInit mem b isSlave = .error (.fault (.outOfBounds mem.length))) ∧
      (ataStateSize + 269 ≤ mem.length → ∃ mem' b', ataInit mem b isSlave = .ok (true, mem', b') ∧
        mem' = ataHeader isSlave ++ data.take 242 ++ [1] ++
          (data.drop 243 ++ mem.drop (ataStateSize + 269)) ∧
        mem'.drop ataStateSize = data.drop 243 ++ mem.drop (ataStateSize + 269) ∧
        ataStateAt mem' = identifiedState isSlave data ∧
        b'.channel.drives = b.channel.drives) := by
  refine ⟨fun hmissing => ?_, fun data hpresent => ⟨fun hshort => ?_, fun hlong => ?_⟩⟩
  · have hidentify : b.reset.identify isSlave = none := by
      rw [b.reset_cases.1]
      exact hmissing
    obtain ⟨b', hdrive⟩ :
        ∃ b', ataIdentifyDrive (ataHeader isSlave ++ mem.drop ataIdentifyAt) b.reset isSlave =
          .ok (false, ataHeader isSlave ++ mem.drop ataIdentifyAt, b') :=
      ataIdentifyDrive_missing hidentify
    refine ⟨b', ?_⟩
    rw [ataInit_eq hsize hfresh, hdrive]
    rfl
  · exact ataInit_overrun hsize hshort hfresh hpresent
  · have hlen := b.length_identify isSlave data hpresent
    obtain ⟨b', hinit, hdrives⟩ := ataInit_present hlong hfresh hpresent
    refine ⟨_, b', hinit, rfl, ?_, ataStateAt_identified hlen _, hdrives⟩
    have hstate : (ataHeader isSlave ++ data.take 242 ++ [1]).length = ataStateSize := by
      rw [List.length_append, List.length_append, length_ataHeader, List.length_take_of_le (by omega)]
      rfl
    exact List.drop_left' hstate

end Memory

/-- The answer of a drive with 2²⁰ sectors, which are in words 60 and 61. -/
def identifySmall : Bytes :=
  (List.range 256).flatMap fun i =>
    le16 (if i = 49 then 0x200 else if i = 61 then 0x10 else if i = 255 then 0xA5 else 0)

/-- A master, and no slave. -/
def ataMaster : AtaBus where
  channel := ataBlank
  identify := fun slave => if slave then none else some identifySmall
  length_identify := by
    intro slave data h
    cases slave with
    | true => cases h
    | false =>
      cases h
      decide +kernel
  resetBusy := 3

theorem ata_init_footprint_small : ∃ mem' b',
    ataInit (List.replicate 517 0) ataMaster false = .ok (true, mem', b') ∧
      mem' = [0xF0, 0x01, 0xF6, 0x03, 0] ++ identifySmall.take 242 ++ [1] ++ identifySmall.drop 243 ∧
      mem'.drop 515 = [0xA5, 0] ∧ ataGetSize (ataStateAt mem') = 0 := by
  have hsize : ataStateSize ≤ (List.replicate 517 (0 : UInt8)).length := by
    rw [List.length_replicate]
    decide
  have hpresent : ataMaster.identify false = some identifySmall := rfl
  have hlong : ataStateSize + 269 ≤ (List.replicate 517 (0 : UInt8)).length := by
    rw [List.length_replicate]
    decide
  obtain ⟨mem', b', hinit, hmem, hbehind, hstate, -⟩ :=
    ((ata_init_footprint hsize (by decide)).2 identifySmall hpresent).2 hlong
  refine ⟨mem', b', hinit, ?_, ?_, ?_⟩
  · rw [hmem]
    decide +kernel
  · have hdrop : mem'.drop 515 = (mem'.drop ataStateSize).drop 267 := by rw [List.drop_drop]; rfl
    rw [hdrop, hbehind]
    decide +kernel
  · rw [hstate]
    decide +kernel

end MayaOs.Drivers
