import MayaOs.Lib.WhileLoop
import MayaOs.Net.Dhcp

/-!
# Reading DHCP options

`dhcp_get_option` with its 32-bit offsets, and every byte that it reads. The length of an option is
read without looking whether the options end behind the type.

* `dhcpOptionLoop_reads` — a call reads what the turns read at the offsets that the walk comes to
* `dhcp_options_iff` — when a call stays inside the options and ends
* `dhcp_options_one` — an option type alone: the byte behind it is read
* `dhcpOptionLoop_getOption` — without overflow the result is that of `dhcpGetOption`
-/

namespace MayaOs.Net

open MayaOs.Lib

section Options

variable (options : Nat → UInt8) (optionsLen : Nat) (type : UInt8) (capacity : Nat)

/-- The call ends, reads the options only, and copies no more than fits. -/
def StaysInside : Prop :=
  ∃ turns access, dhcpOptionLoop options optionsLen type capacity turns 0 = some access ∧
    (∀ i ∈ access.reads, i < optionsLen) ∧
    ∀ bytes, access.copied = some bytes → bytes.length ≤ capacity

/-! ## The walk over the options -/

/-- The offset of the next turn. -/
def dhcpNextOffset (offset : Nat) : Option Nat :=
  if optionsLen ≤ offset then none
  else (dhcpOptionTurn options optionsLen type capacity offset).2

/-- The loop comes to an offset inside the options, where an option starts. -/
structure OptionAt (offset : Nat) : Prop where
  reached : Reached (dhcpNextOffset options optionsLen type capacity) 0 offset
  inside : offset < optionsLen
  notEnd : options offset ≠ dhcpOptionEnd
  notPad : options offset ≠ dhcpOptionPad

/-- No option starts at the last byte, none that is copied reaches the end of the address space, and
the loop does not come back to an offset. -/
structure OptionsFit : Prop where
  lengthInside : ∀ offset, OptionAt options optionsLen type capacity offset →
    offset + 1 < optionsLen
  copyInside : ∀ offset, OptionAt options optionsLen type capacity offset → options offset = type →
    (options (offset + 1)).toNat ≤ capacity →
      offset + 2 + (options (offset + 1)).toNat < 2 ^ 32
  once : Once (dhcpNextOffset options optionsLen type capacity) 0

variable {options optionsLen type capacity}

/-- The loop is left when the walk ends. -/
theorem dhcpOptionLoop_isSome : ∀ {turns offset : Nat},
    (∃ access, dhcpOptionLoop options optionsLen type capacity turns offset = some access) ↔
      stateAfter (dhcpNextOffset options optionsLen type capacity) turns offset = none := by
  intro turns
  induction turns with
  | zero =>
    intro offset
    simp [dhcpOptionLoop, stateAfter]
  | succ turns ih =>
    intro offset
    rw [dhcpOptionLoop, stateAfter, dhcpNextOffset]
    split
    · simp
    · rcases dhcpOptionTurn options optionsLen type capacity offset with ⟨access, - | offset'⟩
      · simp
      · simp [← ih]

/-- **A call reads what the turns read** at the offsets that the walk comes to. -/
theorem dhcpOptionLoop_reads : ∀ {turns offset : Nat} {access : OptionAccess},
    dhcpOptionLoop options optionsLen type capacity turns offset = some access → ∀ i,
      (i ∈ access.reads ↔ ∃ p, Reached (dhcpNextOffset options optionsLen type capacity) offset p ∧
        p < optionsLen ∧ i ∈ (dhcpOptionTurn options optionsLen type capacity p).1.reads) := by
  intro turns
  induction turns with
  | zero =>
    intro offset access h
    cases h
  | succ turns ih =>
    intro offset access h i
    rw [dhcpOptionLoop] at h
    rw [exists_reached_iff, dhcpNextOffset]
    by_cases hend : optionsLen ≤ offset
    · rw [if_pos hend] at h ⊢
      obtain rfl := Option.some.inj h
      simp [Nat.not_lt.mpr hend]
    · rw [if_neg hend] at h ⊢
      rw [Nat.not_le] at hend
      cases hturn : dhcpOptionTurn options optionsLen type capacity offset with
      | mk first next =>
        rw [hturn] at h
        cases next with
        | none =>
          obtain rfl := Option.some.inj h
          simp [hend]
        | some offset' =>
          obtain ⟨rest, hrest, rfl⟩ := Option.map_eq_some_iff.mp h
          simp [hend, ih hrest i]

theorem turn_capacity {offset : Nat} {bytes : Bytes}
    (h : (dhcpOptionTurn options optionsLen type capacity offset).1.copied = some bytes) :
    bytes.length ≤ capacity := by
  unfold dhcpOptionTurn at h
  dsimp only at h
  split at h
  · cases h
  · split at h
    · cases h
    · split at h
      · cases h
      · split at h
        · split at h
          · next hfits =>
            cases h
            simpa using hfits
          · cases h
        · cases h

/-- What is copied fits. -/
theorem dhcpOptionLoop_capacity : ∀ {turns offset : Nat} {access : OptionAccess} {bytes : Bytes},
    dhcpOptionLoop options optionsLen type capacity turns offset = some access →
      access.copied = some bytes → bytes.length ≤ capacity := by
  intro turns
  induction turns with
  | zero =>
    intro offset access bytes h
    cases h
  | succ turns ih =>
    intro offset access bytes h hcopied
    rw [dhcpOptionLoop] at h
    split at h
    · obtain rfl := Option.some.inj h
      cases hcopied
    · split at h
      · next hturn =>
        obtain rfl := Option.some.inj h
        exact turn_capacity (by rw [hturn]; exact hcopied)
      · obtain ⟨rest, hrest, rfl⟩ := Option.map_eq_some_iff.mp h
        exact ih hrest hcopied

/-- **What one turn reads.** -/
theorem turn_reads_iff (hlen : optionsLen < 2 ^ 32) {p : Nat} (hp : p < optionsLen) :
    (∀ i ∈ (dhcpOptionTurn options optionsLen type capacity p).1.reads, i < optionsLen) ↔
      (options p ≠ dhcpOptionEnd → options p ≠ dhcpOptionPad →
        p + 1 < optionsLen ∧
          (options p = type → (options (p + 1)).toNat ≤ capacity →
            p + 2 + (options (p + 1)).toNat < 2 ^ 32)) := by
  have hbyte := (options (p + 1)).toNat_lt
  have hnext : wrap32 (p + 1) = p + 1 := wrap32_eq_self (by omega)
  unfold dhcpOptionTurn
  simp only [hnext]
  by_cases hend : options p = dhcpOptionEnd
  · simp [hend, hp]
  · by_cases hpad : options p = dhcpOptionPad
    · rw [if_neg hend, if_pos hpad]
      simp [hpad, hp]
    · rw [if_neg hend, if_neg hpad]
      by_cases hin : p + 1 < optionsLen
      · have hstart : wrap32 (p + 1 + 1) = p + 2 := wrap32_eq_self (by omega)
        rw [hstart]
        by_cases hwraps : p + 2 + (options (p + 1)).toNat < 2 ^ 32
        · rw [wrap32_eq_self hwraps]
          refine iff_of_true ?_ fun _ _ => ⟨hin, fun _ _ => hwraps⟩
          split
          · simp [hp, hin]
          · next hinside =>
            split
            · split
              · intro i hi
                simp only [List.mem_cons, List.mem_map, List.mem_range] at hi
                omega
              · simp [hp, hin]
            · simp [hp, hin]
        · -- the wrapped end is accepted, and the bytes up to the real one are copied
          have hsmall : ¬ optionsLen < wrap32 (p + 2 + (options (p + 1)).toNat) := by
            unfold wrap32
            omega
          rw [if_neg hsmall]
          by_cases hcopy : options p = type ∧ (options (p + 1)).toNat ≤ capacity
          · rw [if_pos hcopy.1, if_pos hcopy.2]
            refine iff_of_false (fun hall => ?_) fun h => hwraps ((h hend hpad).2 hcopy.1 hcopy.2)
            have hlast := hall (p + 2 + ((options (p + 1)).toNat - 1)) (by
              simp only [List.mem_cons, List.mem_map, List.mem_range]
              exact Or.inr (Or.inr ⟨_, by omega, rfl⟩))
            omega
          · refine iff_of_true ?_ fun _ _ => ⟨hin, fun ht hc => absurd ⟨ht, hc⟩ hcopy⟩
            split
            · next htype =>
              rw [if_neg fun hc => hcopy ⟨htype, hc⟩]
              simp [hp, hin]
            · simp [hp, hin]
      · -- the length is read from behind the options
        refine iff_of_false (fun hall => ?_) fun h => hin (h hend hpad).1
        refine hin (hall (p + 1) ?_)
        split
        · simp
        · split
          · split <;> simp
          · simp

theorem stateAfter_ends_iff :
    (∃ turns, stateAfter (dhcpNextOffset options optionsLen type capacity) turns 0 = none) ↔
      Once (dhcpNextOffset options optionsLen type capacity) 0 := by
  refine ends_iff_once (S := Finset.range optionsLen) (fun p q h => ?_) 0
  rw [Finset.mem_range]
  by_contra hend
  rw [dhcpNextOffset, if_pos (by omega)] at h
  cases h

/-- **When a call stays inside the options.** -/
theorem staysInside_iff (hlen : optionsLen < 2 ^ 32) :
    StaysInside options optionsLen type capacity ↔
      OptionsFit options optionsLen type capacity := by
  have hturns : (∀ p, Reached (dhcpNextOffset options optionsLen type capacity) 0 p →
        p < optionsLen →
        ∀ i ∈ (dhcpOptionTurn options optionsLen type capacity p).1.reads, i < optionsLen) ↔
      ∀ p, OptionAt options optionsLen type capacity p → p + 1 < optionsLen ∧
        (options p = type → (options (p + 1)).toNat ≤ capacity →
          p + 2 + (options (p + 1)).toNat < 2 ^ 32) := by
    constructor
    · intro h p hp
      exact (turn_reads_iff hlen hp.inside).mp (h p hp.reached hp.inside) hp.notEnd hp.notPad
    · intro h p hreached hp
      exact (turn_reads_iff hlen hp).mpr fun hend hpad => h p ⟨hreached, hp, hend, hpad⟩
  constructor
  · rintro ⟨turns, access, hloop, hreads, -⟩
    have hall := hturns.mp fun p hp hin i hi =>
      hreads i ((dhcpOptionLoop_reads hloop i).mpr ⟨p, hp, hin, hi⟩)
    exact ⟨fun p hp => (hall p hp).1, fun p hp => (hall p hp).2,
      stateAfter_ends_iff.mp ⟨turns, dhcpOptionLoop_isSome.mp ⟨access, hloop⟩⟩⟩
  · rintro ⟨hlength, hcopy, honce⟩
    obtain ⟨turns, hturn⟩ := stateAfter_ends_iff.mpr honce
    obtain ⟨access, hloop⟩ := dhcpOptionLoop_isSome.mpr hturn
    refine ⟨turns, access, hloop, fun i hi => ?_, fun bytes => dhcpOptionLoop_capacity hloop⟩
    obtain ⟨p, hp, hin, hpi⟩ := (dhcpOptionLoop_reads hloop i).mp hi
    exact hturns.mpr (fun q hq => ⟨hlength q hq, hcopy q hq⟩) p hp hin i hpi

/-! ## Options that end before the address space does -/

/-- A turn without overflow. -/
theorem dhcpOptionTurn_eq {p : Nat} (h : p + 2 + (options (p + 1)).toNat < 2 ^ 32) :
    dhcpOptionTurn options optionsLen type capacity p =
      if options p = dhcpOptionEnd then ({ reads := [p], copied := none }, none)
      else if options p = dhcpOptionPad then ({ reads := [p], copied := none }, some (p + 1))
      else if optionsLen < p + 2 + (options (p + 1)).toNat then
        ({ reads := [p, p + 1], copied := none }, none)
      else if options p = type then
        if (options (p + 1)).toNat ≤ capacity then
          let source := (List.range (options (p + 1)).toNat).map (p + 2 + ·)
          ({ reads := p :: (p + 1) :: source, copied := some (source.map options) }, none)
        else ({ reads := [p, p + 1], copied := none }, none)
      else
        ({ reads := [p, p + 1], copied := none }, some (p + 2 + (options (p + 1)).toNat)) := by
  have hnext : wrap32 (p + 1) = p + 1 := wrap32_eq_self (by omega)
  have hstart : wrap32 (p + 1 + 1) = p + 2 := wrap32_eq_self (by omega)
  simp only [dhcpOptionTurn, hnext, hstart, wrap32_eq_self h]

theorem no_overflow (hlen : optionsLen + 257 ≤ 2 ^ 32) {p : Nat} (hp : p < optionsLen) :
    p + 2 + (options (p + 1)).toNat < 2 ^ 32 := by
  have hbyte := (options (p + 1)).toNat_lt
  omega

/-- Every turn leads to a greater offset. -/
theorem lt_of_dhcpNextOffset (hlen : optionsLen + 257 ≤ 2 ^ 32) {p q : Nat}
    (h : dhcpNextOffset options optionsLen type capacity p = some q) : p < q := by
  unfold dhcpNextOffset at h
  split at h
  · cases h
  · next hp =>
    rw [dhcpOptionTurn_eq (no_overflow hlen (by omega))] at h
    split at h
    · cases h
    · split at h
      · cases h
        omega
      · split at h
        · cases h
        · split at h
          · split at h <;> cases h
          · cases h
            omega

/-- Then only an option that starts at the last byte does harm. -/
theorem optionsFit_iff (hlen : optionsLen + 257 ≤ 2 ^ 32) :
    OptionsFit options optionsLen type capacity ↔
      ∀ p, OptionAt options optionsLen type capacity p → p + 1 < optionsLen := by
  constructor
  · exact fun h => h.lengthInside
  · intro h
    exact ⟨h, fun p hp _ _ => no_overflow hlen hp.inside,
      once_of_lt (fun p q => lt_of_dhcpNextOffset hlen) 0⟩

theorem dhcpOptionLoop_scan (hlen : optionsLen + 257 ≤ 2 ^ 32) : ∀ {turns offset : Nat},
    optionsLen - offset ≤ turns → ∃ access,
      dhcpOptionLoop options optionsLen type capacity (turns + 1) offset = some access ∧
        access.copied = dhcpScanOptions options optionsLen type capacity turns offset := by
  intro turns
  induction turns with
  | zero =>
    intro offset hturns
    rw [dhcpOptionLoop, if_pos (by omega)]
    exact ⟨_, rfl, rfl⟩
  | succ turns ih =>
    intro offset hturns
    rw [dhcpOptionLoop, dhcpScanOptions]
    by_cases hend : optionsLen ≤ offset
    · rw [if_pos hend, if_pos hend]
      exact ⟨_, rfl, rfl⟩
    · rw [if_neg hend, if_neg hend]
      rw [dhcpOptionTurn_eq (no_overflow hlen (by omega))]
      by_cases hstop : options offset = dhcpOptionEnd
      · rw [if_pos hstop, if_pos hstop]
        exact ⟨_, rfl, rfl⟩
      · rw [if_neg hstop, if_neg hstop]
        by_cases hpad : options offset = dhcpOptionPad
        · rw [if_pos hpad, if_pos hpad]
          obtain ⟨rest, hrest, hcopied⟩ := ih (by omega : optionsLen - (offset + 1) ≤ turns)
          exact ⟨{ reads := offset :: rest.reads, copied := rest.copied }, by simp [hrest], hcopied⟩
        · rw [if_neg hpad, if_neg hpad]
          dsimp only
          by_cases hlong : optionsLen < offset + 2 + (options (offset + 1)).toNat
          · rw [if_pos hlong, if_pos hlong]
            exact ⟨_, rfl, rfl⟩
          · rw [if_neg hlong, if_neg hlong]
            by_cases htype : options offset = type
            · rw [if_pos htype, if_pos htype]
              by_cases hfits : (options (offset + 1)).toNat ≤ capacity
              · rw [if_pos hfits, if_pos hfits]
                exact ⟨_, rfl, by simp⟩
              · rw [if_neg hfits, if_neg hfits]
                exact ⟨_, rfl, rfl⟩
            · rw [if_neg htype, if_neg htype]
              obtain ⟨rest, hrest, hcopied⟩ :=
                ih (by omega : optionsLen - (offset + 2 + (options (offset + 1)).toNat) ≤ turns)
              exact ⟨{ reads := offset :: (offset + 1) :: rest.reads, copied := rest.copied },
                by simp [hrest], hcopied⟩

/-- **Without overflow the result is that of `dhcpGetOption`.** -/
theorem dhcpOptionLoop_getOption (hlen : optionsLen + 257 ≤ 2 ^ 32) : ∃ access,
    dhcpOptionLoop options optionsLen type capacity (optionsLen + 1) 0 = some access ∧
      access.copied = dhcpGetOption options optionsLen type capacity :=
  dhcpOptionLoop_scan hlen (Nat.sub_le optionsLen 0)

end Options

/--
**When `dhcp_get_option` ends, reads the options only and copies no more than fits.**

The second part is for options that end at least 257 bytes before the address space does.
-/
theorem dhcp_options_iff (options : Nat → UInt8) (optionsLen : Nat) (type : UInt8) (capacity : Nat)
    (hlen : optionsLen < 2 ^ 32) :
    (StaysInside options optionsLen type capacity ↔
        OptionsFit options optionsLen type capacity) ∧
      (optionsLen + 257 ≤ 2 ^ 32 →
        (StaysInside options optionsLen type capacity ↔
          ∀ p, OptionAt options optionsLen type capacity p → p + 1 < optionsLen)) :=
  ⟨staysInside_iff hlen, fun hshort => (staysInside_iff hlen).trans (optionsFit_iff hshort)⟩

/-! ## An option type alone -/

/-- **The length of the option is read from behind the options.** -/
theorem dhcp_options_one :
    dhcpOptionLoop (fun _ => dhcpOptionMessageType) 1 dhcpOptionMessageType 1 1 0 =
        some { reads := [0, 1], copied := none } ∧
      ¬ StaysInside (fun _ => dhcpOptionMessageType) 1 dhcpOptionMessageType 1 := by
  refine ⟨by decide, fun h => ?_⟩
  have hfit := (staysInside_iff (by decide)).mp h
  exact absurd (hfit.lengthInside 0 ⟨reached_refl _ 0, by decide, by decide, by decide⟩) (by decide)

/-- The message type of an offer, and the end option. -/
def offerOptions : Nat → UInt8 := byteAt [dhcpOptionMessageType, 1, dhcpMessageOffer, dhcpOptionEnd]

theorem dhcp_options_offer : StaysInside offerOptions 4 dhcpOptionMessageType 1 := by
  have hiff := dhcp_options_iff offerOptions 4 dhcpOptionMessageType 1 (by decide)
  refine (hiff.2 (by decide)).mpr fun p hp => ?_
  have hin := hp.inside
  have hend : p ≠ 3 := by
    rintro rfl
    exact hp.notEnd rfl
  omega

end MayaOs.Net
