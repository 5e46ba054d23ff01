import MayaOs.Lib.TypeLengthValue
import MayaOs.Properties.DhcpOptions

/-!
# DHCP options that are written and read again

* `dhcpWriteOptions_eq` — successive calls of `dhcp_add_option` write the options one behind the other
* `walkEnds_items` — the walk skips each of them by its length
* `dhcp_roundtrip` — `dhcp_get_option` finds the first option of a type, if there is room for it
-/

namespace MayaOs.Net

open MayaOs.Lib

/-- An option that `dhcp_add_option` can write; `none` is a pad. -/
abbrev DhcpItem := Option (TlvField dhcpOptionPad dhcpOptionEnd)

/-! ## Writing -/

/-- `dhcp_add_option`, or a pad. -/
def dhcpPutItem (options : Bytes) (offset : Nat) : DhcpItem → Except Fault (Bytes × Nat)
  | none => do
    let options ← write options offset [dhcpOptionPad]
    return (options, offset + 1)
  | some f => dhcpAddOption options offset f.type (UInt8.ofNat f.value.length) f.value

/-- The items from the start of the buffer, and the end option behind them; the offset behind it. -/
def dhcpWriteOptions (buffer : Bytes) (items : List DhcpItem) : Except Fault (Bytes × Nat) := do
  let (options, offset) ← items.foldlM (fun r item => dhcpPutItem r.1 r.2 item) (buffer, 0)
  let options ← write options offset [dhcpOptionEnd]
  return (options, offset + 1)

theorem dhcpPutItem_append {a x : Bytes} (item : DhcpItem)
    (hfit : (tlvItemBytes item).length ≤ x.length) :
    dhcpPutItem (a ++ x) a.length item =
      .ok (a ++ tlvItemBytes item ++ x.drop (tlvItemBytes item).length,
        (a ++ tlvItemBytes item).length) := by
  cases item with
  | none =>
    have hwrite : write (a ++ x) a.length [dhcpOptionPad] =
        .ok (a ++ [dhcpOptionPad] ++ x.drop 1) := write_append rfl hfit
    rw [dhcpPutItem, hwrite, List.length_append]
    rfl
  | some f =>
    have hlen := f.length_bytes
    have hroom : f.value.length + 2 ≤ x.length := by
      have : f.bytes.length ≤ x.length := hfit
      omega
    have hadd := dhcpAddOption_append (a := a) f.type f.toNat_length hroom
    have hcount : f.value.length + 2 = f.bytes.length := by omega
    rw [hcount] at hadd
    exact hadd

theorem foldlM_dhcpPutItem : ∀ (items : List DhcpItem) (a x : Bytes),
    (tlvBytes items).length ≤ x.length →
      items.foldlM (fun r item => dhcpPutItem r.1 r.2 item) (a ++ x, a.length) =
        .ok (a ++ tlvBytes items ++ x.drop (tlvBytes items).length,
          (a ++ tlvBytes items).length) := by
  intro items
  induction items with
  | nil =>
    intro a x _
    simp [tlvBytes, pure, Except.pure]
  | cons item items ih =>
    intro a x hfit
    have hcount : (tlvBytes (item :: items)).length =
        (tlvItemBytes item).length + (tlvBytes items).length := by
      rw [tlvBytes_cons, List.length_append]
    rw [List.foldlM_cons]
    simp only []
    rw [dhcpPutItem_append item (by omega), ok_bind, ih _ _ (by rw [List.length_drop]; omega),
      List.drop_drop, List.append_assoc a, ← tlvBytes_cons, hcount]

/-- **The options stand one behind the other**, and the rest of the buffer is as it was. -/
theorem dhcpWriteOptions_eq {buffer : Bytes} {items : List DhcpItem}
    (hfit : (tlvBytes items).length + 1 ≤ buffer.length) :
    dhcpWriteOptions buffer items =
      .ok (tlvBytes items ++ dhcpOptionEnd :: buffer.drop ((tlvBytes items).length + 1),
        (tlvBytes items).length + 1) := by
  have hitems := foldlM_dhcpPutItem items [] buffer (by omega)
  rw [List.nil_append, List.nil_append, List.length_nil] at hitems
  have hend : [dhcpOptionEnd].length ≤ (buffer.drop (tlvBytes items).length).length := by
    rw [List.length_drop]
    show 1 ≤ _
    omega
  unfold dhcpWriteOptions
  rw [hitems, ok_bind]
  simp only []
  rw [write_append rfl hend, ok_bind, List.drop_drop, List.append_assoc]
  rfl

/-! ## Reading -/

/-- The result, the buffer behind `data`, and `*length`. -/
structure OptionResult where
  found : Bool
  data : Bytes
  length : Nat
  deriving Repr, DecidableEq

/-- What a call leaves of `data` and `*length`. -/
def OptionAccess.result (access : OptionAccess) (data : Bytes) (length : Nat) : OptionResult :=
  match access.copied with
  | none => { found := false, data := data, length := length }
  | some bytes =>
    { found := true, data := bytes ++ data.drop bytes.length, length := bytes.length }

/-- What it should leave when `first` is the first option of the type. -/
def optionResult (first : Option Bytes) (data : Bytes) (length : Nat) : OptionResult :=
  match first with
  | none => { found := false, data := data, length := length }
  | some bytes =>
    if bytes.length ≤ length then
      { found := true, data := bytes ++ data.drop bytes.length, length := bytes.length }
    else { found := false, data := data, length := length }

theorem OptionAccess.result_eq {access : OptionAccess} {first : Option Bytes} {length : Nat}
    (h : access.copied = first.filter fun bytes => bytes.length ≤ length) (data : Bytes) :
    access.result data length = optionResult first data length := by
  unfold OptionAccess.result optionResult
  rw [h]
  cases first with
  | none => rfl
  | some bytes =>
    by_cases hle : bytes.length ≤ length
    · simp [Option.filter, hle]
    · simp [Option.filter, hle]

/-- A walk that ends, copies `copied` and reads below `bound`. -/
def WalkEnds (options : Nat → UInt8) (optionsLen : Nat) (type : UInt8) (capacity bound : Nat)
    (copied : Option Bytes) (turns offset : Nat) : Prop :=
  ∃ access, dhcpOptionLoop options optionsLen type capacity turns offset = some access ∧
    access.copied = copied ∧ ∀ i ∈ access.reads, i < bound

section Walk

variable {options : Nat → UInt8} {optionsLen capacity bound turns offset : Nat} {type : UInt8}
  {copied : Option Bytes}

theorem walkEnds_end (hin : offset < optionsLen) (hbound : offset < bound)
    (hend : options offset = dhcpOptionEnd) :
    WalkEnds options optionsLen type capacity bound none (turns + 1) offset := by
  unfold WalkEnds
  rw [dhcpOptionLoop, if_neg (by omega), dhcpOptionTurn, if_pos hend]
  exact ⟨_, rfl, rfl, by simpa using hbound⟩

theorem walkEnds_pad (hlen : optionsLen < 2 ^ 32) (hin : offset < optionsLen)
    (hbound : offset < bound) (hpad : options offset = dhcpOptionPad)
    (h : WalkEnds options optionsLen type capacity bound copied turns (offset + 1)) :
    WalkEnds options optionsLen type capacity bound copied (turns + 1) offset := by
  obtain ⟨rest, hrest, hcopied, hreads⟩ := h
  have hend : options offset ≠ dhcpOptionEnd := by
    rw [hpad]
    decide
  unfold WalkEnds
  rw [dhcpOptionLoop, if_neg (by omega), dhcpOptionTurn, if_neg hend, if_pos hpad,
    wrap32_eq_self (by omega)]
  simp only [hrest]
  exact ⟨_, rfl, hcopied, by simpa [hbound] using hreads⟩

/-- An option that ends inside the options: it is the one, or the walk goes on behind it. -/
theorem walkEnds_field (hlen : optionsLen < 2 ^ 32) {value : Bytes}
    (hend : options offset ≠ dhcpOptionEnd) (hpad : options offset ≠ dhcpOptionPad)
    (hlength : (options (offset + 1)).toNat = value.length)
    (hvalue : (List.range value.length).map (fun i => options (offset + 2 + i)) = value)
    (hin : offset + 2 + value.length ≤ optionsLen) (hbound : offset + 2 + value.length ≤ bound)
    (h : options offset ≠ type → WalkEnds options optionsLen type capacity bound copied turns
      (offset + 2 + value.length)) :
    WalkEnds options optionsLen type capacity bound
      (if options offset = type then (some value).filter fun bytes => bytes.length ≤ capacity
        else copied) (turns + 1) offset := by
  unfold WalkEnds
  rw [dhcpOptionLoop, if_neg (by omega), dhcpOptionTurn_eq (by omega), if_neg hend, if_neg hpad,
    hlength, if_neg (by omega)]
  by_cases htype : options offset = type
  · rw [if_pos htype, if_pos htype]
    by_cases hfits : value.length ≤ capacity
    · rw [if_pos hfits]
      refine ⟨_, rfl, ?_, ?_⟩
      · rw [Option.filter_some, if_pos (by simpa using hfits), List.map_map]
        exact congrArg some hvalue
      · intro i hi
        simp only [List.mem_cons, List.mem_map, List.mem_range] at hi
        omega
    · rw [if_neg hfits]
      refine ⟨_, rfl, by rw [Option.filter_some, if_neg (by simpa using hfits)], ?_⟩
      intro i hi
      simp only [List.mem_cons, List.not_mem_nil, or_false] at hi
      omega
  · rw [if_neg htype, if_neg htype]
    obtain ⟨rest, hrest, hcopied, hreads⟩ := h htype
    simp only [hrest]
    refine ⟨_, rfl, hcopied, fun i hi => ?_⟩
    simp only [List.cons_append, List.nil_append, List.mem_cons] at hi
    rcases hi with rfl | rfl | hi
    · omega
    · omega
    · exact hreads i hi

end Walk

/-- **The walk goes from item to item** and stops at the end option, whatever stands behind it. -/
theorem walkEnds_items {optionsLen : Nat} (hlen : optionsLen < 2 ^ 32) (type : UInt8)
    (capacity : Nat) (rest : Bytes) : ∀ (items : List DhcpItem) (a : Bytes) (turns : Nat),
      items.length < turns → (a ++ tlvBytes items).length < optionsLen →
        WalkEnds (byteAt (a ++ (tlvBytes items ++ dhcpOptionEnd :: rest))) optionsLen type capacity
          ((a ++ tlvBytes items).length + 1)
          ((tlvLookup (tlvPairs items) type).filter fun bytes => bytes.length ≤ capacity) turns
          a.length := by
  intro items
  induction items with
  | nil =>
    intro a turns hturns hin
    obtain ⟨turns, rfl⟩ : ∃ m, turns = m + 1 := ⟨turns - 1, by omega⟩
    rw [show a ++ tlvBytes [] = a from List.append_nil a] at hin ⊢
    exact walkEnds_end hin (Nat.lt_succ_self _) (byteAt_middle a dhcpOptionEnd rest)
  | cons item items ih =>
    intro a turns hturns hin
    rw [List.length_cons] at hturns
    obtain ⟨turns, rfl⟩ : ∃ m, turns = m + 1 := ⟨turns - 1, by omega⟩
    have hnext := ih (a ++ tlvItemBytes item) turns (by omega)
      (by rw [List.append_assoc, ← tlvBytes_cons]; exact hin)
    rw [List.append_assoc, List.append_assoc, ← List.append_assoc (tlvItemBytes item),
      ← tlvBytes_cons] at hnext
    have hcount : (a ++ tlvBytes (item :: items)).length =
        a.length + (tlvItemBytes item).length + (tlvBytes items).length := by
      rw [tlvBytes_cons, List.length_append, List.length_append]
      omega
    have hstart : (a ++ tlvItemBytes item).length = a.length + (tlvItemBytes item).length :=
      List.length_append
    rw [hstart] at hnext
    cases item with
    | none =>
      exact walkEnds_pad hlen (by omega) (by omega) (byteAt_middle a dhcpOptionPad _) hnext
    | some f =>
      have hsize : (tlvItemBytes (some f)).length = 2 + f.value.length := f.length_bytes
      have hbytes : a ++ (tlvBytes (some f :: items) ++ dhcpOptionEnd :: rest) =
          a ++ (f.bytes ++ (tlvBytes items ++ dhcpOptionEnd :: rest)) := by
        rw [tlvBytes_cons, List.append_assoc]
        rfl
      rw [hbytes] at hnext ⊢
      -- the type, the length and the value are where the walk reads them
      have htype := f.byteAt_type a (tlvBytes items ++ dhcpOptionEnd :: rest)
      have hlength := f.byteAt_length a (tlvBytes items ++ dhcpOptionEnd :: rest)
      have hvalue := f.map_byteAt_value a (tlvBytes items ++ dhcpOptionEnd :: rest)
      have hwalk := walkEnds_field hlen (by rw [htype]; exact f.type_ne_stop)
        (by rw [htype]; exact f.type_ne_pad) (by rw [hlength]; exact f.toNat_length)
        hvalue (by omega) (show _ ≤ (a ++ tlvBytes (some f :: items)).length + 1 by omega)
        fun (_ : _ ≠ type) => by rw [Nat.add_assoc, ← hsize]; exact hnext
      rw [tlvPairs_field, tlvLookup_cons]
      rw [htype] at hwalk
      by_cases hmatch : f.type = type
      · simp only [if_pos hmatch] at hwalk ⊢
        exact hwalk
      · simp only [if_neg hmatch] at hwalk ⊢
        exact hwalk

/-! ## Both -/

/-- What a call finds in options that were written: the first one of the type, if there is room for
it. -/
def FindsWritten (items : List DhcpItem) (area : Bytes) (offset : Nat) : Prop :=
  ∀ optionsLen type data length, offset ≤ optionsLen → optionsLen < 2 ^ 32 →
    ∃ turns access, dhcpOptionLoop (byteAt area) optionsLen type length turns 0 = some access ∧
      access.result data length = optionResult (tlvLookup (tlvPairs items) type) data length ∧
      ∀ i ∈ access.reads, i < offset

/--
**Options that are written with `dhcp_add_option` are found by `dhcp_get_option`.**

There may be pads between them, and anything behind the end option; `options_len` may cover that too.
-/
theorem dhcp_roundtrip (items : List DhcpItem) (buffer : Bytes)
    (hroom : (tlvBytes items).length < buffer.length) :
    ∃ area offset, dhcpWriteOptions buffer items = .ok (area, offset) ∧
      FindsWritten items area offset := by
  refine ⟨_, _, dhcpWriteOptions_eq hroom, fun optionsLen type data length hin hlen => ?_⟩
  obtain ⟨access, hloop, hcopied, hreads⟩ := walkEnds_items hlen type length
    (buffer.drop ((tlvBytes items).length + 1)) items [] (items.length + 1) (by omega)
    (by rw [List.nil_append]; omega)
  exact ⟨_, access, hloop, OptionAccess.result_eq hcopied data, hreads⟩

def routerItem (addresses : Bytes) (h : addresses.length < 256) : DhcpItem :=
  some ⟨dhcpOptionRouter, addresses, by decide, by decide, h⟩

def dnsServerItem (addresses : Bytes) (h : addresses.length < 256) : DhcpItem :=
  some ⟨dhcpOptionDnsServer, addresses, by decide, by decide, h⟩

/-- Two options of one type, the first one with bytes that look like marks. -/
def exampleItems : List DhcpItem :=
  [routerItem [255, 0, 6, 1] (by decide), none, routerItem [] (by decide),
    dnsServerItem [8, 8, 8, 8, 8, 8, 4, 4] (by decide)]

theorem dhcp_roundtrip_example :
    ∃ area offset, dhcpWriteOptions (List.replicate 32 7) exampleItems = .ok (area, offset) ∧
      FindsWritten exampleItems area offset :=
  dhcp_roundtrip exampleItems (List.replicate 32 7) (by decide)

end MayaOs.Net
