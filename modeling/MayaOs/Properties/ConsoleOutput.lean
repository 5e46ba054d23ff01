import MayaOs.Libc.Stdio
import MayaOs.Properties.SerialLine

/-!
# What the console shows

* `putchar_shown` — a character goes to the screen and to COM1
* `puts_shown` — `puts` stops at a byte 0xFF, which it takes for EOF
* `console_session` — the screen and the line after a list of calls
-/

namespace MayaOs.Libc

open MayaOs.Lib MayaOs.Drivers

/-! ## What the calls ask for -/

/-- What `puts` writes of a string without a 0 byte. -/
def putsText : List UInt8 → List UInt8
  | [] => [10]
  | c :: str => if c = 0xFF then [c] else c :: putsText str

/-- What `vprintf` writes; a format that is NULL writes nothing. -/
def printfText (format : Option (List UInt8)) (args : List VaArg) : List UInt8 :=
  match format with
  | none => []
  | some format => ((vprintf true format args).map Prod.fst).getD []

/-- What a call writes when `stdio_init` has been called. -/
def ConsoleCall.text : ConsoleCall → List UInt8
  | .init => []
  | .putchar c => [c.toInt8.toUInt8]
  | .puts str => (str.map fun str => putsText (cString str)).getD []
  | .printf format args => printfText format args

/-- What a call returns. -/
def ConsoleCall.result (on : Bool) : ConsoleCall → Int
  | .init => 1
  | .putchar c => if on then c.toInt else -1
  | .puts none => -1
  | .puts (some str) => if on && !decide (0xFF ∈ cString str) then 1 else -1
  | .printf none _ => -1
  | .printf (some format) args => ((vprintf on format args).map Prod.snd).getD 0

def ConsoleCall.next (on : Bool) (c : ConsoleCall) : Bool := on || decide (c = .init)

/-- What the calls write: nothing before `stdio_init`. -/
def consoleText : Bool → List ConsoleCall → List UInt8
  | _, [] => []
  | on, c :: cs => (if on then c.text else []) ++ consoleText (c.next on) cs

def consoleResults : Bool → List ConsoleCall → List Int
  | _, [] => []
  | on, c :: cs => c.result on :: consoleResults (c.next on) cs

def consoleReady (on : Bool) (cs : List ConsoleCall) : Bool := cs.foldl ConsoleCall.next on

/-! ## Characters -/

/-- `text` has gone to the screen and to COM1. -/
structure Shown (vga₀ : VgaState) (uart : ComPort → Uart) (on : Bool) (text : List UInt8)
    (s : Console) : Prop where
  initialized : s.initialized = on
  vga : s.vga = vgaWrite (if on then vgaInit vga₀ else vga₀) text
  serial : Holds uart (fun p => on && decide (p = .com1)) (fun p => if p = .com1 then text else [])
    s.serial

variable {vga₀ : VgaState} {uart : ComPort → Uart} {text : List UInt8} {s : Console}

theorem toUInt8_charToInt (c : UInt8) : (charToInt c).toInt8.toUInt8 = c := by
  unfold charToInt
  rw [Int8.toInt8_toInt32]
  rfl

theorem charToInt_eq_eof {c : UInt8} : charToInt c = eof ↔ c = 0xFF := by
  constructor
  · intro h
    rw [← toUInt8_charToInt c, h]
    rfl
  · rintro rfl
    rfl

/-- **A character goes to the screen and to COM1.** -/
theorem putchar_shown (h : Shown vga₀ uart true text s) (c : Int32) :
    (putchar s c).1 = c ∧ Shown vga₀ uart true (text ++ [c.toInt8.toUInt8]) (putchar s c).2 := by
  have hput : putchar s c = (c, { s with
      vga := vgaPutchar s.vga c.toInt8.toUInt8
      serial := (serialWrite s.serial com1Port (some [c.toInt8.toUInt8])).2 }) :=
    if_neg (by rw [h.initialized]; decide)
  rw [hput]
  refine ⟨rfl, h.initialized, ?_, ?_⟩
  · show vgaPutchar s.vga _ = vgaWrite _ (text ++ [_])
    unfold vgaWrite
    rw [List.foldl_append, h.vga]
    rfl
  · have hwrite := (holds_write h.serial com1Port (some [c.toInt8.toUInt8])).1
    have houts : (fun p => (if p = ComPort.com1 then text else []) ++
        (SerialCall.write com1Port (some [c.toInt8.toUInt8])).payload
          (fun p => true && decide (p = .com1)) p) =
        fun p => if p = ComPort.com1 then text ++ [c.toInt8.toUInt8] else [] := by
      funext p
      cases p <;> rfl
    rwa [houts] at hwrite

/-- Characters one after the other. -/
theorem putchars_shown :
    ∀ (str : List UInt8) {text : List UInt8} {s : Console}, Shown vga₀ uart true text s →
      Shown vga₀ uart true (text ++ str)
        (str.foldl (fun s c => (putchar s (charToInt c)).2) s) := by
  intro str
  induction str with
  | nil =>
    intro text s h
    rwa [List.append_nil]
  | cons c str ih =>
    intro text s h
    have hrest := ih (putchar_shown h (charToInt c)).2
    rwa [toUInt8_charToInt, List.append_assoc, List.singleton_append] at hrest

/-! ## puts -/

/-- **`puts` stops at a byte 0xFF, which it takes for EOF.** -/
theorem putsLoop_shown :
    ∀ (str : List UInt8) {text : List UInt8} {s : Console}, Shown vga₀ uart true text s →
      (putsLoop s str).1 = !decide (0xFF ∈ str) ∧
        Shown vga₀ uart true (text ++ putsText str)
          (if (putsLoop s str).1 then (putchar (putsLoop s str).2 10).2 else (putsLoop s str).2) := by
  intro str
  induction str with
  | nil =>
    intro text s h
    exact ⟨rfl, (putchar_shown h 10).2⟩
  | cons c str ih =>
    intro text s h
    obtain ⟨hresult, hshown⟩ := putchar_shown h (charToInt c)
    rw [toUInt8_charToInt] at hshown
    rw [putsLoop]
    by_cases hc : c = 0xFF
    · simp only [hresult, if_pos (charToInt_eq_eof.mpr hc), putsText, if_pos hc]
      exact ⟨by simp [hc], hshown⟩
    · obtain ⟨hrest, htext⟩ := ih hshown
      simp only [hresult, if_neg fun h => hc (charToInt_eq_eof.mp h), putsText, if_neg hc]
      rw [List.append_assoc, List.singleton_append] at htext
      refine ⟨?_, htext⟩
      rw [hrest]
      simp [Ne.symm hc]

theorem puts_shown (h : Shown vga₀ uart true text s) (str : Option (List UInt8)) :
    (puts s str).1.toInt = (ConsoleCall.puts str).result true ∧
      Shown vga₀ uart true (text ++ (ConsoleCall.puts str).text) (puts s str).2 := by
  cases str with
  | none =>
    refine ⟨rfl, ?_⟩
    show Shown vga₀ uart true (text ++ []) s
    rwa [List.append_nil]
  | some str =>
    obtain ⟨hok, hloop⟩ := putsLoop_shown (cString str) h
    unfold puts
    simp only [if_neg (show ¬ s.initialized = false by rw [h.initialized]; decide)]
    cases hr : putsLoop s (cString str) with
    | mk ok t =>
      rw [hr] at hloop hok
      have hresult : (ConsoleCall.puts (some str)).result true = if ok then 1 else -1 := by
        show (if true && !decide (0xFF ∈ cString str) then _ else _) = _
        rw [← hok]
        rfl
      rw [hresult]
      cases ok with
      | true => exact ⟨rfl, hloop⟩
      | false => exact ⟨rfl, hloop⟩

/-! ## The calls -/

theorem stdioInit_shown (h : Shown vga₀ uart false [] s) :
    (stdioInit s).1 = true ∧ Shown vga₀ uart true [] (stdioInit s).2 := by
  obtain ⟨hserial, hok⟩ := holds_init h.serial com1Port
  have hok' : (serialInit s.serial com1Port).1 = true := hok
  have hinit : stdioInit s = (true,
      { initialized := true, vga := vgaInit s.vga, serial := (serialInit s.serial com1Port).2 }) := by
    unfold stdioInit
    rw [if_neg (by rw [h.initialized]; decide)]
    cases hr : serialInit s.serial com1Port with
    | mk ok serial =>
      rw [hr] at hok'
      obtain rfl : ok = true := hok'
      rfl
  have hon : afterInit (fun p => false && decide (p = ComPort.com1)) com1Port =
      fun p => true && decide (p = .com1) := by
    funext p
    cases p <;> rfl
  rw [hinit]
  refine ⟨rfl, rfl, ?_, ?_⟩
  · show vgaInit s.vga = _
    rw [h.vga]
    rfl
  · rw [hon] at hserial
    exact hserial

/-- One call. -/
theorem consoleCall_shown {on : Bool} (h : Shown vga₀ uart on text s) (hoff : on = false → text = [])
    {c : ConsoleCall} {r : Int} {t : Console} (hcall : consoleCall s c = some (r, t)) :
    r = c.result on ∧ Shown vga₀ uart (c.next on) (text ++ if on then c.text else []) t := by
  have hquiet : s.initialized = on := h.initialized
  cases on with
  | true =>
    have hnext : c.next true = true := rfl
    rw [hnext]
    show r = c.result true ∧ Shown vga₀ uart true (text ++ c.text) t
    cases c with
    | init =>
      have hsame : stdioInit s = (true, s) := if_pos hquiet
      obtain ⟨rfl, rfl⟩ := Prod.mk.inj (Option.some.inj hcall)
      rw [hsame]
      refine ⟨rfl, ?_⟩
      show Shown vga₀ uart true (text ++ []) s
      rwa [List.append_nil]
    | putchar c =>
      obtain ⟨rfl, rfl⟩ := Prod.mk.inj (Option.some.inj hcall)
      obtain ⟨hresult, hshown⟩ := putchar_shown h c
      exact ⟨congrArg Int32.toInt hresult, hshown⟩
    | puts str =>
      obtain ⟨rfl, rfl⟩ := Prod.mk.inj (Option.some.inj hcall)
      exact puts_shown h str
    | printf format args =>
      cases format with
      | none =>
        obtain ⟨rfl, rfl⟩ := Prod.mk.inj (Option.some.inj hcall)
        refine ⟨rfl, ?_⟩
        show Shown vga₀ uart true (text ++ []) s
        rwa [List.append_nil]
      | some format =>
        obtain ⟨⟨out, n⟩, hprint, heq⟩ := Option.map_eq_some_iff.mp hcall
        obtain ⟨rfl, rfl⟩ := Prod.mk.inj heq
        rw [hquiet] at hprint
        have hresult : (ConsoleCall.printf (some format) args).result true = n := by
          show ((vprintf true format args).map Prod.snd).getD 0 = n
          rw [hprint]
          rfl
        have htext : (ConsoleCall.printf (some format) args).text = out := by
          show ((vprintf true format args).map Prod.fst).getD [] = out
          rw [hprint]
          rfl
        rw [hresult, htext]
        exact ⟨rfl, putchars_shown out h⟩
  | false =>
    obtain rfl := hoff rfl
    show r = c.result false ∧ Shown vga₀ uart (c.next false) [] t
    cases c with
    | init =>
      obtain ⟨rfl, rfl⟩ := Prod.mk.inj (Option.some.inj hcall)
      obtain ⟨hok, hshown⟩ := stdioInit_shown h
      exact ⟨if_pos hok, hshown⟩
    | putchar c =>
      have hsame : putchar s c = (eof, s) := if_pos hquiet
      obtain ⟨rfl, rfl⟩ := Prod.mk.inj (Option.some.inj hcall)
      rw [hsame]
      exact ⟨rfl, h⟩
    | puts str =>
      obtain ⟨rfl, rfl⟩ := Prod.mk.inj (Option.some.inj hcall)
      cases str with
      | none => exact ⟨rfl, h⟩
      | some str =>
        have hsame : puts s (some str) = (eof, s) := if_pos hquiet
        rw [hsame]
        exact ⟨rfl, h⟩
    | printf format args =>
      cases format with
      | none =>
        obtain ⟨rfl, rfl⟩ := Prod.mk.inj (Option.some.inj hcall)
        exact ⟨rfl, h⟩
      | some format =>
        have hsame : printf s (some format) args = some (-1, s) := by
          show (vprintf s.initialized format args).map _ = _
          rw [hquiet]
          rfl
        obtain ⟨rfl, rfl⟩ := Prod.mk.inj (Option.some.inj (hsame.symm.trans hcall))
        exact ⟨rfl, h⟩

theorem consoleCalls_shown :
    ∀ (cs : List ConsoleCall) {on : Bool} {text : List UInt8} {s t : Console} {rs : List Int},
      Shown vga₀ uart on text s → (on = false → text = []) → consoleCalls s cs = some (rs, t) →
        rs = consoleResults on cs ∧
          Shown vga₀ uart (consoleReady on cs) (text ++ consoleText on cs) t := by
  intro cs
  induction cs with
  | nil =>
    intro on text s t rs h _ hrun
    obtain ⟨rfl, rfl⟩ := Prod.mk.inj (Option.some.inj hrun)
    refine ⟨rfl, ?_⟩
    show Shown vga₀ uart on (text ++ []) s
    rwa [List.append_nil]
  | cons c cs ih =>
    intro on text s t rs h hoff hrun
    obtain ⟨⟨r, s'⟩, hcall, hrest⟩ := Option.bind_eq_some_iff.mp hrun
    obtain ⟨⟨rs', t'⟩, hcalls, heq⟩ := Option.bind_eq_some_iff.mp hrest
    obtain ⟨rfl, rfl⟩ := Prod.mk.inj (Option.some.inj heq)
    obtain ⟨rfl, hshown⟩ := consoleCall_shown h hoff hcall
    have hoff' : c.next on = false → (text ++ if on then c.text else []) = [] := by
      intro hnext
      obtain ⟨rfl, -⟩ := Bool.or_eq_false_iff.mp hnext
      rw [hoff rfl]
      rfl
    obtain ⟨rfl, hlast⟩ := ih hshown hoff' hcalls
    rw [List.append_assoc] at hlast
    exact ⟨rfl, hlast⟩

/-- Before the first call. -/
def Console.boot (vga₀ : VgaState) (uart : ComPort → Uart) : Console where
  initialized := false
  vga := vga₀
  serial := Serial.boot uart

/--
**The screen and COM1 get the same text: what the calls after `stdio_init` write, each character once
and in order.**

Before `stdio_init` nothing is written.
-/
theorem console_session (vga₀ : VgaState) (uart : ComPort → Uart) (cs : List ConsoleCall)
    {rs : List Int} {s : Console}
    (h : consoleCalls (Console.boot vga₀ uart) cs = some (rs, s)) :
    rs = consoleResults false cs ∧
      s.vga = vgaWrite (if consoleReady false cs then vgaInit vga₀ else vga₀) (consoleText false cs) ∧
      (s.serial.uart .com1).sent ++ (s.serial.uart .com1).waiting =
        (if consoleReady false cs then (uart .com1).sent
          else (uart .com1).sent ++ (uart .com1).waiting) ++ consoleText false cs ∧
      ∀ p, p ≠ ComPort.com1 → s.serial.uart p = uart p := by
  have hboot : Shown vga₀ uart false [] (Console.boot vga₀ uart) :=
    ⟨rfl, rfl, rfl, fun p => ⟨ite_self _, rfl⟩⟩
  obtain ⟨hresults, -, hvga, -, hports⟩ := consoleCalls_shown cs hboot (fun _ => rfl) h
  refine ⟨hresults, hvga, ?_, fun p hp => ?_⟩
  · have hcom := hports .com1
    cases hready : consoleReady false cs with
    | true =>
      rw [hready] at hcom
      exact Driven.bytes hcom
    | false =>
      rw [hready] at hcom
      obtain ⟨htext, hsame⟩ := hcom
      have hempty : consoleText false cs = [] := htext
      rw [hsame, hempty, List.append_nil]
      rfl
  · have hother := hports p
    rw [if_neg (by simp [hp])] at hother
    exact hother.2

/-- A screen and a UART that nothing has used. -/
def vgaOff : VgaState where
  buffer _ := 0
  x := 0
  y := 0
  color := 0
  cursorEnabled := false
  initialized := false
  cursor := 0
  writes := []

def uartOff : Uart where
  dll := 1
  dlm := 0
  lcr := 0
  mcr := 0
  waiting := []
  sent := []
  busy := 0
  latency _ := 0

/-- `puts("Hi")`, before `stdio_init` and after it. -/
def hiTwice : List ConsoleCall :=
  [.puts (some [72, 105, 0]), .init, .puts (some [72, 105, 0])]

def consoleHi : Console :=
  (puts (stdioInit (puts (Console.boot vgaOff fun _ => uartOff) (some [72, 105, 0])).2).2
    (some [72, 105, 0])).2

theorem console_session_hi :
    [-1, 1, 1] = consoleResults false hiTwice ∧
      consoleHi.vga =
        vgaWrite (if consoleReady false hiTwice then vgaInit vgaOff else vgaOff)
          (consoleText false hiTwice) ∧
      (consoleHi.serial.uart .com1).sent ++ (consoleHi.serial.uart .com1).waiting =
        (if consoleReady false hiTwice then uartOff.sent else uartOff.sent ++ uartOff.waiting) ++
          consoleText false hiTwice ∧
      ∀ p, p ≠ ComPort.com1 → consoleHi.serial.uart p = uartOff :=
  console_session vgaOff (fun _ => uartOff) hiTwice rfl

example : consoleText false hiTwice = [72, 105, 10] := by decide

end MayaOs.Libc
