import MayaOs.Lib.Census
import MayaOs.Properties.PipeRing

/-!
# Bytes in a pipe and units of its semaphores

Between calls there should be a unit of `read_sem` whenever there are bytes, and one of `write_sem`
whenever there is room. The semaphores count sections, though, and the ring counts bytes.

* `unblocked_of_usesUp` — it is so as long as the section that uses up the last unit also uses up the
  bytes, or the room
* `bytes_without_unit` — nine bytes that nobody can read
-/

namespace MayaOs.Kernel

open MayaOs.Lib

/-! ## The law and the condition -/

/-- On an open pipe nobody calls `pipe_close`. -/
def openStep (s : PipeSystem) (a : PipeAction) : Option PipeSystem :=
  match a with
  | .call _ .close => none
  | _ => semaphoreStep s a

/-- Between calls, bytes can be read and room can be written to without blocking. -/
def Unblocked (s : PipeSystem) : Prop :=
  (∀ p, s.pc p = .idle) →
    (0 < s.pipe.count → 0 < s.pipe.readSem) ∧ (s.pipe.count < 4096 → 0 < s.pipe.writeSem)

/--
A section of `pipe_read` for which only one piece is left takes all bytes, and a section of
`pipe_write` for which only one unit is left fills the ring.
-/
def UsesUp (s : PipeSystem) (a : PipeAction) (_ : PipeSystem) : Prop :=
  match a with
  | .call _ _ => True
  | .advance p =>
    match s.pc p with
    | .reading .copy size got =>
      s.copiedIn.length = s.copiedOut.length + 1 → s.pipe.count ≤ size - got.length
    | .writing .copy data done =>
      s.copiedIn.length + 1 = s.copiedOut.length + 4096 →
        4096 - s.pipe.count ≤ data.length - done
    | _ => True

/-! ## Units that are under way -/

/-- A piece has been written and `read_sem` not yet signalled. -/
def PipePc.owesRead : PipePc → Bool
  | .writing .signal _ _ => true
  | _ => false

/-- A unit of `read_sem` has been taken and nothing read yet. -/
def PipePc.tookRead : PipePc → Bool
  | .reading .check _ _ => true
  | .reading .copy _ _ => true
  | _ => false

def PipePc.owesWrite : PipePc → Bool
  | .reading .signal _ _ => true
  | _ => false

def PipePc.tookWrite : PipePc → Bool
  | .writing .check _ _ => true
  | .writing .copy _ _ => true
  | _ => false

/-- A call does not exceed its own size, and nobody closes the pipe. -/
def PipePc.Sound : PipePc → Prop
  | .idle => True
  | .reading _ size got => got.length ≤ size
  | .writing _ data done => done ≤ data.length
  | .closing _ => False

/-- Every piece written is read, under way or a unit of `read_sem`; likewise for the room. -/
structure Balance (s : PipeSystem) : Prop where
  isOpen : s.pipe.closed = false
  sound : ∀ p, (s.pc p).Sound
  readSem : 0 ≤ s.pipe.readSem
  writeSem : 0 ≤ s.pipe.writeSem
  read : ∃ a b : Nat, Census s.pc (fun pc => pc.owesRead = true) a ∧
    Census s.pc (fun pc => pc.tookRead = true) b ∧
    (s.copiedIn.length : Int) = s.copiedOut.length + s.pipe.readSem + a + b
  write : ∃ c d : Nat, Census s.pc (fun pc => pc.owesWrite = true) c ∧
    Census s.pc (fun pc => pc.tookWrite = true) d ∧
    (s.copiedOut.length : Int) + 4096 = s.copiedIn.length + s.pipe.writeSem + c + d

theorem balance_boot (buffer : Nat → UInt8) : Balance (PipeSystem.boot buffer) := by
  refine ⟨rfl, fun _ => trivial, Int.le_refl _, ?_, ⟨0, 0, ?_, ?_, rfl⟩, ⟨0, 0, ?_, ?_, rfl⟩⟩
  · show (0 : Int) ≤ pipeBufferSize
    decide
  all_goals exact Census.none (by simp [PipeSystem.boot, PipePc.owesRead, PipePc.tookRead,
    PipePc.owesWrite, PipePc.tookWrite])

variable {s s' : PipeSystem} {p : ProcessPtr} {pc : PipePc}

/-- One process moves on; what it takes from one side of the balance it adds to it elsewhere. -/
theorem Balance.move (h : Balance s) (hpc : s'.pc = Function.update s.pc p pc)
    (hopen : s'.pipe.closed = s.pipe.closed) (hsound : pc.Sound)
    (hread : 0 ≤ s'.pipe.readSem) (hwrite : 0 ≤ s'.pipe.writeSem)
    (hr : (s'.copiedIn.length : Int) - s'.copiedOut.length - s'.pipe.readSem
        - pc.owesRead.toNat - pc.tookRead.toNat =
      s.copiedIn.length - s.copiedOut.length - s.pipe.readSem
        - (s.pc p).owesRead.toNat - (s.pc p).tookRead.toNat)
    (hw : (s'.copiedOut.length : Int) - s'.copiedIn.length - s'.pipe.writeSem
        - pc.owesWrite.toNat - pc.tookWrite.toNat =
      s.copiedOut.length - s.copiedIn.length - s.pipe.writeSem
        - (s.pc p).owesWrite.toNat - (s.pc p).tookWrite.toNat) : Balance s' := by
  obtain ⟨a, b, ha, hb, hab⟩ := h.read
  obtain ⟨c, d, hc, hd, hcd⟩ := h.write
  obtain ⟨a', ha', haeq⟩ := ha.move p pc
  obtain ⟨b', hb', hbeq⟩ := hb.move p pc
  obtain ⟨c', hc', hceq⟩ := hc.move p pc
  obtain ⟨d', hd', hdeq⟩ := hd.move p pc
  refine ⟨hopen.trans h.isOpen, fun q => ?_, hread, hwrite, ?_, ?_⟩
  · rw [hpc]
    rcases eq_or_ne q p with rfl | hq
    · rw [Function.update_self]
      exact hsound
    · rw [Function.update_of_ne hq]
      exact h.sound q
  · rw [hpc]
    exact ⟨a', b', ha', hb', by omega⟩
  · rw [hpc]
    exact ⟨c', d', hc', hd', by omega⟩

/-! ## Steps -/

/-- A step on an open pipe is a step of the pipe that waits for its semaphore. -/
theorem openStep_cases {a : PipeAction} (hs : openStep s a = some s') :
    pipeStep s a = some s' ∧ (∀ p, a ≠ .call p .close) ∧
      ∀ p value, a = .advance p → waitsFor s.pipe (s.pc p) = some value → 0 < value := by
  cases a with
  | call p c =>
    cases c with
    | close => cases hs
    | read size => exact ⟨hs, fun q => by simp, fun q value h => by cases h⟩
    | write data => exact ⟨hs, fun q => by simp, fun q value h => by cases h⟩
  | advance p =>
    simp only [openStep, semaphoreStep] at hs
    refine ⟨?_, fun q => by simp, fun q value h hv => ?_⟩
    · split at hs
      · split at hs
        · exact hs
        · cases hs
      · exact hs
    · cases h
      rw [hv] at hs
      simp only [] at hs
      split at hs
      · assumption
      · cases hs

theorem balance_call {c : PipeCall} (h : Balance s) (hc : c ≠ .close)
    (hs : pipeStep s (.call p c) = some s') : Balance s' := by
  simp only [pipeStep] at hs
  split at hs
  · cases hs
  · rename_i hidle
    rw [not_not] at hidle
    split at hs
    · cases hs
      exact h.move rfl rfl trivial h.readSem h.writeSem (by rw [hidle]; rfl) (by rw [hidle]; rfl)
    · rename_i pc hpc
      cases hs
      have hplace : pc.Sound ∧ pc.owesRead = false ∧ pc.tookRead = false ∧ pc.owesWrite = false ∧
          pc.tookWrite = false := by
        cases c with
        | close => exact absurd rfl hc
        | read size =>
          cases size with
          | none => cases hpc
          | some size =>
            simp only [pipeEnter] at hpc
            split at hpc <;> cases hpc
            exact ⟨Nat.zero_le _, rfl, rfl, rfl, rfl⟩
        | write data =>
          cases data with
          | none => cases hpc
          | some data =>
            simp only [pipeEnter] at hpc
            split at hpc <;> cases hpc
            exact ⟨Nat.zero_le _, rfl, rfl, rfl, rfl⟩
      obtain ⟨hsound, h1, h2, h3, h4⟩ := hplace
      refine h.move rfl rfl hsound h.readSem h.writeSem ?_ ?_
      · rw [hidle, h1, h2]
        rfl
      · rw [hidle, h3, h4]
        rfl

theorem balance_readAdvance {stage : PipeStage} {size : Nat} {got : List UInt8} (h : Balance s)
    (hring : RingOk s) (hpc : s.pc p = .reading stage size got)
    (hwait : stage = .wait → 0 < s.pipe.readSem) : Balance (readAdvance s p size got stage) := by
  have hsound : got.length ≤ size := by
    have := h.sound p
    rwa [hpc] at this
  have hr := h.readSem
  have hw := h.writeSem
  cases stage with
  | wait =>
    have hpos := hwait rfl
    refine h.move rfl rfl hsound ?_ hw ?_ ?_
    · show 0 ≤ s.pipe.readSem - 1
      omega
    · rw [hpc]
      simp [readAdvance, PipeSystem.goto, PipePc.owesRead, PipePc.tookRead]
      omega
    · rw [hpc]
      rfl
  | check =>
    simp only [readAdvance, h.isOpen, Bool.false_eq_true, if_false]
    exact h.move rfl rfl hsound hr hw (by rw [hpc]; rfl) (by rw [hpc]; rfl)
  | copy =>
    obtain ⟨-, -, hlen, -⟩ := readSection_spec hring.wellFormed (size - got.length)
    refine h.move rfl rfl ?_ hr hw ?_ ?_
    · simp only [PipePc.Sound, List.length_append, hlen]
      omega
    · rw [hpc]
      simp [readAdvance, readSection, PipeSystem.goto, PipePc.owesRead, PipePc.tookRead]
      omega
    · rw [hpc]
      simp [readAdvance, readSection, PipeSystem.goto, PipePc.owesWrite, PipePc.tookWrite]
      omega
  | signal =>
    refine h.move rfl rfl hsound hr ?_ ?_ ?_
    · show 0 ≤ s.pipe.writeSem + 1
      omega
    · rw [hpc]
      rfl
    · rw [hpc]
      simp [readAdvance, PipeSystem.goto, PipePc.owesWrite, PipePc.tookWrite]
      omega
  | test =>
    simp only [readAdvance]
    split
    · exact h.move rfl rfl trivial hr hw (by rw [hpc]; rfl) (by rw [hpc]; rfl)
    · exact h.move rfl rfl hsound hr hw (by rw [hpc]; rfl) (by rw [hpc]; rfl)

theorem balance_writeAdvance {stage : PipeStage} {data : List UInt8} {done : Nat} (h : Balance s)
    (hring : RingOk s) (hpc : s.pc p = .writing stage data done)
    (hwait : stage = .wait → 0 < s.pipe.writeSem) :
    Balance (writeAdvance s p data done stage) := by
  have hsound : done ≤ data.length := by
    have := h.sound p
    rwa [hpc] at this
  have hr := h.readSem
  have hw := h.writeSem
  cases stage with
  | wait =>
    have hpos := hwait rfl
    refine h.move rfl rfl hsound hr ?_ ?_ ?_
    · show 0 ≤ s.pipe.writeSem - 1
      omega
    · rw [hpc]
      rfl
    · rw [hpc]
      simp [writeAdvance, PipeSystem.goto, PipePc.owesWrite, PipePc.tookWrite]
      omega
  | check =>
    simp only [writeAdvance, h.isOpen, Bool.false_eq_true, if_false]
    exact h.move rfl rfl hsound hr hw (by rw [hpc]; rfl) (by rw [hpc]; rfl)
  | copy =>
    obtain ⟨-, -, htake, -⟩ := writeSection_spec hring.wellFormed (data.drop done)
    refine h.move rfl rfl ?_ hr hw ?_ ?_
    · simp only [PipePc.Sound, htake, List.length_take, List.length_drop]
      omega
    · rw [hpc]
      simp [writeAdvance, writeSection, PipeSystem.goto, PipePc.owesRead, PipePc.tookRead]
      omega
    · rw [hpc]
      simp [writeAdvance, writeSection, PipeSystem.goto, PipePc.owesWrite, PipePc.tookWrite]
      omega
  | signal =>
    refine h.move rfl rfl hsound ?_ hw ?_ ?_
    · show 0 ≤ s.pipe.readSem + 1
      omega
    · rw [hpc]
      simp [writeAdvance, PipeSystem.goto, PipePc.owesRead, PipePc.tookRead]
      omega
    · rw [hpc]
      rfl
  | test =>
    simp only [writeAdvance]
    split
    · exact h.move rfl rfl trivial hr hw (by rw [hpc]; rfl) (by rw [hpc]; rfl)
    · exact h.move rfl rfl hsound hr hw (by rw [hpc]; rfl) (by rw [hpc]; rfl)

/-- **One step** keeps the balance. -/
theorem balance_step {a : PipeAction} (h : Balance s) (hring : RingOk s)
    (hs : openStep s a = some s') : Balance s' := by
  obtain ⟨hstep, hclose, hgate⟩ := openStep_cases hs
  cases a with
  | call p c => exact balance_call h (fun hc => hclose p (by rw [hc])) hstep
  | advance p =>
    have hwait := fun value => hgate p value rfl
    simp only [pipeStep] at hstep
    cases hpc : s.pc p with
    | idle =>
      rw [hpc] at hstep
      cases hstep
    | reading stage size got =>
      rw [hpc] at hstep hwait
      cases hstep
      refine balance_readAdvance h hring hpc ?_
      rintro rfl
      exact hwait _ rfl
    | writing stage data done =>
      rw [hpc] at hstep hwait
      cases hstep
      refine balance_writeAdvance h hring hpc ?_
      rintro rfl
      exact hwait _ rfl
    | closing stage =>
      have := h.sound p
      rw [hpc] at this
      exact this.elim

/-! ## The last unit -/

/-- Without a piece left there is no byte, and without a unit left no room. -/
structure Extremes (s : PipeSystem) : Prop where
  empty : s.copiedIn.length = s.copiedOut.length → s.pipe.count = 0
  full : s.copiedIn.length = s.copiedOut.length + 4096 → s.pipe.count = 4096

theorem Extremes.congr (h : Extremes s) (hcount : s'.pipe.count = s.pipe.count)
    (hout : s'.copiedOut = s.copiedOut) (hin : s'.copiedIn = s.copiedIn) : Extremes s' :=
  ⟨by rw [hcount, hout, hin]; exact h.empty, by rw [hcount, hout, hin]; exact h.full⟩

/-- A process that is about to read holds a unit, so that there is a piece for it. -/
theorem Balance.piece (h : Balance s) {size : Nat} {got : List UInt8}
    (hpc : s.pc p = .reading .copy size got) : s.copiedOut.length < s.copiedIn.length ∧
      s.copiedIn.length ≤ s.copiedOut.length + 4096 := by
  obtain ⟨a, b, -, hb, hab⟩ := h.read
  obtain ⟨c, d, -, -, hcd⟩ := h.write
  have hpos : 0 < b := hb.pos (i := p) (by rw [hpc]; rfl)
  have hr := h.readSem
  have hw := h.writeSem
  omega

/-- A process that is about to write holds a unit, so that the pieces are fewer than 4096. -/
theorem Balance.room (h : Balance s) {data : List UInt8} {done : Nat}
    (hpc : s.pc p = .writing .copy data done) : s.copiedOut.length ≤ s.copiedIn.length ∧
      s.copiedIn.length < s.copiedOut.length + 4096 := by
  obtain ⟨a, b, -, -, hab⟩ := h.read
  obtain ⟨c, d, -, hd, hcd⟩ := h.write
  have hpos : 0 < d := hd.pos (i := p) (by rw [hpc]; rfl)
  have hr := h.readSem
  have hw := h.writeSem
  omega

/-- **One step** keeps the extremes right, if a last unit is used for all that is left. -/
theorem extremes_step {a : PipeAction} (h : Extremes s) (hb : Balance s) (hring : RingOk s)
    (hs : openStep s a = some s') (hc : UsesUp s a s') : Extremes s' := by
  obtain ⟨hstep, hclose, -⟩ := openStep_cases hs
  cases a with
  | call p c =>
    simp only [pipeStep] at hstep
    split at hstep
    · cases hstep
    · split at hstep <;> cases hstep <;> exact h.congr rfl rfl rfl
  | advance p =>
    simp only [pipeStep] at hstep
    cases hpc : s.pc p with
    | idle =>
      rw [hpc] at hstep
      cases hstep
    | reading stage size got =>
      simp only [UsesUp, hpc] at hc
      rw [hpc] at hstep
      cases hstep
      cases stage with
      | copy =>
        obtain ⟨hlt, hle⟩ := hb.piece hpc
        obtain ⟨-, hcount, -, -⟩ := readSection_spec hring.wellFormed (size - got.length)
        constructor
        · simp only [readAdvance, PipeSystem.goto, List.length_append, List.length_singleton]
          intro heq
          have := hc (by omega)
          omega
        · simp only [readAdvance, PipeSystem.goto, List.length_append, List.length_singleton]
          intro heq
          omega
      | wait => exact h.congr rfl rfl rfl
      | signal => exact h.congr rfl rfl rfl
      | check =>
        simp only [readAdvance]
        split <;> exact h.congr rfl rfl rfl
      | test =>
        simp only [readAdvance]
        split <;> exact h.congr rfl rfl rfl
    | writing stage data done =>
      simp only [UsesUp, hpc] at hc
      rw [hpc] at hstep
      cases hstep
      cases stage with
      | copy =>
        obtain ⟨hle, hlt⟩ := hb.room hpc
        obtain ⟨-, hcount, htake, -⟩ := writeSection_spec hring.wellFormed (data.drop done)
        rw [htake, List.length_take, List.length_drop] at hcount
        have hcle := hring.wellFormed.count_le
        unfold pipeBufferSize at hcount hcle
        constructor
        · simp only [writeAdvance, PipeSystem.goto, List.length_append, List.length_singleton]
          intro heq
          omega
        · simp only [writeAdvance, PipeSystem.goto, List.length_append, List.length_singleton]
          intro heq
          have := hc (by omega)
          omega
      | wait => exact h.congr rfl rfl rfl
      | signal => exact h.congr rfl rfl rfl
      | check =>
        simp only [writeAdvance]
        split <;> exact h.congr rfl rfl rfl
      | test =>
        simp only [writeAdvance]
        split <;> exact h.congr rfl rfl rfl
    | closing stage =>
      have := hb.sound p
      rw [hpc] at this
      exact this.elim

/-- Between calls the units are exactly the pieces, and what is missing to 4096 of them. -/
theorem Balance.idle (h : Balance s) (hidle : ∀ p, s.pc p = .idle) :
    (s.copiedIn.length : Int) = s.copiedOut.length + s.pipe.readSem ∧
      (s.copiedOut.length : Int) + 4096 = s.copiedIn.length + s.pipe.writeSem := by
  obtain ⟨a, b, ha, hb, hab⟩ := h.read
  obtain ⟨c, d, hc, hd, hcd⟩ := h.write
  have ha0 : a = 0 := ha.eq_zero (by simp [hidle, PipePc.owesRead])
  have hb0 : b = 0 := hb.eq_zero (by simp [hidle, PipePc.tookRead])
  have hc0 : c = 0 := hc.eq_zero (by simp [hidle, PipePc.owesWrite])
  have hd0 : d = 0 := hd.eq_zero (by simp [hidle, PipePc.tookWrite])
  subst ha0 hb0 hc0 hd0
  exact ⟨by simpa using hab, by simpa using hcd⟩

theorem Extremes.unblocked (h : Extremes s) (hb : Balance s) (hring : RingOk s) :
    Unblocked s := by
  intro hidle
  obtain ⟨hr, hw⟩ := hb.idle hidle
  have hr0 := hb.readSem
  have hw0 := hb.writeSem
  have hc := hring.wellFormed.count_le
  unfold pipeBufferSize at hc
  constructor
  · intro hpos
    by_contra hno
    have := h.empty (by omega)
    omega
  · intro hlt
    by_contra hno
    have := h.full (by omega)
    omega

/-- What all runs on an open pipe keep. -/
theorem balanced_step {a : PipeAction} (h : Balance s ∧ RingOk s) (hs : openStep s a = some s') :
    Balance s' ∧ RingOk s' :=
  ⟨balance_step h.1 h.2 hs, ringOk_step h.2 (openStep_cases hs).1⟩

theorem balanced_boot (buffer : Nat → UInt8) :
    Balance (PipeSystem.boot buffer) ∧ RingOk (PipeSystem.boot buffer) :=
  ⟨balance_boot buffer, ringOk_boot buffer⟩

/-! ## A call that is alone -/

/-- Nobody else is in a call. -/
def OnlyCaller (p : ProcessPtr) (s : PipeSystem) : Prop := ∀ q, q ≠ p → s.pc q = .idle

/-- The last section of the call is over. -/
def SectionsOver (p : ProcessPtr) (s : PipeSystem) : Prop :=
  (∃ size got, s.pc p = .reading .signal size got ∧ got.length = size) ∨
    ∃ data done, s.pc p = .writing .signal data done ∧ done = data.length

/-- A call whose last section is over signals and returns. -/
theorem run_return (hpc : SectionsOver p s) :
    ∃ t, run openStep s [.advance p, .advance p] = some t ∧
      t.pc = Function.update s.pc p .idle ∧ t.pipe.count = s.pipe.count ∧
      t.copiedIn = s.copiedIn ∧ t.copiedOut = s.copiedOut := by
  rcases hpc with ⟨size, got, hpc, hlen⟩ | ⟨data, done, hpc, hlen⟩
  · refine ⟨(readAdvance s p size got .signal).ret p got.length, ?_, ?_, rfl, rfl, rfl⟩
    · simp [run, openStep, semaphoreStep, waitsFor, pipeStep, hpc, readAdvance, PipeSystem.goto,
        hlen]
    · simp [readAdvance, PipeSystem.goto, PipeSystem.ret]
  · refine ⟨(writeAdvance s p data done .signal).ret p done, ?_, ?_, rfl, rfl, rfl⟩
    · simp [run, openStep, semaphoreStep, waitsFor, pipeStep, hpc, writeAdvance, PipeSystem.goto,
        hlen]
    · simp [writeAdvance, PipeSystem.goto, PipeSystem.ret]

/-- Without a piece left but with bytes, or without a unit left but with room. -/
def LeftOver (s : PipeSystem) : Prop :=
  s.copiedIn.length = s.copiedOut.length ∧ 0 < s.pipe.count ∨
    s.copiedIn.length = s.copiedOut.length + 4096 ∧ s.pipe.count < 4096

theorem not_unblocked {t : PipeSystem} (h : Balance t) (hidle : ∀ p, t.pc p = .idle)
    (hc : LeftOver t) : ¬ Unblocked t := by
  intro hu
  obtain ⟨hr, hw⟩ := h.idle hidle
  obtain ⟨hread, hwrite⟩ := hu hidle
  rcases hc with ⟨heq, hpos⟩ | ⟨heq, hlt⟩
  · have := hread hpos
    omega
  · have := hwrite hlt
    omega

/-- The last piece, and more bytes than are wanted: the read is complete and leaves some. -/
theorem read_leaves (hring : RingOk s) {size : Nat} {got : List UInt8} (hle : got.length ≤ size)
    (hlast : s.copiedIn.length = s.copiedOut.length + 1)
    (hleft : ¬ s.pipe.count ≤ size - got.length) :
    SectionsOver p (readAdvance s p size got .copy) ∧ LeftOver (readAdvance s p size got .copy) := by
  obtain ⟨-, hcount, hlen, -⟩ := readSection_spec hring.wellFormed (size - got.length)
  refine ⟨Or.inl ⟨size, _, Function.update_self .., ?_⟩, Or.inl ⟨?_, ?_⟩⟩
  · rw [List.length_append, hlen]
    omega
  · simp only [readAdvance, PipeSystem.goto, List.length_append, List.length_singleton]
    exact hlast
  · simp only [readAdvance]
    omega

/-- The last unit, and more room than is needed: the write is complete and leaves some. -/
theorem write_leaves (hring : RingOk s) {data : List UInt8} {done : Nat} (hle : done ≤ data.length)
    (hlast : s.copiedIn.length + 1 = s.copiedOut.length + 4096)
    (hleft : ¬ 4096 - s.pipe.count ≤ data.length - done) :
    SectionsOver p (writeAdvance s p data done .copy) ∧
      LeftOver (writeAdvance s p data done .copy) := by
  obtain ⟨-, hcount, htake, -⟩ := writeSection_spec hring.wellFormed (data.drop done)
  have hcle := hring.wellFormed.count_le
  have hlen : (writeSection s.pipe (data.drop done)).1.length = data.length - done := by
    rw [htake, List.length_take, List.length_drop]
    unfold pipeBufferSize at hcle ⊢
    omega
  refine ⟨Or.inr ⟨data, _, Function.update_self .., ?_⟩, Or.inr ⟨?_, ?_⟩⟩
  · rw [hlen]
    omega
  · simp only [writeAdvance, PipeSystem.goto, List.length_append, List.length_singleton]
    exact hlast
  · simp only [writeAdvance]
    omega

/-- Either section, by what it does not use up. -/
theorem section_leaves (h : Balance s ∧ RingOk s) (hs : openStep s (.advance p) = some s')
    (hc : ¬ UsesUp s (.advance p) s') :
    SectionsOver p s' ∧ LeftOver s' ∧ ∀ q, q ≠ p → s'.pc q = s.pc q := by
  have hsound := h.1.sound p
  obtain ⟨hstep, -, -⟩ := openStep_cases hs
  simp only [pipeStep] at hstep
  cases hpc : s.pc p with
  | idle => simp [UsesUp, hpc] at hc
  | closing stage => simp [UsesUp, hpc] at hc
  | reading stage size got =>
    cases stage with
    | copy =>
      simp only [UsesUp, hpc, not_forall] at hc
      obtain ⟨hlast, hleft⟩ := hc
      rw [hpc] at hstep hsound
      obtain rfl := Option.some.inj hstep
      obtain ⟨hover, hrest⟩ := read_leaves h.2 hsound hlast hleft
      exact ⟨hover, hrest, fun q hq => Function.update_of_ne hq ..⟩
    | _ => simp [UsesUp, hpc] at hc
  | writing stage data done =>
    cases stage with
    | copy =>
      simp only [UsesUp, hpc, not_forall] at hc
      obtain ⟨hlast, hleft⟩ := hc
      rw [hpc] at hstep hsound
      obtain rfl := Option.some.inj hstep
      obtain ⟨hover, hrest⟩ := write_leaves h.2 hsound hlast hleft
      exact ⟨hover, hrest, fun q hq => Function.update_of_ne hq ..⟩
    | _ => simp [UsesUp, hpc] at hc

/--
A section that does not use up what the last unit stands for, run while no other call is in
progress, is the last one of its call, and after the call the law is broken.
-/
theorem unblocked_fails (h : Balance s ∧ RingOk s) (halone : OnlyCaller p s)
    (hs : openStep s (.advance p) = some s') (hc : ¬ UsesUp s (.advance p) s') :
    ∃ t, run openStep s' [.advance p, .advance p] = some t ∧ ¬ Unblocked t := by
  obtain ⟨hover, hrest, hother⟩ := section_leaves h hs hc
  obtain ⟨t, hrun, hpc, hcount, hin, hout⟩ := run_return hover
  have ht := invariant_run (I := fun s => Balance s ∧ RingOk s) (fun _ _ _ => balanced_step)
    (balanced_step h hs) hrun
  refine ⟨t, hrun, not_unblocked ht.1 (fun q => ?_) (by rw [LeftOver, hcount, hin, hout]; exact hrest)⟩
  rw [hpc]
  rcases eq_or_ne q p with rfl | hq
  · exact Function.update_self ..
  · rw [Function.update_of_ne hq, hother q hq]
    exact halone q hq

/-! ## Runs -/

/--
**Between calls bytes can be read and room can be written to, in every run whose last units are
used for all that is left.**

A run in which a call that is alone does otherwise breaks the law when that call returns.
-/
theorem unblocked_of_usesUp (buffer : Nat → UInt8) (as : List PipeAction) :
    (Along openStep UsesUp (PipeSystem.boot buffer) as →
      Always openStep Unblocked (PipeSystem.boot buffer) as) ∧
    (∀ p s s', run openStep (PipeSystem.boot buffer) as = some s → OnlyCaller p s →
      openStep s (.advance p) = some s' → ¬ UsesUp s (.advance p) s' →
        ¬ Always openStep Unblocked (PipeSystem.boot buffer)
          (as ++ [.advance p, .advance p, .advance p])) := by
  constructor
  · intro h
    have hextremes : Extremes (PipeSystem.boot buffer) := ⟨fun _ => rfl, fun h => by cases h⟩
    obtain ⟨hb, hring⟩ := balanced_boot buffer
    refine ⟨hextremes.unblocked hb hring, ?_⟩
    refine Along.of_invariant (I := fun s => (Balance s ∧ RingOk s) ∧ Extremes s) ?_ ?_
      ⟨⟨hb, hring⟩, hextremes⟩ h
    · rintro s a s' ⟨hbr, he⟩ hs hc
      obtain ⟨hb', hring'⟩ := balanced_step hbr hs
      exact (extremes_step he hbr.1 hbr.2 hs hc).unblocked hb' hring'
    · rintro s a s' ⟨hbr, he⟩ hs hc
      exact ⟨balanced_step hbr hs, extremes_step he hbr.1 hbr.2 hs hc⟩
  · intro p s s' hrun halone hs hc halways
    have hbr := invariant_run (I := fun s => Balance s ∧ RingOk s) (fun _ _ _ => balanced_step)
      (balanced_boot buffer) hrun
    obtain ⟨t, ht, hno⟩ := unblocked_fails hbr halone hs hc
    refine hno (always_iff_forall_initial.mp halways _ [] t (List.append_nil _).symm ?_)
    rw [run_append, hrun]
    exact run_cons_eq_some.mpr ⟨s', hs, ht⟩

/-! ## Steps of other processes -/

/-- A process stays where it is while only others take steps. -/
theorem run_pc_of_ne {q : ProcessPtr} : ∀ {as : List PipeAction} {s t : PipeSystem},
    run openStep s as = some t → (∀ a ∈ as, a.process ≠ q) → t.pc q = s.pc q := by
  intro as
  induction as with
  | nil => intro s t hrun _; cases hrun; rfl
  | cons a as ih =>
    intro s t hrun hq
    obtain ⟨s', hs, hrest⟩ := run_cons_eq_some.mp hrun
    obtain ⟨pc, hpc⟩ := pipeStep_pc (openStep_cases hs).1
    rw [ih hrest fun b hb => hq b (List.mem_cons_of_mem a hb), hpc,
      Function.update_of_ne (hq a List.mem_cons_self).symm]

/-- Ten bytes are written in one piece, and one of them is read. -/
def shortReadRun : List PipeAction :=
  [.call 0xD0000010 (.write (some [1, 2, 3, 4, 5, 6, 7, 8, 9, 10])),
   .advance 0xD0000010, .advance 0xD0000010, .advance 0xD0000010, .advance 0xD0000010,
   .advance 0xD0000010,
   .call 0xD0000200 (.read (some 1)),
   .advance 0xD0000200, .advance 0xD0000200, .advance 0xD0000200, .advance 0xD0000200,
   .advance 0xD0000200]

/-- **Nine bytes are in the pipe and the next reader blocks.** -/
theorem bytes_without_unit :
    ∃ s, run openStep (PipeSystem.boot fun _ => 0) shortReadRun = some s ∧
      s.pipe.count = 9 ∧ s.pipe.readSem = 0 ∧ s.pipe.closed = false ∧ ¬ Unblocked s := by
  obtain ⟨s, hrun, hcount, hsem, hclosed, hwriter, hreader⟩ :
      ∃ s, run openStep (PipeSystem.boot fun _ => 0) shortReadRun = some s ∧
        s.pipe.count = 9 ∧ s.pipe.readSem = 0 ∧ s.pipe.closed = false ∧
        s.pc 0xD0000010 = .idle ∧ s.pc 0xD0000200 = .idle :=
    ⟨_, rfl, rfl, rfl, rfl, rfl, rfl⟩
  have hpc : ∀ q, s.pc q = .idle := by
    intro q
    rcases eq_or_ne q 0xD0000010 with rfl | h1
    · exact hwriter
    · rcases eq_or_ne q 0xD0000200 with rfl | h2
      · exact hreader
      · rw [run_pc_of_ne (q := q) hrun (by simp [shortReadRun, PipeAction.process, h1.symm, h2.symm])]
        rfl
  refine ⟨s, hrun, hcount, hsem, hclosed, fun h => ?_⟩
  have := (h hpc).1 (by omega)
  omega

end MayaOs.Kernel
