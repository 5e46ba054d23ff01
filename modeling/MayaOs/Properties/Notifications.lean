import MayaOs.Gui.Notification

/-!
# What the notifications show

`Board` says what they are for: a toast is shown from when it is posted until a frame finds that more
than 5000 ticks have passed, and a toast that is posted while eight are shown is lost.

* `pushLoop_live`, `updateLoop_live`, `renderLoop_live` — the three loops on the active slots
* `notification_session` — every frame of a run shows what the board has
-/

namespace MayaOs.Gui

open MayaOs.Lib
open MayaOs.Apps

/-! ## The board -/

structure Posted where
  title : Bytes
  message : Bytes
  time : Nat
  deriving Repr, DecidableEq

structure Board where
  now : Nat
  toasts : List Posted
  deriving Repr, DecidableEq

namespace Board

/-- The tick count has 32 bits. -/
def Fresh (b : Board) (p : Posted) : Prop := (b.now - p.time) % 2 ^ 32 ≤ 5000

instance (b : Board) (p : Posted) : Decidable (b.Fresh p) := inferInstanceAs (Decidable (_ ≤ _))

def expire (b : Board) : Board := { b with toasts := b.toasts.filter fun p => b.Fresh p }

/-- At most 63 characters of the title and 127 of the message are kept. -/
def post (b : Board) (title message : Bytes) : Board :=
  if b.toasts.length < maxNotifications then
    { b with
      toasts := b.toasts ++ [⟨(cString title).take 63, (cString message).take 127, b.now⟩] }
  else b

def step (b : Board) : NotificationAction → Board
  | .push title message => b.post title message
  | .frame => b.expire
  | .tick n => { b with now := b.now + n }

end Board

/-! ## The active slots -/

/-- What a slot shows, and since when. -/
def Toast.posting (t : Toast) : Bytes × Bytes × UInt32 :=
  (cString t.title.1, cString t.message.1, t.startTime)

def Posted.stamped (p : Posted) : Bytes × Bytes × UInt32 :=
  (p.title, p.message, UInt32.ofNat p.time)

def live (queue : List Toast) : List (Bytes × Bytes × UInt32) :=
  (queue.filter Toast.active).map Toast.posting

theorem live_cons_of_active {t : Toast} (h : t.active = true) (queue : List Toast) :
    live (t :: queue) = t.posting :: live queue := by
  unfold live
  rw [List.filter_cons_of_pos h, List.map_cons]

theorem live_cons_of_not_active {t : Toast} (h : ¬ t.active = true) (queue : List Toast) :
    live (t :: queue) = live queue := by
  unfold live
  rw [List.filter_cons_of_neg h]

theorem length_live_le (queue : List Toast) : (live queue).length ≤ queue.length := by
  unfold live
  rw [List.length_map]
  exact List.length_filter_le ..

theorem cString_copy {n : Nat} (b : TextBuffer n) (text : Bytes) :
    cString (b.copy text).1 = (cString text).take n := cString_strncpy b.2 text

theorem posting_fill (t : Toast) (title message : Bytes) (now : UInt32) :
    (t.fill title message now).posting = ((cString title).take 63, (cString message).take 127, now) := by
  unfold Toast.posting Toast.fill
  rw [cString_copy, cString_copy]

/-- A free slot takes the toast, and there is one iff not all slots are active. -/
theorem pushLoop_live (title message : Bytes) (now : UInt32) :
    ∀ queue : List Toast,
      match pushLoop title message now queue with
      | none => (live queue).length = queue.length
      | some queue' =>
        (live queue).length < queue.length ∧ queue'.length = queue.length ∧
          (live queue').Perm
            (live queue ++ [((cString title).take 63, (cString message).take 127, now)]) := by
  intro queue
  induction queue with
  | nil => rfl
  | cons t queue ih =>
    by_cases hactive : t.active = true
    · rw [pushLoop, if_pos hactive]
      cases hpush : pushLoop title message now queue with
      | none =>
        rw [hpush] at ih
        rw [live_cons_of_active hactive]
        exact congrArg Nat.succ ih
      | some queue' =>
        rw [hpush] at ih
        obtain ⟨hlt, hlen, hperm⟩ := ih
        rw [live_cons_of_active hactive]
        refine ⟨Nat.succ_lt_succ hlt, congrArg Nat.succ hlen, ?_⟩
        rw [live_cons_of_active hactive]
        exact hperm.cons _
    · rw [pushLoop, if_neg hactive, live_cons_of_not_active hactive]
      refine ⟨Nat.lt_succ_of_le (length_live_le queue), rfl, ?_⟩
      rw [live_cons_of_active rfl, posting_fill]
      exact (List.perm_append_singleton _ _).symm

/-- The slot is not too old. -/
def kept (now : UInt32) (p : Bytes × Bytes × UInt32) : Bool := now - p.2.2 ≤ notificationDuration

theorem ofNat_succ_sub_one (n : Nat) : UInt32.ofNat (n + 1) - 1 = UInt32.ofNat n := by
  rw [UInt32.ofNat_add]
  exact UInt32.add_sub_cancel _ _

/-- The slots that are too old are given up, and counted. -/
theorem updateLoop_live (now : UInt32) :
    ∀ (queue : List Toast) (k : Nat),
      (updateLoop now queue (UInt32.ofNat (k + (live queue).length))).1.length = queue.length ∧
        live (updateLoop now queue (UInt32.ofNat (k + (live queue).length))).1 =
          (live queue).filter (kept now) ∧
        (updateLoop now queue (UInt32.ofNat (k + (live queue).length))).2 =
          UInt32.ofNat (k + ((live queue).filter (kept now)).length) := by
  intro queue
  induction queue with
  | nil => intro k; exact ⟨rfl, rfl, rfl⟩
  | cons t queue ih =>
    intro k
    by_cases hactive : t.active = true
    · rw [live_cons_of_active hactive]
      by_cases hold : notificationDuration < now - t.startTime
      · have hkept : ¬ kept now t.posting = true := by
          show ¬ decide (now - t.startTime ≤ notificationDuration) = true
          rw [decide_eq_true_iff]
          exact UInt32.not_le.mpr hold
        obtain ⟨hlen, hlive, hcount⟩ := ih k
        have hone : k + (t.posting :: live queue).length = k + (live queue).length + 1 := rfl
        rw [hone, updateLoop, if_pos ⟨hactive, hold⟩, ofNat_succ_sub_one,
          List.filter_cons_of_neg hkept]
        refine ⟨congrArg Nat.succ hlen, ?_, hcount⟩
        rw [live_cons_of_not_active
          (show ¬ Toast.active { t with active := false } = true from Bool.false_ne_true)]
        exact hlive
      · have hkept : kept now t.posting = true := by
          show decide (now - t.startTime ≤ notificationDuration) = true
          rw [decide_eq_true_iff]
          exact UInt32.not_lt.mp hold
        obtain ⟨hlen, hlive, hcount⟩ := ih (k + 1)
        have hone : k + (t.posting :: live queue).length = k + 1 + (live queue).length := by
          rw [List.length_cons]
          omega
        rw [hone, updateLoop, if_neg fun h => hold h.2, List.filter_cons_of_pos hkept]
        refine ⟨congrArg Nat.succ hlen, ?_, ?_⟩
        · rw [live_cons_of_active hactive]
          exact congrArg _ hlive
        · show (updateLoop _ _ _).2 = _
          rw [hcount, List.length_cons]
          congr 1
          omega
    · obtain ⟨hlen, hlive, hcount⟩ := ih k
      rw [live_cons_of_not_active hactive, updateLoop, if_neg fun h => hactive h.1]
      refine ⟨congrArg Nat.succ hlen, ?_, hcount⟩
      rw [live_cons_of_not_active hactive]
      exact hlive

/-- The active slots are drawn one below the other. -/
theorem renderLoop_live :
    ∀ (queue : List Toast) (y : Int),
      (renderLoop y queue).map (fun d => (d.title, d.message)) =
          (live queue).map (fun p => (p.1, p.2.1)) ∧
        (renderLoop y queue).map ToastDrawing.y =
          (List.range (live queue).length).map fun i : Nat => y + 70 * (i : Int) := by
  intro queue
  induction queue with
  | nil => intro y; exact ⟨rfl, rfl⟩
  | cons t queue ih =>
    intro y
    by_cases hactive : t.active = true
    · obtain ⟨htext, hy⟩ := ih (y + 70)
      rw [renderLoop, if_pos hactive, live_cons_of_active hactive]
      refine ⟨congrArg _ htext, ?_⟩
      rw [List.map_cons, hy, List.length_cons, List.range_succ_eq_map, List.map_cons, List.map_map]
      congr 1
      · simp
      · refine List.map_congr_left fun i _ => ?_
        show y + 70 + 70 * (i : Int) = y + 70 * ((i + 1 : Nat) : Int)
        omega
    · rw [renderLoop, if_neg hactive, live_cons_of_not_active hactive]
      exact ih y

/-! ## Runs -/

/-- The active slots hold what is on the board, in some order. -/
structure OnBoard (b : Board) (c : NotificationCenter) : Prop where
  initialized : c.state.initialized = true
  slots : c.state.queue.length = maxNotifications
  live : (live c.state.queue).Perm (b.toasts.map Posted.stamped)
  count : c.state.count = UInt32.ofNat b.toasts.length
  ticks : c.ticks = UInt32.ofNat b.now
  past : ∀ p ∈ b.toasts, p.time ≤ b.now

variable {b : Board} {c : NotificationCenter}

theorem OnBoard.length (h : OnBoard b c) :
    (Gui.live c.state.queue).length = b.toasts.length := by
  rw [h.live.length_eq, List.length_map]

theorem OnBoard.push (h : OnBoard b c) (title message : Bytes) :
    OnBoard (b.post title message)
      { c with state := notificationPush c.state title message c.ticks } := by
  have hlen := h.length
  have hpush := pushLoop_live title message c.ticks c.state.queue
  have hinit : ¬ c.state.initialized = false := by
    rw [h.initialized]
    decide
  unfold notificationPush Board.post
  simp only [if_neg hinit]
  cases hr : pushLoop title message c.ticks c.state.queue with
  | none =>
    rw [hr] at hpush
    rw [if_neg (by rw [← hlen, hpush, h.slots]; exact Nat.lt_irrefl _)]
    exact h
  | some queue =>
    rw [hr] at hpush
    obtain ⟨hlt, hslots, hperm⟩ := hpush
    rw [if_pos (by rw [← hlen, ← h.slots]; exact hlt)]
    refine ⟨h.initialized, hslots.trans h.slots, ?_, ?_, h.ticks, ?_⟩
    · refine hperm.trans ?_
      rw [List.map_append, h.ticks]
      exact h.live.append_right _
    · show c.state.count + 1 = _
      rw [h.count, List.length_append, UInt32.ofNat_add]
      rfl
    · intro p hp
      rcases List.mem_append.mp hp with hp | hp
      · exact h.past p hp
      · rw [List.mem_singleton.mp hp]

/-- The 32 bits of the tick count tell how old a toast is. -/
theorem kept_stamped {p : Posted} (hp : p.time ≤ b.now) :
    kept (UInt32.ofNat b.now) p.stamped = decide (b.Fresh p) := by
  have hsub : UInt32.ofNat b.now - UInt32.ofNat p.time = UInt32.ofNat (b.now - p.time) :=
    (UInt32.ofNat_sub hp).symm
  refine decide_eq_decide.mpr ?_
  show UInt32.ofNat b.now - UInt32.ofNat p.time ≤ notificationDuration ↔ _
  rw [hsub, UInt32.le_iff_toNat_le, UInt32.toNat_ofNat']
  rfl

theorem OnBoard.update (h : OnBoard b c) :
    OnBoard b.expire { c with state := notificationUpdate c.state c.ticks } := by
  obtain ⟨hlen, hlive, hcount⟩ := updateLoop_live c.ticks c.state.queue 0
  rw [Nat.zero_add, h.length, ← h.count] at hlen hlive hcount
  have hfilter : (b.toasts.map Posted.stamped).filter (kept c.ticks) =
      (b.toasts.filter fun p => b.Fresh p).map Posted.stamped := by
    rw [List.filter_map, h.ticks]
    exact congrArg _ (List.filter_congr fun p hp => kept_stamped (h.past p hp))
  have hperm : ((Gui.live c.state.queue).filter (kept c.ticks)).Perm
      ((b.toasts.filter fun p => b.Fresh p).map Posted.stamped) := by
    rw [← hfilter]
    exact h.live.filter _
  refine ⟨h.initialized, hlen.trans h.slots, ?_, ?_, h.ticks, ?_⟩
  · show (Gui.live (updateLoop _ _ _).1).Perm _
    rw [hlive]
    exact hperm
  · show (updateLoop _ _ _).2 = _
    rw [hcount, Nat.zero_add, hperm.length_eq, List.length_map]
    rfl
  · exact fun p hp => h.past p (List.mem_of_mem_filter hp)

theorem OnBoard.step (h : OnBoard b c) (a : NotificationAction) :
    OnBoard (b.step a) (notificationStep c a) := by
  cases a with
  | push title message => exact h.push title message
  | frame => exact h.update
  | tick n =>
    refine ⟨h.initialized, h.slots, h.live, h.count, ?_, ?_⟩
    · show c.ticks + UInt32.ofNat n = UInt32.ofNat (b.now + n)
      rw [h.ticks, UInt32.ofNat_add]
    · exact fun p hp => Nat.le_trans (h.past p hp) (Nat.le_add_right ..)

theorem OnBoard.run :
    ∀ (as : List NotificationAction) {b : Board} {c : NotificationCenter}, OnBoard b c →
      OnBoard (as.foldl Board.step b) (as.foldl notificationStep c) := by
  intro as
  induction as with
  | nil => exact id
  | cons a as ih => exact fun h => ih (h.step a)

theorem onBoard_start (now : Nat) :
    OnBoard ⟨now, []⟩ (NotificationCenter.start (UInt32.ofNat now)) where
  initialized := rfl
  slots := rfl
  live := by
    show (Gui.live (List.replicate 8 Toast.zero)).Perm []
    exact List.Perm.of_eq rfl
  count := rfl
  ticks := rfl
  past := fun _ h => absurd h List.not_mem_nil

/-- What the notifications are after a run that begins at `notification_init`. -/
def centerAfter (now : Nat) (as : List NotificationAction) : NotificationCenter :=
  as.foldl notificationStep (NotificationCenter.start (UInt32.ofNat now))

/-- What is on the board after the same run. -/
def boardAfter (now : Nat) (as : List NotificationAction) : Board := as.foldl Board.step ⟨now, []⟩

/--
**Every frame shows what is on the board and not too old, in some order, one toast below the other.**

Whether a toast is too old is decided by 32 bits of the ticks since it was posted.
-/
theorem notification_session (now : Nat) (as : List NotificationAction) :
    ((centerAfter now as).frame.map fun d => (d.title, d.message)).Perm
        ((boardAfter now as).expire.toasts.map fun p => (p.title, p.message)) ∧
      (centerAfter now as).frame.map ToastDrawing.y =
        (List.range (boardAfter now as).expire.toasts.length).map (fun i : Nat => 20 + 70 * (i : Int)) ∧
      (centerAfter now as).state.count = UInt32.ofNat (boardAfter now as).toasts.length ∧
      (boardAfter now as).toasts.length ≤ maxNotifications := by
  have hrun : OnBoard (boardAfter now as) (centerAfter now as) := (onBoard_start now).run as
  have hframe := hrun.update
  obtain ⟨htext, hy⟩ := renderLoop_live
    (notificationUpdate (centerAfter now as).state (centerAfter now as).ticks).queue 20
  refine ⟨?_, ?_, hrun.count, ?_⟩
  · show ((renderLoop 20 _).map _).Perm _
    rw [htext]
    refine (hframe.live.map fun p => (p.1, p.2.1)).trans (List.Perm.of_eq ?_)
    rw [List.map_map]
    rfl
  · show (renderLoop 20 _).map _ = _
    rw [hy, hframe.length]
  · rw [← hrun.length, ← hrun.slots]
    exact length_live_le _

end MayaOs.Gui
