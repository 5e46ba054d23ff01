import MayaOs.Apps.Shell

/-!
# Notifications (`gui/notification.c`)

The tick count is an argument. A frame is what `desktop_render` does of it: `notification_update` and
then `notification_render`, of which there are the positions and the texts of the toasts.
-/

namespace MayaOs.Gui

open MayaOs.Lib
open MayaOs.Apps

def maxNotifications : Nat := 8
def notificationDuration : UInt32 := 5000

/-- An array for a text of at most `n` characters. -/
abbrev TextBuffer (n : Nat) := { buffer : Bytes // buffer[n]? = some 0 }

def TextBuffer.zero (n : Nat) : TextBuffer n :=
  ⟨List.replicate (n + 1) 0, by rw [List.getElem?_replicate, if_pos (Nat.lt_succ_self n)]⟩

/-- `strncpy` of `n` characters. -/
def TextBuffer.copy {n : Nat} (b : TextBuffer n) (text : Bytes) : TextBuffer n :=
  ⟨strncpy b.1 text n, (getElem?_strncpy b.1 text (Nat.le_refl n)).trans b.2⟩

/-- `notification_t`. -/
structure Toast where
  title : TextBuffer 63
  message : TextBuffer 127
  startTime : UInt32
  active : Bool
  deriving DecidableEq

def Toast.zero : Toast where
  title := TextBuffer.zero 63
  message := TextBuffer.zero 127
  startTime := 0
  active := false

/-- `notification_state`. -/
structure NotificationState where
  queue : List Toast
  count : UInt32
  initialized : Bool
  deriving DecidableEq

def notificationInit : NotificationState where
  queue := List.replicate maxNotifications Toast.zero
  count := 0
  initialized := true

def Toast.fill (t : Toast) (title message : Bytes) (now : UInt32) : Toast where
  title := t.title.copy title
  message := t.message.copy message
  startTime := now
  active := true

/-- The loop of `notification_push`: the queue with a new toast, `none` when there is no free slot. -/
def pushLoop (title message : Bytes) (now : UInt32) : List Toast → Option (List Toast)
  | [] => none
  | t :: queue =>
    if t.active then (pushLoop title message now queue).map (t :: ·)
    else some (t.fill title message now :: queue)

def notificationPush (s : NotificationState) (title message : Bytes) (now : UInt32) :
    NotificationState :=
  if s.initialized = false then s
  else
    match pushLoop title message now s.queue with
    | none => s
    | some queue => { s with queue := queue, count := s.count + 1 }

/-- The loop of `notification_update`. -/
def updateLoop (now : UInt32) : List Toast → UInt32 → List Toast × UInt32
  | [], count => ([], count)
  | t :: queue, count =>
    if t.active ∧ notificationDuration < now - t.startTime then
      let (queue, count) := updateLoop now queue (count - 1)
      ({ t with active := false } :: queue, count)
    else
      let (queue, count) := updateLoop now queue count
      (t :: queue, count)

def notificationUpdate (s : NotificationState) (now : UInt32) : NotificationState :=
  let (queue, count) := updateLoop now s.queue s.count
  { s with queue := queue, count := count }

/-- A toast on the screen. -/
structure ToastDrawing where
  y : Int
  title : Bytes
  message : Bytes
  deriving Repr, DecidableEq

/-- The loop of `notification_render`. -/
def renderLoop : Int → List Toast → List ToastDrawing
  | _, [] => []
  | y, t :: queue =>
    if t.active then
      { y := y, title := cString t.title.1, message := cString t.message.1 } ::
        renderLoop (y + 70) queue
    else renderLoop y queue

def notificationRender (s : NotificationState) : List ToastDrawing := renderLoop 20 s.queue

/-! ## Runs -/

inductive NotificationAction where
  | push (title message : Bytes)
  | frame
  | tick (n : Nat)
  deriving Repr, DecidableEq

/-- The notifications and the tick count. -/
structure NotificationCenter where
  state : NotificationState
  ticks : UInt32

def NotificationCenter.start (ticks : UInt32) : NotificationCenter where
  state := notificationInit
  ticks := ticks

def notificationStep (c : NotificationCenter) : NotificationAction → NotificationCenter
  | .push title message => { c with state := notificationPush c.state title message c.ticks }
  | .frame => { c with state := notificationUpdate c.state c.ticks }
  | .tick n => { c with ticks := c.ticks + UInt32.ofNat n }

/-- What the next frame shows. -/
def NotificationCenter.frame (c : NotificationCenter) : List ToastDrawing :=
  notificationRender (notificationUpdate c.state c.ticks)

end MayaOs.Gui
