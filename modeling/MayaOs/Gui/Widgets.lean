import MayaOs.Gui.Window

/-!
# The widgets of a window (`gui/window.c`)

A window has a list of widgets, threaded through their `next` fields. The loops have fuel, `none`
when it does not suffice.

Left out is what `widget_draw` draws: the traversal gives the widgets in the order of the calls.
-/

namespace MayaOs.Gui

open MayaOs.Kernel (null)

abbrev WidgetPtr := Nat

/-- The window manager, the field `widgets` of the records in memory, and the fields `next`. -/
structure WidgetState where
  gui : GuiState
  widgets : WindowPtr → WidgetPtr
  next : WidgetPtr → WidgetPtr

/-- `window_create` does not write the field `widgets`: it is what the memory had there. -/
def widgetWindowCreate (s : WidgetState) (title : Option (List UInt8))
    (x y width height : Int32) (block buffer : Nat) : WindowPtr × WidgetState :=
  let r := windowCreate s.gui title x y width height block buffer
  (r.1, { s with gui := r.2 })

/-- `while (last->next) last = last->next`. -/
def lastWidget (next : WidgetPtr → WidgetPtr) : Nat → WidgetPtr → Option WidgetPtr
  | 0, _ => none
  | fuel + 1, last => if next last = null then some last else lastWidget next fuel (next last)

def windowAddWidget (fuel : Nat) (window : WindowPtr) (s : WidgetState) (widget : WidgetPtr) :
    Option WidgetState :=
  if window = null ∨ widget = null then some s
  else if s.widgets window = null then
    some { s with widgets := Function.update s.widgets window widget }
  else
    (lastWidget s.next fuel (s.widgets window)).map fun last =>
      { s with next := Function.update s.next last widget }

/-- The calls of `widget_draw` from `curr` on. -/
def drawFrom (next : WidgetPtr → WidgetPtr) : Nat → WidgetPtr → Option (List WidgetPtr)
  | 0, _ => none
  | fuel + 1, curr =>
    if curr = null then some [] else (drawFrom next fuel (next curr)).map (curr :: ·)

def windowDrawWidgets (fuel : Nat) (s : WidgetState) (window : WindowPtr) :
    Option (List WidgetPtr) :=
  if window = null then some [] else drawFrom s.next fuel (s.widgets window)

/-- Nothing is drawn for an empty list. -/
theorem windowDrawWidgets_null {fuel : Nat} (hfuel : 0 < fuel) {s : WidgetState}
    {window : WindowPtr} (h : s.widgets window = null) :
    windowDrawWidgets fuel s window = some [] := by
  obtain ⟨n, rfl⟩ := Nat.exists_eq_add_one_of_ne_zero (Nat.ne_zero_of_lt hfuel)
  unfold windowDrawWidgets
  rw [h]
  split <;> rfl

end MayaOs.Gui
