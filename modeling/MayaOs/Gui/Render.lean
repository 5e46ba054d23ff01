import MayaOs.Gui.Graphics
import MayaOs.Gui.Widgets

/-!
# Rendering the windows (`gui/window.c`)

What `window_render` and `window_render_all` put on the screen. The contents of the window buffers
are an argument, and so are what the source does not say: the value of `DESKTOP_BACKGROUND`, the
argument `src_width` that `window_render` does not pass to `graphics_blit`, the field `widgets` of a
window, which `window_create` does not write, and what `widget_draw` does to the screen: it draws
through `window_draw_pixel`, a function without a definition.

Left out is `graphics_update`, which has none either.
-/

namespace MayaOs.Gui

open MayaOs.Lib
open MayaOs.Kernel (null)

def windowBorderWidth : Int32 := 2

def colorTitleBgActive : UInt32 := 0x202020
def colorTitleBgInactive : UInt32 := 0x2D2D2D
def colorBorderActive : UInt32 := 0x444444
def colorBorderInactive : UInt32 := 0x666666
def colorButtonClose : UInt32 := 0xE81123
def colorButtonMin : UInt32 := 0x555555
def colorButtonMax : UInt32 := 0x555555

/-- What rendering takes from elsewhere. -/
structure RenderInput where
  /-- `DESKTOP_BACKGROUND` -/
  background : UInt32
  /-- the buffer at a pointer -/
  contents : Nat → Int → UInt32
  /-- what `graphics_blit` finds as its last argument -/
  srcWidth : WindowPtr → Int
  /-- a bound for the turns of a loop -/
  fuel : Nat
  /-- the field `widgets` of a window -/
  widgets : WindowPtr → WidgetPtr
  /-- the field `next` of a widget -/
  next : WidgetPtr → WidgetPtr
  /-- `widget_draw` -/
  widgetDraw : WidgetPtr → WindowPtr → Graphics → Graphics

/-- A button with its letter. -/
def drawButton (screen : Graphics) (r : Window) (x y width height : Int32) (color : UInt32)
    (letter : UInt8) : Graphics :=
  let screen := graphicsFillRect screen (r.x + x).toInt (r.y + y).toInt width.toInt height.toInt color
  graphicsDrawText screen [letter, 0] (r.x + x + 3).toInt (r.y + y + 3).toInt 0xFFFFFF

def windowRender (i : RenderInput) (g : GuiState) (screen : Graphics) (window : WindowPtr) :
    Option Graphics :=
  let r := g.mem window
  if g.wm.initialized = false ∨ window = null ∨ r.visible = false then some screen
  else do
    let focused := window == g.wm.focusedWindow
    let screen ← graphicsDrawRect i.fuel screen r.x.toInt r.y.toInt r.width.toInt r.height.toInt
      (if focused then colorBorderActive else colorBorderInactive)
    let screen := graphicsFillRect screen (r.x + windowBorderWidth).toInt
      (r.y + windowBorderWidth).toInt (r.width - 2 * windowBorderWidth).toInt
      windowTitleHeight.toInt (if focused then colorTitleBgActive else colorTitleBgInactive)
    let screen := graphicsDrawText screen r.title (r.x + 10).toInt
      (r.y + windowTitleHeight / 2 - 4).toInt 0xFFFFFF
    let screen := drawButton screen r r.closeX r.closeY r.closeW r.closeH colorButtonClose 0x58
    let screen := drawButton screen r r.maxX r.maxY r.maxW r.maxH colorButtonMax 0x4F
    let screen := drawButton screen r r.minX r.minY r.minW r.minH colorButtonMin 0x2D
    let contents := if r.buffer = null then none else some (i.contents r.buffer)
    let screen := (graphicsBlit screen contents (r.x + windowBorderWidth).toInt
      (r.y + windowBorderWidth + windowTitleHeight).toInt (r.width - 2 * windowBorderWidth).toInt
      (r.height - 2 * windowBorderWidth - windowTitleHeight).toInt (i.srcWidth window)).graphics
    let widgets ← windowDrawWidgets i.fuel ⟨g, i.widgets, i.next⟩ window
    return widgets.foldl (fun screen widget => i.widgetDraw widget window screen) screen

/-- "Render all windows bottom to top". -/
def windowRenderAll (i : RenderInput) (g : GuiState) (screen : Graphics) : Option Graphics :=
  if g.wm.initialized = false then some screen
  else
    (g.wm.windows.take g.wm.windowCount).foldlM (windowRender i g)
      (graphicsClear screen i.background)

end MayaOs.Gui
