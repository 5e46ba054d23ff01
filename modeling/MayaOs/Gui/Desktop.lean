import MayaOs.Apps.Shell
import MayaOs.Lib.MachineInt

/-!
# The desktop (`gui/desktop.c`)

The arrays are lists of the cells in use, each with its texts as buffers. Of the drawing functions
there is the grid of the start menu, as the positions and the texts of its icons.

Left out are the fields that no function of this part reads (`category` apart, which is copied), the
other drawing functions, and what the functions do that `desktop_launch_application` calls.
-/

namespace MayaOs.Gui

open MayaOs.Lib
open MayaOs.Apps

def maxApplications : Nat := 32
def maxDesktopIcons : Nat := 32
def taskbarHeight : Int := 28
def startMenuSearchSize : Nat := 64

/-- `application_t`. -/
structure Application where
  name : Bytes
  command : Bytes
  category : Bytes
  running : Bool
  deriving Repr, DecidableEq

/-- `desktop_icon_t`. -/
structure DesktopIcon where
  name : Bytes
  path : Bytes
  x : Int
  y : Int
  width : Int
  height : Int
  iconType : UInt8
  selected : Bool
  deriving Repr, DecidableEq

/-- `desktop_t`. -/
structure Desktop where
  icons : List DesktopIcon
  apps : List Application
  showStartMenu : Bool
  startMenuSearch : Bytes
  startMenuSearchLen : Nat
  showNetworkFlyout : Bool
  showVolumeFlyout : Bool
  showBatteryFlyout : Bool
  deriving Repr, DecidableEq

/-- After `memset(&desktop, 0, sizeof(desktop_t))`. -/
def Desktop.zero : Desktop where
  icons := []
  apps := []
  showStartMenu := false
  startMenuSearch := List.replicate startMenuSearchSize 0
  startMenuSearchLen := 0
  showNetworkFlyout := false
  showVolumeFlyout := false
  showBatteryFlyout := false

/-- `strncpy` of at most `size - 1` characters into an array that is zero. -/
def copyText (size : Nat) (text : Bytes) : Bytes := strncpy (List.replicate size 0) text (size - 1)

def desktopAddApplication (d : Desktop) (name command category : Bytes) : Desktop :=
  if maxApplications ≤ d.apps.length then d
  else
    { d with
      apps := d.apps ++
        [{ name := copyText 64 name
           command := copyText 128 command
           category := copyText 32 category
           running := false }] }

/-! ## The start menu and the flyouts -/

def desktopToggleStartMenu (d : Desktop) : Desktop :=
  let d :=
    { d with
      showStartMenu := !d.showStartMenu
      startMenuSearch := List.replicate startMenuSearchSize 0
      startMenuSearchLen := 0 }
  if d.showStartMenu then
    { d with showNetworkFlyout := false, showVolumeFlyout := false, showBatteryFlyout := false }
  else d

def desktopToggleNetworkFlyout (d : Desktop) : Desktop :=
  let d := { d with showNetworkFlyout := !d.showNetworkFlyout }
  if d.showNetworkFlyout then
    { d with showStartMenu := false, showVolumeFlyout := false, showBatteryFlyout := false }
  else d

def desktopToggleVolumeFlyout (d : Desktop) : Desktop :=
  let d := { d with showVolumeFlyout := !d.showVolumeFlyout }
  if d.showVolumeFlyout then
    { d with showStartMenu := false, showNetworkFlyout := false, showBatteryFlyout := false }
  else d

def desktopToggleBatteryFlyout (d : Desktop) : Desktop :=
  let d := { d with showBatteryFlyout := !d.showBatteryFlyout }
  if d.showBatteryFlyout then
    { d with showStartMenu := false, showNetworkFlyout := false, showVolumeFlyout := false }
  else d

def desktopHandleStartMenuInput (d : Desktop) (ascii : UInt8) : Desktop :=
  if d.showStartMenu = false then d
  else if ascii = 0x08 ∧ 0 < d.startMenuSearchLen then
    { d with
      startMenuSearch := d.startMenuSearch.set (d.startMenuSearchLen - 1) 0
      startMenuSearchLen := d.startMenuSearchLen - 1 }
  else if 0x20 ≤ ascii ∧ ascii ≤ 0x7E ∧ d.startMenuSearchLen < 63 then
    { d with
      startMenuSearch :=
        (d.startMenuSearch.set d.startMenuSearchLen ascii).set (d.startMenuSearchLen + 1) 0
      startMenuSearchLen := d.startMenuSearchLen + 1 }
  else d

/-! ## desktop_draw_start_menu -/

/-- `if (s >= 'A' && s <= 'Z') s += 32`. -/
def lowerChar (c : UInt8) : UInt8 := if 65 ≤ c ∧ c ≤ 90 then c + 32 else c

/-- The loop over the characters of the search, which compares one after the other. -/
def searchMatches (d : Desktop) (app : Application) : Bool :=
  (List.range d.startMenuSearchLen).all fun c =>
    lowerChar (d.startMenuSearch.getD c 0) == lowerChar (app.name.getD c 0)

/-- A square of 48 pixels in the grid, and the text that is drawn below it. -/
structure MenuIcon where
  x : Int
  y : Int
  name : Bytes
  deriving Repr, DecidableEq

def menuWidth : Int := 300
def menuHeight : Int := 400
def menuX : Int := 320 / 2 - menuWidth / 2
def menuY : Int := 200 - taskbarHeight - menuHeight - 10

/-- "Drawing App Grid (Filtered)". -/
def drawAppGrid (d : Desktop) : List Application → Int → Int → List MenuIcon
  | [], _, _ => []
  | app :: apps, gridX, gridY =>
    if 0 < d.startMenuSearchLen ∧ searchMatches d app = false then drawAppGrid d apps gridX gridY
    else
      ⟨gridX, gridY, cString app.name⟩ ::
        if menuX + menuWidth - 64 < gridX + 64 then drawAppGrid d apps (menuX + 20) (gridY + 80)
        else drawAppGrid d apps (gridX + 64) gridY

def desktopDrawStartMenu (d : Desktop) : List MenuIcon :=
  if d.showStartMenu = false then [] else drawAppGrid d d.apps (menuX + 20) (menuY + 50)

/-! ## The icons -/

def desktopAddIcon (d : Desktop) (name path : Bytes) (x y : Int) (type : UInt8) : Desktop :=
  if maxDesktopIcons ≤ d.icons.length then d
  else
    { d with
      icons := d.icons ++
        [{ name := copyText 64 name
           path := copyText 256 path
           x, y, width := 48, height := 48
           iconType := type
           selected := false }] }

def desktopLaunchApplication (d : Desktop) (index : Nat) : Desktop :=
  { d with apps := d.apps.modify index fun app => { app with running := true } }

/-- The position is on the icon. -/
def DesktopIcon.covers (icon : DesktopIcon) (x y : Int) : Bool :=
  icon.x ≤ x ∧ x ≤ int32 (icon.x + icon.width) ∧ icon.y ≤ y ∧ y ≤ int32 (icon.y + icon.height)

/-- The application of this name, and else the file manager. -/
def appForIcon (d : Desktop) (icon : DesktopIcon) : Option Nat :=
  (d.apps.findIdx? fun app => cString app.name == cString icon.name).or
    (d.apps.findIdx? fun app => cString app.name == chars "File Manager")

/-- `double` is what `maya_input_is_double_click` says; with the desktop there is the application that
is launched. -/
def desktopHandleIconClick (d : Desktop) (x y : Int) (double : Bool) : Desktop × Option Nat :=
  match d.icons.findIdx? fun icon => icon.covers x y with
  | none => ({ d with icons := d.icons.map fun icon => { icon with selected := false } }, none)
  | some i =>
    let d := { d with icons := d.icons.mapIdx fun j icon => { icon with selected := i == j } }
    match if double then d.icons[i]?.bind (appForIcon d) else none with
    | none => (d, none)
    | some app => (desktopLaunchApplication d app, some app)

end MayaOs.Gui
