import LeanMiniViews.Bisection
import LeanMiniViews.MathCore

/-!
`DeviceContext`: what it owns among the handles of the GDI, the extents it measures for a text,
and the lines into which it breaks one. A text is its code units; what else is drawn, and how, is
left out.
-/

namespace LeanMiniViews

/-! Handles. -/

/-- A device context is obtained for a window, or created in memory, or comes from elsewhere. -/
inductive HDC where
  | window (serial : Nat)
  | memory (serial : Nat)
  | supplied (handle : Nat)
deriving DecidableEq, Repr

/-- What one object has been given and has not yet given back. A device context in memory goes
with the bitmap created here that is selected into it. No call has a result that is made with a
device context or a bitmap that is gone, or that gives back what was not given. -/
structure Gdi where
  windowDcs : List (Nat × HWND)
  memoryDcs : List (Nat × Option Nat)
  bitmaps : List Nat
  serial : Nat
deriving DecidableEq, Repr

namespace Gdi

def empty : Gdi := ⟨[], [], [], 0⟩

def usable (gdi : Gdi) : HDC → Bool
  | .window serial => gdi.windowDcs.any fun owned => owned.1 = serial
  | .memory serial => gdi.memoryDcs.any fun owned => owned.1 = serial
  | .supplied _ => true

/-- A call with `NULL` fails, which does no harm. -/
def use (gdi : Gdi) : Option HDC → Option Gdi
  | none => some gdi
  | some hDC => if gdi.usable hDC then some gdi else none

def getDC (gdi : Gdi) (hWnd : HWND) (succeeds : Bool) : Option HDC × Gdi :=
  if succeeds then
    (some (.window gdi.serial),
      { gdi with windowDcs := (gdi.serial, hWnd) :: gdi.windowDcs, serial := gdi.serial + 1 })
  else (none, gdi)

def releaseDC (gdi : Gdi) (hWnd : HWND) : Option HDC → Option Gdi
  | some (.window serial) =>
      if (serial, hWnd) ∈ gdi.windowDcs then
        some { gdi with windowDcs := gdi.windowDcs.erase (serial, hWnd) }
      else none
  | _ => none

def createCompatibleDC (gdi : Gdi) (hDC : Option HDC) (succeeds : Bool) :
    Option (Option HDC × Gdi) :=
  (gdi.use hDC).map fun gdi =>
    if succeeds then
      (some (.memory gdi.serial),
        { gdi with memoryDcs := (gdi.serial, none) :: gdi.memoryDcs, serial := gdi.serial + 1 })
    else (none, gdi)

def deleteDC (gdi : Gdi) : Option HDC → Option Gdi
  | some (.memory serial) =>
      if gdi.usable (.memory serial) then
        some { gdi with memoryDcs := gdi.memoryDcs.filter fun owned => owned.1 ≠ serial }
      else none
  | _ => none

def createCompatibleBitmap (gdi : Gdi) (hDC : Option HDC) (succeeds : Bool) :
    Option (Option Nat × Gdi) :=
  (gdi.use hDC).map fun gdi =>
    if succeeds then
      (some gdi.serial, { gdi with bitmaps := gdi.serial :: gdi.bitmaps, serial := gdi.serial + 1 })
    else (none, gdi)

/-- Which bitmap created here a device context in memory has from now on. -/
def setSelected (gdi : Gdi) (hDC : Option HDC) (bitmap : Option Nat) : Gdi :=
  match hDC with
  | some (.memory serial) =>
      { gdi with
        memoryDcs := gdi.memoryDcs.map fun owned =>
          if owned.1 = serial then (serial, bitmap) else owned }
  | _ => gdi

def selectBitmap (gdi : Gdi) (hDC : Option HDC) (bitmap : Nat) (succeeds : Bool) : Option Gdi :=
  if bitmap ∈ gdi.bitmaps then
    (gdi.use hDC).map fun gdi => if succeeds then gdi.setSelected hDC (some bitmap) else gdi
  else none

/-- An object that was not created here takes the place of one of its kind. -/
def selectOther (gdi : Gdi) (hDC : Option HDC) (isBitmap succeeds : Bool) : Option Gdi :=
  (gdi.use hDC).map fun gdi => if isBitmap && succeeds then gdi.setSelected hDC none else gdi

def isSelected (gdi : Gdi) (bitmap : Nat) : Bool :=
  gdi.memoryDcs.any fun owned => owned.2 = some bitmap

/-- A bitmap that is selected into a device context is not deleted. -/
def deleteObject (gdi : Gdi) (bitmap : Nat) : Option Gdi :=
  if bitmap ∈ gdi.bitmaps then
    if gdi.isSelected bitmap then some gdi
    else some { gdi with bitmaps := gdi.bitmaps.erase bitmap }
  else none

end Gdi

/-- `NULL` is `none`, but `0` for a window. The objects that were selected before are none of
those created here. -/
structure DeviceContext where
  hWnd : HWND
  hDC : Option HDC
  parentDC : Option HDC
  memBitmap : Option Nat
  drawArea : Rect
  originalObject : Option Nat
  originalParentObject : Option Nat
deriving DecidableEq, Repr

namespace DeviceContext

/-- Which of the calls that set up a buffer succeed, and what the bitmap replaces. -/
structure BufferAnswers where
  memoryDC : Bool
  bitmap : Bool
  replaced : Option Nat
deriving DecidableEq, Repr

/-- Whether the objects selected before can be selected again. -/
structure RestoreAnswers where
  object : Bool
  parentObject : Bool
deriving DecidableEq, Repr

/-- What was selected first into a device context in memory is a bitmap. -/
def unselect (original : Option Nat) (hDC : Option HDC) (gdi : Gdi) (succeeds : Bool) :
    Option Gdi :=
  if original ≠ none then gdi.selectOther hDC true succeeds else some gdi

def deleteBitmap (memBitmap : Option Nat) (gdi : Gdi) : Option Gdi :=
  match memBitmap with
  | some bitmap => gdi.deleteObject bitmap
  | none => some gdi

def unbuffer (dc : DeviceContext) (gdi : Gdi) (restored : RestoreAnswers) :
    Option (DeviceContext × Gdi) :=
  (unselect dc.originalObject dc.hDC gdi restored.object).bind fun gdi =>
    (deleteBitmap dc.memBitmap gdi).bind fun gdi =>
      let dc := { dc with originalObject := none, memBitmap := none }
      if dc.hDC ≠ none ∧ dc.parentDC ≠ none then
        (gdi.deleteDC dc.hDC).map fun gdi =>
          ({ dc with
              hDC := dc.parentDC
              originalObject := dc.originalParentObject
              parentDC := none
              originalParentObject := none
              memBitmap := none
              drawArea := Rect.empty }, gdi)
      else some (dc, gdi)

def unbuffered (dc : DeviceContext) : DeviceContext :=
  { dc with
    hDC := dc.parentDC
    originalObject := dc.originalParentObject
    parentDC := none
    originalParentObject := none
    memBitmap := none
    drawArea := Rect.empty }

def buffer (dc : DeviceContext) (gdi : Gdi) (area : Rect) (answers : BufferAnswers) :
    Option (Bool × DeviceContext × Gdi) :=
  if dc.hDC ≠ none then
    let dc := { dc with
      parentDC := dc.hDC
      originalParentObject := dc.originalObject
      originalObject := none }
    (gdi.createCompatibleDC dc.parentDC answers.memoryDC).bind fun (hDC, gdi) =>
      let dc := { dc with hDC := hDC }
      if hDC ≠ none then
        (gdi.createCompatibleBitmap dc.parentDC answers.bitmap).bind fun (memBitmap, gdi) =>
          let dc := { dc with memBitmap := memBitmap }
          match memBitmap with
          | some bitmap =>
              let dc := { dc with drawArea := area }
              (gdi.selectBitmap dc.hDC bitmap (answers.replaced ≠ none)).bind fun gdi =>
                if answers.replaced ≠ none then
                  some (true, { dc with originalObject := answers.replaced }, gdi)
                else
                  (gdi.deleteObject bitmap).bind fun gdi =>
                    (gdi.deleteDC dc.hDC).map fun gdi => (false, unbuffered dc, gdi)
          | none => (gdi.deleteDC dc.hDC).map fun gdi => (false, unbuffered dc, gdi)
      else some (false, unbuffered dc, gdi)
  else some (false, dc, gdi)

def matchesDimensions (dc : DeviceContext) (area : Rect) : Bool :=
  dc.drawArea.left = area.left && dc.drawArea.top = area.top &&
    dc.drawArea.right = area.right && dc.drawArea.bottom = area.bottom

/-- Both device contexts are used before they go. -/
def release (dc : DeviceContext) (gdi : Gdi) (restored : RestoreAnswers) :
    Option (DeviceContext × Gdi) :=
  (unselect dc.originalObject dc.hDC gdi restored.object).bind fun gdi =>
    (unselect dc.originalParentObject dc.parentDC gdi restored.parentObject).bind fun gdi =>
      (deleteBitmap dc.memBitmap gdi).bind fun gdi =>
        let released :=
          if dc.hDC ≠ none then
            if dc.parentDC ≠ none then
              (gdi.deleteDC dc.hDC).bind fun gdi =>
                if dc.hWnd ≠ 0 then gdi.releaseDC dc.hWnd dc.parentDC else some gdi
            else if dc.hWnd ≠ 0 then gdi.releaseDC dc.hWnd dc.hDC
            else some gdi
          else some gdi
        released.map fun gdi => (⟨0, none, none, none, Rect.empty, none, none⟩, gdi)

/-- What the selection answers is what `replaced` says. -/
def selectObject (dc : DeviceContext) (gdi : Gdi) (isBitmap : Bool) (replaced : Option Nat) :
    Option (Bool × DeviceContext × Gdi) :=
  if dc.hDC ≠ none then
    (gdi.selectOther dc.hDC isBitmap (replaced ≠ none)).map fun gdi =>
      if dc.originalObject = none then
        if replaced ≠ none then (true, { dc with originalObject := replaced }, gdi)
        else (false, dc, gdi)
      else (decide (replaced ≠ none), dc, gdi)
  else some (false, dc, gdi)

def bitBlt (gdi : Gdi) (target source : Option HDC) : Option Gdi :=
  (gdi.use target).bind fun gdi => gdi.use source

def flushBuffer (dc : DeviceContext) (gdi : Gdi) (copies : Bool) : Option (Bool × Gdi) :=
  if dc.parentDC ≠ none then (bitBlt gdi dc.parentDC dc.hDC).map fun gdi => (copies, gdi)
  else some (false, gdi)

/-- The overload with a target, of which only the device context matters here. -/
def flushBufferTo (dc : DeviceContext) (gdi : Gdi) (target : Option HDC) (copies : Bool) :
    Option (Bool × Gdi) :=
  (bitBlt gdi target dc.hDC).map fun gdi => (copies, gdi)

def setBuffer (dc : DeviceContext) (gdi : Gdi) (area : Rect) (given : Option HDC)
    (restored : RestoreAnswers) (answers : BufferAnswers) :
    Option (Bool × DeviceContext × Gdi) :=
  if given = none then
    if dc.parentDC ≠ none ∧ dc.matchesDimensions area then some (true, dc, gdi)
    else (dc.unbuffer gdi restored).bind fun (dc, gdi) => dc.buffer gdi area answers
  else if dc.hDC = none then { dc with hDC := given }.buffer gdi area answers
  else if given = dc.parentDC ∧ dc.matchesDimensions area then some (true, dc, gdi)
  else if dc.parentDC ≠ none then
    if given ≠ dc.parentDC then
      (dc.release gdi restored).bind fun (dc, gdi) =>
        { dc with hDC := given }.buffer gdi area answers
    else (dc.unbuffer gdi restored).bind fun (dc, gdi) => dc.buffer gdi area answers
  else if given = dc.hDC then dc.buffer gdi area answers
  else
    (dc.release gdi restored).bind fun (dc, gdi) =>
      { dc with hDC := given }.buffer gdi area answers

/-- The constructors, with what their calls answer. -/
inductive Construction where
  | default
  | ofHDC (hDC : Option HDC)
  | ofHWND (hWnd : HWND) (obtained : Bool) (clientRect : Rect)
  | sized (hWnd : HWND) (obtained : Bool) (width height : Int) (answers : BufferAnswers)
  | ofArea (hWnd : HWND) (obtained : Bool) (area : Rect) (answers : BufferAnswers)
deriving DecidableEq, Repr

/-- Where nothing is obtained, `hWnd = NULL` sets the parameter: the member keeps the window. -/
def obtain (hWnd : HWND) (obtained : Bool) : DeviceContext × Gdi :=
  let (hDC, gdi) := Gdi.empty.getDC hWnd obtained
  (⟨hWnd, hDC, none, none, Rect.empty, none, none⟩, gdi)

/-- Nothing was selected before that a new object could have to restore. -/
def construct : Construction → Option (DeviceContext × Gdi)
  | .default => some (⟨0, none, none, none, Rect.empty, none, none⟩, .empty)
  | .ofHDC hDC => some (⟨0, hDC, none, none, Rect.empty, none, none⟩, .empty)
  | .ofHWND hWnd obtained clientRect =>
      let (dc, gdi) := obtain hWnd obtained
      if dc.hDC = none then some (dc, gdi) else some ({ dc with drawArea := clientRect }, gdi)
  | .sized hWnd obtained width height answers =>
      let (dc, gdi) := obtain hWnd obtained
      if dc.hDC = none then some (dc, gdi)
      else
        (dc.setBuffer gdi ⟨0, 0, width, height⟩ none ⟨true, true⟩ answers).map fun buffered =>
          buffered.2
  | .ofArea hWnd obtained area answers =>
      let (dc, gdi) := obtain hWnd obtained
      if dc.hDC = none then some (dc, gdi)
      else (dc.setBuffer gdi area none ⟨true, true⟩ answers).map fun buffered => buffered.2

inductive Event where
  | setBuffer (area : Rect) (given : Option HDC) (restored : RestoreAnswers)
      (answers : BufferAnswers)
  | selectObject (isBitmap : Bool) (replaced : Option Nat)
  | flushBuffer (copies : Bool)
  | flushBufferTo (target : Option HDC) (copies : Bool)
  | release (restored : RestoreAnswers)
deriving DecidableEq, Repr

def step : DeviceContext × Gdi → Event → Option (DeviceContext × Gdi)
  | (dc, gdi), .setBuffer area given restored answers =>
      (dc.setBuffer gdi area given restored answers).map fun buffered => buffered.2
  | (dc, gdi), .selectObject isBitmap replaced =>
      (dc.selectObject gdi isBitmap replaced).map fun selected => selected.2
  | (dc, gdi), .flushBuffer copies =>
      (dc.flushBuffer gdi copies).map fun flushed => (dc, flushed.2)
  | (dc, gdi), .flushBufferTo target copies =>
      (dc.flushBufferTo gdi target copies).map fun flushed => (dc, flushed.2)
  | (dc, gdi), .release restored => dc.release gdi restored

/-! Text extents. -/

structure LineSize (CodeUnit : Type) where
  str : List CodeUnit
  width : Int
  height : Int
deriving DecidableEq, Repr

def loWord (value : UInt32) : Int := (value &&& 0xFFFF).toNat

def hiWord (value : UInt32) : Int := (value >>> 16).toNat

/-- The answer, and what the two references hold afterwards. -/
structure TabTextExtent where
  found : Bool
  width : Int
  height : Int
deriving DecidableEq, Repr

section Extents

variable {CodeUnit : Type} (getTabbedTextExtent : List CodeUnit → UInt32)

def getTabTextExtent (text : List CodeUnit) (width height : Int) : TabTextExtent :=
  if text.length > 0 then
    let result := getTabbedTextExtent text
    if result ≠ 0 then ⟨true, loWord result, hiWord result⟩ else ⟨false, width, height⟩
  else ⟨false, 0, 0⟩

def equalRange (hash : Nat) (lineCache : List (Nat × LineSize CodeUnit)) :
    List (Nat × LineSize CodeUnit) :=
  lineCache.filter fun entry => entry.1 = hash

/-- The overload with a cache, and the cache after the call. -/
def getTabTextExtentCached [DecidableEq CodeUnit] (strHash : List CodeUnit → Nat)
    (text : List CodeUnit) (width height : Int) (lineCache : List (Nat × LineSize CodeUnit)) :
    TabTextExtent × List (Nat × LineSize CodeUnit) :=
  if text.length > 0 then
    let hash := strHash text
    match (equalRange hash lineCache).find? fun entry => entry.2.str = text with
    | some (_, lineSize) => (⟨true, lineSize.width, lineSize.height⟩, lineCache)
    | none =>
        let result := getTabbedTextExtent text
        if result ≠ 0 then
          let lineSize := ⟨text, loWord result, hiWord result⟩
          (⟨true, loWord result, hiWord result⟩, lineCache ++ [(hash, lineSize)])
        else (⟨false, width, height⟩, lineCache)
  else (⟨false, 0, 0⟩, lineCache)

structure ExtentCall (CodeUnit : Type) where
  text : List CodeUnit
  width : Int
  height : Int
deriving DecidableEq, Repr

def extentCalls [DecidableEq CodeUnit] (strHash : List CodeUnit → Nat) :
    List (ExtentCall CodeUnit) → List (Nat × LineSize CodeUnit) →
      List TabTextExtent × List (Nat × LineSize CodeUnit)
  | [], lineCache => ([], lineCache)
  | call :: rest, lineCache =>
      let (extent, filled) := getTabTextExtentCached getTabbedTextExtent strHash call.text
        call.width call.height lineCache
      let (later, last) := extentCalls strHash rest filled
      (extent :: later, last)

end Extents

/-! Lines of text. -/

structure DrawnText (CodeUnit : Type) where
  x : Int
  y : Int
  text : List CodeUnit
deriving DecidableEq, Repr

section Wrapping

variable {CodeUnit : Type} (getTextExtentPoint32 : List CodeUnit → Size)

/-- The number of characters of the next line, with the last one corrected if needed. -/
def lineLength (width : Int) (str : List CodeUnit) (fuel : Nat) : Option Nat :=
  let tooWide count := decide ((getTextExtentPoint32 (str.take count)).cx > width)
  (Bisection.narrow tooWide fuel 0 str.length).map fun found =>
    if tooWide (found.1 + 1) then found.1 else found.2

/-- The lines from `prevBottom` on. Both loops are cut short by the fuel. -/
def wrapLines (textArea : Rect) (lineHeight : Int) :
    Nat → Int → List CodeUnit → Option (List (DrawnText CodeUnit))
  | 0, _, _ => none
  | fuel + 1, prevBottom, str =>
      if (textArea.top + textArea.height) - prevBottom > lineHeight ∧ str.length > 0 then
        (lineLength getTextExtentPoint32 textArea.width str (fuel + 1)).bind fun lastCharPos =>
          (wrapLines textArea lineHeight fuel (prevBottom + lineHeight)
            (str.drop lastCharPos)).map fun later =>
              ⟨textArea.left, prevBottom, str.take lastCharPos⟩ :: later
      else some []

def drawWrappableText (fuel : Nat) (text : List CodeUnit) (textArea : Rect) :
    Option (List (DrawnText CodeUnit)) :=
  let strSize := getTextExtentPoint32 text
  let lineHeight := strSize.cy
  if strSize.cx < textArea.width then some [⟨textArea.left, textArea.top, text⟩]
  else if textArea.height > lineHeight then
    wrapLines getTextExtentPoint32 textArea lineHeight fuel textArea.top text
  else some []

end Wrapping

end DeviceContext

end LeanMiniViews
