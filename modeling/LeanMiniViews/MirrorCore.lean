import LeanMiniViews.MathCore

/-!
The graphics capture back-end, `WinrtGraphics::Mirror`. The capture item, the
compositor and the Direct3D device are outside the model: what a creation learns
from them is a `CaptureItem`, and of the swap chain only the arguments of its last
creation or resize are kept. Creation is assumed to succeed.
-/

namespace LeanMiniViews

structure SizeInt32 where
  width : Int
  height : Int
deriving DecidableEq, Repr

/-- `D3D11_BOX`, whose coordinates are unsigned -/
structure Box where
  left : Int
  top : Int
  front : Int
  right : Int
  bottom : Int
  back : Int
deriving DecidableEq, Repr

def Box.width (box : Box) : Int := toUInt (box.right - box.left)

def Box.height (box : Box) : Int := toUInt (box.bottom - box.top)

def Box.empty : Box := ⟨0, 0, 0, 0, 0, 1⟩

abbrev PixelFormat := Nat

def b8g8r8a8UIntNormalized : PixelFormat := 87

structure SwapChain where
  bufferCount : Nat
  width : Int
  height : Int
  format : PixelFormat
deriving DecidableEq, Repr

/-- What `CreateForWindow` answers: the root window it was retried with, if the window
itself was refused, and the size of the item. -/
structure CaptureItem where
  rootSourceWindow : Option HWND
  size : SizeInt32
deriving DecidableEq, Repr

structure Mirror where
  hParent : HWND
  hSource : HWND
  graphicsCaptureSource : Bool
  swapChain : Option SwapChain
  size : SizeInt32
  pixelFormat : PixelFormat
  bufferCount : Nat
  clipped : Bool
  clipPaused : Bool
  frameClipRegionInvalid : Bool
  frameClipRegion : Box
  gdiClipRegion : Rect
  gdiSourceSize : Size
deriving DecidableEq, Repr

namespace Mirror

def init : Mirror where
  hParent := 0
  hSource := 0
  graphicsCaptureSource := false
  swapChain := none
  size := ⟨0, 0⟩
  pixelFormat := b8g8r8a8UIntNormalized
  bufferCount := 0
  clipped := false
  clipPaused := false
  frameClipRegionInvalid := true
  frameClipRegion := ⟨0, 0, 0, 0, 0, 0⟩
  gdiClipRegion := Rect.empty
  gdiSourceSize := ⟨0, 0⟩

def clearClipNoLock (mirror : Mirror) : Mirror :=
  { mirror with
    clipped := false
    frameClipRegionInvalid := true
    frameClipRegion := Box.empty
    gdiClipRegion := Rect.empty }

def resetNoLock (mirror : Mirror) : Mirror :=
  { mirror.clearClipNoLock with
    graphicsCaptureSource := false
    swapChain := none
    size := ⟨0, 0⟩
    pixelFormat := b8g8r8a8UIntNormalized
    bufferCount := 0 }

/-- The handle the source returns is the `hSource` of the result. -/
def createMirrorNoLock (mirror : Mirror) (hParent sourceWindow : HWND) (item : CaptureItem)
    (pixelFormat : PixelFormat := b8g8r8a8UIntNormalized) (bufferCount : Nat := 2) : Mirror :=
  let cleared := mirror.clearClipNoLock
  let idle := if cleared.graphicsCaptureSource then cleared.resetNoLock else cleared
  { idle with
    hSource := item.rootSourceWindow.getD sourceWindow
    graphicsCaptureSource := true
    size := item.size
    pixelFormat := pixelFormat
    bufferCount := bufferCount
    hParent := hParent
    swapChain := some ⟨bufferCount, toUInt item.size.width, toUInt item.size.height, pixelFormat⟩ }

def setClipNoLock (mirror : Mirror) (left top right bottom sourceWidth sourceHeight : Int)
    (item : CaptureItem) : Mirror :=
  { mirror.createMirrorNoLock mirror.hParent mirror.hSource item with
    gdiSourceSize := ⟨sourceWidth, sourceHeight⟩
    frameClipRegion := Box.empty
    frameClipRegionInvalid := true
    gdiClipRegion := ⟨left, top, right, bottom⟩
    clipped := true }

def createMirror (mirror : Mirror) (hParent sourceWindow : HWND) (item : CaptureItem)
    (pixelFormat : PixelFormat := b8g8r8a8UIntNormalized) (bufferCount : Nat := 2) : Mirror :=
  mirror.createMirrorNoLock hParent sourceWindow item pixelFormat bufferCount

def handleSourceSizeChange (mirror : Mirror) (sourceWidth sourceHeight : Int)
    (item : CaptureItem) : Mirror :=
  let region := mirror.gdiClipRegion
  if mirror.clipped then
    let resized := { mirror with
      gdiSourceSize := ⟨sourceWidth, sourceHeight⟩
      frameClipRegionInvalid := true }
    resized.setClipNoLock region.left region.top region.right region.bottom
      sourceWidth sourceHeight item
  else if mirror.clipPaused then
    let resumed := { mirror with clipPaused := false }
    resumed.setClipNoLock region.left region.top region.right region.bottom
      sourceWidth sourceHeight item
  else
    mirror.createMirrorNoLock mirror.hParent mirror.hSource item

def setClip (mirror : Mirror) (left top right bottom sourceWidth sourceHeight : Int)
    (item : CaptureItem) : Mirror :=
  mirror.setClipNoLock left top right bottom sourceWidth sourceHeight item

def clearClip (mirror : Mirror) (item : CaptureItem) : Mirror :=
  mirror.clearClipNoLock.createMirrorNoLock mirror.hParent mirror.hSource item

def reset (mirror : Mirror) : Mirror := mirror.resetNoLock

def sourceClosed (mirror : Mirror) : Mirror := mirror.resetNoLock

end Mirror

/-- Signed comparisons with the frame, unsigned ones between the edges. `updateClip` asks
this of the region it has and of the region it computes. -/
def Box.unusable (box : Box) (size : SizeInt32) : Bool :=
  toLong box.right ≥ size.width || toLong box.bottom ≥ size.height ||
    box.left ≥ box.right || box.top ≥ box.bottom

namespace Mirror

def sourceHasSize (mirror : Mirror) : Bool :=
  mirror.gdiSourceSize.cx > 0 && mirror.gdiSourceSize.cy > 0

def scaledRegion (mirror : Mirror) : Box :=
  { mirror.frameClipRegion with
    left := toUInt ((mulLong mirror.size.width mirror.gdiClipRegion.left).tdiv
      mirror.gdiSourceSize.cx)
    top := toUInt ((mulLong mirror.size.height mirror.gdiClipRegion.top).tdiv
      mirror.gdiSourceSize.cy)
    right := toUInt ((mulLong mirror.size.width mirror.gdiClipRegion.right).tdiv
      mirror.gdiSourceSize.cx)
    bottom := toUInt ((mulLong mirror.size.height mirror.gdiClipRegion.bottom).tdiv
      mirror.gdiSourceSize.cy) }

/-- The result of the source is the `clipped` of the result. -/
def updateClip (mirror : Mirror) (sizeChanged : Bool) : Mirror :=
  if sizeChanged || mirror.frameClipRegionInvalid ||
      mirror.frameClipRegion.unusable mirror.size then
    if mirror.sourceHasSize then
      let invalid := mirror.scaledRegion.unusable mirror.size
      { mirror with
        frameClipRegion := mirror.scaledRegion
        frameClipRegionInvalid := invalid
        clipped := !invalid
        clipPaused := true }
    else
      { mirror with clipped := false }
  else
    mirror

/-- `ResizeBuffers`, which faults on a null swap chain -/
def resizeBuffers (mirror : Mirror) (width height : Int) : Option Mirror :=
  mirror.swapChain.map fun _ =>
    { mirror with swapChain := some ⟨mirror.bufferCount, width, height, mirror.pixelFormat⟩ }

def refreshSwapChain (mirror : Mirror) (sizeChanged : Bool) : Option Mirror :=
  let updated := if mirror.clipped then mirror.updateClip sizeChanged else mirror
  if updated.clipped then
    updated.resizeBuffers updated.frameClipRegion.width updated.frameClipRegion.height
  else
    updated.resizeBuffers (toUInt updated.size.width) (toUInt updated.size.height)

/-- The flag the source returns only decides whether the frame pool is recreated. -/
def updateSize (mirror : Mirror) (size : SizeInt32) : Option Mirror :=
  if size.width ≠ mirror.size.width ∨ size.height ≠ mirror.size.height then
    { mirror with size := size }.refreshSwapChain true
  else if mirror.clipped then
    some (mirror.updateClip false)
  else
    some mirror

inductive Copy where
  | subresourceRegion (box : Box)
  | resource
deriving DecidableEq, Repr

def copyFrame (mirror : Mirror) : Option Copy :=
  mirror.swapChain.map fun _ =>
    if mirror.clipped then Copy.subresourceRegion mirror.frameClipRegion else Copy.resource

/-- The mirror as `copyFrame` sees it and the copy it makes. There is no result where the
source dereferences a null swap chain. -/
def frameArrived (mirror : Mirror) (contentSize : SizeInt32) : Option (Mirror × Copy) :=
  (mirror.updateSize contentSize).bind fun updated =>
    updated.copyFrame.map fun copy => (updated, copy)

/-- Everything that can happen to a mirror. The handlers run one at a time, under
`readWriteGuard`. -/
inductive Event where
  | createMirror (hParent sourceWindow : HWND) (item : CaptureItem)
  | handleSourceSizeChange (sourceWidth sourceHeight : Int) (item : CaptureItem)
  | setClip (region : Rect) (sourceWidth sourceHeight : Int) (item : CaptureItem)
  | clearClip (item : CaptureItem)
  | reset
  | sourceClosed
  | frameArrived (contentSize : SizeInt32)
deriving DecidableEq, Repr

def step (mirror : Mirror) : Event → Option Mirror
  | .createMirror hParent sourceWindow item => some (mirror.createMirror hParent sourceWindow item)
  | .handleSourceSizeChange sourceWidth sourceHeight item =>
      some (mirror.handleSourceSizeChange sourceWidth sourceHeight item)
  | .setClip region sourceWidth sourceHeight item =>
      some (mirror.setClip region.left region.top region.right region.bottom
        sourceWidth sourceHeight item)
  | .clearClip item => some (mirror.clearClip item)
  | .reset => some mirror.reset
  | .sourceClosed => some mirror.sourceClosed
  | .frameArrived contentSize => (mirror.frameArrived contentSize).map Prod.fst

inductive SourceEvent where
  | handleSourceSizeChange (sourceWidth sourceHeight : Int) (item : CaptureItem)
  | frameArrived (contentSize : SizeInt32)
deriving DecidableEq, Repr

def SourceEvent.toEvent : SourceEvent → Event
  | .handleSourceSizeChange sourceWidth sourceHeight item =>
      .handleSourceSizeChange sourceWidth sourceHeight item
  | .frameArrived contentSize => .frameArrived contentSize

def sourceStep (mirror : Mirror) (event : SourceEvent) : Option Mirror :=
  mirror.step event.toEvent

end Mirror

end LeanMiniViews
