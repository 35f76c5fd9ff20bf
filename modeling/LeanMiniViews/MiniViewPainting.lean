import LeanMiniViews.Canvas
import LeanMiniViews.FrozenImage
import LeanMiniViews.Letterbox

/-!
What a view replicated by GDI leaves on its client area, with the double buffer it draws on when
it is letterboxed or frozen. `StretchBlt` is known by the rectangles it is given: which point of
one goes to which of the other is left out, and so is a destination of negative size.
-/

namespace LeanMiniViews

open Canvas

/-- What `StretchBlt` reads from. -/
inductive Replica where
  | sourceDc
  | winGdiImageCache (image : WinGdiImage)
deriving DecidableEq

inductive Ink where
  | colour (colour : UInt32)
  | sysColour (index : Nat)
  | replica (shown : Replica) (source dest : Rect)
  | frozenIcon
deriving DecidableEq

def Rect.contains (rect : Rect) : Region := fun x y =>
  decide (rect.left ≤ x ∧ x < rect.right ∧ rect.top ≤ y ∧ y < rect.bottom)

theorem Rect.contains_iff {rect : Rect} {x y : Int} :
    rect.contains x y = true ↔
      rect.left ≤ x ∧ x < rect.right ∧ rect.top ≤ y ∧ y < rect.bottom :=
  decide_eq_true_iff

/-- A `DeviceContext` of a window as far as it is drawn on: what its client area shows, and the
bitmap of the same size that `setBuffer` selects. -/
structure PaintedContext where
  drawArea : Rect
  window : Surface Ink
  memBitmap : Option (Surface Ink)

namespace PaintedContext

/-- `bitmap` is what the new bitmap holds, if it could be created and selected. -/
def setBuffer (dc : PaintedContext) (bitmap : Option (Surface Ink)) : PaintedContext :=
  { dc with memBitmap := bitmap }

def mark (dc : PaintedContext) (mark : Mark Ink) : PaintedContext :=
  match dc.memBitmap with
  | some bitmap => { dc with memBitmap := some (draw dc.drawArea.contains bitmap mark) }
  | none => { dc with window := draw dc.drawArea.contains dc.window mark }

def fillSysRect (dc : PaintedContext) (rect : Rect) (nIndex : Nat) : PaintedContext :=
  dc.mark ⟨rect.contains, .sysColour nIndex⟩

def stretchBlt (dc : PaintedContext) (stretches : Bool) (shown : Replica) (dest source : Rect) :
    PaintedContext :=
  if stretches then dc.mark ⟨dest.contains, .replica shown source dest⟩ else dc

def drawIconEx (dc : PaintedContext) (xLeft yTop : Int) (icon : Region) : PaintedContext :=
  dc.mark ⟨fun x y => icon (x - xLeft) (y - yTop), .frozenIcon⟩

/-- `copies` is whether `BitBlt` succeeds. -/
def flushBuffer (dc : PaintedContext) (copies : Bool) : PaintedContext :=
  match dc.memBitmap with
  | some bitmap =>
      if copies then { dc with window := copy dc.drawArea.contains dc.window bitmap } else dc
  | none => dc

/-! Several calls, and what the window shows in the end. -/

def drawn (dc : PaintedContext) (marks : List (Mark Ink)) : PaintedContext := marks.foldl mark dc

theorem drawn_eq (dc : PaintedContext) (marks : List (Mark Ink)) :
    dc.drawn marks =
      match dc.memBitmap with
      | some bitmap =>
          { dc with memBitmap := some (drawAll dc.drawArea.contains bitmap marks) }
      | none => { dc with window := drawAll dc.drawArea.contains dc.window marks } := by
  obtain ⟨drawArea, window, memBitmap⟩ := dc
  induction marks generalizing window memBitmap with
  | nil => cases memBitmap <;> rfl
  | cons first later ih =>
      cases memBitmap with
      | some bitmap => exact ih window (some (draw drawArea.contains bitmap first))
      | none => exact ih (draw drawArea.contains window first) none

/-- The client area shows the calls over what was drawn on, and all else stays as it was. -/
theorem flushed_window (dc : PaintedContext) (marks : List (Mark Ink)) (x y : Int) :
    ((dc.drawn marks).flushBuffer true).window x y =
      if dc.drawArea.contains x y then
        (topmost marks x y).getD (dc.memBitmap.getD dc.window x y)
      else dc.window x y := by
  obtain ⟨drawArea, window, memBitmap⟩ := dc
  rw [drawn_eq]
  cases memBitmap with
  | some bitmap => exact copy_drawAll window bitmap marks
  | none =>
      by_cases inside : drawArea.contains x y = true
      · rw [if_pos inside]
        exact drawAll_inside inside window marks
      · rw [if_neg inside]
        exact drawAll_outside (Bool.eq_false_of_not_eq_true inside) window marks

end PaintedContext

/-- Two of the questions a view asks its `IMiniViewUser`. -/
structure PaintUser where
  useCachedImageWhenFrozen : Bool
  showFrozenIndicatorIcon : Bool
deriving DecidableEq, Repr

/-- What the system answers while something is painted: the dots per inch of the two windows, the
new bitmap, whether `StretchBlt` and `BitBlt` succeed, the points of the frozen icon if it is
loaded, and what `drawWrappableText` draws. -/
structure PaintAnswers where
  sourceDpi : Int
  destDpi : Int
  bitmap : Option (Surface Ink)
  stretches : Bool
  copies : Bool
  frozenIcon : Option Region
  text : List (Mark Ink)

def getDpiScaledClip (rcClip : Rect) (sourceDpi destDpi : Int) : Rect :=
  ⟨(rcClip.left * sourceDpi).tdiv destDpi, (rcClip.top * sourceDpi).tdiv destDpi,
    (rcClip.right * sourceDpi).tdiv destDpi, (rcClip.bottom * sourceDpi).tdiv destDpi⟩

def colorBackground : Nat := 1

namespace MiniView

def rcCli (view : MiniView) : Rect := wholeClient view.window.cliWidth view.window.cliHeight

/-- `xSrc`, `ySrc`, `wSrc` and `hSrc` of `PaintMiniView`, as a rectangle. -/
def paintSource (view : MiniView) (desktop : Desktop) (answers : PaintAnswers) : Rect :=
  if view.clipped then getDpiScaledClip view.rcClip answers.sourceDpi answers.destDpi
  else ⟨0, 0, (desktop.sourceWidth * answers.sourceDpi).tdiv answers.destDpi,
    (desktop.sourceHeight * answers.sourceDpi).tdiv answers.destDpi⟩

end MiniView

namespace CachingView

def shownReplica (caching : CachingView) (user : PaintUser) : Replica :=
  if caching.view.isFrozen && user.useCachedImageWhenFrozen then
    caching.winGdiImageCache.elim .sourceDc .winGdiImageCache
  else .sourceDc

def paintMiniView (caching : CachingView) (user : PaintUser) (desktop : Desktop)
    (answers : PaintAnswers) (screen : Surface Ink) : Surface Ink :=
  let view := caching.view
  if view.isGdiCompatible then
    let miniViewDc : PaintedContext := ⟨view.rcCli, screen, none⟩
    let buffered :=
      if view.internallyClipped || view.isFrozen then miniViewDc.setBuffer answers.bitmap
      else miniViewDc
    let filled :=
      if view.internallyClipped then buffered.fillSysRect view.rcCli colorBackground else buffered
    let stretched := filled.stretchBlt answers.stretches (caching.shownReplica user)
      view.paintDest (view.paintSource desktop answers)
    let marked :=
      if view.isFrozen && user.showFrozenIndicatorIcon then
        answers.frozenIcon.elim stretched (stretched.drawIconEx (view.paintDest.width - 32) 0)
      else stretched
    (marked.flushBuffer answers.copies).window
  else screen

def buffers (caching : CachingView) : Bool :=
  caching.view.internallyClipped || caching.view.isFrozen

def frameMarks (caching : CachingView) (user : PaintUser) (desktop : Desktop)
    (answers : PaintAnswers) : List (Mark Ink) :=
  (if caching.view.internallyClipped then
      [⟨caching.view.rcCli.contains, .sysColour colorBackground⟩]
    else []) ++
  (if answers.stretches then
      [⟨caching.view.paintDest.contains, .replica (caching.shownReplica user)
        (caching.view.paintSource desktop answers) caching.view.paintDest⟩]
    else []) ++
  (if caching.view.isFrozen && user.showFrozenIndicatorIcon then
      answers.frozenIcon.elim [] fun icon =>
        [⟨fun x y => icon (x - (caching.view.paintDest.width - 32)) (y - 0), .frozenIcon⟩]
    else [])

theorem paintMiniView_eq {caching : CachingView} (gdi : caching.view.isGdiCompatible = true)
    (user : PaintUser) (desktop : Desktop) (answers : PaintAnswers) (screen : Surface Ink) :
    caching.paintMiniView user desktop answers screen =
      (((⟨caching.view.rcCli, screen,
            if caching.buffers then answers.bitmap else none⟩ : PaintedContext).drawn
          (caching.frameMarks user desktop answers)).flushBuffer answers.copies).window := by
  have opened : (if caching.buffers then
        (⟨caching.view.rcCli, screen, none⟩ : PaintedContext).setBuffer answers.bitmap
      else ⟨caching.view.rcCli, screen, none⟩) =
        ⟨caching.view.rcCli, screen, if caching.buffers then answers.bitmap else none⟩ := by
    cases caching.buffers <;> rfl
  have filled (dc : PaintedContext) :
      (if caching.view.internallyClipped then dc.fillSysRect caching.view.rcCli colorBackground
        else dc) =
        dc.drawn (if caching.view.internallyClipped then
          [⟨caching.view.rcCli.contains, .sysColour colorBackground⟩] else []) := by
    cases caching.view.internallyClipped <;> rfl
  have stretched (dc : PaintedContext) (shown : Replica) (dest source : Rect) :
      dc.stretchBlt answers.stretches shown dest source =
        dc.drawn (if answers.stretches then [⟨dest.contains, .replica shown source dest⟩]
          else []) := by
    cases answers.stretches <;> rfl
  have marked (dc : PaintedContext) (shows : Bool) (xLeft : Int) :
      (if shows then answers.frozenIcon.elim dc (dc.drawIconEx xLeft 0) else dc) =
        dc.drawn (if shows then
          answers.frozenIcon.elim [] fun icon =>
            [⟨fun x y => icon (x - xLeft) (y - 0), .frozenIcon⟩]
          else []) := by
    cases shows with
    | false => rfl
    | true => cases answers.frozenIcon <;> rfl
  rw [buffers] at opened
  rw [paintMiniView, if_pos gdi]
  simp only [opened, filled, stretched, marked]
  simp only [PaintedContext.drawn, frameMarks, buffers, List.foldl_append]
  rfl

/-! What a frame should show. -/

/-- The frozen icon is placed by the width of the destination alone. -/
def showsIcon (caching : CachingView) (user : PaintUser) (answers : PaintAnswers) : Region :=
  fun x y => caching.view.isFrozen && user.showFrozenIndicatorIcon &&
    answers.frozenIcon.any fun icon => icon (x - (caching.view.paintDest.width - 32)) y

def frame (caching : CachingView) (user : PaintUser) (desktop : Desktop)
    (answers : PaintAnswers) : Surface Ink := fun x y =>
  if caching.showsIcon user answers x y then .frozenIcon
  else if caching.view.paintDest.contains x y then
    .replica (caching.shownReplica user) (caching.view.paintSource desktop answers)
      caching.view.paintDest
  else .sysColour colorBackground

theorem topmost_icon (caching : CachingView) (user : PaintUser) (answers : PaintAnswers)
    (x y : Int) :
    topmost (if caching.view.isFrozen && user.showFrozenIndicatorIcon then
        answers.frozenIcon.elim [] fun icon =>
          [⟨fun x y => icon (x - (caching.view.paintDest.width - 32)) (y - 0), Ink.frozenIcon⟩]
      else []) x y =
      if caching.showsIcon user answers x y then some .frozenIcon else none := by
  unfold showsIcon
  cases caching.view.isFrozen && user.showFrozenIndicatorIcon with
  | false => rfl
  | true =>
      cases answers.frozenIcon with
      | none => rfl
      | some icon => simp

theorem rcCli_covered {view : MiniView} (whole : view.internallyClipped = false) {x y : Int} :
    view.paintDest.contains x y = view.rcCli.contains x y := by
  simp [MiniView.paintDest, MiniView.rcCli, whole]

theorem topmost_frameMarks {caching : CachingView} {x y : Int}
    (inside : caching.view.rcCli.contains x y = true) (user : PaintUser) (desktop : Desktop)
    {answers : PaintAnswers} (stretches : answers.stretches = true) :
    topmost (caching.frameMarks user desktop answers) x y =
      some (caching.frame user desktop answers x y) := by
  rw [frameMarks, topmost_append, topmost_icon, topmost_append, stretches, frame]
  by_cases icon : caching.showsIcon user answers x y = true
  · simp [icon]
  · cases clipped : caching.view.internallyClipped with
    | false => simp [icon, rcCli_covered clipped, inside]
    | true =>
        by_cases pictured : caching.view.paintDest.contains x y = true
        · simp [icon, pictured]
        · simp [icon, pictured, inside]

/-- The frame depends neither on the bitmap nor on what was there before. -/
theorem paintMiniView_frame {caching : CachingView} (gdi : caching.view.isGdiCompatible = true)
    (user : PaintUser) (desktop : Desktop) {answers : PaintAnswers}
    (stretches : answers.stretches = true) (copies : answers.copies = true)
    (screen : Surface Ink) (x y : Int) :
    caching.paintMiniView user desktop answers screen x y =
      if caching.view.rcCli.contains x y then caching.frame user desktop answers x y
      else screen x y := by
  rw [paintMiniView_eq gdi, copies, PaintedContext.flushed_window]
  by_cases inside : caching.view.rcCli.contains x y = true
  · rw [if_pos inside, if_pos inside, topmost_frameMarks inside user desktop stretches]
    rfl
  · rw [if_neg inside, if_neg inside]

/-! `WM_ERASEBKGND`. -/

/-- The instructions of a blank view, a frame, or black under what the compositor shows. -/
def erased (caching : CachingView) (user : PaintUser) (desktop : Desktop)
    (answers : PaintAnswers) : Surface Ink := fun x y =>
  if caching.view.settingWindow then (topmost answers.text x y).getD (.colour 0xffffff)
  else if caching.view.isGdiCompatible then caching.frame user desktop answers x y
  else .colour 0

end CachingView

end LeanMiniViews
