import LeanMiniViews.CheckedInt
import LeanMiniViews.MiniViewCore

/-!
`RoundedQuotient`, `FixRatio`, `AdjustCliWidth` and `AdjustCliHeight` as they are computed with an
`int` of 32 bits: without a result where an intermediate has none. The answers of the system,
`GetBorderSize` and `cliWidth` among them, are taken as they are.
-/

namespace LeanMiniViews

open CheckedInt (exact add sub mul neg div)

def roundedQuotientChecked (dividend divisor : Int) : Option Int :=
  if divisor > 0 then
    if dividend > 0 then do
      div (← add dividend (← div divisor 2)) divisor
    else if dividend < 0 then do
      neg (← div (← add (← neg dividend) (← div divisor 2)) divisor)
    else some 0
  else if divisor < 0 then
    if dividend > 0 then do
      neg (← div (← add dividend (← div (← neg divisor) 2)) (← neg divisor))
    else if dividend < 0 then do
      div (← add (← neg dividend) (← div (← neg divisor) 2)) (← neg divisor)
    else some 0
  else some 0

/-- `RoundedQuotient(size*other, divisor)` -/
def scaledChecked (size other divisor : Int) : Option Int := do
  roundedQuotientChecked (← mul size other) divisor

namespace MiniView

/-- The two products that are compared are computed once here. -/
def fittedSizeChecked (guideMiniWidth guideMiniHeight sourceWidth sourceHeight : Int) :
    Option (Int × Int) :=
  if sourceWidth ≤ guideMiniWidth ∧ sourceHeight ≤ guideMiniHeight then do
    let wide ← mul sourceWidth guideMiniHeight
    let high ← mul sourceHeight guideMiniWidth
    if wide > high ∧ sourceWidth > 0 then
      pure (guideMiniWidth, ← scaledChecked guideMiniWidth sourceHeight sourceWidth)
    else if high > wide ∧ sourceHeight > 0 then
      pure (← scaledChecked guideMiniHeight sourceWidth sourceHeight, guideMiniHeight)
    else pure (guideMiniWidth, guideMiniHeight)
  else if sourceWidth > guideMiniWidth ∧ sourceHeight ≤ guideMiniHeight ∧ sourceWidth > 0 then do
    pure (guideMiniWidth, ← scaledChecked guideMiniWidth sourceHeight sourceWidth)
  else if sourceWidth ≤ guideMiniWidth ∧ sourceHeight > guideMiniHeight ∧ sourceHeight > 0 then do
    pure (← scaledChecked guideMiniHeight sourceWidth sourceHeight, guideMiniHeight)
  else if sourceWidth > guideMiniWidth ∧ sourceHeight > guideMiniHeight then do
    let high ← mul guideMiniWidth sourceHeight
    let wide ← mul guideMiniHeight sourceWidth
    if high > wide ∧ sourceHeight > 0 then
      pure (← scaledChecked guideMiniHeight sourceWidth sourceHeight, guideMiniHeight)
    else if wide > high ∧ sourceWidth > 0 then
      pure (guideMiniWidth, ← scaledChecked guideMiniWidth sourceHeight sourceWidth)
    else pure (guideMiniWidth, guideMiniHeight)
  else some (guideMiniWidth, guideMiniHeight)

/-- `RoundedQuotient(std::abs(guide - side), 2)` -/
def marginChecked (guide side : Int) : Option Int := do
  roundedQuotientChecked (← CheckedInt.abs (← sub guide side)) 2

def centredChecked (guideMiniWidth guideMiniHeight cw ch : Int) : Option Rect := do
  let left ← marginChecked guideMiniWidth cw
  let top ← marginChecked guideMiniHeight ch
  pure ⟨left, top, ← add left cw, ← add top ch⟩

def fixRatioChecked (view : MiniView) (desktop : Desktop) : Option MiniView :=
  if view.lockRatio && !view.settingWindow then do
    let guideMiniWidth := view.lastUserSetCliWidth
    let guideMiniHeight := view.lastUserSetCliHeight
    let sourceWidth ← exact (view.shownWidth desktop)
    let sourceHeight ← exact (view.shownHeight desktop)
    if sourceWidth ≠ view.lastCliWidthFixedTo ∨ sourceHeight ≠ view.lastCliHeightFixedTo then
      let size ← fittedSizeChecked guideMiniWidth guideMiniHeight sourceWidth sourceHeight
      let fitted ←
        if size.1 ≠ guideMiniWidth ∨ size.2 ≠ guideMiniHeight then do
          let rcInternalClip ← centredChecked guideMiniWidth guideMiniHeight size.1 size.2
          pure { view with internallyClipped := true, rcInternalClip := rcInternalClip }
        else pure { view with internallyClipped := false }
      pure { fitted with
        lastCliWidthFixedTo := sourceWidth, lastCliHeightFixedTo := sourceHeight }
    else pure view
  else some view

def setCliSizeChecked (view : MiniView) (newCliWidth newCliHeight : Int) : Option MiniView := do
  let border := view.getBorderSize
  let width ← add newCliWidth border.1
  let height ← add newCliHeight border.2
  pure { view with
    lastUserSetCliWidth := newCliWidth
    lastUserSetCliHeight := newCliHeight
    window := view.window.setSize width height }

def adjustCliWidthChecked (view : MiniView) (desktop : Desktop) (newCliWidth : Int) :
    Option MiniView :=
  if view.lockRatio then do
    let sourceWidth ← exact (view.shownWidth desktop)
    let sourceHeight ← exact (view.shownHeight desktop)
    let fixed := { view with
      lastCliWidthFixedTo := sourceWidth, lastCliHeightFixedTo := sourceHeight }
    let newCliHeight ← scaledChecked newCliWidth sourceHeight sourceWidth
    fixed.setCliSizeChecked newCliWidth newCliHeight
  else view.setCliSizeChecked newCliWidth view.window.cliHeight

def adjustCliHeightChecked (view : MiniView) (desktop : Desktop) (newCliHeight : Int) :
    Option MiniView :=
  if view.lockRatio then do
    let sourceWidth ← exact (view.shownWidth desktop)
    let sourceHeight ← exact (view.shownHeight desktop)
    let fixed := { view with
      lastCliWidthFixedTo := sourceWidth, lastCliHeightFixedTo := sourceHeight }
    let newCliWidth ← scaledChecked newCliHeight sourceWidth sourceHeight
    fixed.setCliSizeChecked newCliWidth newCliHeight
  else view.setCliSizeChecked view.window.cliWidth newCliHeight

end MiniView

end LeanMiniViews
