import LeanMiniViews.NumberFields
import LeanMiniViews.OverlayCore

/-!
The opacity box of the General tab. The text is read as an `int` and clamped on its way to the
opacity, and read as a `u8` when the tab decides whether the box has to be written anew.
-/

namespace LeanMiniViews

/-- `GeneralWindow` with the overlay it refers to. The window exists once it is `created`. -/
structure GeneralWindow where
  miniViews : MiniViews
  created : Bool
  allowEditNotify : Bool
  checkEditMode : Bool
  editOpacity : EditControl

namespace GeneralWindow

def opacityLevel (window : GeneralWindow) : Int := window.miniViews.transparencyAlpha.toNat

/-- Setting a text notifies the window, and `notified` is what it does then. -/
def setEditNum (notified : GeneralWindow → GeneralWindow) (window : GeneralWindow) :
    GeneralWindow :=
  notified { window with editOpacity := window.editOpacity.setEditNum window.opacityLevel }

def refreshWindow (notified : GeneralWindow → GeneralWindow) (window : GeneralWindow) :
    GeneralWindow :=
  if window.created then
    let checked := { window with checkEditMode := window.miniViews.editMode }
    let displayedOpacityValue := checked.editOpacity.getEditNum IntegralType.u8 0
    if !displayedOpacityValue.1 || displayedOpacityValue.2 != checked.opacityLevel then
      checked.setEditNum notified
    else checked
  else window

def setOpacityLevel (notified : GeneralWindow → GeneralWindow) (window : GeneralWindow)
    (newOpacityLevel : UInt8) : GeneralWindow :=
  { window with miniViews := window.miniViews.setOpacityLevel newOpacityLevel }.refreshWindow
    notified

def clampedOpacity (newOpacity : Int) : Int :=
  if newOpacity > 255 then 255 else if newOpacity < 0 then 0 else newOpacity

def notifyEditUpdated (notified : GeneralWindow → GeneralWindow) (window : GeneralWindow) :
    GeneralWindow :=
  let newOpacity := window.editOpacity.getEditNum IntegralType.int 0
  if newOpacity.1 then
    window.setOpacityLevel notified (UInt8.ofNat (clampedOpacity newOpacity.2).toNat)
  else if window.editOpacity.getTextLength ≠ 0 then window.setEditNum notified
  else window

/-- The guard lets no notification through while one is handled. `depth` bounds how deep they
could nest without it. -/
def sendNotifyEditUpdated : Nat → GeneralWindow → GeneralWindow
  | 0, window => window
  | depth + 1, window =>
      if window.allowEditNotify then
        { notifyEditUpdated (sendNotifyEditUpdated depth)
            { window with allowEditNotify := false } with
          allowEditNotify := true }
      else window

/-! The guard. -/

theorem sendNotifyEditUpdated_guarded {window : GeneralWindow}
    (guarded : window.allowEditNotify = false) (depth : Nat) :
    sendNotifyEditUpdated depth window = window := by
  cases depth with
  | zero => rfl
  | succ depth => simp [sendNotifyEditUpdated, guarded]

theorem setEditNum_guarded {window : GeneralWindow} (guarded : window.allowEditNotify = false)
    (depth : Nat) :
    window.setEditNum (sendNotifyEditUpdated depth) =
      { window with editOpacity := window.editOpacity.setEditNum window.opacityLevel } := by
  rw [setEditNum, sendNotifyEditUpdated_guarded]
  exact guarded

/-! The two readings of one text. -/

theorem int_cast_mod (value : Int) :
    IntegralType.u8.cast value = IntegralType.int.cast value % 256 := by
  simp only [IntegralType.cast, IntegralType.u8, IntegralType.int, Bool.false_eq_true, if_false,
    if_true, Int.bmod]
  norm_num
  split <;> omega

theorem getEditNum_u8 {control : EditControl} {number : Int}
    (parsed : control.getEditNum IntegralType.int 0 = (true, number)) :
    control.getEditNum IntegralType.u8 0 = (true, number % 256) := by
  simp only [EditControl.getEditNum] at parsed ⊢
  split at parsed
  · split at parsed
    · rename_i nonempty
      rw [if_pos nonempty]
      split at parsed
      · rename_i nonzero
        rw [if_pos nonzero, int_cast_mod]
        simp_all
      · rename_i zero
        rw [if_neg zero]
        split at parsed
        · rename_i whole
          obtain rfl := (Prod.mk.inj parsed).2
          rw [if_pos whole]
          rfl
        · cases parsed
    · cases parsed
  · cases parsed

theorem readable_of_parsed {control : EditControl} {number : Int}
    (parsed : control.getEditNum IntegralType.int 0 = (true, number)) :
    control.readable = true := by
  by_contra unreadable
  by_cases empty : control.text = []
  · simp [EditControl.getEditNum, EditControl.getWinText, empty] at parsed
  · simp [EditControl.getEditNum, EditControl.getWinText, empty, unreadable] at parsed

/-! The update. -/

theorem clampedOpacity_bounds (newOpacity : Int) :
    0 ≤ clampedOpacity newOpacity ∧ clampedOpacity newOpacity ≤ 255 := by
  unfold clampedOpacity
  split
  · omega
  · split <;> omega

theorem refreshWindow_guarded {window : GeneralWindow} {number : Int}
    (created : window.created = true) (guarded : window.allowEditNotify = false)
    (parsed : window.editOpacity.getEditNum IntegralType.int 0 = (true, number)) (depth : Nat) :
    window.refreshWindow (sendNotifyEditUpdated depth) = { window with
      checkEditMode := window.miniViews.editMode
      editOpacity :=
        if number % 256 = window.opacityLevel then window.editOpacity
        else window.editOpacity.setEditNum window.opacityLevel } := by
  have narrow := getEditNum_u8 parsed
  let checked := { window with checkEditMode := window.miniViews.editMode }
  have written := setEditNum_guarded (show checked.allowEditNotify = false from guarded) depth
  simp only [refreshWindow, if_pos created, narrow, Bool.not_true, Bool.false_or, bne_iff_ne]
  by_cases same : number % 256 = window.opacityLevel
  · rw [if_pos same]
    exact if_neg (not_not_intro same)
  · rw [if_neg same]
    exact (if_pos same).trans written

/-- What the box should show. -/
def ShowsOpacity (window : GeneralWindow) : Prop :=
  window.editOpacity.getEditNum IntegralType.int 0 = (true, window.opacityLevel)

instance (window : GeneralWindow) : Decidable window.ShowsOpacity :=
  inferInstanceAs (Decidable (_ = _))

theorem opacityLevel_fits (window : GeneralWindow) :
    IntegralType.int.Fits window.opacityLevel := by
  have byte := window.miniViews.transparencyAlpha.toNat_lt
  simp only [IntegralType.Fits, IntegralType.int, opacityLevel, if_true]
  omega

theorem refreshWindow_shows_iff {window : GeneralWindow} {number : Int}
    (created : window.created = true) (guarded : window.allowEditNotify = false)
    (parsed : window.editOpacity.getEditNum IntegralType.int 0 = (true, number)) (depth : Nat) :
    (window.refreshWindow (sendNotifyEditUpdated depth)).ShowsOpacity ↔
      (number % 256 = window.opacityLevel → number = window.opacityLevel) := by
  rw [refreshWindow_guarded created guarded parsed]
  by_cases same : number % 256 = window.opacityLevel
  · simp only [same, if_true, true_implies]
    show window.editOpacity.getEditNum IntegralType.int 0 = (true, window.opacityLevel) ↔ _
    rw [parsed]
    simp
  · simp only [same, if_false, false_implies, iff_true]
    exact EditControl.getEditNum_setEditNum (readable_of_parsed parsed)
      (opacityLevel_fits window) 0

/-- The box shows the opacity after an update exactly if the number in it was a byte, or does
not turn into the clamped one when its upper bits are dropped. -/
theorem notifyEditUpdated_shows_iff {window : GeneralWindow} {number : Int}
    (created : window.created = true) (allowed : window.allowEditNotify = true)
    (parsed : window.editOpacity.getEditNum IntegralType.int 0 = (true, number)) (depth : Nat) :
    (sendNotifyEditUpdated (depth + 1) window).ShowsOpacity ↔
      (0 ≤ number ∧ number ≤ 255) ∨ (255 < number ∧ number % 256 ≠ 255) ∨
        (number < 0 ∧ number % 256 ≠ 0) := by
  let handled := { window with
    allowEditNotify := false
    miniViews := window.miniViews.setOpacityLevel
      (UInt8.ofNat (clampedOpacity number).toNat) }
  have shows : (sendNotifyEditUpdated (depth + 1) window).ShowsOpacity ↔
      (handled.refreshWindow (sendNotifyEditUpdated depth)).ShowsOpacity := by
    simp only [sendNotifyEditUpdated, allowed, if_true, notifyEditUpdated, parsed]
    rfl
  have bounds := clampedOpacity_bounds number
  have level : handled.opacityLevel = clampedOpacity number := by
    simp only [handled, opacityLevel, MiniViews.setOpacityLevel, UInt8.toNat_ofNat']
    omega
  have refreshed := refreshWindow_shows_iff (show handled.created = true from created)
    (show handled.allowEditNotify = false from rfl)
    (show handled.editOpacity.getEditNum IntegralType.int 0 = (true, number) from parsed) depth
  rw [shows, refreshed, level]
  unfold clampedOpacity
  split
  · omega
  · split <;> omega

/-- A General tab with this text in the box, after the overlay was started. -/
def typed (text : List Char) : GeneralWindow :=
  ⟨MiniViews.init 175, true, true, true, EditControl.showing text⟩

theorem notifyEditUpdated_shows_typed :
    (sendNotifyEditUpdated 1 (typed "300".toList)).ShowsOpacity :=
  (notifyEditUpdated_shows_iff rfl rfl (show _ = (true, 300) by decide) 0).mpr (by decide)

/-- The low eight bits of 511 are those of the opacity it is clamped to. -/
theorem notifyEditUpdated_hides_511 :
    ¬ ∀ (window : GeneralWindow) (number : Int), window.created = true →
      window.allowEditNotify = true →
      window.editOpacity.getEditNum IntegralType.int 0 = (true, number) →
      ∀ depth, (sendNotifyEditUpdated (depth + 1) window).ShowsOpacity := by
  intro claim
  have shows := claim (typed "511".toList) 511 rfl rfl (by decide) 0
  exact absurd shows (by decide)

end GeneralWindow

end LeanMiniViews
