import LeanMiniViews.ClipSession
import LeanMiniViews.ZOrderCore

/-!
`Rest` and `Wake` against the check of the position. The overlay is sent to the bottom when it
loses its last view, and the next check, which does not ask whether there are views, finds an
ordinary window above it.
-/

namespace LeanMiniViews

namespace Screen

/-! Places in the z-order. -/

theorem correctZOrder_of_ordinary {hWnd : HWND} {front : List TopLevelWindow}
    (back : List TopLevelWindow) (above : ∀ window ∈ front, window.hWnd ≠ hWnd)
    {ordinary : TopLevelWindow} (member : ordinary ∈ front)
    (notTopmost : ordinary.topmost = false) : correctZOrder hWnd (front ++ back) = false := by
  induction front with
  | nil => cases member
  | cons topWindow rest ih =>
      have other := above topWindow List.mem_cons_self
      rw [List.cons_append, correctZOrder, if_neg other]
      rcases List.mem_cons.mp member with rfl | later
      · simp [notTopmost]
      · split
        · exact ih (fun window within => above window (List.mem_cons_of_mem _ within)) later
        · rfl

theorem AtBottom.split {screen : Screen} (bottom : screen.AtBottom) :
    ∃ front own, screen.zOrder.windows = front ++ [own] ∧ own.hWnd = screen.hWnd ∧
      ∀ window ∈ front, window.hWnd ≠ screen.hWnd := by
  obtain ⟨own, last, isOwn⟩ := bottom
  obtain ⟨front, windows⟩ := List.getLast?_eq_some_iff.mp last
  refine ⟨front, own, windows, isOwn, ?_⟩
  intro window member same
  have distinct := screen.zOrder.distinct
  rw [windows, List.map_append, List.nodup_append] at distinct
  exact distinct.2.2 window.hWnd (List.mem_map_of_mem member) own.hWnd (by simp)
    (same.trans isOwn.symm)

theorem AtBottom.ordinary_above {screen : Screen} (bottom : screen.AtBottom)
    (hasOrdinary : screen.HasOrdinary) :
    ∃ front own, screen.zOrder.windows = front ++ [own] ∧ own.hWnd = screen.hWnd ∧
      (∀ window ∈ front, window.hWnd ≠ screen.hWnd) ∧
      ∃ ordinary ∈ front, ordinary.topmost = false := by
  obtain ⟨front, own, windows, isOwn, above⟩ := bottom.split
  obtain ⟨ordinary, member, other, notTopmost⟩ := hasOrdinary
  refine ⟨front, own, windows, isOwn, above, ordinary, ?_, notTopmost⟩
  rw [windows] at member
  rcases List.mem_append.mp member with inFront | isLast
  · exact inFront
  · obtain rfl := List.mem_singleton.mp isLast
    exact absurd isOwn other

theorem not_atBottom_of_topmost {screen : Screen} (topmost : screen.IsTopmost)
    (hasOrdinary : screen.HasOrdinary) : ¬ screen.AtBottom := by
  intro bottom
  obtain ⟨front, own, windows, isOwn, above, ordinary, member, notTopmost⟩ :=
    bottom.ordinary_above hasOrdinary
  obtain ⟨found, inOrder, isFound, foundTopmost⟩ := topmost
  have banded := screen.zOrder.banded
  rw [windows] at inOrder banded
  rcases List.mem_append.mp inOrder with inFront | isLast
  · exact above found inFront isFound
  · obtain rfl := List.mem_singleton.mp isLast
    have raised := (List.pairwise_append.mp banded).2.2 ordinary member found
      List.mem_cons_self foundTopmost
    rw [notTopmost] at raised
    cases raised

theorem misplaced_of_atBottom {screen : Screen} (bottom : screen.AtBottom)
    (hasOrdinary : screen.HasOrdinary) (virtualScreen : Rect) :
    screen.misplaced virtualScreen = true := by
  obtain ⟨front, own, windows, -, above, ordinary, member, notTopmost⟩ :=
    bottom.ordinary_above hasOrdinary
  simp [misplaced, windows, correctZOrder_of_ordinary [own] above member notTopmost]

theorem mem_others {zOrder : ZOrder} {hWnd : HWND} {window : TopLevelWindow}
    (member : window ∈ zOrder.windows) (other : window.hWnd ≠ hWnd) :
    window ∈ zOrder.others hWnd := by
  simpa [ZOrder.others] using ⟨member, other⟩

/-! The two places the overlay is sent to. -/

@[simp] theorem fixPosition_overlay (screen : Screen) (virtualScreen : Rect) :
    (screen.fixPosition virtualScreen).overlay = screen.overlay := by
  simp only [fixPosition]
  split <;> rfl

@[simp] theorem fixPosition_hWnd (screen : Screen) (virtualScreen : Rect) :
    (screen.fixPosition virtualScreen).hWnd = screen.hWnd := by
  simp only [fixPosition]
  split <;> rfl

theorem fixPosition_isTopmost {screen : Screen} (topmost : screen.IsTopmost)
    (virtualScreen : Rect) : (screen.fixPosition virtualScreen).IsTopmost := by
  simp only [fixPosition]
  split
  · exact ⟨⟨screen.hWnd, true⟩, List.mem_cons_self, rfl, rfl⟩
  · exact topmost

theorem fixPosition_wakes {screen : Screen} (exists_overlay : screen.hWnd ≠ 0)
    (bottom : screen.AtBottom) (hasOrdinary : screen.HasOrdinary) (virtualScreen : Rect) :
    (screen.fixPosition virtualScreen).IsTopmost := by
  rw [fixPosition, if_pos ⟨exists_overlay, misplaced_of_atBottom bottom hasOrdinary _⟩]
  exact ⟨⟨screen.hWnd, true⟩, List.mem_cons_self, rfl, rfl⟩

theorem fixPosition_hasOrdinary {screen : Screen} (hasOrdinary : screen.HasOrdinary)
    (virtualScreen : Rect) : (screen.fixPosition virtualScreen).HasOrdinary := by
  obtain ⟨ordinary, member, other, notTopmost⟩ := hasOrdinary
  simp only [fixPosition]
  split
  · exact ⟨ordinary, List.mem_cons_of_mem _ (mem_others member other), other, notTopmost⟩
  · exact ⟨ordinary, member, other, notTopmost⟩

@[simp] theorem rest_overlay (screen : Screen) : screen.rest.overlay = screen.overlay := by
  simp only [rest]
  split <;> rfl

@[simp] theorem rest_hWnd (screen : Screen) : screen.rest.hWnd = screen.hWnd := by
  simp only [rest]
  split <;> rfl

theorem rest_atBottom {screen : Screen} (exists_overlay : screen.hWnd ≠ 0) :
    screen.rest.AtBottom := by
  rw [rest, if_neg exists_overlay]
  exact ⟨⟨screen.hWnd, false⟩, by simp [ZOrder.toBottom], rfl⟩

theorem rest_hasOrdinary {screen : Screen} (hasOrdinary : screen.HasOrdinary) :
    screen.rest.HasOrdinary := by
  obtain ⟨ordinary, member, other, notTopmost⟩ := hasOrdinary
  simp only [rest]
  split
  · exact ⟨ordinary, member, other, notTopmost⟩
  · exact ⟨ordinary, List.mem_append_left _ (mem_others member other), other, notTopmost⟩

/-! Runs. -/

/-- What should hold after a message. -/
def Rests (_ : Screen) (event : Event) (next : Screen) : Prop :=
  next.hWnd ≠ 0 →
    (next.overlay.currMiniViews = [] → next.AtBottom) ∧
    (∀ virtualScreen, event = .halfSecond virtualScreen → next.overlay.currMiniViews ≠ [] →
      next.IsTopmost)

/-- No cycle and no failed addition finds the list empty, and no clear finds it nonempty. -/
def RestsWhen (screen : Screen) : Event → Prop
  | .addMiniView addition =>
      screen.hWnd ≠ 0 → screen.overlay.isFresh addition.creation.handle = true →
        screen.overlay.currMiniViews ≠ [] ∨
          ClassWindow.init.Creates screen.overlay.registeredClasses "MiniViewWin"
            addition.creation
  | .clearMiniViews => screen.overlay.currMiniViews = []
  | .halfSecond _ => screen.hWnd ≠ 0 → screen.overlay.currMiniViews ≠ []
  | .createThis _ _ => True
  | .closeMiniView _ => True
  | .otherWindows _ => True

instance (screen : Screen) : ∀ event, Decidable (RestsWhen screen event)
  | .addMiniView _ => inferInstanceAs (Decidable (_ → _ → _ ∨ _))
  | .clearMiniViews => inferInstanceAs (Decidable (_ = _))
  | .halfSecond _ => inferInstanceAs (Decidable (_ → _))
  | .createThis _ _ => isTrue trivial
  | .closeMiniView _ => isTrue trivial
  | .otherWindows _ => isTrue trivial

/-- The overlay rests while it has no views, and only then. -/
structure Settled (screen : Screen) : Prop where
  ordinary : screen.HasOrdinary
  noOverlay : screen.hWnd = 0 → screen.overlay.currMiniViews = []
  resting : screen.hWnd ≠ 0 → screen.overlay.currMiniViews = [] → screen.AtBottom
  awake : screen.hWnd ≠ 0 → screen.overlay.currMiniViews ≠ [] → screen.IsTopmost

theorem Settled.wakes {screen : Screen} (settled : screen.Settled)
    (exists_overlay : screen.hWnd ≠ 0) (virtualScreen : Rect) :
    (screen.fixPosition virtualScreen).IsTopmost := by
  by_cases empty : screen.overlay.currMiniViews = []
  · exact fixPosition_wakes exists_overlay (settled.resting exists_overlay empty)
      settled.ordinary virtualScreen
  · exact fixPosition_isTopmost (settled.awake exists_overlay empty) virtualScreen

theorem Settled.not_atBottom_fixed {screen : Screen} (settled : screen.Settled)
    (exists_overlay : screen.hWnd ≠ 0) (virtualScreen : Rect) :
    ¬ (screen.fixPosition virtualScreen).AtBottom :=
  not_atBottom_of_topmost (settled.wakes exists_overlay virtualScreen)
    (fixPosition_hasOrdinary settled.ordinary virtualScreen)

theorem addMiniView_currMiniViews_eq_nil (overlay : MiniViews) (user : MiniViewUser)
    (desktop : Desktop) (desktopWindow : HWND) (xc yc : Int) (editModeFrame : Frame)
    (creation : Creation) :
    (overlay.addMiniView user desktop desktopWindow xc yc editModeFrame
        creation).currMiniViews = [] ↔
      overlay.currMiniViews = [] ∧
        ¬ ClassWindow.init.Creates overlay.registeredClasses "MiniViewWin" creation := by
  have classes : (if overlay.editMode then overlay
      else overlay.toggleEditMode desktop).registeredClasses = overlay.registeredClasses := by
    split <;> rfl
  have views : (if overlay.editMode then overlay
      else overlay.toggleEditMode desktop).currMiniViews = [] ↔ overlay.currMiniViews = [] := by
    split
    · exact Iff.rfl
    · simp [MiniViews.toggleEditMode]
  simp only [MiniViews.addMiniView, classes]
  rcases ClassWindow.createThis_cases ClassWindow.init overlay.registeredClasses "MiniViewWin"
    (by decide) creation with ⟨creates, -, made⟩ | ⟨fails, -, refused⟩
  · simp [made, creates]
  · simp [refused, fails, views]

/-! What one message does. -/

theorem createThis_settled {screen : Screen} (settled : screen.Settled) {handle : HWND}
    (windowRect : Rect) (fresh : ∀ window ∈ screen.zOrder.windows, window.hWnd ≠ handle) :
    (screen.createThis handle windowRect).Settled := by
  rw [createThis]
  split
  · rename_i creates
    obtain ⟨ordinary, member, -, notTopmost⟩ := settled.ordinary
    have empty := settled.noOverlay creates.1
    have other := fresh ordinary member
    refine ⟨rest_hasOrdinary ⟨ordinary, ?_, other, notTopmost⟩, ?_, ?_, ?_⟩
    · exact List.mem_cons_of_mem _ (mem_others member other)
    · intro none
      exact absurd (by simpa using none) creates.2
    · intro _ _
      exact rest_atBottom creates.2
    · intro _ views
      exact absurd (by simpa using empty) views
  · exact settled

theorem fixPosition_settled {screen : Screen} (settled : screen.Settled) (virtualScreen : Rect)
    (views : screen.hWnd ≠ 0 → screen.overlay.currMiniViews ≠ []) :
    (screen.fixPosition virtualScreen).Settled := by
  refine ⟨fixPosition_hasOrdinary settled.ordinary virtualScreen, ?_, ?_, ?_⟩
  · simpa using settled.noOverlay
  · simp only [fixPosition_hWnd, fixPosition_overlay]
    exact fun exists_overlay empty => absurd empty (views exists_overlay)
  · simp only [fixPosition_hWnd, fixPosition_overlay]
    exact fun exists_overlay _ => settled.wakes exists_overlay virtualScreen

theorem addMiniView_cases {screen next : Screen} {addition : Addition}
    (stepped : next ∈ screen.step (.addMiniView addition)) :
    ¬ (screen.hWnd = 0 ∧ addition.creation.handle ≠ 0) ∧
      screen.overlay.isFresh addition.creation.handle = true ∧
      next = { screen.fixPosition addition.virtualScreen with
        overlay := screen.overlay.addMiniView addition.user addition.desktop
          addition.desktopWindow addition.xc addition.yc addition.editModeFrame
          addition.creation } := by
  simp only [step] at stepped
  split at stepped
  · cases stepped
  · rename_i possible
    obtain ⟨overlay, adds, rfl⟩ := Option.map_eq_some_iff.mp stepped
    obtain ⟨fresh, rfl⟩ := MiniViews.step_addMiniView adds
    have same : (screen.wake addition.virtualScreen).overlay = screen.overlay :=
      screen.fixPosition_overlay addition.virtualScreen
    rw [same] at fresh ⊢
    exact ⟨possible, fresh, rfl⟩

theorem addMiniView_settled {screen next : Screen} {addition : Addition}
    (settled : screen.Settled) (allowed : RestsWhen screen (.addMiniView addition))
    (stepped : next ∈ screen.step (.addMiniView addition)) : next.Settled := by
  obtain ⟨possible, fresh, rfl⟩ := addMiniView_cases stepped
  have emptied := addMiniView_currMiniViews_eq_nil screen.overlay addition.user addition.desktop
    addition.desktopWindow addition.xc addition.yc addition.editModeFrame addition.creation
  refine ⟨fixPosition_hasOrdinary settled.ordinary _, ?_, ?_, ?_⟩
  · intro none
    have noWindow : screen.hWnd = 0 := by simpa using none
    refine emptied.mpr ⟨settled.noOverlay noWindow, fun creates => ?_⟩
    exact possible ⟨noWindow, creates.2.2.2⟩
  · intro exists_overlay empty
    have found : screen.hWnd ≠ 0 := by simpa using exists_overlay
    obtain ⟨wasEmpty, fails⟩ := emptied.mp empty
    exact ((allowed found fresh).elim (absurd wasEmpty) fun creates => absurd creates fails)
  · intro exists_overlay _
    exact settled.wakes (by simpa using exists_overlay) _

theorem closeMiniView_settled {screen next : Screen} {hMiniView : HWND}
    (settled : screen.Settled) (stepped : next ∈ screen.step (.closeMiniView hMiniView)) :
    next.Settled := by
  obtain ⟨closed, applies, rfl⟩ := Option.map_eq_some_iff.mp stepped
  obtain ⟨overlay, closes, rfl⟩ := Option.map_eq_some_iff.mp applies
  obtain ⟨miniView, found, rfl⟩ := Option.map_eq_some_iff.mp closes
  have nonempty : screen.overlay.currMiniViews ≠ [] :=
    List.ne_nil_of_mem (List.mem_of_find?_eq_some found)
  have exists_overlay : screen.hWnd ≠ 0 := fun none => nonempty (settled.noOverlay none)
  split
  · rename_i empty
    have emptied : (screen.overlay.closeMiniView miniView).currMiniViews = [] :=
      List.isEmpty_iff.mp empty
    refine ⟨rest_hasOrdinary settled.ordinary, ?_, ?_, ?_⟩
    · simpa using fun _ => emptied
    · exact fun _ _ => rest_atBottom exists_overlay
    · intro _ views
      exact absurd (by simpa using emptied) views
  · rename_i more
    refine ⟨settled.ordinary, fun none => absurd none exists_overlay, ?_, ?_⟩
    · intro _ empty
      exact absurd (List.isEmpty_iff.mpr empty) more
    · exact fun _ _ => settled.awake exists_overlay nonempty

theorem step_settled {screen next : Screen} {event : Event} (settled : screen.Settled)
    (allowed : RestsWhen screen event) (stepped : next ∈ screen.step event) : next.Settled := by
  cases event with
  | createThis handle windowRect =>
      simp only [step] at stepped
      split at stepped
      · rename_i fresh
        cases stepped
        exact createThis_settled settled windowRect fresh
      · cases stepped
  | addMiniView addition => exact addMiniView_settled settled allowed stepped
  | closeMiniView hMiniView => exact closeMiniView_settled settled stepped
  | clearMiniViews =>
      cases stepped
      exact ⟨settled.ordinary, fun _ => rfl, fun exists_overlay _ =>
        settled.resting exists_overlay allowed, fun _ views => absurd rfl views⟩
  | halfSecond virtualScreen =>
      cases stepped
      exact fixPosition_settled settled virtualScreen allowed
  | otherWindows zOrder =>
      simp only [step] at stepped
      split at stepped
      · rename_i surrounds
        cases stepped
        obtain ⟨ordinary, bottom, topmost⟩ := surrounds
        exact ⟨ordinary, settled.noOverlay,
          fun exists_overlay empty => bottom (settled.resting exists_overlay empty),
          fun exists_overlay views => topmost (settled.awake exists_overlay views)⟩
      · cases stepped

theorem rests_of_settled {screen next : Screen} {event : Event} (settled : next.Settled) :
    Rests screen event next :=
  fun exists_overlay => ⟨settled.resting exists_overlay,
    fun _ _ views => settled.awake exists_overlay views⟩

theorem restsWhen_of_rests {screen next : Screen} {event : Event} (settled : screen.Settled)
    (stepped : next ∈ screen.step event) (rests : Rests screen event next) :
    RestsWhen screen event := by
  cases event with
  | addMiniView addition =>
      obtain ⟨-, -, rfl⟩ := addMiniView_cases stepped
      intro exists_overlay _
      by_contra failing
      rw [not_or, not_not] at failing
      have empty := (addMiniView_currMiniViews_eq_nil screen.overlay addition.user
        addition.desktop addition.desktopWindow addition.xc addition.yc addition.editModeFrame
        addition.creation).mpr failing
      have bottom := (rests (by simpa using exists_overlay)).1 empty
      exact settled.not_atBottom_fixed exists_overlay addition.virtualScreen bottom
  | clearMiniViews =>
      cases stepped
      by_contra views
      have exists_overlay : screen.hWnd ≠ 0 := fun none => views (settled.noOverlay none)
      have bottom : screen.AtBottom := (rests exists_overlay).1 rfl
      exact not_atBottom_of_topmost (settled.awake exists_overlay views) settled.ordinary bottom
  | halfSecond virtualScreen =>
      cases stepped
      intro exists_overlay empty
      have bottom := (rests (by simpa using exists_overlay)).1 (by simpa using empty)
      exact settled.not_atBottom_fixed exists_overlay virtualScreen bottom
  | createThis handle windowRect => trivial
  | closeMiniView hMiniView => trivial
  | otherWindows zOrder => trivial

theorem restsWhen_of_blocked {screen : Screen} {event : Event}
    (blocked : screen.step event = none) : RestsWhen screen event := by
  cases event with
  | addMiniView addition =>
      intro exists_overlay fresh
      simp only [step, exists_overlay, false_and, if_false, applied, wake, fixPosition_overlay,
        MiniViews.step, fresh, if_true] at blocked
      cases blocked
  | clearMiniViews => cases blocked
  | halfSecond virtualScreen => cases blocked
  | createThis handle windowRect => trivial
  | closeMiniView hMiniView => trivial
  | otherWindows zOrder => trivial

theorem rests_iff (screen : Screen) (event : Event) (settled : screen.Settled) :
    Runs.After step Rests screen event ↔ RestsWhen screen event := by
  apply Runs.after_iff
  · exact restsWhen_of_blocked
  · intro next stepped
    exact ⟨restsWhen_of_rests settled stepped,
      fun allowed => rests_of_settled (step_settled settled allowed stepped)⟩

/-- With an ordinary window on the desktop, the overlay rests and wakes as it should exactly if
the position is never checked, and no addition fails, while the list is empty, and the list is
never cleared while it is not. -/
theorem rests_while_empty_iff (defaultOpacity : UInt8) (zOrder : ZOrder)
    (ordinary : (init defaultOpacity zOrder).HasOrdinary) (events : List Event) :
    Runs.Along step (Runs.After step Rests) (init defaultOpacity zOrder) events ↔
      Runs.Along step RestsWhen (init defaultOpacity zOrder) events := by
  have initial : (init defaultOpacity zOrder).Settled :=
    ⟨ordinary, fun _ => rfl, fun none => absurd rfl none, fun none => absurd rfl none⟩
  refine Runs.along_iff_of_exact rests_iff ?_ initial
  exact fun screen event settled allowed next stepped => step_settled settled allowed stepped

def oneOrdinary : ZOrder where
  windows := [⟨1, false⟩]
  distinct := by decide
  banded := by decide

def addThenClose : List Event :=
  [.createThis 5 Rect.empty,
    .addMiniView ⟨⟨0, 0, 1920, 1080⟩, ⟨false, false, false, false⟩,
      ⟨none, false, ⟨none, ⟨0, 0⟩⟩, 0, 0⟩, 1, 50, 70, Frame.none, ⟨true, 7⟩⟩,
    .halfSecond ⟨0, 0, 1920, 1080⟩, .closeMiniView 7]

theorem rests_while_empty_addThenClose :
    Runs.Along step (Runs.After step Rests) (init 175 oneOrdinary) addThenClose :=
  (rests_while_empty_iff 175 oneOrdinary (by decide) addThenClose).mpr (by decide)

/-- The first cycle after the start wakes the overlay. -/
theorem first_cycle_wakes :
    ¬ ∀ (defaultOpacity : UInt8) (zOrder : ZOrder) (events : List Event),
      (init defaultOpacity zOrder).HasOrdinary →
        Runs.Along step (Runs.After step Rests) (init defaultOpacity zOrder) events := by
  intro claim
  have run := claim 175 oneOrdinary
    [.createThis 5 Rect.empty, .halfSecond ⟨0, 0, 1920, 1080⟩] (by decide)
  have cycled := (run.2 _ rfl).1 _ rfl
  exact absurd ((cycled (by decide)).1 rfl) (by decide)

end Screen

end LeanMiniViews
