import LeanMiniViews.MiniViewCore
import LeanMiniViews.Runs
import LeanMiniViews.Zerocmp

/-!
The cached image of a view replicated by GDI, and the flag that has it painted. A capture that
ends a freeze is looked at and thrown away.
-/

namespace LeanMiniViews

/-- A capture of the client area of the source and what `GetDIBits` retrieves of it. Both sizes
are zero if nothing was captured. -/
structure WinGdiImage where
  width : Int
  height : Int
  linesRetrieved : Int
  pixels : List UInt32
  filled : 0 < width → 0 < height → pixels ≠ []
deriving DecidableEq

theorem not_uniform_iff (first : UInt32) (rest : List UInt32) :
    ¬ (∀ word ∈ first :: rest, word = first) ↔
      ∃ word ∈ first :: rest, ∃ other ∈ first :: rest, word ≠ other := by
  constructor
  · intro mixed
    push Not at mixed
    obtain ⟨word, member, differs⟩ := mixed
    exact ⟨word, member, first, List.mem_cons_self, differs⟩
  · rintro ⟨word, member, other, otherMember, differs⟩ uniform
    exact differs ((uniform word member).trans (uniform other otherMember).symm)

namespace WinGdiImage

def isValid (image : WinGdiImage) : Option Bool :=
  LeanMiniViews.isValid image.width image.height image.linesRetrieved image.pixels

def Valid (image : WinGdiImage) : Prop := image.isValid = some true

instance (image : WinGdiImage) : Decidable image.Valid :=
  inferInstanceAs (Decidable (_ = _))

theorem isValid_eq (image : WinGdiImage) : image.isValid = some (decide image.Valid) := by
  have scanned : image.isValid.isSome = true := by
    obtain ⟨same, answered, -⟩ := isAllSame_spec image.pixels
    simp only [isValid, LeanMiniViews.isValid]
    split
    · simp [answered]
    · rfl
  obtain ⟨valid, isValid⟩ := Option.isSome_iff_exists.mp scanned
  cases valid <;> simp [Valid, isValid]

/-- A capture is good as soon as all of its lines are there and two of its pixels differ. -/
theorem valid_iff (image : WinGdiImage) :
    image.Valid ↔ 0 < image.width ∧ 0 < image.height ∧ image.linesRetrieved = image.height ∧
      ∃ first ∈ image.pixels, ∃ second ∈ image.pixels, first ≠ second := by
  obtain ⟨same, answered, uniform⟩ := isAllSame_spec image.pixels
  have decided : image.Valid ↔ 0 < image.width ∧ 0 < image.height ∧
      image.linesRetrieved = image.height ∧ same = false := by
    simp only [Valid, isValid, LeanMiniViews.isValid, answered]
    split
    · simp_all
    · simp only [Option.some.injEq, Bool.false_eq_true, false_iff]
      tauto
  rw [decided]
  refine and_congr_right fun wide => and_congr_right fun high => and_congr_right fun _ => ?_
  obtain ⟨first, rest, pixels⟩ := List.exists_cons_of_ne_nil (image.filled wide high)
  rw [← Bool.not_eq_true, uniform, pixels]
  simpa using not_uniform_iff first rest

end WinGdiImage

structure CachingView where
  view : MiniView
  winGdiImageCache : Option WinGdiImage

/-- There is no result where the scan of the pixels has none. -/
def CachingView.validateImage (caching : CachingView) (winGdiImage : WinGdiImage) :
    Option CachingView :=
  if caching.view.isFrozen then
    if caching.view.isGdiCompatible then
      winGdiImage.isValid.map fun valid =>
        if valid then { caching with view.isFrozen := false } else caching
    else some caching
  else if caching.view.isGdiCompatible then
    winGdiImage.isValid.map fun valid =>
      if valid then { caching with winGdiImageCache := some winGdiImage }
      else { caching with view.isFrozen := true }
  else some caching

theorem setFrozen_same {view : MiniView} {isFrozen : Bool} (same : view.isFrozen = isFrozen) :
    { view with isFrozen := isFrozen } = view := by
  subst same
  rfl

theorem CachingView.validateImage_eq {caching : CachingView}
    (gdi : caching.view.isGdiCompatible = true) (winGdiImage : WinGdiImage) :
    caching.validateImage winGdiImage = some
      { view := { caching.view with isFrozen := !decide winGdiImage.Valid }
        winGdiImageCache :=
          if winGdiImage.Valid ∧ caching.view.isFrozen = false then some winGdiImage
          else caching.winGdiImageCache } := by
  obtain ⟨view, cache⟩ := caching
  have compatible : view.isGdiCompatible = true := gdi
  by_cases valid : winGdiImage.Valid <;> cases frozen : view.isFrozen <;>
    simp [validateImage, winGdiImage.isValid_eq, if_pos compatible, valid, frozen,
      setFrozen_same frozen]

/-- A view with what its captures so far have shown, whether or not it was kept. -/
structure Watched where
  caching : CachingView
  newestValid : Option WinGdiImage
  endedFreeze : Bool

namespace Watched

def init (view : MiniView) (winGdiImageCache : Option WinGdiImage) : Watched :=
  ⟨⟨view, winGdiImageCache⟩, none, false⟩

def step (watched : Watched) (winGdiImage : WinGdiImage) : Option Watched :=
  (watched.caching.validateImage winGdiImage).map fun next =>
    { caching := next
      newestValid := if winGdiImage.Valid then some winGdiImage else watched.newestValid
      endedFreeze := watched.caching.view.isFrozen && !next.view.isFrozen }

/-- What should hold after each capture. -/
structure ShowsNewest (winGdiImage : WinGdiImage) (watched : Watched) : Prop where
  frozen : watched.caching.view.isFrozen = true ↔ ¬ winGdiImage.Valid
  newest : watched.caching.view.isFrozen = true →
    ∀ newest ∈ watched.newestValid, watched.caching.winGdiImageCache = some newest

/-- No bad capture comes right after the one that ended a freeze, unless that one was the image
in the cache anyway. -/
def KeepsNewest (watched : Watched) (winGdiImage : WinGdiImage) : Prop :=
  watched.endedFreeze = true → ¬ winGdiImage.Valid →
    watched.caching.winGdiImageCache = watched.newestValid

structure Tracked (watched : Watched) : Prop where
  gdi : watched.caching.view.isGdiCompatible = true
  cached : watched.endedFreeze = false →
    ∀ newest ∈ watched.newestValid, watched.caching.winGdiImageCache = some newest
  thawed : watched.endedFreeze = true →
    watched.caching.view.isFrozen = false ∧ watched.newestValid.isSome = true

theorem init_tracked {view : MiniView} (gdi : view.isGdiCompatible = true)
    (winGdiImageCache : Option WinGdiImage) : (init view winGdiImageCache).Tracked := by
  refine ⟨gdi, ?_, ?_⟩
  · intro _ newest member
    cases member
  · intro ended
    cases ended

theorem step_eq {watched : Watched} (gdi : watched.caching.view.isGdiCompatible = true)
    (winGdiImage : WinGdiImage) :
    watched.step winGdiImage = some
      { caching.view := { watched.caching.view with isFrozen := !decide winGdiImage.Valid }
        caching.winGdiImageCache :=
          if winGdiImage.Valid ∧ watched.caching.view.isFrozen = false then some winGdiImage
          else watched.caching.winGdiImageCache
        newestValid := if winGdiImage.Valid then some winGdiImage else watched.newestValid
        endedFreeze := watched.caching.view.isFrozen && decide winGdiImage.Valid } := by
  simp [step, CachingView.validateImage_eq gdi]

theorem showsNewest_of_invalid {watched next : Watched} {winGdiImage : WinGdiImage}
    (gdi : watched.caching.view.isGdiCompatible = true) (invalid : ¬ winGdiImage.Valid)
    (stepped : next ∈ watched.step winGdiImage) :
    ShowsNewest winGdiImage next ↔
      ∀ newest ∈ watched.newestValid, watched.caching.winGdiImageCache = some newest := by
  rw [step_eq gdi, Option.mem_some] at stepped
  subst stepped
  constructor
  · intro shows newest member
    simpa [invalid] using shows.newest (by simp [invalid]) newest (by simpa [invalid] using member)
  · intro cached
    refine ⟨by simp [invalid], ?_⟩
    simpa [invalid] using cached

theorem showsNewest_of_valid {watched next : Watched} {winGdiImage : WinGdiImage}
    (gdi : watched.caching.view.isGdiCompatible = true) (valid : winGdiImage.Valid)
    (stepped : next ∈ watched.step winGdiImage) : ShowsNewest winGdiImage next := by
  rw [step_eq gdi, Option.mem_some] at stepped
  subst stepped
  refine ⟨?_, ?_⟩ <;> simp [valid]

theorem showsNewest_iff {watched next : Watched} {winGdiImage : WinGdiImage}
    (tracked : watched.Tracked) (stepped : next ∈ watched.step winGdiImage) :
    ShowsNewest winGdiImage next ↔ watched.KeepsNewest winGdiImage := by
  by_cases valid : winGdiImage.Valid
  · have shows := showsNewest_of_valid tracked.gdi valid stepped
    exact ⟨fun _ _ invalid => absurd valid invalid, fun _ => shows⟩
  · rw [showsNewest_of_invalid tracked.gdi valid stepped]
    cases ended : watched.endedFreeze with
    | false =>
        have cached := tracked.cached ended
        simp only [KeepsNewest, ended, Bool.false_eq_true, false_implies, iff_true]
        exact cached
    | true =>
        obtain ⟨newest, isNewest⟩ := Option.isSome_iff_exists.mp (tracked.thawed ended).2
        simp [KeepsNewest, ended, valid, isNewest]

theorem tracked_kept {watched next : Watched} {winGdiImage : WinGdiImage}
    (tracked : watched.Tracked) (keeps : watched.KeepsNewest winGdiImage)
    (stepped : next ∈ watched.step winGdiImage) : next.Tracked := by
  have shows := (showsNewest_iff tracked stepped).mpr keeps
  rw [step_eq tracked.gdi, Option.mem_some] at stepped
  subst stepped
  refine ⟨tracked.gdi, ?_, ?_⟩
  · intro continues
    by_cases valid : winGdiImage.Valid
    · simp_all
    · exact shows.newest (by simp [valid])
  · intro ended
    simp_all

/-- The frozen view shows the newest good capture as long as no bad capture comes right after
the end of a freeze, and no longer. -/
theorem validateImage_newest_iff {view : MiniView} (gdi : view.isGdiCompatible = true)
    (winGdiImageCache : Option WinGdiImage) (captures : List WinGdiImage) :
    Runs.Along step (Runs.After step fun _ winGdiImage next => ShowsNewest winGdiImage next)
        (init view winGdiImageCache) captures ↔
      Runs.Along step KeepsNewest (init view winGdiImageCache) captures := by
  apply Runs.along_iff_of_exact _ _ (init_tracked gdi winGdiImageCache)
  · intro watched winGdiImage tracked
    apply Runs.after_iff
    · intro blocked
      rw [step_eq tracked.gdi] at blocked
      cases blocked
    · exact fun next stepped => showsNewest_iff tracked stepped
  · intro watched winGdiImage tracked keeps next stepped
    exact tracked_kept tracked keeps stepped

def twoPixels (left right : UInt32) : WinGdiImage := ⟨2, 1, 1, [left, right], by simp⟩

theorem twoPixels_valid_iff (left right : UInt32) :
    (twoPixels left right).Valid ↔ left ≠ right := by
  simp [WinGdiImage.valid_iff, twoPixels, ne_comm]

def gdiView : MiniView :=
  { MiniView.init ⟨false, false, false, false⟩ with settingWindow := false, isGdiCompatible := true }

theorem validateImage_newest_gdiView :
    Runs.Along step (Runs.After step fun _ winGdiImage next => ShowsNewest winGdiImage next)
      (init gdiView none)
      [twoPixels 1 2, twoPixels 0 0, twoPixels 3 4, twoPixels 5 6, twoPixels 0 0] := by
  refine (validateImage_newest_iff rfl none _).mpr ?_
  simp [Runs.along_cons, step_eq, KeepsNewest, init, twoPixels_valid_iff, gdiView, MiniView.init]

/-- Frozen, good for one capture and frozen again: the picture from before the first freeze is
shown. -/
theorem validateImage_stale :
    ¬ ∀ (view : MiniView), view.isGdiCompatible = true →
      ∀ (winGdiImageCache : Option WinGdiImage) (captures : List WinGdiImage),
        Runs.Along step
          (Runs.After step fun _ winGdiImage next => ShowsNewest winGdiImage next)
          (init view winGdiImageCache) captures := by
  intro claim
  have run := claim gdiView rfl none
    [twoPixels 1 2, twoPixels 0 0, twoPixels 3 4, twoPixels 0 0]
  simp only [Runs.along_cons, Runs.After, step_eq, init, twoPixels_valid_iff, gdiView,
    MiniView.init, Option.mem_some, forall_eq'] at run
  exact absurd (run.2.2.2.1.newest rfl (twoPixels 3 4) rfl) (by decide)

end Watched

end LeanMiniViews
