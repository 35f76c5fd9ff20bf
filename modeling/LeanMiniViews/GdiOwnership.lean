import LeanMiniViews.DeviceContextCore
import LeanMiniViews.Runs

/-!
What a `DeviceContext` owns. Its fields account for every handle that was created for it as long
as a window that is kept goes with a device context that was obtained for it, and the bitmap of the
buffer is not selected any more when it is deleted.
-/

namespace LeanMiniViews

namespace DeviceContext

/-- A device context without a buffer: the window's own, or one that belongs to someone else. -/
inductive Base : List (Nat × HWND) → HWND → HDC → Prop
  | window {hWnd : HWND} (serial : Nat) (real : hWnd ≠ 0) :
      Base [(serial, hWnd)] hWnd (.window serial)
  | supplied (handle : Nat) : Base [] 0 (.supplied handle)

/-- An object, and all that it has to give back. -/
inductive Accounted : DeviceContext × Gdi → Prop
  | empty (hWnd : HWND) (drawArea : Rect) (serial : Nat) :
      Accounted (⟨hWnd, none, none, none, drawArea, none, none⟩, ⟨[], [], [], serial⟩)
  | plain {hWnd : HWND} {hDC : HDC} {windowDcs : List (Nat × HWND)} (drawArea : Rect)
      (original : Option Nat) (serial : Nat) (base : Base windowDcs hWnd hDC) :
      Accounted (⟨hWnd, some hDC, none, none, drawArea, original, none⟩,
        ⟨windowDcs, [], [], serial⟩)
  | buffered {hWnd : HWND} {parentDC : HDC} {windowDcs : List (Nat × HWND)}
      (memoryDC bitmap : Nat) (selected : Option Nat) (drawArea : Rect) (original : Nat)
      (originalParent : Option Nat) (serial : Nat) (base : Base windowDcs hWnd parentDC) :
      Accounted (⟨hWnd, some (.memory memoryDC), some parentDC, some bitmap, drawArea,
        some original, originalParent⟩, ⟨windowDcs, [(memoryDC, selected)], [bitmap], serial⟩)

/-- Handed in by the caller, it is not one in memory and not one given back before. -/
def Offered (gdi : Gdi) : HDC → Prop
  | .memory _ => False
  | .window serial => gdi.usable (.window serial) = true
  | .supplied _ => True

def OffersHandles (state : DeviceContext × Gdi) : Event → Prop
  | .setBuffer _ (some given) _ _ => Offered state.2 given
  | .flushBufferTo (some target) _ => state.2.usable target = true
  | _ => True

/-- A window is kept without a device context obtained for it. -/
def Stale (dc : DeviceContext) : Prop := dc.hWnd ≠ 0 ∧ dc.hDC = none

def TakesOver (state : DeviceContext × Gdi) : Event → Prop
  | .setBuffer _ (some _) _ _ => ¬ state.1.Stale
  | _ => True

def BitmapSelected (state : DeviceContext × Gdi) : Prop :=
  ∃ bitmap ∈ state.1.memBitmap, state.2.isSelected bitmap = true

def keepsBuffer (dc : DeviceContext) (area : Rect) (given : Option HDC) : Bool :=
  dc.parentDC ≠ none && (given = none || given = dc.parentDC) && dc.matchesDimensions area

/-- The bitmap of a buffer that goes, where it is still selected, is replaced by the object that
was selected first. -/
def Restores (state : DeviceContext × Gdi) : Event → Prop
  | .setBuffer area given restored _ =>
      BitmapSelected state → state.1.keepsBuffer area given = false → restored.object = true
  | .release restored => BitmapSelected state → restored.object = true
  | _ => True

structure Sound (state : DeviceContext × Gdi) (event : Event) : Prop where
  offers : OffersHandles state event
  takesOver : TakesOver state event
  restores : Restores state event

/-- `NULL` is not taken for a window that a device context can be obtained for. -/
def Construction.NamesWindow : Construction → Prop
  | .ofHWND hWnd obtained _ => obtained = true → hWnd ≠ 0
  | .sized hWnd obtained _ _ _ => obtained = true → hWnd ≠ 0
  | .ofArea hWnd obtained _ _ => obtained = true → hWnd ≠ 0
  | .default => True
  | .ofHDC _ => True

def Construction.OffersHandles : Construction → Prop
  | .ofHDC (some (.memory _)) => False
  | .ofHDC (some (.window _)) => False
  | _ => True

/-! Handles. -/

section Handles

variable {windowDcs : List (Nat × HWND)} {hWnd : HWND} {hDC : HDC}
  (memoryDcs : List (Nat × Option Nat)) (bitmaps : List Nat) (serial : Nat)

theorem Base.usable (base : Base windowDcs hWnd hDC) :
    Gdi.usable ⟨windowDcs, memoryDcs, bitmaps, serial⟩ hDC = true := by
  cases base with
  | window serial real => simp [Gdi.usable]
  | supplied handle => rfl

theorem Base.use (base : Base windowDcs hWnd hDC) :
    Gdi.use ⟨windowDcs, memoryDcs, bitmaps, serial⟩ (some hDC) =
      some ⟨windowDcs, memoryDcs, bitmaps, serial⟩ := by
  rw [Gdi.use, if_pos (base.usable memoryDcs bitmaps serial)]

theorem use_memory (memoryDC : Nat) (selected : Option Nat) :
    Gdi.use ⟨windowDcs, [(memoryDC, selected)], bitmaps, serial⟩ (some (.memory memoryDC)) =
      some ⟨windowDcs, [(memoryDC, selected)], bitmaps, serial⟩ := by
  simp [Gdi.use, Gdi.usable]

theorem Base.selectOther (base : Base windowDcs hWnd hDC) (isBitmap succeeds : Bool) :
    Gdi.selectOther ⟨windowDcs, memoryDcs, bitmaps, serial⟩ (some hDC) isBitmap succeeds =
      some ⟨windowDcs, memoryDcs, bitmaps, serial⟩ := by
  rw [Gdi.selectOther, base.use memoryDcs bitmaps serial, Option.map_some]
  cases base with
  | window serial real => simp [Gdi.setSelected]
  | supplied handle => simp [Gdi.setSelected]

theorem selectOther_memory (memoryDC : Nat) (selected : Option Nat) (isBitmap succeeds : Bool) :
    Gdi.selectOther ⟨windowDcs, [(memoryDC, selected)], bitmaps, serial⟩
        (some (.memory memoryDC)) isBitmap succeeds =
      some ⟨windowDcs, [(memoryDC, if isBitmap && succeeds then none else selected)], bitmaps,
        serial⟩ := by
  rw [Gdi.selectOther, use_memory, Option.map_some]
  cases isBitmap && succeeds with
  | false => rfl
  | true => simp [Gdi.setSelected]

theorem unselect_base (base : Base windowDcs hWnd hDC) (original : Option Nat) (restored : Bool) :
    unselect original (some hDC) ⟨windowDcs, memoryDcs, bitmaps, serial⟩ restored =
      some ⟨windowDcs, memoryDcs, bitmaps, serial⟩ := by
  unfold unselect
  split
  · exact base.selectOther memoryDcs bitmaps serial true restored
  · rfl

/-- The bitmap of the buffer is deleted where it is not selected. -/
theorem deleteBitmap_unselected (memoryDC bitmap : Nat) {selected : Option Nat}
    (other : selected ≠ some bitmap) :
    deleteBitmap (some bitmap) ⟨windowDcs, [(memoryDC, selected)], [bitmap], serial⟩ =
      some ⟨windowDcs, [(memoryDC, selected)], [], serial⟩ := by
  simp [deleteBitmap, Gdi.deleteObject, Gdi.isSelected, other]

theorem deleteDC_memory (memoryDC : Nat) (selected : Option Nat) :
    Gdi.deleteDC ⟨windowDcs, [(memoryDC, selected)], bitmaps, serial⟩ (some (.memory memoryDC)) =
      some ⟨windowDcs, [], bitmaps, serial⟩ := by
  simp [Gdi.deleteDC, Gdi.usable]

theorem unselect_memory (memoryDC bitmap : Nat) (selected : Option Nat) (original : Nat)
    {restored : Bool} (restores : selected = some bitmap → restored = true) :
    ∃ other, other ≠ some bitmap ∧
      unselect (some original) (some (.memory memoryDC))
          ⟨windowDcs, [(memoryDC, selected)], bitmaps, serial⟩ restored =
        some ⟨windowDcs, [(memoryDC, other)], bitmaps, serial⟩ := by
  refine ⟨if restored then none else selected, ?_, ?_⟩
  · cases restored with
    | true => simp
    | false => exact fun same => Bool.false_ne_true (restores same)
  · rw [unselect, if_pos (by simp), selectOther_memory, Bool.true_and]

theorem Base.given_back (base : Base windowDcs hWnd hDC) :
    (if hWnd = 0 then some ⟨windowDcs, memoryDcs, bitmaps, serial⟩
      else Gdi.releaseDC ⟨windowDcs, memoryDcs, bitmaps, serial⟩ hWnd (some hDC)) =
      some ⟨[], memoryDcs, bitmaps, serial⟩ := by
  cases base with
  | window serial real => simp [Gdi.releaseDC, real]
  | supplied handle => simp

theorem Base.offered (base : Base windowDcs hWnd hDC) {given : HDC}
    (offered : Offered ⟨windowDcs, memoryDcs, bitmaps, serial⟩ given) :
    given = hDC ∨ ∃ handle, given = .supplied handle := by
  cases given with
  | memory other => exact absurd offered id
  | supplied handle => exact Or.inr ⟨handle, rfl⟩
  | window other =>
      cases base with
      | window serial real =>
          left
          simpa [Offered, Gdi.usable, eq_comm] using offered
      | supplied handle => simp [Offered, Gdi.usable] at offered

end Handles

/-! The functions. -/

theorem unbuffer_buffered {windowDcs : List (Nat × HWND)} {hWnd : HWND} {parentDC : HDC}
    (memoryDC bitmap : Nat) (selected : Option Nat) (drawArea : Rect) (original : Nat)
    (originalParent : Option Nat) (serial : Nat) {restored : RestoreAnswers}
    (restores : selected = some bitmap → restored.object = true) :
    unbuffer ⟨hWnd, some (.memory memoryDC), some parentDC, some bitmap, drawArea,
        some original, originalParent⟩ ⟨windowDcs, [(memoryDC, selected)], [bitmap], serial⟩
        restored =
      some (⟨hWnd, some parentDC, none, none, Rect.empty, originalParent, none⟩,
        ⟨windowDcs, [], [], serial⟩) := by
  obtain ⟨other, different, unselected⟩ :=
    @unselect_memory windowDcs [bitmap] serial memoryDC bitmap selected original _ restores
  simp [unbuffer, unselected, deleteBitmap_unselected serial memoryDC bitmap different,
    deleteDC_memory]

theorem buffer_plain {windowDcs : List (Nat × HWND)} {hWnd : HWND} {hDC : HDC}
    (base : Base windowDcs hWnd hDC) (drawArea area : Rect) (original : Option Nat) (serial : Nat)
    (answers : BufferAnswers) :
    ∃ buffered state, buffer ⟨hWnd, some hDC, none, none, drawArea, original, none⟩
        ⟨windowDcs, [], [], serial⟩ area answers = some (buffered, state) ∧ Accounted state := by
  obtain ⟨memoryDC, bitmap, replaced⟩ := answers
  have parent := base.use [] [] serial
  have parentAgain := base.use [(serial, none)] [] (serial + 1)
  cases memoryDC with
  | false =>
      refine ⟨false, _, ?_, .plain Rect.empty original serial base⟩
      simp [buffer, unbuffered, Gdi.createCompatibleDC, parent]
  | true =>
      cases bitmap with
      | false =>
          refine ⟨false, _, ?_, .plain Rect.empty original (serial + 1) base⟩
          simp [buffer, unbuffered, Gdi.createCompatibleDC, Gdi.createCompatibleBitmap,
            deleteDC_memory, parent, parentAgain]
      | true =>
          cases replaced with
          | none =>
              refine ⟨false, _, ?_, .plain Rect.empty original (serial + 2) base⟩
              simp [buffer, unbuffered, Gdi.createCompatibleDC, Gdi.createCompatibleBitmap,
                Gdi.selectBitmap, Gdi.deleteObject, Gdi.isSelected, deleteDC_memory, use_memory,
                parent, parentAgain]
          | some replaced =>
              refine ⟨true, _, ?_, .buffered serial (serial + 1) (some (serial + 1)) area replaced
                original (serial + 2) base⟩
              simp [buffer, Gdi.createCompatibleDC, Gdi.createCompatibleBitmap, Gdi.selectBitmap,
                Gdi.setSelected, use_memory, parent, parentAgain]

theorem bitmapSelected_iff {windowDcs : List (Nat × HWND)} {hWnd : HWND} {parentDC : HDC}
    (memoryDC bitmap : Nat) (selected : Option Nat) (drawArea : Rect) (original : Nat)
    (originalParent : Option Nat) (serial : Nat) :
    BitmapSelected (⟨hWnd, some (.memory memoryDC), some parentDC, some bitmap, drawArea,
        some original, originalParent⟩, ⟨windowDcs, [(memoryDC, selected)], [bitmap], serial⟩) ↔
      selected = some bitmap := by
  simp [BitmapSelected, Gdi.isSelected]

theorem plain_restores {hWnd : HWND} {hDC : HDC} {windowDcs : List (Nat × HWND)}
    (drawArea : Rect) (original : Option Nat) (serial : Nat) (restored : RestoreAnswers) :
    Restores (⟨hWnd, some hDC, none, none, drawArea, original, none⟩,
      ⟨windowDcs, [], [], serial⟩) (.release restored) := by
  simp [Restores, BitmapSelected]

theorem release_accounted {state : DeviceContext × Gdi} (accounted : Accounted state)
    {restored : RestoreAnswers} (restores : Restores state (.release restored)) :
    ∃ serial, state.1.release state.2 restored =
      some (⟨0, none, none, none, Rect.empty, none, none⟩, ⟨[], [], [], serial⟩) := by
  cases accounted with
  | empty hWnd drawArea serial =>
      refine ⟨serial, ?_⟩
      simp [release, unselect, deleteBitmap]
  | plain drawArea original serial base =>
      refine ⟨serial, ?_⟩
      have back := base.given_back [] [] serial
      simp only [release, unselect_base [] [] serial base original, deleteBitmap,
        Option.bind_some]
      simp [unselect, back]
  | @buffered hWnd parentDC windowDcs memoryDC bitmap selected drawArea original originalParent
      serial base =>
      refine ⟨serial, ?_⟩
      have back := base.given_back [] [] serial
      rw [Restores, bitmapSelected_iff] at restores
      obtain ⟨other, different, unselected⟩ :=
        @unselect_memory windowDcs [bitmap] serial memoryDC bitmap selected original _ restores
      have kept := unselect_base [(memoryDC, other)] [bitmap] serial base originalParent
        restored.parentObject
      simp only [release, unselected, kept, Option.bind_some,
        deleteBitmap_unselected serial memoryDC bitmap different]
      simp [deleteDC_memory, back]

/-- A device context that the caller owns is buffered by an object that is otherwise empty. -/
theorem buffer_supplied (handle : Nat) (drawArea area : Rect) (serial : Nat)
    (answers : BufferAnswers) :
    ∃ buffered state, buffer ⟨0, some (.supplied handle), none, none, drawArea, none, none⟩
        ⟨[], [], [], serial⟩ area answers = some (buffered, state) ∧ Accounted state :=
  buffer_plain (.supplied handle) drawArea area none serial answers

/-! What `setBuffer` does to an object with a buffer. -/

theorem setBuffer_own {dc : DeviceContext} {parentDC : HDC} (hasDC : dc.hDC ≠ none)
    (hasParent : dc.parentDC = some parentDC) {given : Option HDC}
    (own : given = none ∨ given = some parentDC) (gdi : Gdi) (area : Rect)
    (restored : RestoreAnswers) (answers : BufferAnswers) :
    dc.setBuffer gdi area given restored answers =
      if dc.matchesDimensions area then some (true, dc, gdi)
      else (dc.unbuffer gdi restored).bind fun (dc, gdi) => dc.buffer gdi area answers := by
  rcases own with rfl | rfl
  · simp [setBuffer, hasParent]
  · simp [setBuffer, hasDC, hasParent]

theorem setBuffer_other {dc : DeviceContext} {parentDC : HDC} (hasDC : dc.hDC ≠ none)
    (hasParent : dc.parentDC = some parentDC) {given : HDC} (other : given ≠ parentDC) (gdi : Gdi)
    (area : Rect) (restored : RestoreAnswers) (answers : BufferAnswers) :
    dc.setBuffer gdi area (some given) restored answers =
      (dc.release gdi restored).bind fun (dc, gdi) =>
        { dc with hDC := some given }.buffer gdi area answers := by
  simp [setBuffer, hasDC, hasParent, other]

theorem setBuffer_buffered {windowDcs : List (Nat × HWND)} {hWnd : HWND} {parentDC : HDC}
    (memoryDC bitmap : Nat) (selected : Option Nat) (drawArea : Rect) (original : Nat)
    (originalParent : Option Nat) (serial : Nat) (base : Base windowDcs hWnd parentDC)
    (area : Rect) (given : Option HDC) {restored : RestoreAnswers} (answers : BufferAnswers) :
    let state : DeviceContext × Gdi :=
      (⟨hWnd, some (.memory memoryDC), some parentDC, some bitmap, drawArea, some original,
        originalParent⟩, ⟨windowDcs, [(memoryDC, selected)], [bitmap], serial⟩)
    Sound state (.setBuffer area given restored answers) →
      ∃ buffered next,
        state.1.setBuffer state.2 area given restored answers = some (buffered, next) ∧
          Accounted next := by
  intro state sound
  have accounted : Accounted state :=
    .buffered memoryDC bitmap selected drawArea original originalParent serial base
  have still : BitmapSelected state ↔ selected = some bitmap :=
    bitmapSelected_iff memoryDC bitmap selected drawArea original originalParent serial
  by_cases own : given = none ∨ given = some parentDC
  · rw [@setBuffer_own state.1 parentDC nofun rfl given own]
    by_cases fits : state.1.matchesDimensions area = true
    · exact ⟨true, state, if_pos fits, accounted⟩
    · have goes : state.1.keepsBuffer area given = false := by simp [keepsBuffer, fits]
      rw [if_neg fits, unbuffer_buffered memoryDC bitmap selected drawArea original originalParent
        serial fun same => sound.restores (still.mpr same) goes]
      exact buffer_plain base Rect.empty area originalParent serial answers
  · obtain ⟨present, foreign⟩ := not_or.mp own
    obtain ⟨offered, rfl⟩ := Option.ne_none_iff_exists'.mp present
    have other : offered ≠ parentDC := fun same => foreign (congrArg some same)
    have goes : state.1.keepsBuffer area (some offered) = false := by
      simp [state, keepsBuffer, other]
    obtain ⟨handle, rfl⟩ :=
      (base.offered [(memoryDC, selected)] [bitmap] serial sound.offers).resolve_left other
    obtain ⟨after, released⟩ := release_accounted accounted fun same => sound.restores same goes
    rw [@setBuffer_other state.1 parentDC nofun rfl _ other, released]
    exact buffer_supplied handle Rect.empty area after answers

theorem setBuffer_accounted {state : DeviceContext × Gdi} (accounted : Accounted state)
    (area : Rect) (given : Option HDC) {restored : RestoreAnswers} (answers : BufferAnswers)
    (sound : Sound state (.setBuffer area given restored answers)) :
    ∃ buffered next,
      state.1.setBuffer state.2 area given restored answers = some (buffered, next) ∧
        Accounted next := by
  cases accounted with
  | empty hWnd drawArea serial =>
      cases given with
      | none =>
          refine ⟨false, _, ?_, .empty hWnd drawArea serial⟩
          simp [setBuffer, unbuffer, unselect, deleteBitmap, buffer]
      | some given =>
          have noWindow : hWnd = 0 := by simpa [TakesOver, Stale] using sound.takesOver
          have ofCaller : ∃ handle, given = .supplied handle := by
            rcases (Base.supplied 0).offered [] [] serial sound.offers with same | other
            · exact ⟨0, same⟩
            · exact other
          obtain ⟨handle, rfl⟩ := ofCaller
          subst noWindow
          simpa [setBuffer] using buffer_supplied handle drawArea area serial answers
  | @plain hWnd hDC windowDcs drawArea original serial base =>
      cases given with
      | none =>
          have unselected := unselect_base [] [] serial base original restored.object
          simpa [setBuffer, unbuffer, unselected, deleteBitmap] using
            buffer_plain base drawArea area none serial answers
      | some given =>
          by_cases same : given = hDC
          · simpa [setBuffer, same] using buffer_plain base drawArea area original serial answers
          · obtain ⟨handle, rfl⟩ := (base.offered [] [] serial sound.offers).resolve_left same
            obtain ⟨after, released⟩ := release_accounted (.plain drawArea original serial base)
              (plain_restores drawArea original serial restored)
            simpa [setBuffer, same, released] using
              buffer_supplied handle Rect.empty area after answers
  | buffered memoryDC bitmap selected drawArea original originalParent serial base =>
      exact setBuffer_buffered memoryDC bitmap selected drawArea original originalParent serial
        base area given answers sound

theorem use_own {state : DeviceContext × Gdi} (accounted : Accounted state) :
    state.2.use state.1.hDC = some state.2 ∧ state.2.use state.1.parentDC = some state.2 := by
  cases accounted with
  | empty hWnd drawArea serial => exact ⟨rfl, rfl⟩
  | plain drawArea original serial base => exact ⟨base.use [] [] serial, rfl⟩
  | buffered memoryDC bitmap selected drawArea original originalParent serial base =>
      exact ⟨use_memory [bitmap] serial memoryDC selected,
        base.use [(memoryDC, selected)] [bitmap] serial⟩

theorem selectObject_accounted {state : DeviceContext × Gdi} (accounted : Accounted state)
    (isBitmap : Bool) (replaced : Option Nat) :
    ∃ selected next, state.1.selectObject state.2 isBitmap replaced = some (selected, next) ∧
      Accounted next := by
  cases accounted with
  | empty hWnd drawArea serial =>
      exact ⟨false, _, by simp [selectObject], .empty hWnd drawArea serial⟩
  | @plain hWnd hDC windowDcs drawArea original serial base =>
      have selects := base.selectOther [] [] serial isBitmap (replaced ≠ none)
      rw [selectObject, if_pos (by simp), selects, Option.map_some]
      by_cases first : original = none
      · by_cases succeeds : replaced ≠ none
        · exact ⟨true, _, by rw [if_pos first, if_pos succeeds],
            .plain drawArea replaced serial base⟩
        · exact ⟨false, _, by rw [if_pos first, if_neg succeeds],
            .plain drawArea original serial base⟩
      · exact ⟨_, _, by rw [if_neg first], .plain drawArea original serial base⟩
  | @buffered hWnd parentDC windowDcs memoryDC bitmap selected drawArea original originalParent
      serial base =>
      rw [selectObject, if_pos (by simp), selectOther_memory, Option.map_some]
      exact ⟨_, _, by rw [if_neg (by simp)],
        .buffered memoryDC bitmap _ drawArea original originalParent serial base⟩

theorem step_accounted {state : DeviceContext × Gdi} (accounted : Accounted state) (event : Event)
    (sound : Sound state event) : ∃ next, step state event = some next ∧ Accounted next := by
  obtain ⟨own, ownParent⟩ := use_own accounted
  cases event with
  | setBuffer area given restored answers =>
      obtain ⟨buffered, next, result, kept⟩ :=
        setBuffer_accounted accounted area given answers sound
      exact ⟨next, by rw [step, result, Option.map_some], kept⟩
  | selectObject isBitmap replaced =>
      obtain ⟨selected, next, result, kept⟩ :=
        selectObject_accounted accounted isBitmap replaced
      exact ⟨next, by rw [step, result, Option.map_some], kept⟩
  | flushBuffer copies =>
      refine ⟨state, ?_, accounted⟩
      rw [step, flushBuffer]
      by_cases buffered : state.1.parentDC ≠ none
      · rw [if_pos buffered, bitBlt, ownParent, Option.bind_some, own]
        rfl
      · rw [if_neg buffered]
        rfl
  | flushBufferTo target copies =>
      refine ⟨state, ?_, accounted⟩
      have targeted : state.2.use target = some state.2 := by
        cases target with
        | none => rfl
        | some target => exact if_pos sound.offers
      rw [step, flushBufferTo, bitBlt, targeted, Option.bind_some, own]
      rfl
  | release restored =>
      obtain ⟨serial, released⟩ := release_accounted accounted sound.restores
      exact ⟨_, released, .empty 0 Rect.empty serial⟩

/-! Every run. -/

theorem obtain_accounted {hWnd : HWND} {obtained : Bool} (real : obtained = true → hWnd ≠ 0) :
    Accounted (obtain hWnd obtained) := by
  cases obtained with
  | false => exact .empty hWnd Rect.empty 0
  | true => exact .plain Rect.empty none 1 (.window 0 (real rfl))

theorem obtained_buffer {hWnd : HWND} {obtained : Bool} (real : obtained = true → hWnd ≠ 0)
    (area : Rect) (answers : BufferAnswers) :
    ∃ buffered next, (obtain hWnd obtained).1.setBuffer (obtain hWnd obtained).2 area none
      ⟨true, true⟩ answers = some (buffered, next) ∧ Accounted next :=
  setBuffer_accounted (obtain_accounted real) area none answers ⟨trivial, trivial, fun _ _ => rfl⟩

theorem construct_accounted {construction : Construction} (names : construction.NamesWindow)
    (offers : construction.OffersHandles) :
    ∃ state, construct construction = some state ∧ Accounted state := by
  cases construction with
  | default => exact ⟨_, rfl, .empty 0 Rect.empty 0⟩
  | ofHDC hDC =>
      cases hDC with
      | none => exact ⟨_, rfl, .empty 0 Rect.empty 0⟩
      | some hDC =>
          cases hDC with
          | window serial => exact absurd offers id
          | memory serial => exact absurd offers id
          | supplied handle => exact ⟨_, rfl, .plain Rect.empty none 0 (.supplied handle)⟩
  | ofHWND hWnd obtained clientRect =>
      cases obtained with
      | false => exact ⟨_, rfl, .empty hWnd Rect.empty 0⟩
      | true => exact ⟨_, rfl, .plain clientRect none 1 (.window 0 (names rfl))⟩
  | sized hWnd obtained width height answers =>
      cases obtained with
      | false => exact ⟨_, rfl, .empty hWnd Rect.empty 0⟩
      | true =>
          obtain ⟨buffered, next, result, kept⟩ :=
            obtained_buffer names ⟨0, 0, width, height⟩ answers
          exact ⟨next, congrArg (Option.map Prod.snd) result, kept⟩
  | ofArea hWnd obtained area answers =>
      cases obtained with
      | false => exact ⟨_, rfl, .empty hWnd Rect.empty 0⟩
      | true =>
          obtain ⟨buffered, next, result, kept⟩ := obtained_buffer names area answers
          exact ⟨next, congrArg (Option.map Prod.snd) result, kept⟩

/-- The calls have results throughout, and the release after them leaves nothing to give back. -/
def OwnsHandles (construction : Construction) (events : List Event) (restored : RestoreAnswers) :
    Prop :=
  ∃ start last serial, construct construction = some start ∧
    Runs.final step start events = some last ∧
      last.1.release last.2 restored =
        some (⟨0, none, none, none, Rect.empty, none, none⟩, ⟨[], [], [], serial⟩)

theorem run_accounted {state : DeviceContext × Gdi} (accounted : Accounted state)
    {events : List Event} (sound : Runs.Along step Sound state events) :
    ∃ last, Runs.final step state events = some last ∧ Accounted last := by
  induction events generalizing state with
  | nil => exact ⟨state, rfl, accounted⟩
  | cons event rest ih =>
      obtain ⟨here, later⟩ := sound
      obtain ⟨next, stepped, kept⟩ := step_accounted accounted event here
      obtain ⟨last, reached, accountedLast⟩ := ih kept (later next stepped)
      refine ⟨last, ?_, accountedLast⟩
      rw [Runs.final_cons, stepped, Option.bind_some, reached]

/-- Every handle is given back once and not used afterwards, as long as no device context is
obtained for no window, none is taken over while a window is kept for which none was, and the
bitmap of a buffer that goes is not left selected. -/
theorem handles_owned {construction : Construction} {events : List Event}
    {restored : RestoreAnswers} (names : construction.NamesWindow)
    (offers : construction.OffersHandles)
    (sound : ∀ start, construct construction = some start →
      Runs.Along step Sound start (events ++ [.release restored])) :
    OwnsHandles construction events restored := by
  obtain ⟨start, constructed, accounted⟩ := construct_accounted names offers
  obtain ⟨before, after⟩ := Runs.along_append.mp (sound start constructed)
  obtain ⟨last, reached, accountedLast⟩ := run_accounted accounted before
  obtain ⟨atEnd, -⟩ := after last reached
  obtain ⟨serial, released⟩ := release_accounted accountedLast atEnd.restores
  exact ⟨start, last, serial, constructed, reached, released⟩

theorem handles_owned_supplied :
    OwnsHandles (.ofHDC (some (.supplied 4)))
      [.setBuffer ⟨0, 0, 3, 3⟩ (some (.supplied 5)) ⟨false, true⟩ ⟨true, true, some 0⟩]
      ⟨true, false⟩ := by
  have names : (Construction.ofHDC (some (.supplied 4))).NamesWindow := trivial
  have offers : (Construction.ofHDC (some (.supplied 4))).OffersHandles := trivial
  apply handles_owned names offers
  intro start constructed
  cases constructed
  refine ⟨⟨trivial, fun stale => stale.1 rfl, ?_⟩, ?_⟩
  · rintro ⟨bitmap, none, -⟩
    cases none
  · intro next _
    exact ⟨⟨trivial, trivial, fun _ => rfl⟩, fun _ _ => trivial⟩

/-- No device context is obtained for the window, then one of the caller's is buffered: the window
is still there, and the caller's device context is released with it. -/
theorem supplied_released_failedGetDC :
    ¬ ∀ (construction : Construction) (events : List Event) (restored : RestoreAnswers),
      construction.OffersHandles →
      (∀ start, construct construction = some start →
        Runs.Along step OffersHandles start events) →
      OwnsHandles construction events restored := by
  intro claim
  obtain ⟨start, last, serial, constructed, reached, released⟩ :=
    claim (.ofHWND 1 false Rect.empty)
      [.setBuffer ⟨0, 0, 1, 1⟩ (some (.supplied 7)) ⟨true, true⟩ ⟨false, false, none⟩]
      ⟨true, true⟩ trivial fun _ _ => ⟨trivial, fun _ _ => trivial⟩
  cases constructed
  cases reached
  cases released

/-- The device context of the whole screen is never released. -/
theorem screen_kept (clientRect : Rect) (restored : RestoreAnswers) :
    ¬ OwnsHandles (.ofHWND 0 true clientRect) [] restored := by
  rintro ⟨start, last, serial, constructed, reached, released⟩
  cases constructed
  cases reached
  cases released

/-- A bitmap that stays selected in the buffer is not deleted. -/
theorem bitmap_kept (handle replaced : Nat) (area : Rect) (restored : RestoreAnswers)
    (fails : restored.object = false) :
    ¬ OwnsHandles (.ofHDC (some (.supplied handle)))
      [.setBuffer area none ⟨true, true⟩ ⟨true, true, some replaced⟩] restored := by
  rintro ⟨start, last, serial, constructed, reached, released⟩
  cases constructed
  cases reached
  obtain ⟨object, parentObject⟩ := restored
  obtain rfl : object = false := fails
  cases released

end DeviceContext

end LeanMiniViews
