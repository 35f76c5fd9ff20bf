import LeanMiniViews.DeviceContextCore

/-!
The lines into which `drawWrappableText` breaks a text, for any measure under which a longer
front of a text is not narrower.
-/

namespace LeanMiniViews

namespace DeviceContext

variable {CodeUnit : Type} {extent : List CodeUnit → Size}

structure MonotoneExtent (extent : List CodeUnit → Size) : Prop where
  monotone : ∀ (str : List CodeUnit) (shorter longer : Nat), shorter ≤ longer →
    (extent (str.take shorter)).cx ≤ (extent (str.take longer)).cx
  empty : (extent []).cx = 0

structure LongestFitting (extent : List CodeUnit → Size) (width : Int)
    (remaining line : List CodeUnit) : Prop where
  isPrefix : line <+: remaining
  fits : (extent line).cx ≤ width
  longest : ∀ other, other <+: remaining → (extent other).cx ≤ width →
    other.length ≤ line.length

structure WordWrapped (extent : List CodeUnit → Size) (textArea : Rect) (lineHeight : Int)
    (prevBottom : Int) (str : List CodeUnit) (lines : List (DrawnText CodeUnit)) : Prop where
  longest : ∀ before line after, lines = before ++ line :: after →
    LongestFitting extent textArea.width
      (str.drop (before.flatMap DrawnText.text).length) line.text
  inOrder : lines.flatMap DrawnText.text <+: str
  placed : ∀ (i : Nat) line, lines[i]? = some line →
    line.x = textArea.left ∧ line.y = prevBottom + lineHeight * i
  inside : ∀ line ∈ lines, line.y + lineHeight < textArea.bottom
  full : lines.flatMap DrawnText.text = str ∨
    textArea.bottom ≤ prevBottom + lineHeight * (lines.length + 1)

/-! One line. -/

theorem lineLength_longest (measure : MonotoneExtent extent) {width : Int} (wide : 0 ≤ width)
    {str : List CodeUnit} (nonempty : 0 < str.length) :
    ∃ count, (∀ fuel, str.length ≤ fuel → lineLength extent width str fuel = some count) ∧
      LongestFitting extent width str (str.take count) := by
  let tooWide (count : Nat) := decide ((extent (str.take count)).cx > width)
  have nothing : tooWide 0 = false := by
    simp only [tooWide, List.take_zero, measure.empty]
    exact decide_eq_false (Int.not_lt.mpr wide)
  obtain ⟨last, found, lastBelow, fits, next⟩ :=
    Bisection.narrow_adjacent nonempty (Nat.sub_le _ _) nothing
  have result (fuel : Nat) (enough : str.length ≤ fuel) : lineLength extent width str fuel =
      some (if tooWide (last + 1) then last else last + 1) := by
    rw [lineLength]
    dsimp only
    rw [found fuel enough, Option.map_some]
  cases corrected : tooWide (last + 1) with
  | true =>
      refine ⟨last, ?_, List.take_prefix _ _, Int.not_lt.mp (of_decide_eq_false fits), ?_⟩
      · intro fuel enough
        rw [result fuel enough, corrected, if_pos rfl]
      · intro other isPrefix otherFits
        have wider := of_decide_eq_true corrected
        rw [List.prefix_iff_eq_take.mp isPrefix] at otherFits
        by_contra long
        rw [List.length_take, Nat.min_eq_left lastBelow.le, Nat.not_le] at long
        have wide := measure.monotone str (last + 1) other.length long
        omega
  | false =>
      -- the search never left the end of the text
      have whole : last + 1 = str.length := by
        rcases next with isEnd | isTooWide
        · exact isEnd
        · exact absurd (corrected.symm.trans isTooWide) Bool.false_ne_true
      refine ⟨last + 1, ?_, List.take_prefix _ _, Int.not_lt.mp (of_decide_eq_false corrected), ?_⟩
      · intro fuel enough
        rw [result fuel enough, corrected, if_neg Bool.false_ne_true]
      · intro other isPrefix _
        rw [whole, List.take_length]
        exact isPrefix.length_le

/-! All lines. -/

section Lines

variable {textArea : Rect} {lineHeight prevBottom : Int} {str : List CodeUnit}

theorem wordWrapped_nil
    (ended : ¬ (textArea.top + textArea.height - prevBottom > lineHeight ∧ str.length > 0)) :
    WordWrapped extent textArea lineHeight prevBottom str [] where
  longest before line after split := by
    have length := congrArg List.length split
    simp at length
  inOrder := List.nil_prefix
  placed i line found := by
    rw [List.getElem?_nil] at found
    cases found
  inside line member := by cases member
  full := by
    by_cases nonempty : str.length > 0
    · right
      have room : ¬ textArea.top + textArea.height - prevBottom > lineHeight :=
        fun room => ended ⟨room, nonempty⟩
      simp only [Rect.height, List.length_nil, Nat.cast_zero, Int.zero_add, Int.mul_one] at room ⊢
      omega
    · left
      exact (List.eq_nil_of_length_eq_zero (Nat.eq_zero_of_not_pos nonempty)).symm

theorem WordWrapped.cons {count : Nat} {later : List (DrawnText CodeUnit)}
    (room : textArea.top + textArea.height - prevBottom > lineHeight)
    (longest : LongestFitting extent textArea.width str (str.take count))
    (wrapped : WordWrapped extent textArea lineHeight (prevBottom + lineHeight) (str.drop count)
      later) :
    WordWrapped extent textArea lineHeight prevBottom str
      (⟨textArea.left, prevBottom, str.take count⟩ :: later) where
  longest before line after split := by
    cases before with
    | nil =>
        obtain ⟨rfl, rfl⟩ := List.cons.inj split
        exact longest
    | cons first before =>
        obtain ⟨rfl, rest⟩ := List.cons.inj split
        have below := wrapped.longest before line after rest
        have drawn : str.drop ((str.take count).length +
            (before.flatMap DrawnText.text).length) =
              (str.drop count).drop (before.flatMap DrawnText.text).length := by
          rw [← List.drop_drop, List.length_take]
          by_cases short : count ≤ str.length
          · rw [Nat.min_eq_left short]
          · have empty : str.drop count = [] := List.drop_eq_nil_of_le (by omega)
            rw [Nat.min_eq_right (by omega), List.drop_length, empty]
        rw [List.flatMap_cons, List.length_append, drawn]
        exact below
  inOrder := by
    rw [List.flatMap_cons]
    conv_rhs => rw [← List.take_append_drop count str]
    exact (List.prefix_append_right_inj _).mpr wrapped.inOrder
  placed i line found := by
    cases i with
    | zero =>
        obtain rfl := Option.some.inj found
        simp
    | succ i =>
        obtain ⟨left, below⟩ := wrapped.placed i line found
        refine ⟨left, ?_⟩
        rw [below]
        push_cast
        ring
  inside line member := by
    rcases List.mem_cons.mp member with rfl | inLater
    · simp only [Rect.height] at room ⊢
      omega
    · exact wrapped.inside line inLater
  full := by
    rcases wrapped.full with all | noRoom
    · left
      rw [List.flatMap_cons, all, List.take_append_drop]
    · right
      rw [List.length_cons]
      push_cast
      linarith

theorem wrapLines_wraps (measure : MonotoneExtent extent) (wide : 0 ≤ textArea.width)
    (tall : 1 ≤ lineHeight) {rows : Nat} (inRows : textArea.bottom - prevBottom ≤ rows) :
    ∃ lines, (∀ fuel, str.length + rows < fuel →
        wrapLines extent textArea lineHeight fuel prevBottom str = some lines) ∧
      WordWrapped extent textArea lineHeight prevBottom str lines := by
  induction rows generalizing prevBottom str with
  | zero =>
      have ended : ¬ (textArea.top + textArea.height - prevBottom > lineHeight ∧
          str.length > 0) := by
        simp only [Rect.height]
        omega
      refine ⟨[], ?_, wordWrapped_nil ended⟩
      intro fuel enough
      obtain ⟨fuel, rfl⟩ := Nat.exists_eq_add_of_le' (Nat.zero_lt_of_lt enough)
      rw [wrapLines, if_neg ended]
  | succ rows ih =>
      by_cases more : textArea.top + textArea.height - prevBottom > lineHeight ∧ str.length > 0
      · obtain ⟨count, counted, longest⟩ := lineLength_longest measure wide more.2
        obtain ⟨later, drawn, wrapped⟩ :=
          @ih (prevBottom + lineHeight) (str.drop count) (by omega)
        refine ⟨_, ?_, wrapped.cons more.1 longest⟩
        intro fuel enough
        obtain ⟨fuel, rfl⟩ := Nat.exists_eq_add_of_le' (Nat.zero_lt_of_lt enough)
        have shorter : (str.drop count).length ≤ str.length := by
          rw [List.length_drop]
          omega
        rw [wrapLines, if_pos more, counted _ (by omega), Option.bind_some,
          drawn fuel (by omega), Option.map_some]
      · refine ⟨[], ?_, wordWrapped_nil more⟩
        intro fuel enough
        obtain ⟨fuel, rfl⟩ := Nat.exists_eq_add_of_le' (Nat.zero_lt_of_lt enough)
        rw [wrapLines, if_neg more]

end Lines

/-- Where the text is wrapped the loops end, and what they draw is the text broken greedily from
the top of the area on. -/
theorem drawWrappableText_wraps (measure : MonotoneExtent extent) (text : List CodeUnit)
    (textArea : Rect) (wide : 0 ≤ textArea.width) (tall : 1 ≤ (extent text).cy)
    (wraps : ¬ (extent text).cx < textArea.width ∧ textArea.height > (extent text).cy) :
    ∃ lines, (∀ fuel, text.length + textArea.height.toNat < fuel →
        drawWrappableText extent fuel text textArea = some lines) ∧
      WordWrapped extent textArea (extent text).cy textArea.top text lines := by
  have inRows : textArea.bottom - textArea.top ≤ textArea.height.toNat := Int.self_le_toNat _
  obtain ⟨lines, drawn, wrapped⟩ := @wrapLines_wraps _ _ _ _ _ text measure wide tall _ inRows
  refine ⟨lines, ?_, wrapped⟩
  intro fuel enough
  rw [drawWrappableText, if_neg wraps.1, if_pos wraps.2]
  exact drawn fuel enough

/-- Each character is as wide as the area, and each line two high. -/
theorem drawWrappableText_wraps_letters :
    ∃ lines, (∀ fuel, "abc".toList.length + (Rect.mk 0 0 1 5).height.toNat < fuel →
        drawWrappableText (fun str : List Char => ⟨str.length, 2⟩) fuel "abc".toList ⟨0, 0, 1, 5⟩ =
          some lines) ∧
      WordWrapped (fun str : List Char => ⟨str.length, 2⟩) ⟨0, 0, 1, 5⟩ 2 0 "abc".toList lines := by
  apply drawWrappableText_wraps ⟨_, rfl⟩ "abc".toList ⟨0, 0, 1, 5⟩ (by decide) (by decide)
    (by decide)
  intro str shorter longer ordered
  simp only [List.length_take]
  omega

end DeviceContext

end LeanMiniViews
