import LeanMiniViews.ListBoxCore
import LeanMiniViews.Runs

/-!
Additions that wait against additions that do not. All other changes are made at once, to a list
that the waiting items are not in yet.
-/

namespace LeanMiniViews

inductive ListEdit where
  | addItem (item : UInt32)
  | insertItem (index : Int) (item : UInt32)
  | removeItem (index : Int)
  | clearItems
deriving DecidableEq, Repr

namespace ListBoxControl

/-- Only the index that `addItem` answers is kept. -/
def perform (box : ListBoxControl) : ListEdit → Option Int × ListBoxControl
  | .addItem item => (some (box.addItem item).1, (box.addItem item).2)
  | .insertItem index item => (none, (box.insertItem index item).2)
  | .removeItem index => (none, (box.removeItem index).2)
  | .clearItems => (none, box.clearItems)

def performAll (box : ListBoxControl) : List ListEdit → List (Option Int) × ListBoxControl
  | [] => ([], box)
  | edit :: rest =>
      let (index, next) := box.perform edit
      let (indices, last) := next.performAll rest
      (index :: indices, last)

def FillsAlike (batched immediate : ListBoxControl) (edits : List ListEdit) : Prop :=
  (batched.performAll edits).1 = (immediate.performAll edits).1 ∧
    ((batched.performAll edits).2.setRedraw true).items = (immediate.performAll edits).2.items

/-- Nothing comes after the items that wait, and nothing is done to them. -/
def SparesWaiting (box : ListBoxControl) : ListEdit → Prop
  | .addItem _ => box.items = []
  | .insertItem index item =>
      (index = -1 → ∀ waiting ∈ box.itemsToAdd, waiting = item) ∧
        ¬ (box.items.length < index ∧ index ≤ box.items.length + box.itemsToAdd.length)
  | .removeItem index =>
      ¬ (box.items.length ≤ index ∧ index < box.items.length + box.itemsToAdd.length)
  | .clearItems => box.itemsToAdd = []

instance (box : ListBoxControl) : DecidablePred box.SparesWaiting
  | .addItem _ => inferInstanceAs (Decidable (_ = _))
  | .insertItem _ _ => inferInstanceAs (Decidable ((_ → _) ∧ _))
  | .removeItem _ => inferInstanceAs (Decidable (¬ _))
  | .clearItems => inferInstanceAs (Decidable (_ = _))

/-- The items of a box that is redrawn are those of the other one and, behind them, those that
wait there. -/
structure Waits (batched immediate : ListBoxControl) : Prop where
  waiting : batched.autoRedraw = false
  redrawn : immediate.autoRedraw = true
  items : immediate.items = batched.items ++ batched.itemsToAdd

theorem insertIdx_front {items others : List UInt32} {item : UInt32} {index : Nat}
    (inside : index ≤ items.length) :
    (items ++ others).insertIdx index item = items.insertIdx index item ++ others := by
  induction items generalizing index with
  | nil =>
      obtain rfl := Nat.le_zero.mp inside
      rfl
  | cons first rest ih =>
      cases index with
      | zero => rfl
      | succ index =>
          rw [List.cons_append, List.insertIdx_succ_cons, List.insertIdx_succ_cons,
            ih (Nat.le_of_succ_le_succ inside), List.cons_append]

theorem append_eq_cons_iff {items : List UInt32} {item : UInt32} :
    items ++ [item] = item :: items ↔ ∀ waiting ∈ items, waiting = item := by
  induction items with
  | nil => simp
  | cons first rest ih =>
      rw [List.cons_append, List.cons.injEq, List.forall_mem_cons, ← ih]
      refine and_congr_right ?_
      rintro rfl
      rfl

theorem inserted_iff (items waiting : List UInt32) (index : Int) (item : UInt32) :
    (listBoxProc (items ++ waiting) (.insertString index item)).2 =
        (listBoxProc items (.insertString index item)).2 ++ waiting ↔
      (index = -1 → ∀ other ∈ waiting, other = item) ∧
        ¬ (items.length < index ∧ index ≤ items.length + waiting.length) := by
  rw [listBoxProc, listBoxProc]
  by_cases atEnd : index = -1
  · rw [if_pos atEnd, if_pos atEnd, List.append_assoc, List.append_assoc,
      List.append_cancel_left_eq, List.singleton_append, append_eq_cons_iff]
    constructor
    · intro same
      exact ⟨fun _ => same, by omega⟩
    · exact fun spares => spares.1 atEnd
  · rw [if_neg atEnd, if_neg atEnd, List.length_append]
    by_cases inFront : 0 ≤ index ∧ index ≤ items.length
    · rw [if_pos inFront, if_pos ⟨inFront.1, by omega⟩]
      refine iff_of_true (insertIdx_front (by omega)) ⟨fun same => absurd same atEnd, by omega⟩
    · rw [if_neg inFront]
      by_cases amongWaiting : 0 ≤ index ∧ index ≤ (items.length + waiting.length : Nat)
      · rw [if_pos amongWaiting]
        refine iff_of_false ?_ (by omega)
        intro same
        have lengths := congrArg List.length same
        rw [List.length_insertIdx_of_le_length (by rw [List.length_append]; omega)] at lengths
        exact Nat.succ_ne_self _ lengths
      · rw [if_neg amongWaiting]
        exact iff_of_true rfl ⟨fun same => absurd same atEnd, by omega⟩

theorem removed_iff (items waiting : List UInt32) (index : Int) :
    (listBoxProc (items ++ waiting) (.deleteString index)).2 =
        (listBoxProc items (.deleteString index)).2 ++ waiting ↔
      ¬ (items.length ≤ index ∧ index < items.length + waiting.length) := by
  rw [listBoxProc, listBoxProc, List.length_append]
  by_cases inFront : 0 ≤ index ∧ index < items.length
  · rw [if_pos inFront, if_pos ⟨inFront.1, by omega⟩]
    exact iff_of_true (List.eraseIdx_append_of_lt_length (by omega) waiting) (by omega)
  · rw [if_neg inFront]
    by_cases amongWaiting : 0 ≤ index ∧ index < (items.length + waiting.length : Nat)
    · rw [if_pos amongWaiting]
      refine iff_of_false ?_ (by omega)
      intro same
      have lengths := congrArg List.length same
      rw [List.length_eraseIdx_of_lt (by rw [List.length_append]; omega),
        List.length_append] at lengths
      omega
    · rw [if_neg amongWaiting]
      exact iff_of_true rfl (by omega)

theorem setRedraw_items {box : ListBoxControl} (waiting : box.autoRedraw = false) :
    (box.setRedraw true).items = box.items ++ box.itemsToAdd := by
  have added (items more : List UInt32) :
      more.foldl (fun items item => (listBoxProc items (.addString item)).2) items =
        items ++ more := by
    induction more generalizing items with
    | nil => simp
    | cons item rest ih =>
        rw [List.foldl_cons, ih]
        simp [listBoxProc]
  simp only [setRedraw, controlProc, waiting, defaultProc, listBoxProc, Bool.not_false,
    Bool.and_self, if_true, addWaiting]
  exact added _ _

section Steps

variable {batched immediate : ListBoxControl}

theorem addItem_of_waiting (waiting : batched.autoRedraw = false) (item : UInt32) :
    batched.addItem item =
      ((batched.itemsToAdd.length : Int),
        { batched with itemsToAdd := batched.itemsToAdd ++ [item] }) := by
  have answer : ((batched.itemsToAdd ++ [item]).length : Int) - 1 = batched.itemsToAdd.length := by
    rw [List.length_append, List.length_singleton]
    omega
  simp only [addItem, controlProc, waiting, Bool.not_false, if_true, answer]
  rw [if_neg (by rw [LB_ERR, LB_ERRSPACE]; omega)]

theorem addItem_of_redrawn (redrawn : immediate.autoRedraw = true) (item : UInt32) :
    immediate.addItem item =
      ((immediate.items.length : Int), { immediate with items := immediate.items ++ [item] }) := by
  simp only [addItem, controlProc, redrawn, Bool.not_true, Bool.false_eq_true, if_false,
    defaultProc, listBoxProc]
  rw [if_neg (by rw [LB_ERR, LB_ERRSPACE]; omega)]

theorem Waits.perform_iff (waits : Waits batched immediate) (edit : ListEdit) :
    ((batched.perform edit).1 = (immediate.perform edit).1 ∧
        Waits (batched.perform edit).2 (immediate.perform edit).2) ↔
      batched.SparesWaiting edit := by
  cases edit with
  | addItem item =>
      rw [perform, perform, addItem_of_waiting waits.waiting, addItem_of_redrawn waits.redrawn,
        waits.items, List.length_append, SparesWaiting, ← List.length_eq_zero_iff]
      constructor
      · rintro ⟨same, -⟩
        rw [Option.some.injEq] at same
        omega
      · intro empty
        refine ⟨congrArg some (by omega), waits.waiting, waits.redrawn, ?_⟩
        exact List.append_assoc _ _ _
  | insertItem index item =>
      rw [SparesWaiting, ← inserted_iff, ← waits.items]
      constructor
      · exact fun stays => stays.2.items
      · exact fun same => ⟨rfl, waits.waiting, waits.redrawn, same⟩
  | removeItem index =>
      rw [SparesWaiting, ← removed_iff, ← waits.items]
      constructor
      · exact fun stays => stays.2.items
      · exact fun same => ⟨rfl, waits.waiting, waits.redrawn, same⟩
  | clearItems =>
      rw [SparesWaiting]
      constructor
      · exact fun stays => stays.2.items.symm
      · exact fun empty => ⟨rfl, waits.waiting, waits.redrawn, empty.symm⟩

theorem setRedraw_items_iff (waiting : batched.autoRedraw = false)
    (redrawn : immediate.autoRedraw = true) :
    (batched.setRedraw true).items = immediate.items ↔ Waits batched immediate := by
  rw [setRedraw_items waiting]
  exact ⟨fun same => ⟨waiting, redrawn, same.symm⟩, fun waits => waits.items.symm⟩

theorem perform_autoRedraw (box : ListBoxControl) (edit : ListEdit) :
    (box.perform edit).2.autoRedraw = box.autoRedraw := by
  cases edit with
  | addItem item =>
      cases redraw : box.autoRedraw with
      | false => rw [perform, addItem_of_waiting redraw, redraw]
      | true => rw [perform, addItem_of_redrawn redraw, redraw]
  | insertItem index item => rfl
  | removeItem index => rfl
  | clearItems => rfl

theorem fillsAlike_cons {edit : ListEdit} {rest : List ListEdit} :
    FillsAlike batched immediate (edit :: rest) ↔
      (batched.perform edit).1 = (immediate.perform edit).1 ∧
        FillsAlike (batched.perform edit).2 (immediate.perform edit).2 rest := by
  rw [FillsAlike, FillsAlike, performAll, performAll, List.cons.injEq, and_assoc]

theorem Waits.prefixes_iff (waits : Waits batched immediate) (edits : List ListEdit) :
    (∀ front, front <+: edits → FillsAlike batched immediate front) ↔
      Runs.Along (fun box edit => some (perform box edit).2) SparesWaiting batched edits := by
  induction edits generalizing batched immediate with
  | nil =>
      refine iff_of_true ?_ trivial
      intro front isFront
      rw [List.prefix_nil.mp isFront]
      exact ⟨rfl, (setRedraw_items_iff waits.waiting waits.redrawn).mpr waits⟩
  | cons edit rest ih =>
      have step := waits.perform_iff edit
      rw [Runs.along_cons]
      constructor
      · intro alike
        have once := fillsAlike_cons.mp (alike [edit] (List.prefix_append [edit] rest))
        have still := (setRedraw_items_iff
          ((batched.perform_autoRedraw edit).trans waits.waiting)
          ((immediate.perform_autoRedraw edit).trans waits.redrawn)).mp once.2.2
        refine ⟨step.mp ⟨once.1, still⟩, ?_⟩
        intro next taken
        obtain rfl := Option.some.inj taken
        refine (ih still).mp fun front isFront => ?_
        exact (fillsAlike_cons.mp (alike (edit :: front) (List.cons_prefix_cons.mpr
          ⟨rfl, isFront⟩))).2
      · rintro ⟨spares, later⟩ front isFront
        obtain ⟨same, still⟩ := step.mpr spares
        obtain rfl | ⟨front, rfl, inRest⟩ := List.prefix_cons_iff.mp isFront
        · exact ⟨rfl, (setRedraw_items_iff waits.waiting waits.redrawn).mpr waits⟩
        · exact fillsAlike_cons.mpr ⟨same, (ih still).mpr (later _ rfl) front inRest⟩

end Steps

/-- A control that is redrawn, so that nothing waits. -/
def filled (items : List UInt32) : ListBoxControl := ⟨items, true, []⟩

/-- After every part of the edits the batch has filled the list like the edits one by one, exactly
if no edit comes too late for the items that wait. -/
theorem fillsAlike_iff (items : List UInt32) (edits : List ListEdit) :
    (∀ front, front <+: edits →
        FillsAlike ((filled items).setRedraw false) (filled items) front) ↔
      Runs.Along (fun box edit => some (perform box edit).2) SparesWaiting
        ((filled items).setRedraw false) edits := by
  have waits : Waits ((filled items).setRedraw false) (filled items) :=
    ⟨rfl, rfl, (List.append_nil items).symm⟩
  exact waits.prefixes_iff edits

/-- The index of a first addition is that of an empty list. -/
theorem fillsAlike_misses_filled :
    ¬ ∀ items edits, FillsAlike ((filled items).setRedraw false) (filled items) edits := by
  intro claim
  exact absurd (claim [5] [.addItem 7]).1 (by decide)

end ListBoxControl

end LeanMiniViews
