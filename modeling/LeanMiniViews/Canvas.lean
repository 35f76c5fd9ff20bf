import Mathlib.Data.Option.Basic

/-!
What is drawn on a surface, call by call, and what is drawn on another one first and copied then.
Nothing is drawn outside of the bound of a surface.
-/

namespace Canvas

/-- What each point shows. -/
abbrev Surface (Ink : Type) := Int → Int → Ink

abbrev Region := Int → Int → Bool

/-- One drawing call: the points it reaches, and what it leaves there. -/
structure Mark (Ink : Type) where
  covers : Region
  ink : Ink

variable {Ink : Type}

def draw (bound : Region) (surface : Surface Ink) (mark : Mark Ink) : Surface Ink :=
  fun x y => if bound x y && mark.covers x y then mark.ink else surface x y

def drawAll (bound : Region) (surface : Surface Ink) (marks : List (Mark Ink)) : Surface Ink :=
  marks.foldl (draw bound) surface

def copy (bound : Region) (surface bitmap : Surface Ink) : Surface Ink :=
  fun x y => if bound x y then bitmap x y else surface x y

/-- What the last of the calls that reach a point leaves there. -/
def topmost : List (Mark Ink) → Int → Int → Option Ink
  | [], _, _ => none
  | mark :: later, x, y =>
      (topmost later x y).or (if mark.covers x y then some mark.ink else none)

@[simp] theorem topmost_nil (x y : Int) : topmost ([] : List (Mark Ink)) x y = none := rfl

@[simp] theorem topmost_cons (mark : Mark Ink) (later : List (Mark Ink)) (x y : Int) :
    topmost (mark :: later) x y =
      (topmost later x y).or (if mark.covers x y then some mark.ink else none) := rfl

theorem topmost_append (first later : List (Mark Ink)) (x y : Int) :
    topmost (first ++ later) x y = (topmost later x y).or (topmost first x y) := by
  induction first with
  | nil => rw [List.nil_append, topmost_nil, Option.or_none]
  | cons mark first ih => rw [List.cons_append, topmost_cons, ih, topmost_cons, Option.or_assoc]

variable {bound : Region} {x y : Int}

theorem drawAll_outside (outside : bound x y = false) (surface : Surface Ink)
    (marks : List (Mark Ink)) : drawAll bound surface marks x y = surface x y := by
  induction marks generalizing surface with
  | nil => rfl
  | cons mark later ih =>
      have kept : draw bound surface mark x y = surface x y := by simp [draw, outside]
      rw [drawAll, List.foldl_cons, ← drawAll, ih, kept]

theorem drawAll_inside (inside : bound x y = true) (surface : Surface Ink)
    (marks : List (Mark Ink)) :
    drawAll bound surface marks x y = (topmost marks x y).getD (surface x y) := by
  induction marks generalizing surface with
  | nil => rfl
  | cons mark later ih =>
      rw [drawAll, List.foldl_cons, ← drawAll, ih, topmost_cons]
      cases topmost later x y with
      | some ink => rfl
      | none =>
          by_cases covered : mark.covers x y = true
          · simp [draw, inside, covered]
          · simp [draw, covered]

/-- A point that no call reaches shows what the bitmap started with. -/
theorem copy_drawAll (surface bitmap : Surface Ink) (marks : List (Mark Ink)) :
    copy bound surface (drawAll bound bitmap marks) x y =
      if bound x y then (topmost marks x y).getD (bitmap x y) else surface x y := by
  by_cases inside : bound x y = true
  · rw [copy, if_pos inside, if_pos inside, drawAll_inside inside]
  · rw [copy, if_neg inside, if_neg inside]

end Canvas
