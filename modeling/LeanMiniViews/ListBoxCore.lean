import Mathlib.Data.List.Basic

/-!
`ListBoxControl`: numbers in an unsorted list box, and those that wait to be added while it is not
redrawn. The list box itself answers as documented and does not run out of space. Messages to the
parent are left out.
-/

namespace LeanMiniViews

def LB_ERR : Int := -1

def LB_ERRSPACE : Int := -2

inductive ListMessage where
  | addString (item : UInt32)
  | insertString (index : Int) (item : UInt32)
  | deleteString (index : Int)
  | resetContent
  | setRedraw (redraw : Bool)
deriving DecidableEq, Repr

/-- The list box below the control: the answer, and the items afterwards. -/
def listBoxProc (items : List UInt32) : ListMessage → Int × List UInt32
  | .addString item => (items.length, items ++ [item])
  | .insertString index item =>
      if index = -1 then (items.length, items ++ [item])
      else if 0 ≤ index ∧ index ≤ items.length then (index, items.insertIdx index.toNat item)
      else (LB_ERR, items)
  | .deleteString index =>
      if 0 ≤ index ∧ index < items.length then
        ((items.length : Int) - 1, items.eraseIdx index.toNat)
      else (LB_ERR, items)
  | .resetContent => (0, [])
  | .setRedraw _ => (0, items)

structure ListBoxControl where
  items : List UInt32
  autoRedraw : Bool
  itemsToAdd : List UInt32
deriving DecidableEq, Repr

namespace ListBoxControl

def defaultProc (box : ListBoxControl) (message : ListMessage) : Int × ListBoxControl :=
  let (result, items) := listBoxProc box.items message
  (result, { box with items := items })

def addWaiting (box : ListBoxControl) : ListBoxControl :=
  { box with
    items := box.itemsToAdd.foldl (fun items item => (listBoxProc items (.addString item)).2)
      box.items
    itemsToAdd := [] }

def controlProc (box : ListBoxControl) : ListMessage → Int × ListBoxControl
  | .addString item =>
      if !box.autoRedraw then
        let itemsToAdd := box.itemsToAdd ++ [item]
        ((itemsToAdd.length : Int) - 1, { box with itemsToAdd := itemsToAdd })
      else box.defaultProc (.addString item)
  | .setRedraw redraw =>
      let handled :=
        if redraw && !box.autoRedraw then { box.addWaiting with autoRedraw := true }
        else if !redraw && box.autoRedraw then { box with autoRedraw := false }
        else box
      handled.defaultProc (.setRedraw redraw)
  | message => box.defaultProc message

def clearItems (box : ListBoxControl) : ListBoxControl := (box.controlProc .resetContent).2

def addItem (box : ListBoxControl) (item : UInt32) : Int × ListBoxControl :=
  let (result, next) := box.controlProc (.addString item)
  if result = LB_ERR ∨ result = LB_ERRSPACE then (-1, next) else (result, next)

def insertItem (box : ListBoxControl) (index : Int) (item : UInt32) : Bool × ListBoxControl :=
  let (result, next) := box.controlProc (.insertString index item)
  (result ≠ LB_ERR ∧ result ≠ LB_ERRSPACE, next)

def removeItem (box : ListBoxControl) (index : Int) : Bool × ListBoxControl :=
  let (result, next) := box.controlProc (.deleteString index)
  (result ≠ LB_ERR, next)

def setRedraw (box : ListBoxControl) (redraw : Bool) : ListBoxControl :=
  (box.controlProc (.setRedraw redraw)).2

end ListBoxControl

end LeanMiniViews
