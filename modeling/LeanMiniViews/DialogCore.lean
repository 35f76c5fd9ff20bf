import LeanMiniViews.OverlayCore

/-!
The dialog of the overlay, `MainDialog`, and the list of views its Views tab keeps. Views are
named as in the overlay, and an edit in the tab is a call of the overlay to the view it has
selected. The controls, the other tabs and what the dialog shows of a view are left out.
-/

namespace LeanMiniViews

inductive TabId where
  | generalTab
  | viewsTab
  | advancedTab
  | aboutTab
deriving DecidableEq, Repr

/-- What the system answers while the Views tab is refreshed: the text of each window, and the
items the tree control reports as selected while it is emptied and after it got a new item. -/
structure TreeControl where
  winText : HWND → String
  emptySubTree : List Int
  insertTreeItem : HWND → List Int

structure TreeItem where
  displayedMiniViewTitle : String
  miniView : HWND
deriving DecidableEq, Repr

structure ViewsWindow where
  currTreeItems : List TreeItem
  currMiniView : Option HWND
deriving DecidableEq, Repr

namespace ViewsWindow

def init : ViewsWindow := ⟨[], none⟩

def miniViewAt (newValue : Int) : Int → List HWND → Option HWND
  | _, [] => none
  | i, miniView :: rest => if i = newValue then some miniView else miniViewAt newValue (i + 1) rest

def notifyTreeItemSelected (miniViewList : List HWND) (window : ViewsWindow) (newValue : Int) :
    ViewsWindow :=
  { window with currMiniView := miniViewAt newValue 0 miniViewList }

/-- One turn of the loop that rebuilds the tree, with `includesCurrMiniView`. -/
def insertMiniView (tree : TreeControl) (miniViewList : List HWND) (state : ViewsWindow × Bool)
    (miniView : HWND) : ViewsWindow × Bool :=
  let includesCurrMiniView := state.2 || state.1.currMiniView == some miniView
  let inserted := { state.1 with
    currTreeItems := state.1.currTreeItems ++ [⟨tree.winText miniView, miniView⟩] }
  ((tree.insertTreeItem miniView).foldl (notifyTreeItemSelected miniViewList) inserted,
    includesCurrMiniView)

def rebuildTree (window : ViewsWindow) (tree : TreeControl) (miniViewList : List HWND) :
    ViewsWindow :=
  let emptied := tree.emptySubTree.foldl (notifyTreeItemSelected miniViewList)
    { window with currTreeItems := [] }
  let rebuilt := miniViewList.foldl (insertMiniView tree miniViewList) (emptied, false)
  if rebuilt.2 then rebuilt.1 else { rebuilt.1 with currMiniView := miniViewList.head? }

def refreshNames (window : ViewsWindow) (tree : TreeControl) : ViewsWindow :=
  { window with currTreeItems := window.currTreeItems.map fun item =>
      if item.displayedMiniViewTitle ≠ tree.winText item.miniView then
        { item with displayedMiniViewTitle := tree.winText item.miniView }
      else item }

def refreshWindow (window : ViewsWindow) (tree : TreeControl) (miniViewList : List HWND)
    (rebuildTree refreshNames : Bool) : ViewsWindow :=
  if rebuildTree then window.rebuildTree tree miniViewList
  else if refreshNames then window.refreshNames tree
  else window

end ViewsWindow

structure MainDialog where
  classWindow : ClassWindow
  selectedTab : TabId
  viewsWindow : ViewsWindow
deriving DecidableEq, Repr

namespace MainDialog

def init : MainDialog := ⟨ClassWindow.init, .generalTab, ViewsWindow.init⟩

def isShown (dialog : MainDialog) : Bool := dialog.classWindow.windowsItemHandle != 0

def changeTab (dialog : MainDialog) (tree : TreeControl) (miniViewList : List HWND)
    (tabId : TabId) : MainDialog :=
  match tabId with
  | .viewsTab =>
      { dialog with viewsWindow := dialog.viewsWindow.refreshWindow tree miniViewList true true }
  | _ => dialog

def createThis (dialog : MainDialog) (registeredClasses : List String) (creation : Creation)
    (tree : TreeControl) (miniViewList : List HWND) : MainDialog × List String :=
  let created := dialog.classWindow.createThis registeredClasses "MainMiniViewsDialog" creation
  let dialog := { dialog with classWindow := created.1 }
  (if created.2.2 then dialog.changeTab tree miniViewList dialog.selectedTab else dialog,
    created.2.1)

def destroyThis (dialog : MainDialog) : MainDialog :=
  if dialog.isShown then { dialog with classWindow := dialog.classWindow.destroyThis } else dialog

def refreshViewsTab (dialog : MainDialog) (tree : TreeControl) (miniViewList : List HWND)
    (rebuildTree refreshNames : Bool) : MainDialog :=
  if dialog.isShown ∧ dialog.selectedTab = .viewsTab then
    { dialog with viewsWindow :=
        dialog.viewsWindow.refreshWindow tree miniViewList rebuildTree refreshNames }
  else dialog

def tabSelChange (dialog : MainDialog) (tree : TreeControl) (miniViewList : List HWND)
    (curSel : TabId) : MainDialog :=
  { dialog with selectedTab := curSel }.changeTab tree miniViewList curSel

def sysCommandMinimize (dialog : MainDialog)
    (useNotificationIcon minimizeToNotificationIcon : Bool) : MainDialog :=
  if useNotificationIcon && minimizeToNotificationIcon then dialog.destroyThis else dialog

end MainDialog

/-- The overlay and its member `mainDialog`. -/
structure Application where
  miniViews : MiniViews
  mainDialog : MainDialog
deriving DecidableEq, Repr

namespace Application

def init (defaultOpacity : UInt8) : Application := ⟨MiniViews.init defaultOpacity, MainDialog.init⟩

def getMiniViewList (app : Application) : List HWND :=
  app.miniViews.currMiniViews.map fun view => view.window.hWnd

def refreshViewsTab (app : Application) (tree : TreeControl) (rebuildTree refreshNames : Bool) :
    Application :=
  { app with mainDialog :=
      app.mainDialog.refreshViewsTab tree app.getMiniViewList rebuildTree refreshNames }

def createDialog (app : Application) (creation : Creation) (tree : TreeControl) : Application :=
  let created := app.mainDialog.createThis app.miniViews.registeredClasses creation tree
    app.getMiniViewList
  { app with
    miniViews := { app.miniViews with registeredClasses := created.2 }
    mainDialog := created.1 }

def toggleShown (app : Application) (creation : Creation) (tree : TreeControl) : Application :=
  if app.mainDialog.classWindow.windowsItemHandle = 0 then app.createDialog creation tree
  else { app with mainDialog := app.mainDialog.destroyThis }

/-- The operations of the overlay that end with a request to rebuild the tree. -/
def rebuildsTree : MiniViews.Event → Bool
  | .addMiniView _ _ _ _ _ _ _ => true
  | .closeMiniView _ => true
  | _ => false

/-- A message to the overlay or a view, or to the dialog. A view that notifies the overlay of a
change does so as its last action, so `notifyChange` comes as a message of its own. -/
inductive Event where
  | overlay (event : MiniViews.Event) (tree : TreeControl)
  | notifyChange (tree : TreeControl)
  | openDialog (creation : Creation) (tree : TreeControl)
  | toggleShown (creation : Creation) (tree : TreeControl)
  | sysCommandMinimize (useNotificationIcon minimizeToNotificationIcon : Bool)
  | tabSelChange (curSel : TabId) (tree : TreeControl)
  | notifyTreeItemSelected (newValue : Int)

def step (app : Application) : Event → Option Application
  | .overlay event tree =>
      (app.miniViews.step event).map fun next =>
        let taken := { app with miniViews := next }
        if rebuildsTree event then taken.refreshViewsTab tree true true else taken
  | .notifyChange tree => some (app.refreshViewsTab tree false true)
  | .openDialog creation tree => some (app.createDialog creation tree)
  | .toggleShown creation tree => some (app.toggleShown creation tree)
  | .sysCommandMinimize useNotificationIcon minimizeToNotificationIcon =>
      if app.mainDialog.isShown then
        some { app with
          mainDialog := app.mainDialog.sysCommandMinimize useNotificationIcon
            minimizeToNotificationIcon }
      else none
  | .tabSelChange curSel tree =>
      if app.mainDialog.isShown then
        some { app with
          mainDialog := app.mainDialog.tabSelChange tree app.getMiniViewList curSel }
      else none
  | .notifyTreeItemSelected newValue =>
      if app.mainDialog.isShown then
        some { app with
          mainDialog := { app.mainDialog with
            viewsWindow := ViewsWindow.notifyTreeItemSelected app.getMiniViewList
              app.mainDialog.viewsWindow newValue } }
      else none

end Application

end LeanMiniViews
