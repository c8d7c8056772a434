import Ork3.Library.Bijective
import Ork3.Library.Separator
import Ork3.Model.Workspace

/-!
# Public ids

The ids of workspaces, tabs and panes that `workspace.rs` makes of numbers.
-/

namespace Ork3.Workspaces

open Ork3.Library

def publicIdAlphabet : List Char := "123456789ABCDEFGHJKMNPQRSTVWXYZ0".toList

/-- The first number that is no `usize`. -/
def usizeBound : Nat := 2 ^ 64

def encodePublicNumber (value : Nat) : List Char :=
  if value = 0 then ['0'] else (letters publicIdAlphabet value).reverse

def decodePublicNumber (value : List Char) : Option Nat :=
  valueOf publicIdAlphabet usizeBound value

/-- `generate_workspace_id` at a value of its counter. -/
def generateWorkspaceId (counter : Nat) : String :=
  String.ofList ('w' :: encodePublicNumber counter)

def publicPaneIdForNumber (workspaceId : String) (paneNumber : Nat) : String :=
  String.ofList (workspaceId.toList ++ [':', 'p'] ++ encodePublicNumber paneNumber)

def publicTabIdForNumber (workspaceId : String) (tabNumber : Nat) : String :=
  String.ofList (workspaceId.toList ++ [':', 't'] ++ encodePublicNumber tabNumber)

namespace Workspace

def activeTab? (ws : Workspace) : Option Tab := ws.tabs[ws.activeTab]?

def publicPaneNumber (ws : Workspace) (paneId : PaneId) : Option Nat :=
  ws.publicPaneNumbers.lookup paneId

def publicTabNumber (ws : Workspace) (tabIdx : Nat) : Option Nat :=
  ws.tabs[tabIdx]?.map Tab.number

def paneState (ws : Workspace) (paneId : PaneId) : Option PaneState :=
  ws.tabs.findSome? fun tab => tab.panes.lookup paneId

def focusedPaneId (ws : Workspace) : Option PaneId :=
  ws.activeTab?.map fun tab => tab.layout.focus

end Workspace

end Ork3.Workspaces
