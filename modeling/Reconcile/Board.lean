import Reconcile.Diagnostic
import Reconcile.FileMap

/-!
# Boards

A board is where diagnostics are published: it shows one list for each file. The manager calls it to
set, delete or clear what it shows. A board may refuse to set a file; then it shows what it showed
before. A board remembers every call, so that it can be told afterwards who called it and when.
-/

namespace Reconcile

/-- A call that a board received. -/
inductive Call where
  | set (file : String) (diagnostics : List Diagnostic)
  | refused (file : String)
  | delete (file : String)
  | clear
deriving DecidableEq

/-- What a board shows, and the calls it received so far. -/
structure Board where
  shown : FileMap (List Diagnostic)
  calls : List Call

namespace Board

/-- A board that shows nothing. -/
def empty : Board :=
  ⟨.empty, []⟩

/-- What a board shows for a file. -/
def get (board : Board) (file : String) : List Diagnostic :=
  (board.shown.get? file).getD []

/-- Shows diagnostics for a file. -/
def set (board : Board) (file : String) (ds : List Diagnostic) : Board :=
  ⟨board.shown.set file ds, board.calls ++ [.set file ds]⟩

/-- Refuses to show diagnostics for a file. -/
def refuse (board : Board) (file : String) : Board :=
  { board with calls := board.calls ++ [.refused file] }

/-- Stops showing a file. -/
def delete (board : Board) (file : String) : Board :=
  ⟨board.shown.erase file, board.calls ++ [.delete file]⟩

/-- Stops showing any file. -/
def clear (board : Board) : Board :=
  ⟨.empty, board.calls ++ [.clear]⟩

end Board

end Reconcile
