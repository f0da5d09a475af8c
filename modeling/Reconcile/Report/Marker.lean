import Reconcile.Log.Entry
import Reconcile.Pattern.Reader

/-!
# Build markers

A marker is a pattern for the lines with which a build ends. Markers come from settings, so one that
has a fault is left out and reported in the log. One that goes beyond what the reader of patterns
copes with ends the reading of all of them.
-/

namespace Reconcile.Report

/-- The markers that are known without any settings. -/
def standardMarkers : List String :=
  ["^Build complete!", "^Build of product '.*' complete!", "^Build of target '.*' complete!"]

/-- The markers among some texts: those that have no fault. -/
def readMarkers : List String → Except Pattern.Excess (List Pattern)
  | [] => .ok []
  | text :: texts =>
    match Pattern.read text with
    | .ok pattern => (readMarkers texts).map (pattern :: ·)
    | .error (.fault _) => readMarkers texts
    | .error (.excess excess) => .error excess

/-- What the log says of the texts that have a fault, up to the first that ends the reading. -/
def markerEntries : List String → List Log.Entry
  | [] => []
  | text :: texts =>
    match Pattern.read text with
    | .ok _ => markerEntries texts
    | .error (.fault fault) =>
      ⟨.warning, ⟨"diagmerge.parser.patterns", 111⟩,
        "Ignoring invalid completion pattern " ++ Text.quoted text ++ ": " ++ fault.message text⟩
        :: markerEntries texts
    | .error (.excess _) => []

end Reconcile.Report
