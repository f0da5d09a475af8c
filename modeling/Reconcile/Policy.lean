import Reconcile.Text.Blank
import Reconcile.Text.Casing

/-!
# Collection policies

A policy says how the diagnostics of the two producers are combined. Policies are named in settings
and on the command line; `parse?` accepts every spelling that folds to one of a policy's tokens, so
case, surrounding white space and the choice of separator do not matter.
-/

namespace Reconcile

open Text

/-- How the diagnostics of the two producers are combined. -/
inductive Policy where
  | structuredBase
  | textualBase
  | structuredOnly
  | textualOnly
  | unionAll
deriving DecidableEq

namespace Policy

/-- Every policy, in the order in which they are listed to users. -/
def all : List Policy :=
  [structuredBase, textualBase, structuredOnly, textualOnly, unionAll]

/-- The policy in force where none is chosen. -/
def standard : Policy := structuredBase

/-- The key that settings hold. -/
def key : Policy → String
  | structuredBase => "structured-base"
  | textualBase => "textual-base"
  | structuredOnly => "structured-only"
  | textualOnly => "textual-only"
  | unionAll => "union-all"

/-- The name of a policy as a constant. -/
def name : Policy → String
  | structuredBase => "STRUCTURED_BASE"
  | textualBase => "TEXTUAL_BASE"
  | structuredOnly => "STRUCTURED_ONLY"
  | textualOnly => "TEXTUAL_ONLY"
  | unionAll => "UNION_ALL"

/-- What a policy does, in a few words. -/
def label : Policy → String
  | structuredBase => "Merge compiler diagnostics into language-service diagnostics"
  | textualBase => "Merge language-service diagnostics into compiler diagnostics"
  | structuredOnly => "Only language-service diagnostics"
  | textualOnly => "Only compiler diagnostics"
  | unionAll => "Keep all diagnostics from both producers"

/-- Older keys of a policy, which stay valid. -/
def aliases : Policy → List String
  | structuredBase => ["keep-structured-as-base"]
  | textualBase => ["keep-textual-as-base"]
  | structuredOnly => []
  | textualOnly => []
  | unionAll => ["keep-all"]

/-- Whether compiler output is read at all. -/
def collectsTextual (policy : Policy) : Bool :=
  policy ≠ structuredOnly

/-- The form in which spellings are compared: lower case, one underscore between words, hyphens and
white space being separators alike. -/
def fold (spelling : String) : String :=
  let spaced := (lower (trim spelling.toList)).map fun c => if c = '-' then ' ' else c
  "_".intercalate ((words spaced).map String.ofList)

/-- The folded spellings of a policy: its key, its name, its aliases. -/
def tokens (policy : Policy) : List String :=
  (policy.key :: policy.name :: policy.aliases).map fold

/-- The policy that a spelling names. -/
def parse? (spelling : String) : Option Policy :=
  all.find? fun policy => policy.tokens.contains (fold spelling)

end Policy

end Reconcile
