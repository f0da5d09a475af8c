import Reconcile.Policy

/-!
# Choices

Some options take one of a few words. A `Choice` says which words there are and which values they
stand for; it reads a word, completes the start of one, and words the complaint about a wrong one.
-/

namespace Reconcile.CommandLine

open Text

/-- The values among which an option chooses. -/
structure Choice (α : Type) where
  title : String
  words : List String
  read? : String → Option α

namespace Choice

variable {α : Type}

/-- The name of the kind of value. -/
def name (choice : Choice α) : String :=
  String.ofList (lower choice.title.toList)

/-- The choice as it is shown among other kinds of value. -/
def shown (choice : Choice α) : String :=
  "EnumParam(" ++ choice.title ++ ")"

/-- The words that go on from the start of one, whatever its case. -/
def complete (choice : Choice α) (start : String) : List String :=
  choice.words.filter fun word => (lower start.toList).isPrefixOf (lower word.toList)

/-- The complaint about a word that is no choice. -/
def complaint (choice : Choice α) (word : String) : String :=
  "Invalid value '" ++ word ++ "'. Must be one of: " ++ ", ".intercalate choice.words

/-- The value that a word stands for, or the complaint about it. -/
def read (choice : Choice α) (word : String) : Except String α :=
  match choice.read? word with
  | some value => .ok value
  | none => .error (choice.complaint word)

/-- A choice among values whose words are read whatever their case. -/
def ofWords (title : String) (values : List α) (word : α → String) : Choice α where
  title
  words := values.map word
  read? spelling :=
    let folded := String.ofList (lower spelling.toList)
    values.find? fun value => word value = folded

end Choice

/-- How output is laid out: for people, as one value, or as one value a line. -/
inductive OutputFormat where
  | text
  | json
  | ndjson
deriving DecidableEq

/-- The word for a format. -/
def OutputFormat.word : OutputFormat → String
  | text => "text"
  | json => "json"
  | ndjson => "ndjson"

/-- Whether a format is read by machines. -/
def OutputFormat.isMachine (format : OutputFormat) : Bool :=
  format ≠ text

/-- When output is coloured: when it goes to a terminal, always, or never. -/
inductive ColourMode where
  | auto
  | always
  | never
deriving DecidableEq

/-- The word for a mode. -/
def ColourMode.word : ColourMode → String
  | auto => "auto"
  | always => "always"
  | never => "never"

/-- The choice of a format. -/
def formatChoice : Choice OutputFormat :=
  .ofWords "OutputFormat" [.text, .json, .ndjson] OutputFormat.word

/-- The choice of a colour mode. -/
def colourChoice : Choice ColourMode :=
  .ofWords "ColorMode" [.auto, .always, .never] ColourMode.word

/-- The choice of a policy, by any spelling. -/
def policyChoice : Choice Policy :=
  ⟨"CollectionPolicy", Policy.all.map Policy.key, Policy.parse?⟩

end Reconcile.CommandLine
