/-!
# Lines

A line ends with a carriage return and line feed, with a line feed, or with a carriage return. The
text after the last line end is not a line yet: `breakLines` keeps it apart as the remainder, so
that more text can be appended to it later.
-/

namespace Reconcile.Text

/-- The complete lines of a text and the unfinished line after them. -/
def breakLines : List Char → List (List Char) × List Char
  | [] => ([], [])
  | '\r' :: '\n' :: text =>
    let broken := breakLines text
    ([] :: broken.1, broken.2)
  | c :: text =>
    let broken := breakLines text
    if c = '\n' || c = '\r' then ([] :: broken.1, broken.2)
    else
      match broken.1 with
      | [] => ([], c :: broken.2)
      | line :: lines => ((c :: line) :: lines, broken.2)

/-- The complete lines of a text followed by its remainder. -/
def splitLines (text : String) : List String :=
  let broken := breakLines text.toList
  (broken.1 ++ [broken.2]).map String.ofList

/-- The text with every line end written as a line feed. -/
def plainLineEnds : List Char → List Char
  | [] => []
  | '\r' :: '\n' :: text => '\n' :: plainLineEnds text
  | c :: text => (if c = '\r' then '\n' else c) :: plainLineEnds text

end Reconcile.Text
