import Reconcile.Text.CharSet

/-!
# Blank characters

`isBlank` is the one notion of white space of this library: it decides what is trimmed off a
message, what separates the words of a setting, and what stands between the parts of a report line.
-/

namespace Reconcile.Text

/-- The characters that count as white space: the controls tab to carriage return, the information
separators, next line, and every Unicode space, line and paragraph separator. -/
def blanks : CharSet :=
  ⟨[(0x09, 0x0d), (0x1c, 0x20), (0x85, 0x85), (0xa0, 0xa0), (0x1680, 0x1680), (0x2000, 0x200a),
    (0x2028, 0x2029), (0x202f, 0x202f), (0x205f, 0x205f), (0x3000, 0x3000)]⟩

/-- Whether a character is white space. -/
def isBlank (c : Char) : Bool :=
  blanks.contains c

/-- A list without its leading characters of a class and without its trailing ones. -/
def trimBy (p : Char → Bool) (text : List Char) : List Char :=
  ((text.dropWhile p).reverse.dropWhile p).reverse

/-- A text without surrounding white space. -/
def trim (text : List Char) : List Char :=
  trimBy isBlank text

/-- The maximal runs of characters that are not blank, in order. -/
def words (text : List Char) : List (List Char) :=
  (text.splitOnP isBlank).filter fun word => !word.isEmpty

end Reconcile.Text
