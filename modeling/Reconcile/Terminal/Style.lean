import Reconcile.Diagnostic

/-!
# Terminal styles

Text is styled by control sequences around it. The log closes each style with the sequence that
undoes just it, and keeps the style alive across whatever in the text would end it; the console
closes all styles at once.
-/

namespace Reconcile.Terminal

/-- The colours in use. -/
inductive Hue where
  | red
  | green
  | yellow
  | blue
  | white
  | gray
  | brightRed
deriving DecidableEq

/-- The number by which a control sequence selects a colour. -/
def Hue.number : Hue → Nat
  | red => 31
  | green => 32
  | yellow => 33
  | blue => 34
  | white => 37
  | gray => 90
  | brightRed => 91

/-- The control sequence that selects a rendition. -/
def select (number : Nat) : String :=
  "\x1b[" ++ toString number ++ "m"

/-- A rendition: the control sequence that selects it, and the one that undoes just it. -/
structure Rendition where
  opening : List Char
  closing : List Char

/-- A text with an addition after each occurrence of a mark. -/
def afterEach (mark addition : List Char) : List Char → List Char
  | [] => []
  | c :: text =>
    if mark.isPrefixOf (c :: text) then
      mark ++ addition ++ afterEach mark addition (text.drop (mark.length - 1))
    else c :: afterEach mark addition text
termination_by text => text.length
decreasing_by
  all_goals
    simp only [List.length_drop, List.length_cons]
    omega

/-- A text before the first place where a mark starts, and from there on. -/
def splitBefore (mark : List Char) : List Char → List Char × List Char
  | [] => ([], [])
  | c :: text =>
    if mark.isPrefixOf (c :: text) then ([], c :: text)
    else
      let (front, rest) := splitBefore mark text
      (c :: front, rest)

/-- The control sequence that resets everything. -/
def reset : List Char := (select 0).toList

namespace Rendition

/-- A line whose stretch between its first reset and its last one is left out of the rendition. -/
def aroundResets (rendition : Rendition) (line : List Char) : List Char :=
  let (front, rest) := splitBefore reset line
  let (back, reversed) := splitBefore reset.reverse rest.reverse
  if reversed.length < 2 * reset.length then line
  else front ++ rendition.closing ++ reversed.reverse ++ rendition.opening ++ back.reverse

/-- What stands between two lines: the rendition ends before the line break, of which a carriage
return may be a part, and starts again after it. -/
def joinLines (rendition : Rendition) : List (List Char) → List Char
  | [] => []
  | [line] => line
  | line :: lines =>
    let (line, lineBreak) :=
      if line.getLast? = some '\r' then (line.dropLast, ['\r', '\n']) else (line, ['\n'])
    line ++ rendition.closing ++ lineBreak ++ rendition.opening ++ rendition.joinLines lines

/-- Text in a rendition. What closes the rendition inside the text is followed by its opening. -/
def apply (rendition : Rendition) (text : String) : String :=
  let kept := afterEach rendition.closing rendition.opening text.toList
  let lines := (kept.splitOn '\n').map rendition.aroundResets
  String.ofList (rendition.opening ++ rendition.joinLines lines ++ rendition.closing)

end Rendition

/-- The rendition of a colour, after which the default colour is selected again. -/
def Hue.rendition (hue : Hue) : Rendition :=
  ⟨(select hue.number).toList, (select 39).toList⟩

/-- The faint rendition, after which the normal weight is selected again. -/
def faint : Rendition :=
  ⟨(select 2).toList, (select 22).toList⟩

/-- How the console styles a text. -/
structure Style where
  hue : Option Hue
  bold : Bool
  underlined : Bool

/-- Text in a style, after which everything is reset. -/
def Style.apply (style : Style) (text : String) : String :=
  (style.hue.map fun hue => select hue.number).getD ""
    ++ (if style.bold then select 1 else "")
    ++ (if style.underlined then select 4 else "")
    ++ text ++ select 0

/-- A style that is nothing but a colour. -/
def Style.only (hue : Hue) : Style :=
  ⟨some hue, false, false⟩

end Reconcile.Terminal

namespace Reconcile.Severity

open Terminal

/-- The colour of a severity. -/
def hue : Severity → Hue
  | error => .brightRed
  | warning => .yellow
  | information => .blue
  | hint => .gray

/-- The colour of a severity in printed diagnostics. -/
def printedHue : Severity → Hue
  | error => .brightRed
  | warning => .yellow
  | information => .blue
  | hint => .white

end Reconcile.Severity
