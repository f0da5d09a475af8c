import Reconcile.Text.CharName.Aliases
import Reconcile.Text.CharName.From0000
import Reconcile.Text.CharName.From1000
import Reconcile.Text.CharName.From2000
import Reconcile.Text.CharName.From2800
import Reconcile.Text.CharName.From3000
import Reconcile.Text.CharName.FromF000
import Reconcile.Text.CharName.From10000
import Reconcile.Text.CharName.From12000
import Reconcile.Text.CharName.From1D000
import Reconcile.Text.CharName.From1F000
import Reconcile.Text.Numeral

/-!
# Names of characters

Every assigned character has a name. Most names stand in tables; the syllables of Hangul are named
for their parts, and ideographs and the like for their code points, so that a rule suffices.

A table is a list of lines, and a line a list of records with commas between them. A record gives a
name as what it shares with the name before and what is new: small letters, of which `a` counts
nothing and `z` twenty-five, add up to the number of characters that are shared. The characters of
records follow one another; a record that starts with an equals sign and digits in base sixteen
jumps to that code point first.

`code?` finds a character by its name. Capital and small letters are the same in names from the
tables, but not in names that follow a rule.
-/

namespace Reconcile.Text.CharName

/-! ## Tables -/

/-- Whether a character of a record counts characters that are shared. -/
def isCount (c : Char) : Bool :=
  'a' ≤ c && c ≤ 'z'

/-- A record of a table. -/
structure Record where
  jump : Option Nat
  shared : Nat
  rest : List Char

/-- Reads a record. -/
def Record.read (text : List Char) : Record :=
  let head := text.takeWhile (!isCount ·)
  let body := text.dropWhile (!isCount ·)
  { jump := if head.isEmpty then none else some (numberIn 16 (head.drop 1))
    shared := (body.takeWhile isCount).foldl (fun count c => count + (c.toNat - 'a'.toNat)) 0
    rest := body.dropWhile isCount }

/-- Looks for a name in records; `next` is the character after the one named last, `before` its
name. -/
def findIn (wanted : List Char) : (next : Nat) → (before : List Char) → List (List Char) →
    Option Nat
  | _, _, [] => none
  | next, before, text :: records =>
    let record := Record.read text
    let code := record.jump.getD next
    let name := before.take record.shared ++ record.rest
    if name = wanted then some code else findIn wanted (code + 1) name records

/-- Looks for a name in a table. -/
def findInTable (wanted : List Char) (table : List String) : Option Nat :=
  findIn wanted 0 [] (table.flatMap fun line => line.toList.splitOnP (· == ','))

/-- The tables of names. -/
def tables : List (List String) :=
  [namesFrom0000, aliases, namesFrom1000, namesFrom2000, namesFrom2800, namesFrom3000,
    namesFromF000, namesFrom10000, namesFrom12000, namesFrom1D000, namesFrom1F000]

/-! ## Rules -/

/-- What follows some leading text, if a name starts with it. -/
def after? (leading : String) (name : List Char) : Option (List Char) :=
  if leading.toList.isPrefixOf name then some (name.drop leading.length) else none

/-- The code point that a name ends in, as four or five digits in base sixteen, if it lies in one of
some ranges. -/
def codeAfter? (leading : String) (ranges : List (Nat × Nat)) (name : List Char) : Option Nat := do
  let digits ← after? leading name
  let code := numberIn 16 digits
  let isDigit (c : Char) : Bool := ('0' ≤ c && c ≤ '9') || ('A' ≤ c && c ≤ 'F')
  if digits.all isDigit && (digits.length = 4 || digits.length = 5)
      && ranges.any (fun (first, last) => first ≤ code && code ≤ last) then
    return code
  else none

/-- The ideographs that have no name but their code point, which may have a zero in front. -/
def ideograph? (name : List Char) : Option Nat :=
  codeAfter? "CJK UNIFIED IDEOGRAPH-"
    [(0x3400, 0x4dbf), (0x4e00, 0x9fff), (0x20000, 0x2a6df), (0x2a700, 0x2b738),
      (0x2b740, 0x2b81d), (0x2b820, 0x2cea1), (0x2ceb0, 0x2ebe0), (0x30000, 0x3134a)] name

/-- The leading text of names that end in the code point, and the characters that have them. -/
def numbered : List (String × List (Nat × Nat)) :=
  [("CJK COMPATIBILITY IDEOGRAPH-", [(0xf900, 0xfa6d), (0xfa70, 0xfad9), (0x2f800, 0x2fa1d)]),
    ("KHITAN SMALL SCRIPT CHARACTER-", [(0x18b00, 0x18cd5)]),
    ("NUSHU CHARACTER-", [(0x1b170, 0x1b2fb)])]

/-- The character of a name that ends in its code point without a zero in front. -/
def numbered? (name : List Char) : Option Nat :=
  numbered.findSome? fun (leading, ranges) =>
    if name[leading.length]? = some '0' then none else codeAfter? leading ranges name

/-- The variation selector of a number. -/
def selector? (leading : String) (name : List Char) : Option Nat := do
  let digits ← after? leading name
  let number := numberIn 10 digits
  if digits.all (isDigitIn 10) && digits.head? != some '0' && 1 ≤ number && number ≤ 256 then
    return if number ≤ 16 then 0xfdff + number else 0xe00ef + number
  else none

/-- The consonants that a syllable of Hangul may start with. -/
def initials : List String :=
  ["G", "GG", "N", "D", "DD", "R", "M", "B", "BB", "S", "SS", "", "J", "JJ", "C", "K", "T", "P",
    "H"]

/-- The vowels of Hangul. -/
def medials : List String :=
  ["A", "AE", "YA", "YAE", "EO", "E", "YEO", "YE", "O", "WA", "WAE", "OE", "YO", "U", "WEO", "WE",
    "WI", "YU", "EU", "YI", "I"]

/-- The consonants that a syllable of Hangul may end with. -/
def finals : List String :=
  ["", "G", "GG", "GS", "N", "NJ", "NH", "D", "L", "LG", "LM", "LB", "LS", "LT", "LP", "LH", "M",
    "B", "BS", "S", "SS", "NG", "J", "C", "K", "T", "P", "H"]

/-- The place and the text of the longest part that a name starts with. -/
def longestPart (parts : List String) (name : List Char) : Option (Nat × List Char) :=
  let found := (parts.zipIdx.filter fun (part, _) => part.toList.isPrefixOf name)
  (found.foldl (fun best next =>
    match best with
    | some kept => if kept.1.length < next.1.length then some next else some kept
    | none => some next) none).map fun (part, index) => (index, name.drop part.length)

/-- The syllable of Hangul of a name. -/
def syllable? (name : List Char) : Option Nat := do
  let name ← after? "HANGUL SYLLABLE " name
  let (initial, name) ← longestPart initials name
  let (medial, name) ← longestPart medials name
  let (final, name) ← longestPart finals name
  if name.isEmpty then return 0xac00 + (initial * 21 + medial) * 28 + final else none

/-! ## Look-up -/

/-- A name in capitals. -/
def inCapitals (name : List Char) : List Char :=
  name.map fun c => if 'a' ≤ c && c ≤ 'z' then Char.ofNat (c.toNat - 32) else c

/-- The code point of the character of a name. -/
def code? (name : List Char) : Option Nat :=
  let capitals := inCapitals name
  syllable? name
    <|> ideograph? name
    <|> numbered? capitals
    <|> selector? "VARIATION SELECTOR-" capitals
    <|> selector? "VS" capitals
    <|> tables.findSome? (findInTable capitals)

end Reconcile.Text.CharName
