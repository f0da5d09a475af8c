/-!
# Paths

Paths are texts with slashes. `normalize` resolves `.` and `..` in the text alone, without looking
at any file, so that two spellings of one path become the same text: it is the identity under which
the diagnostics of a file are kept. `tidy` only drops what can never matter, and keeps `..`.
-/

namespace Reconcile.Path

/-- The parts of a path between its slashes. -/
def parts (path : List Char) : List (List Char) :=
  path.splitOn '/'

/-- Paths put together again from parts. -/
def join (parts : List (List Char)) : List Char :=
  ['/'].intercalate parts

/-- How many slashes a normalized path begins with: none, one, or two when the path begins with
exactly two. -/
def rootDepth : List Char → Nat
  | '/' :: '/' :: '/' :: _ => 1
  | '/' :: '/' :: _ => 2
  | '/' :: _ => 1
  | _ => 0

/-- Adds one part to the parts already taken, the latest first. A step up cancels the latest part;
it stays where there is nothing to cancel, except at the root, above which there is nothing. -/
def push (rooted : Bool) (taken : List (List Char)) (part : List Char) : List (List Char) :=
  if part = [] || part = ['.'] then taken
  else if part = ['.', '.'] then
    match taken with
    | [] => if rooted then [] else [part]
    -- a step up that could not be resolved is no directory to step out of
    | last :: others => if last = ['.', '.'] then part :: taken else others
  else part :: taken

/-- The path with `.`, `..` and repeated slashes resolved. -/
def normalizeChars (path : List Char) : List Char :=
  let depth := rootDepth path
  let kept := ((parts path).foldl (push (depth != 0)) []).reverse
  let text := List.replicate depth '/' ++ join kept
  if text = [] then ['.'] else text

/-- The path with `.`, `..` and repeated slashes resolved. -/
def normalize (path : String) : String :=
  String.ofList (normalizeChars path.toList)

/-- The path without `.` and repeated slashes; `..` stays. -/
def tidyChars (path : List Char) : List Char :=
  let kept := (parts path).filter fun part => part != [] && part != ['.']
  let text := List.replicate (rootDepth path) '/' ++ join kept
  if text = [] then ['.'] else text

/-- The path without `.` and repeated slashes; `..` stays. -/
def tidy (path : String) : String :=
  String.ofList (tidyChars path.toList)

/-- Whether a path holds the null character, which no name can hold. -/
def hasNull (path : String) : Bool :=
  path.toList.contains '\x00'

/-- The last part of a path. -/
def fileName (path : String) : String :=
  String.ofList ((parts path.toList).getLast?.getD [])

/-- The path without its last part; a path of one part lies in `.`. -/
def parent (path : String) : String :=
  let chars := path.toList
  let kept := (parts chars).filter fun part => part != [] && part != ['.']
  let text := List.replicate (rootDepth chars) '/' ++ join kept.dropLast
  if text = [] then "." else String.ofList text

/-- A name inside a directory. -/
def inside (directory name : String) : String :=
  tidy (directory ++ "/" ++ name)

/-- What follows the last dot of a file's name, in front of which the name must hold something other
than dots; empty when there is no such dot. -/
def extensionChars (path : List Char) : List Char :=
  let name := (parts path).getLast?.getD []
  let reversed := name.reverse
  let ending := reversed.takeWhile (· != '.')
  match reversed.drop ending.length with
  | [] => []
  | _ :: front => if front.all (· == '.') then [] else ending.reverse

end Reconcile.Path
