import Reconcile.Path
import Reconcile.Text.Quoted

/-!
# File trees

A file tree is what can be found below a working directory. Looking up a path walks through its
parts one after the other, so a step up from a file, or through a directory that is not there, fails
where the walk stands. Above the working directory there are directories, and nothing is known of
what else they hold.
-/

namespace Reconcile

/-- Why there is nothing to be had at a path. -/
inductive Obstacle where
  | missing
  | notDirectory
  | isDirectory
  | nameTooLong
deriving DecidableEq

namespace Obstacle

/-- The number of an obstacle. -/
def number : Obstacle → Nat
  | missing => 2
  | notDirectory => 20
  | isDirectory => 21
  | nameTooLong => 36

/-- The obstacle of a number; one that is not known counts as nothing being there. -/
def ofNumber (number : Nat) : Obstacle :=
  match number with
  | 20 => notDirectory
  | 21 => isDirectory
  | 36 => nameTooLong
  | _ => missing

/-- The reason that an obstacle gives. -/
def reason : Obstacle → String
  | missing => "No such file or directory"
  | notDirectory => "Not a directory"
  | isDirectory => "Is a directory"
  | nameTooLong => "File name too long"

/-- The wording of an obstacle met at a path. -/
def message (obstacle : Obstacle) (path : String) : String :=
  "[Errno " ++ toString obstacle.number ++ "] " ++ obstacle.reason ++ ": " ++ Text.quoted path

end Obstacle

/-- What a path leads to. -/
inductive Found where
  | file (bytes : List UInt8)
  | directory

/-- What every path leads to. -/
abbrev Lookup := String → Except Obstacle Found

namespace Lookup

/-- What is known of some paths; at any other there is nothing. -/
def ofList (known : List (String × Except Obstacle Found)) : Lookup := fun path =>
  (known.lookup path).getD (.error .missing)

/-- Whether there is something at a path. -/
def exists? (look : Lookup) (path : String) : Bool :=
  (look path).toBool

/-- Whether a path leads to a file, unless it is too long to be looked up. -/
def isFile? (look : Lookup) (path : String) : Except Obstacle Bool :=
  match look path with
  | .ok (.file _) => .ok true
  | .error .nameTooLong => .error .nameTooLong
  | _ => .ok false

/-- The bytes of the file at a path. -/
def bytes (look : Lookup) (path : String) : Except Obstacle (List UInt8) :=
  match look path with
  | .ok (.file bytes) => .ok bytes
  | .ok .directory => .error .isDirectory
  | .error obstacle => .error obstacle

end Lookup

/-- The files below a working directory, each under the parts of its path. A directory is there when
some file is in it. -/
structure FileTree where
  files : List (List (List Char) × List UInt8)

namespace FileTree

/-- The parts of a path that matter. -/
def partsOf (path : String) : List (List Char) :=
  (Path.parts path.toList).filter fun part => part != [] && part != ['.']

/-- The tree of some files. -/
def ofList (files : List (String × List UInt8)) : FileTree :=
  ⟨files.map fun (path, bytes) => (partsOf path, bytes)⟩

/-- Where a walk stands: in a directory of the tree, at a file, so many directories above the
working directory, or at the root. -/
inductive Place where
  | inside (parts : List (List Char))
  | atFile (bytes : List UInt8)
  | above (levels : Nat)
  | root

/-- The greatest number of bytes that a name may take. -/
def nameLimit : Nat := 255

/-- The greatest number of bytes that a path may take. -/
def pathLimit : Nat := 4095

/-- The place that a name leads to from a directory of the tree. -/
def enter (tree : FileTree) (parts : List (List Char)) (name : List Char) : Except Obstacle Place :=
  let full := parts ++ [name]
  match tree.files.lookup full with
  | some bytes => .ok (.atFile bytes)
  | none =>
    if tree.files.any fun file => full.isPrefixOf file.1 then .ok (.inside full)
    else .error .missing

/-- One step of a walk. -/
def step (tree : FileTree) (place : Place) (part : List Char) : Except Obstacle Place :=
  match place with
  | .atFile _ => .error .notDirectory
  | place =>
    if part = [] || part = ['.'] then .ok place
    else if part = ['.', '.'] then
      match place with
      | .inside [] => .ok (.above 1)
      | .inside parts => .ok (.inside parts.dropLast)
      | .above levels => .ok (.above (levels + 1))
      -- above the root there is the root again
      | place => .ok place
    else if nameLimit < (String.ofList part).utf8ByteSize then .error .nameTooLong
    else
      match place with
      | .inside parts => tree.enter parts part
      -- above the working directory and at the root no name is known
      | _ => .error .missing

/-- The place that a path leads to. -/
def walk (tree : FileTree) (path : String) : Except Obstacle Place :=
  let start : Place := if path.toList.head? = some '/' then .root else .inside []
  (Path.parts path.toList).foldlM tree.step start

/-- What a path leads to. -/
def lookup (tree : FileTree) : Lookup := fun path =>
  if path.isEmpty || Path.hasNull path then .error .missing
  else if pathLimit < path.utf8ByteSize then .error .nameTooLong
  else
    (tree.walk path).map fun
      | .atFile bytes => .file bytes
      | _ => .directory

end FileTree

end Reconcile
