import Gatehouse.Text.Blank

/-!
# `Gatehouse.FileTree` — where a path leads

A path is followed one part at a time, and the first part that cannot be followed decides what is wrong
with it.

## Contents
- `FileTree`: files and directories.
- `FileTree.Fault`: what is wrong with a path, and its wording.
- `FileTree.Trail`, `FileTree.step`, `FileTree.walk`: following a path.
- `FileTree.read`: the bytes of the file that a path leads to.
-/

namespace Gatehouse

/-- A file or a directory. -/
inductive FileTree where
  | file (bytes : ByteArray)
  | directory (entries : List (String × FileTree))

namespace FileTree

/-- What is wrong with a path. -/
inductive Fault where
  /-- There is a zero character in it, with which no path can go on. -/
  | zeroCharacter
  /-- It leads nowhere. -/
  | missing
  /-- A file stands where a directory is needed. -/
  | notDirectory
  /-- It leads to a directory, and not to a file. -/
  | isDirectory
  /-- The path, or a part of it, is too long. -/
  | tooLong
  deriving DecidableEq, Repr

/-- The wording of a fault. -/
def Fault.message : Fault → String
  | .zeroCharacter => "file name contained an unexpected NUL byte"
  | .missing => "No such file or directory (os error 2)"
  | .notDirectory => "Not a directory (os error 20)"
  | .isDirectory => "Is a directory (os error 21)"
  | .tooLong => "File name too long (os error 36)"

/-- The number of bytes that a part of a path may have. -/
def longestPart : Nat := 255

/-- The number of bytes that a path may have. -/
def longestPath : Nat := 4095

/-- A place in a tree, then everything above it up to the root. -/
abbrev Trail := List FileTree

/-- Follow one part of a path. An empty part, as between two slashes or after the last, stays where it is,
    and so does a single dot; two dots lead up, except from the root. -/
def step (trail : Trail) (part : String) : Except Fault Trail :=
  match trail with
  | .directory entries :: above =>
      if part = "" ∨ part = "." then .ok trail
      else if part = ".." then .ok (if above.isEmpty then trail else above)
      else if longestPart < part.utf8ByteSize then .error .tooLong
      else
        match entries.lookup part with
        | some place => .ok (place :: trail)
        | none => .error .missing
  | _ => .error .notDirectory

/-- Follow the parts of a path. -/
def walk (trail : Trail) (parts : List String) : Except Fault Trail :=
  parts.foldlM step trail

/-- The root above a place. -/
def Trail.root (trail : Trail) : Trail :=
  trail.getLast?.toList

/-- The bytes of the file that a path leads to. A path that begins with a slash begins at the root, every
    other at `here`. -/
def read (here : Trail) (path : String) : Except Fault ByteArray :=
  let cs := path.toList
  if cs.contains (Char.ofNat 0) then .error .zeroCharacter
  else if cs.isEmpty then .error .missing
  else if longestPath < path.utf8ByteSize then .error .tooLong
  else
    let start := if cs.head? = some '/' then Trail.root here else here
    match walk start ((Text.fields '/' cs).map String.ofList) with
    | .error fault => .error fault
    | .ok (.file bytes :: _) => .ok bytes
    | .ok _ => .error .isDirectory

end FileTree

end Gatehouse
