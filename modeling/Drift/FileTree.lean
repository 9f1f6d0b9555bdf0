import Drift.Text.Utf8

/-!
# File trees

A directory with files and directories in it, and what comes of reading the
file that a path names. Paths are walked part by part; empty parts and single
dots stay where they are, double dots go up.
-/

namespace Drift

/-- What a name in a directory stands for. -/
inductive FileTree where
  | file (content : List UInt8)
  | directory (members : List (String × FileTree))

namespace FileTree

/-- Why a file cannot be read. -/
inductive Fault where
  | nulInPath
  | notFound
  | notADirectory
  | isADirectory
  | nameTooLong
  | notUtf8
  deriving DecidableEq, Repr

/-- The reason in one line. -/
def Fault.message : Fault → String
  | nulInPath => "file name contained an unexpected NUL byte"
  | notFound => "No such file or directory (os error 2)"
  | notADirectory => "Not a directory (os error 20)"
  | isADirectory => "Is a directory (os error 21)"
  | nameTooLong => "File name too long (os error 36)"
  | notUtf8 => "stream did not contain valid UTF-8"

/-- Bytes that a path has to stay below. -/
def pathLimit : Nat := 4096

/-- Bytes that a part of a path may have. -/
def nameLimit : Nat := 255

/-- Walks on from a node along the parts of a path, given the directories above
it, innermost first. -/
def walk (above : List FileTree) (here : FileTree) : List String → Except Fault FileTree
  | [] => .ok here
  | part :: parts =>
      match here with
      | file _ => .error .notADirectory
      | directory members =>
          if part = "" ∨ part = "." then
            walk above here parts
          else if part = ".." then
            match above with
            | [] => walk [] here parts
            | outer :: above => walk above outer parts
          else if nameLimit < part.utf8ByteSize then
            .error .nameTooLong
          else
            match members.lookup part with
            | some found => walk (here :: above) found parts
            | none => .error .notFound

/-- The node that a path leads to, from the innermost of some directories or,
if the path starts with a slash, from the outermost. -/
def resolve (directories : List FileTree) (path : String) : Except Fault FileTree :=
  if path.contains '\x00' then .error .nulInPath
  else if path = "" then .error .notFound
  else if pathLimit ≤ path.utf8ByteSize then .error .nameTooLong
  else
    match if path.startsWith "/" then directories.getLast?.toList else directories with
    | here :: above => walk above here (path.splitOn "/")
    | [] => .error .notFound

/-- The text of the file that a path leads to. -/
def readText (directories : List FileTree) (path : String) : Except Fault String := do
  match ← resolve directories path with
  | directory _ => .error .isADirectory
  | file content =>
      match String.fromUTF8? ⟨content.toArray⟩ with
      | some text => return text
      | none => .error .notUtf8

end FileTree

end Drift
