import Chip8.Text.Pieces
import Chip8.Text.Character

/-!
# File trees

Files in directories, as a program sees them that was started in the directory at the top. A path is
a sequence of names between slashes, each of which leads on from a directory (`FileTree.walk`); only
a path that ends on a file can be read (`FileTree.read`). Above the top, where a leading slash or too
many double dots lead, lies a directory without entries. A text that holds the character zero is no
path at all (`FileTree.isPath`).
-/

namespace Chip8

/-- A file or a directory. -/
inductive FileTree where
  | file (bytes : List UInt8)
  | directory (entries : List (String × FileTree))

/-- Why a path cannot be read. -/
inductive FileError where
  | notFound
  | notDirectory
  | isDirectory
  | nameTooLong
  | accessDenied
deriving DecidableEq

namespace FileError

/-- The number of an error. -/
def number : FileError → Nat
  | notFound => 2
  | accessDenied => 13
  | notDirectory => 20
  | isDirectory => 21
  | nameTooLong => 36

/-- The text of an error without its path. -/
def reason : FileError → String
  | notFound => "No such file or directory"
  | accessDenied => "Permission denied"
  | notDirectory => "Not a directory"
  | isDirectory => "Is a directory"
  | nameTooLong => "File name too long"

/-- The text of an error at a path. -/
def message (error : FileError) (path : String) : String :=
  "[Errno " ++ toString error.number ++ "] " ++ error.reason ++ ": " ++ Text.quoted path

end FileError

namespace FileTree

/-- The directory above the top. -/
def outside : FileTree := directory []

/-- The longest path, in bytes. -/
def maxPath : Nat := 4095

/-- The longest name of a file or a directory, in bytes. -/
def maxName : Nat := 255

/-- Follows names from a place whose directories above, nearest first, are `above`. -/
def walk (above : List FileTree) (place : FileTree) : List String → Except FileError FileTree
  | [] => .ok place
  | name :: rest =>
    match place with
    | file _ => .error .notDirectory
    | directory entries =>
      if name = "" ∨ name = "." then walk above place rest
      else if name = ".." then
        match above with
        | [] => walk [] outside rest
        | parent :: higher => walk higher parent rest
      else if maxName < name.utf8ByteSize then .error .nameTooLong
      else
        match entries.lookup name with
        | none => .error .notFound
        | some inner => walk (place :: above) inner rest

/-- Whether a text is a path: the character zero can be no part of one. -/
def isPath (text : String) : Bool := !text.toList.contains '\x00'

/-- The names of a path. -/
def names (path : String) : List String := (Text.pieces '/' path.toList).map String.ofList

/-- The bytes of the file at a path. -/
def read (tree : FileTree) (path : String) : Except FileError (List UInt8) :=
  if path = "" then .error .notFound
  else if maxPath < path.utf8ByteSize then .error .nameTooLong
  else
    let top := if path.toList.head? = some '/' then outside else tree
    match walk [] top (names path) with
    | .error error => .error error
    | .ok (directory _) => .error .isDirectory
    | .ok (file bytes) => .ok bytes

end FileTree

end Chip8
