import Findings.Files.Tree
import Findings.Text.Quoted
import Findings.Text.Utf8

/-!
Contract: reading and writing files of a tree under paths.

Owns:
- the walk along a path, which enters directories only and in which `..` goes to the parent;
- reading a file, making directories, writing a file;
- the failures with their wording.

Paths that do not start at the root are taken from a working directory.
-/

set_option autoImplicit false

namespace Findings.Files

/-! ## Failures -/

/-- Why an operation on a path is refused. -/
inductive Cause where
  | missing
  | alreadyThere
  | notDirectory
  | isDirectory
  | nameTooLong
deriving DecidableEq, Repr

/-- The number of a cause. -/
def Cause.number : Cause → Nat
  | .missing => 2
  | .alreadyThere => 17
  | .notDirectory => 20
  | .isDirectory => 21
  | .nameTooLong => 36

def Cause.message : Cause → Text
  | .missing => "No such file or directory"
  | .alreadyThere => "File exists"
  | .notDirectory => "Not a directory"
  | .isDirectory => "Is a directory"
  | .nameTooLong => "File name too long"

/-- A refused operation. -/
structure Fault where
  cause : Cause
  path : Path
deriving DecidableEq

def Fault.message (fault : Fault) : Text :=
  Text.ofString "[Errno " ++ Text.ofNat fault.cause.number ++ Text.ofString "] "
    ++ fault.cause.message ++ Text.ofString ": " ++ Text.quoted fault.path.toText

/-- Why an operation fails: it is refused, or the path holds a null character or a surrogate that
stands for no byte, and so is none. -/
inductive Failure where
  | refused (fault : Fault)
  | nullCharacter
  | unencodable (fault : Text.EncodeFault)
deriving DecidableEq

def Failure.message : Failure → Text
  | .refused fault => fault.message
  | .nullCharacter => "embedded null byte"
  | .unencodable fault => fault.message

/-! ## Paths that can be walked -/

/-- The most bytes that a name can have. -/
def maxNameBytes : Nat := 255

/-- The most bytes that a path can have. -/
def maxPathBytes : Nat := 4095

/-- How many bytes a text takes in a path, where a surrogate can stand for one byte. -/
def byteCount (text : Text) : Nat :=
  text.foldr (fun c count => (if c.isEscapedByte then 1 else (Text.utf8Bytes c).length) + count) 0

/-- Whether a name is too long for any file. -/
def isTooLong (name : Text) : Bool := decide (maxNameBytes < byteCount name)

/-- Refuse a text that is no path. -/
def checkText (text : Text) : Except Failure Unit :=
  match Text.unescapedRun? text with
  | some fault => .error (.unencodable fault)
  | none => if text.any fun c => c.val = 0 then .error .nullCharacter else .ok ()

/-- Refuse a path that no operation takes. -/
def checkPath (path : Path) : Except Failure Unit := do
  checkText path.toText
  if maxPathBytes < byteCount path.toText then .error (.refused ⟨.nameTooLong, path⟩)
  else .ok ()

/-! ## Walking -/

/-- Go from a directory to the node of a name. -/
def enter (tree : Tree) (location : Location) (name : Text) : Except Cause Location :=
  match tree.node? location with
  | some .directory =>
      if name = Path.up then .ok location.dropLast
      else if isTooLong name then .error .nameTooLong
      else
        match tree.node? (location ++ [name]) with
        | some _ => .ok (location ++ [name])
        | none => .error .missing
  | some (.file _) => .error .notDirectory
  | none => .error .missing

/-- Where the walk along a path begins. -/
def startOf (directory : Location) (path : Path) : Location :=
  if path.isAbsolute then [] else directory

/-- Walk along some names. -/
def walk (tree : Tree) (start : Location) (names : List Text) : Except Cause Location :=
  names.foldlM (enter tree) start

/-- The location of a path. -/
def locate (tree : Tree) (directory : Location) (path : Path) : Except Cause Location :=
  walk tree (startOf directory path) path.segments

/-- Whether a path leads to a directory. -/
def isDirectory (tree : Tree) (directory : Location) (path : Path) : Bool :=
  match checkPath path, locate tree directory path with
  | .ok _, .ok location => tree.node? location = some .directory
  | _, _ => false

/-! ## Reading -/

/-- The content of the file at a path. -/
def readFile (tree : Tree) (directory : Location) (path : Path) :
    Except Failure (List UInt8) := do
  checkPath path
  match locate tree directory path with
  | .error cause => .error (.refused ⟨cause, path⟩)
  | .ok location =>
      match tree.node? location with
      | some (.file content) => .ok content
      | some .directory => .error (.refused ⟨.isDirectory, path⟩)
      | none => .error (.refused ⟨.missing, path⟩)

/-! ## Making directories -/

/-- Where a new node of a path would lie: its last name below the directory before it.  There is no
such place for a path that ends in `..` or has no names. -/
def placeOfNew (tree : Tree) (directory : Location) (path : Path) (taken : Cause) :
    Except Cause Location :=
  match path.segments.getLast? with
  | none => .error taken
  | some name => do
      let above ← walk tree (startOf directory path) path.segments.dropLast
      match tree.node? above with
      | some .directory =>
          if name = Path.up then .error taken
          else if isTooLong name then .error .nameTooLong
          else .ok (above ++ [name])
      | some (.file _) => .error .notDirectory
      | none => .error .missing

/-- Make one directory. -/
def makeDirectory (tree : Tree) (directory : Location) (path : Path) : Except Failure Tree := do
  checkPath path
  match placeOfNew tree directory path .alreadyThere with
  | .error cause => .error (.refused ⟨cause, path⟩)
  | .ok location =>
      match tree.node? location with
      | some _ => .error (.refused ⟨.alreadyThere, path⟩)
      | none => .ok (tree.put location .directory)

/-- Accept a directory that cannot be made because there is one. -/
def acceptDirectory (tree : Tree) (directory : Location) (path : Path) (failure : Failure) :
    Option Failure :=
  match failure with
  | .refused fault =>
      if isDirectory tree directory path then none else some (.refused fault)
  | failure => some failure

/-- Make a directory at a path of so many segments and, where they are missing, the directories
above it.  The tree keeps the directories that were made before a failure. -/
def makeDirectoriesAbove : (segments : Nat) → Tree → Location → Path → Tree × Option Failure
  | count, tree, directory, path =>
      match makeDirectory tree directory path with
      | .ok tree => (tree, none)
      | .error (.refused ⟨.missing, _⟩) =>
          match count with
          | 0 => (tree, some (.refused ⟨.missing, path⟩))
          | count + 1 =>
              match makeDirectoriesAbove count tree directory path.parent with
              | (tree, some failure) => (tree, some failure)
              | (tree, none) =>
                  match makeDirectory tree directory path with
                  | .ok tree => (tree, none)
                  | .error (.refused ⟨.missing, _⟩) =>
                      (tree, some (.refused ⟨.missing, path⟩))
                  | .error failure => (tree, acceptDirectory tree directory path failure)
      | .error failure => (tree, acceptDirectory tree directory path failure)

/-- Make a directory and those above it, unless they are there. -/
def makeDirectories (tree : Tree) (directory : Location) (path : Path) : Tree × Option Failure :=
  makeDirectoriesAbove path.segments.length tree directory path

/-! ## Writing -/

/-- Write a file, in the place of one that is there. -/
def writeFile (tree : Tree) (directory : Location) (path : Path) (content : List UInt8) :
    Except Failure Tree := do
  checkPath path
  match placeOfNew tree directory path .isDirectory with
  | .error cause => .error (.refused ⟨cause, path⟩)
  | .ok location =>
      match tree.node? location with
      | some .directory => .error (.refused ⟨.isDirectory, path⟩)
      | _ => .ok (tree.put location (.file content))

end Findings.Files
