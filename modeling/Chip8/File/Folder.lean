import Chip8.File.Basic

/-!
Files held in memory, and the way of a path to one of them. A path is walked part by part, from the
root or from the home directory; a part of a step up leads to the directory above. Names are byte
strings here, as they are for the operating system.
-/

namespace Chip8

abbrev PathPart := List UInt8

namespace PathPart

def ofString (s : String) : PathPart :=
  s.toUTF8.toList

def separator : UInt8 := 0x2F

def stay : PathPart := [0x2E]

def stepUp : PathPart := [0x2E, 0x2E]

def maxSize : Nat := 255

/-- The parts of a path between its separators; always one at least. -/
def split : List UInt8 → List PathPart
  | [] => [[]]
  | b :: rest =>
    match split rest with
    | [] => [[b]]
    | part :: parts => if b = separator then [] :: part :: parts else (b :: part) :: parts

end PathPart

def pathSizeLimit : Nat := 4096

/-- Files and directories under a root. The name of each is the list of its parts. -/
structure Folder where
  files : List (List PathPart × List UInt8) := []
  /-- Directories besides those that lead to a file or to the home directory. -/
  directories : List (List PathPart) := []
  /-- The directory from which paths without a leading separator are walked. -/
  home : List PathPart := []

namespace Folder

/-- Whether a directory has this name: every directory, home and file lies in all those above it. -/
def hasDirectory (f : Folder) (path : List PathPart) : Bool :=
  path.isPrefixOf f.home || f.directories.any path.isPrefixOf
    || f.files.any fun file => path.isPrefixOf file.1

def walk (f : Folder) (name : Text) (here : List PathPart) :
    List PathPart → Except FileError (List UInt8)
  | [] => .error (.isDirectory name)
  | part :: rest =>
    if part.isEmpty || part = PathPart.stay then f.walk name here rest
    else if part = PathPart.stepUp then f.walk name here.dropLast rest
    else if PathPart.maxSize < part.length then .error (.nameTooLong name)
    else
      match f.files.lookup (here ++ [part]) with
      | some bytes => if rest.isEmpty then .ok bytes else .error (.notDirectory name)
      | none =>
        if f.hasDirectory (here ++ [part]) then f.walk name (here ++ [part]) rest
        else .error (.notFound name)

def read (f : Folder) : FileReader Id := fun name =>
  match nameBytes? name with
  | none => .error .notEncodable
  | some path =>
    if path.contains 0 then .error .nullCharacter
    else if pathSizeLimit ≤ path.length then .error (.nameTooLong name)
    else if path.isEmpty then .error (.notFound name)
    else
      f.walk name (if path.head? = some PathPart.separator then [] else f.home)
        (PathPart.split path)

end Folder

end Chip8
