/-! The directory in which the daemon runs, and what a path leads to in it. Directories in it are
empty, and outside of it there are only directories with nothing in them that is known. -/
namespace DispatchServer

inductive Entry
  | file (bytes : ByteArray)
  | directory

/-- Names and what they stand for. -/
abbrev Directory := List (String × Entry)

inductive ReadError
  | noSuchFile
  | notADirectory
  | isDirectory
  | nameTooLong
  | zeroInName
  | notUtf8
  deriving DecidableEq, Repr

def ReadError.message : ReadError → String
  | noSuchFile => "No such file or directory (os error 2)"
  | notADirectory => "Not a directory (os error 20)"
  | isDirectory => "Is a directory (os error 21)"
  | nameTooLong => "File name too long (os error 36)"
  | zeroInName => "file name contained an unexpected NUL byte"
  | notUtf8 => "stream did not contain valid UTF-8"

/-- How far a path was followed. -/
inductive Place
  | here
  | outside
  | entry (entry : Entry)

/-- The directory above has no end: the topmost one is above itself. -/
def Place.above : Place → Place
  | here | outside => outside
  | entry _ => here

namespace Directory

def nameLimit : Nat := 255

def pathLimit : Nat := 4095

/-- Follows one more part of a path. An empty part or a dot stays where it is, if that is a
directory. -/
def enter (directory : Directory) (place : Place) (part : String) : Except ReadError Place :=
  match place with
  | .entry (.file _) => .error .notADirectory
  | place =>
    if part = "" ∨ part = "." then .ok place
    else if part = ".." then .ok place.above
    else if nameLimit < part.utf8ByteSize then .error .nameTooLong
    else
      match place, directory.lookup part with
      | .here, some entry => .ok (.entry entry)
      | _, _ => .error .noSuchFile

/-- Where a path starts. -/
def origin (path : String) : Place :=
  match path.toList with
  | '/' :: _ => .outside
  | _ => .here

/-- Where a path leads: a name that is listed as a whole, or else part by part. -/
def follow (directory : Directory) (path : String) : Except ReadError Place :=
  if '\x00' ∈ path.toList then .error .zeroInName
  else if pathLimit < path.utf8ByteSize then .error .nameTooLong
  else
    match directory.lookup path with
    | some entry => .ok (.entry entry)
    | none => (path.splitOn "/").foldlM directory.enter (origin path)

def bytes (directory : Directory) (path : String) : Except ReadError ByteArray :=
  match directory.follow path with
  | .error error => .error error
  | .ok (.entry (.file bytes)) => .ok bytes
  | .ok _ => .error .isDirectory

/-- The text of a file. -/
def text (directory : Directory) (path : String) : Except ReadError (List Char) :=
  match directory.bytes path with
  | .error error => .error error
  | .ok bytes =>
    match String.fromUTF8? bytes with
    | none => .error .notUtf8
    | some text => .ok text.toList

end Directory

end DispatchServer
