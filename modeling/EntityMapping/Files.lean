/-
Module: EntityMapping.Files
Purpose: The files that a run can read, and why one cannot be read.
Main exports: ReadFault, Entry, Files, Files.readText, Files.ofDirectory
-/

namespace EntityMapping

/-- Why the text of a file cannot be read. -/
inductive ReadFault where
  | notFound
  | deviceFault
  | noAccess
  | notDirectory
  | isDirectory
  | nameTooLong
  | tooManyLinks
  | nulInName
  | notText
  | other (words : String)
deriving DecidableEq, Repr

namespace ReadFault

/-- The fault that a system reports under a number and in its own words. -/
def ofSystem (number : Nat) (words : String) : ReadFault :=
  match number with
  | 2 => .notFound
  | 5 => .deviceFault
  | 13 => .noAccess
  | 20 => .notDirectory
  | 21 => .isDirectory
  | 36 => .nameTooLong
  | 40 => .tooManyLinks
  | _ => .other (words ++ " (os error " ++ toString number ++ ")")

/-- The fault in words. -/
def message : ReadFault → String
  | .notFound => "No such file or directory (os error 2)"
  | .deviceFault => "Input/output error (os error 5)"
  | .noAccess => "Permission denied (os error 13)"
  | .notDirectory => "Not a directory (os error 20)"
  | .isDirectory => "Is a directory (os error 21)"
  | .nameTooLong => "File name too long (os error 36)"
  | .tooManyLinks => "Too many levels of symbolic links (os error 40)"
  | .nulInName => "file name contained an unexpected NUL byte"
  | .notText => "stream did not contain valid UTF-8"
  | .other words => words

end ReadFault

/-- What a path can lead to: a file, a directory, or something that is there but cannot be read. -/
inductive Entry where
  | file (content : ByteArray)
  | directory
  | closed (fault : ReadFault)

/-- What is at a path that leads somewhere, but not to what can be read. -/
def Entry.ofFault : ReadFault → Entry
  | .isDirectory => .directory
  | fault => .closed fault

/-- The files that can be read: what each path leads to. -/
structure Files where
  entry : String → Except ReadFault Entry

namespace Files

/-- Whether a path leads anywhere. -/
def has (files : Files) (path : String) : Bool :=
  (files.entry path).isOk

/-- The text of a file. -/
def readText (files : Files) (path : String) : Except ReadFault String :=
  match files.entry path with
  | .error fault => .error fault
  | .ok .directory => .error .isDirectory
  | .ok (.closed fault) => .error fault
  | .ok (.file content) =>
      match String.fromUTF8? content with
      | some text => .ok text
      | none => .error .notText

/-! ### One working directory -/

/-- Where a path has led so far: to a directory around the working directory, to the working
directory itself, or to an entry of it. -/
inductive Place where
  | outside
  | working
  | inside (entry : Entry)

/-- The longest name of an entry, in bytes. -/
def nameLimit : Nat := 255

/-- The paths that are too long, in bytes. -/
def pathLimit : Nat := 4096

/-- What the path leads to at its end. -/
def Place.entry : Place → Entry
  | .outside => .directory
  | .working => .directory
  | .inside entry => entry

/-- The directory above a place. -/
def Place.parent : Place → Place
  | .outside => .outside
  | .working => .outside
  | .inside _ => .working

/-- The place of a name in the directory at a place. The directories in the working directory are
empty, and nothing is known of what is around it. -/
def Place.enter (entries : List (String × Entry)) (name : String) (place : Place) :
    Except ReadFault Place :=
  if nameLimit < name.utf8ByteSize then .error .nameTooLong
  else
    match place, entries.lookup name with
    | .working, some entry => .ok (.inside entry)
    | _, _ => .error .notFound

/-- Goes on by one part of a path: nowhere, to the directory above, or to a name. -/
def Place.step (entries : List (String × Entry)) (place : Place) (part : String) :
    Except ReadFault Place :=
  match place with
  | .inside (.file _) | .inside (.closed _) => .error .notDirectory
  | _ =>
      if part = "" ∨ part = "." then .ok place
      else if part = ".." then .ok place.parent
      else place.enter entries part

/-- The files of a working directory that holds the given entries and nothing else. -/
def ofDirectory (entries : List (String × Entry)) : Files where
  entry path :=
    if path.contains '\x00' then .error .nulInName
    else if path.isEmpty then .error .notFound
    else if pathLimit ≤ path.utf8ByteSize then .error .nameTooLong
    else
      let start := if path.startsWith "/" then Place.outside else Place.working
      ((path.splitOn "/").foldlM (Place.step entries) start).map Place.entry

end Files

end EntityMapping
