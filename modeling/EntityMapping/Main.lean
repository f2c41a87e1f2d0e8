/-
Module: EntityMapping.Main
Purpose: The program. It reads the files that its words name and prints what the run answers.
Main exports: main
-/
import EntityMapping.Run

namespace EntityMapping

/-- The number of a system error. Some parts of the runtime hand it on negated. -/
def systemNumber (code : UInt32) : Nat :=
  if code < 0x80000000 then code.toNat else (-code).toNat

/-- Why a file of this machine cannot be read. -/
def ReadFault.ofError : IO.Error → ReadFault
  | .noFileOrDirectory _ code words | .interrupted _ code words
  | .alreadyExists _ code words | .invalidArgument _ code words
  | .permissionDenied _ code words | .resourceExhausted _ code words
  | .inappropriateType _ code words | .noSuchThing _ code words
  | .otherError code words | .resourceBusy code words | .resourceVanished code words
  | .unsupportedOperation code words | .hardwareFault code words
  | .unsatisfiedConstraints code words | .illegalOperation code words
  | .protocolError code words | .timeExpired code words => .ofSystem (systemNumber code) words
  | .unexpectedEof => .other "failed to fill whole buffer"
  | .userError words => .other words

/-- What a path leads to on this machine. -/
def Entry.onDisk (path : String) : IO (Except ReadFault Entry) := do
  try
    let content ← IO.FS.readBinFile path
    return .ok (.file content)
  catch error =>
    let fault := ReadFault.ofError error
    -- The path has a real one exactly where it leads to something.
    try
      let _ ← IO.FS.realPath path
      return .ok (.ofFault fault)
    catch _ => return .error fault

/-- The files of this machine, as far as the given paths lead to them. -/
def Files.onDisk (paths : List String) : IO Files := do
  let entries ← paths.mapM fun path => do
    let entry ← Entry.onDisk path
    return (path, entry)
  return { entry := fun path => (entries.lookup path).getD (.error .notFound) }

end EntityMapping

/-- Runs the program on its words. -/
def main (words : List String) : IO UInt32 := do
  let files ← EntityMapping.Files.onDisk (EntityMapping.Arguments.pathsRead words)
  match EntityMapping.run files words with
  | .ok outcome =>
      IO.println outcome.output
      return 0
  | .error cause =>
      IO.eprintln cause.message
      return 1
