import Signalbox.CommandLine.Report

/-! The command: reads its two files, prints the report and writes the history file. -/
namespace Signalbox.CommandLine

def fileError : IO.Error → FileError
  | .noFileOrDirectory .. => .notFound
  | .inappropriateType _ 20 _ => .notDirectory
  | .inappropriateType .. => .isDirectory
  | .invalidArgument _ 36 _ => .nameTooLong
  | e => .other (toString e)

def attempt {α : Type} (action : IO α) : IO (Except FileError α) := do
  match ← action.toBaseIO with
  | .ok a => return .ok a
  | .error e => return .error (fileError e)

def writeOut (r : Report) : IO Report :=
  match r.file with
  | none => return r
  | some (path, text) => return r.afterWriting (← attempt (IO.FS.writeFile path text))

end Signalbox.CommandLine

open Signalbox.CommandLine in
def main (arguments : List String) : IO UInt32 := do
  match Arguments.read arguments with
  | none =>
    IO.eprintln "error: the arguments were not understood"
    return 1
  | some a =>
    let table ← attempt (IO.FS.readBinFile a.table)
    let scenario ← attempt (IO.FS.readBinFile a.scenario)
    let r ← writeOut (report a table scenario)
    IO.print r.text
    return r.ending.exitCode.toUInt32
