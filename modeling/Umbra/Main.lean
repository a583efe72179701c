import Umbra.CommandLine

/-! The program: it reads the files that its arguments name, and prints. -/

namespace Umbra.CommandLine

/-- Why a file cannot be read, as its reader is told. -/
def describe : IO.Error → String
  | .noFileOrDirectory .. => "No such file or directory (os error 2)"
  | .permissionDenied .. => "Permission denied (os error 13)"
  | .inappropriateType .. => "Is a directory (os error 21)"
  | e => toString e

def readContent (path : String) : IO Content := do
  try
    let bytes ← IO.FS.readBinFile path
    return match String.fromUTF8? bytes with
      | some text => .ok text
      | none => .error "stream did not contain valid UTF-8"
  catch e => return .error (describe e)

end Umbra.CommandLine

open Umbra.CommandLine

def main (arguments : List String) : IO UInt32 := do
  match Arguments.parse? arguments with
  | none =>
    (← IO.getStderr).putStr usage
    return 2
  | some a =>
    let snapshot ← readContent a.snapshot
    let config ← a.config.mapM fun path => return (path, ← readContent path)
    let outcome := run a snapshot config
    (← IO.getStdout).putStr outcome.out
    (← IO.getStderr).putStr outcome.err
    return UInt32.ofNat outcome.code
