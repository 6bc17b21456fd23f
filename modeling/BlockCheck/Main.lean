/-
This file is the program: it reads the arguments and the input that they name, and writes
the outcome. All it knows is how the system is asked; what is told is decided elsewhere. There
is no clock for the log.
-/

import BlockCheck.CommandLine.Report

open BlockCheck.CommandLine

/-- A failure with the number of a system error, which may be counted from below, and with
its description as a sentence. -/
def systemFailure (code : UInt32) (details : String) : InputFailure :=
  .system details.capitalize (if code < 0x80000000 then code else 0 - code).toNat

/-- The failure to read that an error of the system stands for. -/
def inputFailureOfError : IO.Error → InputFailure
  | .noFileOrDirectory _ code details => systemFailure code details
  | .inappropriateType _ code details => systemFailure code details
  | .permissionDenied _ code details => systemFailure code details
  | .invalidArgument _ code details => systemFailure code details
  | .resourceExhausted _ code details => systemFailure code details
  | .otherError code details => systemFailure code details
  | other => systemFailure 0 (toString other)

/-- The bytes of the program to check. -/
def readOrigin (origin : Origin) : IO (Except InputFailure ByteArray) := do
  try
    match origin with
    | .standardInput => return .ok (← (← IO.getStdin).readBinToEnd)
    | .file name => return .ok (← IO.FS.readBinFile name)
  catch failure => return .error (inputFailureOfError failure)

/-- Write to a stream. -/
def writeTo : Stream → String → IO Unit
  | .output, text => IO.print text
  | .errors, text => IO.eprint text

/-- Check the program that the arguments name and tell the verdict. -/
def main (arguments : List String) : IO UInt32 := do
  let noColour ← IO.getEnv "NO_COLOR"
  let value? name := if name = "NO_COLOR" then noColour else none
  let outcome ← standIns.run ⟨value?, fun _ => ""⟩ readOrigin arguments
  for (stream, text) in outcome.writes do
    writeTo stream text
  return outcome.exitCode.toUInt32
