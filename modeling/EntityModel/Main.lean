import EntityModel.CommandLine.Run

/-!
# The program

Runs a command on the files of the system.
-/

namespace EntityModel

/-- The number of an error of the system, whose sign depends on the operation that met it. -/
def errorNumber (code : UInt32) : Nat := min code.toNat (-code).toNat

/-- The reason for which the system refuses an operation. -/
def reasonText (code : UInt32) (details : String) : String :=
  details ++ " (os error " ++ toString (errorNumber code) ++ ")"

/-- The number and the reason of an error of the system. -/
def errorText : IO.Error → String
  | .noFileOrDirectory _ code details => reasonText code details
  | .permissionDenied _ code details => reasonText code details
  | .inappropriateType _ code details => reasonText code details
  | .resourceExhausted _ code details => reasonText code details
  | .invalidArgument _ code details => reasonText code details
  | .alreadyExists _ code details => reasonText code details
  | error => toString error

/-- The number of the error for a path that goes on behind a file. -/
def notDirectoryNumber : Nat := 20

/-- Why a file of the system was not read. A path that goes on behind a file leads nowhere. -/
def readFault : IO.Error → ReadFault
  | .noFileOrDirectory _ _ _ => .notFound
  | .inappropriateType file code details =>
    if errorNumber code = notDirectoryNumber then .notFound
    else .failed (errorText (.inappropriateType file code details))
  | error => .failed (errorText error)

def systemFiles : Files IO where
  read path := do
    try return .ok (← IO.FS.readBinFile path)
    catch error => return .error (readFault error)
  write path content := do
    try
      IO.FS.writeFile path content
      return .ok ()
    catch error => return .error (errorText error)

end EntityModel

def main (arguments : List String) : IO UInt32 := do
  let outcome ← EntityModel.CommandLine.run EntityModel.systemFiles arguments
  (← IO.getStdout).putStr outcome.stdout
  (← IO.getStderr).putStr outcome.stderr
  return outcome.exitCode.toUInt32
