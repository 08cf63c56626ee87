import AdapterWiring.CommandLine.Output

/-!
# The program

Reads files through the file system and writes what the command line asks for.
-/

namespace AdapterWiring

/-- The cause of a failed access to a file. -/
def readErrorOf : IO.Error → ReadError
  | .noFileOrDirectory _ _ _ => .notFound
  | .noSuchThing _ _ _ => .notFound
  | .inappropriateType _ _ details =>
    if details = "Not a directory" then .notDirectory else .isDirectory
  | failure => .other (toString failure)

/-- The bytes of a file. -/
def readBytes (path : String) : IO (Except ReadError ByteArray) := do
  try return .ok (← IO.FS.readBinFile path)
  catch failure => return .error (readErrorOf failure)

/-- The file system as a way to read texts. -/
def systemFiles : Files IO where
  read path := do
    match ← readBytes path with
    | .error failure => return .error failure
    | .ok bytes =>
      match String.fromUTF8? bytes with
      | some text => return .ok text
      | none => return .error .notText
  isFile path := do
    match ← readBytes path with
    | .error .notFound => return false
    | .error .isDirectory => return false
    | .error .notDirectory => return false
    | _ => return true

end AdapterWiring

/-- Carry out the arguments of the command line. -/
def main (arguments : List String) : IO UInt32 := do
  let output ← AdapterWiring.Output.run AdapterWiring.systemFiles arguments
  (← IO.getStdout).putStr output.stdout
  (← IO.getStderr).putStr output.stderr
  return UInt32.ofNat output.status
