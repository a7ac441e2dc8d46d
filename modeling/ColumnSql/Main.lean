import ColumnSql.CommandLine.Run

/-! The program. -/

namespace ColumnSql.CommandLine

/-- the number of an error, which is given with either sign -/
def number (code : UInt32) : Nat := min code.toNat (UInt32.size - code.toNat)

def isFolder : IO.Error → Bool
  | .inappropriateType _ code _ => number code == 21
  | _ => false

def reason : IO.Error → String
  | .noFileOrDirectory .. => "No such file or directory (os error 2)"
  | .permissionDenied .. => "Permission denied (os error 13)"
  | .inappropriateType f code details =>
    if isFolder (.inappropriateType f code details) then "Is a directory (os error 21)"
    else "Not a directory (os error 20)"
  | e => toString e

def textOf (bytes : ByteArray) : Except String String :=
  match String.fromUTF8? bytes with
  | some text => .ok text
  | none => .error "stream did not contain valid UTF-8"

def readFile (path : String) : IO (Except String String) := do
  try
    return textOf (← IO.FS.readBinFile path)
  catch e => return .error (reason e)

def readInput : IO (Except String String) := do
  try
    return textOf (← (← IO.getStdin).readBinToEnd)
  catch e => return .error (reason e)

/-- whether there is something at a path, be it a folder or a file that must not be read -/
def isThere (path : String) : IO Bool := do
  try
    let _ ← IO.FS.readBinFile path
    return true
  catch
    | .noFileOrDirectory .. => return false
    | .inappropriateType f code details => return isFolder (.inappropriateType f code details)
    | _ => return true

def configFolder : IO (Option String) := do
  match ← IO.getEnv "XDG_CONFIG_HOME" with
  | some path => if path.startsWith "/" then return some path
  | none => pure ()
  return (← IO.getEnv "HOME").map fun home => home ++ "/.config"

def host : IO (Host IO) := do
  return {
    exists? := isThere
    read := readFile
    input := readInput
    config := ← IO.getEnv "COLEXPR_CONFIG"
    configFolder := ← configFolder }

end ColumnSql.CommandLine

open ColumnSql.CommandLine in
def main (args : List String) : IO UInt32 := do
  let result ← run (← host) args
  (← IO.getStdout).putStr result.output
  (← IO.getStderr).putStr result.error
  return result.code
