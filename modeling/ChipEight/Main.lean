import ChipEight.CommandLine.Script

/-!
# The command line program

Reads the program file that the command line names, and, if a window is to be opened, a script for
it from standard input; then prints what the command line brings about.
-/

open ChipEight

/-- The bytes of the file at a path, or the complaint that there is none. -/
def readProgram (path : String) : IO (Except FileFault (List UInt8)) := do
  try
    let bytes ← IO.FS.readBinFile path
    return .ok bytes.toList
  catch _ => return .error (.notFound path)

/-- The home directories: that of the environment, and those of the account list if there is one. -/
def findHomes : IO CommandLine.Homes := do
  let own := (← IO.getEnv "HOME").getD "~"
  let lines ← try IO.FS.lines "/etc/passwd" catch _ => pure #[]
  return .ofAccounts own lines.toList

/-- A source of random bytes with a seed of its own. -/
def drawSource : IO RandomSource := do
  let bytes ← IO.getRandomBytes 16
  return .seeded (natOfBigEndian bytes.toList)

/-- The lines of standard input up to its end. -/
partial def readLines (input : IO.FS.Stream) (lines : Array String) : IO (Array String) := do
  let line ← input.getLine
  if line.isEmpty then return lines else readLines input (lines.push line)

def main (args : List String) : IO UInt32 := do
  let homes ← findHomes
  let args := CommandLine.argsOf args
  let path := (CommandLine.programPath? args homes).getD ""
  let file ← readProgram path
  let script ←
    if CommandLine.opensWindow args && file.isOk then readLines (← IO.getStdin) #[] else pure #[]
  let host : CommandLine.Host :=
    { homes := homes
      read := fun p => if p = path then file else .error (.notFound p)
      unseeded := ← drawSource }
  let outcome := CommandLine.run args host (script.toList.map CommandLine.beatOfLine)
  let out ← IO.getStdout
  let err ← IO.getStderr
  out.putStr outcome.stdout
  for line in outcome.pictures do out.putStrLn line
  for line in Log.written outcome.level.rank outcome.log do err.putStrLn line
  err.putStr outcome.complaints
  return UInt32.ofInt outcome.code
