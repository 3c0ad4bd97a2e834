import FormulaLexer.Command.Run

/-!
The program. It reads the store from the working directory, runs the command that its
arguments call, and writes back what the command changed.
-/

namespace FormulaLexer

/-- What stands at the paths of the settings. -/
def loadStore : IO Store := do
  let root ← IO.currentDir
  let directory := root / settingsDirectory
  let file := root / settingsFile
  if !(← directory.pathExists) then return .missing
  if !(← directory.isDir) then return .blocked
  if !(← file.pathExists) then return .directory .missing
  if ← file.isDir then return .directory .directory
  return .directory (.file (← IO.FS.readBinFile file))

def saveStore (store : Store) : IO Unit := do
  match store.bytes? with
  | none => return
  | some bytes => do
    let root ← IO.currentDir
    IO.FS.createDirAll (root / settingsDirectory)
    IO.FS.writeBinFile (root / settingsFile) bytes

end FormulaLexer

def main (arguments : List String) : IO UInt32 := do
  let before ← FormulaLexer.loadStore
  let (result, after) := FormulaLexer.runProgram arguments before
  if after ≠ before then FormulaLexer.saveStore after
  match result with
  | .ok outcome => do
    IO.print outcome.stdout
    IO.eprint outcome.stderr
    return outcome.exitCode.toUInt32
  | .error error => do
    IO.eprintln (error.message?.getD "the settings are no UTF-8 text")
    return 1
