import ServiceMigration.CommandLine.Command
/-!
# The program

The files below the working directory and the arguments are taken in, the command is run over them,
and what it has changed is written back.  No completion service is attached; chunks that are not
cached are mapped by the rules.
-/

namespace ServiceMigration.Program

def placeOf (path : String) : List String := Path.namesOf path

/-- The directories above a place. -/
def ancestors (place : List String) : List (List String × FileEntry) :=
  (List.range place.length).filterMap fun n =>
    if n = 0 then none else some (place.take n, .directory)

/-- Take in what is at a real path, with all that is below it. -/
partial def takeIn (tree : FileTree) (path : String) : IO FileTree := do
  let real ← IO.FS.realPath path
  let place := placeOf real.toString
  if ← real.isDir then
    let mut tree := tree.put place .directory
    for entry in ← real.readDir do
      tree ← takeIn tree entry.path.toString
    pure tree
  else
    pure (tree.put place (.file (← IO.FS.readBinFile real)))

def takeInIfThere (tree : FileTree) (path : String) : IO FileTree := do
  try takeIn tree path catch _ => pure tree

def variableNames : List String := Settings.names.map Settings.variableName

def environment : IO (List (String × String)) := do
  let found ← variableNames.mapM fun name => do pure (name, ← IO.getEnv name)
  pure (found.filterMap fun (name, value) => value.map (name, ·))

def writeBack (before after : FileTree) : IO Unit := do
  for (place, entry) in after.entries do
    match entry, before.get? place with
    | .directory, none => IO.FS.createDirAll (placeText place)
    | .file content, some (.file old) =>
      if content != old then IO.FS.writeBinFile (placeText place) content
    | .file content, none => IO.FS.writeBinFile (placeText place) content
    | _, _ => pure ()

def workspace (args : List String) : IO Workspace := do
  let cwd := placeOf (← IO.currentDir).toString
  let start : FileTree := { entries := ancestors cwd }
  let tree ← takeInIfThere start "."
  let outside := args.filter fun arg => arg.toList.head? == some '/' || arg.startsWith ".."
  let tree ← outside.foldlM takeInIfThere tree
  pure { cwd, tree, environment := ← environment }

end ServiceMigration.Program

open ServiceMigration in
def main (args : List String) : IO UInt32 := do
  let w ← Program.workspace args
  let (outcome, s) := CommandLine.run args Completion.unreachable { workspace := w, provider := () }
  Program.writeBack w.tree s.workspace.tree
  (← IO.getStdout).putStr outcome.output
  (← IO.getStderr).putStr outcome.errors
  if (outcome.failure.map fun e => !e.isForeseen).getD false then
    (← IO.getStderr).putStrLn "Unexpected failure"
  pure (UInt32.ofNat outcome.exit)
