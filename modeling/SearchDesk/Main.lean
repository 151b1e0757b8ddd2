import SearchDesk.Cli.Run

/-!
# The program

`main` looks at the files and folders that the arguments name, runs the command line at a
desk that holds them, prints what stands on the console and writes the files that were made
or changed. Notes and listings are shown as they are, and no file of variables is looked for:
the desk has the variables that are set, and no others.
-/

namespace SearchDesk.Main

/-- The paths that an argument may name: the argument itself, and the value in it. -/
def named (arg : String) : List Files.Path :=
  let chars := arg.toList
  let afterMark := (chars.dropWhile (· ≠ '=')).drop 1
  [chars, afterMark, chars.drop 2].map fun s => (Files.Path.ofText (String.ofList s)).collapse

/-- A path and the paths on the way to it. -/
def withWay (p : Files.Path) : List Files.Path :=
  (List.range p.steps.length).map fun n => ⟨p.steps.take (n + 1)⟩

/-- Whether a name leads to a folder. -/
def isFolder (name : String) : IO Bool := do
  try (← IO.FS.realPath name).isDir
  catch _ => return false

/-- The contents of the file with a name. -/
def contents? (name : String) : IO (Option Files.Content) := do
  try return some (.bytes (← IO.FS.readBinFile name).toList)
  catch _ => return none

/-- Put what a path leads to into a directory. -/
def look (d : Files.Directory) (p : Files.Path) : IO Files.Directory := do
  if ← isFolder p.text then return { d with folders := d.folders ++ [p.steps] }
  match ← contents? p.text with
  | some c => return d.add p.text c
  | none => return d

/-- The configuration directory at a path. -/
def configAt (path : String) : IO ConfigDirectory := do
  let name := (Files.Path.ofText path).append (Files.Path.ofText ConfigDirectory.settingsFile)
  match ← contents? name.text with
  | some c => return ⟨path, ({} : Files.Directory).add ConfigDirectory.settingsFile c⟩
  | none => return ⟨path, {}⟩

/-- The variable that names the configuration directory. -/
def configVariable : String := "VECTORDASH_CONFIG_DIR"

/-- The desk for a command line. -/
def desk (args : List String) : IO Desk := do
  let chosen := (← IO.getEnv configVariable).getD ""
  let home ← configAt (if chosen = "" then "config" else chosen)
  let directory ← ((args.flatMap named).flatMap withWay).foldlM look {}
  let names := [Settings.maxDepthVariable, Settings.sampleSizeVariable]
  names.foldlM (fun d name => return d.setVariable name (← IO.getEnv name))
    { store := { home := home }, directory := directory }

/-- Write a file, with the folders on the way. -/
def save (name : String) (c : Files.Content) : IO Unit := do
  IO.FS.createDirAll (Files.Path.ofText name).parent.text
  match c with
  | .text s => IO.FS.writeFile name s
  | .bytes bs => IO.FS.writeBinFile name ⟨bs.toArray⟩

/-- Tell a fault; gives the code with which the program ends. -/
def finish : Cli.Ending → IO UInt32
  | .exit code => return code.toUInt32
  | .misused f => do IO.eprintln ("Error: " ++ f.message); return 2
  | .failed f => do IO.eprintln ("Error: " ++ f.message); return 1
  | .unshown f => do IO.eprintln ("Error: " ++ f.message); return 1

end SearchDesk.Main

/-- Run a command line. -/
def main (args : List String) : IO UInt32 := do
  let (outcome, _) := SearchDesk.Cli.execute .plain args (← SearchDesk.Main.desk args)
  IO.print outcome.output
  outcome.written.forM fun f => SearchDesk.Main.save f.1 f.2
  SearchDesk.Main.finish outcome.ending
