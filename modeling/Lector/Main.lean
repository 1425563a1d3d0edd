import Lector.Command.Run

/-!
# The command

The command takes in the files that its arguments lead to, runs, and writes the files that the run
has changed. What it does with them is all decided in `Command.run`.

## Main definitions

* `Command.notePath`, `Command.noteTree` - take in what is at a path, and all below it.
* `Command.writeChanges` - writes what a run has changed.
* `main` - the command.
-/

namespace Lector.Command

open Files (Location pathOf)

/-- The location of a path, all links followed, if there is anything. -/
def realLocation? (here : Location) (path : Text) : IO (Option Location) := do
  if path.isEmpty then return some here
  try
    let real ← IO.FS.realPath (String.ofList path)
    return some ((Text.splitAtChar '/' real.toString.toList).filter fun part => !part.isEmpty)
  catch _ => return none

/-- Takes in what is at a location that no links lead to, and the directories on the way there. -/
def noteLocation (files : Files) (l : Location) : IO Files := do
  if (files.get? l).isSome then return files
  let files := ((List.range l.length).map fun n => l.take n).foldl (fun files m =>
    if (files.get? m).isSome then files else files.set m .directory) files
  let real ← IO.FS.realPath (String.ofList (pathOf l))
  if ← real.isDir then return files.set l .directory
  else return files.set l (.file (← IO.FS.readBinFile real))

/-- Takes in what is at a location, to which the name in a directory leads. -/
def noteStep (files : Files) (parent : Location) (name : Text) (l : Location) : IO Files := do
  let named := parent ++ [name]
  let files ← noteLocation files l
  if Path.isIdle name || name == ['.', '.'] || named == l then return files
  else return files.set named (.link (pathOf l))

/-- Takes in what is at a path and on the way there. -/
def notePath (files : Files) (path : Text) : IO Files := do
  let parts := Text.splitAtChar '/' path
  let start := Files.origin files.here path
  let mut files := files
  for (part, n) in parts.zipIdx do
    let front ← realLocation? start (Text.join ['/'] (parts.take n))
    let whole ← realLocation? start (Text.join ['/'] (parts.take (n + 1)))
    match front, whole with
    | some parent, some l => files ← noteStep files parent part l
    | _, _ => return files
  return files

/-- Takes in what is at a path and below it. The directories that were seen already are given. -/
partial def noteTree (files : Files) (seen : List Location) (path : Text) :
    IO (Files × List Location) := do
  if path.isEmpty then return (files, seen)
  let files ← notePath files path
  match ← realLocation? files.here path with
  | none => return (files, seen)
  | some l =>
    let real ← IO.FS.realPath (String.ofList (pathOf l))
    if seen.contains l || !(← real.isDir) then return (files, seen)
    let mut files := files
    let mut seen := l :: seen
    for e in ← real.readDir do
      let child := Path.join path e.fileName.toList
      if (← realLocation? files.here child).isSome then
        (files, seen) ← noteTree files seen child
      else files := files.set (l ++ [e.fileName.toList]) (.link [])
    return (files, seen)

/-- The names after the dollar signs of a text. -/
def namesIn (t : Text) : List Text :=
  (Text.splitAtChar '$' t).map fun piece =>
    match piece with
    | '\x7b' :: piece => piece.takeWhile (· ≠ '\x7d')
    | piece => piece.takeWhile isNameChar

/-- The variables of the environment that matter to a run. -/
def noteVariables (files : Files) : IO Variables := do
  let mentioned := match findVariables? files (Files.upwards files.here) >>= Files.decode? with
    | some t => namesIn t
    | none => []
  let mut vars : Variables := Table.empty
  for name in dataVariable :: mentioned do
    if let some value ← IO.getEnv (String.ofList name) then
      vars := vars.insert name value.toList
  return vars

def noteFiles (files : Files) (vars : Variables) (a : Arguments) : IO Files := do
  let mut files := files
  for path in a.inputs ++ a.directives do
    files ← notePath files path
  for input in a.inputs do
    if let .ok output :=
        Output.render files.herePath (a.template.getD Output.defaultTemplate) input then
      files ← notePath files output
  if let some directory := dataDirectory vars files a then
    files := (← noteTree files [] directory).1
  return files

def writeChanges (before after : Files) : IO Unit := do
  for (l, e) in after.entries.entries do
    match e, before.entries.get? l with
    | .file bytes, some (.file old) =>
      if bytes.data != old.data then IO.FS.writeBinFile (String.ofList (pathOf l)) bytes
    | .file bytes, none => IO.FS.writeBinFile (String.ofList (pathOf l)) bytes
    | _, _ => pure ()

/-- Runs the command on the disk, and gives the exit code. -/
def perform (words : List Text) : IO UInt32 := do
  let here := (← realLocation? [] ['.']).getD []
  let mut files ← notePath ⟨Table.empty, here⟩ ['.']
  for l in Files.upwards here do
    files ← notePath files (Path.join (pathOf l) variableFile)
  let vars ← noteVariables files
  if let .run a := Request.read words then
    files ← noteFiles files vars a
  let outcome := run vars files words
  writeChanges files outcome.files
  IO.print (String.ofList outcome.output)
  IO.eprint (String.ofList outcome.errors)
  return outcome.code.toUInt32

end Lector.Command

def main (words : List String) : IO UInt32 := Lector.Command.perform (words.map String.toList)
