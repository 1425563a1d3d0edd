import Lector.Command.Arguments
import Lector.Command.Variables
import Lector.Directive.Builtin
import Lector.Directive.Pipeline
import Lector.Output.Process

/-!
# Runs of the command

A run registers the built-in directives and the rule files of the data directory, builds a pipeline
of the directives that are asked for, and processes the input files one after another. The first
failure ends it.

## Main definitions

* `Outcome` - the end of a run: the exit code, what is written out, and the files.
* `prepare` - the pipeline for some arguments.
* `processAll` - processes input files in order.
* `run` - a run of the command.
-/

namespace Lector.Command

/-- The end of a run. -/
structure Outcome where
  code : Nat
  output : Text
  /-- The report of the error that ended the run, or of the usage. What is logged besides is left
  out. -/
  errors : Text
  files : Files

/-- The name of the variable that holds the data directory. -/
def dataVariable : Text := "TTSPREP_DATA_DIR".toList

def variableFile : Text := ".env".toList

def versionText : Text := "ttsprep 0.1.0\n".toList

def usageText : Text := "Usage: ttsprep [OPTIONS] <INPUTFILES>...\n".toList

def helpText : Text :=
  "Strip markup and normalize text for text-to-speech\n\n".toList ++ usageText ++
  ("\nArguments:\n  <INPUTFILES>...  Input files to process\n\nOptions:\n" ++
  "  -d, --directive <DIRECTIVES>...  A named directive or rule file (treated as a file if one " ++
  "exists at that path)\n" ++
  "      --data-dir <DATA_DIR>        Directory of rule files to register at startup (default: " ++
  "$TTSPREP_DATA_DIR)\n" ++
  "      --outputfnfmt <OUTPUTFNFMT>  Output file name template [default: ").toList ++
  Output.defaultTemplate ++
  ("]\n  -v, --verbose...                 Increase log verbosity (-v, -vv, -vvv)\n" ++
  "  -h, --help                       Print help\n" ++
  "  -V, --version                    Print version\n").toList

/-- What is written of an error: the error itself and the causes behind it. -/
def errorText (e : Error) : Text :=
  "Error: ".toList ++ e.message ++ ['\n'] ++
    e.causes.flatMap fun cause => "  caused by: ".toList ++ cause ++ ['\n']

def doneText (input output : Text) : Text := input ++ " -> ".toList ++ output ++ ['\n']

/-- The bytes of the file of variables in the first of some directories that has one. A place that
cannot be looked at ends the search. -/
def findVariables? (files : Files) : List Files.Location → Option ByteArray
  | [] => none
  | l :: ls =>
    match files.look (Path.join (Files.pathOf l) variableFile) with
    | .ok (.file bytes) => some bytes
    | .ok _ | .error .notFound => findVariables? files ls
    | .error _ => none

/-- The variables of the environment, with those of the nearest file of variables. -/
def environment (vars : Variables) (files : Files) : Variables :=
  match findVariables? files (Files.upwards files.here) with
  | some bytes => readVariables bytes vars
  | none => vars

/-- The directory of rule files: the one asked for, or else the one that a variable names. -/
def dataDirectory (vars : Variables) (files : Files) (a : Arguments) : Option Text :=
  a.dataDirectory.or ((environment vars files).get? dataVariable)

/-- The directives that are asked for, or else the one for the first input. -/
def references (a : Arguments) : List Reference :=
  if a.directives.isEmpty then
    [.named (Directive.defaultDirective (a.inputs.headD []))]
  else a.directives.map .named

/-- The directives that are there at the start: the built-in ones, and in place of those that share
a name with them the ones of the data directory. -/
def startRegistry (vars : Variables) (files : Files) (a : Arguments) :
    Except Error Registry :=
  let builtins := Registry.addBuiltins 0 Table.empty
  match dataDirectory vars files a with
  | none => .ok builtins
  | some directory =>
    match Registry.discover files directory builtins with
    | (.error e, _) => .error e
    | (.ok _, registry) => .ok registry

def prepare (vars : Variables) (files : Files) (a : Arguments) : Except Error Pipeline := do
  let registry ← startRegistry vars files a
  (Pipeline.build files (references a) (.ofRegistry registry (0 < a.verbosity) 0)).1

/-- Processes input files in order, and gives what is written out, the error that ended it, if any,
and the files as they are then. -/
def processAll (transform : Text → Except Error Text) (template : Text) :
    List Text → Files → Text × Option Error × Files
  | [], files => ([], none, files)
  | input :: inputs, files =>
    match Output.process files transform template input with
    | .error e => ([], some e, files)
    | .ok (output, files) =>
      let (rest, e, files) := processAll transform template inputs files
      (doneText input output ++ rest, e, files)

def runArguments (vars : Variables) (files : Files) (a : Arguments) : Outcome :=
  match prepare vars files a with
  | .error e => ⟨1, [], errorText e, files⟩
  | .ok pipeline =>
    let template := a.template.getD Output.defaultTemplate
    match processAll pipeline.run template a.inputs files with
    | (output, none, files) => ⟨0, output, [], files⟩
    | (output, some e, files) => ⟨1, output, errorText e, files⟩

/-- A run of the command on words, in an environment of variables and files. -/
def run (vars : Variables) (files : Files) (words : List Text) : Outcome :=
  match Request.read words with
  | .run a => runArguments vars files a
  | .help => ⟨0, helpText, [], files⟩
  | .version => ⟨0, versionText, [], files⟩
  | .misuse => ⟨2, [], usageText, files⟩

end Lector.Command
