import Lector.Output.Name

/-!
# Arguments of the command

The command takes input files and options. An option is a word that starts with two hyphens, or with
one hyphen and letters that may be run together. The option for directives takes all words up to
the next option. After two hyphens alone all words are input files.

## Main definitions

* `Arguments` - what is asked of the command.
* `Word`, `Word.read` - the kinds of words.
* `Request` - arguments, or a plea for help or for the version, or neither.
* `Request.read` - the request that words make.
-/

namespace Lector.Command

/-- What is asked of the command. -/
structure Arguments where
  inputs : List Text := []
  directives : List Text := []
  dataDirectory : Option Text := none
  template : Option Text := none
  /-- How often more notes are asked for. -/
  verbosity : Nat := 0
  deriving DecidableEq, Repr

/-- The kinds of words. -/
inductive Word
  | plain (t : Text)
  /-- The mark after which there are no options. -/
  | endOfOptions
  | long (name : Text) (value : Option Text)
  /-- Options by their letters, or one with a value run on. -/
  | short (letters : Text)
  deriving DecidableEq, Repr

def Word.read : Text → Word
  | ['-', '-'] => endOfOptions
  | '-' :: '-' :: t =>
    match Text.cutAt? '=' t with
    | some (name, value) => long name (some value)
    | none => long t none
  | '-' :: c :: t => short (c :: t)
  | t => plain t

/-- What the words make a request for. -/
inductive Request
  | run (arguments : Arguments)
  | help
  | version
  | misuse
  deriving DecidableEq, Repr

/-- What the next plain word is. -/
inductive Expected
  | input
  /-- A directive. There has to be one, or there was one already. -/
  | directive (seen : Bool)
  | dataDirectory
  | template
  deriving DecidableEq, Repr

namespace Expected

def isOptional : Expected → Bool
  | input => true
  | directive seen => seen
  | dataDirectory | template => false

/-- The arguments with a value, if that can be taken: files are not named by empty words, and what
is taken once is not taken again. -/
def take? (a : Arguments) (value : Text) : Expected → Option Arguments
  | input => if value.isEmpty then none else some { a with inputs := a.inputs ++ [value] }
  | directive _ => some { a with directives := a.directives ++ [value] }
  | dataDirectory =>
    if value.isEmpty ∨ a.dataDirectory.isSome then none
    else some { a with dataDirectory := some value }
  | template => if a.template.isSome then none else some { a with template := some value }

def next : Expected → Expected
  | directive _ => directive true
  | _ => input

end Expected

/-- The options that take values, by name. -/
def valueOption? (name : Text) : Option Expected :=
  if name = "directive".toList then some (.directive false)
  else if name = "data-dir".toList then some .dataDirectory
  else if name = "outputfnfmt".toList then some .template
  else none

/-- What letters run together ask for. -/
inductive Letters
  | go (a : Arguments) (e : Expected)
  | stop (r : Request)

def readLetters (a : Arguments) : Text → Letters
  | [] => .go a .input
  | 'v' :: t => readLetters { a with verbosity := a.verbosity + 1 } t
  | 'h' :: _ => .stop .help
  | 'V' :: _ => .stop .version
  | ['d'] => .go a (.directive false)
  | 'd' :: c :: t =>
    let value := if c = '=' then t else c :: t
    .go { a with directives := a.directives ++ [value] } .input
  | _ :: _ => .stop .misuse

/-- Takes words as input files, and ends. -/
def finish (a : Arguments) (inputs : List Text) : Request :=
  if inputs.any List.isEmpty ∨ (a.inputs ++ inputs).isEmpty then .misuse
  else .run { a with inputs := a.inputs ++ inputs }

/-- Reads words, given what was read before and what is expected. -/
def readWords (a : Arguments) (e : Expected) : List Text → Request
  | [] => if e.isOptional then finish a [] else .misuse
  | w :: ws =>
    match Word.read w with
    | .plain value =>
      match e.take? a value with
      | some a => readWords a e.next ws
      | none => .misuse
    | .endOfOptions => if e.isOptional then finish a ws else .misuse
    | .short letters =>
      if !e.isOptional then .misuse
      else match readLetters a letters with
        | .go a e => readWords a e ws
        | .stop r => r
    | .long name value =>
      if !e.isOptional then .misuse
      else match valueOption? name, value with
        | some e, none => readWords a e ws
        | some e, some value =>
          match e.take? a value with
          | some a => readWords a .input ws
          | none => .misuse
        | none, some _ => .misuse
        | none, none =>
          if name = "verbose".toList then
            readWords { a with verbosity := a.verbosity + 1 } .input ws
          else if name = "help".toList then .help
          else if name = "version".toList then .version
          else .misuse

def Request.read (words : List Text) : Request := readWords {} .input words

end Lector.Command
