import Lector.Files.Basic
import Lector.Unicode.Lookup

/-!
# Files of variables

A file of variables sets one variable on a line, `NAME=value`, maybe after the word `export`. Values
may be quoted. In single quotes all stands for itself; elsewhere a backslash takes the meaning of
the next character away, and a dollar sign with a name stands for the value of a variable. A line
that cannot be understood ends the reading. A variable that is set already keeps its value.

## Main definitions

* `Variables` - variables with their values.
* `readValue?` - the value that a text stands for.
* `readLine` - what a line says.
* `readVariables` - the variables after reading a file.
-/

namespace Lector.Command

/-- Variables with their values. -/
abbrev Variables := Table Text Text

/-- Where the reading of a value is. -/
inductive ValueState
  | plain
  /-- In double quotes. -/
  | quoted
  /-- In single quotes. -/
  | literal
  /-- After the end, where only a comment may follow. -/
  | done
  deriving DecidableEq, Repr

def escaped? (c : Char) : Option Char :=
  if c = '\\' ∨ c = '\'' ∨ c = '"' ∨ c = '$' ∨ c = ' ' then some c
  else if c = 'n' then some '\n'
  else none

/-- Whether a character can stand in the name of a variable after a dollar sign. -/
def isNameChar (c : Char) : Bool := Unicode.alphanumericChars.contains c

/-- The value that a text stands for, from a state on, given the values of variables. -/
def readFrom (lookup : Text → Text) (state : ValueState) (t : Text) : Option Text :=
  match t with
  | [] => if state = .quoted ∨ state = .literal then none else some []
  | c :: t =>
    match state with
    | .done =>
      if c = ' ' ∨ c = '\t' then readFrom lookup .done t
      else if c = '#' then some []
      else none
    | .literal =>
      if c = '\'' then readFrom lookup .plain t else (readFrom lookup .literal t).map (c :: ·)
    | .plain | .quoted =>
      if c = '$' then
        if t.head? = some '\x7b' then
          match Text.cutAt? '\x7d' (t.drop 1) with
          | none => none
          | some (name, _) =>
            (readFrom lookup state (t.drop (name.length + 2))).map (lookup name ++ ·)
        else
          let name := t.takeWhile isNameChar
          match _h : t.drop name.length with
          | [] => (readFrom lookup state []).map (lookup name ++ ·)
          | d :: u =>
            if d = '$' then (readFrom lookup state (d :: u)).map (lookup name ++ ·)
            else (readFrom lookup state u).map fun value => lookup name ++ d :: value
      else if c = '\\' then
        match t with
        | [] => readFrom lookup state []
        | d :: t =>
          match escaped? d with
          | some d => (readFrom lookup state t).map (d :: ·)
          | none => none
      else if state = .quoted then
        if c = '"' then readFrom lookup .plain t else (readFrom lookup .quoted t).map (c :: ·)
      else if c = '\'' then readFrom lookup .literal t
      else if c = '"' then readFrom lookup .quoted t
      else if c = ' ' ∨ c = '\t' then readFrom lookup .done t
      else (readFrom lookup .plain t).map (c :: ·)
termination_by t.length
decreasing_by
  all_goals simp only [List.length_drop, List.length_cons, List.length_nil]
  all_goals try omega
  all_goals
    have := congrArg List.length _h
    simp only [List.length_drop, List.length_cons] at this
    omega

/-- The value that a text stands for, given the values of variables. -/
def readValue? (lookup : Text → Text) (t : Text) : Option Text := readFrom lookup .plain t

def isNameStart (c : Char) : Bool := c.isAlpha || c == '_'

def isNamePart (c : Char) : Bool := c.isAlphanum || c == '_' || c == '.'

def takeName? (t : Text) : Option (Text × Text) :=
  match t with
  | c :: _ =>
    if isNameStart c then some (t.takeWhile isNamePart, Text.trimStart (t.dropWhile isNamePart))
    else none
  | [] => none

/-- Takes a name and an equals sign from the start of a text. -/
def takeAssignment? (t : Text) : Option (Text × Text) :=
  match takeName? t with
  | some (name, '=' :: t) => some (name, Text.trimStart t)
  | _ => none

/-- The name of the variable that a line sets and its written value. The word `export` may stand in
front, and may be a name itself. -/
def readAssignment? (line : Text) : Option (Text × Text) :=
  match takeAssignment? line, takeName? line with
  | some assignment, _ => some assignment
  | none, some (name, t) => if name = "export".toList then takeAssignment? t else none
  | none, none => none

/-- What a line says. -/
inductive Line
  | blank
  | assignment (name value : Text)
  | unreadable
  deriving DecidableEq, Repr

/-- Whether there is nothing, or only a comment. -/
def isVoid (t : Text) : Bool := t.isEmpty || t.head? = some '#'

/-- Reads a line, given the values of variables. -/
def readLine (lookup : Text → Text) (line : Text) : Line :=
  let line := Text.trim line
  if isVoid line then .blank
  else match readAssignment? line with
    | none => .unreadable
    | some (name, t) =>
      if isVoid t then .assignment name []
      else match readValue? lookup t with
        | some value => .assignment name value
        | none => .unreadable

/-- The variables after reading lines. Values that lines gave to variables that were set already
serve in later lines all the same, where no other value is known. -/
def readLines (written : Variables) : List Text → Variables → Variables
  | [], vars => vars
  | line :: lines, vars =>
    let lookup := fun name => ((vars.get? name).or (written.get? name)).getD []
    match readLine lookup line with
    | .blank => readLines written lines vars
    | .unreadable => vars
    | .assignment name value =>
      readLines (written.insert name value) lines
        (if vars.contains name then vars else vars.insert name value)

/-- The rows of bytes between line feeds. -/
def rowsOf : List UInt8 → List (List UInt8)
  | [] => [[]]
  | b :: bytes =>
    if b = 10 then [] :: rowsOf bytes
    else match rowsOf bytes with
      | [] => [[b]]
      | row :: rows => (b :: row) :: rows

/-- The variables after reading a file. A row that is no text ends the reading. -/
def readVariables (bytes : ByteArray) (vars : Variables) : Variables :=
  let rows := (rowsOf bytes.toList).map fun row => Files.decode? ⟨row.toArray⟩
  readLines Table.empty ((rows.takeWhile Option.isSome).filterMap id) vars

end Lector.Command
