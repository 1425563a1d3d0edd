import Lector.Error
import Lector.Latex.Macro
import Lector.Latex.Token

/-!
# LaTeX as spoken text

A LaTeX text is converted token by token. What encloses the place reached is kept on a stack: groups
in braces, options in brackets and arguments of macros. A macro that takes arguments waits for them:
white space in front of an argument is skipped, and when no argument comes the white space stands
again and the places that are left stay empty.

## Main definitions

* `Waiting` - a macro that waits for an argument.
* `Open` - what encloses a place.
* `State`, `State.step` - the conversion of one token.
* `Fault` - how braces and brackets can be out of balance.
* `toText` - the spoken text of a LaTeX text.
-/

namespace Lector.Latex

/-- A macro that waits for an option or an argument. -/
structure Waiting where
  phrase : Phrase
  /-- The arguments so far, the last first. -/
  arguments : List Text := []
  /-- Whether an option may come. -/
  fresh : Bool := true
  /-- The white space skipped in front of the next argument, the last first. -/
  blanks : Text := []

/-- What encloses a place, with the text in front of it. Texts are kept from their ends on. -/
inductive Open
  | group (before : Text)
  /-- An option in brackets of a macro that waits for its arguments. -/
  | option (before : Text) (phrase : Phrase)
  /-- An argument in braces of a macro that waits for it. -/
  | argument (before : Text) (macroWaiting : Waiting)

/-- How braces and brackets can be out of balance. -/
inductive Imbalance
  | missing (mark : Char)
  | unbalanced
  deriving DecidableEq, Repr

/-- How a conversion fails, and the number of characters read until then. -/
structure Fault where
  imbalance : Imbalance
  /-- The number of characters read. -/
  position : Nat
  deriving DecidableEq, Repr

def Fault.message (f : Fault) : Text :=
  (match f.imbalance with
    | .missing mark => "missing '".toList ++ [mark, '\'']
    | .unbalanced => "unbalanced '\x7d'".toList) ++
  " (at character ".toList ++ Text.ofNat f.position ++ [')']

/-- Where a conversion stands. -/
structure State where
  /-- The text of the innermost enclosure so far, from its end on. -/
  done : Text := []
  /-- What encloses the place, from the innermost on. -/
  opens : List Open := []
  waiting : Option Waiting := none
  position : Nat := 0

/-- The text of a macro with the arguments it has got, from its end on. -/
def Waiting.spoken (w : Waiting) : Text := (fill w.phrase.pieces w.arguments.reverse).reverse

/-- Whether a character alone may be an argument: a letter or a number. ASCII characters are told
apart without the table. -/
def isArgument (c : Char) : Bool :=
  if c.toNat < 0x80 then c.isAlphanum else Unicode.alphanumericChars.contains c

namespace State

def say (s : State) (t : Text) : State := { s with done := t.reverse ++ s.done }

/-- Gives up waiting: the macro is spoken with the arguments it has got, and the white space skipped
stands again. -/
def settle (s : State) : State :=
  match s.waiting with
  | none => s
  | some w => { s with done := w.blanks ++ (w.spoken ++ s.done), waiting := none }

/-- Gives a macro an argument; it is spoken when it has got all. -/
def supply (s : State) (w : Waiting) (argument : Text) : State :=
  let w := { w with arguments := argument :: w.arguments, fresh := false, blanks := [] }
  if w.arguments.length < w.phrase.arguments then { s with waiting := some w }
  else { s with done := w.spoken ++ s.done, waiting := none }

/-- Meets a macro. -/
def meet (s : State) (name : Text) : State :=
  match reading? name with
  | some (.text t) => s.say t
  | some (.phrase p) => { s with waiting := some { phrase := p } }
  | none => s

/-- Opens an enclosure. -/
def enclose (s : State) (o : Open) : State :=
  { s with done := [], opens := o :: s.opens, waiting := none }

/-- Meets a closing brace. -/
def close (s : State) : Except Fault State :=
  match s.opens with
  | .group before :: opens => .ok { s with done := s.done ++ before, opens := opens }
  | .argument before w :: opens =>
    .ok ({ s with done := before, opens := opens }.supply w s.done.reverse)
  | _ => .error ⟨.unbalanced, s.position⟩

/-- Meets a character. -/
def hear (s : State) (c : Char) : State :=
  match c, s.opens with
  | ']', .option before p :: opens =>
    { s with done := before, opens := opens, waiting := some { phrase := p, fresh := false } }
  | _, _ => s.say [c]

def stepFree (s : State) : Token → Except Fault State
  | .char c => .ok (s.hear c)
  | .tie => .ok (s.say [' '])
  | .math | .comment _ _ | .lone => .ok s
  | .opening => .ok (s.enclose (.group s.done))
  | .closing => s.close
  | .word name _ => .ok (s.meet name)
  | .symbol c => .ok (s.meet [c])

def stepWaiting (s : State) (w : Waiting) (t : Token) : Except Fault State :=
  match t with
  | .opening => .ok (s.enclose (.argument s.done w))
  | .char c =>
    if w.fresh && c = '[' then .ok (s.enclose (.option s.done w.phrase))
    else if isBlank c then
      .ok { s with waiting := some { w with fresh := false, blanks := c :: w.blanks } }
    else if isArgument c then .ok (s.supply w [c])
    else s.settle.stepFree t
  | _ => s.settle.stepFree t

def step (s : State) (t : Token) : Except Fault State :=
  let s := { s with position := s.position + t.source.length }
  match s.waiting with
  | none => s.stepFree t
  | some w => s.stepWaiting w t

/-- The text at the end, if all is closed. -/
def finish (s : State) : Except Fault Text :=
  match s.opens with
  | [] => .ok s.settle.done.reverse
  | .option _ _ :: _ => .error ⟨.missing ']', s.position⟩
  | _ => .error ⟨.missing '\x7d', s.position⟩

end State

def run (s : State) (ts : List Token) : Except Fault State := ts.foldlM State.step s

def convert (t : Text) : Except Fault Text := (run {} (tokens t)).bind State.finish

def directiveName : Text := "latex_to_text".toList

/-- The spoken text of a LaTeX text, as a directive. -/
def toText (t : Text) : Except Error Text :=
  (convert t).mapError fun fault => .transform directiveName fault.message

@[simp] theorem run_nil (s : State) : run s [] = .ok s := rfl

theorem run_cons (s : State) (t : Token) (ts : List Token) :
    run s (t :: ts) = (s.step t).bind fun s => run s ts := rfl

theorem run_append (s : State) (ts us : List Token) :
    run s (ts ++ us) = (run s ts).bind fun s => run s us := by
  simp only [run, List.foldlM_append]
  rfl

end Lector.Latex
