import Lector.Text.Basic

/-!
# The macros that are spoken

What becomes of a macro when a text is read aloud: some stand for a word, some set their arguments
into a phrase, and some go with their arguments. All other macros go, and leave what follows them.

## Main definitions

* `Phrase` - a phrase with places for arguments.
* `Reading` - what becomes of a macro.
* `reading?` - the macros with a reading of their own.
-/

namespace Lector.Latex

/-- A phrase with places for arguments. -/
structure Phrase where
  /-- The pieces of text around the places. -/
  pieces : List Text
  arguments : Nat
  deriving DecidableEq, Repr

/-- Sets arguments into the places between pieces of text. A place without an argument stays
empty. -/
def fill : List Text → List Text → Text
  | [], _ => []
  | [piece], _ => piece
  | piece :: next :: pieces, [] => piece ++ fill (next :: pieces) []
  | piece :: next :: pieces, v :: vs => piece ++ v ++ fill (next :: pieces) vs

/-- What becomes of a macro. -/
inductive Reading
  | text (t : Text)
  | phrase (p : Phrase)
  deriving DecidableEq, Repr

def phrase (arguments : Nat) (pieces : List String) : Reading :=
  .phrase ⟨pieces.map String.toList, arguments⟩

def greekLetters : List String := [
  "alpha", "beta", "gamma", "delta", "epsilon", "zeta", "eta", "theta", "iota", "kappa", "lambda",
  "mu", "nu", "xi", "omicron", "pi", "rho", "sigma", "tau", "upsilon", "phi", "chi", "psi", "omega"]

def readings : List (String × Reading) := [
  ("includegraphics", phrase 1 []), ("cite", phrase 1 []), ("footnote", phrase 1 []),
  ("label", phrase 1 []), ("begin", phrase 1 []), ("end", phrase 1 []),
  ("chapter", phrase 1 ["\n\nChapter: ", "\n"]),
  ("section", phrase 1 ["\nSection: ", "\n"]),
  ("subsection", phrase 1 ["\n", ":\n"]),
  ("subsubsection", phrase 1 ["\n", ":\n"]),
  ("paragraph", phrase 1 ["\n", ":"]),
  ("caption", phrase 1 ["\nCaption: ", "\n"]),
  ("epigraph", phrase 1 ["\nQuote: ", "\n"]),
  ("autoref", phrase 1 ["see reference: "]),
  ("SI", phrase 2 ["", " ", ""]),
  ("SIrange", phrase 2 ["from ", " to ", " "]),
  ("%", .text "percent".toList), ("percent", .text "percent".toList),
  ("prime", .text "prime".toList), ("degree", .text "degree".toList),
  ("ldots", .text "...".toList), ("dots", .text "...".toList),
  ("&", .text ['&']), ("$", .text ['$']), ("_", .text ['_']), ("#", .text ['#']),
  ("\x7b", .text ['\x7b']), ("\x7d", .text ['\x7d']), ("\\", .text ['\n']),
  (" ", .text [' ']), (",", .text [' ']), (";", .text [' '])]

/-- The reading of the macro with a name, if it has one of its own. -/
def reading? (name : Text) : Option Reading :=
  match readings.find? fun r => r.1.toList == name with
  | some (_, r) => some r
  | none => if greekLetters.any fun g => g.toList == name then some (.text name) else none

end Lector.Latex
