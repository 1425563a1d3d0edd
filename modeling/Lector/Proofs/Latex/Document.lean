import Lector.Proofs.Latex.Spelling

/-!
# Documents

A document is a tree of what a LaTeX text is made of. It can be written, and it can be spoken, each
by a walk over the tree. What macros say is laid down here once more, by macro and not by name, so
that the reading of a text can be held against it.

## Main definitions

* `Unary`, `Binary`: the macros that take one or two arguments, and what they make of them
* `words`, `escapes`: the macros that stand for a text of their own
* `Item`, `Document`: documents
* `Item.source`, `Document.source`: a document as it is written
* `Item.spoken`, `Document.spoken`: a document as it is spoken
-/

namespace Lector.Latex

/-- The macros that take one argument. -/
inductive Unary
  | chapter | heading | subheading | minorHeading | paragraph | caption | epigraph | reference
  | picture | citation | footnote | label | environmentStart | environmentEnd
  deriving DecidableEq, Repr

namespace Unary

/-- The name of a macro that takes one argument. -/
def name : Unary → String
  | chapter => "chapter"
  | heading => "section"
  | subheading => "subsection"
  | minorHeading => "subsubsection"
  | paragraph => "paragraph"
  | caption => "caption"
  | epigraph => "epigraph"
  | reference => "autoref"
  | picture => "includegraphics"
  | citation => "cite"
  | footnote => "footnote"
  | label => "label"
  | environmentStart => "begin"
  | environmentEnd => "end"

/-- What a macro makes of its argument. Some macros go with their arguments. -/
def spoken (argument : Text) : Unary → Text
  | chapter => "\n\nChapter: ".toList ++ argument ++ "\n".toList
  | heading => "\nSection: ".toList ++ argument ++ "\n".toList
  | subheading | minorHeading => "\n".toList ++ argument ++ ":\n".toList
  | paragraph => "\n".toList ++ argument ++ ":".toList
  | caption => "\nCaption: ".toList ++ argument ++ "\n".toList
  | epigraph => "\nQuote: ".toList ++ argument ++ "\n".toList
  | reference => "see reference: ".toList
  | picture | citation | footnote | label | environmentStart | environmentEnd => []

/-- All macros that take one argument. -/
def all : List Unary := [
  chapter, heading, subheading, minorHeading, paragraph, caption, epigraph, reference,
  picture, citation, footnote, label, environmentStart, environmentEnd]

end Unary

/-- The macros that take two arguments. -/
inductive Binary
  | quantity | range
  deriving DecidableEq, Repr

namespace Binary

/-- The name of a macro that takes two arguments. -/
def name : Binary → String
  | quantity => "SI"
  | range => "SIrange"

/-- What a macro makes of its arguments. -/
def spoken (first second : Text) : Binary → Text
  | quantity => first ++ " ".toList ++ second
  | range => "from ".toList ++ first ++ " to ".toList ++ second ++ " ".toList

/-- All macros that take two arguments. -/
def all : List Binary := [quantity, range]

end Binary

/-- The macros named by a word that stand for a text of their own. -/
def words : List (String × String) :=
  (["alpha", "beta", "gamma", "delta", "epsilon", "zeta", "eta", "theta", "iota", "kappa", "lambda",
    "mu", "nu", "xi", "omicron", "pi", "rho", "sigma", "tau", "upsilon", "phi", "chi", "psi",
    "omega"].map fun letter => (letter, letter)) ++
  [("percent", "percent"), ("prime", "prime"), ("degree", "degree"), ("dots", "..."),
    ("ldots", "...")]

/-- The macros named by another character, which stand for a text of their own. -/
def escapes : List (Char × String) := [
  ('%', "percent"), ('&', "&"), ('$', "$"), ('_', "_"), ('#', "#"), ('\x7b', "\x7b"),
  ('\x7d', "\x7d"), ('\\', "\n"), (' ', " "), (',', " "), (';', " ")]

/-- The names of all macros with a reading that are named by words. -/
def knownNames : List Text :=
  (Unary.all.map Unary.name ++ Binary.all.map Binary.name ++ words.map Prod.fst).map String.toList

/-- A text is a name of letters. -/
def IsName (name : Text) : Prop := name ≠ [] ∧ name.all Char.isAlpha = true

instance (name : Text) : Decidable (IsName name) :=
  inferInstanceAs (Decidable (name ≠ [] ∧ name.all Char.isAlpha = true))

/-- A name of letters that no macro with a reading bears. -/
structure OtherName where
  name : Text
  isName : IsName name
  not_known : name ∉ knownNames

/-- What documents are made of. -/
inductive Item
  /-- A character that stands for itself. -/
  | char (c : {c : Char // c ∉ specials})
  | tie
  | math
  /-- A comment up to the end of its line. -/
  | comment (text : {t : Text // '\n' ∉ t})
  | group (items : List Item)
  /-- A macro named by a character that is no letter. -/
  | escape (e : {e : Char × String // e ∈ escapes})
  /-- A macro named by a word, closed by an empty group. -/
  | word (w : {w : String × String // w ∈ words})
  /-- A macro with one argument, perhaps with a star and an option. -/
  | unary (m : Unary) (starred : Bool) (option : Option (List Item)) (argument : List Item)
  /-- A macro with two arguments, perhaps with a star and an option. -/
  | binary (m : Binary) (starred : Bool) (option : Option (List Item)) (first second : List Item)
  /-- A macro without a reading, perhaps with a star, in front of a group. -/
  | other (n : OtherName) (starred : Bool) (items : List Item)

/-- A text in braces. -/
def braced (t : Text) : Text := '\x7b' :: t ++ ['\x7d']

/-- A text in brackets. -/
def bracketed (t : Text) : Text := '[' :: t ++ [']']

/-- A macro as it is written, up to its arguments. -/
def macroSource (name : Text) (starred : Bool) : Text := (Token.word name starred).source

mutual

/-- An item as it is written. -/
def Item.source : Item → Text
  | .char c => [c.1]
  | .tie => ['~']
  | .math => ['$']
  | .comment t => '%' :: t.1 ++ ['\n']
  | .group items => braced (sourceAll items)
  | .escape e => ['\\', e.1.1]
  | .word w => macroSource w.1.1.toList false ++ braced []
  | .unary m starred option argument =>
    macroSource m.name.toList starred ++ optionSource option ++ braced (sourceAll argument)
  | .binary m starred option first second =>
    macroSource m.name.toList starred ++ optionSource option ++ braced (sourceAll first) ++
      braced (sourceAll second)
  | .other n starred items => macroSource n.name starred ++ braced (sourceAll items)

/-- Items as they are written, one after another. -/
def sourceAll : List Item → Text
  | [] => []
  | i :: is => i.source ++ sourceAll is

/-- An option as it is written, if there is one. -/
def optionSource : Option (List Item) → Text
  | none => []
  | some is => bracketed (sourceAll is)

end

mutual

/-- An item as it is spoken. -/
def Item.spoken : Item → Text
  | .char c => [c.1]
  | .tie => [' ']
  | .math => []
  | .comment _ => []
  | .group items => spokenAll items
  | .escape e => e.1.2.toList
  | .word w => w.1.2.toList
  | .unary m _ _ argument => m.spoken (spokenAll argument)
  | .binary m _ _ first second => m.spoken (spokenAll first) (spokenAll second)
  | .other _ _ items => spokenAll items

/-- Items as they are spoken, one after another. -/
def spokenAll : List Item → Text
  | [] => []
  | i :: is => i.spoken ++ spokenAll is

end

/-- Whether an item is a closing bracket that stands for itself. -/
def Item.isBracket : Item → Bool
  | .char c => c.1 = ']'
  | _ => false

mutual

/-- No option within an item holds a closing bracket outside all braces. -/
def Item.delimited : Item → Bool
  | .group items => delimitedAll items
  | .unary _ _ option argument => optionDelimited option && delimitedAll argument
  | .binary _ _ option first second =>
    optionDelimited option && delimitedAll first && delimitedAll second
  | .other _ _ items => delimitedAll items
  | _ => true

/-- No option within items holds a closing bracket outside all braces. -/
def delimitedAll : List Item → Bool
  | [] => true
  | i :: is => i.delimited && delimitedAll is

/-- An option holds no closing bracket outside all braces, nor does one within it. -/
def optionDelimited : Option (List Item) → Bool
  | none => true
  | some is => is.all (fun i => !i.isBracket) && delimitedAll is

end

/-- A document: items whose options end where they are closed. -/
structure Document where
  items : List Item
  delimited : delimitedAll items = true

/-- A document as it is written. -/
def Document.source (d : Document) : Text := sourceAll d.items

/-- A document as it is spoken. -/
def Document.spoken (d : Document) : Text := spokenAll d.items

/-- The texts around the place of the argument. -/
def Unary.pieces : Unary → List String
  | chapter => ["\n\nChapter: ", "\n"]
  | heading => ["\nSection: ", "\n"]
  | subheading | minorHeading => ["\n", ":\n"]
  | paragraph => ["\n", ":"]
  | caption => ["\nCaption: ", "\n"]
  | epigraph => ["\nQuote: ", "\n"]
  | reference => ["see reference: "]
  | picture | citation | footnote | label | environmentStart | environmentEnd => []

/-- The texts around the places of the arguments. -/
def Binary.pieces : Binary → List String
  | quantity => ["", " ", ""]
  | range => ["from ", " to ", " "]

theorem length_braced (t : Text) : (braced t).length = 1 + (t.length + 1) := by
  simp [braced, Nat.add_comm]

theorem length_bracketed (t : Text) : (bracketed t).length = 1 + (t.length + 1) := by
  simp [bracketed, Nat.add_comm]

theorem braced_append (t rest : Text) :
    braced t ++ rest = Token.opening.source ++ (t ++ (Token.closing.source ++ rest)) := by
  simp [braced, Token.source]

theorem bracketed_append (t rest : Text) :
    bracketed t ++ rest = (Token.char '[').source ++ (t ++ ((Token.char ']').source ++ rest)) := by
  simp [bracketed, Token.source]

theorem Unary.reading?_name (m : Unary) :
    reading? m.name.toList = some (phrase 1 m.pieces) := by
  cases m <;> decide

theorem Binary.reading?_name (m : Binary) :
    reading? m.name.toList = some (phrase 2 m.pieces) := by
  cases m <;> decide

theorem Unary.fill_pieces (m : Unary) (t : Text) :
    fill (m.pieces.map String.toList) [t] = m.spoken t := by
  unfold pieces spoken
  cases m <;> simp only [List.map_cons, List.map_nil, fill]

theorem Binary.fill_pieces (m : Binary) (t u : Text) :
    fill (m.pieces.map String.toList) [t, u] = m.spoken t u := by
  unfold pieces spoken
  cases m with
  | quantity => simp [fill]
  | range => simp only [List.map_cons, List.map_nil, fill, List.append_assoc]

theorem Unary.isName (m : Unary) : IsName m.name.toList := by
  cases m <;> decide

theorem Binary.isName (m : Binary) : IsName m.name.toList := by
  cases m <;> decide

theorem reading?_word : ∀ w ∈ words, reading? w.1.toList = some (.text w.2.toList) := by
  decide

theorem isName_word : ∀ w ∈ words, IsName w.1.toList := by
  decide

theorem reading?_escape : ∀ e ∈ escapes, reading? [e.1] = some (.text e.2.toList) := by
  decide

theorem isAlpha_escape : ∀ e ∈ escapes, e.1.isAlpha = false := by
  decide

/-- Every macro with a reading bears a known name or one that is no word. -/
theorem known_of_reading :
    (∀ r ∈ readings, r.1.toList ∈ knownNames ∨ ¬ IsName r.1.toList) ∧
      ∀ g ∈ greekLetters, g.toList ∈ knownNames := by
  decide

theorem OtherName.reading?_name (n : OtherName) : reading? n.name = none := by
  have hr : readings.find? (fun r => r.1.toList == n.name) = none := by
    rw [List.find?_eq_none]
    intro r hr he
    have he : r.1.toList = n.name := by simpa using he
    rcases known_of_reading.1 r hr with hk | hl
    · exact n.not_known (he ▸ hk)
    · exact hl (he ▸ n.isName)
  have hg : greekLetters.any (fun g => g.toList == n.name) = false := by
    rw [List.any_eq_false]
    intro g hg he
    have he : g.toList = n.name := by simpa using he
    exact n.not_known (he ▸ known_of_reading.2 g hg)
  simp [reading?, hr, hg]

end Lector.Latex
