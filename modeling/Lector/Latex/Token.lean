import Lector.Text.Basic

/-!
# Tokens of LaTeX

A LaTeX text is a sequence of tokens: characters, braces, comments, macros and two signs with a
meaning of their own. Which token comes next depends on nothing but the text.

## Main definitions

* `Token` - the tokens.
* `Token.source` - a token as it is written.
* `tokens` - the tokens of a text.
-/

namespace Lector.Latex

/-- A token of LaTeX. -/
inductive Token
  | char (c : Char)
  /-- A space that does not break, `~`. -/
  | tie
  /-- The sign around formulas, `$`. -/
  | math
  | opening
  | closing
  /-- A comment behind `%`, up to the end of its line. -/
  | comment (text : Text) (ended : Bool)
  /-- A macro with a name of letters, perhaps with a star. -/
  | word (name : Text) (starred : Bool)
  /-- A macro named by another character. -/
  | symbol (c : Char)
  /-- A backslash at the end of the text. -/
  | lone
  deriving DecidableEq, Repr

/-- A token as it is written. -/
def Token.source : Token → Text
  | char c => [c]
  | tie => ['~']
  | math => ['$']
  | opening => ['\x7b']
  | closing => ['\x7d']
  | comment t ended => '%' :: t ++ if ended then ['\n'] else []
  | word name starred => '\\' :: name ++ if starred then ['*'] else []
  | symbol c => ['\\', c]
  | lone => ['\\']

def firstToken (c : Char) (t : Text) : Token :=
  if c = '~' then .tie
  else if c = '$' then .math
  else if c = '\x7b' then .opening
  else if c = '\x7d' then .closing
  else if c = '%' then
    .comment (t.takeWhile (· ≠ '\n')) ((t.dropWhile (· ≠ '\n')).head? == some '\n')
  else if c = '\\' then
    match t with
    | [] => .lone
    | d :: _ =>
      if d.isAlpha then
        .word (t.takeWhile Char.isAlpha) ((t.dropWhile Char.isAlpha).head? == some '*')
      else .symbol d
  else .char c

theorem firstToken_source_length_pos (c : Char) (t : Text) :
    0 < (firstToken c t).source.length := by
  unfold firstToken
  repeat' split
  all_goals simp [Token.source]

def tokens : Text → List Token
  | [] => []
  | c :: t => firstToken c t :: tokens ((c :: t).drop (firstToken c t).source.length)
termination_by t => t.length
decreasing_by
  have := firstToken_source_length_pos c t
  simp only [List.length_drop, List.length_cons]
  omega

@[simp] theorem tokens_nil : tokens [] = [] := by
  simp [tokens]

theorem tokens_cons (c : Char) (t : Text) :
    tokens (c :: t) =
      firstToken c t :: tokens ((c :: t).drop (firstToken c t).source.length) := by
  rw [tokens]

end Lector.Latex
