import Lector.Pattern.Look

/-!
# Pattern trees

The extended dialect adds to the plain one conditions on what stands before or after, references to
groups, atomic groups and conditional patterns. A pattern of this dialect is read into a tree; the
parts of the tree that need none of the additions are *easy*, and are left to the plain dialect.

## Main definitions

* `Tree` - patterns of the extended dialect.
* `Tree.isHard` - whether a tree needs one of the additions.
* `Tree.least`, `Tree.fixed` - how many characters a match takes at least, and whether it is always
  so many.
* `Tree.plain` - an easy tree written in the plain dialect.
-/

namespace Lector.Pattern.Extended

/-- A pattern of the extended dialect. -/
inductive Tree
  | empty
  /-- Matches any character, a line feed only if `newline`. -/
  | any (newline : Bool)
  | literal (c : Char) (anyCase : Bool)
  | look (look : Look)
  /-- Matches a character of a class, written in the plain dialect. -/
  | set (source : Text) (anyCase : Bool)
  | seq (items : List Tree)
  | alt (items : List Tree)
  | group (index : Nat) (body : Tree)
  /-- Matches the empty text where the body matches what follows (or ends here, if not `ahead`),
  or where it does not (if `negated`). -/
  | around (ahead negated : Bool) (body : Tree)
  | repeated (least : Nat) (most : Option Nat) (greedy : Bool) (body : Tree)
  | sameAs (group : Nat)
  /-- Matches what the body matches first, and nothing else in its place. -/
  | atomic (body : Tree)
  /-- Makes the match start here. -/
  | keepOut
  | searchStart
  | ifGroup (group : Nat)
  /-- Matches the second pattern behind the first if the first matches, or else the third. -/
  | conditional (condition yes no : Tree)
  deriving Inhabited

namespace Tree

def isEmpty : Tree → Bool
  | empty => true
  | _ => false

def isRepeatable : Tree → Bool
  | empty | look _ | around _ _ _ => false
  | _ => true

/-- Whether a condition on the position is beyond the easy ones. -/
def isHardLook : Look → Bool
  | .word _ _ => true
  | _ => false

mutual

/-- Whether the tree needs what the plain dialect lacks, where the groups in `referred` are
referred to. -/
def isHard (referred : List Nat) : Tree → Bool
  | empty | any _ | literal _ _ | set _ _ => false
  | look l => isHardLook l
  | seq items | alt items => anyHard referred items
  | group index body => referred.contains index || isHard referred body
  | repeated _ _ _ body => isHard referred body
  | around _ _ _ | sameAs _ | atomic _ | keepOut | searchStart | ifGroup _
  | conditional _ _ _ => true

def anyHard (referred : List Nat) : List Tree → Bool
  | [] => false
  | t :: ts => isHard referred t || anyHard referred ts

end

mutual

/-- A number of characters that every match takes. -/
def least : Tree → Nat
  | empty | look _ | around _ _ _ | sameAs _ | keepOut | searchStart | ifGroup _ => 0
  | any _ | literal _ _ | set _ _ => 1
  | seq items => leastSum items
  | alt [] => 0
  | alt (t :: ts) => leastOf (least t) ts
  | group _ body | atomic body => least body
  | repeated n _ _ body => n * least body
  | conditional condition yes no => least condition + min (least yes) (least no)

def leastSum : List Tree → Nat
  | [] => 0
  | t :: ts => least t + leastSum ts

def leastOf (n : Nat) : List Tree → Nat
  | [] => n
  | t :: ts => leastOf (min n (least t)) ts

end

mutual

/-- Whether all matches are known to take the same number of characters. -/
def fixed : Tree → Bool
  | empty | any _ | literal _ _ | look _ | set _ _ | around _ _ _ | keepOut | searchStart
  | ifGroup _ => true
  | sameAs _ => false
  | seq items => allFixed items
  | alt [] => false
  | alt (t :: ts) => fixed t && allFixedAt (least t) ts
  | group _ body | atomic body => fixed body
  | repeated n most _ body => fixed body && most == some n
  | conditional condition yes no =>
    fixed condition && fixed yes && fixed no && least condition + least yes == least no

def allFixed : List Tree → Bool
  | [] => true
  | t :: ts => fixed t && allFixed ts

def allFixedAt (n : Nat) : List Tree → Bool
  | [] => true
  | t :: ts => fixed t && least t == n && allFixedAt n ts

end

mutual

/-- The indices of the groups in a tree, from left to right. -/
def groups : Tree → List Nat
  | group index body => index :: groups body
  | seq items | alt items => groupsOf items
  | around _ _ body | repeated _ _ _ body | atomic body => groups body
  | conditional condition yes no => groups condition ++ groups yes ++ groups no
  | _ => []

def groupsOf : List Tree → List Nat
  | [] => []
  | t :: ts => groups t ++ groupsOf ts

end

mutual

/-- The only text that a tree matches, if it is made of plain characters. -/
def literal? : Tree → Option Text
  | literal c false => some [c]
  | seq items => literals? items
  | _ => none

def literals? : List Tree → Option Text
  | [] => some []
  | t :: ts => do return (← literal? t) ++ (← literals? ts)

end

/-- The marks that a plain pattern gives a meaning of their own outside brackets. -/
def marks : List Char := "\\.+*?()|[]\x7b\x7d^$#".toList

/-- A character as it is written in a plain pattern. -/
def quote (c : Char) : Text := if marks.contains c then ['\\', c] else [c]

/-- A text set in a group that keeps no place, if it needs one. -/
def inGroup (needed : Bool) (t : Text) : Text :=
  if needed then "(?:".toList ++ t ++ [')'] else t

def inAnyCase (anyCase : Bool) (t : Text) : Text :=
  if anyCase then "(?i:".toList ++ t ++ [')'] else t

/-- The bounds of a repetition as they are written behind its body. -/
def writeBounds : Nat → Option Nat → Text
  | 0, some 1 => ['?']
  | 0, none => ['*']
  | 1, none => ['+']
  | least, most =>
    let upper := match most with
      | some n => if n = least then [] else ',' :: (toString n).toList
      | none => [',']
    '\x7b' :: (toString least).toList ++ upper ++ ['\x7d']

/-- A condition on the position as it is written in the plain dialect. -/
def writeLook : Look → Text
  | .textStart => ['^']
  | .textEnd => ['$']
  | .lineStart _ => "(?m:^)".toList
  | .lineEnd _ => "(?m:$)".toList
  | .word _ _ => "\\b".toList

mutual

/-- An easy tree written in the plain dialect, at a place that binds as tight as `level` tells. -/
def plain (level : Nat) : Tree → Text
  | any newline => if newline then "(?s:.)".toList else ['.']
  | literal c anyCase => inAnyCase anyCase (quote c)
  | look l => writeLook l
  | set source anyCase => inAnyCase anyCase source
  | seq items => inGroup (1 < level) (plainSeq items)
  | alt items => inGroup (0 < level) (plainAlt items)
  | group _ body => '(' :: plain 0 body ++ [')']
  | repeated least most greedy body =>
    inGroup (2 < level) (plain 3 body ++ writeBounds least most ++ if greedy then [] else ['?'])
  | _ => []

def plainSeq : List Tree → Text
  | [] => []
  | t :: ts => plain 2 t ++ plainSeq ts

def plainAlt : List Tree → Text
  | [] => []
  | [t] => plain 1 t
  | t :: u :: ts => plain 1 t ++ '|' :: plainAlt (u :: ts)

end

end Tree

end Lector.Pattern.Extended
