import Lector.Text.CharSet

/-!
# Simple case folding

Two characters are the same up to case when simple case folding takes them to one character. The
classes with more than one member are listed in one table; `caseVariants` gives the class of a
character and `CharSet.foldCase` closes a set under it.

## Main definitions

* `caseClasses` - the classes with at least two members, in increasing order of their first.
* `caseVariants` - the characters equal to a given one up to case, itself included.
* `CharSet.foldCase` - the closure of a set under `caseVariants`.
-/

namespace Lector.Unicode

/-- The classes of `caseClasses`, parted by commas: the distance of a class's first member from the
first member of the class before it, then the distances of the other members from the first. -/
def caseClassTable : String :=
    "41 20, 1 20, 1 20, 1 20, 1 20, 1 20, 1 20, 1 20, 1 20, 1 20, 1 20 20df, 1 20, 1 20, 1 20, 1
     20, 1 20, 1 20, 1 20, 1 20 12c, 1 20, 1 20, 1 20, 1 20, 1 20, 1 20, 1 20, 5b 2e7 307, b 20,
     1 20, 1 20, 1 20, 1 20, 1 20 2066, 1 20, 1 20, 1 20, 1 20, 1 20, 1 20, 1 20, 1 20, 1 20, 1
     20, 1 20, 1 20, 1 20, 1 20, 1 20, 1 20, 1 20, 2 20, 1 20, 1 20, 1 20, 1 20, 1 20, 1 20, 1
     1dbf, 20 79, 1 1, 2 1, 2 1, 2 1, 2 1, 2 1, 2 1, 2 1, 2 1, 2 1, 2 1, 2 1, 2 1, 2 1, 2 1, 2
     1, 2 1, 2 1, 2 1, 2 1, 2 1, 2 1, 2 1, 2 1, 4 1, 2 1, 2 1, 3 1, 2 1, 2 1, 2 1, 2 1, 2 1, 2
     1, 2 1, 3 1, 2 1, 2 1, 2 1, 2 1, 2 1, 2 1, 2 1, 2 1, 2 1, 2 1, 2 1, 2 1, 2 1, 2 1, 2 1, 2
     1, 2 1, 2 1, 2 1, 2 1, 2 1, 2 1, 3 1, 2 1, 2 1, 3 c3, 1 d2, 1 1, 2 1, 2 ce, 1 1, 2 cd, 1
     cd, 1 1, 3 4f, 1 ca, 1 cb, 1 1, 2 cd, 1 cf, 1 61, 1 d3, 1 d1, 1 1, 2 a3, 1 a641, 1 d3, 1
     d5, 1 82, 1 d6, 1 1, 2 1, 2 1, 2 da, 1 1, 2 da, 3 1, 2 da, 1 1, 2 d9, 1 d9, 1 1, 2 1, 2 db,
     1 1, 4 1, 3 38, 5 1 2, 3 1 2, 3 1 2, 3 1, 2 1, 2 1, 2 1, 2 1, 2 1, 2 1, 2 1, 3 1, 2 1, 2 1,
     2 1, 2 1, 2 1, 2 1, 2 1, 2 1, 3 1 2, 3 1, 4 1, 2 1, 2 1, 2 1, 2 1, 2 1, 2 1, 2 1, 2 1, 2 1,
     2 1, 2 1, 2 1, 2 1, 2 1, 2 1, 2 1, 2 1, 2 1, 2 1, 4 1, 2 1, 2 1, 2 1, 2 1, 2 1, 2 1, 2 1, 2
     1, 8 2a2b, 1 1, 3 2a28, 1 2a3f, 1 2a3f, 1 1, 3 45, 1 47, 1 1, 2 1, 2 1, 2 1, 2 1, 2 2a1f, 1
     2a1c, 1 2a1e, a a54f, 5 a54b, 3 a567, 1 a528, 1 a544, 4 a544, 1 29f7, 1 a541, 5 29fd, c
     29e7, 5 a543, 5 a52a, 16 a515, 1 a512, a7 54 74 1c79, 2b 1, 2 1, 4 1, 5 82, 1 82, 1 82, 2
     74, 7 26, 2 25, 1 25, 1 25, 2 40, 2 3f, 1 3f, 1 1c43, 1 20, 1 20 3e, 1 20, 1 20, 1 20 60, 1
     20, 1 20, 1 20 39 5c, 2 20 56, 1 20, 2 20, 1 20, 1 20, 1 20 36, 1 20 50, 2 1f 20, 1 20, 1
     20, 1 20 2f, 1 20, 1 20, 1 20 1d7d, 1 20, 1 20, 5 1c33, 1f 8, 9 1, 2 1, 2 1, 2 1, 2 1, 2 1,
     2 1, 2 1, 2 1, 2 1, 2 1, 2 1, 4 7, 5 1, 3 1, 6 50, 1 50, 1 50, 1 50, 1 50, 1 50, 1 50, 1
     50, 1 50, 1 50, 1 50, 1 50, 1 50, 1 50, 1 50, 1 50, 1 20, 1 20, 1 20 186e, 1 20, 1 20 186d,
     1 20, 1 20, 1 20, 1 20, 1 20, 1 20, 1 20, 1 20, 1 20, 1 20 1864, 1 20, 1 20, 1 20 1862, 1
     20 1862 1863, 1 20, 1 20, 1 20, 1 20, 1 20, 1 20, 1 20, 1 20 185c, 1 20, 1 20, 1 20, 1 20,
     1 20, 31 1, 2 1 1825, 2 1, 2 1, 2 1, 2 1, 2 1, 2 1, 2 1, 2 1, 2 1, 2 1, 2 1, 2 1, 2 1, 2 1,
     2 1, a 1, 2 1, 2 1, 2 1, 2 1, 2 1, 2 1, 2 1, 2 1, 2 1, 2 1, 2 1, 2 1, 2 1, 2 1, 2 1, 2 1, 2
     1, 2 1, 2 1, 2 1, 2 1, 2 1, 2 1, 2 1, 2 1, 2 1, 2 f, 1 1, 2 1, 2 1, 2 1, 2 1, 2 1, 2 1, 3
     1, 2 1, 2 1, 2 1, 2 1, 2 1, 2 1, 2 1, 2 1, 2 1, 2 1, 2 1, 2 1, 2 1, 2 1, 2 1, 2 1, 2 1, 2
     1, 2 1, 2 1, 2 1, 2 1, 2 1, 2 1, 2 1, 2 1, 2 1, 2 1, 2 1, 2 1, 2 1, 2 1, 2 1, 2 1, 2 1, 2
     1, 2 1, 2 1, 2 1, 2 1, 2 1, 2 1, 2 1, 2 1, 2 1, 2 1, 2 1, 3 30, 1 30, 1 30, 1 30, 1 30, 1
     30, 1 30, 1 30, 1 30, 1 30, 1 30, 1 30, 1 30, 1 30, 1 30, 1 30, 1 30, 1 30, 1 30, 1 30, 1
     30, 1 30, 1 30, 1 30, 1 30, 1 30, 1 30, 1 30, 1 30, 1 30, 1 30, 1 30, 1 30, 1 30, 1 30, 1
     30, 1 30, 1 30, b4a 1c60, 1 1c60, 1 1c60, 1 1c60, 1 1c60, 1 1c60, 1 1c60, 1 1c60, 1 1c60, 1
     1c60, 1 1c60, 1 1c60, 1 1c60, 1 1c60, 1 1c60, 1 1c60, 1 1c60, 1 1c60, 1 1c60, 1 1c60, 1
     1c60, 1 1c60, 1 1c60, 1 1c60, 1 1c60, 1 1c60, 1 1c60, 1 1c60, 1 1c60, 1 1c60, 1 1c60, 1
     1c60, 1 1c60, 1 1c60, 1 1c60, 1 1c60, 1 1c60, 1 1c60, 2 1c60, 6 1c60, 3 bc0, 1 bc0, 1 bc0,
     1 bc0, 1 bc0, 1 bc0, 1 bc0, 1 bc0, 1 bc0, 1 bc0, 1 bc0, 1 bc0, 1 bc0, 1 bc0, 1 bc0, 1 bc0,
     1 bc0, 1 bc0, 1 bc0, 1 bc0, 1 bc0, 1 bc0, 1 bc0, 1 bc0, 1 bc0, 1 bc0, 1 bc0, 1 bc0, 1 bc0,
     1 bc0, 1 bc0, 1 bc0, 1 bc0, 1 bc0, 1 bc0, 1 bc0, 1 bc0, 1 bc0, 1 bc0, 1 bc0, 1 bc0, 1 bc0,
     1 bc0, 3 bc0, 1 bc0, 1 bc0, 2a1 97d0, 1 97d0, 1 97d0, 1 97d0, 1 97d0, 1 97d0, 1 97d0, 1
     97d0, 1 97d0, 1 97d0, 1 97d0, 1 97d0, 1 97d0, 1 97d0, 1 97d0, 1 97d0, 1 97d0, 1 97d0, 1
     97d0, 1 97d0, 1 97d0, 1 97d0, 1 97d0, 1 97d0, 1 97d0, 1 97d0, 1 97d0, 1 97d0, 1 97d0, 1
     97d0, 1 97d0, 1 97d0, 1 97d0, 1 97d0, 1 97d0, 1 97d0, 1 97d0, 1 97d0, 1 97d0, 1 97d0, 1
     97d0, 1 97d0, 1 97d0, 1 97d0, 1 97d0, 1 97d0, 1 97d0, 1 97d0, 1 97d0, 1 97d0, 1 97d0, 1
     97d0, 1 97d0, 1 97d0, 1 97d0, 1 97d0, 1 97d0, 1 97d0, 1 97d0, 1 97d0, 1 97d0, 1 97d0, 1
     97d0, 1 97d0, 1 97d0, 1 97d0, 1 97d0, 1 97d0, 1 97d0, 1 97d0, 1 97d0, 1 97d0, 1 97d0, 1
     97d0, 1 97d0, 1 97d0, 1 97d0, 1 97d0, 1 97d0, 1 97d0, 1 8, 1 8, 1 8, 1 8, 1 8, 1 8, 893
     89c2 89c3, 1 1, f0 8a04, 4 ee6, 11 8a38, 72 1, 2 1, 2 1, 2 1, 2 1, 2 1, 2 1, 2 1, 2 1, 2 1,
     2 1, 2 1, 2 1, 2 1, 2 1, 2 1, 2 1, 2 1, 2 1, 2 1, 2 1, 2 1, 2 1, 2 1, 2 1, 2 1, 2 1, 2 1, 2
     1, 2 1, 2 1, 2 1, 2 1, 2 1, 2 1, 2 1, 2 1, 2 1, 2 1, 2 1, 2 1, 2 1, 2 1, 2 1, 2 1, 2 1, 2
     1, 2 1, 2 1 3b, 2 1, 2 1, 2 1, 2 1, 2 1, 2 1, 2 1, 2 1, 2 1, 2 1, 2 1, 2 1, 2 1, 2 1, 2 1,
     2 1, 2 1, 2 1, 2 1, 2 1, 2 1, 2 1, 2 1, 2 1, 2 1, 2 1, c 1, 2 1, 2 1, 2 1, 2 1, 2 1, 2 1, 2
     1, 2 1, 2 1, 2 1, 2 1, 2 1, 2 1, 2 1, 2 1, 2 1, 2 1, 2 1, 2 1, 2 1, 2 1, 2 1, 2 1, 2 1, 2
     1, 2 1, 2 1, 2 1, 2 1, 2 1, 2 1, 2 1, 2 1, 2 1, 2 1, 2 1, 2 1, 2 1, 2 1, 2 1, 2 1, 2 1, 2
     1, 2 1, 2 1, 2 1, 2 1, 2 8, 1 8, 1 8, 1 8, 1 8, 1 8, 1 8, 1 8, 9 8, 1 8, 1 8, 1 8, 1 8, 1
     8, b 8, 1 8, 1 8, 1 8, 1 8, 1 8, 1 8, 1 8, 9 8, 1 8, 1 8, 1 8, 1 8, 1 8, 1 8, 1 8, 9 8, 1
     8, 1 8, 1 8, 1 8, 1 8, c 8, 2 8, 2 8, 2 8, 9 8, 1 8, 1 8, 1 8, 1 8, 1 8, 1 8, 1 8, 9 4a, 1
     4a, 1 56, 1 56, 1 56, 1 56, 1 64, 1 64, 1 80, 1 80, 1 70, 1 70, 1 7e, 1 7e, 3 8, 1 8, 1 8,
     1 8, 1 8, 1 8, 1 8, 1 8, 9 8, 1 8, 1 8, 1 8, 1 8, 1 8, 1 8, 1 8, 9 8, 1 8, 1 8, 1 8, 1 8, 1
     8, 1 8, 1 8, 9 8, 1 8, 2 9, 10 9, d 8, 1 8, f 8, 1 8, 4 7, e 9, 13f 1c, 2e 10, 1 10, 1 10,
     1 10, 1 10, 1 10, 1 10, 1 10, 1 10, 1 10, 1 10, 1 10, 1 10, 1 10, 1 10, 1 10, 14 1, 333 1a,
     1 1a, 1 1a, 1 1a, 1 1a, 1 1a, 1 1a, 1 1a, 1 1a, 1 1a, 1 1a, 1 1a, 1 1a, 1 1a, 1 1a, 1 1a, 1
     1a, 1 1a, 1 1a, 1 1a, 1 1a, 1 1a, 1 1a, 1 1a, 1 1a, 1 1a, 731 30, 1 30, 1 30, 1 30, 1 30, 1
     30, 1 30, 1 30, 1 30, 1 30, 1 30, 1 30, 1 30, 1 30, 1 30, 1 30, 1 30, 1 30, 1 30, 1 30, 1
     30, 1 30, 1 30, 1 30, 1 30, 1 30, 1 30, 1 30, 1 30, 1 30, 1 30, 1 30, 1 30, 1 30, 1 30, 1
     30, 1 30, 1 30, 1 30, 1 30, 1 30, 1 30, 1 30, 1 30, 1 30, 1 30, 1 30, 1 30, 31 1, 7 1, 2 1,
     2 1, 7 1, 3 1, b 1, 2 1, 2 1, 2 1, 2 1, 2 1, 2 1, 2 1, 2 1, 2 1, 2 1, 2 1, 2 1, 2 1, 2 1, 2
     1, 2 1, 2 1, 2 1, 2 1, 2 1, 2 1, 2 1, 2 1, 2 1, 2 1, 2 1, 2 1, 2 1, 2 1, 2 1, 2 1, 2 1, 2
     1, 2 1, 2 1, 2 1, 2 1, 2 1, 2 1, 2 1, 2 1, 2 1, 2 1, 2 1, 2 1, 2 1, 2 1, 2 1, 2 1, 9 1, 2
     1, 5 1, 794e 1, 2 1, 2 1, 2 1, 2 1, 4 1, 2 1, 2 1, 2 1, 2 1, 2 1, 2 1, 2 1, 2 1, 2 1, 2 1,
     2 1, 2 1, 2 1, 2 1, 2 1, 2 1, 14 1, 2 1, 2 1, 2 1, 2 1, 2 1, 2 1, 2 1, 2 1, 2 1, 2 1, 2 1,
     2 1, 2 1, 88 1, 2 1, 2 1, 2 1, 2 1, 2 1, 2 1, 4 1, 2 1, 2 1, 2 1, 2 1, 2 1, 2 1, 2 1, 2 1,
     2 1, 2 1, 2 1, 2 1, 2 1, 2 1, 2 1, 2 1, 2 1, 2 1, 2 1, 2 1, 2 1, 2 1, 2 1, 2 1, 2 1, 2 1, 2
     1, 2 1, 2 1, 2 1, b 1, 2 1, 3 1, 2 1, 2 1, 2 1, 2 1, 5 1, 5 1, 2 1, 2 30, 2 1, 2 1, 2 1, 2
     1, 2 1, 2 1, 2 1, 2 1, 2 1, 2 1, b 3a0, 1 1, 2 1, 2 1, 2 1, 2 1, 2 1, 2 1, 2 1, 5 1, 2 1, 3
     1, 2 1, 2 1, 2 1, 2 1, 2 1, 2 1, 2 1, 1b 1, 5310 1, 41c 20, 1 20, 1 20, 1 20, 1 20, 1 20, 1
     20, 1 20, 1 20, 1 20, 1 20, 1 20, 1 20, 1 20, 1 20, 1 20, 1 20, 1 20, 1 20, 1 20, 1 20, 1
     20, 1 20, 1 20, 1 20, 1 20, 4c6 28, 1 28, 1 28, 1 28, 1 28, 1 28, 1 28, 1 28, 1 28, 1 28, 1
     28, 1 28, 1 28, 1 28, 1 28, 1 28, 1 28, 1 28, 1 28, 1 28, 1 28, 1 28, 1 28, 1 28, 1 28, 1
     28, 1 28, 1 28, 1 28, 1 28, 1 28, 1 28, 1 28, 1 28, 1 28, 1 28, 1 28, 1 28, 1 28, 1 28, 89
     28, 1 28, 1 28, 1 28, 1 28, 1 28, 1 28, 1 28, 1 28, 1 28, 1 28, 1 28, 1 28, 1 28, 1 28, 1
     28, 1 28, 1 28, 1 28, 1 28, 1 28, 1 28, 1 28, 1 28, 1 28, 1 28, 1 28, 1 28, 1 28, 1 28, 1
     28, 1 28, 1 28, 1 28, 1 28, 1 28, 9d 27, 1 27, 1 27, 1 27, 1 27, 1 27, 1 27, 1 27, 1 27, 1
     27, 1 27, 2 27, 1 27, 1 27, 1 27, 1 27, 1 27, 1 27, 1 27, 1 27, 1 27, 1 27, 1 27, 1 27, 1
     27, 1 27, 2 27, 1 27, 1 27, 1 27, 1 27, 1 27, 1 27, 2 27, 1 27, 6eb 40, 1 40, 1 40, 1 40, 1
     40, 1 40, 1 40, 1 40, 1 40, 1 40, 1 40, 1 40, 1 40, 1 40, 1 40, 1 40, 1 40, 1 40, 1 40, 1
     40, 1 40, 1 40, 1 40, 1 40, 1 40, 1 40, 1 40, 1 40, 1 40, 1 40, 1 40, 1 40, 1 40, 1 40, 1
     40, 1 40, 1 40, 1 40, 1 40, 1 40, 1 40, 1 40, 1 40, 1 40, 1 40, 1 40, 1 40, 1 40, 1 40, 1
     40, 1 40, 9e 20, 1 20, 1 20, 1 20, 1 20, 1 20, 1 20, 1 20, 1 20, 1 20, 1 20, 1 20, 1 20, 1
     20, 1 20, 1 20, 1 20, 1 20, 1 20, 1 20, 1 20, 1 20, b3b 20, 1 20, 1 20, 1 20, 1 20, 1 20, 1
     20, 1 20, 1 20, 1 20, 1 20, 1 20, 1 20, 1 20, 1 20, 1 20, 1 20, 1 20, 1 20, 1 20, 1 20, 1
     20, 1 20, 1 20, 1 20, 1 20, 1 20, 1 20, 1 20, 1 20, 1 20, 1 20, 5581 20, 1 20, 1 20, 1 20,
     1 20, 1 20, 1 20, 1 20, 1 20, 1 20, 1 20, 1 20, 1 20, 1 20, 1 20, 1 20, 1 20, 1 20, 1 20, 1
     20, 1 20, 1 20, 1 20, 1 20, 1 20, 1 20, 1 20, 1 20, 1 20, 1 20, 1 20, 1 20, 41 1b, 1 1b, 1
     1b, 1 1b, 1 1b, 1 1b, 1 1b, 1 1b, 1 1b, 1 1b, 1 1b, 1 1b, 1 1b, 1 1b, 1 1b, 1 1b, 1 1b, 1
     1b, 1 1b, 1 1b, 1 1b, 1 1b, 1 1b, 1 1b, 1 1b, 7a48 22, 1 22, 1 22, 1 22, 1 22, 1 22, 1 22,
     1 22, 1 22, 1 22, 1 22, 1 22, 1 22, 1 22, 1 22, 1 22, 1 22, 1 22, 1 22, 1 22, 1 22, 1 22, 1
     22, 1 22, 1 22, 1 22, 1 22, 1 22, 1 22, 1 22, 1 22, 1 22, 1 22, 1 22"

/-- Reads one class of `caseClassTable`, given the first member of the class before it. -/
def readCaseClass (before : Nat) (entry : List Char) : List Nat :=
  match CharSet.readHexNumbers entry with
  | [] => []
  | gap :: offsets => (before + gap) :: offsets.map (before + gap + ·)

/-- The classes of characters equal up to case that have at least two members. -/
def caseClasses : Array (List Nat) :=
  let step := fun (acc : Nat × Array (List Nat)) (entry : List Char) =>
    let members := readCaseClass acc.1 entry
    (members.headD acc.1, acc.2.push members)
  ((Text.splitAtChar ',' caseClassTable.toList).foldl step (0, #[])).2

/-- The members of `caseClasses`, each with its class, in increasing order. -/
def caseMembers : Array (Nat × List Nat) :=
  (caseClasses.toList.flatMap fun members => members.map fun c => (c, members)).toArray.qsort
    fun a b => a.1 < b.1

/-- The class of a code point, sought between two indices of a table in the order of
`caseMembers`. -/
def searchClasses (table : Array (Nat × List Nat)) (code lo hi : Nat) : Option (List Nat) :=
  if lo < hi then
    match table[(lo + hi) / 2]? with
    | none => none
    | some (c, members) =>
      if code < c then searchClasses table code lo ((lo + hi) / 2)
      else if c < code then searchClasses table code ((lo + hi) / 2 + 1) hi
      else some members
  else none
termination_by hi - lo
decreasing_by all_goals omega

/-- The code points equal to `code` up to case, `code` included. -/
def caseVariants (code : Nat) : List Nat :=
  (searchClasses caseMembers code 0 caseMembers.size).getD [code]

end Lector.Unicode

namespace Lector.CharSet

def caseVariants (c : Char) : CharSet :=
  ofRanges ((Unicode.caseVariants c.toNat).map fun code => (code, code))

def foldCase (s : CharSet) : CharSet :=
  let touched := Unicode.caseClasses.toList.filter fun members => members.any s.containsCode
  s.union (ofRanges (touched.flatten.map fun code => (code, code)))

end Lector.CharSet
