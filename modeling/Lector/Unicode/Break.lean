import Lector.Unicode.Lookup

/-!
# Breaks

Three properties tell where a text may be broken: between the characters that a reader sees, between
words, and between sentences. Their values are listed so that a character has the first value that
covers it. Values without a name are no classes: they keep characters from the values behind them.

## Main definitions

* `Share` - what a value covers.
* `shareNamed?` - the class of the characters that have a value.
* `graphemeBreaks`, `wordBreaks`, `sentenceBreaks` - the values of the three properties.
-/

namespace Lector.Unicode

/-- What a value covers: classes by their names, and ranges of code points. -/
structure Share where
  names : List String := []
  classes : List String := []
  codes : List (Nat × Nat) := []

/-- The class of the characters that have the value with a loose name: those that it covers and no
value before it does. -/
def shareNamed? (shares : List Share) (name : Text) : Option CharSet :=
  let named := fun s : Share => hasName s.names name
  let take := fun (found, seen) (s : Share) =>
    let covered := (classes s.classes).union (CharSet.ofRanges s.codes)
    (if named s then found.union (covered.diff seen) else found, seen.union covered)
  if shares.any named then some (shares.foldl take (CharSet.empty, CharSet.empty)).1 else none

/-- Of each row of Hangul syllables that differ in their last letters alone, the one behind those that
are skipped, and some more. -/
def hangulSyllables (skipped more : Nat) : List (Nat × Nat) :=
  (List.range 399).map fun i => (0xAC00 + 28 * i + skipped, 0xAC00 + 28 * i + skipped + more)

def graphemeBreaks : List Share := [
  { names := ["CR"], codes := [(0xD, 0xD)] },
  { names := ["LF"], codes := [(0xA, 0xA)] },
  { names := ["ZWJ"], codes := [(0x200D, 0x200D)] },
  { names := ["Regional_Indicator", "RI"], classes := ["Regional_Indicator"] },
  { names := ["L"], codes := [(0x1100, 0x115F), (0xA960, 0xA97C)] },
  { names := ["V"],
    codes := [(0x1160, 0x11A7), (0xD7B0, 0xD7C6), (0x16D63, 0x16D63), (0x16D67, 0x16D6A)] },
  { names := ["T"], codes := [(0x11A8, 0x11FF), (0xD7CB, 0xD7FB)] },
  { names := ["LV"], codes := hangulSyllables 0 0 },
  { names := ["LVT"], codes := hangulSyllables 1 26 },
  { names := ["Extend", "EX"], classes := ["Grapheme_Extend", "Emoji_Modifier"] },
  { names := ["Prepend", "PP"],
    codes := [(0x600, 0x605), (0x6DD, 0x6DD), (0x70F, 0x70F), (0x890, 0x891), (0x8E2, 0x8E2),
      (0xD4E, 0xD4E), (0x110BD, 0x110BD), (0x110CD, 0x110CD), (0x111C2, 0x111C3),
      (0x113D1, 0x113D1), (0x1193F, 0x1193F), (0x11941, 0x11941), (0x11A84, 0x11A89),
      (0x11D46, 0x11D46), (0x11F02, 0x11F02)] },
  { codes := [(0x102B, 0x102C), (0x1038, 0x1038), (0x1062, 0x1064), (0x1067, 0x106D),
      (0x1083, 0x1083), (0x1087, 0x108C), (0x108F, 0x108F), (0x109A, 0x109C), (0x1A61, 0x1A61),
      (0x1A63, 0x1A64), (0xAA7B, 0xAA7B), (0xAA7D, 0xAA7D), (0x11720, 0x11721)] },
  { names := ["SpacingMark", "SM"], classes := ["Mc"],
    codes := [(0xE33, 0xE33), (0xEB3, 0xEB3)] },
  { names := ["Control", "CN"], classes := ["Cc", "Cf", "Zl", "Zp"],
    codes := [(0x2065, 0x2065), (0xFFF0, 0xFFF8), (0xE0000, 0xE0000), (0xE0002, 0xE001F),
      (0xE0080, 0xE00FF), (0xE01F0, 0xE0FFF)] }]

def wordBreaks : List Share := [
  { names := ["CR"], codes := [(0xD, 0xD)] },
  { names := ["LF"], codes := [(0xA, 0xA)] },
  { names := ["Newline", "NL"], codes := [(0xB, 0xC), (0x85, 0x85), (0x2028, 0x2029)] },
  { names := ["ZWJ"], codes := [(0x200D, 0x200D)] },
  { names := ["Regional_Indicator", "RI"], classes := ["Regional_Indicator"] },
  { names := ["Extend"], classes := ["Grapheme_Extend", "Mc", "Emoji_Modifier"] },
  { names := ["Single_Quote", "SQ"], codes := [(0x27, 0x27)] },
  { names := ["Double_Quote", "DQ"], codes := [(0x22, 0x22)] },
  { names := ["MidNumLet", "MB"],
    codes := [(0x2E, 0x2E), (0x2018, 0x2019), (0x2024, 0x2024), (0xFE52, 0xFE52),
      (0xFF07, 0xFF07), (0xFF0E, 0xFF0E)] },
  { names := ["MidLetter", "ML"],
    codes := [(0x3A, 0x3A), (0xB7, 0xB7), (0x387, 0x387), (0x55F, 0x55F), (0x5F4, 0x5F4),
      (0x2027, 0x2027), (0xFE13, 0xFE13), (0xFE55, 0xFE55), (0xFF1A, 0xFF1A)] },
  { names := ["MidNum", "MN"],
    codes := [(0x2C, 0x2C), (0x3B, 0x3B), (0x37E, 0x37E), (0x589, 0x589), (0x60C, 0x60D),
      (0x66C, 0x66C), (0x7F8, 0x7F8), (0x2044, 0x2044), (0xFE50, 0xFE50), (0xFE54, 0xFE54),
      (0xFF0C, 0xFF0C), (0xFF1B, 0xFF1B)] },
  { names := ["Numeric", "NU"], classes := ["Nd"],
    codes := [(0x600, 0x605), (0x66B, 0x66B), (0x6DD, 0x6DD), (0x890, 0x891), (0x8E2, 0x8E2),
      (0x19DA, 0x19DA), (0x110BD, 0x110BD), (0x110CD, 0x110CD)] },
  { names := ["ExtendNumLet", "EX"], classes := ["Pc"], codes := [(0x202F, 0x202F)] },
  { codes := [(0xA0, 0xA0), (0x2007, 0x2007), (0x200B, 0x200B)] },
  { names := ["WSegSpace"], classes := ["Zs"] },
  { names := ["Katakana", "KA"], classes := ["Katakana"],
    codes := [(0x3031, 0x3035), (0x309B, 0x309C), (0x30A0, 0x30A0), (0x30FC, 0x30FC),
      (0xFF70, 0xFF70)] },
  { names := ["Hebrew_Letter", "HL"],
    codes := [(0x5D0, 0x5EA), (0x5EF, 0x5F2), (0xFB1D, 0xFB1D), (0xFB1F, 0xFB28),
      (0xFB2A, 0xFB36), (0xFB38, 0xFB3C), (0xFB3E, 0xFB3E), (0xFB40, 0xFB41), (0xFB43, 0xFB44),
      (0xFB46, 0xFB4F)] },
  { classes := ["Ideographic", "Hiragana", "Thai", "Lao", "Myanmar", "Khmer", "Tai_Le",
      "New_Tai_Lue", "Tai_Tham", "Tai_Viet", "Ahom"] },
  { names := ["ALetter", "LE"], classes := ["Alphabetic"],
    codes := [(0xB8, 0xB8), (0x2C2, 0x2C5), (0x2D2, 0x2D7), (0x2DE, 0x2DF), (0x2E5, 0x2EB),
      (0x2ED, 0x2ED), (0x2EF, 0x2FF), (0x55A, 0x55C), (0x55E, 0x55E), (0x58A, 0x58A),
      (0x5F3, 0x5F3), (0x70F, 0x70F), (0xA708, 0xA716), (0xA720, 0xA721), (0xA789, 0xA78A),
      (0xAB5B, 0xAB5B)] },
  { names := ["Format", "FO"], classes := ["Cf"] }]

def sentenceBreaks : List Share := [
  { names := ["CR"], codes := [(0xD, 0xD)] },
  { names := ["LF"], codes := [(0xA, 0xA)] },
  { names := ["Sep", "SE"], codes := [(0x85, 0x85), (0x2028, 0x2029)] },
  { names := ["Extend", "EX"], classes := ["Grapheme_Extend", "Mc"],
    codes := [(0x200D, 0x200D)] },
  { names := ["Numeric", "NU"], classes := ["Nd"],
    codes := [(0x600, 0x605), (0x66B, 0x66C), (0x6DD, 0x6DD), (0x890, 0x891), (0x8E2, 0x8E2),
      (0x19DA, 0x19DA), (0x110BD, 0x110BD), (0x110CD, 0x110CD)] },
  { names := ["Format", "FO"], classes := ["Cf"] },
  { names := ["Sp", "SP"], classes := ["White_Space"] },
  { names := ["ATerm", "AT"],
    codes := [(0x2E, 0x2E), (0x2024, 0x2024), (0xFE52, 0xFE52), (0xFF0E, 0xFF0E)] },
  { names := ["SContinue", "SC"],
    codes := [(0x2C, 0x2D), (0x3A, 0x3B), (0x37E, 0x37E), (0x55D, 0x55D), (0x60C, 0x60D),
      (0x7F8, 0x7F8), (0x1802, 0x1802), (0x1808, 0x1808), (0x2013, 0x2014), (0x3001, 0x3001),
      (0xFE10, 0xFE11), (0xFE13, 0xFE14), (0xFE31, 0xFE32), (0xFE50, 0xFE51), (0xFE54, 0xFE55),
      (0xFE58, 0xFE58), (0xFE63, 0xFE63), (0xFF0C, 0xFF0D), (0xFF1A, 0xFF1B), (0xFF64, 0xFF64)] },
  { names := ["STerm", "ST"], classes := ["Sentence_Terminal"] },
  { names := ["OLetter", "LE"],
    codes := [(0x5F3, 0x5F3), (0x10D0, 0x10FA), (0x10FD, 0x10FF), (0x1C90, 0x1CBA),
      (0x1CBD, 0x1CBF)] },
  { names := ["Close", "CL"], classes := ["Ps", "Pe", "Pi", "Pf"],
    codes := [(0x22, 0x22), (0x27, 0x27), (0x275B, 0x2760), (0x2E00, 0x2E01), (0x2E06, 0x2E08),
      (0x2E0B, 0x2E0B), (0x1F676, 0x1F678)] },
  { names := ["Lower", "LO"], classes := ["Lowercase"] },
  { names := ["Upper", "UP"], classes := ["Uppercase", "Lt"] },
  { names := ["OLetter", "LE"], classes := ["Alphabetic"] }]

end Lector.Unicode
