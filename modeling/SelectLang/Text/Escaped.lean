import SelectLang.Unicode.GraphemeExtend
import SelectLang.Unicode.Unprintable

/-!
# Escaped text

A text as it is shown in messages and outlines: between double quotes, with a
backslash before the double quote and the backslash, short escapes for NUL, tab,
line feed and carriage return, and the code point in hexadecimal for a character
that would not be seen or would join its neighbour.
-/
namespace SelectLang.Escaped

open SelectLang.Unicode

/-- Letters of Hangul that only fill a place and show nothing. -/
def isFiller (c : Char) : Bool :=
  c = '\u115F' || c = '\u1160' || c = '\u3164' || c = '\uFFA0'

/-- The halfwidth sound marks of Katakana. They extend a grapheme, but alone
among the characters that do they are letters, with a width of their own. -/
def isSoundMark (c : Char) : Bool := c = '\uFF9E' || c = '\uFF9F'

def isAttached (c : Char) : Bool := isGraphemeExtend c && !isSoundMark c

/-- Whether a character is shown by its code point. -/
def isHidden (c : Char) : Bool := isAttached c || isUnprintable c || isFiller c

/-- The code point of a character in lower-case hexadecimal digits, in braces. -/
def codePoint (c : Char) : List Char :=
  ['\\', 'u', '\x7b'] ++ Nat.toDigits 16 c.toNat ++ ['\x7d']

def escapeChar (c : Char) : List Char :=
  if c = '\x00' then ['\\', '0']
  else if c = '\t' then ['\\', 't']
  else if c = '\n' then ['\\', 'n']
  else if c = '\r' then ['\\', 'r']
  else if c = '\x22' then ['\\', '\x22']
  else if c = '\\' then ['\\', '\\']
  else if isHidden c then codePoint c
  else [c]

/-- The form of a text between the quotes. -/
def escapeChars (text : List Char) : List Char := text.flatMap escapeChar

/-- The form in which a text is shown, with its quotes. -/
def escape (text : String) : String :=
  String.ofList ('\x22' :: (escapeChars text.toList ++ ['\x22']))

end SelectLang.Escaped
