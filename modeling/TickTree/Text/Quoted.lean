import TickTree.Text.Unprintable
import TickTree.Text.Extender

/-!
# Quoted text

A text is shown in double quotes on one line: a quote and a backslash are marked, the usual control
characters have a letter each, and every character that would not show by itself is written as its
code point in hexadecimal. Which characters those are is a parameter of the encoding.

## Main definitions

* `Quoted.escape`, `Quoted.encode`: the encoding, for any set of special characters
* `isSpecial`: characters that are not printable or that attach to the one before them
* `quoteWith`, `quote`: a quoted text, for any special characters and for these
-/

namespace TickTree.Text

namespace Quoted

/-- The digits of a number in base sixteen, in lower case and without leading zeros. -/
def hexDigits (n : Nat) : List Char := Nat.toDigits 16 n

/-- A code point in braces. -/
def codePoint (c : Char) : List Char :=
  ['\\', 'u', '\x7b'] ++ hexDigits c.toNat ++ ['\x7d']

/-- How one character is written. -/
def escape (special : Char → Bool) (c : Char) : List Char :=
  match c with
  | '\x00' => ['\\', '0']
  | '\t' => ['\\', 't']
  | '\r' => ['\\', 'r']
  | '\n' => ['\\', 'n']
  | '"' => ['\\', '"']
  | '\\' => ['\\', '\\']
  | c => if special c then codePoint c else [c]

/-- A text in double quotes. -/
def encode (special : Char → Bool) (text : List Char) : List Char :=
  '"' :: text.flatMap (escape special) ++ ['"']

end Quoted

/-- Characters that are written as their code point: those that are not printable and those that
attach to the character before them. Of the first 128, only controls are special. -/
def isSpecial (c : Char) : Bool :=
  if c.toNat < 0x80 then c.toNat < 0x20 || c.toNat == 0x7f
  else Unprintable.contains c.toNat || Extender.contains c.toNat

/-- A text in double quotes, for a set of special characters. -/
def quoteWith (special : Char → Bool) (text : String) : String :=
  String.ofList (Quoted.encode special text.toList)

/-- A text in double quotes, on one line and with every character visible. -/
def quote (text : String) : String := quoteWith isSpecial text

end TickTree.Text
