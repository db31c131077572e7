import LoxFront.Text.Printable
/-!
Quoted text as structure dumps write it: between double quotes, a backslash before a double
quote or a backslash, the short escapes for NUL, tab, carriage return and line feed, and the
code of the character in lower-case hexadecimal between braces for every other character that
is not printable or that extends the grapheme before it.
-/
namespace LoxFront.Text

def codeEscape (c : Char) : List Char :=
  ['\\', 'u', '\x7b'] ++ Nat.toDigits 16 c.toNat ++ ['\x7d']

/-- How one character is written inside quotes. -/
def escapeChar (c : Char) : List Char :=
  if c = '\x00' then ['\\', '0']
  else if c = '\t' then ['\\', 't']
  else if c = '\r' then ['\\', 'r']
  else if c = '\n' then ['\\', 'n']
  else if c = '\\' then ['\\', '\\']
  else if c = '"' then ['\\', '"']
  else if isGraphemeExtend c || !isPrintable c then codeEscape c
  else [c]

def quote (s : String) : String :=
  String.ofList ('"' :: s.toList.flatMap escapeChar ++ ['"'])

end LoxFront.Text
