import Fleet.Text.Printable

/-! # Quoted text

A text between double quotes, as messages show it: quotes and backslashes are escaped, the usual
controls have a letter, and every other character without a picture is written by its number. -/

namespace Fleet.Text

/-- The digits of `n` in base sixteen, in lower case. -/
def hex (n : Nat) : List Char := Nat.toDigits 16 n

/-- What stands for `c` inside quotes. -/
def quoteChar (c : Char) : List Char :=
  if c = '\u0000' then ['\\', '0']
  else if c = '\t' then ['\\', 't']
  else if c = '\r' then ['\\', 'r']
  else if c = '\n' then ['\\', 'n']
  else if c = '"' then ['\\', '"']
  else if c = '\\' then ['\\', '\\']
  else if isPrintable c then [c]
  else ['\\', 'u', '{'] ++ hex c.toNat ++ ['}']

/-- The text between quotes. -/
def quoted (s : String) : String :=
  String.ofList ('"' :: s.toList.flatMap quoteChar ++ ['"'])

end Fleet.Text
