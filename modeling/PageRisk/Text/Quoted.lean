import PageRisk.Unicode.Printable

set_option autoImplicit false

/-! # Text inside quotes, for messages

A text is shown to a reader between double quotes. Quotes and backslashes get a backslash, the
common controls their letter, and every other character that cannot be shown its code point. -/

namespace PageRisk.Text

/-- A character as it stands between quotes. -/
def quotedChar (c : Char) : List Char :=
  if c == '\x00' then ['\\', '0']
  else if c == '\t' then ['\\', 't']
  else if c == '\r' then ['\\', 'r']
  else if c == '\n' then ['\\', 'n']
  else if c == '"' then ['\\', '"']
  else if c == '\\' then ['\\', '\\']
  else if Unicode.isShown c then [c]
  else '\\' :: 'u' :: '\x7b' :: (Nat.toDigits 16 c.toNat ++ ['\x7d'])

/-- A text between quotes. -/
def quoted (cs : List Char) : List Char :=
  '"' :: (cs.flatMap quotedChar ++ ['"'])

end PageRisk.Text
