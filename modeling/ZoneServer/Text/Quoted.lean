import ZoneServer.Text.Unprintable

/-!
# Quoted text

Texts that come from outside are shown in double quotes inside error messages, so that no character
of theirs can be mistaken for the message around them. A quote and a backslash are written with a
backslash before them, the common control characters with their letter, and every other character
without a shape of its own by its code point.
-/

namespace ZoneServer.Text

/-- The written form of a code point: its hexadecimal digits, lower case and without leading zeros,
in braces. -/
def codePoint (c : Char) : List Char :=
  ['\\', 'u', '{'] ++ Nat.toDigits 16 c.toNat ++ ['}']

/-- The written form of one character inside quotes. -/
def quotedChar (c : Char) : List Char :=
  if c = '"' ∨ c = '\\' then ['\\', c]
  else if c = '\n' then ['\\', 'n']
  else if c = '\r' then ['\\', 'r']
  else if c = '\t' then ['\\', 't']
  else if c = '\x00' then ['\\', '0']
  else if isUnprintable c then codePoint c
  else [c]

/-- A text in double quotes. -/
def quoted (text : List Char) : String :=
  String.ofList ('"' :: text.flatMap quotedChar ++ ['"'])

end ZoneServer.Text
