import ScenarioRunner.Text.Shapeless

/-!
# Texts in messages

A text in a message stands in double quotes. Quotes, backslashes and line ends are escaped, and
characters without a shape are shown by their code.
-/

set_option autoImplicit false

namespace ScenarioRunner

/-- One character inside quotes. -/
def quoteChar (c : Char) : List Char :=
  if c = '"' then ['\\', '"']
  else if c = '\\' then ['\\', '\\']
  else if c = '\n' then ['\\', 'n']
  else if c = '\r' then ['\\', 'r']
  else if c = '\t' then ['\\', 't']
  else if c = '\x00' then ['\\', '0']
  else if Shapeless.holds c then
    '\\' :: 'u' :: '\x7b' :: (Nat.toDigits 16 c.toNat ++ ['\x7d'])
  else [c]

/-- A text in quotes. -/
def quote (text : String) : String :=
  String.ofList ('"' :: (text.toList.flatMap quoteChar ++ ['"']))

end ScenarioRunner
