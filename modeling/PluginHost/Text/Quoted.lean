import PluginHost.Number.Digits
import PluginHost.Text.Printable

/-!
# Quoted text

A text between double quotes in which a quote, a backslash and the usual controls are written
with a backslash, and every other character without a printed shape of its own as its code
point in braces: `"a\tb\u{7f}"`.
-/

namespace PluginHost.Quoted

/-- Hexadecimal digits without leading zeros. -/
def hex (n : Nat) : List Char :=
  if n < 16 then [Digits.hexDigit n] else hex (n / 16) ++ [Digits.hexDigit (n % 16)]

/-- The written form of one character. -/
def escape (c : Char) : List Char :=
  if c = '"' then ['\\', '"']
  else if c = '\\' then ['\\', '\\']
  else if c = '\n' then ['\\', 'n']
  else if c = '\r' then ['\\', 'r']
  else if c = '\t' then ['\\', 't']
  else if c.toNat = 0 then ['\\', '0']
  else if Printable.isPrintable c && !Printable.isExtender c then [c]
  else ['\\', 'u', Char.ofNat 0x7B] ++ hex c.toNat ++ [Char.ofNat 0x7D]

def quote (s : String) : String :=
  String.ofList ('"' :: s.toList.flatMap escape ++ ['"'])

end PluginHost.Quoted
