import Colloquy.Text.Casing
import Colloquy.Text.PrintData
import Colloquy.Text.Digits

/-!
# Quoted text

A text between double quotes as a message shows it: a quote and a backslash carry a backslash, a
few controls have a letter, every other unprintable character stands as `\u{…}` with its number in
small hexadecimal digits, and all else as itself.
-/

namespace Colloquy.Text

/-- One character inside quotes. -/
def quoteChar (c : Char) : Text :=
  if c = '\x00' then "\\0"
  else if c = '\t' then "\\t"
  else if c = '\n' then "\\n"
  else if c = '\r' then "\\r"
  else if c = '"' then "\\\""
  else if c = '\\' then "\\\\"
  else if inSpans unprintableSpans c.toNat then
    concat ["\\u\x7b", Nat.toDigits 16 c.toNat, "\x7d"]
  else [c]

/-- The text between double quotes. -/
def quoted (text : Text) : Text := concat ["\"", text.flatMap quoteChar, "\""]

/-- Quoted texts in brackets, with commas between them. -/
def quotedList (texts : List Text) : Text := concat ["[", join ", " (texts.map quoted), "]"]

example : quoted "q\"u'ote\u200b" = "\"q\\\"u'ote\\u\x7b200b\x7d\"".toList := by decide +kernel
example : quotedList ["w/é.png", "é.png"] = "[\"w/é.png\", \"é.png\"]".toList := by decide +kernel

end Colloquy.Text
