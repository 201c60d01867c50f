/-!
Quoted text, as the debug form of a string writes it.

The text goes between double quotes. A double quote and a backslash get a
backslash in front; tab, carriage return, line feed and NUL are written `\t`,
`\r`, `\n` and `\0`; other control characters are written as `\u{..}` with
their code in lowercase hexadecimal; every other ASCII character stands for
itself, the single quote included.
-/

namespace GpuFrontend.Text

def hexDigits (n : Nat) : String :=
  String.ofList (Nat.toDigits 16 n)

-- The written form of one character inside quotes. Characters beyond ASCII stand for themselves:
-- the names this library quotes are ASCII.
def quoteChar (c : Char) : String :=
  if c = '"' then "\\\""
  else if c = '\\' then "\\\\"
  else if c = '\t' then "\\t"
  else if c = '\r' then "\\r"
  else if c = '\n' then "\\n"
  else if c = '\x00' then "\\0"
  else if c.toNat < 32 ∨ c.toNat = 127 then "\\u\x7b" ++ hexDigits c.toNat ++ "\x7d"
  else c.toString

def quote (s : String) : String :=
  "\"" ++ String.join (s.toList.map quoteChar) ++ "\""

end GpuFrontend.Text
