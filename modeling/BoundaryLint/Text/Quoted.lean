import BoundaryLint.Text.Printable
import BoundaryLint.Text.Surrogate

/-!
# Quoted text

Text between quotes as messages show it. The quote is an apostrophe unless the text holds an
apostrophe and no double quote. The backslash, the quote, tab, line feed and carriage return have
short escapes, and every other character that is not printable is written by its code. Bytes are
shown in the same way, and of them only those of printable ASCII characters stand for themselves.
-/
namespace BoundaryLint.Text

/-- `n` in lower-case hexadecimal, padded with zeros to `width` digits. -/
def hexDigits (width n : Nat) : List Char :=
  let ds := Nat.toDigits 16 n
  List.replicate (width - ds.length) '0' ++ ds

/-- The escape of a character by its code. -/
def codeEscape (c : Char) : List Char :=
  let n := codeOf c
  if n < 0x100 then '\\' :: 'x' :: hexDigits 2 n
  else if n < 0x10000 then '\\' :: 'u' :: hexDigits 4 n
  else '\\' :: 'U' :: hexDigits 8 n

/-- One character inside a text quoted by `quote`, where `visible` ones stand for themselves. -/
def quoteCharBy (visible : Char → Bool) (quote c : Char) : List Char :=
  if c == quote || c == '\\' then ['\\', c]
  else if c == '\t' then ['\\', 't']
  else if c == '\n' then ['\\', 'n']
  else if c == '\r' then ['\\', 'r']
  else if visible c then [c]
  else codeEscape c

/-- One character inside a text quoted by `quote`. -/
def quoteChar (quote c : Char) : List Char :=
  quoteCharBy isPrintable quote c

/-- The quote that a text is shown with. -/
def quoteFor (cs : List Char) : Char :=
  if cs.contains '\'' && !cs.contains '"' then '"' else '\''

/-- The text between quotes, on one line and with visible characters only. -/
def quoted (s : String) : String :=
  let cs := s.toList
  let q := quoteFor cs
  String.ofList (q :: cs.flatMap (quoteChar q) ++ [q])

/-- Bytes between quotes, after the letter that marks them. -/
def quotedBytes (bytes : List UInt8) : String :=
  let cs := bytes.map fun b => Char.ofNat b.toNat
  let q := quoteFor cs
  let visible (c : Char) : Bool := ' ' ≤ c && c ≤ '~'
  String.ofList ('b' :: q :: cs.flatMap (quoteCharBy visible q) ++ [q])

end BoundaryLint.Text
