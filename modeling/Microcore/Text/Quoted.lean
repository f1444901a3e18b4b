/-
  Microcore/Text/Quoted.lean
  ==========================
  **Quoted text.**  A text is shown between single quotes, or between double quotes when it holds a
  single one and no double one.  The backslash, the quote in use and characters without a printed
  form are written as escapes.
-/
import Microcore.Text.PrintableTable
import Microcore.Text.Numeral

namespace Microcore.Quoted

def isPrintable (c : Char) : Bool :=
  unprintableRanges.all fun (first, last) => c.toNat < first || last < c.toNat

def quoteFor (text : List Char) : Char :=
  if text.contains '\'' && !text.contains '"' then '"' else '\''

def escapeCode (c : Char) : List Char :=
  let n := c.toNat
  if n < 0x100 then '\\' :: 'x' :: Numeral.hexLowerChars 2 n
  else if n < 0x10000 then '\\' :: 'u' :: Numeral.hexLowerChars 4 n
  else '\\' :: 'U' :: Numeral.hexLowerChars 8 n

/-- A character as it stands between quotes, when the characters shown as they are are given. -/
def escape (shown : Char → Bool) (quote c : Char) : List Char :=
  if c = quote || c = '\\' then ['\\', c]
  else if c = '\n' then ['\\', 'n']
  else if c = '\r' then ['\\', 'r']
  else if c = '\t' then ['\\', 't']
  else if shown c then [c]
  else escapeCode c

/-- A text between quotes, when the characters shown as they are are given. -/
def quoteWith (shown : Char → Bool) (text : List Char) : List Char :=
  let quote := quoteFor text
  quote :: text.flatMap (escape shown quote) ++ [quote]

def quoteChars (text : List Char) : List Char := quoteWith isPrintable text

def quoteAscii (text : List Char) : List Char :=
  quoteWith (fun c => isPrintable c && c.toNat < 128) text

def quote (text : String) : String := String.ofList (quoteChars text.toList)

end Microcore.Quoted
