import QueryCursor.Text.Printable

/-!
# Quoted text

A quoted text stands between apostrophes, or between double quotes when it holds
an apostrophe and no double quote.  The mark in use and the backslash are
escaped, tab, line feed and carriage return have short escapes, and every other
character that is not shown as itself is written by its code in hexadecimal.
-/

namespace QueryCursor.Text

/-- The apostrophe. -/
def apostrophe : Char := '\x27'

/-- The double quote. -/
def doubleQuote : Char := '\x22'

/-- The backslash. -/
def backslash : Char := '\x5c'

/-- The mark that a text is quoted with. -/
def quoteMark (text : List Char) : Char :=
  if text.contains apostrophe && !text.contains doubleQuote then doubleQuote else apostrophe

/-- A number in lower-case hexadecimal with at least `width` digits. -/
def hexadecimal (width number : Nat) : List Char :=
  let digits := Nat.toDigits 16 number
  List.replicate (width - digits.length) '0' ++ digits

/-- A character by its code: two, four or eight digits, the fewest that do. -/
def codeEscape (character : Char) : List Char :=
  let code := character.toNat
  if code < 0x100 then backslash :: 'x' :: hexadecimal 2 code
  else if code < 0x10000 then backslash :: 'u' :: hexadecimal 4 code
  else backslash :: 'U' :: hexadecimal 8 code

/-- One character inside quotes. -/
def escape (shown : Char → Bool) (mark character : Char) : List Char :=
  if character = mark ∨ character = backslash then [backslash, character]
  else if character = '\t' then [backslash, 't']
  else if character = '\n' then [backslash, 'n']
  else if character = '\r' then [backslash, 'r']
  else if shown character then [character]
  else codeEscape character

/-- A text between quotes. -/
def quoteWith (shown : Char → Bool) (text : List Char) : List Char :=
  let mark := quoteMark text
  mark :: (text.flatMap (escape shown mark) ++ [mark])

/-- A string between quotes; printable characters stand for themselves. -/
def quote (text : String) : String :=
  String.ofList (quoteWith isPrintable text.toList)

/-- Bytes between quotes, after the letter `b`; only printable ASCII characters
stand for themselves. -/
def quoteBytes (bytes : List UInt8) : String :=
  let shown (character : Char) := 0x20 ≤ character.toNat && character.toNat < 0x7f
  String.ofList ('b' :: quoteWith shown (bytes.map fun byte => Char.ofNat byte.toNat))

end QueryCursor.Text
