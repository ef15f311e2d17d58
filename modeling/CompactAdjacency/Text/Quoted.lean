import CompactAdjacency.Text.Printable
import CompactAdjacency.Text.Extender
import CompactAdjacency.Text.Hexadecimal

/-!
# Quoted text

A piece of text is shown between double quotes, so that blanks at its ends and characters that
cannot be seen stand out. Quotes, backslashes and the usual control characters get a backslash; any
other character that is not printable, or that attaches to the one before it, is written by its code
point in hexadecimal.
-/

namespace CompactAdjacency.Text

/-- A character as it stands between quotes. -/
def escapeChar (char : Char) : List Char :=
  match char with
  | '\x00' => ['\\', '0']
  | '\t' => ['\\', 't']
  | '\r' => ['\\', 'r']
  | '\n' => ['\\', 'n']
  | '\\' => ['\\', '\\']
  | '\x22' => ['\\', '\x22']
  | _ =>
      if isPrintable char && !isExtender char then [char]
      else ['\\', 'u', '\x7b'] ++ hexDigits char.toNat ++ ['\x7d']

/-- The text between double quotes. -/
def quote (text : String) : String :=
  String.ofList (['\x22'] ++ text.toList.flatMap escapeChar ++ ['\x22'])

end CompactAdjacency.Text
