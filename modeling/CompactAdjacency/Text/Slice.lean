/-!
# Parts of a text by their bytes

A place in a text may be given by the number of bytes before it in UTF-8. Such a number need not be
a place between two characters, and then there is nothing to cut out.
-/

namespace CompactAdjacency.Text

/-- The number of bytes of a text. -/
def byteSize : List Char → Nat
  | [] => 0
  | char :: rest => char.utf8Size + byteSize rest

/-- The text of the first bytes, unless they end inside of a character. -/
def takeBytes? : Nat → List Char → Option (List Char)
  | 0, _ => some []
  | _ + 1, [] => none
  | size + 1, char :: rest =>
      if char.utf8Size ≤ size + 1 then
        (takeBytes? (size + 1 - char.utf8Size) rest).map (char :: ·)
      else none

/-- The text after the first bytes, unless they end inside of a character. -/
def dropBytes? : Nat → List Char → Option (List Char)
  | 0, text => some text
  | _ + 1, [] => none
  | size + 1, char :: rest =>
      if char.utf8Size ≤ size + 1 then dropBytes? (size + 1 - char.utf8Size) rest else none

/-- The text of so many bytes from a place on. -/
def slice? (start size : Nat) (text : List Char) : Option (List Char) :=
  (dropBytes? start text).bind (takeBytes? size)

end CompactAdjacency.Text
