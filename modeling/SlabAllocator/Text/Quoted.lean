import SlabAllocator.Text.Category
import SlabAllocator.Text.DefaultIgnorable
import SlabAllocator.Text.GraphemeExtend

/-! Quoted strings. Between the quotes every character can be told from its
neighbours: one that would not show, or that would be drawn onto the character
before it, is written as an escape. -/
namespace SlabAllocator.Text

/-- Whether a character is one of the half-width sound marks. They extend the
character before them, yet take up a place of their own in the line. -/
def isSoundMark (char : Char) : Bool :=
  char.toNat == 0xFF9E || char.toNat == 0xFF9F

/-- Whether a character shows, in a place of its own. Of all spaces only the
ordinary one is taken to show. -/
def standsAlone (char : Char) : Bool :=
  char == ' ' ||
    (!isOtherOrSeparator char && !isIgnorable char && (isSoundMark char || !extendsGrapheme char))

/-- One character of a quoted string. Quotes and backslashes, and what does not
stand alone, are escaped: by a letter if there is one, else by code point. -/
def escaped (char : Char) : List Char :=
  match char with
  | '"' => ['\\', '"']
  | '\\' => ['\\', '\\']
  | '\n' => ['\\', 'n']
  | '\t' => ['\\', 't']
  | '\r' => ['\\', 'r']
  | '\x00' => ['\\', '0']
  | _ =>
    if standsAlone char then [char]
    else '\\' :: 'u' :: '\x7b' :: Nat.toDigits 16 char.toNat ++ ['\x7d']

/-- A string between double quotes. -/
def quoted (text : String) : String :=
  String.ofList ('"' :: text.toList.flatMap escaped ++ ['"'])

end SlabAllocator.Text
