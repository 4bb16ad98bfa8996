/-! The written forms that answers use: hexadecimal numbers and records with
named fields. -/
namespace SlabAllocator.Text

/-- A number in lower-case hexadecimal. -/
def hex (number : Nat) : String :=
  String.ofList (Nat.toDigits 16 number)

/-- A number in hexadecimal, padded with zeros to at least `width` digits. -/
def hexPadded (width number : Nat) : String :=
  let digits := Nat.toDigits 16 number
  String.ofList (List.replicate (width - digits.length) '0' ++ digits)

/-- A named field of a record. -/
def field (label value : String) : String :=
  label ++ ": " ++ value

/-- A record: its name, then its fields in order between braces. -/
def record (name : String) (fields : List String) : String :=
  name ++ " \x7b " ++ ", ".intercalate fields ++ " \x7d"

/-- An optional number. -/
def optional : Option Nat → String
  | none => "None"
  | some number => "Some(" ++ toString number ++ ")"

/-- A truth value. -/
def flag (value : Bool) : String :=
  if value then "true" else "false"

end SlabAllocator.Text
