/-!
# Reading from the front

Texts are read from their front as lists of characters.
-/

namespace SqlGateway.Text

/-- One step of a reader: what it reads and the text behind it. -/
abbrev Step (α : Type) := List Char → Option (α × List Char)

/-- The text after `word`, if it begins with `word`. -/
def dropWord? : List Char → List Char → Option (List Char)
  | [], text => some text
  | w :: word, c :: text => if w = c then dropWord? word text else none
  | _ :: _, [] => none

end SqlGateway.Text
