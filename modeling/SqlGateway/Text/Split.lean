/-!
# Splitting

Texts cut at a character.
-/

namespace SqlGateway.Text

/-- The parts of a text between the occurrences of a character; one more than there are of them. -/
def splitAt (separator : Char) : List Char → List (List Char)
  | [] => [[]]
  | c :: rest =>
    match splitAt separator rest with
    | [] => [[c]]
    | part :: parts => if c = separator then [] :: part :: parts else (c :: part) :: parts

/-- The text before the first occurrence of a character and the text behind it. -/
def splitOnce? (separator : Char) (text : List Char) : Option (List Char × List Char) :=
  match text.span (· != separator) with
  | (before, _ :: behind) => some (before, behind)
  | (_, []) => none

end SqlGateway.Text
