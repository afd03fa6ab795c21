/-!
# Separated texts

A text cut at every occurrence of a separator, which always leaves one piece
more than there are separators.
-/

namespace ChipEight.Text

/-- The pieces of a text between separators, the separators left out. -/
def pieces (separator : Char) : List Char → List (List Char)
  | [] => [[]]
  | character :: rest =>
    if character = separator then [] :: pieces separator rest
    else
      match pieces separator rest with
      | [] => [[character]]
      | first :: others => (character :: first) :: others

end ChipEight.Text
