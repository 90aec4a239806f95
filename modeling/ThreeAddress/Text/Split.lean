import ThreeAddress.Text.Blank

/-!
# Lines and fields

Two ways of cutting a text: into lines, at line feeds, and into fields, at blank
characters. Both are plain recursions on a list of characters.
-/

namespace ThreeAddress.Text

/-- Put a character in front of the first of some parts, or on its own if there is none. -/
def consFirst (c : Char) : List (List Char) → List (List Char)
  | [] => [[c]]
  | part :: parts => (c :: part) :: parts

/-- The lines of a text. A line feed ends a line and is not part of it, nor is a carriage
return directly before it. The text after the last line feed is a line unless it is empty. -/
def lines : List Char → List (List Char)
  | [] => []
  | c :: rest =>
      if c = '\n' then [] :: lines rest
      else if c = '\r' ∧ rest.head? = some '\n' then lines rest
      else consFirst c (lines rest)

/-- The fields of a text: its longest runs of characters that are not blank. -/
def fields : List Char → List (List Char)
  | [] => []
  | c :: rest =>
      if isBlank c then fields rest
      else if rest.head?.all isBlank then [c] :: fields rest
      else consFirst c (fields rest)

/-- A text with spaces added on the right until it has at least the given number of
characters. -/
def padRight (width : Nat) (text : String) : String :=
  text ++ String.ofList (List.replicate (width - text.length) ' ')

end ThreeAddress.Text
