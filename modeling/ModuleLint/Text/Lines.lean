/-!
# Lines of a text

A text is cut at each line feed, and a carriage return right before the line feed (or at the very
end) does not belong to the line. The empty text has no lines at all.
-/

set_option autoImplicit false

namespace ModuleLint.Text

/-- The pieces of a sequence between the occurrences of a separator; there is always one more piece
than there are separators. -/
def splitAt {α : Type} [DecidableEq α] (separator : α) : List α → List (List α)
  | [] => [[]]
  | c :: rest =>
    if c = separator then [] :: splitAt separator rest
    else
      match splitAt separator rest with
      | [] => [[c]]
      | piece :: pieces => (c :: piece) :: pieces

/-- A line without the carriage return at its end, if there is one. -/
def dropReturn (line : List Char) : List Char :=
  match line.reverse with
  | '\r' :: rest => rest.reverse
  | _ => line

/-- The lines of a sequence of characters. -/
def linesOf (cs : List Char) : List (List Char) :=
  if cs.isEmpty then [] else (splitAt '\n' cs).map dropReturn

/-- The lines of a text. -/
def lines (s : String) : List String :=
  (linesOf s.toList).map String.ofList

/-- The pieces of a text between the occurrences of a character. -/
def split (separator : Char) (s : String) : List String :=
  (splitAt separator s.toList).map String.ofList

end ModuleLint.Text
