/-
  Microcore/Text/Lines.lean
  =========================
  **Texts cut at a character.**  A text in memory is cut into lines at line feeds alone; a text
  from a file first has every carriage return, with or without a line feed, made one line feed.
-/

namespace Microcore.Lines

/-- The pieces of a text between separators.  There is always at least one piece. -/
def pieces (separator : Char) : List Char → List (List Char)
  | [] => [[]]
  | c :: rest =>
    if c = separator then [] :: pieces separator rest
    else match pieces separator rest with
      | [] => [[c]]
      | piece :: more => (c :: piece) :: more

/-- The lines of a text.  A line feed ends a line, so none follows the last line feed of a text
    that ends with one. -/
def lines : List Char → List (List Char)
  | [] => []
  | c :: rest =>
    if c = '\n' then [] :: lines rest
    else match lines rest with
      | [] => [[c]]
      | line :: more => (c :: line) :: more

/-- A text with each carriage return, or carriage return and line feed, made a line feed. -/
def normalize : List Char → List Char
  | [] => []
  | '\r' :: '\n' :: rest => '\n' :: normalize rest
  | '\r' :: rest => '\n' :: normalize rest
  | c :: rest => c :: normalize rest

def isLineEnd (c : Char) : Bool := c = '\r' || c = '\n'

def chomp (line : List Char) : List Char := (line.reverse.dropWhile isLineEnd).reverse

end Microcore.Lines
