import TowerFold.Packed.Grid

/-!
# Grids set out in lines

The text of a grid of machine words: rows between brackets, numbers aligned to the right
in one width for the whole grid, lines wrapped, and the middle of a large grid left out.
-/

namespace TowerFold

/-- How the rows of a grid are set out. -/
structure Layout where
  /-- What stands between two entries. -/
  separator : String
  /-- The number of columns before the outermost bracket. -/
  margin : Nat
  /-- The number of columns of a line. -/
  columns : Nat

namespace Layout

/-- A grid on its own: blanks between entries. -/
def plain : Layout := ⟨" ", 0, 75⟩

/-- A grid inside the brackets of its written form: commas between entries, and one
column is left for the closing bracket. -/
def enclosed : Layout := ⟨", ", 6, 74⟩

/-- In a grid of more entries than this, long axes are shown by their ends. -/
def sizeLimit : Nat := 1000

/-- The number of places shown at each end of a long axis. -/
def edge : Nat := 3

/-- Whether a place on an axis of size `n` is shown. -/
def isShown (short : Bool) (n j : Nat) : Bool :=
  !short || n ≤ 2 * edge || j < edge || n ≤ j + edge

/-- The places shown on an axis of size `n`, with a gap where some are left out. -/
def places (short : Bool) (n : Nat) : List (Option Nat) :=
  if short && 2 * edge < n then
    (List.range edge).map some ++ none :: (List.range' (n - edge) edge).map some
  else (List.range n).map some

/-- A text without the blanks at its end. -/
def trimEnd (s : String) : String :=
  String.ofList (s.toList.reverse.dropWhile (· = ' ')).reverse

/-- So many blanks. -/
def blanks (n : Nat) : String := String.ofList (List.replicate n ' ')

/-- Lines filled with words, after the lines that are `done` and the one begun. A word
that does not fit goes to a new line, unless it would be the first there as well. -/
def fill (l : Layout) (indent columns : Nat) (done line : String) : List String → String
  | [] => done ++ line
  | word :: rest =>
    let word' := if rest.isEmpty then word else word ++ l.separator
    if columns < line.length + word.length && indent < line.length then
      l.fill indent columns (done ++ trimEnd line ++ "\n") (blanks indent ++ word') rest
    else l.fill indent columns done (line ++ word') rest

/-- The block of a grid below an index of its outer axes, where `outer` lists the axes
that remain from the outermost inwards, and the block begins after `indent` columns.
Blocks of more axes are further apart. -/
def block (l : Layout) (short : Bool) (cell : List Nat → String) (indent columns : Nat)
    (index : List Nat) : (outer : List Nat) → String
  | [] => cell index
  | n :: outer =>
    let words := (places short n).map fun
      | some j => l.block short cell (indent + 1) (columns - 1) (j :: index) outer
      | none => "..."
    let lines :=
      if outer.isEmpty then
        String.ofList ((l.fill indent (columns - 1) "" (blanks indent) words).toList.drop indent)
      else
        (trimEnd l.separator ++ String.ofList (List.replicate outer.length '\n') ++
          blanks indent).intercalate words
    "[" ++ lines ++ "]"

/-- The text of a grid of words. An empty one shows only a pair of brackets. -/
def render (l : Layout) (g : Grid UInt64) : String :=
  if g.count = 0 then "[]"
  else
    let short := decide (sizeLimit < g.count)
    let shown := (Grid.indices g.axes).filter fun index =>
      (g.axes.zip index).all fun (n, j) => isShown short n j
    let width := shown.foldl (fun width index => max width (toString (g.entry index)).length) 0
    let cell (index : List Nat) : String :=
      let digits := toString (g.entry index)
      blanks (width - digits.length) ++ digits
    l.block short cell (l.margin + 1) l.columns [] g.shape

end Layout

namespace Grid

/-- The sizes of axes as a tuple. -/
def shapeText (shape : List Nat) : String :=
  "(" ++ ", ".intercalate (shape.map toString) ++ (if shape.length = 1 then ",)" else ")")

/-- The text of a grid on its own. -/
def render (g : Grid UInt64) : String := Layout.plain.render g

/-- The written form of a grid where it is told apart from lists. The shape is named when
the entries do not show it, and what does not fit the last line goes to a new one. -/
def quoted (g : Grid UInt64) : String :=
  let body := "array(" ++ Layout.enclosed.render g ++ ","
  let hidden := (g.count = 0 ∧ g.shape ≠ [0]) ∨ Layout.sizeLimit < g.count
  let closing :=
    (if hidden then "shape=" ++ shapeText g.shape ++ ", " else "") ++ "dtype=uint64)"
  let lastLine := body.toList.reverse.takeWhile (· ≠ '\n')
  body ++ (if 75 < lastLine.length + closing.length + 1 then "\n" ++ Layout.blanks 6 else " ") ++
    closing

end Grid

end TowerFold
