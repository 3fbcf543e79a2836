import Lindenmayer.Numeric.ElementType

/-!
The text of an array: rows in brackets within brackets, lines of limited width, and for large arrays
only the first and last entries of each row. The shape lists the numbers of rows from the outermost
dimension to the innermost; cells are the texts of all entries in order.
-/
namespace Lindenmayer.Numeric

/-- The widest that a line gets. -/
def lineWidth : Nat := 75

/-- The most entries that an array shows all of. -/
def shownEntries : Nat := 1000

/-- How many rows are kept at each end where rows are left out. -/
def edge : Nat := 3

/-- A list cut into `n` parts of equal length. -/
def rows {α : Type} (n : Nat) (entries : List α) : List (List α) :=
  let width := entries.length / n
  (List.range n).map fun i => (entries.drop (i * width)).take width

/-- The entries that are shown where rows are left out. -/
def ends {α : Type} : (shape : List Nat) → List α → List α
  | [], entries => entries
  | n :: inner, entries =>
    let all := (rows n entries).map (ends inner)
    (if 2 * edge < n then all.take edge ++ all.drop (n - edge) else all).flatten

/-- The shape that the shown entries have. -/
def endsShape (shape : List Nat) : List Nat :=
  shape.map fun n => if 2 * edge < n then 2 * edge else n

/-- A text without the blanks at its end. -/
def trimEnd (s : List Char) : List Char := (s.reverse.dropWhile (· == ' ')).reverse

/-- Words put after each other on lines of limited width; all but the last have a comma. A line
    begins with an indent. -/
def wrapWords (indent : List Char) (width : Nat) (line : List Char) : List (List Char) → List Char
  | [] => line
  | word :: rest =>
    let breaks := decide (width < line.length + word.length) && decide (indent.length < line.length)
    let filled := (if breaks then indent else line) ++ word
    let more := wrapWords indent width (if rest.isEmpty then filled else filled ++ ", ".toList) rest
    if breaks then trimEnd line ++ '\n' :: more else more

/-- A mark put between the two ends of a list where rows are left out. -/
def withGap (brief : Bool) (full : Nat) (items : List (List Char)) : List (List Char) :=
  if brief && decide (2 * edge < full) then items.take edge ++ "...".toList :: items.drop edge
  else items

/-- Rows in brackets. The full shape says where rows were left out. -/
def bracketed (brief : Bool) : (full : List Nat) → (shape : List Nat) → (cells : List (List Char)) →
    (indent : List Char) → (width : Nat) → List Char
  | _, [], cells, _, _ => cells.flatten
  | full, [_], cells, indent, width =>
    let words := withGap brief (full.headD 0) cells
    '[' :: (wrapWords indent (width - 1) indent words).drop indent.length ++ [']']
  | full, n :: inner, cells, indent, width =>
    let found := (rows n cells).map fun row =>
      bracketed brief full.tail inner row (indent ++ [' ']) (width - 1)
    let breaks := ',' :: List.replicate inner.length '\n' ++ indent
    '[' :: List.intercalate breaks (withGap brief (full.headD 0) found) ++ [']']

/-- A shape as messages show it. -/
def shownShape (shape : List Nat) : String :=
  match shape with
  | [n] => "(" ++ toString n ++ ",)"
  | _ => "(" ++ String.intercalate ", " (shape.map toString) ++ ")"

/-- An array as messages show it, from the cells of the entries that are shown. The type is named if
    the entries do not suggest it, the shape if the brackets do not tell it. -/
def shownArray (type : ElementType) (shape : List Nat) (count : Nat) (cells : List (List Char)) :
    String :=
  let brief := decide (shownEntries < count)
  let lead := "array(".toList
  let shownAs := if brief then endsShape shape else shape
  let body := if count = 0 then "[]".toList
    else bracketed brief shape shownAs cells (List.replicate (lead.length + 1) ' ') (lineWidth - 1)
  let shapeText := if (count = 0 ∧ shape ≠ [0]) ∨ brief = true then ["shape=" ++ shownShape shape]
    else []
  let typeText := if !type.isUsual || count == 0 then ["dtype=" ++ type.shown] else []
  let written := lead ++ body
  match shapeText ++ typeText with
  | [] => String.ofList (written ++ [')'])
  | extras =>
    let extra := (String.intercalate ", " extras).toList ++ [')']
    let lastLine := (written.reverse.takeWhile (· != '\n')).length + 1
    let space := if lineWidth < lastLine + extra.length + 1
      then '\n' :: List.replicate lead.length ' ' else [' ']
    String.ofList (written ++ ',' :: space ++ extra)

end Lindenmayer.Numeric
