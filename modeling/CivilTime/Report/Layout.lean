import CivilTime.Failure
import CivilTime.Text.Align

/-!
# The layout of a report

A report is a list of lines. It is divided by **banners**, which go across the page, and
**headings**, which are underlined; what it lists it lists in **tables**, with columns as
wide as their widest cell and two spaces between them.
-/

namespace CivilTime.Report

/-- The width of the page. -/
def pageWidth : Nat := 90

/-- A title across the page. -/
def banner (title : String) : List String :=
  let line := Text.rule '=' pageWidth
  ["", line, "  " ++ title, line]

/-- An underlined title. -/
def heading (title : String) : List String :=
  ["", "  " ++ title, "  " ++ Text.rule '-' (title.length + 2)]

/-- The widths of columns, widened for the cells of a row. A row cannot have more cells than
there are columns. -/
def widen : List Nat → List String → Except Failure (List Nat)
  | widths, [] => .ok widths
  | [], _ :: _ => .error .outOfTable
  | width :: widths, cell :: cells => return max width cell.length :: (← widen widths cells)

/-- The cells of a row in their columns; cells that are missing are empty. -/
def alignedCells : List Nat → List String → List String
  | [], _ => []
  | width :: widths, [] => Text.alignLeft width "" :: alignedCells widths []
  | width :: widths, cell :: cells => Text.alignLeft width cell :: alignedCells widths cells

/-- **A table**: the headers, a line under each, and the rows. -/
def table (headers : List String) (rows : List (List String)) (indent : Nat := 4) :
    Except Failure (List String) := do
  let widths ← rows.foldlM widen (headers.map String.length)
  let line (cells : List String) := Text.rule ' ' indent ++ "  ".intercalate cells
  return line (alignedCells widths headers) :: line (widths.map (Text.rule '-'))
    :: rows.map fun row => line (alignedCells widths row)

/-- The text of a report: its lines, each of them ended. -/
def text (lines : List String) : String :=
  String.join (lines.map (· ++ "\n"))

end CivilTime.Report
