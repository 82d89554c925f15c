import Rollout.Run.Activity
import Rollout.Text.Blank
import Rollout.Text.Cut

/-!
# Rows of output

The output of a query is read line by line: the columns of a row are separated by tabs, blanks
around a column do not count, and a line with nothing but blanks is no row.
-/

namespace Rollout.Sqlcmd

/-- The columns of a line. -/
def parseRow (line : List Char) : Row :=
  (Text.fields '\t' line).map fun column => String.ofList (Text.trimChars column)

/-- The rows of an output. -/
def parseRows (output : String) : List Row :=
  ((Text.lines output.toList).filter fun line => !line.all Text.isBlank).map parseRow

end Rollout.Sqlcmd
