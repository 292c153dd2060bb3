/-!
# Log Lines

What a caller can learn about a run besides its result. Lines are values:
an operation that reports something returns its lines, in the order in which
they were reported.

## Main definitions

* `LogLine`: A line with its level.
* `LogLine.text`: The line with its level in front.
-/

namespace RowSieve

/-- How much a line matters. -/
inductive LogLevel where
  | debug
  | info
  | warning
deriving DecidableEq

/-- The name of a level. -/
def LogLevel.name : LogLevel → String
  | .debug => "DEBUG"
  | .info => "INFO"
  | .warning => "WARN"

/-- A line with its level. -/
structure LogLine where
  level : LogLevel
  message : String
deriving DecidableEq

/-- The line with its level in front. -/
def LogLine.text (l : LogLine) : String := l.level.name ++ " " ++ l.message

end RowSieve
