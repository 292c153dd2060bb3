/-!
# Settings for Reading

What a caller can choose about reading stored tables. None of it changes which
rows are found. The size of a batch decides how the rows are cut up, and the
columns that are returned depend on whether columns are projected at all.

## Main definitions

* `Settings`: The choices, with their defaults.
-/

namespace RowSieve

/-- What a caller can choose about reading stored tables. -/
structure Settings where
  /-- How many rows are read at a time. -/
  batchSize : Nat := 8192
  /-- Only the columns that are asked for or needed are read. -/
  projectColumns : Bool := true
  /-- From how many batches on the work is shared out. -/
  parallelThreshold : Nat := 4
  /-- How many rows were kept is reported. -/
  logSelectivity : Bool := true
deriving DecidableEq

end RowSieve
