import RowSieve.Evaluation.Selection
import RowSieve.Log
import RowSieve.Predicate.Rendering
import RowSieve.Sorted
import RowSieve.Storage.File
import RowSieve.Storage.Settings

/-!
# Reading Stored Tables

A stored table is read in batches, cut down to the columns that are wanted,
and filtered batch by batch. Wanted are the columns that the caller asks for
and those that the predicate needs, so a predicate finds its columns whether
the caller asked for them or not. A wanted column that the table lacks is
reported and left out; if the predicate needs it, evaluation will say so.

An error says what was being done to which file and why that failed, from the
outside in.

## Main definitions

* `ReadError`: Why a file could not be read.
* `ReadError.chain`: What is said about it, from the outside in.
* `Batch.pieces`: A table cut into batches.
* `wantedColumns`: The names that are wanted, sorted, each once.
* `StoredFile.read`: The matching batches of one file.
* `readAll`: The matching batches of many files.
-/

namespace RowSieve

/-- Why a file could not be read. -/
inductive ReadError where
  | cannotOpen (file : String)
  | notATable (file : String) (flaw : FooterFlaw)
  | cannotFilter (file : String) (p : Predicate) (cause : EvaluationError)

namespace ReadError

/-- What is said about an error, from the outside in. -/
def chain : ReadError → List String
  | .cannotOpen file =>
    ["Failed to open parquet file: " ++ file, "No such file or directory (os error 2)"]
  | .notATable file flaw => ["Failed to read parquet file: " ++ file, flaw.message]
  | .cannotFilter file p cause =>
    ("Failed to apply predicate `" ++ p.text ++ "` to " ++ file) :: cause.chain

end ReadError

/-- A list cut into pieces of a size, the last one perhaps shorter. There are
    no pieces of size zero. -/
def pieces {α : Type} (size : Nat) (xs : List α) : List (List α) :=
  match xs with
  | [] => []
  | x :: rest =>
    if size = 0 then []
    else (x :: rest).take size :: pieces size ((x :: rest).drop size)
termination_by xs.length
decreasing_by
  rename_i h
  simp only [List.length_drop, List.length_cons]
  omega

/-- A table cut into batches. -/
def Batch.pieces (b : Batch) (size : Nat) : List Batch :=
  (RowSieve.pieces size b.rows).map fun rows => ⟨b.schema, rows⟩

/-- The columns that are wanted: those that the caller asks for and those that
    the predicate needs. Without projection, or when nothing in particular is
    asked for, there is no choice to make. -/
def wantedColumns (p : Predicate) (asked : Option (List String)) (settings : Settings) :
    Option (List String) :=
  match asked with
  | some names =>
    if settings.projectColumns then some (Sorted.ofList (p.requiredColumns ++ names)) else none
  | none => none

/-- The reports of wanted columns that a table lacks. -/
def missingLines (file : String) (s : Schema) (wanted : List String) : List LogLine :=
  (wanted.filter fun name => !s.names.contains name).map fun name =>
    ⟨.warning, "Column " ++ name ++ " not found in " ++ file ++ ", skipping"⟩

/-- How many rows some batches have together. -/
def totalSize (bs : List Batch) : Nat := bs.foldr (fun b n => b.size + n) 0

/-- The report of how many rows were kept. -/
def selectivityLine (file : String) (total : Nat) (kept : List Batch) : LogLine :=
  if totalSize kept = 0 then
    ⟨.info, "No records matched the filter criteria in file: " ++ file⟩
  else
    ⟨.debug, "Applied predicate to file " ++ file ++ ": kept " ++
      String.ofList (Decimal.digits (totalSize kept)) ++ " of " ++
      String.ofList (Decimal.digits total) ++ " rows in " ++
      String.ofList (Decimal.digits kept.length) ++ " batches"⟩

/-- The matching batches of a table that is stored under a name. -/
def readTable (file : String) (table : Batch) (p : Predicate) (asked : Option (List String))
    (settings : Settings) : Except ReadError (List Batch × List LogLine) :=
  let wanted := wantedColumns p asked settings
  let warnings := (wanted.map (missingLines file table.schema)).getD []
  let projected := (wanted.map table.restrict).getD table
  let batches := projected.pieces settings.batchSize
  match selectAll settings.parallelThreshold p batches with
  | .error cause => .error (.cannotFilter file p cause)
  | .ok kept =>
    let report :=
      if settings.logSelectivity then [selectivityLine file (totalSize batches) kept] else []
    .ok (kept, warnings ++ report)

/-- The matching batches of one file, and what there is to report. -/
def StoredFile.read (f : StoredFile) (p : Predicate) (asked : Option (List String))
    (settings : Settings) : Except ReadError (List Batch × List LogLine) :=
  match f.content with
  | .missing => .error (.cannotOpen f.name)
  | .bytes bs => .error (.notATable f.name (footerFlaw bs))
  | .table t => readTable f.name t p asked settings

/-- The report of many files. -/
def loadedLine (batches files : Nat) : LogLine :=
  ⟨.info, "Loaded " ++ String.ofList (Decimal.digits batches) ++ " matching batches from " ++
    String.ofList (Decimal.digits files) ++ " Parquet files"⟩

/-- The matching batches of many files, one file after the other. -/
def readAll (fs : List StoredFile) (p : Predicate) (asked : Option (List String))
    (settings : Settings) : Except ReadError (List Batch × List LogLine) := do
  let results ← fs.mapM fun f => f.read p asked settings
  let batches := results.flatMap Prod.fst
  .ok (batches, results.flatMap Prod.snd ++ [loadedLine batches.length fs.length])

end RowSieve
