import RowSieve.Evaluation.Mask

/-!
# Selecting Rows

The rows that meet a predicate. A row is kept only if its slot of the mask is
met, so a row on which the predicate is unknown is dropped. Rows keep their
order, and a batch that loses all its rows is still a batch.

A predicate that every row meets is not evaluated. The batch is returned as it
is, and that is also the one way in which a batch without columns can be
selected from: a mask cannot be applied to it, since nothing in what is left
would say how many rows there are.

## Main definitions

* `Batch.keep`: The rows that a mask keeps.
* `Batch.filter`: A mask applied to a batch.
* `Batch.select`: The rows that meet a predicate.
* `gather`: The results of attempts made side by side.
* `selectAll`: The rows that meet a predicate, batch by batch.
-/

namespace RowSieve

/-- The rows whose slot is met. -/
def keepMet {α : Type} : List α → Mask → List α
  | row :: rows, t :: m => if t.isMet then row :: keepMet rows m else keepMet rows m
  | _, _ => []

namespace Batch

/-- The batch with the rows whose slot is met. -/
def keep (b : Batch) (m : Mask) : Batch := ⟨b.schema, keepMet b.rows m⟩

/-- A mask applied to a batch. It needs a slot for every row, and a column. -/
def filter (b : Batch) (m : Mask) : Except EvaluationError Batch :=
  if m.length ≠ b.size then .error (.column (.maskLength m.length b.size))
  else if b.schema.width = 0 then .error (.column .noColumns)
  else .ok (b.keep m)

/-- The rows that meet a predicate. -/
def select (b : Batch) (p : Predicate) : Except EvaluationError Batch :=
  if p.isTrivial then .ok b
  else do b.filter (← b.matching p)

end Batch

/-- The results of attempts that were made side by side, if all of them
    succeeded. If several failed, which failure is found first is left open by
    the scheduler, and the leftmost one stands for all of them. -/
def gather {ε α : Type} : List (Except ε α) → Except ε (List α)
  | [] => .ok []
  | .error e :: _ => .error e
  | .ok x :: rest => (gather rest).map (x :: ·)

/-- The rows that meet a predicate, batch by batch. From a number of batches on
    the work is shared out. Batches without such rows are left out. -/
def selectAll (threshold : Nat) (p : Predicate) (bs : List Batch) :
    Except EvaluationError (List Batch) := do
  let selected ←
    if max threshold 1 ≤ bs.length then gather (bs.map fun b => b.select p)
    else bs.mapM fun b => b.select p
  .ok (selected.filter fun b => b.size ≠ 0)

end RowSieve
