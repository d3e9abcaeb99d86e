import RollCall.Calendar.Reading
import RollCall.Transform.Basic

/-!
# Labels of periods

A cell that holds a date is labelled with the first day of the period it lies in.
-/
namespace RollCall.Transform

/-- The label of a cell of a column; a missing cell has none. -/
def periodLabel (column : String) (f : Frequency) (c : Cell) : Except TransformFault Cell :=
  if c.isMissing then .ok .null
  else
    match c.toText? with
    | none => .error (.notDate column c)
    | some s =>
      match Date.read? s with
      | none => .error (.badDate s)
      | some d => .ok (.text (d.startOf f).text)

def periodLabels (column : String) (f : Frequency) (cells : List Cell) :
    Except TransformFault (List Cell) :=
  cells.mapM (periodLabel column f)

end RollCall.Transform
