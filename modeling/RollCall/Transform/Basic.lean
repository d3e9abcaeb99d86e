import RollCall.Cell.Basic

/-!
# Faults of column transformations

Why the cells of a column cannot be rescaled or collected over time.
-/
namespace RollCall

inductive TransformFault
  | unknownMethod (word : String)
  | noDenominator
  | unknownDenominator (name : String)
  | unknownColumn (name : String)
  | notNumeric (column : String) (cell : Cell)
  | unknownDateColumn (name : String)
  | notDate (column : String) (cell : Cell)
  | badDate (text : String)
  /-- A fault known by its wording only. -/
  | stated (text : String)

def TransformFault.message : TransformFault → String
  | unknownMethod word => s!"unknown standardise method '{word}'"
  | noDenominator => "divide_by needs a 'denominator' column"
  | unknownDenominator name => s!"unknown denominator column '{name}'"
  | unknownColumn name => s!"unknown column '{name}'"
  | notNumeric column cell => s!"column '{column}' holds non-numeric value '{cell.display}'"
  | unknownDateColumn name => s!"unknown date column '{name}'"
  | notDate column cell => s!"'{cell.display}' in '{column}' is not a date"
  | badDate text => s!"cannot parse date '{text}'"
  | stated text => text

end RollCall
