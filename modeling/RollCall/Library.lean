import RollCall.Decimal.Reading
import RollCall.Statistics.Matrix

/-!
# What other libraries do

Regular expressions, Student's t-distribution, the linear algebra of small matrices and the reading
of JSON numbers come from other libraries. All that rests on them takes them as an instance of
`Library`, and what is proved about it holds of any. The program runs with `Library.standard`.
-/
namespace RollCall

class Library where
  /-- The test that a regular expression makes of texts, or why it is none. -/
  compile : String → Except String (String → Bool)
  /-- The probability of a value below `t`, which is not negative. -/
  cumulative (t freedom : Float) : Float
  singularValues : Statistics.Matrix → List Float
  inverse? : Statistics.Matrix → Option Statistics.Matrix
  /-- The double that a JSON number with a fraction, with an exponent or out of range is read as. If
  it is not finite, the number cannot be read. -/
  decimal : Decimal.Literal → Float
  /-- What is said of a text that is no JSON. -/
  syntaxFault : String → String

end RollCall
