import RollCall.Statistics.Basic
import RollCall.Table.Records

/-!
# Artifacts

What a step leaves behind: a table or the result of a statistical test.
-/
namespace RollCall

inductive Artifact
  | table (t : Table)
  | result (r : TestResult)

namespace Artifact

def kind : Artifact → String
  | table _ => "table"
  | result _ => "stat"

def table? : Artifact → Option Table
  | table t => some t
  | result _ => none

/-- The written form: the rows of a table, or the fields of a result. -/
def toJson : Artifact → Json
  | table t => .arr t.toRecords
  | result r => r.toJson

end Artifact
end RollCall
