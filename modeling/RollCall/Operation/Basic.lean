import RollCall.Aggregation.Basic
import RollCall.Calendar.Date
import RollCall.Join
import RollCall.Statistics.Tests
import RollCall.Votes.Matrix

/-!
# Operations

The ten operations a step may carry out, with their parameters. Conditions and expressions are kept
as the document gives them and read when the operation is carried out.
-/
namespace RollCall

/-- Take a table from the store, or those of its rows that mention one of some phrases. -/
structure SourceParameters where
  table : String
  phrases : List String := []
  phraseColumn : String := "text"

structure JoinParameters where
  on : List String
  kind : JoinKind := .inner
  /-- What is added to the names of columns that both sides have. -/
  suffixes : String × String := ("_x", "_y")

structure VotesParameters where
  divisions : List Nat
  chamber : Chamber
  weights : Weights
  namesPrefix : String := "division_"

structure RescaleParameters where
  method : String
  columns : Option (List String) := none
  denominator : Option String := none

structure PeriodParameters where
  dateColumn : String := "date"
  frequency : Frequency := .month
  output : String := "_period"

/-- Flag the rows whose member has an interest that mentions a phrase. -/
structure InterestParameters where
  phrase : String
  output : String
  table : String := "member_interests"
  memberColumn : String := "m_id"
  textColumn : String := "interest"
  on : String := "member_id"

inductive Operation
  | source (p : SourceParameters)
  | filter (condition : Json)
  /-- Assign expressions to columns, one after the other. -/
  | mutate (assignments : List (String × Json))
  | aggregate (p : AggregateParameters)
  | join (p : JoinParameters)
  | divisionVotes (p : VotesParameters)
  | test (t : Test)
  | rescale (p : RescaleParameters)
  | period (p : PeriodParameters)
  | interestFlag (p : InterestParameters)

namespace Operation

def name : Operation → String
  | source _ => "source"
  | filter _ => "filter"
  | mutate _ => "mutate"
  | aggregate _ => "aggregate"
  | join _ => "join"
  | divisionVotes _ => "division_votes"
  | test _ => "stat_test"
  | rescale _ => "standardise"
  | period _ => "timebin"
  | interestFlag _ => "interest_flag"

def arity : Operation → Arity
  | source _ | divisionVotes _ => .none
  | join _ => .atLeast 2
  | _ => .one

end Operation
end RollCall
