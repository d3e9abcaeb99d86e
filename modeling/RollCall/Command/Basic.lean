import RollCall.Command.Arguments
import RollCall.Pipeline.Reading
import RollCall.Pipeline.Run
import RollCall.Votes.Settings

/-!
# Commands

What the commands do, as functions of the files and variables they find and of the answers to
requests for rolls. The outcome says what to print, what to write and how to exit.
-/
namespace RollCall

structure World where
  file? : String → Option String
  setting? : String → Option String
  /-- What comes of a request to an address, after so many others. -/
  respond : String → Nat → Response

structure Outcome where
  exitCode : Nat
  output : String := ""
  /-- A file to write and its text. -/
  file : Option (String × String) := none
deriving DecidableEq

namespace Outcome

def failed : Outcome := ⟨1, "", none⟩

def misused : Outcome := ⟨2, "", none⟩

def reported (failure : Failure) : Outcome :=
  ⟨1, failure.report.toJson.pretty ++ "\n", none⟩

end Outcome

namespace Command

def versionText : String := "whip 0.3.0\n"

def helpText : String :=
  String.join <| List.map (· ++ "\n")
    ["Declarative analysis pipelines over UK parliamentary records",
     "",
     "Usage: whip [OPTIONS] <COMMAND>",
     "",
     "Commands:",
     "  run       Run a pipeline document against a registry of named tables",
     "  validate  Lint a pipeline document",
     "  votes     Fetch and print the normalized vote roll for one division",
     "  help      Print this message or the help of the given subcommand(s)",
     "",
     "Options:",
     "  -v, --verbose  Enable verbose logging",
     "  -h, --help     Print help",
     "  -V, --version  Print version"]

variable [Library]

def load? (w : World) (path : String) : Option Json :=
  (w.file? path).bind Json.read?

/-- The source of rolls behind the addresses of some settings. -/
def source (w : World) (s : Settings) : Source := fun requests d =>
  ((w.respond (s.address d) requests.length).payload s.timeout).mapError fun cause =>
    .fetch ⟨d, cause⟩

def fetcher (w : World) (s : Settings) : Fetcher :=
  ⟨source w s, s.attempts, s.backoff⟩

def freshState (s : Settings) : VoteState :=
  { cache := .empty s.cacheCapacity }

/-- The settings of the variables with those of the options in their place. -/
def settingsFor (w : World) (o : RunOptions) : Except Failure Settings := do
  let s ← Settings.ofVariables w.setting?
  return { s with
    cacheCapacity := o.cacheCapacity.getD s.cacheCapacity
    attempts := o.attempts.getD s.attempts }

def resultOf (w : World) (s : Settings) (checks : Bool) (store : TableStore) (v : Json) :
    Except Failure Json := do
  let p ← Pipeline.ofJson v
  let runner : Runner := ⟨store, fetcher w s, checks⟩
  return Runner.document (← (runner.run p (freshState s)).result)

def runPipeline (w : World) (o : RunOptions) : Outcome :=
  match settingsFor w o with
  | .error _ => .failed
  | .ok s =>
    match load? w o.pipeline, (load? w o.registry).map TableStore.ofJson with
    | some v, some (.ok store) =>
      match resultOf w s o.checks store v with
      | .error failure => .reported failure
      | .ok result =>
        match o.output with
        | some path => ⟨0, "", some (path, result.pretty)⟩
        | none => ⟨0, result.pretty ++ "\n", none⟩
    | _, _ => .failed

def validatePipeline (w : World) (path : String) : Outcome :=
  match (load? w path).map Pipeline.ofJson with
  | none => .failed
  | some (.error failure) => .reported failure
  | some (.ok p) =>
    match Lint.findings p with
    | [] => ⟨0, s!"Pipeline is valid ({p.steps.length} steps)\n", none⟩
    | found =>
      ⟨if found.any Finding.isError then 1 else 0,
        String.join (found.map fun f => f.line ++ "\n"), none⟩

def printVotes (w : World) (division house : Nat) : Outcome :=
  match Chamber.ofHouseNumber? house, Settings.ofVariables w.setting? with
  | some chamber, .ok s =>
    match ((fetcher w s).fetch ⟨division, chamber⟩ (freshState s)).result with
    | .ok t => ⟨0, (Json.arr t.toRecords).pretty ++ "\n", none⟩
    | .error _ => .failed
  | _, _ => .failed

def perform (w : World) : Command → Outcome
  | run o => runPipeline w o
  | validate path => validatePipeline w path
  | votes division house => printVotes w division house
  | version => ⟨0, versionText, none⟩
  | help => ⟨0, helpText, none⟩

def start (w : World) (args : List String) : Outcome :=
  match ofArguments? args with
  | some c => c.perform w
  | none => .misused

def files : Command → List String
  | run o => [o.pipeline, o.registry]
  | validate path => [path]
  | _ => []

end Command
end RollCall
