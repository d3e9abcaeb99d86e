import RollCall.Text.Integer

/-!
# Arguments of the command line

The three commands with their options, and how they are read. An option stands in front of its
value, in the next argument or after an equals sign, and a short one also directly before it. Two
hyphens end the options.
-/
namespace RollCall

structure RunOptions where
  pipeline : String
  registry : String
  output : Option String := none
  checks : Bool := true
  cacheCapacity : Option Nat := none
  attempts : Option Nat := none
deriving DecidableEq

inductive Command
  | run (o : RunOptions)
  | validate (pipeline : String)
  | votes (division house : Nat)
  | version
  | help
deriving DecidableEq

namespace Command

/-- An option by its names, and whether it takes a value. -/
structure OptionForm where
  long : String
  short : Option Char := none
  takesValue : Bool := true

/-- Options that are understood with every command. -/
def commonForms : List OptionForm :=
  [⟨"verbose", some 'v', false⟩, ⟨"help", some 'h', false⟩]

def runForms : List OptionForm :=
  commonForms ++
    [⟨"registry", some 'r', true⟩, ⟨"output", some 'o', true⟩, ⟨"no-validate", none, false⟩,
     ⟨"cache-capacity", none, true⟩, ⟨"retries", none, true⟩]

def validateForms : List OptionForm := commonForms

def votesForms : List OptionForm := commonForms ++ [⟨"house", none, true⟩]

def mainForms : List OptionForm := commonForms ++ [⟨"version", some 'V', false⟩]

/-- Options with their values, and the other arguments in order. -/
structure Given where
  options : List (String × String) := []
  operands : List String := []

def isOption (arg : String) : Bool :=
  match arg.toList with
  | '-' :: _ :: _ => true
  | _ => false

def nextValue? : List String → Option (String × List String)
  | [] => none
  | arg :: args => if isOption arg then none else some (arg, args)

/-- The name of an argument with two hyphens, and its value after an equals sign. -/
def splitLong (cs : List Char) : String × Option String :=
  match cs.dropWhile (· != '=') with
  | _ :: value => (String.ofList (cs.takeWhile (· != '=')), some (String.ofList value))
  | [] => (String.ofList cs, none)

def long? (forms : List OptionForm) (cs : List Char) (args : List String) :
    Option ((String × String) × List String) := do
  let (name, value) := splitLong cs
  let form ← forms.find? fun f => f.long = name
  match form.takesValue, value with
  | true, some v => return ((name, v), args)
  | true, none =>
    let (v, args) ← nextValue? args
    return ((name, v), args)
  | false, none => return ((name, ""), args)
  | false, some _ => none

/-- Whether help or the version is asked for. -/
def isQuestion (name : String) : Bool :=
  name = "help" || name = "version"

/-- The options that are written together after one hyphen, and the arguments after them. Nothing is
read after a question for help or the version. -/
def short? (forms : List OptionForm) : List Char → List String →
    Option (List (String × String) × List String)
  | [], args => some ([], args)
  | c :: cs, args => do
    let form ← forms.find? fun f => f.short = some c
    if isQuestion form.long then
      return ([(form.long, "")], args)
    else if form.takesValue then
      match cs with
      | [] =>
        let (v, args) ← nextValue? args
        return ([(form.long, v)], args)
      | '=' :: v => return ([(form.long, String.ofList v)], args)
      | v => return ([(form.long, String.ofList v)], args)
    else
      let (more, args) ← short? forms cs args
      return ((form.long, "") :: more, args)

namespace Given

def value? (g : Given) (name : String) : Option String :=
  (g.options.find? fun o => o.1 = name).map Prod.snd

def has (g : Given) (name : String) : Bool :=
  (g.value? name).isSome

/-- Add options, none of which may be given twice. -/
def add? (g : Given) (options : List (String × String)) : Option Given :=
  if (options.map Prod.fst).any g.has || !(options.map Prod.fst).Nodup then none
  else some { g with options := g.options ++ options }

end Given

/-- Read the arguments of a command in at most so many steps. Nothing is read after the first
operand if `stops` says so, or after a question for help or the version. -/
def read? (forms : List OptionForm) (stops : Bool) :
    Nat → Given → List String → Option (Given × List String)
  | 0, g, args => some (g, args)
  | _, g, [] => some (g, [])
  | n + 1, g, arg :: args =>
    match arg.toList with
    | ['-', '-'] => some ({ g with operands := g.operands ++ args }, [])
    | '-' :: '-' :: cs => do
      let (o, args) ← long? forms cs args
      let g ← g.add? [o]
      if isQuestion o.1 then return (g, args) else read? forms stops n g args
    | '-' :: c :: cs => do
      let (os, args) ← short? forms (c :: cs) args
      let g ← g.add? os
      if os.any (isQuestion ·.1) then return (g, args) else read? forms stops n g args
    | _ =>
      let g := { g with operands := g.operands ++ [arg] }
      if stops then some (g, args) else read? forms stops n g args

def path? (s : String) : Option String :=
  if s.isEmpty then none else some s

def number? (s : String) : Option Nat :=
  Text.toNatBelow? 0x10000000000000000 s

def spare? (item : String → Option α) : Option String → Option (Option α)
  | none => some none
  | some s => (item s).map some

def runOf? (g : Given) : Option Command := do
  let [pipeline] := g.operands | none
  return .run {
    pipeline := ← path? pipeline
    registry := ← (g.value? "registry").bind path?
    output := ← spare? path? (g.value? "output")
    checks := !g.has "no-validate"
    cacheCapacity := ← spare? number? (g.value? "cache-capacity")
    attempts := ← spare? number? (g.value? "retries") }

def validateOf? (g : Given) : Option Command := do
  let [pipeline] := g.operands | none
  return .validate (← path? pipeline)

def votesOf? (g : Given) : Option Command := do
  let [division] := g.operands | none
  let house ← number? ((g.value? "house").getD "1")
  if 1 ≤ house ∧ house ≤ 2 then return .votes (← number? division) house else none

/-- A command whose arguments are read by `make`. -/
def commandOf? (forms : List OptionForm) (make : Given → Option Command) (args : List String) :
    Option Command := do
  let (g, _) ← read? forms false args.length {} args
  if g.has "help" then return .help else make g

/-- Whether there is help on what the arguments name. -/
def isTopic : List String → Bool
  | [] => true
  | [name] => name ∈ ["run", "validate", "votes", "help"]
  | _ => false

def ofArguments? (args : List String) : Option Command := do
  let (g, rest) ← read? mainForms true args.length {} args
  if g.has "help" then return .help
  else if g.has "version" then return .version
  else
    match g.operands with
    | ["run"] => commandOf? runForms runOf? rest
    | ["validate"] => commandOf? validateForms validateOf? rest
    | ["votes"] => commandOf? votesForms votesOf? rest
    | ["help"] => if isTopic rest then return .help else none
    | _ => none

end Command
end RollCall
