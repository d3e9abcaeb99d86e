import RollCall.Json.Token

/-!
# Reading JSON

A text is read token by token, with the open arrays and objects on a stack. An object in which a key
is repeated keeps the first position and the last value. At most 127 values may be open at a time.
-/
namespace RollCall.Json

inductive Frame
  /-- An array with its items so far, the last one first. -/
  | array (done : List Json)
  | object (done : List (String × Json))
  /-- An object in which the value of `key` is being read. -/
  | field (done : List (String × Json)) (key : String)

inductive Expecting
  | value
  | valueOrClose
  | key
  | keyOrClose
  | colon
  | commaOrClose
  | nothing
deriving DecidableEq

def Expecting.allowsValue : Expecting → Bool
  | .value | .valueOrClose => true
  | _ => false

structure Reader where
  stack : List Frame
  expecting : Expecting
  result : Option Json

namespace Reader

def start : Reader := ⟨[], .value, none⟩

/-- The open values a text may have at a time. -/
def depthLimit : Nat := 127

/-- Hand a complete value to the innermost open value. -/
def give (stack : List Frame) (v : Json) : Option Reader :=
  match stack with
  | [] => some ⟨[], .nothing, some v⟩
  | .array done :: stack => some ⟨.array (v :: done) :: stack, .commaOrClose, none⟩
  | .field done key :: stack => some ⟨.object (insert key v done) :: stack, .commaOrClose, none⟩
  | .object _ :: _ => none

def push (stack : List Frame) (frame : Frame) (expecting : Expecting) : Option Reader :=
  if stack.length < depthLimit then some ⟨frame :: stack, expecting, none⟩ else none

def step (r : Reader) : Token → Option Reader
  | .scalar v => if r.expecting.allowsValue then give r.stack v else none
  | .text s =>
    match r.expecting, r.stack with
    | .value, stack | .valueOrClose, stack => give stack (.str s)
    | .key, .object done :: stack | .keyOrClose, .object done :: stack =>
      some ⟨.field done s :: stack, .colon, none⟩
    | _, _ => none
  | .openArray =>
    if r.expecting.allowsValue then push r.stack (.array []) .valueOrClose else none
  | .openObject =>
    if r.expecting.allowsValue then push r.stack (.object []) .keyOrClose else none
  | .closeArray =>
    match r.expecting, r.stack with
    | .valueOrClose, .array done :: stack | .commaOrClose, .array done :: stack =>
      give stack (.arr done.reverse)
    | _, _ => none
  | .closeObject =>
    match r.expecting, r.stack with
    | .keyOrClose, .object done :: stack | .commaOrClose, .object done :: stack =>
      give stack (.obj done)
    | _, _ => none
  | .comma =>
    match r.expecting, r.stack with
    | .commaOrClose, .array _ :: _ => some { r with expecting := .value }
    | .commaOrClose, .object _ :: _ => some { r with expecting := .key }
    | _, _ => none
  | .colon => if r.expecting = .colon then some { r with expecting := .value } else none

end Reader

def read? [Library] (s : String) : Option Json := do
  let tokens ← Token.scan? s
  let reader ← tokens.foldlM Reader.step Reader.start
  reader.result

end RollCall.Json
