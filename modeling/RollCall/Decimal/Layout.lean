import RollCall.Decimal.Shortest

/-!
# How doubles are written

A `Layout` holds the decisions of one written form: which exponents are positional, whether an
integral number keeps its point, and how a tie between two shortest decimals goes. There are two:
`Layout.json`, the number of a JSON text, and `Layout.plain`, the text of a cell in a message.
-/
namespace RollCall.Decimal

structure Layout where
  /-- Between two equally near shortest decimals. -/
  tie : Tie
  /-- The exponents of the leading digit that are written without an exponent mark, if limited. -/
  positional : Option (Int × Int)
  /-- Whether an integral number is written with a point and a zero. -/
  keepsPoint : Bool

/-- JSON numbers are positional from `0.00001` to below `10^16` and keep their point. -/
def Layout.json : Layout := ⟨.even, some (-5, 15), true⟩

/-- Messages write every number positionally, and an integral one without a point. -/
def Layout.plain : Layout := ⟨.up, none, false⟩

def digitChars (n : Nat) : List Char :=
  Nat.toDigits 10 n

def zeros (n : Nat) : List Char :=
  List.replicate n '0'

/-- The position of the leading digit: `3` for `1234.5`. -/
def leading (d : Decimal) : Int :=
  (digitChars d.digits).length - 1 + d.exponent

/-- `d` written with a point and without an exponent mark. -/
def positionalText (keepsPoint : Bool) (d : Decimal) : List Char :=
  let ds := digitChars d.digits
  if 0 ≤ d.exponent then
    ds ++ zeros d.exponent.toNat ++ if keepsPoint then ['.', '0'] else []
  else if 0 ≤ leading d then
    let whole := (leading d + 1).toNat
    ds.take whole ++ '.' :: ds.drop whole
  else
    '0' :: '.' :: zeros (-leading d - 1).toNat ++ ds

/-- `d` written as one digit, the other digits after a point, and a signed exponent. -/
def scientificText (d : Decimal) : List Char :=
  let exponent := leading d
  let mark := (if exponent < 0 then 'e' :: ['-'] else 'e' :: ['+']) ++ digitChars exponent.natAbs
  match digitChars d.digits with
  | [] => mark
  | [c] => c :: mark
  | c :: cs => c :: '.' :: cs ++ mark

def Layout.writeDecimal (l : Layout) (d : Decimal) : List Char :=
  let fits :=
    match l.positional with
    | none => true
    | some (low, high) => decide (low ≤ leading d ∧ leading d ≤ high)
  if fits then positionalText l.keepsPoint d else scientificText d

/-- The written form of a double: the shortest digits that read back, signed zeros included. -/
def Layout.write (l : Layout) (x : Float) : String :=
  match Binary64.parts x with
  | .nan => "NaN"
  | .infinite negative => if negative then "-inf" else "inf"
  | .finite negative mantissa exponent =>
    let text := l.writeDecimal (shortest l.tie mantissa exponent)
    String.ofList (if negative then '-' :: text else text)

end RollCall.Decimal
