import RollCall.Votes.Division

/-!
# A cache of rolls

A bounded store of what has been fetched. Every use of an entry is stamped with the time of a clock
of 64 bits, and the entry whose last use is longest ago makes room for a new one. Times are kept
beside the entries, in a list of their own.
-/
namespace RollCall

/-- Entries by division, with the times of their last use. -/
structure Cache (α : Type) where
  capacity : Nat
  entries : List (Division × α) := []
  lastUse : List (Division × UInt64) := []
  clock : UInt64 := 0

namespace Cache

def drop (d : Division) (xs : List (Division × β)) : List (Division × β) :=
  xs.filter fun entry => entry.1 ≠ d

def set (d : Division) (v : β) (xs : List (Division × β)) : List (Division × β) :=
  (d, v) :: drop d xs

def find? (d : Division) (xs : List (Division × β)) : Option β :=
  (xs.find? fun entry => entry.1 = d).map Prod.snd

def standardCapacity : Nat := 256

/-- A cache without entries. Capacity zero means that nothing is kept. -/
def empty (capacity : Nat) : Cache α := { capacity }

def size (c : Cache α) : Nat := c.entries.length

def contains (c : Cache α) (d : Division) : Bool :=
  (find? d c.entries).isSome

def touch (c : Cache α) (d : Division) : Cache α :=
  { c with clock := c.clock + 1, lastUse := set d (c.clock + 1) c.lastUse }

/-- The division with the earliest time, the first one of those at equal times. -/
def earliest? : List (Division × UInt64) → Option (Division × UInt64)
  | [] => none
  | use :: uses =>
    match earliest? uses with
    | some first => if first.2 < use.2 then some first else some use
    | none => some use

def evict (c : Cache α) : Cache α :=
  match earliest? c.lastUse with
  | some (d, _) => { c with entries := drop d c.entries, lastUse := drop d c.lastUse }
  | none => c

/-- Evict, at most so many times, until there is room for an entry. -/
def makeRoom : Nat → Cache α → Cache α
  | 0, c => c
  | n + 1, c => if c.capacity ≤ c.size then makeRoom n c.evict else c

/-- The entry of a division, which counts as a use, and the cache after it. -/
def get (c : Cache α) (d : Division) : Option α × Cache α :=
  match find? d c.entries with
  | some v => (some v, c.touch d)
  | none => (none, c)

def put (c : Cache α) (d : Division) (v : α) : Cache α :=
  if c.capacity = 0 then c
  else
    let c := if c.contains d then c else makeRoom c.size c
    { c with entries := set d v c.entries }.touch d

/-- The cache without its entries; the clock goes on. -/
def clear (c : Cache α) : Cache α :=
  { c with entries := [], lastUse := [] }

end Cache
end RollCall
