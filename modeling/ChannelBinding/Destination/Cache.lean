import ChannelBinding.Registry

/-!
# The destination cache

One cell a destination name, filled at most once.  A call that wants to fill a cell needs the cell's
permit; there is one permit, and the calls that ask for it while it is taken wait in line.  Whoever
gives the permit back passes it to the first in line.  The cache removes a cell that was not filled
once the last call that holds it lets go of it.
-/

namespace ChannelBinding

/-- The handle of a cell. -/
structure CellId where
  index : Nat
deriving DecidableEq, Repr, Inhabited

/-- The number of a call on the cache. -/
structure Ticket where
  number : Nat
deriving DecidableEq, Repr, Inhabited

/-- A resolved destination. -/
structure Resolved where
  channel : ChannelId
  binding : BindingId
deriving DecidableEq, Repr, Inhabited

/-- A slot for one resolved destination. -/
structure Cell where
  value : Option Resolved := none
  /-- The call that has the permit to fill the cell. -/
  permit : Option Ticket := none
  /-- The calls that wait for the permit, the first in line first. -/
  line : List Ticket := []
  /-- The calls that hold the cell. -/
  holders : List Ticket := []
deriving DecidableEq, Repr, Inhabited

namespace Cell

/-- What asking for a cell comes to. -/
inductive Claim where
  /-- The cell is filled. -/
  | filled (value : Resolved)
  /-- The call may fill the cell. -/
  | permitted
  /-- The call has to wait. -/
  | queued
deriving DecidableEq, Repr

/-- Asks for the value of a cell, or for the permit to fill it. -/
def claim (cell : Cell) (t : Ticket) : Cell × Claim :=
  match cell.value, cell.permit with
  | some v, _ => (cell, .filled v)
  | none, none => ({ cell with permit := some t }, .permitted)
  | none, some holder =>
    if holder = t then (cell, .permitted)
    else if t ∈ cell.line then (cell, .queued)
    else ({ cell with line := cell.line ++ [t] }, .queued)

/-- Gives back the permit, or the place in line. -/
def giveUp (cell : Cell) (t : Ticket) : Cell :=
  if cell.permit = some t then { cell with permit := cell.line.head?, line := cell.line.tail }
  else { cell with line := cell.line.erase t }

/-- Fills a cell; nobody has to wait for it any more. -/
def fill (cell : Cell) (v : Resolved) : Cell :=
  { cell with value := some v, permit := none, line := [] }

/-- Takes hold of a cell. -/
def hold (cell : Cell) (t : Ticket) : Cell := { cell with holders := t :: cell.holders }

/-- Lets go of a cell. -/
def letGo (cell : Cell) (t : Ticket) : Cell := { cell with holders := cell.holders.erase t }

end Cell

/-- The cells of all calls, and the names under which calls find them. -/
structure Cache where
  cells : Array Cell := #[]
  entries : Table String CellId := ∅
  /-- The number of tickets given out. -/
  issued : Nat := 0
deriving Repr, Inhabited

namespace Cache

/-- The cell of a handle. -/
def cell? (c : Cache) (id : CellId) : Option Cell := c.cells[id.index]?

/-- The cache with a cell changed. -/
def modify (c : Cache) (id : CellId) (change : Cell → Cell) : Cache :=
  { c with cells := c.cells.modify id.index change }

/-- The resolved destination of a name. -/
def get? (c : Cache) (name : String) : Option Resolved := do
  let id ← c.entries.get? name
  let cell ← c.cell? id
  cell.value

/-- Takes hold of the cell of a name, a new one if the name has none, with a fresh ticket. -/
def enter (c : Cache) (name : String) : Cache × CellId × Ticket :=
  let t : Ticket := ⟨c.issued⟩
  match c.entries.get? name with
  | some id => ({ c.modify id (·.hold t) with issued := c.issued + 1 }, id, t)
  | none =>
    let id : CellId := ⟨c.cells.size⟩
    ({ cells := c.cells.push { holders := [t] }
       entries := c.entries.insert name id
       issued := c.issued + 1 }, id, t)

/-- Asks a cell for its value or its permit. -/
def claim (c : Cache) (id : CellId) (t : Ticket) : Cache × Cell.Claim :=
  match c.cell? id with
  | none => (c, .queued)
  | some cell =>
    let (cell', claim) := cell.claim t
    (c.modify id fun _ => cell', claim)

/-- Fills a cell and lets go of it. -/
def fill (c : Cache) (id : CellId) (t : Ticket) (v : Resolved) : Cache :=
  c.modify id fun cell => (cell.fill v).letGo t

/-- Gives back the permit of a cell, or the place in its line. -/
def giveUp (c : Cache) (id : CellId) (t : Ticket) : Cache := c.modify id (·.giveUp t)

/-- Lets go of a cell. -/
def letGo (c : Cache) (id : CellId) (t : Ticket) : Cache := c.modify id (·.letGo t)

/-- Whether a cell is the one of a name, is not filled, and is held by one call alone. -/
def unused (c : Cache) (name : String) (id : CellId) (t : Ticket) : Bool :=
  c.entries.get? name = some id &&
    (c.cell? id).any fun cell => cell.value.isNone && cell.holders = [t]

/-- Lets go of a cell that was not filled, and removes it if nobody else holds it. -/
def forget (c : Cache) (name : String) (id : CellId) (t : Ticket) : Cache :=
  let c' := c.letGo id t
  if c.unused name id t then { c' with entries := c'.entries.erase name } else c'

/-- The names of the resolved destinations, in ascending order. -/
def names (c : Cache) : List String :=
  sortNames (c.entries.keys.filter fun name => (c.get? name).isSome)

/-- The number of resolved destinations. -/
def size (c : Cache) : Nat := c.names.length

end Cache

end ChannelBinding
