import ChannelBinding.Binding
import ChannelBinding.Table

/-!
# The registry of dynamic outputs

The output channels that were created on demand, by name, so that their producers can be released on
shutdown.  The registry does not keep its channels alive.  Draining it hands out the names, sorted,
and leaves it empty.
-/

namespace ChannelBinding

/-- Names in ascending order. -/
def sortNames (names : List String) : List String := names.mergeSort fun a b => decide (a ≤ b)

/-- The dynamic outputs. -/
structure Registry where
  outputs : Table String ChannelId := ∅
deriving Repr, Inhabited

namespace Registry

/-- The registry with an output added or replaced. -/
def add (r : Registry) (name : String) (c : ChannelId) : Registry := ⟨r.outputs.insert name c⟩

/-- The names of the outputs, in ascending order. -/
def names (r : Registry) : List String := sortNames r.outputs.keys

/-- The registered channel of a name, if it is alive. -/
def output? (r : Registry) (alive : ChannelId → Bool) (name : String) : Option ChannelId :=
  (r.outputs.get? name).filter alive

/-- Hands out the names of the outputs and forgets them. -/
def drain (r : Registry) : Registry × List String := (⟨∅⟩, r.names)

/-- The names are those registered, each once if the outputs do not repeat. -/
theorem names_perm (r : Registry) :
  r.names.Perm r.outputs.keys
  := List.mergeSort_perm _ _

end Registry

end ChannelBinding
