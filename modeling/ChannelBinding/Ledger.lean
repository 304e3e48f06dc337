import ChannelBinding.Binding
import ChannelBinding.Table

/-!
# The ledger of bindings

The bindings that the service has made and not yet released, by role and binding name, in the order
in which they were made.  `tracked` is the view: recording appends to one list, taking empties one
list, and nothing else changes.
-/

namespace ChannelBinding

/-- The bindings that the service keeps track of. -/
structure Ledger where
  consumers : Table String (List BindingId) := ∅
  producers : Table String (List BindingId) := ∅
deriving Repr, Inhabited

namespace Ledger

/-- The lists of a role. -/
def of (l : Ledger) : Role → Table String (List BindingId)
  | .consumer => l.consumers
  | .producer => l.producers

/-- The ledger with the lists of a role replaced. -/
def set (l : Ledger) (role : Role) (t : Table String (List BindingId)) : Ledger :=
  match role with
  | .consumer => { l with consumers := t }
  | .producer => { l with producers := t }

/-- The bindings tracked under a name, in the order in which they were made. -/
def tracked (l : Ledger) (role : Role) (name : String) : List BindingId :=
  ((l.of role).get? name).getD []

/-- The ledger with bindings added under a name. -/
def record (l : Ledger) (role : Role) (name : String) (bs : List BindingId) : Ledger :=
  l.set role ((l.of role).insert name (l.tracked role name ++ bs))

/-- Takes the list of a name out of the ledger, if there is one. -/
def take (l : Ledger) (role : Role) (name : String) : Ledger × Option (List BindingId) :=
  (l.set role ((l.of role).erase name), (l.of role).get? name)

/-! ## The view -/

@[simp]
theorem of_set (l : Ledger) (role other : Role) (t : Table String (List BindingId)) :
  (l.set role t).of other = if role = other then t else l.of other
  := by
  cases role <;> cases other <;> rfl

/-- Recording changes the list of one role and one name. -/
theorem get?_record (l : Ledger) (role other : Role) (name name' : String) (bs : List BindingId) :
  ((l.record role name bs).of other).get? name'
    = if role = other ∧ name = name' then some (l.tracked role name ++ bs)
      else (l.of other).get? name'
  := by
  rw [record, of_set]
  by_cases hr : role = other
  · subst hr
    simp only [if_true, true_and, Table.get?_insert]
  · simp only [hr, if_false, false_and]

/-- Taking removes the list of one role and one name. -/
theorem get?_take (l : Ledger) (role other : Role) (name name' : String) :
  ((l.take role name).1.of other).get? name'
    = if role = other ∧ name = name' then none else (l.of other).get? name'
  := by
  rw [take, of_set]
  by_cases hr : role = other
  · subst hr
    simp only [if_true, true_and, Table.get?_erase]
  · simp only [hr, if_false, false_and]

/-- Recording appends to the list of one role and one name. -/
theorem tracked_record (l : Ledger) (role other : Role) (name name' : String)
    (bs : List BindingId) :
  (l.record role name bs).tracked other name'
    = if role = other ∧ name = name' then l.tracked other name' ++ bs else l.tracked other name'
  := by
  rw [tracked, get?_record]
  split
  · rename_i h
    obtain ⟨rfl, rfl⟩ := h
    rfl
  · rfl

/-- Taking empties the list of one role and one name. -/
theorem tracked_take (l : Ledger) (role other : Role) (name name' : String) :
  (l.take role name).1.tracked other name'
    = if role = other ∧ name = name' then [] else l.tracked other name'
  := by
  rw [tracked, get?_take]
  split <;> rfl

/-- What is taken is what was tracked. -/
theorem take_snd_getD (l : Ledger) (role : Role) (name : String) :
  (l.take role name).2.getD [] = l.tracked role name
  := rfl

end Ledger

end ChannelBinding
