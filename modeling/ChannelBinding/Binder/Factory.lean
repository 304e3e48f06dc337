import ChannelBinding.Table

/-!
# The binder factory

Binders by configuration name.  A request that names no binder gets the default one; without a
default it gets the only binder there is, if there is exactly one.
-/

namespace ChannelBinding

/-- A table of binders with an optional default. -/
structure Factory (ι : Type u) where
  binders : Table String ι := ∅
  fallback : Option String := none

namespace Factory

variable {ι : Type u}

/-- The factory with a binder registered under a name; the last one of a name counts. -/
def withBinder (f : Factory ι) (name : String) (binder : ι) : Factory ι :=
  { f with binders := f.binders.insert name binder }

/-- The factory with its default set. -/
def withDefault (f : Factory ι) (name : String) : Factory ι := { f with fallback := some name }

/-- The binder of a configuration name, or the default binder. -/
def get? (f : Factory ι) (wanted : Option String) : Option ι :=
  match wanted.or f.fallback with
  | some name => f.binders.get? name
  | none =>
    match f.binders.entries with
    | [(_, only)] => some only
    | _ => none

end Factory

end ChannelBinding
