import ChannelBinding.Proofs.World.Basic

/-!
# Effects on the books

The books of a system are what the service, the resolver and the registry keep: the cache, the
ledger, the registered outputs and the fixed channels.  The stake of a call is what it has taken from
the books and not yet dealt with: a cell of the cache, bindings to unbind, names to release.  An
effect is one way in which a move changes the books and the stake of one call.  Every step of a call
has an effect, as `Call.effect_step` says; what all effects keep is therefore kept in all worlds.
-/

namespace ChannelBinding

variable {ι τ β : Type}

/-- What the service, the resolver and the registry keep. -/
structure Books where
  cache : Cache := {}
  ledger : Ledger := {}
  registry : Registry := {}
  fixed : Table String ChannelId := ∅

/-- The books of a system. -/
def System.books (s : System τ) : Books := ⟨s.cache, s.ledger, s.registry, s.fixed⟩

/-- A cell that a resolution of a name holds. -/
structure Hold where
  name : String
  cell : CellId
  ticket : Ticket
  /-- Whether the resolution has the permit and binds. -/
  filling : Bool

/-- What a call has taken from the books and not yet dealt with. -/
structure Stake where
  hold : Option Hold := none
  /-- The bindings that it has taken and not yet begun to unbind. -/
  pending : List BindingId := []
  /-- The names that it was handed to release as outputs and has not yet come to. -/
  due : List String := []

/-- The cell that a resolution holds. -/
def Resolution.hold? (r : Resolution β) : Option Hold :=
  match r.stage with
  | .claiming cell ticket => some ⟨r.name, cell, ticket, false⟩
  | .binding cell ticket _ _ => some ⟨r.name, cell, ticket, true⟩
  | .forgetting cell ticket _ => some ⟨r.name, cell, ticket, false⟩
  | _ => none

/-- The bindings of a release that it has not yet begun to unbind. -/
def Release.pending (r : Release) : List BindingId :=
  match r.current with
  | .requested b => b :: r.rest
  | .detaching _ => r.rest

/-- The bindings that a withdrawal has taken and not yet begun to unbind. -/
def Withdrawal.pending (w : Withdrawal) : List BindingId := (w.current.map Release.pending).getD []

/-- The stake of a withdrawal; its names count if they were `handed` to it. -/
def Withdrawal.stake (handed : Bool) (w : Withdrawal) : Stake where
  pending := w.pending
  due := if handed ∧ w.role = .producer then w.names else []

/-- The stake of a call. -/
def Call.stake : Call ι β → Stake
  | resolving r => { hold := r.hold? }
  | releasing w => w.stake false
  | draining w => w.stake true
  | stopping (.releasing _ (some w) _) => w.stake true
  | _ => {}

/-- `Effect books stake books' stake' news`: a way in which the books and the stake of one call
change, and what it brings about. -/
inductive Effect : Books → Stake → Books → Stake → List Happening → Prop where
  | quiet (B : Books) (k : Stake) : Effect B k B k []
  | registered (B : Books) (k : Stake) (name : String) (c : ChannelId) :
    Effect B k { B with fixed := B.fixed.insert name c } k []
  /-- A resolution finds a fixed channel or a cached one. -/
  | answered (B : Books) (name : String) (c : ChannelId)
      (h : B.fixed.get? name = some c ∨ ∃ b, B.cache.get? name = some ⟨c, b⟩) :
    Effect B {} B {} [.resolved name c]
  | entered (B : Books) (name : String) :
    Effect B {} { B with cache := (B.cache.enter name).1 }
      { hold := some ⟨name, (B.cache.enter name).2.1, (B.cache.enter name).2.2, false⟩ } []
  | queued (B : Books) (name : String) (cell : CellId) (t : Ticket)
      (h : (B.cache.claim cell t).2 = .queued) :
    Effect B { hold := some ⟨name, cell, t, false⟩ }
      { B with cache := (B.cache.claim cell t).1 } { hold := some ⟨name, cell, t, false⟩ } []
  | found (B : Books) (name : String) (cell : CellId) (t : Ticket) (v : Resolved)
      (h : (B.cache.claim cell t).2 = .filled v) :
    Effect B { hold := some ⟨name, cell, t, false⟩ }
      { B with cache := (B.cache.claim cell t).1.letGo cell t } {} [.resolved name v.channel]
  | permitted (B : Books) (name : String) (cell : CellId) (t : Ticket)
      (h : (B.cache.claim cell t).2 = .permitted) :
    Effect B { hold := some ⟨name, cell, t, false⟩ }
      { B with cache := (B.cache.claim cell t).1 } { hold := some ⟨name, cell, t, true⟩ }
      [.attempted name]
  /-- The bind is refused before a binder is asked. -/
  | refused (B : Books) (name : String) (cell : CellId) (t : Ticket)
      (h : (B.cache.claim cell t).2 = .permitted) :
    Effect B { hold := some ⟨name, cell, t, false⟩ }
      { B with cache := (B.cache.claim cell t).1.giveUp cell t }
      { hold := some ⟨name, cell, t, false⟩ } [.attempted name]
  | failed (B : Books) (name : String) (cell : CellId) (t : Ticket) :
    Effect B { hold := some ⟨name, cell, t, true⟩ }
      { B with cache := B.cache.giveUp cell t } { hold := some ⟨name, cell, t, false⟩ } []
  /-- A binder hands over the binding of a new destination. -/
  | established (B : Books) (name : String) (cell : CellId) (t : Ticket) (c : ChannelId)
      (b : BindingId) :
    Effect B { hold := some ⟨name, cell, t, true⟩ }
      { B with
        cache := B.cache.fill cell t ⟨c, b⟩
        ledger := B.ledger.record .producer name [b]
        registry := B.registry.add name c } {}
      [.bound name c b, .tracked .producer name [b], .resolved name c]
  | forgot (B : Books) (name : String) (cell : CellId) (t : Ticket) :
    Effect B { hold := some ⟨name, cell, t, false⟩ }
      { B with cache := B.cache.forget name cell t } {} []
  | abandoned (B : Books) (name : String) (cell : CellId) (t : Ticket) (filling : Bool) :
    Effect B { hold := some ⟨name, cell, t, filling⟩ }
      { B with cache := (B.cache.giveUp cell t).letGo cell t } {} []
  /-- A resolution that has failed is dropped before it could forget its cell. -/
  | left (B : Books) (name : String) (cell : CellId) (t : Ticket) :
    Effect B { hold := some ⟨name, cell, t, false⟩ }
      { B with cache := B.cache.letGo cell t } {} []
  /-- A bind asked of the service records what it has made. -/
  | recorded (B : Books) (role : Role) (name : String) (bs : List BindingId) :
    Effect B {} { B with ledger := B.ledger.record role name bs } {} [.tracked role name bs]
  | took (B : Books) (role : Role) (name : String) (bs : List BindingId) (due due' : List String)
      (h : (B.ledger.take role name).2 = some bs)
      (hdue : due = due' ∨ role = .producer ∧ due = name :: due') :
    Effect B { due } { B with ledger := (B.ledger.take role name).1 } { pending := bs, due := due' }
      [.took role name bs]
  /-- Nothing is tracked under a name that was to be released. -/
  | missed (B : Books) (role : Role) (name : String) (due due' : List String)
      (h : (B.ledger.take role name).2 = none)
      (hdue : due = due' ∨ role = .producer ∧ due = name :: due') :
    Effect B { due } B { due := due' } []
  | unbinding (B : Books) (b : BindingId) (rest : List BindingId) (due : List String) :
    Effect B { pending := b :: rest, due } B { pending := rest, due } [.unbinding b]
  | drained (B : Books) :
    Effect B {} { B with registry := B.registry.drain.1 } { due := B.registry.names }
      [.drained B.registry.names]
  /-- A shutdown comes to names that were not handed out by the registry. -/
  | listed (B : Books) (due : List String) : Effect B {} B { due } []

namespace System

@[simp]
theorem books_emit (s : System τ) (e : Event) :
  (s.emit e).books = s.books
  := rfl

@[simp]
theorem books_withCache (s : System τ) (c : Cache) :
  ({ s with cache := c } : System τ).books = { s.books with cache := c }
  := rfl

@[simp]
theorem books_startLifecycle (s : System τ) :
  s.startLifecycle.books = s.books
  := by
  unfold startLifecycle
  split
  · rfl
  · rfl

end System

@[simp]
theorem Setup.books_bindProcess_step (setup : Setup ι τ β) (s : System τ) (call : β) :
  (setup.bindProcess.step s call).1.books = s.books
  := rfl

end ChannelBinding
