import ChannelBinding.Lifecycle.Shutdown
import ChannelBinding.Service.Producer

/-!
# Resolving a destination

A resolution turns a name into a channel: it refuses names that are blank or hold control characters,
finds a fixed channel, refuses destinations that are not allowed, finds a resolved destination in the
cache, and otherwise enters the cell of the name.  Who gets the cell's permit announces a new channel
and binds it; in the step in which the binder hands over the binding it is tracked, registered and
put into the cell.  A resolution may be abandoned wherever it waits.
-/

namespace ChannelBinding

/-- Where a resolution stands. -/
inductive ResolutionStage (β : Type) where
  | requested
  | readingFixed
  | readingCache
  | entering
  /-- It holds a cell and wants its value or its permit. -/
  | claiming (cell : CellId) (ticket : Ticket)
  /-- It has the permit of a cell and binds a channel. -/
  | binding (cell : CellId) (ticket : Ticket) (channel : ChannelId) (bind : ProducerBind β)
  /-- It has failed and lets go of its cell. -/
  | forgetting (cell : CellId) (ticket : Ticket) (error : ResolutionError)
deriving Repr

/-- The resolution of a name. -/
structure Resolution (β : Type) where
  name : String
  stage : ResolutionStage β := .requested
deriving Repr

/-- What a resolution comes to. -/
abbrev ResolutionAnswer := Except ResolutionError ChannelId

namespace Resolution

variable {ι τ β : Type}

/-- Whether a name can be the name of a destination: it is not blank and has no control character. -/
def isValidName (name : String) : Bool :=
  !Text.isBlankText name && !name.toList.any fun c => c.toNat < 32 || c.toNat = 127

/-- The resolution goes on with another stage. -/
def goTo (r : Resolution β) (stage : ResolutionStage β) :
    Progress (Resolution β) ResolutionAnswer :=
  .running { r with stage }

/-- Adds the channel of a new destination and announces it. -/
def announce (setup : Setup ι τ β) (s : System τ) (name : String) :
    System τ × ChannelId × ProducerProperties :=
  let channel := setup.newChannel name
  let properties := setup.settings.producerProperties name
  let (fabric, c) := s.fabric.addChannel channel
  let s := { s with fabric }
  match setup.callback with
  | none => (s, c, properties)
  | some callback =>
    let properties := callback.adjust name channel properties
    let s := { s with announcements := s.announcements.push ⟨name, channel, properties⟩ }
    match callback.report name channel with
    | none => (s, c, properties)
    | some event => (s.emit event, c, properties)

/-- Gives back the permit of a cell after a failure. -/
def fail (r : Resolution β) (s : System τ) (cell : CellId) (ticket : Ticket)
    (e : BindingError) : System τ × Progress (Resolution β) ResolutionAnswer :=
  ({ s with cache := s.cache.giveUp cell ticket },
    r.goTo (.forgetting cell ticket (.bindingFailed r.name e)))

/-- Registers a new destination and puts it into its cell. -/
def establish (r : Resolution β) (s : System τ) (cell : CellId) (ticket : Ticket)
    (channel : ChannelId) (b : BindingId) : System τ :=
  let s := s.addOutput r.name channel
  let s := s.emit (.destinationBound r.name ((s.fabric.channel? channel).bind Channel.contentType))
  { s with cache := s.cache.fill cell ticket ⟨channel, b⟩ }

/-- Goes on with the bind of a new destination. -/
def proceed (r : Resolution β) (cell : CellId) (ticket : Ticket) (channel : ChannelId) :
    System τ × Progress (ProducerBind β) ProducerAnswer →
      System τ × Progress (Resolution β) ResolutionAnswer
  | (s, .running bind) => (s, r.goTo (.binding cell ticket channel bind))
  | (s, .waiting bind pause) =>
    (s, .waiting { r with stage := .binding cell ticket channel bind } pause)
  | (s, .ended (.ok b)) => (r.establish s cell ticket channel b, .ended (.ok channel))
  | (s, .ended (.error e)) => r.fail s cell ticket e

/-- One step of a resolution. -/
def step (setup : Setup ι τ β) (s : System τ) (r : Resolution β) :
    System τ × Progress (Resolution β) ResolutionAnswer :=
  match r.stage with
  | .requested =>
    if isValidName r.name then (s.emit (.resolutionStarted r.name), r.goTo .readingFixed)
    else (s.emit (.nameRejected r.name), .ended (.error (.invalidDestination r.name)))
  | .readingFixed =>
    match s.fixed.get? r.name with
    | some c => (s.emit (.fixedFound r.name), .ended (.ok c))
    | none =>
      if setup.settings.allowsDynamic r.name then (s, r.goTo .readingCache)
      else (s.emit (.notAllowed r.name), .ended (.error (.notAllowed r.name)))
  | .readingCache =>
    match s.cache.get? r.name with
    | some resolved => (s.emit (.cacheHit r.name), .ended (.ok resolved.channel))
    | none => (s, r.goTo .entering)
  | .entering =>
    let (cache, cell, ticket) := s.cache.enter r.name
    ({ s with cache }, r.goTo (.claiming cell ticket))
  | .claiming cell ticket =>
    match s.cache.claim cell ticket with
    | (cache, .filled resolved) =>
      ({ s with cache := cache.letGo cell ticket }, .ended (.ok resolved.channel))
    | (cache, .queued) => ({ s with cache }, .waiting r .other)
    | (cache, .permitted) =>
      let (s, channel, properties) := announce setup { s with cache } r.name
      r.proceed cell ticket channel (ProducerBind.begin setup s r.name channel properties)
  | .binding cell ticket channel bind =>
    r.proceed cell ticket channel (ProducerBind.step setup s bind)
  | .forgetting cell ticket error =>
    ({ s with cache := s.cache.forget r.name cell ticket }.emit (.resolutionFailed r.name error),
      .ended (.error error))

/-- A measure of the steps to a pause or the end: the stages to come, then the bind under way. -/
def rank (r : Resolution β) : Nat × (β ⊕ Nat) :=
  match r.stage with
  | .requested => (6, .inr 0)
  | .readingFixed => (5, .inr 0)
  | .readingCache => (4, .inr 0)
  | .entering => (3, .inr 0)
  | .claiming .. => (2, .inr 0)
  | .binding _ _ _ bind => (1, .inl bind.call)
  | .forgetting .. => (0, .inr 0)

/-- The order of the measures. -/
def nearerRank (setup : Setup ι τ β) : Nat × (β ⊕ Nat) → Nat × (β ⊕ Nat) → Prop :=
  Prod.Lex (· < ·) (Sum.Lex setup.bindProcess.nearer (· < ·))

theorem wellFounded_nearerRank (setup : Setup ι τ β) :
  WellFounded (nearerRank setup)
  := (Prod.lex Nat.lt_wfRel
    ⟨_, Sum.lex_wf setup.bindProcess.wellFounded Nat.lt_wfRel.wf⟩).wf

/-- A bind that goes on leads to a binding stage with its call, and one that failed to the last
stage. -/
theorem rank_of_proceed {r r' : Resolution β} {cell : CellId} {ticket : Ticket}
    {channel : ChannelId} {p : System τ × Progress (ProducerBind β) ProducerAnswer}
    {s' : System τ} (h : r.proceed cell ticket channel p = (s', .running r')) :
  (∃ bind, p.2 = .running bind ∧ r'.rank = (1, .inl bind.call)) ∨ r'.rank = (0, .inr 0)
  := by
  obtain ⟨s, p⟩ := p
  cases p with
  | running bind =>
    simp only [proceed, goTo, Prod.mk.injEq, Progress.running.injEq] at h
    exact Or.inl ⟨bind, rfl, by rw [← h.2]; rfl⟩
  | waiting bind pause => simp [proceed] at h
  | ended answer =>
    cases answer with
    | ok b => simp [proceed] at h
    | error e =>
      simp only [proceed, fail, goTo, Prod.mk.injEq, Progress.running.injEq] at h
      exact Or.inr (by rw [← h.2]; rfl)

theorem nearer_of_step {setup : Setup ι τ β} {s s' : System τ} {r r' : Resolution β}
    (h : step setup s r = (s', .running r')) :
  nearerRank setup r'.rank r.rank
  := by
  unfold step at h
  split at h
  all_goals rename_i hstage
  · split at h
    · simp only [goTo, Prod.mk.injEq, Progress.running.injEq] at h
      rw [← h.2]
      simp only [rank, hstage]
      exact Prod.Lex.left _ _ (by decide)
    · simp at h
  · split at h
    · simp at h
    · split at h
      · simp only [goTo, Prod.mk.injEq, Progress.running.injEq] at h
        rw [← h.2]
        simp only [rank, hstage]
        exact Prod.Lex.left _ _ (by decide)
      · simp at h
  · split at h
    · simp at h
    · simp only [goTo, Prod.mk.injEq, Progress.running.injEq] at h
      rw [← h.2]
      simp only [rank, hstage]
      exact Prod.Lex.left _ _ (by decide)
  · simp only [goTo, Prod.mk.injEq, Progress.running.injEq] at h
    rw [← h.2]
    simp only [rank, hstage]
    exact Prod.Lex.left _ _ (by decide)
  · split at h
    · simp at h
    · simp at h
    · rcases rank_of_proceed h with ⟨bind, _, hr⟩ | hr
      · rw [hr]
        simp only [rank, hstage]
        exact Prod.Lex.left _ _ (by decide)
      · rw [hr]
        simp only [rank, hstage]
        exact Prod.Lex.left _ _ (by decide)
  · rename_i bind
    rcases rank_of_proceed h with ⟨bind', hb, hr⟩ | hr
    · rw [hr]
      simp only [rank, hstage]
      exact Prod.Lex.right _ (Sum.Lex.inl (ProducerBind.nearer_of_step (Prod.ext rfl hb)))
    · rw [hr]
      simp only [rank, hstage]
      exact Prod.Lex.left _ _ (by decide)
  · simp at h

/-- A resolution, as a process on the system. -/
def process (setup : Setup ι τ β) : Process (System τ) (Resolution β) ResolutionAnswer where
  step := step setup
  nearer := InvImage (nearerRank setup) rank
  wellFounded := InvImage.wf rank (wellFounded_nearerRank setup)
  nearer_of_step := nearer_of_step

/-- Abandons a resolution where it stands: it lets go of its cell, and of the permit or its place in
line. -/
def abandon (s : System τ) (r : Resolution β) : System τ :=
  match r.stage with
  | .claiming cell ticket | .binding cell ticket _ _ =>
    { s with cache := (s.cache.giveUp cell ticket).letGo cell ticket }
  | .forgetting cell ticket _ => { s with cache := s.cache.letGo cell ticket }
  | _ => s

/-- The channel that a resolution is binding. -/
def channel? (r : Resolution β) : Option ChannelId :=
  match r.stage with
  | .binding _ _ channel _ => some channel
  | _ => none

end Resolution

end ChannelBinding
