import ChannelBinding.Service.Release

/-!
# Binding a consumer

A consumer bind attaches one input channel to every destination of a binding name, in the order in
which they are listed.  If the binder refuses one of them, the bindings made so far are released;
only when all are made are they recorded in the ledger, in one block.
-/

namespace ChannelBinding

/-- What is asked of the binder for every destination of a consumer bind. -/
structure ConsumerRequest (ι : Type) where
  name : String
  group : Option String
  binder : ι
  input : ChannelId
  properties : ConsumerProperties
deriving Repr

/-- Where a consumer bind stands. -/
inductive ConsumerBind (ι β : Type) where
  /-- The binder works on a destination; others may follow, and some bindings are made. -/
  | binding (request : ConsumerRequest ι) (destination : String) (call : β) (rest : List String)
      (created : List BindingId)
  /-- The binder has refused, and the bindings made before are being released. -/
  | rollingBack (release : Release) (error : BinderError)
deriving Repr

/-- What a consumer bind comes to. -/
abbrev ConsumerAnswer := Except BindingError (List BindingId)

namespace ConsumerBind

variable {ι τ β : Type}

/-- The request of a consumer bind and its destinations, or what speaks against it. -/
def prepare (setup : Setup ι τ β) (binders : τ) (name : String) (input : ChannelId) :
    Except BindingError (ConsumerRequest ι × List String) := do
  let binder ← setup.binderFor name
  let supplied := (setup.binders.extendedConsumer binders binder name).extension
  let properties := (setup.settings.consumerProperties name).withExtensionDefaults supplied
  match properties.validate with
  | .error e => throw (.invalidProperties e.message)
  | .ok () =>
    let destinations := Text.commaParts (setup.settings.destination name)
    if destinations.isEmpty then
      throw (.invalidProperties s!"binding '{name}' has no destination")
    else
      return ({ name, group := setup.settings.group name, binder, input, properties }, destinations)

/-- Goes on to the next destination, or records what was made if there is none. -/
def next (setup : Setup ι τ β) (s : System τ) (request : ConsumerRequest ι)
    (created : List BindingId) :
    List String → System τ × Progress (ConsumerBind ι β) ConsumerAnswer
  | [] =>
    let s' := s.emit (.consumersBound request.name request.group)
    ({ s' with ledger := s'.ledger.record .consumer request.name created }, .ended (.ok created))
  | destination :: rest =>
    (s.emit (.consumerBindStarted request.name destination request.group),
      .running (.binding request destination
        (setup.binders.bindConsumer request.binder destination request.group request.input
          request.properties)
        rest created))

/-- Begins a consumer bind. -/
def begin (setup : Setup ι τ β) (s : System τ) (name : String) (input : ChannelId) :
    System τ × Progress (ConsumerBind ι β) ConsumerAnswer :=
  match prepare setup s.binders name input with
  | .error e => (s, .ended (.error e))
  | .ok (request, destinations) => next setup s request [] destinations

/-- Goes on releasing what was made, and answers with the binder's error in the end. -/
def rollBack (error : BinderError) :
    Progress Release (Option BinderError) → Progress (ConsumerBind ι β) ConsumerAnswer
  | .running release => .running (.rollingBack release error)
  | .waiting release pause => .waiting (.rollingBack release error) pause
  | .ended _ => .ended (.error (.binder error))

/-- One step of a consumer bind. -/
def step (setup : Setup ι τ β) (s : System τ) :
    ConsumerBind ι β → System τ × Progress (ConsumerBind ι β) ConsumerAnswer
  | .binding request destination call rest created =>
    match setup.bindProcess.step s call with
    | (s', .running call') => (s', .running (.binding request destination call' rest created))
    | (s', .waiting call' pause) =>
      (s', .waiting (.binding request destination call' rest created) pause)
    | (s', .ended (.ok b)) => next setup s' request (created ++ [b]) rest
    | (s', .ended (.error e)) =>
      (s'.emit (.consumerBindFailed request.name destination request.group e),
        rollBack e (Release.begin request.name none created))
  | .rollingBack release error =>
    let (fabric, progress) := Release.step s.fabric release
    ({ s with fabric }, rollBack error progress)

/-- A measure of the steps to the end: the destinations to come, then the call or release under
way. -/
def rank : ConsumerBind ι β → Nat × (β ⊕ Nat)
  | .binding _ _ call rest _ => (rest.length + 1, .inl call)
  | .rollingBack release _ => (0, .inr release.rank)

/-- The order of the measures. -/
def nearerRank (setup : Setup ι τ β) : Nat × (β ⊕ Nat) → Nat × (β ⊕ Nat) → Prop :=
  Prod.Lex (· < ·) (Sum.Lex setup.bindProcess.nearer (· < ·))

theorem nearer_of_step {setup : Setup ι τ β} {s s' : System τ} {x x' : ConsumerBind ι β}
    (h : step setup s x = (s', .running x')) :
  nearerRank setup x'.rank x.rank
  := by
  cases x with
  | binding request destination call rest created =>
    simp only [step] at h
    split at h
    · rename_i hc
      simp only [Prod.mk.injEq, Progress.running.injEq] at h
      rw [← h.2]
      exact Prod.Lex.right _ (Sum.Lex.inl (setup.bindProcess.nearer_of_step hc))
    · simp at h
    · cases rest with
      | nil => simp [next] at h
      | cons d rest =>
        simp only [next, Prod.mk.injEq, Progress.running.injEq] at h
        rw [← h.2]
        exact Prod.Lex.left _ _ (Nat.lt_succ_self _)
    · cases created with
      | nil => simp [Release.begin, rollBack] at h
      | cons b bs =>
        simp only [Release.begin, rollBack, Prod.mk.injEq, Progress.running.injEq] at h
        rw [← h.2]
        exact Prod.Lex.left _ _ (Nat.succ_pos _)
  | rollingBack release error =>
    simp only [step] at h
    cases hr : Release.step s.fabric release with
    | mk f p =>
      cases p with
      | running r =>
        simp only [hr, rollBack, Prod.mk.injEq, Progress.running.injEq] at h
        rw [← h.2]
        exact Prod.Lex.right _ (Sum.Lex.inr (Release.rank_lt_of_step hr))
      | waiting r pause => simp [hr, rollBack] at h
      | ended e => simp [hr, rollBack] at h

theorem wellFounded_nearerRank (setup : Setup ι τ β) :
  WellFounded (nearerRank setup)
  := (Prod.lex Nat.lt_wfRel
    ⟨_, Sum.lex_wf setup.bindProcess.wellFounded Nat.lt_wfRel.wf⟩).wf

/-- A consumer bind, as a process on the system. -/
def process (setup : Setup ι τ β) : Process (System τ) (ConsumerBind ι β) ConsumerAnswer where
  step := step setup
  nearer := InvImage (nearerRank setup) rank
  wellFounded := InvImage.wf rank (wellFounded_nearerRank setup)
  nearer_of_step := nearer_of_step

end ConsumerBind

end ChannelBinding
