import ChannelBinding.Proofs.Terms
import ChannelBinding.Proofs.Walk
import ChannelBinding.Proofs.World.Change

/-!
# What binders are asked

Observed binders are binders that note every request when they come to hear of it, and do what they
would have done.  With them one can tell what the walks of a call ask of binders, whatever goes on
between the steps.  A producer bind asks once, a resolution once and only with the permit of its cell,
and a consumer bind once for each destination, in order; each of them asks what the terms of its name
say, and nothing if there are no terms.
-/

namespace ChannelBinding

variable {ι τ β : Type}

/-! ## Observed binders -/

/-- The state of binders, with the requests that they have come to hear of. -/
structure Observed (ι τ : Type) where
  binders : τ
  asked : List (ι × BindRequest) := []

/-- A bind call, with its request as long as the binder has not heard of it. -/
structure ObservedCall (ι β : Type) where
  call : β
  unheard : Option (ι × BindRequest)

/-- The bind call of a request that its binder is still to hear of. -/
def Binders.ask (binders : Binders ι τ β) (binder : ι) (request : BindRequest) :
    ObservedCall ι β where
  call := binders.bind binder request
  unheard := some (binder, request)

/-- Binders that note what they are asked. -/
def Binders.observed (binders : Binders ι τ β) :
    Binders ι (Observed ι τ) (ObservedCall ι β) where
  extendedConsumer t := binders.extendedConsumer t.binders
  extendedProducer t := binders.extendedProducer t.binders
  bindConsumer binder destination group input properties :=
    binders.ask binder (.consumer destination group input properties)
  bindProducer binder destination output properties :=
    binders.ask binder (.producer destination output properties)
  process := {
    step := fun (f, t) call =>
      let (v, p) := binders.process.step (f, t.binders) call.call
      ((v.1, ⟨v.2, t.asked ++ call.unheard.toList⟩), p.map (⟨·, none⟩) id)
    nearer := InvImage binders.process.nearer ObservedCall.call
    wellFounded := InvImage.wf ObservedCall.call binders.process.wellFounded
    nearer_of_step := by
      rintro ⟨f, t⟩ call v' call' h
      obtain ⟨v, p, hp⟩ : ∃ v p, binders.process.step (f, t.binders) call.call = (v, p) := ⟨_, _, rfl⟩
      simp only [hp] at h
      cases p with
      | running r =>
        cases h
        exact binders.process.nearer_of_step hp
      | waiting r pause => cases h
      | ended a => cases h }

/-- The set-up with its binders observed. -/
def Setup.observed (setup : Setup ι τ β) : Setup ι (Observed ι τ) (ObservedCall ι β) where
  settings := setup.settings
  factory := setup.factory
  binders := setup.binders.observed
  callback := setup.callback

/-- The system without what was noted. -/
def System.unobserved (s : System (Observed ι τ)) : System τ :=
  { s with binders := s.binders.binders }

namespace Setup

variable (setup : Setup ι τ β) (s : System (Observed ι τ)) (call : ObservedCall ι β)

/-- Binders do the same whether they are observed or not. -/
theorem unobserved_bindProcess_step :
  setup.bindProcess.step s.unobserved call.call
    = ((setup.observed.bindProcess.step s call).1.unobserved,
      (setup.observed.bindProcess.step s call).2.map ObservedCall.call id)
  := by
  change _ = (_, ((setup.bindProcess.step s.unobserved call.call).2.map _ id).map _ id)
  cases hp : (setup.bindProcess.step s.unobserved call.call).2 <;> exact Prod.ext rfl hp

/-- A binder hears of the request of a call in the first step. -/
theorem asked_bindProcess_step :
  (setup.observed.bindProcess.step s call).1.binders.asked = s.binders.asked ++ call.unheard.toList
  := rfl

variable {setup s call}

theorem unheard_of_bindProcess_step {call' : ObservedCall ι β}
    (h : (setup.observed.bindProcess.step s call).2.rest? = some call') :
  call'.unheard = none
  := by
  change ((setup.bindProcess.step s.unobserved call.call).2.map _ id).rest? = some call' at h
  cases hp : (setup.bindProcess.step s.unobserved call.call).2 with
  | running r | waiting r pause =>
    rw [hp] at h
    cases h
    rfl
  | ended a =>
    rw [hp] at h
    cases h

end Setup

/-! ## What walks ask -/

namespace Process

variable {ρ α : Type} (P : Process (System (Observed ι τ)) ρ α)

/-- What binders come to hear of in some steps of a process. -/
def asked (steps : List (System (Observed ι τ) × ρ)) : List (ι × BindRequest) :=
  steps.flatMap fun step =>
    (P.step step.1 step.2).1.binders.asked.drop step.1.binders.asked.length

variable {P}

theorem asked_cons {s : System (Observed ι τ)} {r : ρ} {new : List (ι × BindRequest)}
    (h : (P.step s r).1.binders.asked = s.binders.asked ++ new)
    (steps : List (System (Observed ι τ) × ρ)) :
  P.asked ((s, r) :: steps) = new ++ P.asked steps
  := by
  rw [asked, List.flatMap_cons, h, List.drop_left]
  rfl

/-- A step that does nothing to the binders asks nothing. -/
theorem asked_cons_of_eq {s : System (Observed ι τ)} {r : ρ}
    (h : (P.step s r).1.binders = s.binders) (steps : List (System (Observed ι τ) × ρ)) :
  P.asked ((s, r) :: steps) = P.asked steps
  := by
  have hnew : (P.step s r).1.binders.asked = s.binders.asked ++ [] := by rw [h, List.append_nil]
  exact asked_cons hnew steps

/-- Steps in which nobody notes anything ask nothing. -/
theorem asked_eq_nil {steps : List (System (Observed ι τ) × ρ)}
    (h : ∀ step ∈ steps, (P.step step.1 step.2).1.binders.asked = step.1.binders.asked) :
  P.asked steps = []
  := by
  rw [asked, List.flatMap_eq_nil_iff]
  intro step hstep
  rw [h step hstep, List.drop_length]

end Process

variable {setup : Setup ι τ β} {s : System (Observed ι τ)} {name : String}

/-! ## Producer binds -/

namespace ProducerBind

theorem asked_step (setup : Setup ι τ β) (s : System (Observed ι τ))
    (bind : ProducerBind (ObservedCall ι β)) :
  (step setup.observed s bind).1.binders.asked = s.binders.asked ++ bind.call.unheard.toList
  := by
  rw [← setup.asked_bindProcess_step s bind.call, step]
  split
  · rename_i h
    rw [h]
  · rename_i h
    rw [h]
  · rename_i h
    rw [h]
    rfl
  · rename_i h
    rw [h]
    rfl

theorem unheard_of_step {bind bind' : ProducerBind (ObservedCall ι β)}
    (h : (step setup.observed s bind).2.rest? = some bind') :
  bind'.call.unheard = none
  := by
  rw [step] at h
  split at h
  · rename_i hc
    cases h
    exact Setup.unheard_of_bindProcess_step (congrArg (fun x => x.2.rest?) hc)
  · rename_i hc
    cases h
    exact Setup.unheard_of_bindProcess_step (congrArg (fun x => x.2.rest?) hc)
  · cases h
  · cases h

/-- A bind asks for what it has in its call, with its first step. -/
theorem asked_walk (setup : Setup ι τ β) (bind : ProducerBind (ObservedCall ι β))
    (states : List (System (Observed ι τ))) :
  (process setup.observed).asked ((process setup.observed).walk (.running bind) states).1
    = if states = [] then [] else bind.call.unheard.toList
  := by
  cases states with
  | nil => rfl
  | cons s states =>
    rw [Process.walk_cons _ (by rfl), Process.asked_cons (asked_step setup s bind),
      Process.asked_eq_nil, List.append_nil, if_neg (List.cons_ne_nil s states)]
    intro step hstep
    have hheard : step.2.call.unheard = none := by
      apply (process setup.observed).walk_keeps (I := fun bind => bind.call.unheard = none) _ _ states
        step hstep
      · intro s bind bind' _ h
        exact unheard_of_step h
      · intro bind' h
        exact unheard_of_step h
    exact (asked_step setup step.1 step.2).trans (by rw [hheard, Option.toList_none, List.append_nil])

/-- What a producer bind with given properties asks, wherever its steps are taken: nothing without terms,
and else what the terms say, with its first step. -/
def AsksOnTerms (setup : Setup ι τ β) (s : System (Observed ι τ)) (name : String)
    (output : ChannelId) (given : ProducerProperties) : Prop :=
  let P := process setup.observed
  match setup.producerTerms s.binders.binders name given with
  | .error e => begin setup.observed s name output given = (s, .ended (.error e))
  | .ok (binder, handed) =>
    (begin setup.observed s name output given).1.binders = s.binders
      ∧ ∀ states, P.asked (P.walk (begin setup.observed s name output given).2 states).1
        = if states = [] then []
          else [(binder, .producer (setup.settings.destination name) output handed)]

theorem asksOnTerms (setup : Setup ι τ β) (s : System (Observed ι τ)) (name : String)
    (output : ChannelId) (given : ProducerProperties) :
  AsksOnTerms setup s name output given
  := by
  rw [AsksOnTerms]
  cases hterms : setup.producerTerms s.binders.binders name given with
  | error e =>
    have hobserved : setup.observed.producerTerms s.binders name given = .error e := hterms
    exact begin_of_error hobserved
  | ok terms =>
    have hobserved : setup.observed.producerTerms s.binders name given = .ok terms := hterms
    rw [begin_of_ok hobserved]
    exact ⟨rfl, fun states => asked_walk setup _ states⟩

end ProducerBind

/-! ## Consumer binds -/

/-- What is asked for one of the destinations of a consumer bind. -/
def ConsumerRequest.asks (request : ConsumerRequest ι) (destination : String) : ι × BindRequest :=
  (request.binder, .consumer destination request.group request.input request.properties)

namespace ConsumerBind

/-- What a consumer bind is still to ask. -/
def unasked : ConsumerBind ι (ObservedCall ι β) → List (ι × BindRequest)
  | binding request _ call rest _ => call.unheard.toList ++ rest.map request.asks
  | rollingBack .. => []

/-- What a consumer bind is still to ask, if it goes on. -/
def unaskedAfter (p : Progress (ConsumerBind ι (ObservedCall ι β)) ConsumerAnswer) :
    List (ι × BindRequest) :=
  (p.rest?.map unasked).getD []

theorem unaskedAfter_of_rest? {p : Progress (ConsumerBind ι (ObservedCall ι β)) ConsumerAnswer}
    {bind : ConsumerBind ι (ObservedCall ι β)} (h : p.rest? = some bind) :
  unaskedAfter p = bind.unasked
  := by
  rw [unaskedAfter, h, Option.map_some, Option.getD_some]

theorem unaskedAfter_next (setup : Setup ι τ β) (s : System (Observed ι τ))
    (request : ConsumerRequest ι) (created : List BindingId) (rest : List String) :
  unaskedAfter (next setup.observed s request created rest).2 = rest.map request.asks
  := by
  cases rest <;> rfl

theorem binders_next (setup : Setup ι τ β) (s : System τ) (request : ConsumerRequest ι)
    (created : List BindingId) (rest : List String) :
  (next setup s request created rest).1.binders = s.binders
  := by
  cases rest <;> rfl

/-- A bind that rolls back has nothing left to ask. -/
theorem unaskedAfter_rollBack (e : BinderError) (p : Progress Release (Option BinderError)) :
  unaskedAfter (rollBack (ι := ι) (β := ObservedCall ι β) e p) = []
  := by
  cases p <;> rfl

/-- A bind under way to a destination asks for what it has in its call. -/
theorem asked_step_binding (setup : Setup ι τ β) (s : System (Observed ι τ))
    (request : ConsumerRequest ι) (destination : String) (call : ObservedCall ι β)
    (rest : List String) (created : List BindingId) :
  (step setup.observed s (.binding request destination call rest created)).1.binders.asked
    = s.binders.asked ++ call.unheard.toList
  := by
  rw [← setup.asked_bindProcess_step s call, step]
  split
  · rename_i h
    rw [h]
  · rename_i h
    rw [h]
  · rename_i h
    rw [h, binders_next]
  · rename_i h
    rw [h]
    rfl

/-- With a step a bind asks the first of what it has left to ask, or nothing, and it keeps the rest
unless it rolls back. -/
theorem asked_step (setup : Setup ι τ β) (s : System (Observed ι τ))
    (bind : ConsumerBind ι (ObservedCall ι β)) :
  ∃ new rest, (step setup.observed s bind).1.binders.asked = s.binders.asked ++ new
    ∧ bind.unasked = new ++ rest
    ∧ (unaskedAfter (step setup.observed s bind).2 = rest
      ∨ ∃ e p, (step setup.observed s bind).2 = rollBack e p)
  := by
  cases bind with
  | rollingBack release error => exact ⟨[], [], by simp [step], rfl, Or.inr ⟨error, _, rfl⟩⟩
  | binding request destination call rest created =>
    refine ⟨call.unheard.toList, rest.map request.asks, ?_, rfl, ?_⟩
    · exact asked_step_binding setup s request destination call rest created
    · have hunheard : ∀ call', (setup.observed.bindProcess.step s call).2.rest? = some call' →
          call'.unheard = none := fun _ => Setup.unheard_of_bindProcess_step
      rw [step]
      split
      · rename_i call' h
        rw [h] at hunheard
        apply Or.inl
        rw [unaskedAfter_of_rest? rfl, unasked, hunheard call' rfl]
        rfl
      · rename_i call' pause h
        rw [h] at hunheard
        apply Or.inl
        rw [unaskedAfter_of_rest? rfl, unasked, hunheard call' rfl]
        rfl
      · exact Or.inl (unaskedAfter_next ..)
      · exact Or.inr ⟨_, _, rfl⟩

/-- A bind asks some of what it has to ask, in order. -/
theorem asked_walk (setup : Setup ι τ β)
    (p : Progress (ConsumerBind ι (ObservedCall ι β)) ConsumerAnswer)
    (states : List (System (Observed ι τ))) :
  (process setup.observed).asked ((process setup.observed).walk p states).1 <+: unaskedAfter p
  := by
  apply Process.walk_induction (Q := fun p steps _ =>
    (process setup.observed).asked steps <+: unaskedAfter p)
  · exact fun p => List.nil_prefix
  · intro s bind p steps _ hbind ih
    obtain ⟨new, rest, hasked, hunasked, hrest⟩ := asked_step setup s bind
    rw [Process.asked_cons hasked, unaskedAfter_of_rest? hbind, hunasked,
      List.prefix_append_right_inj]
    rcases hrest with rfl | ⟨e, q, hrollBack⟩
    · exact ih
    · change _ <+: unaskedAfter (step setup.observed s bind).2 at ih
      rw [hrollBack, unaskedAfter_rollBack, List.prefix_nil] at ih
      rw [ih]
      exact List.nil_prefix

/-- A bind that ends well has asked all that it had to ask. -/
theorem asked_walk_of_ok {p : Progress (ConsumerBind ι (ObservedCall ι β)) ConsumerAnswer}
    {states : List (System (Observed ι τ))} {bs : List BindingId}
    (h : ((process setup.observed).walk p states).2 = .ended (.ok bs)) :
  (process setup.observed).asked ((process setup.observed).walk p states).1 = unaskedAfter p
  := by
  revert h
  suffices hwalk : ((process setup.observed).walk p states).2 = .ended (.ok bs) →
      (process setup.observed).asked ((process setup.observed).walk p states).1 = unaskedAfter p
        ∧ ∀ e q, p ≠ rollBack e q from fun h => (hwalk h).1
  apply Process.walk_induction (Q := fun p steps p' => p' = .ended (.ok bs) →
    (process setup.observed).asked steps = unaskedAfter p ∧ ∀ e q, p ≠ rollBack e q)
  · rintro _ rfl
    refine ⟨rfl, ?_⟩
    rintro e (_ | _ | _) ⟨⟩
  · intro s bind p steps p' hbind ih hp'
    obtain ⟨hsteps, hgoesOn⟩ := ih hp'
    constructor
    · obtain ⟨new, rest, hasked, hunasked, rfl | ⟨e, q, hrollBack⟩⟩ := asked_step setup s bind
      · rw [Process.asked_cons hasked, hsteps, unaskedAfter_of_rest? hbind, hunasked]
        rfl
      · exact absurd hrollBack (hgoesOn e q)
    · -- a bind that rolls back goes on rolling back
      rintro e (release | ⟨release, pause⟩ | failure) rfl
      · cases hbind
        exact hgoesOn _ _ rfl
      · cases hbind
        exact hgoesOn _ _ rfl
      · cases hbind

/-- What a consumer bind asks, wherever its steps are taken: nothing without terms or destinations, and
else what the terms say for each of the destinations, in order, and for all of them if it ends well. -/
def AsksOnTerms (setup : Setup ι τ β) (s : System (Observed ι τ)) (name : String)
    (input : ChannelId) : Prop :=
  let P := process setup.observed
  let destinations := Text.commaParts (setup.settings.destination name)
  match setup.consumerTerms s.binders.binders name with
  | .error e => begin setup.observed s name input = (s, .ended (.error e))
  | .ok (binder, handed) =>
    if destinations = [] then
      begin setup.observed s name input
        = (s, .ended (.error (.invalidProperties s!"binding '{name}' has no destination")))
    else
      let requests := destinations.map fun destination =>
        (binder, .consumer destination (setup.settings.group name) input handed)
      (begin setup.observed s name input).1.binders = s.binders
        ∧ ∀ states,
          let walk := P.walk (begin setup.observed s name input).2 states
          P.asked walk.1 <+: requests
            ∧ ∀ bs, walk.2 = .ended (.ok bs) → P.asked walk.1 = requests

theorem asksOnTerms (setup : Setup ι τ β) (s : System (Observed ι τ)) (name : String)
    (input : ChannelId) :
  AsksOnTerms setup s name input
  := by
  rw [AsksOnTerms]
  cases hterms : setup.consumerTerms s.binders.binders name with
  | error e =>
    have hobserved : setup.observed.consumerTerms s.binders name = .error e := hterms
    exact begin_of_error hobserved
  | ok terms =>
    have hobserved : setup.observed.consumerTerms s.binders name = .ok terms := hterms
    dsimp only
    split
    · rename_i hd
      exact begin_of_no_destination hobserved hd
    · rename_i hd
      rw [begin_of_ok hobserved hd]
      refine ⟨binders_next .., fun states => ⟨?_, fun bs hbs => ?_⟩⟩
      · have hasks := asked_walk setup (next setup.observed s (.onTerms setup.observed name input terms)
          [] (Text.commaParts (setup.settings.destination name))).2 states
        rwa [unaskedAfter_next] at hasks
      · exact (asked_walk_of_ok hbs).trans (unaskedAfter_next ..)

end ConsumerBind

/-! ## Resolutions -/

/-- The producer properties of a new destination: the configured ones, as the callback changes them. -/
def Setup.newProperties (setup : Setup ι τ β) (name : String) : ProducerProperties :=
  match setup.callback with
  | none => setup.settings.producerProperties name
  | some callback =>
    callback.adjust name (setup.newChannel name) (setup.settings.producerProperties name)

namespace Resolution

/-- Whether a resolution gets the permit of its cell in its next step. -/
def IsPermitted (s : System τ) (r : Resolution β) : Prop :=
  ∃ cell ticket, r.stage = .claiming cell ticket ∧ (s.cache.claim cell ticket).2 = .permitted

/-- Whether a resolution has yet to get a permit. -/
def IsEarly (r : Resolution β) : Prop :=
  match r.stage with
  | .binding .. | .forgetting .. => False
  | _ => True

/-- Whether a resolution has asked for its bind, or will not ask. -/
def IsLate (r : Resolution (ObservedCall ι β)) : Prop :=
  match r.stage with
  | .binding _ _ _ bind => bind.call.unheard = none
  | .forgetting .. => True
  | _ => False

theorem IsLate.not_isPermitted {r : Resolution (ObservedCall ι β)} (hr : r.IsLate) :
  ¬ r.IsPermitted s
  := by
  rintro ⟨cell, ticket, hstage, -⟩
  rw [IsLate, hstage] at hr
  exact hr

theorem announce_eq (setup : Setup ι τ β) (s : System τ) (name : String) :
  ∃ s', announce setup s name
      = (s', (s.fabric.addChannel (setup.newChannel name)).2, setup.newProperties name)
    ∧ s'.binders = s.binders ∧ s'.ledger = s.ledger
  := by
  rw [announce, Setup.newProperties]
  cases setup.callback with
  | none => exact ⟨_, rfl, rfl, rfl⟩
  | some callback =>
    dsimp only
    split
    · exact ⟨_, rfl, rfl, rfl⟩
    · exact ⟨_, rfl, rfl, rfl⟩

theorem binders_proceed (r : Resolution β) (cell : CellId) (ticket : Ticket) (channel : ChannelId)
    (p : System τ × Progress (ProducerBind β) ProducerAnswer) :
  (r.proceed cell ticket channel p).1.binders = p.1.binders
  := by
  obtain ⟨s, bind | ⟨bind, pause⟩ | (e | b)⟩ := p <;> rfl

/-- Whether a step leaves the binders and the ledger alone, and a resolution of the same name that has
yet to get a permit, if it goes on. -/
structure Delays (s : System τ) (r : Resolution β)
    (next : System τ × Progress (Resolution β) ResolutionAnswer) : Prop where
  binders : next.1.binders = s.binders
  ledger : next.1.ledger = s.ledger
  rest : ∀ r', next.2.rest? = some r' → r'.IsEarly ∧ r'.name = r.name

theorem Delays.ended {s s' : System τ} {r : Resolution β} {answer : ResolutionAnswer}
    (hbinders : s'.binders = s.binders) (hledger : s'.ledger = s.ledger) :
  Delays s r (s', .ended answer)
  := ⟨hbinders, hledger, by rintro r' ⟨⟩⟩

theorem Delays.goesOn {s s' : System τ} {r r' : Resolution β}
    {p : Progress (Resolution β) ResolutionAnswer} (hbinders : s'.binders = s.binders)
    (hledger : s'.ledger = s.ledger) (hp : p.rest? = some r') (hr' : r'.IsEarly)
    (hname : r'.name = r.name) :
  Delays s r (s', p)
  := by
  refine ⟨hbinders, hledger, ?_⟩
  intro r'' hr''
  obtain rfl := Option.some.inj (hp.symm.trans hr'')
  exact ⟨hr', hname⟩

/-- Until it gets a permit a resolution does nothing to the binders and to the ledger; then it binds the
channel that it adds, with the properties of a new destination. -/
theorem step_early (setup : Setup ι τ β) (s : System τ) {r : Resolution β} (hr : r.IsEarly) :
  (¬ r.IsPermitted s ∧ Delays s r (step setup s r))
    ∨ r.IsPermitted s ∧ ∃ cell ticket s', s'.binders = s.binders ∧ s'.ledger = s.ledger
      ∧ step setup s r = r.proceed cell ticket (s.fabric.addChannel (setup.newChannel r.name)).2
        (ProducerBind.begin setup s' r.name (s.fabric.addChannel (setup.newChannel r.name)).2
          (setup.newProperties r.name))
  := by
  have hpermitted : ∀ {stage : ResolutionStage β},
      (∀ cell ticket, stage = .claiming cell ticket → (s.cache.claim cell ticket).2 ≠ .permitted) →
        ¬ IsPermitted s ⟨r.name, stage⟩ := by
    rintro stage hstage ⟨cell, ticket, heq, hclaim⟩
    exact hstage cell ticket heq hclaim
  obtain ⟨name, stage⟩ := r
  cases stage with
  | requested =>
    refine Or.inl ⟨hpermitted (by simp), ?_⟩
    simp only [step]
    split
    · exact .goesOn rfl rfl rfl trivial rfl
    · exact .ended rfl rfl
  | readingFixed =>
    refine Or.inl ⟨hpermitted (by simp), ?_⟩
    simp only [step]
    split
    · exact .ended rfl rfl
    · split
      · exact .goesOn rfl rfl rfl trivial rfl
      · exact .ended rfl rfl
  | readingCache =>
    refine Or.inl ⟨hpermitted (by simp), ?_⟩
    simp only [step]
    split
    · exact .ended rfl rfl
    · exact .goesOn rfl rfl rfl trivial rfl
  | entering => exact Or.inl ⟨hpermitted (by simp), .goesOn rfl rfl rfl trivial rfl⟩
  | claiming cell ticket =>
    simp only [step]
    split
    · rename_i hclaim
      exact Or.inl ⟨hpermitted (by rintro _ _ ⟨⟩; simp [hclaim]), .ended rfl rfl⟩
    · rename_i hclaim
      exact Or.inl ⟨hpermitted (by rintro _ _ ⟨⟩; simp [hclaim]), .goesOn rfl rfl rfl trivial rfl⟩
    · rename_i cache hclaim
      obtain ⟨s', hannounce, hbinders, hledger⟩ := announce_eq setup { s with cache } name
      refine Or.inr ⟨⟨cell, ticket, rfl, by rw [hclaim]⟩, cell, ticket, s', hbinders, hledger, ?_⟩
      rw [hannounce]
  | binding => exact hr.elim
  | forgetting => exact hr.elim

/-- A bind that goes on or fails leaves a resolution that will not ask, if it will not ask itself. -/
theorem isLate_of_proceed {r r' : Resolution (ObservedCall ι β)} {cell : CellId} {ticket : Ticket}
    {channel : ChannelId} {p : System τ × Progress (ProducerBind (ObservedCall ι β)) ProducerAnswer}
    (hp : ∀ bind, p.2.rest? = some bind → bind.call.unheard = none)
    (h : (r.proceed cell ticket channel p).2.rest? = some r') :
  r'.IsLate
  := by
  obtain ⟨s, bind | ⟨bind, pause⟩ | (e | b)⟩ := p
  · cases h
    exact hp bind rfl
  · cases h
    exact hp bind rfl
  · cases h
    trivial
  · cases h

/-- A resolution asks for what its bind has in its call, and nothing afterwards. -/
theorem step_binding (setup : Setup ι τ β) (s : System (Observed ι τ)) (name : String)
    (cell : CellId) (ticket : Ticket) (channel : ChannelId)
    (bind : ProducerBind (ObservedCall ι β)) :
  let r : Resolution (ObservedCall ι β) := ⟨name, .binding cell ticket channel bind⟩
  (step setup.observed s r).1.binders.asked = s.binders.asked ++ bind.call.unheard.toList
    ∧ ∀ r', (step setup.observed s r).2.rest? = some r' → r'.IsLate
  := by
  constructor
  · exact (congrArg Observed.asked (binders_proceed ..)).trans (ProducerBind.asked_step setup s bind)
  · intro r' h
    exact isLate_of_proceed (fun bind' => ProducerBind.unheard_of_step) h

theorem step_late (setup : Setup ι τ β) (s : System (Observed ι τ))
    {r : Resolution (ObservedCall ι β)} (hr : r.IsLate) :
  (step setup.observed s r).1.binders.asked = s.binders.asked
    ∧ ∀ r', (step setup.observed s r).2.rest? = some r' → r'.IsLate
  := by
  obtain ⟨name, stage⟩ := r
  cases stage with
  | binding cell ticket channel bind =>
    obtain ⟨hasked, hlate⟩ := step_binding setup s name cell ticket channel bind
    rw [show bind.call.unheard = none from hr, Option.toList_none, List.append_nil] at hasked
    exact ⟨hasked, hlate⟩
  | forgetting cell ticket e => exact ⟨rfl, by rintro r' ⟨⟩⟩
  | requested | readingFixed | readingCache | entering | claiming => exact hr.elim

/-- A resolution that will not ask does not ask, and gets no permit. -/
theorem asked_walk_late (setup : Setup ι τ β)
    {p : Progress (Resolution (ObservedCall ι β)) ResolutionAnswer}
    (hp : ∀ r, p.rest? = some r → r.IsLate) (states : List (System (Observed ι τ))) :
  let walk := (process setup.observed).walk p states
  (process setup.observed).asked walk.1 = [] ∧ ∀ step ∈ walk.1, ¬ step.2.IsPermitted step.1
  := by
  have hlate := (process setup.observed).walk_keeps (I := IsLate)
    (fun s r r' hr => (step_late setup s hr).2 r') hp states
  constructor
  · apply Process.asked_eq_nil
    intro step hstep
    exact (step_late setup step.1 (hlate step hstep)).1
  · intro step hstep
    exact (hlate step hstep).not_isPermitted

/-- A resolution asks for what its bind has in its call, with its first step. -/
theorem asked_walk_binding (setup : Setup ι τ β) (name : String) (cell : CellId) (ticket : Ticket)
    (channel : ChannelId) (bind : ProducerBind (ObservedCall ι β))
    (states : List (System (Observed ι τ))) :
  let walk := (process setup.observed).walk
    (.running ⟨name, .binding cell ticket channel bind⟩) states
  (process setup.observed).asked walk.1 = (if walk.1 = [] then [] else bind.call.unheard.toList)
    ∧ ∀ step ∈ walk.1, ¬ step.2.IsPermitted step.1
  := by
  cases states with
  | nil => exact ⟨rfl, by rintro step ⟨⟩⟩
  | cons s states =>
    obtain ⟨hasked, hlate⟩ := step_binding setup s name cell ticket channel bind
    obtain ⟨hrest, hpermitted⟩ := asked_walk_late setup hlate states
    dsimp only
    rw [Process.walk_cons _ (by rfl), Process.asked_cons hasked, if_neg (List.cons_ne_nil _ _),
      List.forall_mem_cons]
    refine ⟨?_, ?_, hpermitted⟩
    · exact (congrArg _ hrest).trans (List.append_nil _)
    · rintro ⟨cell', ticket', hstage, -⟩
      cases hstage

/-- A resolution that has failed answers with its error, and does nothing to the ledger. -/
theorem walk_forgetting (setup : Setup ι τ β) (name : String) (cell : CellId) (ticket : Ticket)
    (e : ResolutionError) (states : List (System τ)) :
  let walk := (process setup).walk (.running ⟨name, .forgetting cell ticket e⟩) states
  (∀ step ∈ walk.1, ((process setup).step step.1 step.2).1.ledger = step.1.ledger)
    ∧ ∀ answer, walk.2 = .ended answer → answer = .error e
  := by
  cases states with
  | nil => exact ⟨by rintro step ⟨⟩, by rintro answer ⟨⟩⟩
  | cons s states =>
    dsimp only
    rw [Process.walk_cons _ (by rfl)]
    change (∀ step ∈ (s, _) :: ((process setup).walk (.ended (.error e)) states).1, _)
      ∧ ∀ answer, ((process setup).walk (.ended (.error e)) states).2 = _ → _
    rw [Process.walk_ended]
    exact ⟨by rintro step (_ | ⟨_, ⟨⟩⟩); rfl, by rintro answer ⟨⟩; rfl⟩

/-- What some steps of a resolution ask, with what it comes to: nothing until it gets a permit, which it
gets once at most, and nothing with the permit if there are no terms, which is its answer then and leaves
the ledger alone; else what the terms of the new destination say, for the channel that it adds. -/
def FollowsTerms (setup : Setup ι τ β) (name : String)
    (steps : List (System (Observed ι τ) × Resolution (ObservedCall ι β)))
    (p : Progress (Resolution (ObservedCall ι β)) ResolutionAnswer) : Prop :=
  let P := process setup.observed
  ((∀ step ∈ steps, ¬ step.2.IsPermitted step.1) ∧ P.asked steps = [])
    ∨ ∃ before s r after, steps = before ++ (s, r) :: after ∧ r.IsPermitted s
      ∧ (∀ step ∈ before ++ after, ¬ step.2.IsPermitted step.1)
      ∧ match setup.producerTerms s.binders.binders name (setup.newProperties name) with
        | .error e => P.asked steps = []
          ∧ (∀ step ∈ steps, (P.step step.1 step.2).1.ledger = step.1.ledger)
          ∧ ∀ answer, p = .ended answer → answer = .error (.bindingFailed name e)
        | .ok (binder, handed) => P.asked steps
          = if after = [] then []
            else [(binder, .producer (setup.settings.destination name)
              (s.fabric.addChannel (setup.newChannel name)).2 handed)]

/-- A step before the permit changes nothing in what is asked. -/
theorem FollowsTerms.cons {r : Resolution (ObservedCall ι β)}
    {steps : List (System (Observed ι τ) × Resolution (ObservedCall ι β))}
    {p : Progress (Resolution (ObservedCall ι β)) ResolutionAnswer}
    (hpermitted : ¬ r.IsPermitted s)
    (hbinders : (step setup.observed s r).1.binders = s.binders)
    (hledger : (step setup.observed s r).1.ledger = s.ledger)
    (h : FollowsTerms setup name steps p) :
  FollowsTerms setup name ((s, r) :: steps) p
  := by
  have hasked : (process setup.observed).asked ((s, r) :: steps)
      = (process setup.observed).asked steps := Process.asked_cons_of_eq hbinders steps
  rcases h with ⟨hsteps, hnothing⟩ | ⟨before, s', r', after, rfl, hr', hothers, h⟩
  · exact Or.inl ⟨List.forall_mem_cons.mpr ⟨hpermitted, hsteps⟩, hasked.trans hnothing⟩
  · refine Or.inr ⟨(s, r) :: before, s', r', after, rfl, hr',
      List.forall_mem_cons.mpr ⟨hpermitted, hothers⟩, ?_⟩
    rw [hasked]
    cases hterms : setup.producerTerms s'.binders.binders name (setup.newProperties name) with
    | error e =>
      rw [hterms] at h
      obtain ⟨hnothing, hledgers, hanswer⟩ := h
      exact ⟨hnothing, List.forall_mem_cons.mpr ⟨hledger, hledgers⟩, hanswer⟩
    | ok terms =>
      rw [hterms] at h
      exact h

/-- Without terms a resolution gives its permit back, and answers with the error. -/
theorem followsTerms_of_refused {r : Resolution (ObservedCall ι β)} (hr : r.IsPermitted s)
    {s' : System (Observed ι τ)} (hbinders : s'.binders = s.binders) (hledger : s'.ledger = s.ledger)
    {cell : CellId} {ticket : Ticket} {e : BindingError}
    (hstep : step setup.observed s r = r.fail s' cell ticket e)
    (hterms : setup.producerTerms s.binders.binders r.name (setup.newProperties r.name) = .error e)
    (states : List (System (Observed ι τ))) :
  let walk := (process setup.observed).walk (step setup.observed s r).2 states
  FollowsTerms setup r.name ((s, r) :: walk.1) walk.2
  := by
  have hgoesOn : (step setup.observed s r).2
      = .running ⟨r.name, .forgetting cell ticket (.bindingFailed r.name e)⟩ := by
    rw [hstep]
    rfl
  have hfail : ((process setup.observed).step s r).1.binders = s.binders
      ∧ ((process setup.observed).step s r).1.ledger = s.ledger := by
    change (step setup.observed s r).1.binders = _ ∧ (step setup.observed s r).1.ledger = _
    rw [hstep]
    exact ⟨hbinders, hledger⟩
  rw [hgoesOn]
  obtain ⟨hasked, hpermitted⟩ := asked_walk_late setup
    (p := .running ⟨r.name, .forgetting cell ticket (.bindingFailed r.name e)⟩)
    (by rintro r' ⟨⟩; trivial) states
  obtain ⟨hledgers, hanswer⟩ := walk_forgetting setup.observed r.name cell ticket
    (.bindingFailed r.name e) states
  refine Or.inr ⟨[], s, r, _, rfl, hr, hpermitted, ?_⟩
  rw [hterms]
  refine ⟨?_, List.forall_mem_cons.mpr ⟨hfail.2, hledgers⟩, hanswer⟩
  rw [Process.asked_cons_of_eq hfail.1]
  exact hasked

/-- On its terms a resolution asks for the bind that it has begun. -/
theorem followsTerms_of_begun {r : Resolution (ObservedCall ι β)} (hr : r.IsPermitted s)
    {s' : System (Observed ι τ)} {cell : CellId} {ticket : Ticket} {terms : ι × ProducerProperties}
    (hstep : step setup.observed s r = (s', .running ⟨r.name, .binding cell ticket
      (s.fabric.addChannel (setup.newChannel r.name)).2
      (.onTerms setup.observed r.name (s.fabric.addChannel (setup.newChannel r.name)).2 terms)⟩))
    (hbinders : s'.binders = s.binders)
    (hterms : setup.producerTerms s.binders.binders r.name (setup.newProperties r.name) = .ok terms)
    (states : List (System (Observed ι τ))) :
  let walk := (process setup.observed).walk (step setup.observed s r).2 states
  FollowsTerms setup r.name ((s, r) :: walk.1) walk.2
  := by
  have hbegin : ((process setup.observed).step s r).1.binders = s.binders := by
    change (step setup.observed s r).1.binders = _
    rw [hstep]
    exact hbinders
  have hgoesOn := congrArg Prod.snd hstep
  dsimp only at hgoesOn
  rw [hgoesOn]
  obtain ⟨hasked, hpermitted⟩ := asked_walk_binding setup r.name cell ticket
    (s.fabric.addChannel (setup.newChannel r.name)).2
    (.onTerms setup.observed r.name (s.fabric.addChannel (setup.newChannel r.name)).2 terms) states
  refine Or.inr ⟨[], s, r, _, rfl, hr, hpermitted, ?_⟩
  rw [hterms, Process.asked_cons_of_eq hbegin]
  exact hasked

/-- What a resolution asks, wherever its steps are taken, follows the terms of the new destination. -/
theorem followsTerms_walk (setup : Setup ι τ β) (name : String)
    (states : List (System (Observed ι τ))) :
  let walk := (process setup.observed).walk (.running { name }) states
  FollowsTerms setup name walk.1 walk.2
  := by
  suffices h : ∀ p : Progress (Resolution (ObservedCall ι β)) ResolutionAnswer,
      (∀ r, p.rest? = some r → r.IsEarly ∧ r.name = name) →
        FollowsTerms setup name ((process setup.observed).walk p states).1
          ((process setup.observed).walk p states).2 by
    apply h
    rintro r ⟨⟩
    exact ⟨trivial, rfl⟩
  induction states with
  | nil => exact fun p _ => Or.inl ⟨by rintro step ⟨⟩, rfl⟩
  | cons s states ih =>
    intro p hp
    cases hr : p.rest? with
    | none =>
      rw [Process.walk, hr]
      exact Or.inl ⟨by rintro step ⟨⟩, rfl⟩
    | some r =>
      obtain ⟨hearly, hname⟩ := hp r hr
      rw [Process.walk_cons _ hr]
      rcases step_early setup.observed s hearly with ⟨hpermitted, hdelays⟩ |
        ⟨hpermitted, cell, ticket, s', hbinders, hledger, hstep⟩
      · apply FollowsTerms.cons hpermitted hdelays.binders hdelays.ledger
        apply ih
        intro r' hr'
        rw [← hname]
        exact hdelays.rest r' hr'
      · subst hname
        cases hterms : setup.producerTerms s.binders.binders r.name (setup.newProperties r.name) with
        | error e =>
          rw [ProducerBind.begin_of_error (by rw [hbinders]; exact hterms)] at hstep
          exact followsTerms_of_refused hpermitted hbinders hledger hstep hterms states
        | ok terms =>
          rw [ProducerBind.begin_of_ok (by rw [hbinders]; exact hterms)] at hstep
          exact followsTerms_of_begun hpermitted hstep hbinders hterms states

end Resolution

/-! ## All binds -/

/-- Whatever is asked of binders is asked on the terms of its name.  Properties that are not given with a
producer bind are the configured ones, and those of a new destination as well, but for what a callback
changes. -/
theorem Setup.asks_on_terms (setup : Setup ι τ β) :
  (∀ t name given, setup.AreProducerTerms t name given (setup.producerTerms t name given))
    ∧ (∀ t name, setup.AreConsumerTerms t name (setup.consumerTerms t name))
    ∧ (∀ s name output given, ProducerBind.AsksOnTerms setup s name output given)
    ∧ (∀ s name input, ConsumerBind.AsksOnTerms setup s name input)
    ∧ (∀ name states, Resolution.FollowsTerms setup name
      ((Resolution.process setup.observed).walk (.running { name }) states).1
      ((Resolution.process setup.observed).walk (.running { name }) states).2)
    ∧ (∀ s name output, Request.begin setup s (.bindProducer name output none)
      = Request.begin setup s
        (.bindProducer name output (some (setup.settings.producerProperties name))))
    ∧ (setup.callback = none →
      ∀ name, setup.newProperties name = setup.settings.producerProperties name)
    ∧ ∀ s call, setup.bindProcess.step (System.unobserved s) call.call
      = ((setup.observed.bindProcess.step s call).1.unobserved,
        (setup.observed.bindProcess.step s call).2.map ObservedCall.call id)
  := by
  refine ⟨setup.areProducerTerms, setup.areConsumerTerms, ProducerBind.asksOnTerms setup,
    ConsumerBind.asksOnTerms setup, Resolution.followsTerms_walk setup, ?_, ?_,
    setup.unobserved_bindProcess_step⟩
  · intro s name output
    rfl
  · intro hcallback name
    rw [newProperties, hcallback]

/-- A binder that answers at once and supplies two extension keys, with settings that give one of them
to the producers of a name. -/
def Setup.supplied : Setup Unit Unit Unit where
  settings := {
    bindings := ⟨[
      ("orders", {
        destination := some "books"
        producer := some { partitionCount := 2, extension := ⟨[("acks", .text "one")]⟩ } }),
      ("in", { destination := some "eu, us", group := some "billing" })]⟩ }
  factory := { binders := ⟨[("quick", ())]⟩ }
  binders := {
    extendedConsumer := fun _ _ _ => { concurrency := 7, extension := ⟨[("lag", .int 3)]⟩ }
    extendedProducer := fun _ _ _ => {
      partitionCount := 9
      extension := ⟨[("acks", .text "all"), ("linger", .int 5)]⟩ }
    bindConsumer := fun _ _ _ _ _ => ()
    bindProducer := fun _ _ _ _ => ()
    process := {
      step := fun v _ => (v, .ended (.ok ⟨0⟩))
      nearer := fun _ _ => False
      wellFounded := ⟨fun _ => ⟨_, fun _ h => h.elim⟩⟩
      nearer_of_step := by simp } }

/-- A key that is given is kept, and a key that is supplied is added; nothing else that is supplied is
taken. -/
theorem Setup.asks_on_terms_of_supplied :
  let s : System (Observed Unit Unit) := { binders := { binders := () } }
  let producing := ProducerBind.process supplied.observed
  let consuming := ConsumerBind.process supplied.observed
  let given := supplied.settings.producerProperties "orders"
  let handed : ProducerProperties := {
    partitionCount := 2, extension := ⟨[("acks", .text "one"), ("linger", .int 5)]⟩ }
  let extended : ConsumerProperties := { extension := ⟨[("lag", .int 3)]⟩ }
  (∀ states, producing.asked (producing.walk
      (ProducerBind.begin supplied.observed s "orders" ⟨0⟩ given).2 (s :: states)).1
        = [((), .producer "books" ⟨0⟩ handed)])
    ∧ (consuming.asked (consuming.walk
      (ConsumerBind.begin supplied.observed s "in" ⟨0⟩).2 [s, s]).1
        = [((), .consumer "eu" (some "billing") ⟨0⟩ extended),
          ((), .consumer "us" (some "billing") ⟨0⟩ extended)])
    ∧ supplied.newProperties "orders" = given
  := by
  intro s producing consuming given handed extended
  obtain ⟨-, -, hproducer, hconsumer, -, -, hcallback, -⟩ := supplied.asks_on_terms
  refine ⟨?_, ?_, ?_⟩
  · intro states
    exact (hproducer s "orders" ⟨0⟩ given).2 (s :: states)
  · have hterms : supplied.consumerTerms s.binders.binders "in" = .ok ((), extended) :=
      consumerTerms_eq_ok rfl rfl _
    have hparts : Text.commaParts (supplied.settings.destination "in") = ["eu", "us"] := by decide
    have hbegin : ConsumerBind.begin supplied.observed s "in" ⟨0⟩ = ConsumerBind.next supplied.observed s
        (.onTerms supplied.observed "in" ⟨0⟩ ((), extended)) [] ["eu", "us"] := by
      have hobserved : supplied.observed.consumerTerms s.binders "in" = .ok ((), extended) := hterms
      rw [ConsumerBind.begin_of_ok hobserved (ne_of_eq_of_ne hparts (List.cons_ne_nil _ _)), ← hparts]
      rfl
    have hasks := hconsumer s "in" ⟨0⟩
    simp only [ConsumerBind.AsksOnTerms, hterms, hparts, hbegin, reduceCtorEq, if_false] at hasks
    rw [hbegin]
    exact (hasks.2 [s, s]).2 [⟨0⟩, ⟨0⟩] rfl
  · exact hcallback rfl "orders"

end ChannelBinding
