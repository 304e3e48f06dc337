import ChannelBinding.Proofs.Acceptance
import ChannelBinding.Proofs.Asking
import ChannelBinding.Proofs.Decision
import Mathlib.Data.List.Basic

/-!
# Binds that find a binder

If a binder is found for a binding name, every bind of the name comes to ask it, unless a fault of the
properties speaks against the bind or a consumer has no destination.  It is asked with what it supplies
itself, and nobody else is asked.  What a bind fails with is then a fault, or an error of this binder, and
never that there is no binder.
-/

namespace ChannelBinding

variable {ι τ β : Type}

/-- The error of a bind that a fault speaks against. -/
def BindingError.ofFault (message : String) : BindingError :=
  .invalidProperties (BinderError.invalidArgument message).message

namespace ProducerBind

/-- Whether a producer bind with given properties uses a binder, wherever its steps are taken: a fault of
the properties is answered at once, and else the binder is asked with the first step, and nobody else is
ever asked; the bind then fails with an error of the binder only. -/
def Uses (setup : Setup ι τ β) (s : System (Observed ι τ)) (name : String) (binder : ι)
    (output : ChannelId) (given : ProducerProperties) : Prop :=
  let P := process setup.observed
  let begun := begin setup.observed s name output given
  match given.fault? with
  | some fault => begun = (s, .ended (.error (.ofFault fault.message)))
  | none =>
    ∃ handed, given.Completes (setup.binders.extendedProducer s.binders.binders binder name) handed
      ∧ ∀ states,
        let walk := P.walk begun.2 states
        P.asked walk.1
            = (if states = [] then []
              else [(binder, .producer (setup.settings.destination name) output handed)])
          ∧ ∀ e, walk.2 = .ended (.error e) → ∃ cause, e = .binder cause

theorem uses {setup : Setup ι τ β} {name : String} {binder : ι}
    (hbinder : setup.factory.get? (setup.settings.binderName name) = some binder)
    (s : System (Observed ι τ)) (output : ChannelId) (given : ProducerProperties) :
  Uses setup s name binder output given
  := by
  rw [Uses]
  cases hgiven : given.fault? with
  | some fault =>
    have hterms : setup.observed.producerTerms s.binders name given = .error (.ofFault fault.message) :=
      Setup.producerTerms_eq_error hgiven hbinder s.binders.binders
    exact begin_of_error hterms
  | none =>
    have hterms := Setup.producerTerms_eq_ok hgiven hbinder s.binders.binders
    have hobserved : setup.observed.producerTerms s.binders name given = .ok _ := hterms
    have hasks := asksOnTerms setup s name output given
    rw [AsksOnTerms, hterms] at hasks
    refine ⟨_, given.completes_withExtensionDefaults _, fun states => ⟨hasks.2 states, ?_⟩⟩
    intro e he
    rw [begin_of_ok hobserved] at he
    exact eq_binder_of_walk he

end ProducerBind

namespace ConsumerBind

/-- Whether a consumer bind uses a binder, wherever its steps are taken: a fault of the properties and the
lack of a destination are answered at once, and else the binder is asked for the first destination with
the first step, for the others in order, and for all of them if the bind ends well; nobody else is asked,
and the bind fails with an error of the binder only. -/
def Uses (setup : Setup ι τ β) (s : System (Observed ι τ)) (name : String) (binder : ι)
    (input : ChannelId) : Prop :=
  let P := process setup.observed
  let begun := begin setup.observed s name input
  let given := setup.settings.consumerProperties name
  let destinations := Text.commaParts (setup.settings.destination name)
  match given.fault? with
  | some fault => begun = (s, .ended (.error (.ofFault fault.message)))
  | none =>
    if destinations = [] then
      begun = (s, .ended (.error (.invalidProperties s!"binding '{name}' has no destination")))
    else
      ∃ handed, given.Completes (setup.binders.extendedConsumer s.binders.binders binder name) handed
        ∧ ∀ states,
          let walk := P.walk begun.2 states
          let requests := destinations.map fun destination =>
            (binder, .consumer destination (setup.settings.group name) input handed)
          P.asked walk.1 <+: requests
            ∧ (states ≠ [] → P.asked walk.1 ≠ [])
            ∧ (∀ bs, walk.2 = .ended (.ok bs) → P.asked walk.1 = requests)
            ∧ ∀ e, walk.2 = .ended (.error e) → ∃ cause, e = .binder cause

/-- A bind that goes on to a destination asks with its next step. -/
theorem asked_walk_next_ne_nil (setup : Setup ι τ β) (s : System (Observed ι τ))
    (request : ConsumerRequest ι) (created : List BindingId) {rest : List String} (hrest : rest ≠ [])
    {states : List (System (Observed ι τ))} (hstates : states ≠ []) :
  let P := process setup.observed
  P.asked (P.walk (next setup.observed s request created rest).2 states).1 ≠ []
  := by
  obtain ⟨destination, others, rfl⟩ := List.exists_cons_of_ne_nil hrest
  obtain ⟨s', later, rfl⟩ := List.exists_cons_of_ne_nil hstates
  dsimp only [next]
  rw [Process.walk_cons _ (by rfl), Process.asked_cons (asked_step_binding setup s' ..)]
  exact List.cons_ne_nil _ _

theorem uses {setup : Setup ι τ β} {name : String} {binder : ι}
    (hbinder : setup.factory.get? (setup.settings.binderName name) = some binder)
    (s : System (Observed ι τ)) (input : ChannelId) :
  Uses setup s name binder input
  := by
  rw [Uses]
  cases hgiven : (setup.settings.consumerProperties name).fault? with
  | some fault =>
    have hterms : setup.observed.consumerTerms s.binders name = .error (.ofFault fault.message) :=
      Setup.consumerTerms_eq_error hgiven hbinder s.binders.binders
    exact begin_of_error hterms
  | none =>
    have hterms := Setup.consumerTerms_eq_ok hgiven hbinder s.binders.binders
    have hobserved : setup.observed.consumerTerms s.binders name = .ok _ := hterms
    have hasks := asksOnTerms setup s name input
    rw [AsksOnTerms, hterms] at hasks
    dsimp only at hasks ⊢
    split
    · rename_i hd
      rwa [if_pos hd] at hasks
    · rename_i hd
      rw [if_neg hd] at hasks
      obtain ⟨-, hwalks⟩ := hasks
      refine ⟨_, ConsumerProperties.completes_withExtensionDefaults _ _, fun states => ?_⟩
      refine ⟨(hwalks states).1, ?_, (hwalks states).2, ?_⟩
      · intro hstates
        rw [begin_of_ok hobserved hd]
        exact asked_walk_next_ne_nil setup s _ [] hd hstates
      · intro e he
        rw [begin_of_ok hobserved hd] at he
        exact eq_binder_of_walk he

end ConsumerBind

namespace Resolution

variable {setup : Setup ι τ β} {name : String}

/-! ## What resolutions fail with -/

/-- Whether what speaks against the bind of a new destination, and what its binder may answer if nothing
does, is of a kind. -/
def Admits (setup : Setup ι τ β) (name : String) (Q : BindingError → Prop) : Prop :=
  ∀ t, match setup.producerTerms t name (setup.newProperties name) with
    | .error e => Q e
    | .ok _ => ∀ cause, Q (.binder cause)

/-- Whether a resolution of a name is on its way to fail only with errors of a kind. -/
def FailsOnly (name : String) (Q : BindingError → Prop) (r : Resolution β) : Prop :=
  r.name = name ∧ match r.stage with
    | .binding .. => ∀ cause, Q (.binder cause)
    | .forgetting _ _ failure => ∀ n e, failure = .bindingFailed n e → Q e
    | _ => True

/-- Whether a resolution goes on so, or has failed with no other error of a bind. -/
def FailedOnly (name : String) (Q : BindingError → Prop) :
    Progress (Resolution β) ResolutionAnswer → Prop
  | .running r | .waiting r _ => r.FailsOnly name Q
  | .ended answer => ∀ n e, answer = .error (.bindingFailed n e) → Q e

variable {Q : BindingError → Prop} {s : System τ} {r : Resolution β}

theorem FailedOnly.rest {p : Progress (Resolution β) ResolutionAnswer} (hp : FailedOnly name Q p)
    (hr : p.rest? = some r) :
  r.FailsOnly name Q
  := by
  cases p with
  | running rest | waiting rest pause =>
    cases hr
    exact hp
  | ended answer => cases hr

/-- A resolution goes on with its bind, or fails with the error of the bind. -/
theorem failedOnly_proceed (hname : r.name = name) (cell : CellId) (ticket : Ticket)
    (channel : ChannelId) {p : System τ × Progress (ProducerBind β) ProducerAnswer}
    (hrest : ∀ bind, p.2.rest? = some bind → ∀ cause, Q (.binder cause))
    (herror : ∀ e, p.2 = .ended (.error e) → Q e) :
  FailedOnly name Q (r.proceed cell ticket channel p).2
  := by
  obtain ⟨s, bind | ⟨bind, pause⟩ | (e | b)⟩ := p
  · exact ⟨hname, hrest bind rfl⟩
  · exact ⟨hname, hrest bind rfl⟩
  · refine ⟨hname, ?_⟩
    rintro n e' ⟨⟩
    exact herror e rfl
  · rintro n e ⟨⟩

/-- The bind of a new destination is begun, or what speaks against it is its error. -/
theorem failedOnly_begin (hadmits : Admits setup name Q) (hname : r.name = name) (cell : CellId)
    (ticket : Ticket) (channel : ChannelId) (s : System τ) :
  FailedOnly name Q (r.proceed cell ticket channel
    (ProducerBind.begin setup s name channel (setup.newProperties name))).2
  := by
  have hterms := hadmits s.binders
  cases hspeaks : setup.producerTerms s.binders name (setup.newProperties name) with
  | error e =>
    rw [hspeaks] at hterms
    rw [ProducerBind.begin_of_error hspeaks]
    apply failedOnly_proceed hname
    · rintro bind ⟨⟩
    · rintro e' ⟨⟩
      exact hterms
  | ok terms =>
    rw [hspeaks] at hterms
    rw [ProducerBind.begin_of_ok hspeaks]
    apply failedOnly_proceed hname
    · intro bind _
      exact hterms
    · rintro e ⟨⟩

/-- No step of a resolution leads to an error of its bind of another kind. -/
theorem failedOnly_step (hadmits : Admits setup name Q) (hr : r.FailsOnly name Q) :
  FailedOnly name Q (step setup s r).2
  := by
  obtain ⟨own, stage⟩ := r
  obtain ⟨hname, hstage⟩ := hr
  have hname : own = name := hname
  subst hname
  -- other errors than those of the bind are not spoken of
  cases stage with
  | requested =>
    simp only [step]
    split
    · exact ⟨rfl, trivial⟩
    · rintro n e ⟨⟩
  | readingFixed =>
    simp only [step]
    split
    · rintro n e ⟨⟩
    · split
      · exact ⟨rfl, trivial⟩
      · rintro n e ⟨⟩
  | readingCache =>
    simp only [step]
    split
    · rintro n e ⟨⟩
    · exact ⟨rfl, trivial⟩
  | entering => exact ⟨rfl, trivial⟩
  | claiming cell ticket =>
    simp only [step]
    split
    · rintro n e ⟨⟩
    · exact ⟨rfl, trivial⟩
    · rename_i cache hclaim
      obtain ⟨s', hannounce, -, -⟩ := announce_eq setup { s with cache } own
      rw [hannounce]
      exact failedOnly_begin (r := ⟨own, .claiming cell ticket⟩) hadmits rfl cell ticket _ s'
  | binding cell ticket channel bind =>
    apply failedOnly_proceed rfl
    · intro bind' _
      exact hstage
    · intro e he
      obtain ⟨cause, rfl⟩ := ProducerBind.eq_binder_of_step he
      exact hstage cause
  | forgetting cell ticket failure =>
    intro n e he
    exact hstage n e (Except.error.inj he)

/-- What speaks against the bind of a new destination, or an error of its binder, is all that a resolution
fails with once it has come to bind. -/
theorem admitted_of_walk (hadmits : Admits setup name Q) {states : List (System τ)} {n : String}
    {e : BindingError}
    (h : ((process setup).walk (.running { name }) states).2 = .ended (.error (.bindingFailed n e))) :
  Q e
  := by
  have hfailed : FailedOnly name Q ((process setup).walk (.running { name }) states).2 := by
    rcases (process setup).walk_snd_cases (.running { name }) states with heq | ⟨s, r, hmem, heq⟩
    · rw [heq]
      exact ⟨rfl, trivial⟩
    · rw [heq]
      apply failedOnly_step hadmits
      apply (process setup).walk_keeps (I := FailsOnly name Q) _ _ states _ hmem
      · intro s r r' hr hr'
        exact (failedOnly_step hadmits hr).rest hr'
      · rintro r ⟨⟩
        exact ⟨rfl, trivial⟩
  rw [h] at hfailed
  exact hfailed n e rfl

/-! ## What resolutions use -/

/-- Whether a resolution uses a binder in some steps, with what it comes to.  Nothing is asked before it has
the permit of its cell.  A fault of the properties of the new destination is answered then, and else the
binder is asked with the step after the permit, and nobody else is ever asked; the bind then fails with an
error of the binder only. -/
def Uses (setup : Setup ι τ β) (name : String) (binder : ι)
    (steps : List (System (Observed ι τ) × Resolution (ObservedCall ι β)))
    (p : Progress (Resolution (ObservedCall ι β)) ResolutionAnswer) : Prop :=
  let P := process setup.observed
  let given := setup.newProperties name
  match given.fault? with
  | some fault => P.asked steps = []
    ∧ ((∃ step ∈ steps, step.2.IsPermitted step.1) →
      ∀ answer, p = .ended answer → answer = .error (.bindingFailed name (.ofFault fault.message)))
    ∧ ∀ n e, p = .ended (.error (.bindingFailed n e)) → e = .ofFault fault.message
  | none => ((∀ step ∈ steps, ¬ step.2.IsPermitted step.1) → P.asked steps = [])
    ∧ (∀ before s r after, steps = before ++ (s, r) :: after → r.IsPermitted s →
      ∃ handed, given.Completes (setup.binders.extendedProducer s.binders.binders binder name) handed
        ∧ P.asked steps
          = if after = [] then []
            else [(binder, .producer (setup.settings.destination name)
              (s.fabric.addChannel (setup.newChannel name)).2 handed)])
    ∧ ∀ n e, p = .ended (.error (.bindingFailed n e)) → ∃ cause, e = .binder cause

/-- A resolution that has got its permit follows the terms that there are then; it gets it once. -/
theorem FollowsTerms.asked_of_permitted {s : System (Observed ι τ)}
    {r : Resolution (ObservedCall ι β)}
    {before after : List (System (Observed ι τ) × Resolution (ObservedCall ι β))}
    {p : Progress (Resolution (ObservedCall ι β)) ResolutionAnswer}
    (h : FollowsTerms setup name (before ++ (s, r) :: after) p) (hr : r.IsPermitted s)
    {terms : ι × ProducerProperties}
    (hterms : setup.producerTerms s.binders.binders name (setup.newProperties name) = .ok terms) :
  (process setup.observed).asked (before ++ (s, r) :: after)
    = if after = [] then []
      else [(terms.1, .producer (setup.settings.destination name)
        (s.fabric.addChannel (setup.newChannel name)).2 terms.2)]
  := by
  rcases h with ⟨hnobody, -⟩ | ⟨before', s', r', after', hsteps, -, hothers, hasked⟩
  · exact absurd hr (hnobody (s, r) List.mem_append_cons_self)
  · have hbefore : (s, r) ∉ before' := fun hmem => hothers _ (List.mem_append_left _ hmem) hr
    have hafter : (s, r) ∉ after' := fun hmem => hothers _ (List.mem_append_right _ hmem) hr
    obtain ⟨rfl, heq, rfl⟩ := (List.append_cons_inj_of_notMem hbefore hafter).mp hsteps.symm
    cases heq
    rw [hterms] at hasked
    exact hasked

theorem uses {binder : ι}
    (hbinder : setup.factory.get? (setup.settings.binderName name) = some binder)
    (states : List (System (Observed ι τ))) :
  let walk := (process setup.observed).walk (.running { name }) states
  Uses setup name binder walk.1 walk.2
  := by
  intro walk
  have hfollows : FollowsTerms setup name walk.1 walk.2 := followsTerms_walk setup name states
  rw [Uses]
  cases hgiven : (setup.newProperties name).fault? with
  | some fault =>
    have hadmits : Admits setup.observed name fun e => e = .ofFault fault.message := by
      intro t
      have hterms : setup.observed.producerTerms t name (setup.observed.newProperties name)
          = .error (.ofFault fault.message) := Setup.producerTerms_eq_error hgiven hbinder t.binders
      rw [hterms]
    have hfault : ∀ n e, walk.2 = .ended (.error (.bindingFailed n e)) → e = .ofFault fault.message :=
      fun n e => admitted_of_walk hadmits
    rcases hfollows with ⟨hnobody, hnothing⟩ | ⟨before, s, r, after, -, -, -, hasked⟩
    · refine ⟨hnothing, ?_, hfault⟩
      rintro ⟨step, hstep, hpermitted⟩
      exact absurd hpermitted (hnobody step hstep)
    · rw [Setup.producerTerms_eq_error hgiven hbinder] at hasked
      exact ⟨hasked.1, fun _ => hasked.2.2, hfault⟩
  | none =>
    have hadmits : Admits setup.observed name fun e => ∃ cause, e = .binder cause := by
      intro t
      have hterms : setup.observed.producerTerms t name (setup.observed.newProperties name) = .ok _ :=
        Setup.producerTerms_eq_ok hgiven hbinder t.binders
      rw [hterms]
      exact fun cause => ⟨cause, rfl⟩
    refine ⟨?_, ?_, fun n e => admitted_of_walk hadmits⟩
    · intro hnobody
      rcases hfollows with ⟨-, hnothing⟩ | ⟨before, s, r, after, hsteps, hr, -, -⟩
      · exact hnothing
      · exact absurd hr (hnobody (s, r) (hsteps ▸ List.mem_append_cons_self))
    · intro before s r after hsteps hr
      rw [hsteps] at hfollows ⊢
      exact ⟨_, ProducerProperties.completes_withExtensionDefaults _ _,
        hfollows.asked_of_permitted hr (Setup.producerTerms_eq_ok hgiven hbinder s.binders.binders)⟩

/-! ## Resolutions that come to bind -/

/-- Whether a resolution that runs alone gets the permit of its cell, and goes on from there. -/
def ComesToBind (setup : Setup ι τ β) (s : System τ) (name : String) : Prop :=
  let P := process setup
  ∃ before s' r' last, (P.walk (.running { name }) (P.trail 6 s { name })).1 = before ++ [(s', r'), last]
    ∧ r'.IsPermitted s'

/-- With its permit a resolution goes on, whether there are terms or not. -/
theorem goesOn_of_permitted (setup : Setup ι τ β) {s : System τ} {r : Resolution β}
    (hr : r.IsPermitted s) :
  ∃ s' r', step setup s r = (s', .running r')
  := by
  have hearly : r.IsEarly := by
    obtain ⟨cell, ticket, hstage, -⟩ := hr
    rw [IsEarly, hstage]
    trivial
  rcases step_early setup s hearly with ⟨hnot, -⟩ | ⟨-, cell, ticket, s', -, -, hstep⟩
  · exact absurd hr hnot
  · rw [hstep]
    cases hterms : setup.producerTerms s'.binders r.name (setup.newProperties r.name) with
    | error e =>
      rw [ProducerBind.begin_of_error hterms]
      exact ⟨_, _, rfl⟩
    | ok terms =>
      rw [ProducerBind.begin_of_ok hterms]
      exact ⟨_, _, rfl⟩

/-- A resolution of a name that nothing decides about, and that nobody else resolves, comes to bind. -/
theorem comesToBind {s : System τ} (hnew : IsNew setup s (s.fixed.get? name) name)
    (hentry : s.cache.entries.get? name = none) :
  ComesToBind setup s name
  := by
  obtain ⟨entered, cell, ticket, henter⟩ : ∃ entered cell ticket,
      s.cache.enter name = (entered, cell, ticket) := ⟨_, _, _, rfl⟩
  obtain ⟨started, hstarted⟩ : ∃ started, s.emit (.resolutionStarted name) = started := ⟨_, rfl⟩
  have hfixed : started.fixed.get? name = none := by
    rw [← hstarted]
    exact hnew.not_fixed
  have hcached : started.cache.get? name = none := by
    rw [← hstarted]
    exact hnew.not_cached
  have hrequested : (process setup).step s { name } = (started, .running ⟨name, .readingFixed⟩) := by
    simp only [process, step, isValidName_iff.mpr hnew.valid, if_true, goTo, hstarted]
  have hreadingFixed : (process setup).step started ⟨name, .readingFixed⟩
      = (started, .running ⟨name, .readingCache⟩) := by
    simp only [process, step, hfixed, Settings.allowsDynamic_iff.mpr hnew.admitted, if_true, goTo]
  have hreadingCache : (process setup).step started ⟨name, .readingCache⟩
      = (started, .running ⟨name, .entering⟩) := by
    simp only [process, step, hcached, goTo]
  have hentering : (process setup).step started ⟨name, .entering⟩
      = ({ started with cache := entered }, .running ⟨name, .claiming cell ticket⟩) := by
    rw [← hstarted]
    simp only [process, step, System.emit, henter, goTo]
  have hpermitted : IsPermitted (β := β) { started with cache := entered } ⟨name, .claiming cell ticket⟩ :=
    ⟨cell, ticket, rfl, Cache.claim_of_enter hentry henter⟩
  obtain ⟨s', r', hclaiming⟩ := goesOn_of_permitted setup hpermitted
  refine ⟨[(s, { name }), (started, ⟨name, .readingFixed⟩), (started, ⟨name, .readingCache⟩),
    (started, ⟨name, .entering⟩)], { started with cache := entered }, ⟨name, .claiming cell ticket⟩,
    (s', r'), ?_, hpermitted⟩
  rw [Process.walk_trail_succ _ hrequested, Process.walk_trail_succ _ hreadingFixed,
    Process.walk_trail_succ _ hreadingCache, Process.walk_trail_succ _ hentering,
    Process.walk_trail_succ _ hclaiming, Process.trail_one]
  rfl

end Resolution

end ChannelBinding
