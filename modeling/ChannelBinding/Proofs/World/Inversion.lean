import ChannelBinding.Proofs.World.Effect

/-!
# Every step has an effect

Each step of each call is taken apart once, here: `Call.effect_step` says which effect it has, and
`Request.effect_begin` which one the beginning of a call has.  A bind that a resolution has begun
goes by the resolution's name; such resolutions are tidy, and a step keeps them so.
-/

namespace ChannelBinding

variable {ι τ β : Type}

/-! ## Binds -/

/-- A bind that was prepared goes by the name that it was prepared for. -/
theorem ProducerBind.name_of_prepare {setup : Setup ι τ β} {binders : τ} {name : String}
    {output : ChannelId} {properties : ProducerProperties} {bind : ProducerBind β}
    (h : prepare setup binders name output properties = .ok bind) :
  bind.name = name
  := by
  unfold prepare at h
  cases hb : setup.binderFor name with
  | error e => simp [hb, Bind.bind, Except.bind] at h
  | ok binder =>
    simp only [hb, Bind.bind, Except.bind] at h
    split at h
    · cases h
    · cases h
      rfl

/-- A bind that begins leaves the books alone; it goes on under its name, or is refused. -/
theorem ProducerBind.begin_cases (setup : Setup ι τ β) (s : System τ) (name : String)
    (output : ChannelId) (properties : ProducerProperties) :
  (begin setup s name output properties).1.books = s.books
    ∧ ((∃ e, (begin setup s name output properties).2 = .ended (.error e))
      ∨ ∃ bind, bind.name = name ∧ (begin setup s name output properties).2 = .running bind)
  := by
  unfold begin
  cases h : prepare setup s.binders name output properties with
  | error e => exact ⟨rfl, Or.inl ⟨e, rfl⟩⟩
  | ok bind => exact ⟨rfl, Or.inr ⟨bind, name_of_prepare h, rfl⟩⟩

/-- A step of a bind records a binding if the binder hands one over, and else leaves the books
alone. -/
theorem ProducerBind.step_cases (setup : Setup ι τ β) (s : System τ) (bind : ProducerBind β) :
  (∃ bind', bind'.name = bind.name
      ∧ ((step setup s bind).2 = .running bind'
        ∨ ∃ pause, (step setup s bind).2 = .waiting bind' pause)
      ∧ (step setup s bind).1.books = s.books
      ∧ ∀ b, (setup.bindProcess.step s bind.call).2 ≠ .ended (.ok b))
    ∨ (∃ b, (step setup s bind).2 = .ended (.ok b)
      ∧ (step setup s bind).1.books
        = { s.books with ledger := s.books.ledger.record .producer bind.name [b] }
      ∧ (setup.bindProcess.step s bind.call).2 = .ended (.ok b))
    ∨ ∃ e, (step setup s bind).2 = .ended (.error e)
      ∧ (step setup s bind).1.books = s.books
      ∧ ∀ b, (setup.bindProcess.step s bind.call).2 ≠ .ended (.ok b)
  := by
  have hbooks := setup.books_bindProcess_step s bind.call
  unfold step
  cases hc : setup.bindProcess.step s bind.call with
  | mk s' p =>
    rw [hc] at hbooks
    cases p with
    | running call =>
      apply Or.inl
      exact ⟨{ bind with call }, rfl, Or.inl rfl, hbooks, by simp⟩
    | waiting call pause =>
      apply Or.inl
      exact ⟨{ bind with call }, rfl, Or.inr ⟨pause, rfl⟩, hbooks, by simp⟩
    | ended answer =>
      apply Or.inr
      cases answer with
      | ok b =>
        apply Or.inl
        refine ⟨b, rfl, ?_, rfl⟩
        rw [← hbooks]
        rfl
      | error e =>
        apply Or.inr
        exact ⟨.binder e, rfl, hbooks, by simp⟩

/-! ## Resolutions -/

/-- A resolution is tidy if the bind that it has begun goes by its name. -/
def Resolution.IsTidy (r : Resolution β) : Prop :=
  ∀ cell ticket channel bind, r.stage = .binding cell ticket channel bind → bind.name = r.name

@[simp]
theorem Resolution.books_announce (setup : Setup ι τ β) (s : System τ) (name : String) :
  (announce setup s name).1.books = s.books
  := by
  unfold announce
  cases setup.callback with
  | none => rfl
  | some callback =>
    dsimp only
    split
    · rfl
    · rfl

@[simp]
theorem Resolution.books_establish (r : Resolution β) (s : System τ) (cell : CellId) (t : Ticket)
    (c : ChannelId) (b : BindingId) :
  (r.establish s cell t c b).books
    = { s.books with
        cache := s.books.cache.fill cell t ⟨c, b⟩
        registry := s.books.registry.add r.name c }
  := rfl

@[simp]
theorem Resolution.books_fail (r : Resolution β) (s : System τ) (cell : CellId) (t : Ticket)
    (e : BindingError) :
  (r.fail s cell t e).1.books = { s.books with cache := s.books.cache.giveUp cell t }
  := rfl

/-- Every resolution that a step leads to is tidy. -/
def TidyAfter (p : Progress (Resolution β) ResolutionAnswer) : Prop :=
  ∀ r, p = .running r ∨ (∃ pause, p = .waiting r pause) → r.IsTidy

/-- The step of a resolution that binds. -/
theorem Resolution.effect_binding (setup : Setup ι τ β) (s : System τ) (name : String)
    (cell : CellId) (t : Ticket) (channel : ChannelId) (bind : ProducerBind β)
    (hname : bind.name = name) :
  let r : Resolution β := ⟨name, .binding cell t channel bind⟩
  Effect s.books { hold := r.hold? } (step setup s r).1.books
      (Call.after (ι := ι) .resolving (step setup s r).2).stake
      (r.news setup s ++ Call.answered name (step setup s r).2)
    ∧ TidyAfter (step setup s r).2
  := by
  intro r
  obtain ⟨s₁, p, hs⟩ : ∃ s₁ p, ProducerBind.step setup s bind = (s₁, p) := ⟨_, _, rfl⟩
  have hstep : step setup s r = r.proceed cell t channel (s₁, p) := by
    rw [← hs]
    rfl
  have hcases := ProducerBind.step_cases setup s bind
  simp only [hs] at hcases
  rw [hstep]
  rcases hcases with ⟨bind', hb', hp, hbooks, hno⟩ | ⟨b, rfl, hbooks, hyes⟩ | ⟨e, rfl, hbooks, hno⟩
  · -- the binder goes on
    have hnews : r.news setup s = [] := by
      simp only [news, r]
    rw [hnews]
    rcases hp with rfl | ⟨pause, rfl⟩
    · constructor
      · simp only [proceed, goTo, hbooks]
        apply Effect.quiet
      · rintro r' (h | ⟨_, h⟩)
        · cases h
          intro _ _ _ _ h
          cases h
          apply hb'.trans hname
        · cases h
    · constructor
      · simp only [proceed, hbooks]
        apply Effect.quiet
      · rintro r' (h | ⟨_, h⟩)
        · cases h
        · cases h
          intro _ _ _ _ h
          cases h
          apply hb'.trans hname
  · -- the binder hands over a binding
    have hnews : r.news setup s = [.bound name channel b, .tracked .producer name [b]] := by
      simp only [news, r, hyes]
    rw [hnews]
    constructor
    · simp only [proceed, books_establish, hbooks, hname]
      apply Effect.established
    · rintro r' (h | ⟨_, h⟩)
      · cases h
      · cases h
  · -- the binder refuses
    have hnews : r.news setup s = [] := by
      simp only [news, r]
    rw [hnews]
    constructor
    · simp only [proceed, books_fail, hbooks]
      apply Effect.failed
    · rintro r' (h | ⟨_, h⟩)
      · cases h
        intro _ _ _ _ h
        cases h
      · cases h

/-- The step of a resolution that wants the value or the permit of its cell. -/
theorem Resolution.effect_claiming (setup : Setup ι τ β) (s : System τ) (name : String)
    (cell : CellId) (t : Ticket) :
  let r : Resolution β := ⟨name, .claiming cell t⟩
  Effect s.books { hold := r.hold? } (step setup s r).1.books
      (Call.after (ι := ι) .resolving (step setup s r).2).stake
      (r.news setup s ++ Call.answered name (step setup s r).2)
    ∧ TidyAfter (step setup s r).2
  := by
  intro r
  obtain ⟨cache, claim, hclaim⟩ : ∃ cache claim, s.cache.claim cell t = (cache, claim) :=
    ⟨_, _, rfl⟩
  have hcache : cache = (s.books.cache.claim cell t).1 := by
    rw [System.books, hclaim]
  have hanswer : (s.books.cache.claim cell t).2 = claim := by
    rw [System.books, hclaim]
  cases claim with
  | filled v =>
    have hnews : r.news setup s = [] := by
      simp only [news, r, hclaim]
    simp only [step, r, hclaim, hnews]
    constructor
    · rw [System.books_withCache, hcache]
      apply Effect.found _ _ _ _ _ hanswer
    · rintro r' (h | ⟨_, h⟩)
      · cases h
      · cases h
  | queued =>
    have hnews : r.news setup s = [] := by
      simp only [news, r, hclaim]
    simp only [step, r, hclaim, hnews]
    constructor
    · rw [System.books_withCache, hcache]
      apply Effect.queued _ _ _ _ hanswer
    · rintro r' (h | ⟨_, h⟩)
      · cases h
      · cases h
        intro _ _ _ _ h
        cases h
  | permitted =>
    have hnews : r.news setup s = [.attempted name] := by
      simp only [news, r, hclaim]
    simp only [step, r, hclaim, hnews]
    obtain ⟨s₁, c, properties, hs₁⟩ :
        ∃ s₁ c properties, announce setup { s with cache } name = (s₁, c, properties) :=
      ⟨_, _, _, rfl⟩
    have hbooks₁ : s₁.books = { s.books with cache := cache } := by
      have h := books_announce setup { s with cache } name
      rw [hs₁] at h
      apply h
    obtain ⟨s₂, p, hs₂⟩ : ∃ s₂ p, ProducerBind.begin setup s₁ name c properties = (s₂, p) :=
      ⟨_, _, rfl⟩
    have hcases := ProducerBind.begin_cases setup s₁ name c properties
    simp only [hs₂, hbooks₁] at hcases
    simp only [hs₁, hs₂]
    obtain ⟨hbooks₂, ⟨e, rfl⟩ | ⟨bind, hname, rfl⟩⟩ := hcases
    · constructor
      · simp only [proceed, books_fail, hbooks₂, hcache]
        apply Effect.refused _ _ _ _ hanswer
      · rintro r' (h | ⟨_, h⟩)
        · cases h
          intro _ _ _ _ h
          cases h
        · cases h
    · constructor
      · simp only [proceed, hbooks₂, hcache]
        apply Effect.permitted _ _ _ _ hanswer
      · rintro r' (h | ⟨_, h⟩)
        · cases h
          intro _ _ _ _ h
          cases h
          apply hname
        · cases h

/-- A resolution that leads to another stage of its own, or ends, keeps tidy. -/
theorem Resolution.tidyAfter_goTo (r : Resolution β) (stage : ResolutionStage β)
    (h : ∀ cell ticket channel bind, stage ≠ .binding cell ticket channel bind) :
  TidyAfter (r.goTo stage)
  := by
  rintro r' (h' | ⟨_, h'⟩)
  · cases h'
    intro _ _ _ _ hs
    apply absurd hs (h _ _ _ _)
  · cases h'

theorem Resolution.tidyAfter_ended (answer : ResolutionAnswer) :
  TidyAfter (β := β) (.ended answer)
  := by
  rintro r' (h | ⟨_, h⟩)
  · cases h
  · cases h

/-- Every step of a tidy resolution has an effect, and leads to a tidy one. -/
theorem Resolution.effect_step (setup : Setup ι τ β) (s : System τ) (r : Resolution β)
    (hr : r.IsTidy) :
  Effect s.books { hold := r.hold? } (step setup s r).1.books
      (Call.after (ι := ι) .resolving (step setup s r).2).stake
      (r.news setup s ++ Call.answered r.name (step setup s r).2)
    ∧ TidyAfter (step setup s r).2
  := by
  obtain ⟨name, stage⟩ := r
  cases stage with
  | requested =>
    simp only [step, news]
    split
    · exact ⟨.quiet _ _, tidyAfter_goTo _ _ (by simp)⟩
    · exact ⟨.quiet _ _, tidyAfter_ended _⟩
  | readingFixed =>
    simp only [step, news]
    split
    · rename_i c hc
      exact ⟨.answered _ _ _ (Or.inl hc), tidyAfter_ended _⟩
    · split
      · exact ⟨.quiet _ _, tidyAfter_goTo _ _ (by simp)⟩
      · exact ⟨.quiet _ _, tidyAfter_ended _⟩
  | readingCache =>
    simp only [step, news]
    split
    · rename_i v hv
      exact ⟨.answered _ _ _ (Or.inr ⟨v.binding, hv⟩), tidyAfter_ended _⟩
    · exact ⟨.quiet _ _, tidyAfter_goTo _ _ (by simp)⟩
  | entering =>
    simp only [step, news]
    exact ⟨.entered _ _, tidyAfter_goTo _ _ (by simp)⟩
  | claiming cell t => apply effect_claiming
  | binding cell t channel bind =>
    apply effect_binding
    apply hr _ _ _ _ rfl
  | forgetting cell t e =>
    simp only [step, news]
    exact ⟨.forgot _ _ _ _, tidyAfter_ended _⟩

/-- A resolution that is dropped lets go of its cell. -/
theorem Resolution.effect_abandon (s : System τ) (r : Resolution β) :
  Effect s.books { hold := r.hold? } (r.abandon s).books {} []
  := by
  obtain ⟨name, stage⟩ := r
  cases stage with
  | requested | readingFixed | readingCache | entering => apply Effect.quiet
  | claiming cell t => apply Effect.abandoned
  | binding cell t channel bind => apply Effect.abandoned
  | forgetting cell t e => apply Effect.left

/-! ## Consumer binds -/

/-- A consumer bind that was prepared goes by the name that it was prepared for, and has the parts of
the destination of the name before it, of which there is one at the least. -/
theorem ConsumerBind.of_prepare {setup : Setup ι τ β} {binders : τ} {name : String}
    {input : ChannelId} {request : ConsumerRequest ι} {destinations : List String}
    (h : prepare setup binders name input = .ok (request, destinations)) :
  request.name = name ∧ destinations = Text.commaParts (setup.settings.destination name)
    ∧ destinations ≠ []
  := by
  unfold prepare at h
  cases hb : setup.binderFor name with
  | error e => simp [hb, Bind.bind, Except.bind] at h
  | ok binder =>
    simp only [hb, Bind.bind, Except.bind] at h
    split at h
    · cases h
    · split at h
      · cases h
      · rename_i hne
        cases h
        exact ⟨rfl, rfl, by simpa using hne⟩

/-- A consumer bind that goes on to its next destination records what it has made if there is
none. -/
theorem ConsumerBind.effect_next (setup : Setup ι τ β) (s : System τ)
    (request : ConsumerRequest ι) (created : List BindingId) (rest : List String) :
  Effect s.books {} (next setup s request created rest).1.books
    (Call.after .consuming (next setup s request created rest).2).stake
    (Call.recorded .consumer request.name id (next setup s request created rest).2)
  := by
  cases rest with
  | nil => exact Effect.recorded s.books .consumer request.name created
  | cons destination rest => apply Effect.quiet

theorem ConsumerBind.effect_begin (setup : Setup ι τ β) (s : System τ) (name : String)
    (input : ChannelId) :
  Effect s.books {} (begin setup s name input).1.books
    (Call.after .consuming (begin setup s name input).2).stake
    (Call.recorded .consumer name id (begin setup s name input).2)
  := by
  unfold begin
  cases h : prepare setup s.binders name input with
  | error e => apply Effect.quiet
  | ok prepared =>
    obtain ⟨request, destinations⟩ := prepared
    obtain ⟨rfl, -⟩ := of_prepare h
    apply effect_next

theorem ConsumerBind.effect_step (setup : Setup ι τ β) (s : System τ) (bind : ConsumerBind ι β) :
  Effect s.books {} (step setup s bind).1.books
    (Call.after .consuming (step setup s bind).2).stake
    (Call.recorded .consumer (Call.consumerName bind) id (step setup s bind).2)
  := by
  cases bind with
  | binding request destination call rest created =>
    have hbooks := setup.books_bindProcess_step s call
    obtain ⟨s₁, p, hs⟩ : ∃ s₁ p, setup.bindProcess.step s call = (s₁, p) := ⟨_, _, rfl⟩
    rw [hs] at hbooks
    simp only [step, hs, ← hbooks]
    cases p with
    | running call' => apply Effect.quiet
    | waiting call' pause => apply Effect.quiet
    | ended answer =>
      cases answer with
      | ok b => apply effect_next
      | error e =>
        cases created with
        | nil => apply Effect.quiet
        | cons b rest => apply Effect.quiet
  | rollingBack release e =>
    obtain ⟨f, p, hs⟩ : ∃ f p, Release.step s.fabric release = (f, p) := ⟨_, _, rfl⟩
    simp only [step, hs]
    cases p with
    | running r => apply Effect.quiet
    | waiting r pause => apply Effect.quiet
    | ended failure => apply Effect.quiet

/-! ## Withdrawals -/

/-- The bindings of a release that it has not yet begun to unbind, if it goes on. -/
def Release.pendingAfter : Progress Release (Option BinderError) → List BindingId
  | .running r => r.pending
  | .waiting r _ => r.pending
  | .ended _ => []

theorem Release.pendingAfter_begin (name : String) (failure : Option BinderError)
    (bs : List BindingId) :
  pendingAfter (begin name failure bs) = bs
  := by
  cases bs with
  | nil => rfl
  | cons b rest => rfl

/-- After a step of a release, what comes after its current binding is still to be unbound. -/
theorem Release.pendingAfter_step (f : Fabric) (r : Release) :
  pendingAfter (step f r).2 = r.rest
  := by
  obtain ⟨f', p, hp⟩ : ∃ f' p, Unbinding.step f r.current = (f', p) := ⟨_, _, rfl⟩
  cases p with
  | running u =>
    obtain ⟨-, hu⟩ := Unbinding.eq_detaching_of_step hp
    simp only [step, hp, pendingAfter, pending]
    rw [hu]
  | waiting u pause => exact absurd hp Unbinding.step_ne_waiting
  | ended result =>
    simp only [step, hp]
    apply pendingAfter_begin

theorem Withdrawal.pending_proceed (w : Withdrawal) (name : String)
    (p : Progress Release (Option BinderError)) :
  (w.proceed name p).pending = Release.pendingAfter p
  := by
  cases p with
  | running r => rfl
  | waiting r pause => rfl
  | ended failure =>
    cases failure with
    | none => rfl
    | some e => rfl

theorem Withdrawal.names_proceed (w : Withdrawal) (name : String)
    (p : Progress Release (Option BinderError)) :
  (w.proceed name p).names = w.names
  := by
  cases p with
  | running r => rfl
  | waiting r pause => rfl
  | ended failure =>
    cases failure with
    | none => rfl
    | some e => rfl

theorem Withdrawal.role_proceed (w : Withdrawal) (name : String)
    (p : Progress Release (Option BinderError)) :
  (w.proceed name p).role = w.role
  := by
  cases p with
  | running r => rfl
  | waiting r pause => rfl
  | ended failure =>
    cases failure with
    | none => rfl
    | some e => rfl

theorem Withdrawal.stake_proceed (handed : Bool) (w : Withdrawal) (name : String)
    (p : Progress Release (Option BinderError)) :
  (w.proceed name p).stake handed = { w.stake handed with pending := Release.pendingAfter p }
  := by
  simp only [stake, pending_proceed, names_proceed, role_proceed]

/-- The names that a withdrawal has still to come to, before and after it comes to one. -/
theorem Withdrawal.due_cons (handed : Bool) {w : Withdrawal} {name : String}
    {names : List String} (h : w.names = name :: names) :
  (w.stake handed).due = ({ w with names }.stake handed).due
    ∨ w.role = .producer ∧ (w.stake handed).due = name :: ({ w with names }.stake handed).due
  := by
  by_cases hw : handed ∧ w.role = .producer
  · apply Or.inr
    simp only [stake, if_pos hw, h, and_true]
    apply hw.2
  · apply Or.inl
    simp only [stake, if_neg hw]

/-- Every step of a withdrawal has an effect; with its last one nothing is left of its stake. -/
theorem Withdrawal.effect_step (handed : Bool) (s : System τ) (w : Withdrawal) :
  (∃ w', (step s w).2 = .running w'
      ∧ Effect s.books (w.stake handed) (step s w).1.books (w'.stake handed) (w.news s))
    ∨ ∃ failures, (step s w).2 = .ended failures
      ∧ Effect s.books (w.stake handed) (step s w).1.books {} (w.news s)
  := by
  obtain ⟨role, names, current, failures⟩ := w
  cases current with
  | none =>
    cases names with
    | nil =>
      apply Or.inr
      refine ⟨failures, rfl, ?_⟩
      have hstake : stake handed ⟨role, [], none, failures⟩ = {} := by
        simp [stake, pending]
      rw [hstake]
      apply Effect.quiet
    | cons name names =>
      apply Or.inl
      have hdue := due_cons handed (w := ⟨role, name :: names, none, failures⟩) rfl
      obtain ⟨ledger, taken, htake⟩ : ∃ ledger taken, s.ledger.take role name = (ledger, taken) :=
        ⟨_, _, rfl⟩
      cases taken with
      | some bs =>
        simp only [step, htake, news]
        refine ⟨_, rfl, ?_⟩
        rw [stake_proceed, Release.pendingAfter_begin]
        have hledger : ledger = (s.books.ledger.take role name).1 := by
          rw [System.books, htake]
        have hsome : (s.books.ledger.take role name).2 = some bs := by
          rw [System.books, htake]
        rw [hledger]
        apply Effect.took _ _ _ _ _ _ hsome hdue
      | none =>
        simp only [step, htake, news]
        refine ⟨_, rfl, ?_⟩
        have hnone : (s.books.ledger.take role name).2 = none := by
          rw [System.books, htake]
        apply Effect.missed _ _ _ _ _ hnone hdue
  | some r =>
    apply Or.inl
    obtain ⟨f, p, hp⟩ : ∃ f p, Release.step s.fabric r = (f, p) := ⟨_, _, rfl⟩
    have hrest := Release.pendingAfter_step s.fabric r
    rw [hp] at hrest
    simp only [step, hp]
    refine ⟨_, rfl, ?_⟩
    rw [stake_proceed, hrest]
    obtain ⟨name, u, rest, failure⟩ := r
    cases u with
    | requested b => apply Effect.unbinding
    | detaching b => apply Effect.quiet

/-! ## Shutdowns -/

@[simp]
theorem Shutdown.books_conclude (s : System τ) (failures : List UnbindFailure) :
  (conclude s failures).books = s.books
  := by
  unfold conclude
  rw [System.books_emit]
  induction failures generalizing s with
  | nil => rfl
  | cons failure failures ih => apply ih

/-- Every step of a shutdown has an effect. -/
theorem Shutdown.effect_step (s : System τ) (x : Shutdown) :
  Effect s.books (Call.stopping (ι := ι) (β := β) x).stake (step s x).1.books
    (Call.after (ι := ι) (β := β) .stopping (step s x).2).stake (x.news s)
  := by
  match x with
  | requested =>
    simp only [step]
    split
    · apply Effect.quiet
    · apply Effect.quiet
  | listing => apply Effect.quiet
  | releasing [] none failures =>
    simp only [step, books_conclude]
    apply Effect.quiet
  | releasing ((.producer, .registry) :: rest) none failures => apply Effect.drained
  | releasing ((.producer, .targets inputs outputs) :: rest) none failures => apply Effect.listed
  | releasing ((.producer, .ownRegistry k) :: rest) none failures => apply Effect.listed
  | releasing ((.producer, .nothing) :: rest) none failures => apply Effect.quiet
  | releasing ((.consumer, .registry) :: rest) none failures => apply Effect.quiet
  | releasing ((.consumer, .targets inputs outputs) :: rest) none failures => apply Effect.quiet
  | releasing ((.consumer, .ownRegistry k) :: rest) none failures => apply Effect.quiet
  | releasing ((.consumer, .nothing) :: rest) none failures => apply Effect.quiet
  | releasing rest (some w) failures =>
    rcases Withdrawal.effect_step true s w with ⟨w', hw, h⟩ | ⟨more, hw, h⟩
    · obtain ⟨s', p, hs⟩ : ∃ s' p, Withdrawal.step s w = (s', p) := ⟨_, _, rfl⟩
      simp only [hs] at hw h
      subst hw
      simp only [step, hs]
      apply h
    · obtain ⟨s', p, hs⟩ : ∃ s' p, Withdrawal.step s w = (s', p) := ⟨_, _, rfl⟩
      simp only [hs] at hw h
      subst hw
      simp only [step, hs]
      apply h

/-! ## Calls -/

/-- A call that is no resolution does not turn into one. -/
theorem Call.isTidy_after (call : ρ → Call ι β) (hcall : ∀ r r', call r ≠ .resolving r')
    (p : Progress ρ α) :
  ∀ r, after call p = .resolving r → r.IsTidy
  := by
  intro r hr
  cases p with
  | running r' => apply absurd hr (hcall r' r)
  | waiting r' pause => apply absurd hr (hcall r' r)
  | ended a => cases hr

/-- A step of a call has an effect, if it is not a resolution with a bind under another name. -/
theorem Call.effect_step (setup : Setup ι τ β) (s : System τ) (call : Call ι β)
    (hcall : ∀ r, call = .resolving r → r.IsTidy) :
  Effect s.books call.stake (call.step setup s).1.books (call.step setup s).2.1.stake
      (call.step setup s).2.2
    ∧ ∀ r, (call.step setup s).2.1 = .resolving r → r.IsTidy
  := by
  cases call with
  | resolving r =>
    obtain ⟨heffect, htidy⟩ := Resolution.effect_step (ι := ι) setup s r (hcall r rfl)
    constructor
    · apply heffect
    · intro r' hr'
      obtain ⟨s', p, hp⟩ : ∃ s' p, Resolution.step setup s r = (s', p) := ⟨_, _, rfl⟩
      simp only [step, hp] at hr' htidy
      apply htidy
      cases p with
      | running r₁ =>
        cases hr'
        exact Or.inl rfl
      | waiting r₁ pause =>
        cases hr'
        exact Or.inr ⟨pause, rfl⟩
      | ended answer => cases hr'
  | producing bind =>
    constructor
    · obtain ⟨s', p, hp⟩ : ∃ s' p, ProducerBind.step setup s bind = (s', p) := ⟨_, _, rfl⟩
      have hcases := ProducerBind.step_cases setup s bind
      simp only [hp] at hcases
      simp only [step, hp]
      rcases hcases with ⟨bind', -, rfl | ⟨pause, rfl⟩, hbooks, -⟩ | ⟨b, rfl, hbooks, -⟩
        | ⟨e, rfl, hbooks, -⟩
      · rw [hbooks]
        apply Effect.quiet
      · rw [hbooks]
        apply Effect.quiet
      · rw [hbooks]
        apply Effect.recorded
      · rw [hbooks]
        apply Effect.quiet
    · apply isTidy_after producing
      simp
  | consuming bind =>
    constructor
    · apply ConsumerBind.effect_step
    · apply isTidy_after consuming
      simp
  | attaching call =>
    constructor
    · obtain ⟨s', p, hp⟩ : ∃ s' p, setup.bindProcess.step s call = (s', p) := ⟨_, _, rfl⟩
      have hbooks := setup.books_bindProcess_step s call
      rw [hp] at hbooks
      simp only [step, hp, hbooks]
      cases p <;> apply Effect.quiet
    · apply isTidy_after attaching
      simp
  | unbinding u =>
    constructor
    · obtain ⟨f, p, hp⟩ : ∃ f p, Unbinding.step s.fabric u = (f, p) := ⟨_, _, rfl⟩
      simp only [step, hp]
      cases p <;> apply Effect.quiet
    · apply isTidy_after unbinding
      simp
  | releasing w =>
    constructor
    · obtain ⟨s', p, hp⟩ : ∃ s' p, Withdrawal.step s w = (s', p) := ⟨_, _, rfl⟩
      have hcases := Withdrawal.effect_step false s w
      simp only [hp] at hcases
      simp only [step, hp]
      rcases hcases with ⟨w', rfl, h⟩ | ⟨failures, rfl, h⟩ <;> apply h
    · apply isTidy_after releasing
      simp
  | draining w =>
    constructor
    · obtain ⟨s', p, hp⟩ : ∃ s' p, Withdrawal.step s w = (s', p) := ⟨_, _, rfl⟩
      have hcases := Withdrawal.effect_step true s w
      simp only [hp] at hcases
      simp only [step, hp]
      rcases hcases with ⟨w', rfl, h⟩ | ⟨failures, rfl, h⟩ <;> apply h
    · apply isTidy_after draining
      simp
  | stopping x =>
    constructor
    · apply Shutdown.effect_step
    · apply isTidy_after stopping
      simp
  | finished =>
    constructor
    · apply Effect.quiet
    · intro r hr
      cases hr

/-- The beginning of a call has an effect on the stake that it did not have before. -/
theorem Request.effect_begin (setup : Setup ι τ β) (s : System τ) (request : Request ι) :
  Effect s.books {} (request.begin setup s).1.books (request.begin setup s).2.1.stake
      (request.begin setup s).2.2
    ∧ ∀ r, (request.begin setup s).2.1 = .resolving r → r.IsTidy
  := by
  cases request with
  | resolve name =>
    constructor
    · apply Effect.quiet
    · intro r hr _ _ _ _ hstage
      cases hr
      cases hstage
  | bindProducer name output properties =>
    constructor
    · have hcases := ProducerBind.begin_cases setup s name output
        (properties.getD (setup.settings.producerProperties name))
      obtain ⟨s', p, hp⟩ : ∃ s' p, ProducerBind.begin setup s name output
          (properties.getD (setup.settings.producerProperties name)) = (s', p) := ⟨_, _, rfl⟩
      simp only [hp] at hcases
      simp only [begin, hp]
      obtain ⟨hbooks, ⟨e, rfl⟩ | ⟨bind, -, rfl⟩⟩ := hcases
      · rw [hbooks]
        apply Effect.quiet
      · rw [hbooks]
        apply Effect.quiet
    · apply Call.isTidy_after .producing
      simp
  | bindConsumer name input =>
    constructor
    · apply ConsumerBind.effect_begin
    · apply Call.isTidy_after .consuming
      simp
  | attach binder request =>
    constructor
    · cases request <;> apply Effect.quiet
    · intro r hr
      cases request <;> cases hr
  | unbindRegistry =>
    constructor
    · apply Effect.drained
    · intro r hr
      cases hr
  | unbind | unbindTracked | stop =>
    constructor
    · apply Effect.quiet
    · intro r hr
      cases hr

end ChannelBinding
