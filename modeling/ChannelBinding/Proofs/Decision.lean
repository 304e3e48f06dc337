import ChannelBinding.Proofs.Holders
import Mathlib.Data.List.Induction
import Mathlib.Tactic.Use

/-!
# What a resolution decides

A resolution that runs while no other call does decides by a table: whether the name is rejected, then
whether it has a fixed channel, then whether it is allowed, then whether it is cached; only when all of
this is passed a new channel is announced and bound.  Nothing but the journal changes unless a channel
is announced, and a bind that fails leaves the cache, the ledger and the registry as they were.
-/

namespace ChannelBinding

variable {ι τ β : Type}

/-! ## Processes that run alone -/

namespace Process

variable {σ ρ α : Type} (P : Process σ ρ α) {s s' s₁ : σ} {r r₁ : ρ} {a a₁ : α}

/-- Where a process that runs alone ends within some steps, if it does, however often it pauses. -/
def endIn : Nat → σ → ρ → Option (σ × α)
  | 0, _, _ => none
  | n + 1, s, r =>
    match P.step s r with
    | (s', .running r') => endIn n s' r'
    | (s', .waiting r' _) => endIn n s' r'
    | (s', .ended a) => some (s', a)

/-- Whether a process that runs alone ends with a result. -/
def Ends (s : σ) (r : ρ) (s' : σ) (a : α) : Prop := ∃ n, P.endIn n s r = some (s', a)

variable {P}

/-- A step that does not end a process makes no difference to its end. -/
theorem ends_of_step
    (h : P.step s r = (s₁, .running r₁) ∨ ∃ pause, P.step s r = (s₁, .waiting r₁ pause)) :
  P.Ends s r s' a ↔ P.Ends s₁ r₁ s' a
  := by
  have hend : ∀ n, P.endIn (n + 1) s r = P.endIn n s₁ r₁ := by
    intro n
    rcases h with h | ⟨pause, h⟩
    · rw [endIn, h]
    · rw [endIn, h]
  constructor
  · rintro ⟨n, hn⟩
    cases n with
    | zero => cases hn
    | succ n =>
      rw [hend] at hn
      exact ⟨n, hn⟩
  · rintro ⟨n, hn⟩
    use n + 1
    rw [hend, hn]

theorem ends_of_running (h : P.step s r = (s₁, .running r₁)) :
  P.Ends s r s' a ↔ P.Ends s₁ r₁ s' a
  := ends_of_step (Or.inl h)

theorem ends_of_ended (h : P.step s r = (s₁, .ended a₁)) :
  P.Ends s r s' a ↔ s' = s₁ ∧ a = a₁
  := by
  have hend : ∀ n, P.endIn (n + 1) s r = some (s₁, a₁) := by
    intro n
    rw [endIn, h]
  constructor
  · rintro ⟨n, hn⟩
    cases n with
    | zero => cases hn
    | succ n =>
      rw [hend] at hn
      cases hn
      exact ⟨rfl, rfl⟩
  · rintro ⟨rfl, rfl⟩
    exact ⟨1, hend 0⟩

end Process

/-! ## Binds that run alone -/

namespace ProducerBind

variable (setup : Setup ι τ β)

/-- Whether a bind that is asked of the service, and runs alone, ends with an answer. -/
def Answers (s : System τ) (name : String) (output : ChannelId) (properties : ProducerProperties)
    (s' : System τ) (answer : ProducerAnswer) : Prop :=
  match begin setup s name output properties with
  | (s₁, .running bind) => (process setup).Ends s₁ bind s' answer
  | (s₁, .waiting bind _) => (process setup).Ends s₁ bind s' answer
  | (s₁, .ended answer₁) => s' = s₁ ∧ answer = answer₁

/-- A bind does not look at the cache. -/
theorem begin_withCache (s : System τ) (cache : Cache) (name : String) (output : ChannelId)
    (properties : ProducerProperties) :
  begin setup { s with cache } name output properties
    = ({ (begin setup s name output properties).1 with cache },
        (begin setup s name output properties).2)
  := by
  have hprepare : prepare setup ({ s with cache } : System τ).binders name output properties
      = prepare setup s.binders name output properties := rfl
  rw [begin, begin, hprepare]
  cases prepare setup s.binders name output properties with
  | error e => rfl
  | ok bind => rfl

theorem step_withCache (s : System τ) (cache : Cache) (bind : ProducerBind β) :
  step setup { s with cache } bind
    = ({ (step setup s bind).1 with cache }, (step setup s bind).2)
  := by
  obtain ⟨view, p, h⟩ : ∃ view p, setup.binders.process.step (s.fabric, s.binders) bind.call
      = (view, p) := ⟨_, _, rfl⟩
  simp only [step, Setup.bindProcess, Process.focus, System.bindersView, h]
  rcases p with call | ⟨call, pause⟩ | e | b <;> rfl

/-- A bind that runs alone does not look at the cache. -/
theorem ends_withCache {s s' : System τ} {bind : ProducerBind β} {answer : ProducerAnswer}
    (h : (process setup).Ends s bind s' answer) (cache : Cache) :
  (process setup).Ends { s with cache } bind { s' with cache } answer
  := by
  obtain ⟨n, hn⟩ := h
  use n
  induction n generalizing s bind with
  | zero => cases hn
  | succ n ih =>
    have hstep : (process setup).step { s with cache } bind
        = ({ ((process setup).step s bind).1 with cache }, ((process setup).step s bind).2) :=
      step_withCache setup s cache bind
    rw [Process.endIn] at hn ⊢
    rw [hstep]
    split at hn
    · rename_i h
      rw [h]
      apply ih hn
    · rename_i h
      rw [h]
      apply ih hn
    · rename_i h
      rw [h]
      cases hn
      rfl

/-- The ledger after a bind of a name has ended. -/
def keep (ledger : Ledger) (name : String) : ProducerAnswer → Ledger
  | .ok b => ledger.record .producer name [b]
  | .error _ => ledger

/-- What a step of a bind makes of the bind and of the system. -/
theorem step_shape (s : System τ) (bind : ProducerBind β) :
  ∃ fabric binders,
    (∃ call, step setup s bind = ({ s with fabric, binders }, .running { bind with call }))
      ∨ (∃ call pause,
        step setup s bind = ({ s with fabric, binders }, .waiting { bind with call } pause))
      ∨ ∃ answer, step setup s bind
        = ({ s with fabric, binders, ledger := keep s.ledger bind.name answer }, .ended answer)
  := by
  obtain ⟨view, p, h⟩ : ∃ view p, setup.binders.process.step (s.fabric, s.binders) bind.call
      = (view, p) := ⟨_, _, rfl⟩
  simp only [step, Setup.bindProcess, Process.focus, System.bindersView, h]
  rcases p with call | ⟨call, pause⟩ | e | b
  · exact ⟨_, _, Or.inl ⟨_, rfl⟩⟩
  · exact ⟨_, _, Or.inr (Or.inl ⟨_, _, rfl⟩)⟩
  · exact ⟨_, _, Or.inr (Or.inr ⟨.error (.binder e), rfl⟩)⟩
  · exact ⟨_, _, Or.inr (Or.inr ⟨.ok b, rfl⟩)⟩

/-- What a bind that runs alone makes of the system. -/
theorem eq_of_ends {s s' : System τ} {bind : ProducerBind β} {answer : ProducerAnswer}
    (h : (process setup).Ends s bind s' answer) :
  ∃ fabric binders, s' = { s with fabric, binders, ledger := keep s.ledger bind.name answer }
  := by
  obtain ⟨n, hn⟩ := h
  induction n generalizing s bind with
  | zero => cases hn
  | succ n ih =>
    rw [Process.endIn] at hn
    obtain ⟨f, m, ⟨call, hp⟩ | ⟨call, pause, hp⟩ | ⟨answer', hp⟩⟩ := step_shape setup s bind
    · simp only [process, hp] at hn
      apply ih hn
    · simp only [process, hp] at hn
      apply ih hn
    · simp only [process, hp] at hn
      cases hn
      exact ⟨f, m, rfl⟩

/-- What a bind that is asked of the service, and runs alone, makes of the system. -/
theorem Answers.eq {s s' : System τ} {name : String} {output : ChannelId}
    {properties : ProducerProperties} {answer : ProducerAnswer}
    (h : Answers setup s name output properties s' answer) :
  ∃ fabric binders, s' = { s with fabric, binders, ledger := keep s.ledger name answer }
  := by
  unfold Answers begin at h
  cases hprepare : prepare setup s.binders name output properties with
  | error e =>
    rw [hprepare] at h
    obtain ⟨rfl, rfl⟩ := h
    exact ⟨_, _, rfl⟩
  | ok bind =>
    rw [hprepare] at h
    obtain ⟨f, m, heq⟩ := eq_of_ends setup h
    rw [name_of_prepare hprepare] at heq
    exact ⟨f, m, heq⟩

end ProducerBind

/-! ## Names -/

/-- Whether a name cannot be the name of a destination: it has nothing but white space, or an ASCII
control character. -/
def IsRejected (name : String) : Prop :=
  (∀ c ∈ name.toList, Text.isBlank c = true) ∨ ∃ c ∈ name.toList, c.toNat < 32 ∨ c.toNat = 127

theorem Resolution.isValidName_iff {name : String} :
  isValidName name = true ↔ ¬ IsRejected name
  := by
  simp [isValidName, Text.isBlankText, IsRejected]

/-- Whether an allow-list admits a name: it is empty, or has the very name. -/
def Settings.Admits (settings : Settings) (name : String) : Prop :=
  settings.dynamicDestinations = [] ∨ name ∈ settings.dynamicDestinations

theorem Settings.allowsDynamic_iff {settings : Settings} {name : String} :
  settings.allowsDynamic name = true ↔ settings.Admits name
  := by
  simp [allowsDynamic, Admits]

/-! ## The cell of a name that has none -/

/-- What becomes of a cache when the permit of a new cell was given to a call, which then fills the cell
or forgets it. -/
structure Cache.Permits (cache : Cache) (stake : Nat → Stake) (name : String) (permitted : Cache)
    (cell : CellId) (t : Ticket) : Prop where
  get?_fill : ∀ v other, (permitted.fill cell t v).get? other
    = if name = other then some v else cache.get? other
  entries_fill : ∀ v, (permitted.fill cell t v).entries = cache.entries.insert name cell
  sound_fill : ∀ v, (permitted.fill cell t v).Sound (Function.update stake 0 {})
  get?_forget : ((permitted.giveUp cell t).forget name cell t).get? = cache.get?
  entries_forget : ((permitted.giveUp cell t).forget name cell t).entries = cache.entries
  sound_forget : ((permitted.giveUp cell t).forget name cell t).Sound (Function.update stake 0 {})

/-- A call that enters the cache under a name that has no cell holds a new one. -/
theorem Cache.cell?_of_enter {cache entered : Cache} {name : String} {cell : CellId} {t : Ticket}
    (hentry : cache.entries.get? name = none) (henter : cache.enter name = (entered, cell, t)) :
  entered.cell? cell = some { holders := [t] } ∧ entered.entries = cache.entries.insert name cell
  := by
  simp only [enter, hentry, Prod.mk.injEq] at henter
  obtain ⟨rfl, rfl, rfl⟩ := henter
  constructor
  · simp [cell?]
  · rfl

/-- A new cell gives its permit away. -/
theorem Cache.claim_of_enter {cache entered : Cache} {name : String} {cell : CellId} {t : Ticket}
    (hentry : cache.entries.get? name = none) (henter : cache.enter name = (entered, cell, t)) :
  (entered.claim cell t).2 = .permitted
  := by
  rw [claim_eq entered t (cell?_of_enter hentry henter).1]
  rfl

/-- A call that enters the cache under a name that has no cell gets a permit. -/
theorem Cache.enter_new {cache : Cache} {stake : Nat → Stake} (hs : cache.Sound stake) {name : String}
    (hentry : cache.entries.get? name = none) :
  ∃ entered cell t permitted, cache.enter name = (entered, cell, t)
    ∧ entered.claim cell t = (permitted, .permitted) ∧ cache.Permits stake name permitted cell t
  := by
  obtain ⟨entered, cell, t, henter⟩ : ∃ entered cell t, cache.enter name = (entered, cell, t) :=
    ⟨_, _, _, rfl⟩
  have hentered := hs.enter 0 name
  have hget : entered.get? = cache.get? := by
    rw [← cache.get?_enter name, henter]
  rw [henter] at hentered
  obtain ⟨hnew, hentries⟩ := cell?_of_enter hentry henter
  have hclaim := claim_eq entered t hnew
  have hpermitted := claim_of_enter hentry henter
  have hclaimed := hentered.claim (i := 0) (h := ⟨name, cell, t, false⟩)
    (by rw [Function.update_self]) true fun _ => hpermitted
  rw [Function.update_idem] at hclaimed
  dsimp only at hclaimed
  have hhold : (Function.update stake 0 { hold := some ⟨name, cell, t, true⟩ } 0).hold
      = some ⟨name, cell, t, true⟩ := by
    rw [Function.update_self]
  refine ⟨entered, cell, t, (entered.claim cell t).1, henter, Prod.ext rfl hpermitted, ?_⟩
  constructor
  · intro v other
    rw [hclaimed.get?_fill hhold, get?_claim, hget]
  · intro v
    rw [hclaim]
    simp only [fill, entries_modify, hentries]
  · intro v
    have hfill := hclaimed.fill hhold rfl v
    rw [Function.update_idem] at hfill
    apply hfill
  · rw [get?_forget, get?_giveUp, get?_claim, hget]
  · have hunused : ((entered.claim cell t).1.giveUp cell t).unused name cell t = true := by
      rw [hclaim]
      simp [unused, giveUp, cell?_modify, hnew, hentries, Cell.claim, Cell.giveUp]
    rw [forget, if_pos hunused, hclaim]
    simp only [letGo, giveUp, entries_modify, hentries, Table.erase_insert hentry]
  · have hgive := hclaimed.giveUp hhold
    rw [Function.update_idem] at hgive
    have hforget := hgive.forget (by rw [Function.update_self])
    rw [Function.update_idem] at hforget
    apply hforget

/-! ## The table -/

namespace Resolution

/-- What a resolution comes to when its bind has ended. -/
def afterBind (β : Type) (name : String) (cell : CellId) (t : Ticket) (c : ChannelId) (s : System τ) :
    ProducerAnswer → System τ × ResolutionAnswer
  | .ok b => (establish ({ name } : Resolution β) s cell t c b, .ok c)
  | .error e =>
    ({ s with cache := (s.cache.giveUp cell t).forget name cell t }.emit
        (.resolutionFailed name (.bindingFailed name e)),
      .error (.bindingFailed name e))

variable (setup : Setup ι τ β)

/-- A resolution whose bind has ended comes to its own end. -/
theorem ends_of_bind_ended {s s₁ s' : System τ} {name : String} {cell : CellId} {t : Ticket}
    {c : ChannelId} {answer : ProducerAnswer} {a : ResolutionAnswer} {r : Resolution β}
    (hname : r.name = name)
    (h : step setup s r = r.proceed cell t c (s₁, .ended answer)) :
  (process setup).Ends s r s' a ↔ (s', a) = afterBind β name cell t c s₁ answer
  := by
  subst hname
  cases answer with
  | ok b =>
    have hstep : (process setup).step s r
        = (establish r s₁ cell t c b, .ended (.ok c)) := h
    rw [Process.ends_of_ended hstep, afterBind, Prod.mk.injEq]
    rfl
  | error e =>
    have hstep : (process setup).step s r = ({ s₁ with cache := s₁.cache.giveUp cell t },
        .running ⟨r.name, .forgetting cell t (.bindingFailed r.name e)⟩) := h
    rw [Process.ends_of_running hstep, Process.ends_of_ended rfl, afterBind, Prod.mk.injEq]

/-- A resolution that binds ends when its bind does. -/
theorem ends_binding (s s' : System τ) (name : String) (cell : CellId) (t : Ticket) (c : ChannelId)
    (bind : ProducerBind β) (a : ResolutionAnswer) :
  (process setup).Ends s ⟨name, .binding cell t c bind⟩ s' a
    ↔ ∃ s₁ answer, (ProducerBind.process setup).Ends s bind s₁ answer
      ∧ (s', a) = afterBind β name cell t c s₁ answer
  := by
  have hstep : ∀ s bind, (process setup).step s ⟨name, .binding cell t c bind⟩
      = proceed ⟨name, .binding cell t c bind⟩ cell t c ((ProducerBind.process setup).step s bind) :=
    fun _ _ => rfl
  have hends : ∀ {s s₁ bind answer}, (ProducerBind.process setup).step s bind = (s₁, .ended answer) →
      ((process setup).Ends s ⟨name, .binding cell t c bind⟩ s' a
        ↔ (s', a) = afterBind β name cell t c s₁ answer) := by
    intro s s₁ bind answer h
    apply ends_of_bind_ended setup rfl
    exact (hstep s bind).trans (congrArg _ h)
  constructor
  · rintro ⟨n, hn⟩
    induction n generalizing s bind with
    | zero => cases hn
    | succ n ih =>
      obtain ⟨s₁, p, hp⟩ : ∃ s₁ p, (ProducerBind.process setup).step s bind = (s₁, p) := ⟨_, _, rfl⟩
      cases p with
      | running bind' =>
        rw [Process.endIn, hstep, hp] at hn
        obtain ⟨s₂, answer, hbind, hafter⟩ := ih s₁ bind' hn
        exact ⟨s₂, answer, (Process.ends_of_running hp).mpr hbind, hafter⟩
      | waiting bind' pause =>
        rw [Process.endIn, hstep, hp] at hn
        obtain ⟨s₂, answer, hbind, hafter⟩ := ih s₁ bind' hn
        exact ⟨s₂, answer, (Process.ends_of_step (Or.inr ⟨pause, hp⟩)).mpr hbind, hafter⟩
      | ended answer =>
        exact ⟨s₁, answer, (Process.ends_of_ended hp).mpr ⟨rfl, rfl⟩, (hends hp).mp ⟨_, hn⟩⟩
  · rintro ⟨s₁, answer, ⟨n, hn⟩, hafter⟩
    induction n generalizing s bind with
    | zero => cases hn
    | succ n ih =>
      obtain ⟨s₂, p, hp⟩ : ∃ s₂ p, (ProducerBind.process setup).step s bind = (s₂, p) := ⟨_, _, rfl⟩
      rw [Process.endIn, hp] at hn
      cases p with
      | running bind' =>
        apply (Process.ends_of_running _).mpr (ih s₂ bind' hn)
        rw [hstep, hp]
        rfl
      | waiting bind' pause =>
        apply (Process.ends_of_step (Or.inr ⟨pause, _⟩)).mpr (ih s₂ bind' hn)
        rw [hstep, hp]
        rfl
      | ended answer' =>
        cases hn
        apply (hends hp).mpr hafter

/-- Neither the announcement of a destination nor its bind looks at the cache. -/
theorem announce_withCache (s : System τ) (cache : Cache) (name : String) :
  announce setup { s with cache } name
    = ({ (announce setup s name).1 with cache }, (announce setup s name).2)
  := by
  unfold announce
  cases setup.callback with
  | none => rfl
  | some callback =>
    dsimp only
    split
    · rfl
    · rfl

/-- A resolution that has the permit of its cell ends when the bind that it asks for does. -/
theorem ends_permitted {s s₁ : System τ} {cache permitted : Cache} {name : String} {cell : CellId}
    {t : Ticket} (hclaim : cache.claim cell t = (permitted, .permitted)) {c : ChannelId}
    {properties : ProducerProperties} (hannounce : announce setup s name = (s₁, c, properties))
    (s' : System τ) (a : ResolutionAnswer) :
  (process setup).Ends { s with cache } ⟨name, .claiming cell t⟩ s' a
    ↔ ∃ s₂ answer, ProducerBind.Answers setup s₁ name c properties s₂ answer
      ∧ (s', a) = afterBind β name cell t c { s₂ with cache := permitted } answer
  := by
  have hstep : step setup { s with cache } ⟨name, .claiming cell t⟩
      = proceed ⟨name, .claiming cell t⟩ cell t c
        ({ (ProducerBind.begin setup s₁ name c properties).1 with cache := permitted },
          (ProducerBind.begin setup s₁ name c properties).2) := by
    have hannounced := announce_withCache setup s permitted name
    rw [hannounce] at hannounced
    simp only [step, hclaim, hannounced, ProducerBind.begin_withCache]
  unfold ProducerBind.Answers
  obtain ⟨-, ⟨e, he⟩ | ⟨bind, -, hbind⟩⟩ := ProducerBind.begin_cases setup s₁ name c properties
  · obtain ⟨s₂, p, hbegin⟩ : ∃ s₂ p, ProducerBind.begin setup s₁ name c properties = (s₂, p) :=
      ⟨_, _, rfl⟩
    rw [hbegin] at he hstep
    subst he
    rw [ends_of_bind_ended setup rfl hstep, hbegin]
    constructor
    · intro hafter
      exact ⟨s₂, .error e, ⟨rfl, rfl⟩, hafter⟩
    · rintro ⟨s₃, answer, ⟨rfl, rfl⟩, hafter⟩
      apply hafter
  · obtain ⟨s₂, p, hbegin⟩ : ∃ s₂ p, ProducerBind.begin setup s₁ name c properties = (s₂, p) :=
      ⟨_, _, rfl⟩
    rw [hbegin] at hbind hstep
    subst hbind
    have hrunning : (process setup).step { s with cache } ⟨name, .claiming cell t⟩
        = ({ s₂ with cache := permitted }, .running ⟨name, .binding cell t c bind⟩) := hstep
    rw [Process.ends_of_running hrunning, ends_binding, hbegin]
    constructor
    · rintro ⟨s₃, answer, hends, hafter⟩
      obtain ⟨f, m, heq⟩ := ProducerBind.eq_of_ends setup hends
      refine ⟨{ s₃ with cache := s₂.cache }, answer, ?_, ?_⟩
      · apply ProducerBind.ends_withCache setup hends s₂.cache
      · rw [hafter, heq]
    · rintro ⟨s₃, answer, hends, hafter⟩
      exact ⟨_, answer, ProducerBind.ends_withCache setup hends permitted, hafter⟩

end Resolution

/-! ## The table -/

/-- Whether nothing differs but what is reported. -/
def System.SameButJournal (s s' : System τ) : Prop :=
  ∃ journal, s' = { s with fabric := { s.fabric with journal } }

namespace Resolution

/-- What it is to announce a new destination: it gets a new channel, and the callback, if there is one,
is called once. -/
structure Announces (setup : Setup ι τ β) (s : System τ) (name : String) (s₁ : System τ)
    (c : ChannelId) (properties : ProducerProperties) : Prop where
  fresh : c = ⟨s.fabric.channels.size⟩
  called : match setup.callback with
    | none => s₁.announcements = s.announcements
      ∧ properties = setup.settings.producerProperties name
    | some callback =>
      s₁.announcements = s.announcements.push ⟨name, setup.newChannel name, properties⟩
      ∧ properties = callback.adjust name (setup.newChannel name)
        (setup.settings.producerProperties name)
  rest : ∃ journal, s₁ = { s with
    fabric := { s.fabric with channels := s.fabric.channels.push (setup.newChannel name), journal }
    announcements := s₁.announcements }

/-- What is left when the bind of a new destination has ended: what the bind has made of the fabric and
of the binders, and a ledger, a registry and resolved names. -/
structure Settles (s₁ s₂ s' : System τ) (ledger : Ledger) (registry : Registry)
    (resolved : String → Option Resolved) : Prop where
  fabric : ∃ journal, s'.fabric = { s₂.fabric with journal }
  binders : s'.binders = s₂.binders
  get?_eq : s'.cache.get? = resolved
  rest : s' = { s₁ with
    fabric := s'.fabric, binders := s'.binders, cache := s'.cache, ledger, registry }

/-- Whether nothing decides about a name before it is bound. -/
structure IsNew (setup : Setup ι τ β) (s : System τ) (fixed : Option ChannelId) (name : String) :
    Prop where
  valid : ¬ IsRejected name
  not_fixed : fixed = none
  admitted : setup.settings.Admits name
  not_cached : s.cache.get? name = none

/-- `Rules setup s fixed name s' a`: the table by which a name, with or without a `fixed` channel, is
resolved. -/
inductive Rules (setup : Setup ι τ β) (s : System τ) (fixed : Option ChannelId) (name : String) :
    System τ → ResolutionAnswer → Prop where
  | invalid {s' : System τ} (hname : IsRejected name) (hs : s.SameButJournal s') :
    Rules setup s fixed name s' (.error (.invalidDestination name))
  | fixed {s' : System τ} {c : ChannelId} (hname : ¬ IsRejected name) (hfixed : fixed = some c)
    (hs : s.SameButJournal s') : Rules setup s fixed name s' (.ok c)
  | notAllowed {s' : System τ} (hname : ¬ IsRejected name) (hfixed : fixed = none)
    (hlist : ¬ setup.settings.Admits name) (hs : s.SameButJournal s') :
    Rules setup s fixed name s' (.error (.notAllowed name))
  | cached {s' : System τ} {c : ChannelId} {b : BindingId} (hname : ¬ IsRejected name)
    (hfixed : fixed = none) (hlist : setup.settings.Admits name)
    (hcache : s.cache.get? name = some ⟨c, b⟩) (hs : s.SameButJournal s') :
    Rules setup s fixed name s' (.ok c)
  /-- The destination is announced, bound, recorded, registered and cached. -/
  | bound {s₁ s₂ s' : System τ} {c : ChannelId} {properties : ProducerProperties} {b : BindingId}
    (hnew : IsNew setup s fixed name) (announced : Announces setup s name s₁ c properties)
    (answered : ProducerBind.Answers setup s₁ name c properties s₂ (.ok b))
    (hs : Settles s₁ s₂ s' (s.ledger.record .producer name [b]) (s.registry.add name c)
      fun other => if name = other then some ⟨c, b⟩ else s.cache.get? other) :
    Rules setup s fixed name s' (.ok c)
  /-- The destination is announced, and its bind fails. -/
  | failed {s₁ s₂ s' : System τ} {c : ChannelId} {properties : ProducerProperties} {e : BindingError}
    (hnew : IsNew setup s fixed name) (announced : Announces setup s name s₁ c properties)
    (answered : ProducerBind.Answers setup s₁ name c properties s₂ (.error e))
    (hs : Settles s₁ s₂ s' s.ledger s.registry s.cache.get?)
    (hentries : s'.cache.entries = s.cache.entries) :
    Rules setup s fixed name s' (.error (.bindingFailed name e))

/-- What it is for a resolution that runs alone to decide by the table. -/
structure Decides (setup : Setup ι τ β) (s : System τ) (fixed : Option ChannelId) (name : String) :
    Prop where
  rules : ∀ {s' a}, (process setup).Ends s { name } s' a → Rules setup s fixed name s' a
  /-- A name that something else decides about is resolved at once. -/
  ends : ¬ IsNew setup s fixed name → ∃ s' a, (process setup).Ends s { name } s' a
  /-- A new name is resolved when its bind has ended. -/
  ends_of_bind : IsNew setup s fixed name → ∀ {s₁ c properties s₂ answer},
    announce setup (s.emit (.resolutionStarted name)) name = (s₁, c, properties) →
      ProducerBind.Answers setup s₁ name c properties s₂ answer →
        ∃ s' a, (process setup).Ends s { name } s' a
  invalid_iff : (∃ s', (process setup).Ends s { name } s' (.error (.invalidDestination name)))
    ↔ IsRejected name
  notAllowed_iff : (∃ s', (process setup).Ends s { name } s' (.error (.notAllowed name)))
    ↔ ¬ IsRejected name ∧ fixed = none ∧ setup.settings.dynamicDestinations ≠ []
      ∧ name ∉ setup.settings.dynamicDestinations

variable {setup : Setup ι τ β} {s : System τ} {name : String}

/-- The announcement of a new destination is what it should be. -/
theorem announces (setup : Setup ι τ β) (s : System τ) (name : String) (e : Event) :
  Announces setup s name (announce setup (s.emit e) name).1 (announce setup (s.emit e) name).2.1
    (announce setup (s.emit e) name).2.2
  := by
  unfold announce
  cases hcallback : setup.callback with
  | none =>
    constructor
    · rfl
    · simp only [hcallback]
      exact ⟨rfl, trivial⟩
    · exact ⟨_, rfl⟩
  | some callback =>
    dsimp only
    split
    · constructor
      · rfl
      · simp only [hcallback]
        exact ⟨rfl, trivial⟩
      · exact ⟨_, rfl⟩
    · constructor
      · rfl
      · simp only [hcallback]
        exact ⟨rfl, trivial⟩
      · exact ⟨_, rfl⟩

/-- A name that is rejected is rejected at once. -/
theorem ends_rejected (hname : IsRejected name) (s' : System τ) (a : ResolutionAnswer) :
  (process setup).Ends s { name } s' a
    ↔ s' = s.emit (.nameRejected name) ∧ a = .error (.invalidDestination name)
  := by
  have hvalid : isValidName name = false := by
    rw [← Bool.not_eq_true, isValidName_iff, not_not]
    apply hname
  apply Process.ends_of_ended
  simp [process, step, hvalid]

/-- A name that is not rejected has its fixed channel looked up. -/
theorem ends_valid (hname : ¬ IsRejected name) (s' : System τ) (a : ResolutionAnswer) :
  (process setup).Ends s { name } s' a
    ↔ (process setup).Ends (s.emit (.resolutionStarted name)) ⟨name, .readingFixed⟩ s' a
  := by
  apply Process.ends_of_running
  simp [process, step, isValidName_iff.mpr hname, goTo]

/-- A name with a fixed channel is resolved to it. -/
theorem ends_fixed (hname : ¬ IsRejected name) {c : ChannelId} (hfixed : s.fixed.get? name = some c)
    (s' : System τ) (a : ResolutionAnswer) :
  (process setup).Ends s { name } s' a
    ↔ s' = (s.emit (.resolutionStarted name)).emit (.fixedFound name) ∧ a = .ok c
  := by
  rw [ends_valid hname]
  apply Process.ends_of_ended
  simp [process, step, System.emit, hfixed]

/-- A name that is not allowed is refused. -/
theorem ends_notAllowed (hname : ¬ IsRejected name) (hfixed : s.fixed.get? name = none)
    (hlist : ¬ setup.settings.Admits name) (s' : System τ) (a : ResolutionAnswer) :
  (process setup).Ends s { name } s' a
    ↔ s' = (s.emit (.resolutionStarted name)).emit (.notAllowed name)
      ∧ a = .error (.notAllowed name)
  := by
  have hallowed : setup.settings.allowsDynamic name = false := by
    rw [← Bool.not_eq_true, Settings.allowsDynamic_iff]
    apply hlist
  rw [ends_valid hname]
  apply Process.ends_of_ended
  simp [process, step, System.emit, hfixed, hallowed]

/-- A name that is allowed is looked up in the cache. -/
theorem ends_admitted (hname : ¬ IsRejected name) (hfixed : s.fixed.get? name = none)
    (hlist : setup.settings.Admits name) (s' : System τ) (a : ResolutionAnswer) :
  (process setup).Ends s { name } s' a
    ↔ (process setup).Ends (s.emit (.resolutionStarted name)) ⟨name, .readingCache⟩ s' a
  := by
  rw [ends_valid hname]
  apply Process.ends_of_running
  simp [process, step, System.emit, hfixed, Settings.allowsDynamic_iff.mpr hlist, goTo]

/-- A name that is cached is resolved to its channel. -/
theorem ends_cached (hname : ¬ IsRejected name) (hfixed : s.fixed.get? name = none)
    (hlist : setup.settings.Admits name) {v : Resolved} (hcache : s.cache.get? name = some v)
    (s' : System τ) (a : ResolutionAnswer) :
  (process setup).Ends s { name } s' a
    ↔ s' = (s.emit (.resolutionStarted name)).emit (.cacheHit name) ∧ a = .ok v.channel
  := by
  rw [ends_admitted hname hfixed hlist]
  apply Process.ends_of_ended
  simp [process, step, System.emit, hcache]

/-- A name that nothing decides about is announced and bound. -/
theorem ends_new (hnew : IsNew setup s (s.fixed.get? name) name) {entered permitted : Cache}
    {cell : CellId} {t : Ticket} (henter : s.cache.enter name = (entered, cell, t))
    (hclaim : entered.claim cell t = (permitted, .permitted)) {s₁ : System τ} {c : ChannelId}
    {properties : ProducerProperties}
    (hannounce : announce setup (s.emit (.resolutionStarted name)) name = (s₁, c, properties))
    (s' : System τ) (a : ResolutionAnswer) :
  (process setup).Ends s { name } s' a
    ↔ ∃ s₂ answer, ProducerBind.Answers setup s₁ name c properties s₂ answer
      ∧ (s', a) = afterBind β name cell t c { s₂ with cache := permitted } answer
  := by
  have hreading : (process setup).step (s.emit (.resolutionStarted name)) ⟨name, .readingCache⟩
      = (s.emit (.resolutionStarted name), .running ⟨name, .entering⟩) := by
    simp [process, step, System.emit, hnew.not_cached, goTo]
  have hentering : (process setup).step (s.emit (.resolutionStarted name)) ⟨name, .entering⟩
      = ({ s.emit (.resolutionStarted name) with cache := entered },
        .running ⟨name, .claiming cell t⟩) := by
    simp [process, step, System.emit, henter, goTo]
  rw [ends_admitted hnew.valid hnew.not_fixed hnew.admitted, Process.ends_of_running hreading,
    Process.ends_of_running hentering, ends_permitted setup hclaim hannounce]

/-- What is left when the bind of a new name has ended is what the table says. -/
theorem rules_afterBind {stake : Nat → Stake} (hs : s.cache.Sound stake)
    (hentry : s.cache.entries.get? name = none)
    (hnew : IsNew setup s (s.fixed.get? name) name) {s' : System τ} {a : ResolutionAnswer}
    (h : (process setup).Ends s { name } s' a) :
  Rules setup s (s.fixed.get? name) name s' a
  := by
  obtain ⟨entered, cell, t, permitted, henter, hclaim, hpermits⟩ := Cache.enter_new hs hentry
  obtain ⟨s₁, c, properties, hannounce⟩ : ∃ s₁ c properties,
      announce setup (s.emit (.resolutionStarted name)) name = (s₁, c, properties) := ⟨_, _, _, rfl⟩
  have hannounced := announces setup s name (.resolutionStarted name)
  rw [hannounce] at hannounced
  dsimp only at hannounced
  obtain ⟨s₂, answer, hanswers, hafter⟩ := (ends_new hnew henter hclaim hannounce s' a).mp h
  obtain ⟨f, m, hs₂⟩ := hanswers.eq
  obtain ⟨journal, hs₁⟩ := hannounced.rest
  cases answer with
  | ok b =>
    simp only [afterBind, Prod.mk.injEq] at hafter
    obtain ⟨rfl, rfl⟩ := hafter
    apply Rules.bound hnew hannounced hanswers
    constructor
    · exact ⟨_, rfl⟩
    · rfl
    · funext other
      apply hpermits.get?_fill
    · rw [hs₂, hs₁]
      rfl
  | error e =>
    simp only [afterBind, Prod.mk.injEq] at hafter
    obtain ⟨rfl, rfl⟩ := hafter
    apply Rules.failed hnew hannounced hanswers
    · constructor
      · exact ⟨_, rfl⟩
      · rfl
      · apply hpermits.get?_forget
      · rw [hs₂, hs₁]
        rfl
    · apply hpermits.entries_forget

/-- Every name is decided about by the table, if names that are not cached have no cells. -/
theorem decides {stake : Nat → Stake} (hs : s.cache.Sound stake)
    (hnone : s.cache.get? name = none → s.cache.entries.get? name = none) :
  Decides setup s (s.fixed.get? name) name
  := by
  have hrules : ∀ {s' a}, (process setup).Ends s { name } s' a →
      Rules setup s (s.fixed.get? name) name s' a := by
    intro s' a h
    by_cases hname : IsRejected name
    · obtain ⟨rfl, rfl⟩ := (ends_rejected hname s' a).mp h
      exact .invalid hname ⟨_, rfl⟩
    · cases hfixed : s.fixed.get? name with
      | some c =>
        obtain ⟨rfl, rfl⟩ := (ends_fixed hname hfixed s' a).mp h
        exact .fixed hname rfl ⟨_, rfl⟩
      | none =>
        by_cases hlist : setup.settings.Admits name
        · cases hcache : s.cache.get? name with
          | some v =>
            obtain ⟨rfl, rfl⟩ := (ends_cached hname hfixed hlist hcache s' a).mp h
            exact .cached hname rfl hlist hcache ⟨_, rfl⟩
          | none =>
            rw [← hfixed]
            apply rules_afterBind hs (hnone hcache) ⟨hname, hfixed, hlist, hcache⟩ h
        · obtain ⟨rfl, rfl⟩ := (ends_notAllowed hname hfixed hlist s' a).mp h
          exact .notAllowed hname rfl hlist ⟨_, rfl⟩
  constructor
  · apply hrules
  · intro hold
    by_cases hname : IsRejected name
    · exact ⟨_, _, (ends_rejected hname _ _).mpr ⟨rfl, rfl⟩⟩
    · cases hfixed : s.fixed.get? name with
      | some c => exact ⟨_, _, (ends_fixed hname hfixed _ _).mpr ⟨rfl, rfl⟩⟩
      | none =>
        by_cases hlist : setup.settings.Admits name
        · cases hcache : s.cache.get? name with
          | some v => exact ⟨_, _, (ends_cached hname hfixed hlist hcache _ _).mpr ⟨rfl, rfl⟩⟩
          | none => exact absurd ⟨hname, hfixed, hlist, hcache⟩ hold
        · exact ⟨_, _, (ends_notAllowed hname hfixed hlist _ _).mpr ⟨rfl, rfl⟩⟩
  · intro hnew s₁ c properties s₂ answer hannounce hanswers
    obtain ⟨entered, cell, t, permitted, henter, hclaim, -⟩ :=
      Cache.enter_new hs (hnone hnew.not_cached)
    exact ⟨_, _, (ends_new hnew henter hclaim hannounce _ _).mpr ⟨s₂, answer, hanswers, rfl⟩⟩
  · constructor
    · rintro ⟨s', h⟩
      cases hrules h
      assumption
    · intro hname
      exact ⟨_, (ends_rejected hname _ _).mpr ⟨rfl, rfl⟩⟩
  · have hadmits : ¬ setup.settings.Admits name ↔ setup.settings.dynamicDestinations ≠ []
        ∧ name ∉ setup.settings.dynamicDestinations := by
      simp [Settings.Admits]
    rw [← hadmits]
    constructor
    · rintro ⟨s', h⟩
      cases hrules h with
      | notAllowed hname hfixed hlist hs => exact ⟨hname, hfixed, hlist⟩
    · rintro ⟨hname, hfixed, hlist⟩
      exact ⟨_, (ends_notAllowed hname hfixed hlist _ _).mpr ⟨rfl, rfl⟩⟩

end Resolution

/-! ## Fixed channels -/

/-- A bind leaves the fixed channels as they are. -/
theorem ProducerBind.fixed_step (setup : Setup ι τ β) (s : System τ) (bind : ProducerBind β) :
  (step setup s bind).1.fixed = s.fixed
  := by
  obtain ⟨f, m, ⟨call, h⟩ | ⟨call, pause, h⟩ | ⟨answer, h⟩⟩ := step_shape setup s bind
  all_goals rw [h]

theorem ProducerBind.fixed_begin (setup : Setup ι τ β) (s : System τ) (name : String)
    (output : ChannelId) (properties : ProducerProperties) :
  (begin setup s name output properties).1.fixed = s.fixed
  := by
  obtain ⟨hbooks, -⟩ := begin_cases setup s name output properties
  apply congrArg Books.fixed hbooks

/-- A resolution leaves the fixed channels as they are. -/
theorem Resolution.fixed_step (setup : Setup ι τ β) (s : System τ) (r : Resolution β) :
  (step setup s r).1.fixed = s.fixed
  := by
  have hproceed : ∀ cell t c (x : System τ × Progress (ProducerBind β) ProducerAnswer),
      (r.proceed cell t c x).1.fixed = x.1.fixed := by
    rintro cell t c ⟨s, p⟩
    rcases p with bind | ⟨bind, pause⟩ | e | b <;> rfl
  unfold step
  split
  · split <;> rfl
  · split
    · rfl
    · split <;> rfl
  · split <;> rfl
  · rfl
  · split
    · rfl
    · rfl
    · rename_i cache hclaim
      rw [hproceed, ProducerBind.fixed_begin]
      have hbooks := books_announce setup { s with cache } r.name
      apply congrArg Books.fixed hbooks
  · rw [hproceed, ProducerBind.fixed_step]
  · rfl

/-- A consumer bind leaves the fixed channels as they are. -/
theorem ConsumerBind.fixed_step (setup : Setup ι τ β) (s : System τ) (bind : ConsumerBind ι β) :
  (step setup s bind).1.fixed = s.fixed
  := by
  cases bind with
  | binding request destination call rest created =>
    obtain ⟨view, p, h⟩ : ∃ view p, setup.binders.process.step (s.fabric, s.binders) call
        = (view, p) := ⟨_, _, rfl⟩
    simp only [step, Setup.bindProcess, Process.focus, System.bindersView, h]
    rcases p with call' | ⟨call', pause⟩ | e | b
    · rfl
    · rfl
    · rfl
    · cases rest <;> rfl
  | rollingBack release e => rfl

theorem ConsumerBind.fixed_begin (setup : Setup ι τ β) (s : System τ) (name : String)
    (input : ChannelId) :
  (begin setup s name input).1.fixed = s.fixed
  := by
  unfold begin
  split
  · rfl
  · rename_i destinations _
    cases destinations <;> rfl

/-- A withdrawal leaves the fixed channels as they are. -/
theorem Withdrawal.fixed_step (s : System τ) (w : Withdrawal) :
  (step s w).1.fixed = s.fixed
  := by
  unfold step
  split
  · rfl
  · split
    · rfl
    · split <;> rfl

/-- A shutdown leaves the fixed channels as they are. -/
theorem Shutdown.fixed_step (s : System τ) (x : Shutdown) :
  (step s x).1.fixed = s.fixed
  := by
  match x with
  | requested =>
    simp only [step]
    split <;> rfl
  | listing => rfl
  | releasing [] none failures => exact congrArg Books.fixed (books_conclude s failures)
  | releasing ((role, bindable) :: rest) none failures => cases role <;> cases bindable <;> rfl
  | releasing rest (some w) failures =>
    have hw := w.fixed_step s
    obtain ⟨s', p, h⟩ : ∃ s' p, Withdrawal.step s w = (s', p) := ⟨_, _, rfl⟩
    rw [h] at hw
    simp only [step, h]
    cases p <;> apply hw

/-- No call changes the fixed channels. -/
theorem Call.fixed_step (setup : Setup ι τ β) (s : System τ) (call : Call ι β) :
  (call.step setup s).1.fixed = s.fixed
  := by
  cases call with
  | resolving r => apply r.fixed_step
  | producing bind => apply bind.fixed_step
  | consuming bind => apply bind.fixed_step
  | releasing w | draining w => apply w.fixed_step
  | stopping x => apply x.fixed_step
  | _ => rfl

theorem Request.fixed_begin (setup : Setup ι τ β) (s : System τ) (request : Request ι) :
  (request.begin setup s).1.fixed = s.fixed
  := by
  cases request with
  | bindProducer name output properties => apply ProducerBind.fixed_begin
  | bindConsumer name input => apply ConsumerBind.fixed_begin
  | attach binder request => cases request <;> rfl
  | _ => rfl

namespace World

end World

end ChannelBinding
