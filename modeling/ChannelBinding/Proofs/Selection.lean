import ChannelBinding.Proofs.Using
import Mathlib.Data.List.Induction

/-!
# Which binder is used

A factory is set up by registrations: of binders under names, and of default names, in any order and
any number of times.  For a binding name up to three levels say which binder is wanted: the settings of
the name, the settings of the service and the factory.  The first level that says something decides,
also if nothing is registered under what it says; the only binder that there is serves where no level
says anything.  The binds of the name use the binder that is chosen, and if none is, every bind is refused and
leaves the binders and the ledger alone.
-/

namespace ChannelBinding

variable {ι τ β : Type}

/-! ## Registrations -/

/-- What is told to a factory while it is set up. -/
inductive Registration (ι : Type) where
  | binder (name : String) (binder : ι)
  /-- The name of the default binder. -/
  | fallback (name : String)

namespace Registration

/-- The binder of a registration under a name. -/
def binderOf? (name : String) : Registration ι → Option ι
  | binder other b => if other = name then some b else none
  | fallback _ => none

/-- The name under which a registration has a binder. -/
def name? : Registration ι → Option String
  | binder name _ => some name
  | fallback _ => none

/-- The default of a registration. -/
def fallback? : Registration ι → Option String
  | binder .. => none
  | fallback name => some name

/-- The binder that was registered last under a name. -/
def latest? (rs : List (Registration ι)) (name : String) : Option ι :=
  rs.reverse.findSome? (binderOf? name)

/-- The default that was set last. -/
def lastFallback? (rs : List (Registration ι)) : Option String := rs.reverse.findSome? fallback?

/-- The names under which binders were registered, with repetitions. -/
def names (rs : List (Registration ι)) : List String := rs.filterMap name?

theorem latest?_concat (rs : List (Registration ι)) (r : Registration ι) (name : String) :
  latest? (rs ++ [r]) name = (r.binderOf? name).or (latest? rs name)
  := by
  rw [latest?, List.reverse_concat, List.findSome?_cons]
  cases r.binderOf? name <;> rfl

theorem lastFallback?_concat (rs : List (Registration ι)) (r : Registration ι) :
  lastFallback? (rs ++ [r]) = r.fallback?.or (lastFallback? rs)
  := by
  rw [lastFallback?, List.reverse_concat, List.findSome?_cons]
  cases r.fallback? <;> rfl

end Registration

open Registration

namespace Factory

/-- The factory after a registration. -/
def register (f : Factory ι) : Registration ι → Factory ι
  | .binder name b => f.withBinder name b
  | .fallback name => f.withDefault name

/-- The factory that comes of registrations. -/
def ofRegistrations (rs : List (Registration ι)) : Factory ι := rs.foldl register {}

theorem ofRegistrations_concat (rs : List (Registration ι)) (r : Registration ι) :
  ofRegistrations (rs ++ [r]) = (ofRegistrations rs).register r
  := List.foldl_concat register {} r rs

/-- A name stands for the binder that was registered last under it. -/
theorem get?_binders_ofRegistrations (rs : List (Registration ι)) (name : String) :
  (ofRegistrations rs).binders.get? name = latest? rs name
  := by
  induction rs using List.reverseRecOn with
  | nil => rfl
  | append_singleton rs r ih =>
    rw [ofRegistrations_concat, latest?_concat, ← ih]
    cases r with
    | binder other b =>
      rw [register, withBinder, Table.get?_insert, binderOf?]
      split
      · rfl
      · rfl
    | fallback other => rfl

/-- The default is the one that was set last. -/
theorem fallback_ofRegistrations (rs : List (Registration ι)) :
  (ofRegistrations rs).fallback = lastFallback? rs
  := by
  induction rs using List.reverseRecOn with
  | nil => rfl
  | append_singleton rs r ih =>
    rw [ofRegistrations_concat, lastFallback?_concat, ← ih]
    cases r with
    | binder other b => rfl
    | fallback other => rfl

/-- However often a name was registered, it counts once. -/
theorem keys_binders_ofRegistrations (rs : List (Registration ι)) :
  (ofRegistrations rs).binders.keys.Nodup
    ∧ ∀ name, name ∈ (ofRegistrations rs).binders.keys ↔ name ∈ names rs
  := by
  induction rs using List.reverseRecOn with
  | nil => exact ⟨List.nodup_nil, fun name => Iff.rfl⟩
  | append_singleton rs r ih =>
    obtain ⟨hnodup, hmem⟩ := ih
    rw [ofRegistrations_concat, names, List.filterMap_append]
    cases r with
    | binder other b =>
      refine ⟨Table.nodup_keys_insert other b hnodup, fun name => ?_⟩
      refine Table.mem_keys_put.trans ?_
      rw [List.mem_append, or_comm]
      exact or_congr (hmem name) List.mem_singleton.symm
    | fallback other =>
      rw [List.filterMap_cons_none rfl, List.filterMap_nil, List.append_nil]
      exact ⟨hnodup, hmem⟩

/-- Where nothing is wanted and there is no default, a binder is found exactly if its name is the only
one. -/
theorem get?_none_eq_some_iff {f : Factory ι} (hkeys : f.binders.keys.Nodup)
    (hfallback : f.fallback = none) {b : ι} :
  f.get? none = some b
    ↔ ∃ name, (∀ other, other ∈ f.binders.keys ↔ other = name) ∧ f.binders.get? name = some b
  := by
  obtain ⟨⟨entries⟩, fallback⟩ := f
  cases hfallback
  rcases entries with _ | ⟨⟨name, only⟩, _ | ⟨⟨name', second⟩, rest⟩⟩
  · simp only [get?, Option.or_none, Table.keys, List.map_nil, List.not_mem_nil, false_iff]
    refine iff_of_false (by rintro ⟨⟩) ?_
    rintro ⟨name, hname, -⟩
    exact hname name rfl
  · simp only [get?, Option.or_none, Table.keys, List.map_cons, List.map_nil, List.mem_singleton,
      Table.get?, Table.find]
    constructor
    · intro h
      exact ⟨name, fun other => Iff.rfl, (if_pos rfl).trans h⟩
    · rintro ⟨name', hname, h⟩
      rwa [if_pos ((hname name).mp rfl)] at h
  · simp only [get?, Option.or_none]
    refine iff_of_false (by rintro ⟨⟩) ?_
    rintro ⟨only, hname, -⟩
    simp only [Table.keys, List.map_cons, List.mem_cons, List.nodup_cons] at hname hkeys
    have hfirst : name = only := (hname name).mp (Or.inl rfl)
    have hsecond : name' = only := (hname name').mp (Or.inr (Or.inl rfl))
    exact hkeys.1 (Or.inl (hfirst.trans hsecond.symm))

end Factory

/-! ## The choice -/

/-- The name of the binder that is wanted for a binding name, by the first level that says one: the
settings of the name, the settings of the service and what the factory was told last. -/
def wantedBinder? (settings : Settings) (rs : List (Registration ι)) (name : String) :
    Option String :=
  ((settings.binding? name).bind BindingProperties.binder).or
    (settings.defaultBinder.or (lastFallback? rs))

/-- Which binder is chosen for a binding name, if one is. -/
inductive Chooses (settings : Settings) (rs : List (Registration ι)) (name : String) :
    Option ι → Prop where
  /-- What is wanted is looked up, and nothing else. -/
  | wanted {binderName : String} (h : wantedBinder? settings rs name = some binderName) :
    Chooses settings rs name (latest? rs binderName)
  /-- Nothing is wanted, and one name alone was registered. -/
  | only {binderName : String} {b : ι} (h : wantedBinder? settings rs name = none)
      (honly : ∀ other, other ∈ names rs ↔ other = binderName)
      (hb : latest? rs binderName = some b) :
    Chooses settings rs name (some b)
  | undecided (h : wantedBinder? settings rs name = none)
      (hnames : ¬ ∃ binderName, ∀ other, other ∈ names rs ↔ other = binderName) :
    Chooses settings rs name none

/-- A name that was registered stands for a binder. -/
theorem Registration.exists_latest? {rs : List (Registration ι)} {name : String}
    (h : name ∈ names rs) :
  ∃ b, latest? rs name = some b
  := by
  rw [← Factory.get?_binders_ofRegistrations, ← Option.isSome_iff_exists, ← Table.mem_keys_iff]
  exact ((Factory.keys_binders_ofRegistrations rs).2 name).mpr h

theorem Chooses.unique {settings : Settings} {rs : List (Registration ι)} {name : String}
    {a b : Option ι} (ha : Chooses settings rs name a) (hb : Chooses settings rs name b) :
  a = b
  := by
  cases ha with
  | wanted h =>
    cases hb with
    | wanted h' =>
      cases h.symm.trans h'
      rfl
    | only h' | undecided h' => cases h.symm.trans h'
  | only h honly hlatest =>
    cases hb with
    | wanted h' => cases h.symm.trans h'
    | only h' honly' hlatest' =>
      cases (honly' _).mp ((honly _).mpr rfl)
      exact hlatest.symm.trans hlatest'
    | undecided h' hnames => exact absurd ⟨_, honly⟩ hnames
  | undecided h hnames =>
    cases hb with
    | wanted h' => cases h.symm.trans h'
    | only h' honly => exact absurd ⟨_, honly⟩ hnames
    | undecided h' => rfl

/-- What the factory finds for the binder name of a binding name is what is chosen. -/
theorem Factory.chooses_get? (settings : Settings) (rs : List (Registration ι)) (name : String) :
  Chooses settings rs name ((ofRegistrations rs).get? (settings.binderName name))
  := by
  obtain ⟨hnodup, hmem⟩ := keys_binders_ofRegistrations rs
  have hwanted : (settings.binderName name).or (ofRegistrations rs).fallback
      = wantedBinder? settings rs name := by
    rw [fallback_ofRegistrations, Settings.binderName, Option.or_assoc, wantedBinder?]
  cases h : wantedBinder? settings rs name with
  | some binderName =>
    rw [get?, hwanted, h]
    dsimp only
    rw [get?_binders_ofRegistrations]
    exact .wanted h
  | none =>
    rw [h, Option.or_eq_none_iff] at hwanted
    obtain ⟨hname, hfallback⟩ := hwanted
    have hfound := fun b => get?_none_eq_some_iff (b := b) hnodup hfallback
    simp only [hmem, get?_binders_ofRegistrations] at hfound
    rw [hname]
    cases hget : (ofRegistrations rs).get? none with
    | some b =>
      obtain ⟨binderName, honly, hb⟩ := (hfound b).mp hget
      exact .only h honly hb
    | none =>
      refine .undecided h ?_
      rintro ⟨binderName, honly⟩
      obtain ⟨b, hb⟩ := exists_latest? ((honly binderName).mpr rfl)
      cases hget.symm.trans ((hfound b).mpr ⟨binderName, honly, hb⟩)

/-! ## Binds of a name -/

namespace Resolution

variable {setup : Setup ι τ β} {s : System τ} {name : String}

/-- Whether a resolution of a name is not in the middle of a bind. -/
def IsIdle (name : String) (r : Resolution β) : Prop :=
  r.name = name ∧ (r.IsEarly ∨ ∃ cell ticket e, r.stage = .forgetting cell ticket e)

/-- Where there are no terms, a resolution leaves the binders and the ledger alone and never comes to
bind. -/
theorem step_idle {e : BindingError}
    (hterms : ∀ t, setup.producerTerms t name (setup.newProperties name) = .error e)
    {r : Resolution β} (hr : r.IsIdle name) :
  (step setup s r).1.binders = s.binders ∧ (step setup s r).1.ledger = s.ledger
    ∧ ∀ r', (step setup s r).2.rest? = some r' → r'.IsIdle name
  := by
  obtain ⟨rfl, hearly | ⟨cell, ticket, failure, hstage⟩⟩ := hr
  · rcases step_early setup s hearly with ⟨-, hdelays⟩ |
      ⟨-, cell, ticket, s', hbinders, hledger, hstep⟩
    · refine ⟨hdelays.binders, hdelays.ledger, fun r' hr' => ?_⟩
      obtain ⟨hearly', hname⟩ := hdelays.rest r' hr'
      exact ⟨hname, Or.inl hearly'⟩
    · rw [hstep, ProducerBind.begin_of_error (hterms _)]
      refine ⟨hbinders, hledger, ?_⟩
      rintro r' ⟨⟩
      exact ⟨rfl, Or.inr ⟨_, _, _, rfl⟩⟩
  · rw [step, hstage]
    exact ⟨rfl, rfl, by rintro r' ⟨⟩⟩

end Resolution

namespace Setup

/-- Whether the binds of a name use a binder, whatever goes on between their steps: the binder is found, and
each bind that nothing else speaks against asks it and nobody else. -/
structure Uses (setup : Setup ι τ β) (name : String) (binder : ι) : Prop where
  found : setup.binderFor name = .ok binder
  producer : ∀ s output given, ProducerBind.Uses setup s name binder output given
  consumer : ∀ s input, ConsumerBind.Uses setup s name binder input
  resolution : ∀ states,
    let walk := (Resolution.process setup.observed).walk (.running { name }) states
    Resolution.Uses setup name binder walk.1 walk.2

/-- Whether every bind of a name is refused with an error, before a binder hears of it and with nothing
tracked: at once if it is asked of the service, and when its turn comes in a resolution. -/
structure Refuses (setup : Setup ι τ β) (name : String) (e : BindingError) : Prop where
  producer : ∀ s output given,
    ProducerBind.begin setup s name output given = (s, .ended (.error e))
  consumer : ∀ s input, ConsumerBind.begin setup s name input = (s, .ended (.error e))
  resolution : ∀ states,
    let P := Resolution.process setup.observed
    let walk := P.walk (.running { name }) states
    (∀ step ∈ walk.1, (P.step step.1 step.2).1.binders = step.1.binders
        ∧ (P.step step.1 step.2).1.ledger = step.1.ledger)
      ∧ ((∃ step ∈ walk.1, step.2.IsPermitted step.1) →
        ∀ answer, walk.2 = .ended answer → answer = .error (.bindingFailed name e))

variable {setup : Setup ι τ β} {name : String}

theorem uses {binder : ι}
    (hbinder : setup.factory.get? (setup.settings.binderName name) = some binder) :
  setup.Uses name binder
  := by
  constructor
  · rw [binderFor, hbinder]
  · exact ProducerBind.uses hbinder
  · exact ConsumerBind.uses hbinder
  · exact Resolution.uses hbinder

theorem refuses (hnone : setup.factory.get? (setup.settings.binderName name) = none) :
  setup.Refuses name (.binderNotFound (binderLabel (setup.settings.binderName name)))
  := by
  have hterms : ∀ {π φ : Type} (complete : ι → π) (fault? : π → Option φ) (message : φ → String),
      setup.terms name complete fault? message
        = .error (.binderNotFound (binderLabel (setup.settings.binderName name))) := by
    intro π φ complete fault? message
    rw [Setup.terms, hnone]
  have hrefused : ∀ t, setup.observed.producerTerms t name (setup.observed.newProperties name)
      = .error (.binderNotFound (binderLabel (setup.settings.binderName name))) :=
    fun _ => hterms _ _ _
  constructor
  · intro s output given
    exact ProducerBind.begin_of_error (hterms _ _ _)
  · intro s input
    exact ConsumerBind.begin_of_error (hterms _ _ _)
  · intro states P walk
    constructor
    · intro step hstep
      have hidle : step.2.IsIdle name := by
        apply P.walk_keeps (I := Resolution.IsIdle name) _ _ states step hstep
        · intro s r r' hr
          exact (Resolution.step_idle hrefused hr).2.2 r'
        · rintro r ⟨⟩
          exact ⟨rfl, Or.inl trivial⟩
      obtain ⟨hbinders, hledger, -⟩ := Resolution.step_idle hrefused (s := step.1) hidle
      exact ⟨hbinders, hledger⟩
    · rintro ⟨step, hstep, hpermitted⟩
      rcases Resolution.followsTerms_walk setup name states with ⟨hnobody, -⟩ |
        ⟨before, s, r, after, -, -, -, hasked⟩
      · exact absurd hpermitted (hnobody step hstep)
      · have herror : setup.producerTerms s.binders.binders name (setup.newProperties name)
            = .error _ := hterms _ _ _
        simp only [herror] at hasked
        exact hasked.2.2

/-- Whatever was registered with the factory, in whatever order, and whatever the settings are: for every
binding name it is settled which binder is chosen, if one is.  If one is, the binds of the name use it.  If
none is, every bind of the name is refused, and the error has the name that the settings say, and says
"default" if they say none.  A resolution that nothing else decides comes to bind in either case. -/
theorem chooses_across_levels (settings : Settings) (rs : List (Registration ι))
    (binders : Binders ι τ β) (callback : Option Callback) (name : String) :
  let setup : Setup ι τ β := { settings, factory := .ofRegistrations rs, binders, callback }
  let said := ((settings.binding? name).bind BindingProperties.binder).or settings.defaultBinder
  (∃ choice, Chooses settings rs name choice
    ∧ (∀ other, Chooses settings rs name other → other = choice)
    ∧ match choice with
      | some b => setup.Uses name b
      | none => setup.Refuses name (.binderNotFound (said.getD "default")))
    ∧ ∀ s, Resolution.IsNew setup.observed s (s.fixed.get? name) name →
      s.cache.entries.get? name = none → Resolution.ComesToBind setup.observed s name
  := by
  intro setup said
  have hchooses := Factory.chooses_get? settings rs name
  refine ⟨⟨_, hchooses, fun other hother => hother.unique hchooses, ?_⟩, ?_⟩
  · split
    · rename_i binder hbinder
      exact uses hbinder
    · rename_i hnone
      exact refuses hnone
  · intro s hnew hentry
    exact Resolution.comesToBind hnew hentry

/-- A name that nothing is registered under is not found, though there is only one binder; and what is
registered twice under one name counts as one. -/
example :
  (Factory.ofRegistrations [.binder "memory" 1, .fallback "memry"]).get? none = none
    ∧ (Factory.ofRegistrations [.binder "memory" 1, .binder "memory" 2]).get? none = some 2
  := ⟨rfl, rfl⟩

end Setup

end ChannelBinding
