import ChannelBinding.Proofs.Restart
import ChannelBinding.Proofs.Unbinding

/-!
# What a shutdown reports

A stop reports a name, in a role, once for each of its attempts that fails.  The first attempt on a name
takes all that is tracked under it and unbinds it; whatever comes of that, every later attempt finds
nothing and fails.  So a name is reported if nothing was tracked under it, if one of its bindings could
not be unbound, and also if it was attempted more than once, although everything was unbound.
-/

namespace ChannelBinding

variable {τ : Type}

/-! ## Efforts -/

/-- An attempt together with the unbindings that were made in the course of it. -/
structure Effort extends Attempt where
  unbound : List (BindingId × Except BinderError Unit)

/-- The efforts that are made for one name in one role. -/
def effortsFor (key : Role × String) (es : List Effort) : List Effort := es.filter fun e => e.key = key

theorem effortsFor_cons_of_eq {key : Role × String} {e : Effort} (he : e.key = key) (es : List Effort) :
  effortsFor key (e :: es) = e :: effortsFor key es
  := List.filter_cons_of_pos (decide_eq_true he)

theorem effortsFor_cons_of_ne {key : Role × String} {e : Effort} (he : e.key ≠ key) (es : List Effort) :
  effortsFor key (e :: es) = effortsFor key es
  := List.filter_cons_of_neg (mt of_decide_eq_true he)

theorem mem_effortsFor {key : Role × String} {e : Effort} {es : List Effort} :
  e ∈ effortsFor key es ↔ e ∈ es ∧ e.key = key
  := by
  rw [effortsFor, List.mem_filter, decide_eq_true_iff]

/-- The list that is kept under a name in a role, if there is one. -/
def Ledger.found (l : Ledger) (key : Role × String) : Option (List BindingId) :=
  (l.of key.1).get? key.2

theorem Ledger.found_take (l : Ledger) (role : Role) (name : String) (key : Role × String) :
  (l.take role name).1.found key = if (role, name) = key then none else l.found key
  := by
  obtain ⟨role', name'⟩ := key
  by_cases hrole : role = role'
  · subst hrole
    simp [found, take, Table.get?_erase]
  · simp [found, take, hrole]

namespace System

/-- What an attempt at a name in a role unbinds, and how each of these unbindings ends. -/
def unbound (s : System τ) (role : Role) (name : String) :
    List (BindingId × Except BinderError Unit) :=
  match s.ledger.found (role, name) with
  | some bs => (s.fabric.unbindEach name bs).2
  | none => []

/-- An attempt to release a name in a role, with what it unbinds. -/
def effort (s : System τ) (role : Role) (name : String) : Effort :=
  { role, name, result := (s.unbindTracked role name).2, unbound := s.unbound role name }

/-- Attempts to release some names in a role, with what they unbind. -/
def efforts (s : System τ) (role : Role) : List String → List Effort
  | [] => []
  | name :: names => s.effort role name :: (s.unbindTracked role name).1.efforts role names

/-- The attempts of visits to bindables, with what they unbind. -/
def visitEfforts (s : System τ) : List (Role × Bindable) → List Effort
  | [] => []
  | (role, bindable) :: stages =>
    (bindable.claimNames s role).1.efforts role (bindable.claimNames s role).2
      ++ (s.visitOne role bindable).1.visitEfforts stages

/-- The attempts of a stop, with what they unbind. -/
def stopEfforts (s : System τ) : List Effort :=
  if s.lifecycle.running then s.beginStop.visitEfforts (Shutdown.stages s.lifecycle.bindables) else []

/-- The names that a stop attempts, in their roles. -/
def stopKeys (s : System τ) : List (Role × String) :=
  (s.lifecycle.bindables.flatMap (·.names s .consumer)).map (.consumer, ·)
    ++ (Bindable.outputs s [] s.lifecycle.bindables).map (.producer, ·)

theorem map_efforts (s : System τ) (role : Role) (names : List String) :
  (s.efforts role names).map Effort.toAttempt = (s.attempt role names).2
  := by
  induction names generalizing s with
  | nil => rfl
  | cons name names ih =>
    rw [efforts, List.map_cons, ih]
    rfl

theorem map_visitEfforts (s : System τ) (stages : List (Role × Bindable)) :
  (s.visitEfforts stages).map Effort.toAttempt = (s.visit stages).2
  := by
  induction stages generalizing s with
  | nil => rfl
  | cons stage stages ih =>
    obtain ⟨role, b⟩ := stage
    rw [visitEfforts, List.map_append, ih, map_efforts]
    rfl

/-- The failures of a stop are those of its efforts. -/
theorem stop_failures (s : System τ) :
  s.stopLifecycle.2 = s.stopEfforts.filterMap fun e => e.failure?
  := by
  have hmap : ∀ es : List Effort, (es.filterMap fun e => e.failure?)
      = (es.map Effort.toAttempt).filterMap Attempt.failure? := by
    intro es
    rw [List.filterMap_map]
    rfl
  rw [stopEfforts]
  split
  · rename_i hrunning
    rw [stopLifecycle_of_running hrunning, hmap, map_visitEfforts]
  · rename_i hidle
    rw [stopLifecycle_of_idle hidle]
    rfl

/-- The efforts of a stop of a running lifecycle are made at what the bindables have. -/
theorem keys_stopEfforts {s : System τ} (hrunning : s.lifecycle.running = true) :
  (s.stopEfforts.map fun e => e.key) = s.stopKeys
  := by
  have hmap : ∀ es : List Effort, (es.map fun e => e.key)
      = (es.map Effort.toAttempt).map Attempt.key := by
    intro es
    rw [List.map_map]
    rfl
  rw [stopEfforts, if_pos hrunning, hmap, map_visitEfforts, keys_beginStop]
  rfl

end System

/-! ## Finding once -/

/-- Whether some efforts, all for one name in one role, find a list the first time and nothing
thereafter: the first unbinds all that is listed and fails if one of these unbindings does, and every
other effort unbinds nothing and fails. -/
inductive FindsOnce : Option (List BindingId) → List Effort → Prop where
  | nil (found : Option (List BindingId)) : FindsOnce found []
  | missed {e : Effort} {es : List Effort} (hresult : e.result = .error (.notBound e.name))
      (hunbound : e.unbound = []) (hes : FindsOnce none es) :
    FindsOnce none (e :: es)
  | found {bs : List BindingId} {e : Effort} {es : List Effort}
      (hresult : e.result = Release.result (firstFailure e.unbound))
      (hunbound : e.unbound.map Prod.fst = bs) (hes : FindsOnce none es) :
    FindsOnce (some bs) (e :: es)

namespace FindsOnce

variable {found : Option (List BindingId)} {es es' : List Effort}

theorem append (h : FindsOnce found es) (h' : FindsOnce (if es = [] then found else none) es') :
  FindsOnce found (es ++ es')
  := by
  induction h with
  | nil found => exact h'
  | @missed e es hresult hunbound hes ih =>
    apply FindsOnce.missed hresult hunbound
    apply ih
    rw [if_neg (List.cons_ne_nil e es)] at h'
    rwa [ite_self]
  | @found bs e es hresult hunbound hes ih =>
    apply FindsOnce.found hresult hunbound
    apply ih
    rw [if_neg (List.cons_ne_nil e es)] at h'
    rwa [ite_self]

/-- Where nothing is found, every effort fails and unbinds nothing. -/
theorem of_none (h : FindsOnce none es) :
  ∀ e ∈ es, e.result = .error (.notBound e.name) ∧ e.unbound = []
  := by
  generalize hfound : (none : Option (List BindingId)) = found at h
  induction h with
  | nil found => rintro e ⟨⟩
  | missed hresult hunbound hes ih =>
    rw [List.forall_mem_cons]
    exact ⟨⟨hresult, hunbound⟩, ih rfl⟩
  | found hresult hunbound hes ih => cases hfound

/-- What the efforts unbind is what is found. -/
theorem mem_found (h : FindsOnce found es) {e : Effort} (he : e ∈ es)
    {result : BindingId × Except BinderError Unit} (hmem : result ∈ e.unbound) :
  result.1 ∈ found.getD []
  := by
  cases h with
  | nil found => cases he
  | missed hresult hunbound hes =>
    rcases List.mem_cons.mp he with rfl | he
    · rw [hunbound] at hmem
      cases hmem
    · rw [(hes.of_none e he).2] at hmem
      cases hmem
  | found hresult hunbound hes =>
    rcases List.mem_cons.mp he with rfl | he
    · rw [Option.getD_some, ← hunbound]
      apply List.mem_map_of_mem hmem
    · rw [(hes.of_none e he).2] at hmem
      cases hmem

/-- One of the efforts fails if nothing is found, if one of the unbindings fails, or if it is not the
only one. -/
theorem exists_error_iff (h : FindsOnce found es) :
  (∃ e ∈ es, ∃ error, e.result = .error error)
    ↔ es ≠ [] ∧ (found = none ∨ (∃ e ∈ es, ∃ b error, (b, .error error) ∈ e.unbound) ∨ 2 ≤ es.length)
  := by
  cases h with
  | nil found => simp
  | @missed e es hresult hunbound hes =>
    constructor
    · intro _
      exact ⟨List.cons_ne_nil e es, Or.inl rfl⟩
    · intro _
      exact ⟨e, List.mem_cons_self, _, hresult⟩
  | @found bs e es hresult hunbound hes =>
    have herror : (∃ error, e.result = .error error) ↔ ∃ b error, (b, .error error) ∈ e.unbound := by
      rw [hresult, ← firstFailure_ne_none_iff]
      cases firstFailure e.unbound with
      | none => simp [Release.result]
      | some error => simp [Release.result]
    constructor
    · rintro ⟨e', hmem, hfails⟩
      refine ⟨List.cons_ne_nil e es, Or.inr ?_⟩
      rcases List.mem_cons.mp hmem with rfl | hmem
      · exact Or.inl ⟨e', List.mem_cons_self, herror.mp hfails⟩
      · right
        rw [List.length_cons]
        have hpos := List.length_pos_of_mem hmem
        omega
    · rintro ⟨-, hfound | ⟨e', hmem, hunbound'⟩ | hlength⟩
      · cases hfound
      · rcases List.mem_cons.mp hmem with rfl | hmem
        · exact ⟨e', List.mem_cons_self, herror.mpr hunbound'⟩
        · obtain ⟨b, error, hb⟩ := hunbound'
          rw [(hes.of_none e' hmem).2] at hb
          cases hb
      · cases es with
        | nil => simp at hlength
        | cons e' es =>
          have hmem : e' ∈ e :: e' :: es := List.mem_cons_of_mem e List.mem_cons_self
          exact ⟨e', hmem, _, (hes.of_none e' List.mem_cons_self).1⟩

end FindsOnce

namespace System

variable {s : System τ}

/-- An effort finds what is listed under its name, and leaves no list there. -/
theorem effort_spec (s : System τ) (role : Role) (name : String) :
  (∀ es, FindsOnce none es → FindsOnce (s.ledger.found (role, name)) (s.effort role name :: es))
    ∧ ∀ key, (s.unbindTracked role name).1.ledger.found key
      = if (role, name) = key then none else s.ledger.found key
  := by
  have hspec := s.unbindTracked_spec role name
  rw [effort]
  have htake := s.ledger.found_take role name
  obtain ⟨ledger, found, h⟩ : ∃ ledger found, s.ledger.take role name = (ledger, found) :=
    ⟨_, _, rfl⟩
  have hfound : s.ledger.found (role, name) = found := congrArg Prod.snd h
  rw [h] at hspec htake
  cases found with
  | none =>
    dsimp only at hspec
    rw [hspec]
    constructor
    · intro es hes
      rw [hfound]
      apply FindsOnce.missed rfl _ hes
      rw [unbound, hfound]
    · intro key
      split
      · rename_i heq
        rw [← heq]
        exact hfound
      · rfl
  | some bs =>
    dsimp only at hspec
    rw [hspec]
    constructor
    · intro es hes
      rw [hfound]
      apply FindsOnce.found _ _ hes
      · dsimp only
        rw [unbound, hfound, Fabric.unbindAll_eq]
      · dsimp only
        rw [unbound, hfound]
        apply Fabric.unbindEach_fst
    · exact htake

/-- The efforts at some names find what is listed under each of them once. -/
theorem findsOnce_efforts (s : System τ) (role : Role) (names : List String) (key : Role × String) :
  FindsOnce (s.ledger.found key) (effortsFor key (s.efforts role names))
    ∧ (s.attempt role names).1.ledger.found key
      = if effortsFor key (s.efforts role names) = [] then s.ledger.found key else none
  := by
  induction names generalizing s with
  | nil => exact ⟨.nil _, rfl⟩
  | cons name names ih =>
    obtain ⟨hfirst, hafter⟩ := s.effort_spec role name
    obtain ⟨hrest, hend⟩ := ih (s.unbindTracked role name).1
    rw [hafter] at hrest hend
    rw [efforts]
    change _ ∧ ((s.unbindTracked role name).1.attempt role names).1.ledger.found key = _
    rw [hend]
    by_cases heq : (role, name) = key
    · have hkey : (s.effort role name).key = key := heq
      rw [if_pos heq] at hrest ⊢
      rw [effortsFor_cons_of_eq hkey, if_neg (List.cons_ne_nil _ _), ite_self, ← heq]
      rw [← heq] at hrest
      exact ⟨hfirst _ hrest, rfl⟩
    · have hkey : (s.effort role name).key ≠ key := heq
      rw [if_neg heq] at hrest ⊢
      rw [effortsFor_cons_of_ne hkey]
      exact ⟨hrest, rfl⟩

theorem visitOne_eq (s : System τ) (role : Role) (b : Bindable) :
  s.visitOne role b = (b.claimNames s role).1.attempt role (b.claimNames s role).2
  := rfl

/-- To hand out names is not to touch the ledger. -/
theorem ledger_claimNames (s : System τ) (role : Role) (b : Bindable) :
  (b.claimNames s role).1.ledger = s.ledger
  := by
  cases role <;> cases b <;> rfl

/-- The efforts of visits find what is listed under each name once. -/
theorem findsOnce_visitEfforts (s : System τ) (stages : List (Role × Bindable)) (key : Role × String) :
  FindsOnce (s.ledger.found key) (effortsFor key (s.visitEfforts stages))
  := by
  induction stages generalizing s with
  | nil => apply FindsOnce.nil
  | cons stage stages ih =>
    obtain ⟨role, b⟩ := stage
    obtain ⟨hfirst, hafter⟩ :=
      (b.claimNames s role).1.findsOnce_efforts role (b.claimNames s role).2 key
    rw [ledger_claimNames] at hfirst hafter
    have hrest := ih (s.visitOne role b).1
    rw [visitOne_eq, hafter] at hrest
    rw [visitEfforts, effortsFor, List.filter_append]
    apply hfirst.append hrest

/-- The efforts of a stop find what is listed under each name once. -/
theorem findsOnce_stopEfforts (s : System τ) (key : Role × String) :
  FindsOnce (s.ledger.found key) (effortsFor key s.stopEfforts)
  := by
  rw [stopEfforts]
  split
  · apply s.beginStop.findsOnce_visitEfforts
  · apply FindsOnce.nil

/-- A stop reports a name in a role if one of its efforts for the name fails. -/
theorem mem_stop_failures_iff (s : System τ) (role : Role) (name : String) :
  (∃ error, ⟨name, role, error⟩ ∈ s.stopLifecycle.2)
    ↔ ∃ e ∈ effortsFor (role, name) s.stopEfforts, ∃ error, e.result = .error error
  := by
  rw [stop_failures]
  constructor
  · rintro ⟨error, hmem⟩
    obtain ⟨e, he, hfailure⟩ := List.mem_filterMap.mp hmem
    obtain ⟨⟨role', name', result⟩, unbound⟩ := e
    cases result with
    | ok => cases hfailure
    | error error' =>
      cases hfailure
      exact ⟨_, mem_effortsFor.mpr ⟨he, rfl⟩, error, rfl⟩
  · rintro ⟨e, he, error, hresult⟩
    obtain ⟨he, hkey⟩ := mem_effortsFor.mp he
    have hfailure : e.failure? = some ⟨name, role, error⟩ := by
      rw [Attempt.failure?, hresult]
      cases hkey
      rfl
    exact ⟨error, List.mem_filterMap.mpr ⟨e, he, hfailure⟩⟩

/-- A stop of a running lifecycle makes as many efforts for a name as it is handed the name. -/
theorem length_effortsFor {s : System τ} (hrunning : s.lifecycle.running = true)
    (key : Role × String) :
  (effortsFor key s.stopEfforts).length = s.stopKeys.count key
  := by
  rw [← keys_stopEfforts hrunning, effortsFor, ← List.countP_eq_length_filter, List.count,
    List.countP_map]
  apply List.countP_congr
  intro e _
  simp

/-- A stop reports a name in a role if and only if it attempts it, and nothing is listed under the name
when the stop begins, or the unbinding of one of the bindings that are fails in the course of the stop, or
the name is attempted more than once. -/
theorem stop_reports_iff (s : System τ) (role : Role) (name : String) :
  (∃ error, ⟨name, role, error⟩ ∈ s.stopLifecycle.2)
    ↔ s.lifecycle.running = true ∧ (role, name) ∈ s.stopKeys
      ∧ ((s.ledger.of role).get? name = none
        ∨ (∃ e ∈ s.stopEfforts, e.key = (role, name) ∧ ∃ b ∈ s.ledger.tracked role name, ∃ error,
            (b, .error error) ∈ e.unbound)
        ∨ 2 ≤ s.stopKeys.count (role, name))
  := by
  have hfinds := s.findsOnce_stopEfforts (role, name)
  rw [mem_stop_failures_iff]
  by_cases hrunning : s.lifecycle.running = true
  · have hlength := length_effortsFor hrunning (role, name)
    have hattempted : effortsFor (role, name) s.stopEfforts ≠ [] ↔ (role, name) ∈ s.stopKeys := by
      rw [← List.length_pos_iff_ne_nil, hlength, List.count_pos_iff]
    rw [hfinds.exists_error_iff, hattempted, hlength, and_iff_right hrunning]
    apply and_congr_right
    intro _
    apply or_congr_right
    apply or_congr_left
    constructor
    · rintro ⟨e, he, b, error, hmem⟩
      obtain ⟨hstop, hkey⟩ := mem_effortsFor.mp he
      exact ⟨e, hstop, hkey, b, hfinds.mem_found he hmem, error, hmem⟩
    · rintro ⟨e, he, hkey, b, -, error, hmem⟩
      exact ⟨e, mem_effortsFor.mpr ⟨he, hkey⟩, b, error, hmem⟩
  · constructor
    · rintro ⟨e, he, -⟩
      rw [stopEfforts, if_neg hrunning] at he
      cases he
    · rintro ⟨hrunning', -⟩
      exact absurd hrunning' hrunning

end System

/-! ## Refusals -/

/-- Why a binding cannot be released, if it cannot. -/
def Binding.refusal? (binding : Binding) : Option BinderError :=
  match binding.attachment with
  | .subscription _ _ => none
  | .stuck error => some error

namespace Fabric

variable {f f' : Fabric} {b : BindingId} {binding binding' : Binding}

/-- Why the binding of a handle cannot be released, if it cannot. -/
def refusal? (f : Fabric) (b : BindingId) : Option BinderError := (f.binding? b).bind Binding.refusal?

theorem refusal?_of_bindings (h : f'.bindings = f.bindings) :
  f'.refusal? = f.refusal?
  := by
  funext b
  rw [refusal?, binding?, h]
  rfl

theorem refusal?_setBinding (hb : f.binding? b = some binding)
    (hsame : binding'.attachment = binding.attachment) :
  (f.setBinding b binding').refusal? = f.refusal?
  := by
  funext b'
  rw [refusal?, binding?_setBinding]
  split
  · rename_i heq
    subst heq
    rw [refusal?, hb, Option.map_some, Option.bind_some, Option.bind_some, Binding.refusal?, hsame]
    rfl
  · rfl

theorem refusal?_report (f : Fabric) (name : String) (b : BindingId) (failure : Option BinderError) :
  (Release.report f name b failure).refusal? = f.refusal?
  := by
  obtain ⟨journal, hjournal⟩ := Release.report_eq f name b failure
  rw [hjournal]
  rfl

/-- Whether an unbinding fails is decided by what holds the binding, and stays as it is. -/
theorem unbind_spec (f : Fabric) (b : BindingId) :
  Release.failureOf (f.unbind b).2 = f.refusal? b ∧ (f.unbind b).1.refusal? = f.refusal?
  := by
  cases hb : f.binding? b with
  | none =>
    rw [unbind_of_none hb, refusal?, hb]
    exact ⟨rfl, rfl⟩
  | some binding =>
    have hrefusal : f.refusal? b = binding.refusal? := by
      rw [refusal?, hb, Option.bind_some]
    rw [hrefusal, Binding.refusal?]
    cases hattachment : binding.attachment with
    | stuck error =>
      rw [unbind_of_stuck hb hattachment]
      exact ⟨rfl, rfl⟩
    | subscription c h =>
      cases hbound : binding.bound with
      | false =>
        rw [unbind_of_unbound ⟨hb, hattachment⟩ hbound]
        exact ⟨rfl, rfl⟩
      | true =>
        rw [unbind_of_bound ⟨hb, hattachment⟩ hbound]
        have hkept : (f.setBinding b { binding with bound := false }).refusal? = f.refusal? :=
          refusal?_setBinding hb rfl
        refine ⟨rfl, ?_⟩
        rw [← hkept]
        exact refusal?_of_bindings (extends_unsubscribe _ c h).1.bindings

/-- Each of some unbindings that are made in turn fails if its binding cannot be released. -/
theorem unbindEach_spec (f : Fabric) (name : String) (bs : List BindingId) :
  (∀ result ∈ (f.unbindEach name bs).2, Release.failureOf result.2 = f.refusal? result.1)
    ∧ (f.unbindEach name bs).1.refusal? = f.refusal?
  := by
  induction bs generalizing f with
  | nil => exact ⟨List.forall_mem_nil _, rfl⟩
  | cons b bs ih =>
    obtain ⟨hresult, hkept⟩ := f.unbind_spec b
    obtain ⟨hrest, hend⟩ :=
      ih (Release.report (f.unbind b).1 name b (Release.failureOf (f.unbind b).2))
    rw [refusal?_report, hkept] at hrest hend
    rw [unbindEach_cons]
    exact ⟨List.forall_mem_cons.mpr ⟨hresult, hrest⟩, hend⟩

end Fabric

namespace System

/-- The unbindings of an attempt fail for bindings that cannot be released, and these stay so. -/
theorem unbound_spec (s : System τ) (role : Role) (name : String) :
  (∀ result ∈ s.unbound role name, Release.failureOf result.2 = s.fabric.refusal? result.1)
    ∧ (s.unbindTracked role name).1.fabric.refusal? = s.fabric.refusal?
  := by
  have hspec := s.unbindTracked_spec role name
  obtain ⟨ledger, found, h⟩ : ∃ ledger found, s.ledger.take role name = (ledger, found) :=
    ⟨_, _, rfl⟩
  have hfound : s.ledger.found (role, name) = found := congrArg Prod.snd h
  rw [h] at hspec
  rw [unbound, hfound, hspec]
  cases found with
  | none => exact ⟨List.forall_mem_nil _, rfl⟩
  | some bs =>
    dsimp only
    rw [Fabric.unbindAll_eq]
    apply s.fabric.unbindEach_spec

theorem efforts_spec (s : System τ) (role : Role) (names : List String) :
  (∀ e ∈ s.efforts role names, ∀ result ∈ e.unbound,
      Release.failureOf result.2 = s.fabric.refusal? result.1)
    ∧ (s.attempt role names).1.fabric.refusal? = s.fabric.refusal?
  := by
  induction names generalizing s with
  | nil => exact ⟨List.forall_mem_nil _, rfl⟩
  | cons name names ih =>
    obtain ⟨hfirst, hkept⟩ := s.unbound_spec role name
    obtain ⟨hrest, hend⟩ := ih (s.unbindTracked role name).1
    rw [hkept] at hrest hend
    exact ⟨List.forall_mem_cons.mpr ⟨hfirst, hrest⟩, hend⟩

theorem visitEfforts_spec (s : System τ) (stages : List (Role × Bindable)) :
  ∀ e ∈ s.visitEfforts stages, ∀ result ∈ e.unbound,
    Release.failureOf result.2 = s.fabric.refusal? result.1
  := by
  induction stages generalizing s with
  | nil => exact List.forall_mem_nil _
  | cons stage stages ih =>
    obtain ⟨role, b⟩ := stage
    have hclaim : (b.claimNames s role).1.fabric = s.fabric := by
      cases role <;> cases b <;> rfl
    obtain ⟨hfirst, hkept⟩ := (b.claimNames s role).1.efforts_spec role (b.claimNames s role).2
    rw [hclaim] at hfirst hkept
    have hrest := ih (s.visitOne role b).1
    rw [visitOne_eq, hkept] at hrest
    rw [visitEfforts]
    exact List.forall_mem_append.mpr ⟨hfirst, hrest⟩

/-- The unbindings of a stop fail for bindings that cannot be released when it begins. -/
theorem stopEfforts_spec (s : System τ) :
  ∀ e ∈ s.stopEfforts, ∀ result ∈ e.unbound,
    Release.failureOf result.2 = s.fabric.refusal? result.1
  := by
  rw [stopEfforts]
  split
  · apply s.beginStop.visitEfforts_spec
  · exact List.forall_mem_nil _

end System

/-! ## A name that is released and reported -/

namespace Operation

/-- The system after orders are resolved while the lifecycle runs, whose bindables declare orders as an
output and hold the registry of the resolver. -/
def declaredAndResolved : System MemoryBinder :=
  resolveOrders
    { binders := {}, lifecycle := { bindables := [.targets [] ["orders"], .registry], running := true } }

/-- A stop reports orders although a producer is bound under the name and every unbinding succeeds. -/
theorem stop_reports_released :
  declaredAndResolved.lifecycle.running = true
    ∧ declaredAndResolved.ledger.tracked .producer "orders" = [⟨0⟩]
    ∧ (∃ e ∈ declaredAndResolved.stopEfforts, e.key = (.producer, "orders")
      ∧ e.unbound = [(⟨0⟩, .ok ())])
    ∧ (∀ e ∈ declaredAndResolved.stopEfforts, ∀ result ∈ e.unbound, result.2 = .ok ())
    ∧ ∃ error, ⟨"orders", .producer, error⟩ ∈ declaredAndResolved.stopLifecycle.2
  := by
  have hrunning : declaredAndResolved.lifecycle.running = true := by
    decide +kernel
  have hfound : declaredAndResolved.ledger.found (.producer, "orders") = some [⟨0⟩] := by
    decide +kernel
  have hcount : declaredAndResolved.stopKeys.count (.producer, "orders") = 2 := by
    decide +kernel
  have hbindings : declaredAndResolved.fabric.bindings
      = #[{ name := "orders", role := .producer, attachment := .subscription ⟨0⟩ ⟨0⟩ }] := rfl
  have hnone : ∀ b, declaredAndResolved.fabric.refusal? b = none := by
    intro b
    rw [Fabric.refusal?, Fabric.binding?, hbindings]
    rcases b with ⟨_ | i⟩
    · rfl
    · rfl
  have hsucceeds : ∀ e ∈ declaredAndResolved.stopEfforts, ∀ result ∈ e.unbound,
      result.2 = .ok () := by
    intro e he result hmem
    have hresult := declaredAndResolved.stopEfforts_spec e he result hmem
    rw [hnone] at hresult
    cases hend : result.2 with
    | ok => rfl
    | error error =>
      rw [hend] at hresult
      cases hresult
  have hfinds := declaredAndResolved.findsOnce_stopEfforts (.producer, "orders")
  have hlength := System.length_effortsFor hrunning (.producer, "orders")
  rw [hfound] at hfinds
  rw [hcount] at hlength
  have hne : effortsFor (.producer, "orders") declaredAndResolved.stopEfforts ≠ [] := by
    apply List.ne_nil_of_length_pos
    rw [hlength]
    exact Nat.zero_lt_two
  refine ⟨hrunning, congrArg (Option.getD · []) hfound, ?_, hsucceeds, ?_⟩
  · obtain ⟨e, es, hcons⟩ := List.exists_cons_of_ne_nil hne
    rw [hcons] at hfinds
    have he : e ∈ effortsFor (.producer, "orders") declaredAndResolved.stopEfforts := by
      rw [hcons]
      exact List.mem_cons_self
    obtain ⟨hstop, hkey⟩ := mem_effortsFor.mp he
    refine ⟨e, hstop, hkey, ?_⟩
    cases hfinds with
    | found _ hunbound _ =>
      obtain ⟨⟨b, result⟩, heq, hb⟩ := List.map_eq_singleton_iff.mp hunbound
      have hok := hsucceeds e hstop (b, result) (by rw [heq]; exact List.mem_singleton_self _)
      rw [heq, ← hok, ← hb]
  · apply (declaredAndResolved.mem_stop_failures_iff .producer "orders").mpr
    apply hfinds.exists_error_iff.mpr
    exact ⟨hne, Or.inr (Or.inr (Nat.le_of_eq hlength.symm))⟩

end Operation

end ChannelBinding
