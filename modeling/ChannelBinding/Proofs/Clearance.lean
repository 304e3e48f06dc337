import ChannelBinding.Proofs.Bookkeeping
import ChannelBinding.Proofs.Reports
import ChannelBinding.Proofs.Shutdown
import ChannelBinding.Proofs.Walk

/-!
# Clearing a name

Releasing what is tracked under a name takes the whole list out of the ledger in one step and then unbinds
one binding after the other, whatever comes of the unbindings before.  Every binding of the list is
unbound once, in order, and the answer is that of the first unbinding that failed, or that none has
failed.  This holds of the release alone, and of it among other calls, whatever these do to the bindings
meanwhile.
-/

namespace ChannelBinding

variable {τ : Type}

/-! ## The answer to some unbindings -/

/-- What a release answers if its unbindings end as told: that all went well, or the error of the first
one that did not. -/
inductive Release.Reports (results : List (BindingId × Except BinderError Unit)) :
    Except BindingError Unit → Prop where
  | success (h : ∀ result ∈ results, result.2 = .ok ()) : Reports results (.ok ())
  | failure {before after : List (BindingId × Except BinderError Unit)} {b : BindingId}
      {cause : BinderError} (h : results = before ++ (b, .error cause) :: after)
      (hbefore : ∀ result ∈ before, result.2 = .ok ()) :
    Reports results (.error (.binder cause))

theorem Release.failureOf_eq_none_iff {result : Except BinderError Unit} :
  failureOf result = none ↔ result = .ok ()
  := by
  cases result <;> simp [failureOf]

theorem Release.failureOf_eq_some_iff {result : Except BinderError Unit} {e : BinderError} :
  failureOf result = some e ↔ result = .error e
  := by
  cases result <;> simp [failureOf]

theorem Release.reports_result (results : List (BindingId × Except BinderError Unit)) :
  Reports results (result (firstFailure results))
  := by
  cases h : firstFailure results with
  | none =>
    apply Reports.success
    simpa only [firstFailure, List.findSome?_eq_none_iff, failureOf_eq_none_iff] using h
  | some cause =>
    obtain ⟨before, ⟨b, outcome⟩, after, heq, houtcome, hbefore⟩ := List.findSome?_eq_some_iff.mp h
    obtain rfl := failureOf_eq_some_iff.mp houtcome
    apply Reports.failure heq
    simpa only [failureOf_eq_none_iff] using hbefore

/-! ## What stays bound -/

namespace Fabric

variable {f : Fabric} {b b' : BindingId} {binding : Binding}

/-- What is bound after an unbinding was so before, and if it is what was to be unbound, it is stuck. -/
theorem bound_of_unbind (hb' : (f.unbind b).1.binding? b' = some binding)
    (hbound : binding.bound = true) :
  f.binding? b' = some binding ∧ (b = b' → ∃ error, binding.attachment = .stuck error)
  := by
  cases hb : f.binding? b with
  | none =>
    rw [unbind_of_none hb] at hb'
    refine ⟨hb', ?_⟩
    rintro rfl
    rw [hb] at hb'
    cases hb'
  | some found =>
    cases hattachment : found.attachment with
    | stuck error =>
      rw [unbind_of_stuck hb hattachment] at hb'
      refine ⟨hb', ?_⟩
      rintro rfl
      cases hb.symm.trans hb'
      exact ⟨error, hattachment⟩
    | subscription c h =>
      cases hfound : found.bound with
      | false =>
        rw [unbind_of_unbound ⟨hb, hattachment⟩ hfound] at hb'
        refine ⟨hb', ?_⟩
        rintro rfl
        cases hb.symm.trans hb'
        rw [hfound] at hbound
        cases hbound
      | true =>
        rw [unbind_of_bound ⟨hb, hattachment⟩ hfound] at hb'
        have hset : (f.setBinding b { found with bound := false }).binding? b' = some binding := by
          rw [← hb']
          exact congrArg (·[b'.index]?) (extends_unsubscribe _ c h).1.bindings.symm
        rw [binding?_setBinding] at hset
        split at hset
        · rename_i heq
          subst heq
          rw [hb] at hset
          cases hset
          cases hbound
        · rename_i hne
          exact ⟨hset, fun heq => absurd heq hne⟩

theorem binding?_report (f : Fabric) (name : String) (b b' : BindingId)
    (failure : Option BinderError) :
  (Release.report f name b failure).binding? b' = f.binding? b'
  := by
  obtain ⟨journal, hjournal⟩ := Release.report_eq f name b failure
  rw [hjournal]
  rfl

/-- What is bound after some unbindings was so before, and if it was to be unbound, it is stuck. -/
theorem bound_of_unbindEach {name : String} {bs : List BindingId}
    (hb : (f.unbindEach name bs).1.binding? b = some binding) (hbound : binding.bound = true) :
  f.binding? b = some binding ∧ (b ∈ bs → ∃ error, binding.attachment = .stuck error)
  := by
  induction bs generalizing f with
  | nil => exact ⟨hb, by rintro ⟨⟩⟩
  | cons b' bs ih =>
    rw [unbindEach_cons] at hb
    obtain ⟨hrest, hmem⟩ := ih hb
    rw [binding?_report] at hrest
    obtain ⟨hfirst, heq⟩ := bound_of_unbind hrest hbound
    refine ⟨hfirst, ?_⟩
    rintro (_ | ⟨_, hin⟩)
    · exact heq rfl
    · exact hmem hin

end Fabric

/-- The first failure of some unbindings that are made in turn is that of the first binding that cannot be
released. -/
theorem Fabric.firstFailure_unbindEach (f : Fabric) (name : String) (bs : List BindingId) :
  firstFailure (f.unbindEach name bs).2 = bs.findSome? f.refusal?
  := by
  induction bs generalizing f with
  | nil => rfl
  | cons b bs ih =>
    obtain ⟨hresult, hkept⟩ := f.unbind_spec b
    rw [unbindEach_cons, firstFailure_cons, ih, refusal?_report, hkept, hresult, List.findSome?_cons]
    cases f.refusal? b <;> rfl

/-! ## A withdrawal among other calls -/

namespace Withdrawal

/-- The bindings that some steps of a withdrawal begin to unbind. -/
def begun (steps : List (System τ × Withdrawal)) : List BindingId :=
  steps.flatMap fun step => (step.2.news step.1).flatMap Happening.released

/-- The unbinding that ends with the next step of a withdrawal, and how. -/
def outcome? (s : System τ) (w : Withdrawal) : Option (BindingId × Except BinderError Unit) :=
  match w.current with
  | none => none
  | some r =>
    match (Unbinding.step s.fabric r.current).2 with
    | .ended result => some (r.current.target, result)
    | _ => none

/-- How the unbindings end that end in some steps of a withdrawal. -/
def outcomes (steps : List (System τ × Withdrawal)) : List (BindingId × Except BinderError Unit) :=
  steps.filterMap fun step => step.2.outcome? step.1

theorem begun_cons (s : System τ) (w : Withdrawal) (steps : List (System τ × Withdrawal)) :
  begun ((s, w) :: steps) = (w.news s).flatMap Happening.released ++ begun steps
  := List.flatMap_cons

theorem outcomes_cons (s : System τ) (w : Withdrawal) (steps : List (System τ × Withdrawal)) :
  outcomes ((s, w) :: steps) = (w.outcome? s).toList ++ outcomes steps
  := by
  rw [outcomes, List.filterMap_cons]
  cases w.outcome? s <;> simp [outcomes]

/-- The bindings that a withdrawal has yet to be done with. -/
def unreleased (w : Withdrawal) : List BindingId :=
  match w.current with
  | none => []
  | some r => r.current.target :: r.rest

/-- The failures of a withdrawal without names left, if its unbindings end as told. -/
def conclusion (w : Withdrawal) (results : List (BindingId × Except BinderError Unit)) :
    List UnbindFailure :=
  match w.current with
  | none => w.failures
  | some r => w.failures
    ++ ((r.failure.or (firstFailure results)).map fun e => ⟨r.name, w.role, .binder e⟩).toList

/-- A bound on the number of steps that a withdrawal without names left still takes. -/
def stepsLeft (w : Withdrawal) : Nat :=
  match w.current with
  | none => 1
  | some r => r.rank + 2

/-- A withdrawal that begins a release has yet to be done with all of its bindings. -/
theorem unreleased_proceed_begin (w : Withdrawal) (name : String) (failure : Option BinderError)
    (bs : List BindingId) :
  (w.proceed name (Release.begin name failure bs)).unreleased = bs
  := by
  cases bs with
  | nil => cases failure <;> rfl
  | cons b bs => rfl

/-- A withdrawal that begins a release concludes with the failure that there was, or the first one that
there will be. -/
theorem conclusion_proceed_begin (w : Withdrawal) (name : String) (failure : Option BinderError)
    {bs : List BindingId} {results : List (BindingId × Except BinderError Unit)}
    (hresults : results.map Prod.fst = bs) :
  (w.proceed name (Release.begin name failure bs)).conclusion results
    = w.failures
      ++ ((failure.or (firstFailure results)).map fun e => ⟨name, w.role, .binder e⟩).toList
  := by
  cases bs with
  | nil =>
    obtain rfl := List.map_eq_nil_iff.mp hresults
    cases failure with
    | none => exact (List.append_nil _).symm
    | some e => rfl
  | cons b bs => rfl

theorem stepsLeft_proceed_begin (w : Withdrawal) (name : String) (failure : Option BinderError)
    (bs : List BindingId) :
  (w.proceed name (Release.begin name failure bs)).stepsLeft = 2 * bs.length + 1
  := by
  cases bs with
  | nil => cases failure <;> rfl
  | cons b bs => rfl

/-- Whether a step of a withdrawal without names left begins one of its unbindings, ends one, or does
both, and leaves the rest of them for the steps to come. -/
structure Advances (s : System τ) (w w' : Withdrawal) : Prop where
  names : w'.names = []
  pending : w.pending = (w.news s).flatMap Happening.released ++ w'.pending
  unreleased : w.unreleased = (w.outcome? s).toList.map Prod.fst ++ w'.unreleased
  conclusion : ∀ results, results.map Prod.fst = w'.unreleased →
    w'.conclusion results = w.conclusion ((w.outcome? s).toList ++ results)
  stepsLeft : w'.stepsLeft < w.stepsLeft

/-- An unbinding that goes on has begun with the step. -/
theorem step_beginning {s : System τ} {role : Role} {r : Release} {failures : List UnbindFailure}
    {f : Fabric} {u : Unbinding} (hu : Unbinding.step s.fabric r.current = (f, .running u)) :
  step s ⟨role, [], some r, failures⟩
      = ({ s with fabric := f }, .running ⟨role, [], some { r with current := u }, failures⟩)
    ∧ Advances s ⟨role, [], some r, failures⟩ ⟨role, [], some { r with current := u }, failures⟩
  := by
  obtain ⟨name, requested, rest, failure⟩ := r
  obtain ⟨hrequested, hdetaching⟩ := Unbinding.eq_detaching_of_step hu
  have hrelease : Release.step s.fabric ⟨name, requested, rest, failure⟩
      = (f, .running ⟨name, u, rest, failure⟩) := by
    simp only [Release.step, hu]
  have houtcome : outcome? s ⟨role, [], some ⟨name, requested, rest, failure⟩, failures⟩ = none := by
    simp only [outcome?, hu]
  constructor
  · simp only [step, hrelease, proceed]
  · constructor
    · rfl
    · dsimp only at hrequested
      rw [hrequested, hdetaching]
      rfl
    · rw [houtcome, hdetaching]
      rfl
    · intro results _
      rw [houtcome]
      rfl
    · exact Nat.add_lt_add_right (Release.rank_lt_of_step hrelease) 2

/-- After an unbinding that ends the withdrawal begins the release of the rest, and remembers the first
failure. -/
theorem step_ending {s : System τ} {role : Role} {r : Release} {failures : List UnbindFailure}
    {f : Fabric} {result : Except BinderError Unit}
    (hu : Unbinding.step s.fabric r.current = (f, .ended result)) :
  ∃ fabric w', step s ⟨role, [], some r, failures⟩ = ({ s with fabric }, .running w')
    ∧ Advances s ⟨role, [], some r, failures⟩ w'
  := by
  obtain ⟨name, u, rest, failure⟩ := r
  have hrelease : Release.step s.fabric ⟨name, u, rest, failure⟩
      = (Release.report f name u.target (Release.failureOf result),
        Release.begin name (failure.or (Release.failureOf result)) rest) := by
    simp only [Release.step, hu]
  have houtcome : outcome? s ⟨role, [], some ⟨name, u, rest, failure⟩, failures⟩
      = some (u.target, result) := by
    simp only [outcome?, hu]
  have hbegun : pending ⟨role, [], some ⟨name, u, rest, failure⟩, failures⟩
      = (news s ⟨role, [], some ⟨name, u, rest, failure⟩, failures⟩).flatMap Happening.released
        ++ rest := by
    cases u <;> rfl
  refine ⟨_, _, by simp only [step, hrelease]; rfl, ?_⟩
  constructor
  · exact names_proceed ..
  · rw [hbegun, pending_proceed, Release.pendingAfter_begin]
  · rw [houtcome, unreleased_proceed_begin]
    rfl
  · intro results hresults
    rw [unreleased_proceed_begin] at hresults
    rw [conclusion_proceed_begin _ _ _ hresults, Option.or_assoc, houtcome]
    exact congrArg (fun e : Option BinderError => failures
      ++ ((failure.or e).map fun e => ⟨name, role, .binder e⟩).toList)
      (firstFailure_cons (u.target, result) results).symm
  · rw [stepsLeft_proceed_begin]
    change 2 * rest.length + 1 < 2 * rest.length + u.rank + 2
    omega

/-- A withdrawal without names left ends with the failures that there were, or advances. -/
theorem step_releasing (s : System τ) {w : Withdrawal} (hw : w.names = []) :
  (w.current = none ∧ step s w = (s, .ended w.failures))
    ∨ ∃ fabric w', step s w = ({ s with fabric }, .running w') ∧ Advances s w w'
  := by
  obtain ⟨role, names, current, failures⟩ := w
  obtain rfl : names = [] := hw
  cases current with
  | none => exact Or.inl ⟨rfl, rfl⟩
  | some r =>
    apply Or.inr
    obtain ⟨f, p, hu⟩ : ∃ f p, Unbinding.step s.fabric r.current = (f, p) := ⟨_, _, rfl⟩
    cases p with
    | waiting u pause => exact absurd hu Unbinding.step_ne_waiting
    | running u => exact ⟨_, _, step_beginning hu⟩
    | ended result => exact step_ending hu

/-- What the steps of a withdrawal without names left begin to unbind, how that ends, and what the
withdrawal concludes from it. -/
theorem walk_releasing {w : Withdrawal} (hw : w.names = []) (states : List (System τ)) :
  let walk := process.walk (.running w) states
  begun walk.1 <+: w.pending
    ∧ (∀ failures, walk.2 = .ended failures → begun walk.1 = w.pending
      ∧ (outcomes walk.1).map Prod.fst = w.unreleased ∧ failures = w.conclusion (outcomes walk.1))
    ∧ (w.stepsLeft ≤ states.length → ∃ failures, walk.2 = .ended failures)
    ∧ ∀ step ∈ walk.1, (process.step step.1 step.2).1.ledger = step.1.ledger
  := by
  induction states generalizing w with
  | nil =>
    refine ⟨List.nil_prefix, by rintro failures ⟨⟩, ?_, by rintro step ⟨⟩⟩
    intro hleft
    cases hcurrent : w.current <;> simp [stepsLeft, hcurrent] at hleft
  | cons s states ih =>
    dsimp only
    rw [Process.walk_cons process (by rfl)]
    rcases step_releasing s hw with ⟨hcurrent, hstep⟩ | ⟨fabric, w', hstep, hadvances⟩
    · obtain ⟨role, names, current, failures⟩ := w
      obtain rfl : names = [] := hw
      obtain rfl : current = none := hcurrent
      change process.step s ⟨role, [], none, failures⟩ = _ at hstep
      rw [hstep, Process.walk_ended]
      refine ⟨List.nil_prefix, ?_, fun _ => ⟨failures, rfl⟩, ?_⟩
      · rintro _ ⟨⟩
        exact ⟨rfl, rfl, rfl⟩
      · rintro step (_ | ⟨_, ⟨⟩⟩)
        rfl
    · change process.step s w = _ at hstep
      obtain ⟨hordered, hended, henough, hledger⟩ := ih hadvances.names
      rw [hstep]
      refine ⟨?_, ?_, ?_, ?_⟩
      · rw [begun_cons, hadvances.pending, List.prefix_append_right_inj]
        exact hordered
      · intro failures hfailures
        obtain ⟨hbegun, houtcomes, hconcluded⟩ := hended failures hfailures
        refine ⟨?_, ?_, ?_⟩
        · rw [begun_cons, hadvances.pending, hbegun]
        · rw [outcomes_cons, List.map_append, hadvances.unreleased, houtcomes]
        · rw [outcomes_cons, ← hadvances.conclusion _ houtcomes]
          exact hconcluded
      · intro henoughStates
        apply henough
        exact Nat.le_of_lt_succ (Nat.lt_of_lt_of_le hadvances.stepsLeft henoughStates)
      · rw [List.forall_mem_cons]
        refine ⟨?_, hledger⟩
        rw [hstep]

end Withdrawal

/-! ## Clearing a name -/

/-- A withdrawal that concludes with one failure at most answers with it. -/
theorem Withdrawal.answer_toList (name : String) (role : Role) (failure : Option BinderError) :
  answer (failure.map fun e => ⟨name, role, .binder e⟩).toList = Release.result failure
  := by
  cases failure <;> rfl

/-- The release of what is tracked under a name takes its list, and no other, out of the ledger.  It
unbinds every binding of the list once, in order, and reports the first unbinding that fails; what is bound
in the end is stuck.  Among other calls it begins to unbind the bindings in order as well, goes through all
of them within two steps for each, and then reports the first unbinding that has failed; only its first
step does anything to the ledger. -/
theorem System.releases_all_tracked {s : System τ} {role : Role} {name : String}
    {bs : List BindingId} (hbs : (s.ledger.of role).get? name = some bs) :
  (∀ role' name', (s.ledger.take role name).1.tracked role' name'
      = if role = role' ∧ name = name' then [] else s.ledger.tracked role' name')
    ∧ ((s.unbindTracked role name).1
        = { s with
            fabric := (s.fabric.unbindEach name bs).1
            ledger := (s.ledger.take role name).1 }
      ∧ (s.fabric.unbindEach name bs).2.map Prod.fst = bs
      ∧ Release.Reports (s.fabric.unbindEach name bs).2 (s.unbindTracked role name).2
      ∧ (s.unbindTracked role name).2 = Release.result (bs.findSome? s.fabric.refusal?)
      ∧ ∀ b ∈ bs, ∀ binding, (s.unbindTracked role name).1.fabric.binding? b = some binding →
        binding.bound = true → ∃ error, binding.attachment = .stuck error)
    ∧ ∀ states,
      let w : Withdrawal := { role, names := [name] }
      let walk := Withdrawal.process.walk (.running w) (s :: states)
      Withdrawal.begun walk.1 <+: bs
        ∧ (∀ failures, walk.2 = .ended failures → Withdrawal.begun walk.1 = bs
          ∧ (Withdrawal.outcomes walk.1).map Prod.fst = bs
          ∧ Release.Reports (Withdrawal.outcomes walk.1) (Withdrawal.answer failures))
        ∧ (2 * bs.length + 1 ≤ states.length → ∃ failures, walk.2 = .ended failures)
        ∧ ∃ rest, walk.1 = (s, w) :: rest
          ∧ (Withdrawal.process.step s w).1.ledger = (s.ledger.take role name).1
          ∧ ∀ step ∈ rest, (Withdrawal.process.step step.1 step.2).1.ledger = step.1.ledger
  := by
  have htake : s.ledger.take role name = ((s.ledger.take role name).1, some bs) :=
    Prod.ext rfl hbs
  refine ⟨fun role' name' => s.ledger.tracked_take role role' name name', ?_, ?_⟩
  · have hspec := s.unbindTracked_spec role name
    rw [htake] at hspec
    rw [hspec]
    dsimp only
    rw [Fabric.unbindAll_eq]
    refine ⟨rfl, Fabric.unbindEach_fst .., Release.reports_result _, ?_, ?_⟩
    · rw [Fabric.firstFailure_unbindEach]
    intro b hb binding hbinding hbound
    exact (Fabric.bound_of_unbindEach hbinding hbound).2 hb
  · intro states w walk
    have hstep : Withdrawal.process.step s w
        = ({ s with ledger := (s.ledger.take role name).1 },
          .running (Withdrawal.proceed { role, names := [] } name (Release.begin name none bs))) := by
      change Withdrawal.step s w = _
      simp only [Withdrawal.step, w]
      rw [htake]
    have hwalk : walk = _ := Withdrawal.process.walk_cons rfl s states
    rw [hstep] at hwalk
    have hnews : (w.news s).flatMap Happening.released = [] := by
      simp only [Withdrawal.news, w]
      rw [htake]
      rfl
    obtain ⟨hordered, hended, henough, hledger⟩ := Withdrawal.walk_releasing
      (Withdrawal.names_proceed { role, names := [] } name (Release.begin name none bs)) states
    rw [Withdrawal.pending_proceed, Release.pendingAfter_begin] at hordered hended
    rw [Withdrawal.unreleased_proceed_begin] at hended
    rw [Withdrawal.stepsLeft_proceed_begin] at henough
    rw [hwalk, Withdrawal.begun_cons, hnews, List.nil_append, Withdrawal.outcomes_cons]
    refine ⟨hordered, ?_, henough, _, rfl, by rw [hstep], hledger⟩
    intro failures hfailures
    obtain ⟨hbegun, houtcomes, rfl⟩ := hended failures hfailures
    refine ⟨hbegun, houtcomes, ?_⟩
    rw [Withdrawal.conclusion_proceed_begin _ _ _ houtcomes, Option.none_or, List.nil_append,
      Withdrawal.answer_toList]
    exact Release.reports_result _

/-- A system with four producers tracked under one name: one in place, one stuck, one that is unbound
already, and another one that is stuck. -/
def System.cluttered : System Unit where
  fabric := {
    channels := #[{ name := "out" }]
    bindings := #[
      { name := "eu", role := .producer, attachment := .subscription ⟨0⟩ ⟨0⟩ },
      { name := "us", role := .producer, attachment := .stuck (.unavailable "us is down") },
      { name := "asia", role := .producer, attachment := .subscription ⟨0⟩ ⟨1⟩, bound := false },
      { name := "africa", role := .producer, attachment := .stuck (.internal "africa is lost") }] }
  binders := ()
  ledger := {
    producers := ⟨[("orders", [⟨0⟩, ⟨1⟩, ⟨2⟩, ⟨3⟩]), ("refunds", [⟨4⟩])]⟩
    consumers := ⟨[("orders", [⟨5⟩])]⟩ }

/-- All four are unbound, the first failure is reported, and other lists stay; and among other calls all
four are unbound as well, whatever these do. -/
theorem System.releases_all_tracked_of_cluttered :
  (cluttered.ledger.of .producer).get? "orders" = some [⟨0⟩, ⟨1⟩, ⟨2⟩, ⟨3⟩]
    ∧ (cluttered.unbindTracked .producer "orders").2
      = .error (.binder (.unavailable "us is down"))
    ∧ (cluttered.unbindTracked .producer "orders").1.ledger.tracked .producer "orders" = []
    ∧ (cluttered.unbindTracked .producer "orders").1.ledger.tracked .producer "refunds" = [⟨4⟩]
    ∧ (cluttered.unbindTracked .producer "orders").1.ledger.tracked .consumer "orders" = [⟨5⟩]
    ∧ ∀ states, 9 ≤ states.length →
      ∃ failures, (Withdrawal.process.walk (.running { role := .producer, names := ["orders"] })
          (cluttered :: states)).2 = .ended failures
        ∧ Withdrawal.begun (Withdrawal.process.walk
          (.running { role := .producer, names := ["orders"] }) (cluttered :: states)).1
            = [⟨0⟩, ⟨1⟩, ⟨2⟩, ⟨3⟩]
  := by
  have hbs : (cluttered.ledger.of .producer).get? "orders" = some [⟨0⟩, ⟨1⟩, ⟨2⟩, ⟨3⟩] := rfl
  obtain ⟨htracked, ⟨hsystem, -, -, hanswer, -⟩, hwalk⟩ := releases_all_tracked hbs
  rw [hsystem]
  refine ⟨hbs, hanswer, htracked .producer "orders", htracked .producer "refunds",
    htracked .consumer "orders", ?_⟩
  · intro states hstates
    obtain ⟨-, hended, henough, -⟩ := hwalk states
    obtain ⟨failures, hfailures⟩ := henough hstates
    exact ⟨failures, hfailures, (hended failures hfailures).1⟩

end ChannelBinding
