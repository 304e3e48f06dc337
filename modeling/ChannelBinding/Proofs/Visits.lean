import ChannelBinding.Lifecycle.Shutdown
import Mathlib.Data.List.Basic
import Mathlib.Data.String.Basic

/-!
# What a shutdown visits

A shutdown is a list of attempts, each of which releases what is tracked under one name in one role.
The bindables hand out their names one after the other, for their inputs and then for their outputs,
and every name is attempted before the next bindable is asked.  What is attempted depends on no
outcome, and the failures of the shutdown are those of its attempts, in order.
-/

namespace ChannelBinding

variable {τ : Type}

/-! ## Attempts -/

/-- An attempt to release what is tracked under a name in a role, and how it ended. -/
structure Attempt where
  role : Role
  name : String
  result : Except BindingError Unit
deriving DecidableEq, Repr

namespace Attempt

/-- The role and the name of an attempt. -/
def key (a : Attempt) : Role × String := (a.role, a.name)

/-- The failure that is reported of an attempt. -/
def failure? (a : Attempt) : Option UnbindFailure :=
  match a.result with
  | .ok () => none
  | .error error => some ⟨a.name, a.role, error⟩

end Attempt

namespace System

/-- Attempts to release some names in a role, one after the other. -/
def attempt (s : System τ) (role : Role) : List String → System τ × List Attempt
  | [] => (s, [])
  | name :: names =>
    let (s₁, result) := s.unbindTracked role name
    let (s₂, attempts) := s₁.attempt role names
    (s₂, ⟨role, name, result⟩ :: attempts)

/-- Visits a bindable in a role: it hands out its names, and every one of them is attempted. -/
def visitOne (s : System τ) (role : Role) (bindable : Bindable) : System τ × List Attempt :=
  let (s', names) := bindable.claimNames s role
  s'.attempt role names

/-- Visits bindables in their roles, one after the other. -/
def visit (s : System τ) : List (Role × Bindable) → System τ × List Attempt
  | [] => (s, [])
  | (role, bindable) :: stages =>
    let (s₁, attempts) := s.visitOne role bindable
    let (s₂, more) := s₁.visit stages
    (s₂, attempts ++ more)

theorem visit_cons (s : System τ) (role : Role) (b : Bindable) (stages : List (Role × Bindable)) :
  s.visit ((role, b) :: stages)
    = (((s.visitOne role b).1.visit stages).1,
        (s.visitOne role b).2 ++ ((s.visitOne role b).1.visit stages).2)
  := rfl

/-- The attempts on given names are attempts on these, whatever their outcomes. -/
theorem keys_attempt (s : System τ) (role : Role) (names : List String) :
  (s.attempt role names).2.map Attempt.key = names.map (role, ·)
  := by
  induction names generalizing s with
  | nil => rfl
  | cons name names ih =>
    rw [attempt, List.map_cons, List.map_cons, ih]
    rfl

end System

/-! ## One attempt -/

/-- The result of an attempt that has found bindings, from the first failure to release them. -/
def Release.result : Option BinderError → Except BindingError Unit
  | none => .ok ()
  | some e => .error (.binder e)

/-- A release keeps its name. -/
theorem Release.name_of_running {f f' : Fabric} {r r' : Release}
    (h : step f r = (f', .running r')) :
  r'.name = r.name
  := by
  obtain ⟨f₁, p, hp⟩ : ∃ f₁ p, Unbinding.step f r.current = (f₁, p) := ⟨_, _, rfl⟩
  rw [step, hp] at h
  cases p with
  | running u =>
    cases h
    rfl
  | waiting u pause => apply absurd hp Unbinding.step_ne_waiting
  | ended result =>
    simp only at h
    cases hrest : r.rest with
    | nil => simp [hrest, begin] at h
    | cons b rest =>
      simp only [hrest, begin, Prod.mk.injEq, Progress.running.injEq] at h
      rw [← h.2]

namespace Withdrawal

/-- Runs a withdrawal to its end. -/
def finish (s : System τ) (w : Withdrawal) : System τ × List UnbindFailure :=
  process.finish process_neverWaits s w

theorem finish_of_running {s s' : System τ} {w w' : Withdrawal} (h : step s w = (s', .running w')) :
  finish s w = finish s' w'
  := by
  apply process.finish_of_running
  apply h

/-- A withdrawal with a release under way goes on when the release has come to its end. -/
theorem finish_releasing (s : System τ) (w : Withdrawal) (r : Release) :
  finish s { w with current := some r }
    = finish { s with fabric := (Release.process.finish Release.process_neverWaits s.fabric r).1 }
        (w.proceed r.name
          (.ended (Release.process.finish Release.process_neverWaits s.fabric r).2))
  := by
  induction r using Release.process.wellFounded.induction generalizing s with
  | _ r ih =>
    obtain ⟨f, p, hstep⟩ : ∃ f p, Release.step s.fabric r = (f, p) := ⟨_, _, rfl⟩
    have hfinish : finish s { w with current := some r }
        = finish { s with fabric := f } (w.proceed r.name p) := by
      apply finish_of_running
      simp only [step, hstep]
      rcases p with r' | ⟨r', pause⟩ | _ | e <;> rfl
    cases p with
    | running r' =>
      rw [hfinish, Release.process.finish_of_running Release.process_neverWaits hstep,
        ← Release.name_of_running hstep]
      apply ih r' (Release.process.nearer_of_step hstep)
    | waiting r' pause => apply absurd hstep Release.step_ne_waiting
    | ended e => rw [hfinish, Release.process.finish_of_ended Release.process_neverWaits hstep]

/-- A withdrawal that has taken bindings goes on when they are released. -/
theorem finish_proceed_begin (s : System τ) (w : Withdrawal) (hw : w.current = none) (name : String)
    (bs : List BindingId) :
  finish s (w.proceed name (Release.begin name none bs))
    = finish { s with fabric := (s.fabric.unbindAll name bs).1 }
        { w with
          failures := w.failures ++ (Attempt.failure?
            ⟨w.role, name, Release.result (s.fabric.unbindAll name bs).2⟩).toList }
  := by
  have hproceed : ∀ failure : Option BinderError, w.proceed name (.ended failure)
      = { w with failures := w.failures
            ++ (Attempt.failure? ⟨w.role, name, Release.result failure⟩).toList } := by
    intro failure
    cases failure with
    | none => simp [proceed, Attempt.failure?, Release.result, hw]
    | some e => simp [proceed, Attempt.failure?, Release.result, hw]
  cases bs with
  | nil => exact congrArg (finish s) (hproceed none)
  | cons b bs =>
    rw [Release.begin, proceed, finish_releasing, hproceed]
    rfl

/-- A withdrawal without names left has ended. -/
theorem finish_nil (s : System τ) (role : Role) (failures : List UnbindFailure) :
  finish s { role, names := [], failures } = (s, failures)
  := by
  apply process.finish_of_ended
  rfl

/-- A withdrawal that finds bindings under its next name releases them. -/
theorem finish_found {s : System τ} {role : Role} {name : String} {ledger : Ledger}
    {bs : List BindingId} (h : s.ledger.take role name = (ledger, some bs)) (names : List String)
    (failures : List UnbindFailure) :
  finish s { role, names := name :: names, failures }
    = finish { s with ledger, fabric := (s.fabric.unbindAll name bs).1 }
        { role, names
          failures := failures ++ (Attempt.failure?
            ⟨role, name, Release.result (s.fabric.unbindAll name bs).2⟩).toList }
  := by
  have hstep : step s { role, names := name :: names, failures }
      = ({ s with ledger }, .running (proceed { role, names, failures } name
          (Release.begin name none bs))) := by
    simp only [step, h]
  rw [finish_of_running hstep]
  apply finish_proceed_begin { s with ledger } { role, names, failures } rfl

/-- A withdrawal that finds no list under its next name reports it. -/
theorem finish_missed {s : System τ} {role : Role} {name : String} {ledger : Ledger}
    (h : s.ledger.take role name = (ledger, none)) (names : List String)
    (failures : List UnbindFailure) :
  finish s { role, names := name :: names, failures }
    = finish (s.emit (.nothingTracked name role))
        { role, names, failures := failures ++ [⟨name, role, .notBound name⟩] }
  := by
  apply finish_of_running
  simp only [step, h]

end Withdrawal

/-- What an attempt does: all that is tracked under the name is taken and released, and the first
failure to release a binding is the answer; if the name has no list, this is reported. -/
theorem System.unbindTracked_spec (s : System τ) (role : Role) (name : String) :
  s.unbindTracked role name
    = match s.ledger.take role name with
      | (ledger, some bs) =>
        ({ s with ledger, fabric := (s.fabric.unbindAll name bs).1 },
          Release.result (s.fabric.unbindAll name bs).2)
      | (_, none) => (s.emit (.nothingTracked name role), .error (.notBound name))
  := by
  obtain ⟨ledger, found, h⟩ : ∃ ledger found, s.ledger.take role name = (ledger, found) :=
    ⟨_, _, rfl⟩
  rw [h]
  cases found with
  | none =>
    have hwithdraw : s.withdraw role [name]
        = (s.emit (.nothingTracked name role), [⟨name, role, .notBound name⟩]) :=
      (Withdrawal.finish_missed h [] []).trans (Withdrawal.finish_nil _ _ _)
    rw [unbindTracked, hwithdraw]
  | some bs =>
    have hwithdraw : s.withdraw role [name] = _ :=
      (Withdrawal.finish_found h [] []).trans (Withdrawal.finish_nil _ _ _)
    rw [unbindTracked, hwithdraw]
    cases hfailure : (s.fabric.unbindAll name bs).2 <;>
      simp [hfailure, Attempt.failure?, Release.result]

/-- A withdrawal attempts its names, one after the other. -/
theorem Withdrawal.finish_attempt (s : System τ) (role : Role) (names : List String)
    (failures : List UnbindFailure) :
  finish s { role, names, failures }
    = ((s.attempt role names).1, failures ++ (s.attempt role names).2.filterMap Attempt.failure?)
  := by
  induction names generalizing s failures with
  | nil => rw [finish_nil, System.attempt, List.filterMap_nil, List.append_nil]
  | cons name names ih =>
    obtain ⟨ledger, found, h⟩ : ∃ ledger found, s.ledger.take role name = (ledger, found) :=
      ⟨_, _, rfl⟩
    have hspec := s.unbindTracked_spec role name
    rw [h] at hspec
    cases found with
    | none =>
      rw [finish_missed h, ih, System.attempt, hspec]
      simp [Attempt.failure?]
    | some bs =>
      rw [finish_found h, ih, System.attempt, hspec, List.append_assoc]
      cases hfailure : Attempt.failure? ⟨role, name, Release.result (s.fabric.unbindAll name bs).2⟩
        <;> simp [hfailure]

/-! ## A whole shutdown -/

namespace Shutdown

/-- Runs a shutdown to its end. -/
def finish (s : System τ) (x : Shutdown) : System τ × List UnbindFailure :=
  process.finish process_neverWaits s x

theorem finish_of_running {s s' : System τ} {x x' : Shutdown} (h : step s x = (s', .running x')) :
  finish s x = finish s' x'
  := by
  apply process.finish_of_running
  apply h

/-- A shutdown with a withdrawal under way goes on when the withdrawal has come to its end. -/
theorem finish_withdrawing (s : System τ) (w : Withdrawal) (stages : List (Role × Bindable))
    (failures : List UnbindFailure) :
  finish s (releasing stages (some w) failures)
    = finish (w.finish s).1 (releasing stages none (failures ++ (w.finish s).2))
  := by
  induction w using (Withdrawal.process (τ := τ)).wellFounded.induction generalizing s with
  | _ w ih =>
    obtain ⟨s', p, hstep⟩ : ∃ s' p, w.step s = (s', p) := ⟨_, _, rfl⟩
    cases p with
    | running w' =>
      have hshutdown : step s (releasing stages (some w) failures)
          = (s', .running (releasing stages (some w') failures)) := by
        simp only [step, hstep]
      rw [finish_of_running hshutdown, Withdrawal.finish_of_running hstep]
      apply ih w' (Withdrawal.process.nearer_of_step hstep)
    | waiting w' pause => apply absurd hstep Withdrawal.step_ne_waiting
    | ended more =>
      have hshutdown : step s (releasing stages (some w) failures)
          = (s', .running (releasing stages none (failures ++ more))) := by
        simp only [step, hstep]
      have hend : w.finish s = (s', more) :=
        Withdrawal.process.finish_of_ended Withdrawal.process_neverWaits hstep
      rw [finish_of_running hshutdown, hend]

/-- A shutdown visits its stages and reports the failures of its attempts. -/
theorem finish_visit (s : System τ) (stages : List (Role × Bindable))
    (failures : List UnbindFailure) :
  finish s (releasing stages none failures)
    = (conclude (s.visit stages).1 (failures ++ (s.visit stages).2.filterMap Attempt.failure?),
        failures ++ (s.visit stages).2.filterMap Attempt.failure?)
  := by
  induction stages generalizing s failures with
  | nil =>
    rw [System.visit, List.filterMap_nil, List.append_nil]
    apply process.finish_of_ended
    rfl
  | cons stage stages ih =>
    obtain ⟨role, bindable⟩ := stage
    have hclaim : step s (releasing ((role, bindable) :: stages) none failures)
        = ((bindable.claimNames s role).1, .running (releasing stages
            (some { role, names := (bindable.claimNames s role).2 }) failures)) := rfl
    rw [finish_of_running hclaim, finish_withdrawing, Withdrawal.finish_attempt, ih,
      System.visit_cons, List.filterMap_append, List.nil_append, List.append_assoc]
    rfl

end Shutdown

/-! ## What the bindables hand out -/

namespace Bindable

/-- The registry that a bindable is, if it is one. -/
def toRegistry (s : System τ) : Bindable → Option Registry
  | registry => some s.registry
  | ownRegistry k => some (s.ownRegistry k)
  | _ => none

/-- Whether a bindable is a registry. -/
def IsRegistry : Bindable → Prop
  | registry | ownRegistry _ => True
  | _ => False

instance : DecidablePred IsRegistry
  | registry | ownRegistry _ => .isTrue trivial
  | targets _ _ | nothing => .isFalse id

/-- The output names of bindables that are visited in turn after others: a registry that was visited
has nothing left. -/
def outputs (s : System τ) (visited : List Bindable) : List Bindable → List String
  | [] => []
  | b :: rest =>
    (if b.IsRegistry ∧ b ∈ visited then [] else b.names s .producer)
      ++ outputs s (visited ++ [b]) rest

/-- A bindable hands out the names that it has. -/
theorem claimNames_snd (s : System τ) (role : Role) (b : Bindable) :
  (b.claimNames s role).2 = b.names s role
  := by
  cases role <;> cases b <;> rfl

/-- The names of bindables are those of their registries, or their own. -/
theorem names_congr {s s' : System τ} {b : Bindable} (h : b.toRegistry s' = b.toRegistry s)
    (role : Role) :
  b.names s' role = b.names s role
  := by
  cases role <;> cases b <;> simp_all [toRegistry, names]

/-- A bindable whose turn has not come yet hands out all its output names. -/
theorem mem_outputs {s : System τ} {visited bindables : List Bindable} {b : Bindable}
    (hb : b ∈ bindables) (hvisited : b ∉ visited) {name : String}
    (hname : name ∈ b.names s .producer) :
  name ∈ outputs s visited bindables
  := by
  induction bindables generalizing visited with
  | nil => cases hb
  | cons b' bindables ih =>
    rw [outputs, List.mem_append]
    by_cases heq : b = b'
    · subst heq
      left
      rw [if_neg fun h => hvisited h.2]
      apply hname
    · right
      apply ih
      · apply List.mem_of_ne_of_mem heq hb
      · simp [hvisited, heq]

theorem outputs_congr {s s' : System τ} (h : ∀ b : Bindable, b.toRegistry s' = b.toRegistry s)
    (visited bindables : List Bindable) :
  outputs s' visited bindables = outputs s visited bindables
  := by
  induction bindables generalizing visited with
  | nil => rfl
  | cons b bindables ih => rw [outputs, outputs, ih, names_congr (h b)]

/-- A registry that hands out its names is empty then, and every other registry stays as it is. -/
theorem toRegistry_claimNames (s : System τ) (role : Role) (b other : Bindable) :
  other.toRegistry (b.claimNames s role).1
    = if role = .producer ∧ other.IsRegistry ∧ other = b then some {} else other.toRegistry s
  := by
  cases role with
  | consumer => cases b <;> simp [claimNames]
  | producer =>
    cases b with
    | registry =>
      cases other <;> simp [claimNames, toRegistry, IsRegistry, Registry.drain, System.ownRegistry]
    | ownRegistry k =>
      cases other with
      | ownRegistry j =>
        simp only [claimNames, toRegistry, System.ownRegistry, Registry.drain,
          Array.getElem?_setIfInBounds]
        by_cases hkj : k = j
        · subst hkj
          by_cases hk : k < s.ownRegistries.size
          · simp [hk, IsRegistry]
          · simp [hk, IsRegistry]
        · simp [hkj, Ne.symm hkj]
      | _ => simp [claimNames, toRegistry, IsRegistry]
    | _ => cases other <;> simp [claimNames, IsRegistry]

/-- A registry lists the names of its outputs. -/
theorem names_of_registry {s : System τ} {b : Bindable} {r : Registry} (h : b.toRegistry s = some r) :
  b.names s .producer = r.names
  := by
  cases b with
  | registry | ownRegistry k =>
    cases h
    rfl
  | _ => cases h

end Bindable

namespace System

/-- Attempts touch the fabric and the ledger alone. -/
theorem attempt_fst (s : System τ) (role : Role) (names : List String) :
  ∃ fabric ledger, (s.attempt role names).1 = { s with fabric, ledger }
  := by
  induction names generalizing s with
  | nil => exact ⟨_, _, rfl⟩
  | cons name names ih =>
    obtain ⟨f, L, h⟩ : ∃ fabric ledger, (s.unbindTracked role name).1
        = { s with fabric, ledger } := by
      rw [unbindTracked_spec]
      split
      · exact ⟨_, _, rfl⟩
      · exact ⟨_, _, rfl⟩
    obtain ⟨f', L', h'⟩ := ih (s.unbindTracked role name).1
    use f', L'
    rw [attempt, h', h]

/-- A visit for outputs empties a registry, and every other registry stays as it is. -/
theorem toRegistry_visitOne (s : System τ) (role : Role) (b other : Bindable) :
  other.toRegistry (s.visitOne role b).1
    = if role = .producer ∧ other.IsRegistry ∧ other = b then some {} else other.toRegistry s
  := by
  obtain ⟨f, L, h⟩ := (b.claimNames s role).1.attempt_fst role (b.claimNames s role).2
  rw [visitOne, ← Bindable.toRegistry_claimNames, h]
  cases other <;> rfl

theorem keys_visitOne (s : System τ) (role : Role) (b : Bindable) :
  (s.visitOne role b).2.map Attempt.key = (b.names s role).map (role, ·)
  := by
  rw [visitOne, keys_attempt, Bindable.claimNames_snd]

/-- Visits touch the fabric, the ledger and the registries alone. -/
theorem visit_fst (s : System τ) (stages : List (Role × Bindable)) :
  ∃ fabric ledger registry ownRegistries,
    (s.visit stages).1 = { s with fabric, ledger, registry, ownRegistries }
  := by
  induction stages generalizing s with
  | nil => exact ⟨_, _, _, _, rfl⟩
  | cons stage stages ih =>
    obtain ⟨role, b⟩ := stage
    obtain ⟨f, L, h⟩ := (b.claimNames s role).1.attempt_fst role (b.claimNames s role).2
    obtain ⟨registry, ownRegistries, hclaim⟩ : ∃ registry ownRegistries,
        (b.claimNames s role).1 = { s with registry, ownRegistries } := by
      cases role <;> cases b <;> exact ⟨_, _, rfl⟩
    obtain ⟨f', L', registry', ownRegistries', h'⟩ := ih (s.visitOne role b).1
    use f', L', registry', ownRegistries'
    rw [visit_cons, h', visitOne, h, hclaim]

theorem visit_append (s : System τ) (stages stages' : List (Role × Bindable)) :
  s.visit (stages ++ stages')
    = (((s.visit stages).1.visit stages').1,
        (s.visit stages).2 ++ ((s.visit stages).1.visit stages').2)
  := by
  induction stages generalizing s with
  | nil => rfl
  | cons stage stages ih =>
    obtain ⟨role, b⟩ := stage
    rw [List.cons_append, visit_cons, visit_cons, ih, List.append_assoc]

/-- Visits for inputs attempt the input names, and leave the registries as they are. -/
theorem visit_inputs (s : System τ) (bindables : List Bindable) :
  (s.visit (bindables.map (.consumer, ·))).2.map Attempt.key
      = (bindables.flatMap (·.names s .consumer)).map (.consumer, ·)
    ∧ ∀ b : Bindable, b.toRegistry (s.visit (bindables.map (.consumer, ·))).1 = b.toRegistry s
  := by
  induction bindables generalizing s with
  | nil => exact ⟨rfl, fun b => rfl⟩
  | cons b bindables ih =>
    obtain ⟨hkeys, hregistry⟩ := ih (s.visitOne .consumer b).1
    have hkept : ∀ other : Bindable,
        other.toRegistry (s.visitOne .consumer b).1 = other.toRegistry s := by
      intro other
      simp [toRegistry_visitOne]
    rw [List.map_cons, visit_cons]
    constructor
    · simp only [Bindable.names_congr (hkept _)] at hkeys
      rw [List.map_append, keys_visitOne, hkeys, List.flatMap_cons, List.map_append]
    · intro other
      rw [hregistry, hkept]

/-- Visits for outputs attempt what the bindables have left, and empty the registries among them. -/
theorem visit_outputs {s s₀ : System τ} {visited : List Bindable} (bindables : List Bindable)
    (h : ∀ b : Bindable, b.toRegistry s
      = if b.IsRegistry ∧ b ∈ visited then some {} else b.toRegistry s₀) :
  (s.visit (bindables.map (.producer, ·))).2.map Attempt.key
      = (Bindable.outputs s₀ visited bindables).map (.producer, ·)
    ∧ ∀ b : Bindable, b.toRegistry (s.visit (bindables.map (.producer, ·))).1
        = if b.IsRegistry ∧ b ∈ visited ++ bindables then some {} else b.toRegistry s₀
  := by
  induction bindables generalizing s visited with
  | nil =>
    constructor
    · rfl
    · simpa [visit] using h
  | cons b bindables ih =>
    have hvisited : ∀ other : Bindable, other.toRegistry (s.visitOne .producer b).1
        = if other.IsRegistry ∧ other ∈ visited ++ [b] then some {} else other.toRegistry s₀ := by
      intro other
      rw [toRegistry_visitOne, h]
      by_cases hother : other.IsRegistry
      · by_cases heq : other = b
        · simp [heq, heq ▸ hother]
        · simp [hother, heq]
      · simp [hother]
    obtain ⟨hkeys, hregistry⟩ := ih hvisited
    have hnames : b.names s .producer
        = if b.IsRegistry ∧ b ∈ visited then [] else b.names s₀ .producer := by
      have hb := h b
      split at hb
      · rename_i hmem
        rw [if_pos hmem, Bindable.names_of_registry hb]
        apply List.mergeSort_nil
      · rename_i hmem
        rw [if_neg hmem, Bindable.names_congr hb]
    rw [List.map_cons, visit_cons]
    constructor
    · rw [List.map_append, keys_visitOne, hkeys, hnames, Bindable.outputs, List.map_append]
    · simpa using hregistry

/-- Visits for inputs and then for outputs attempt all that there is, and empty the registries. -/
theorem visit_stages (s : System τ) (bindables : List Bindable) :
  (s.visit (Shutdown.stages bindables)).2.map Attempt.key
      = (bindables.flatMap (·.names s .consumer)).map (.consumer, ·)
        ++ (Bindable.outputs s [] bindables).map (.producer, ·)
    ∧ ∀ b : Bindable, b.toRegistry (s.visit (Shutdown.stages bindables)).1
        = if b.IsRegistry ∧ b ∈ bindables then some {} else b.toRegistry s
  := by
  obtain ⟨hinputs, hkept⟩ := s.visit_inputs bindables
  have hnone : ∀ b : Bindable, b.toRegistry (s.visit (bindables.map (.consumer, ·))).1
      = if b.IsRegistry ∧ b ∈ [] then some {} else b.toRegistry s := by
    simpa using hkept
  obtain ⟨houtputs, hregistry⟩ := visit_outputs bindables hnone
  rw [Shutdown.stages, visit_append]
  constructor
  · rw [List.map_append, hinputs, houtputs]
  · simpa using hregistry

/-- The system as a stop finds it when it comes to the bindables. -/
def beginStop (s : System τ) : System τ :=
  { s with lifecycle := { s.lifecycle with running := false } }.emit
    (.shutdownStarted s.lifecycle.bindables.length)

/-- What it is for a stop to make some attempts, and to end with some failures. -/
structure StopsBy (s : System τ) (attempts : List Attempt) (s' : System τ)
    (failures : List UnbindFailure) : Prop where
  /-- The bindables are visited for their inputs and then for their outputs: each hands out its names
  when its turn comes, and they are attempted one after the other. -/
  eq_visit : ∃ visited, s.beginStop.visit (Shutdown.stages s.lifecycle.bindables)
    = (visited, attempts) ∧ s' = Shutdown.conclude visited failures
  /-- No outcome has an influence on what is attempted. -/
  keys_eq : attempts.map Attempt.key
    = (s.lifecycle.bindables.flatMap (·.names s .consumer)).map (.consumer, ·)
      ++ (Bindable.outputs s [] s.lifecycle.bindables).map (.producer, ·)
  /-- A registry has each of its outputs once in its names, in ascending order. -/
  names_sorted : ∀ (b : Bindable) (r : Registry), b.toRegistry s = some r →
    (b.names s .producer).Perm r.outputs.keys ∧ (b.names s .producer).Pairwise (· ≤ ·)
  failures_eq : failures = attempts.filterMap Attempt.failure?
  /-- Every registry that was visited is empty, and every other one is as it was. -/
  toRegistry_eq : ∀ b : Bindable, b.toRegistry s'
    = if b.IsRegistry ∧ b ∈ s.lifecycle.bindables then some {} else b.toRegistry s
  lifecycle_eq : s'.lifecycle = { s.lifecycle with running := false }

end System

/-- The names of a registry are in ascending order. -/
theorem Registry.names_sorted (r : Registry) :
  r.names.Pairwise (· ≤ ·)
  := by
  have hsorted : r.names.Pairwise fun a b => decide (a ≤ b) = true := by
    apply List.pairwise_mergeSort
    · intro a b c hab hbc
      apply decide_eq_true (le_trans (of_decide_eq_true hab) (of_decide_eq_true hbc))
    · intro a b
      simpa using le_total a b
  apply hsorted.imp
  intro a b hab
  apply of_decide_eq_true hab

/-- The report of a shutdown touches the journal alone. -/
theorem Shutdown.conclude_eq (s : System τ) (failures : List UnbindFailure) :
  ∃ journal, conclude s failures = { s with fabric := { s.fabric with journal } }
  := by
  obtain ⟨journal, h⟩ : ∃ journal,
      failures.foldl (fun s failure => s.emit (.shutdownFailure failure)) s
        = { s with fabric := { s.fabric with journal } } := by
    induction failures generalizing s with
    | nil => exact ⟨_, rfl⟩
    | cons failure failures ih => apply ih
  rw [conclude, h]
  exact ⟨_, rfl⟩

/-- A stop of a running lifecycle visits its bindables and reports the failures of its attempts. -/
theorem System.stopLifecycle_of_running {s : System τ} (hrunning : s.lifecycle.running = true) :
  s.stopLifecycle
    = (Shutdown.conclude (s.beginStop.visit (Shutdown.stages s.lifecycle.bindables)).1
        ((s.beginStop.visit (Shutdown.stages s.lifecycle.bindables)).2.filterMap Attempt.failure?),
      (s.beginStop.visit (Shutdown.stages s.lifecycle.bindables)).2.filterMap Attempt.failure?)
  := by
  have hbegin : Shutdown.step s .requested
      = ({ s with lifecycle := { s.lifecycle with running := false } }, .running .listing) := by
    simp only [Shutdown.step, if_pos hrunning]
  exact (Shutdown.finish_of_running hbegin).trans <|
    (Shutdown.finish_of_running rfl).trans (Shutdown.finish_visit s.beginStop _ [])

/-- Every other stop does nothing. -/
theorem System.stopLifecycle_of_idle {s : System τ} (hidle : ¬ s.lifecycle.running = true) :
  s.stopLifecycle = (s, [])
  := by
  apply Shutdown.process.finish_of_ended
  simp only [Shutdown.process, Shutdown.step, if_neg hidle]

/-- A stop attempts what the bindables have when it begins. -/
theorem System.keys_beginStop (s : System τ) :
  (s.beginStop.visit (Shutdown.stages s.lifecycle.bindables)).2.map Attempt.key
    = (s.lifecycle.bindables.flatMap (·.names s .consumer)).map (.consumer, ·)
      ++ (Bindable.outputs s [] s.lifecycle.bindables).map (.producer, ·)
  := by
  have hbefore : ∀ b : Bindable, b.toRegistry s.beginStop = b.toRegistry s := by
    intro b
    cases b <;> rfl
  rw [(s.beginStop.visit_stages s.lifecycle.bindables).1, Bindable.outputs_congr hbefore]
  simp only [Bindable.names_congr (hbefore _)]

/-- What a stop of a running lifecycle does. -/
theorem System.stopsBy_of_running {s : System τ} (hrunning : s.lifecycle.running = true) :
  ∃ attempts, s.StopsBy attempts s.stopLifecycle.1 s.stopLifecycle.2
  := by
  obtain ⟨-, hregistry⟩ := s.beginStop.visit_stages s.lifecycle.bindables
  have hbefore : ∀ b : Bindable, b.toRegistry s.beginStop = b.toRegistry s := by
    intro b
    cases b <;> rfl
  use (s.beginStop.visit (Shutdown.stages s.lifecycle.bindables)).2
  rw [stopLifecycle_of_running hrunning]
  obtain ⟨journal, hconclude⟩ := Shutdown.conclude_eq
    (s.beginStop.visit (Shutdown.stages s.lifecycle.bindables)).1
    ((s.beginStop.visit (Shutdown.stages s.lifecycle.bindables)).2.filterMap Attempt.failure?)
  constructor
  · exact ⟨_, rfl, rfl⟩
  · exact s.keys_beginStop
  · intro b r hr
    rw [Bindable.names_of_registry hr]
    exact ⟨r.names_perm, r.names_sorted⟩
  · rfl
  · intro b
    rw [hconclude, ← hbefore b, ← hregistry b]
    cases b <;> rfl
  · obtain ⟨f, L, registry, ownRegistries, hvisit⟩ :=
      s.beginStop.visit_fst (Shutdown.stages s.lifecycle.bindables)
    rw [hconclude, hvisit]
    rfl

/-- A stop of a running lifecycle visits every bindable in order, attempts every name that it is
handed, whatever fails, and returns the failures of its attempts; every other stop does nothing. -/
theorem System.stop_visits_in_order (s : System τ) :
  if s.lifecycle.running then ∃ attempts, s.StopsBy attempts s.stopLifecycle.1 s.stopLifecycle.2
  else s.stopLifecycle = (s, [])
  := by
  split
  · rename_i hrunning
    apply stopsBy_of_running hrunning
  · rename_i hidle
    apply stopLifecycle_of_idle hidle

end ChannelBinding
