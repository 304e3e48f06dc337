import ChannelBinding.Service.Release

/-!
# Starting and shutting down

A lifecycle that runs can be stopped: every input name of every bindable is withdrawn, then every
output name.  A registry hands out its names when its turn comes.  Each name that could not be
unbound is reported and returned, and keeps no other name from its turn.
-/

namespace ChannelBinding

/-- Where a shutdown stands. -/
inductive Shutdown where
  | requested
  /-- The lifecycle is stopped; its bindables are to be listed. -/
  | listing
  /-- The bindables still to come, each in the role that it is asked for, the withdrawal under way,
  and the failures before it. -/
  | releasing (stages : List (Role × Bindable)) (current : Option Withdrawal)
      (failures : List UnbindFailure)
deriving DecidableEq, Repr

namespace Bindable

variable {τ : Type}

/-- Takes the names that a bindable wants to be withdrawn in a role. -/
def claimNames (s : System τ) : Role → Bindable → System τ × List String
  | .consumer, .targets inputs _ => (s, inputs)
  | .producer, .targets _ outputs => (s, outputs)
  | .producer, .registry =>
    let (drained, names) := s.registry.drain
    ({ s with registry := drained }, names)
  | .producer, .ownRegistry k =>
    let (drained, names) := (s.ownRegistry k).drain
    ({ s with ownRegistries := s.ownRegistries.setIfInBounds k drained }, names)
  | _, _ => (s, [])

/-- The names that a bindable has in a role. -/
def names (s : System τ) : Role → Bindable → List String
  | .consumer, .targets inputs _ => inputs
  | .producer, .targets _ outputs => outputs
  | .producer, .registry => s.registry.names
  | .producer, .ownRegistry k => (s.ownRegistry k).names
  | _, _ => []

end Bindable

namespace Shutdown

variable {τ : Type}

/-- The stages of a shutdown: every bindable for its inputs, then every bindable for its outputs. -/
def stages (bindables : List Bindable) : List (Role × Bindable) :=
  bindables.map (Role.consumer, ·) ++ bindables.map (Role.producer, ·)

/-- Reports the failures of a shutdown and its end. -/
def conclude (s : System τ) (failures : List UnbindFailure) : System τ :=
  (failures.foldl (fun s failure => s.emit (.shutdownFailure failure)) s).emit
    (.shutdownEnded failures.length)

/-- One step of a shutdown. -/
def step (s : System τ) : Shutdown → System τ × Progress Shutdown (List UnbindFailure)
  | requested =>
    if s.lifecycle.running then
      ({ s with lifecycle := { s.lifecycle with running := false } }, .running listing)
    else (s, .ended [])
  | listing =>
    (s.emit (.shutdownStarted s.lifecycle.bindables.length),
      .running (releasing (stages s.lifecycle.bindables) none []))
  | releasing [] none failures => (conclude s failures, .ended failures)
  | releasing ((role, bindable) :: rest) none failures =>
    let (s', names) := bindable.claimNames s role
    (s', .running (releasing rest (some { role, names }) failures))
  | releasing rest (some w) failures =>
    match Withdrawal.step s w with
    | (s', .running w') => (s', .running (releasing rest (some w') failures))
    | (s', .waiting w' pause) => (s', .waiting (releasing rest (some w') failures) pause)
    | (s', .ended more) => (s', .running (releasing rest none (failures ++ more)))

/-- A measure of the steps to the end: the stages to come, then the withdrawal under way. -/
def rank : Shutdown → Nat × Nat × (Nat × Nat)
  | requested => (2, 0, 0, 0)
  | listing => (1, 0, 0, 0)
  | releasing rest none _ => (0, 2 * rest.length, 0, 0)
  | releasing rest (some w) _ => (0, 2 * rest.length + 1, w.rank)

/-- The order of the measures. -/
def nearerRank : Nat × Nat × (Nat × Nat) → Nat × Nat × (Nat × Nat) → Prop :=
  Prod.Lex (· < ·) (Prod.Lex (· < ·) (Prod.Lex (· < ·) (· < ·)))

theorem nearer_of_step {s s' : System τ} {x x' : Shutdown} (h : step s x = (s', .running x')) :
  nearerRank x'.rank x.rank
  := by
  unfold step at h
  split at h
  · split at h
    · simp only [Prod.mk.injEq, Progress.running.injEq] at h
      rw [← h.2]
      exact Prod.Lex.left _ _ (by decide)
    · simp at h
  · simp only [Prod.mk.injEq, Progress.running.injEq] at h
    rw [← h.2]
    exact Prod.Lex.left _ _ (by decide)
  · simp at h
  · simp only [Prod.mk.injEq, Progress.running.injEq] at h
    rw [← h.2]
    exact Prod.Lex.right _ (Prod.Lex.left _ _ (by simp only [List.length_cons]; omega))
  · split at h
    · rename_i hw
      simp only [Prod.mk.injEq, Progress.running.injEq] at h
      rw [← h.2]
      exact Prod.Lex.right _ (Prod.Lex.right _ (Withdrawal.nearer_of_step hw))
    · simp at h
    · simp only [Prod.mk.injEq, Progress.running.injEq] at h
      rw [← h.2]
      exact Prod.Lex.right _ (Prod.Lex.left _ _ (Nat.lt_succ_self _))

theorem step_ne_waiting {s s' : System τ} {x x' : Shutdown} {pause : Pause} :
  step s x ≠ (s', .waiting x' pause)
  := by
  unfold step
  split
  · split <;> simp
  · simp
  · simp
  · simp
  · split
    · simp
    · rename_i hw
      exact absurd hw Withdrawal.step_ne_waiting
    · simp

/-- A shutdown, as a process on the system. -/
def process : Process (System τ) Shutdown (List UnbindFailure) where
  step := step
  nearer := InvImage nearerRank rank
  wellFounded :=
    InvImage.wf rank (Prod.lex Nat.lt_wfRel (Prod.lex Nat.lt_wfRel (Prod.lex Nat.lt_wfRel
      Nat.lt_wfRel))).wf
  nearer_of_step := nearer_of_step

theorem process_neverWaits : (process (τ := τ)).NeverWaits := fun _ _ _ _ _ => step_ne_waiting

end Shutdown

namespace System

variable {τ : Type}

/-- Starts the lifecycle, unless it runs already. -/
def startLifecycle (s : System τ) : System τ :=
  if s.lifecycle.running then s
  else
    { s with lifecycle := { s.lifecycle with running := true } }.emit
      (.lifecycleStarted s.lifecycle.bindables.length)

/-- Stops the lifecycle; the names that could not be unbound are the result. -/
def stopLifecycle (s : System τ) : System τ × List UnbindFailure :=
  Shutdown.process.finish Shutdown.process_neverWaits s .requested

/-- Adds a bindable to the lifecycle. -/
def addBindable (s : System τ) (bindable : Bindable) : System τ :=
  { s with lifecycle := { s.lifecycle with bindables := s.lifecycle.bindables ++ [bindable] } }

/-- Registers a dynamic output. -/
def addOutput (s : System τ) (name : String) (c : ChannelId) : System τ :=
  let registry := s.registry.add name c
  { s with registry }.emit (.outputRegistered name registry.outputs.size)

/-- Withdraws what a bindable has in a role, whether the lifecycle runs or not. -/
def unbindBindable (s : System τ) (role : Role) (bindable : Bindable) :
    System τ × List UnbindFailure :=
  let (s', names) := bindable.claimNames s role
  s'.withdraw role names

end System

end ChannelBinding
