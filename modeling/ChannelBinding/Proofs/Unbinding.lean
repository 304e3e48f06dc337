import ChannelBinding.Proofs.Wiring
import ChannelBinding.Service.Release

/-!
# Unbinding

What the unbinding of a binding, and the release of a list of bindings, come to when nothing else is done
meanwhile.  An unbinding goes by what the binding is attached to and whether it is still bound; a release
is the unbindings of its bindings, one after the other, and its failure is the first of theirs.
-/

namespace ChannelBinding

/-! ## Unbinding one -/

namespace Fabric

variable {f : Fabric} {b : BindingId} {binding : Binding} {c : ChannelId} {h : HandlerId}

theorem unbind_of_none (hb : f.binding? b = none) :
  f.unbind b = (f, .ok ())
  := by
  apply Unbinding.process.finish_of_ended
  simp only [Unbinding.process, Unbinding.step, hb]

theorem unbind_of_stuck {error : BinderError} (hb : f.binding? b = some binding)
    (hstuck : binding.attachment = .stuck error) :
  f.unbind b = (f, .error error)
  := by
  apply Unbinding.process.finish_of_ended
  simp only [Unbinding.process, Unbinding.step, hb, hstuck]

/-- What is unbound already is not unbound again. -/
theorem unbind_of_unbound (hb : f.Attaches b binding c h) (hbound : binding.bound = false) :
  f.unbind b = (f.emit (.unboundAlready binding.name binding.role), .ok ())
  := by
  apply Unbinding.process.finish_of_ended
  simp [Unbinding.process, Unbinding.step, hb.1, hb.2, hbound]

/-- A binding that is in place is marked as unbound, and its handler unsubscribed. -/
theorem unbind_of_bound (hb : f.Attaches b binding c h) (hbound : binding.bound = true) :
  f.unbind b
    = (((f.setBinding b { binding with bound := false }).unsubscribe c h).1.emit
          (.unbound binding.name binding.role binding.group (f.channelName c)),
        .ok ())
  := by
  obtain ⟨hbinding, hattachment⟩ := hb
  obtain ⟨name, role, group, attachment, bound⟩ := binding
  cases hattachment
  cases hbound
  obtain ⟨f₁, hf₁⟩ : ∃ f₁, f.setBinding b ⟨name, role, group, .subscription c h, false⟩ = f₁ :=
    ⟨_, rfl⟩
  have hset : f₁.binding? b = some ⟨name, role, group, .subscription c h, false⟩ := by
    rw [← hf₁, binding?_setBinding, if_pos rfl, hbinding]
    rfl
  have hname : f₁.channelName c = f.channelName c := by
    rw [← hf₁]
    rfl
  have hrequested : Unbinding.step f (.requested b) = (f₁, .running (.detaching b)) := by
    simp [Unbinding.step, hbinding, hf₁]
  have hdetaching : Unbinding.step f₁ (.detaching b)
      = ((f₁.unsubscribe c h).1.emit (.unbound name role group (f.channelName c)),
          .ended (.ok ())) := by
    simp only [Unbinding.step, hset, hname]
  rw [hf₁]
  calc f.unbind b
    _ = Unbinding.process.finish Unbinding.process_neverWaits f₁ (.detaching b) :=
      Unbinding.process.finish_of_running _ hrequested
    _ = _ := Unbinding.process.finish_of_ended _ hdetaching

end Fabric

/-! ## Unbinding in turn -/

namespace Fabric

/-- Unbinds bindings one after the other, and tells how each of these ended. -/
def unbindEach (f : Fabric) (name : String) :
    List BindingId → Fabric × List (BindingId × Except BinderError Unit)
  | [] => (f, [])
  | b :: bs =>
    let (f₁, result) := f.unbind b
    let (f₂, results) := (Release.report f₁ name b (Release.failureOf result)).unbindEach name bs
    (f₂, (b, result) :: results)

theorem unbindEach_cons (f : Fabric) (name : String) (b : BindingId) (bs : List BindingId) :
  f.unbindEach name (b :: bs)
    = (((Release.report (f.unbind b).1 name b (Release.failureOf (f.unbind b).2)).unbindEach name bs).1,
        (b, (f.unbind b).2)
          :: ((Release.report (f.unbind b).1 name b
            (Release.failureOf (f.unbind b).2)).unbindEach name bs).2)
  := rfl

/-- The bindings that are unbound are the given ones. -/
theorem unbindEach_fst (f : Fabric) (name : String) (bs : List BindingId) :
  (f.unbindEach name bs).2.map Prod.fst = bs
  := by
  induction bs generalizing f with
  | nil => rfl
  | cons b bs ih => rw [unbindEach_cons, List.map_cons, ih]

end Fabric

/-- The first failure among some unbindings. -/
def firstFailure (results : List (BindingId × Except BinderError Unit)) : Option BinderError :=
  results.findSome? fun result => Release.failureOf result.2

theorem firstFailure_cons (result : BindingId × Except BinderError Unit)
    (results : List (BindingId × Except BinderError Unit)) :
  firstFailure (result :: results) = (Release.failureOf result.2).or (firstFailure results)
  := by
  rw [firstFailure, List.findSome?_cons]
  cases Release.failureOf result.2 with
  | none => rfl
  | some e => rfl

namespace Release

/-- Where a release ends from some stage on. -/
def finishFrom (f : Fabric) : Progress Release (Option BinderError) → Fabric × Option BinderError
  | .running r => process.finish process_neverWaits f r
  | .waiting _ _ => (f, none)
  | .ended failure => (f, failure)

/-- A release goes on when the current binding is unbound. -/
theorem finish_current (f : Fabric) (r : Release) :
  process.finish process_neverWaits f r
    = finishFrom (report (Unbinding.process.finish Unbinding.process_neverWaits f r.current).1 r.name
          r.current.target
          (failureOf (Unbinding.process.finish Unbinding.process_neverWaits f r.current).2))
        (begin r.name (r.failure.or
          (failureOf (Unbinding.process.finish Unbinding.process_neverWaits f r.current).2)) r.rest)
  := by
  obtain ⟨name, u, rest, failure⟩ := r
  induction u using Unbinding.process.wellFounded.induction generalizing f with
  | _ u ih =>
    obtain ⟨f', p, hstep⟩ : ∃ f' p, Unbinding.step f u = (f', p) := ⟨_, _, rfl⟩
    cases p with
    | running u' =>
      have hrun : step f ⟨name, u, rest, failure⟩ = (f', .running ⟨name, u', rest, failure⟩) := by
        simp only [step, hstep]
      have htarget : u'.target = u.target := by
        obtain ⟨-, hu'⟩ := Unbinding.eq_detaching_of_step hstep
        rw [hu']
        rfl
      rw [process.finish_of_running process_neverWaits hrun,
        ih u' (Unbinding.process.nearer_of_step hstep) f',
        Unbinding.process.finish_of_running Unbinding.process_neverWaits hstep, htarget]
    | waiting u' pause => exact absurd hstep Unbinding.step_ne_waiting
    | ended result =>
      have hrun : step f ⟨name, u, rest, failure⟩
          = (report f' name u.target (failureOf result),
            begin name (failure.or (failureOf result)) rest) := by
        simp only [step, hstep]
      rw [Unbinding.process.finish_of_ended Unbinding.process_neverWaits hstep]
      cases rest with
      | nil => exact process.finish_of_ended process_neverWaits hrun
      | cons b rest => exact process.finish_of_running process_neverWaits hrun

/-- A release unbinds its bindings one after the other, and its failure is the first of theirs. -/
theorem finishFrom_begin (f : Fabric) (name : String) (failure : Option BinderError)
    (bs : List BindingId) :
  finishFrom f (begin name failure bs)
    = ((f.unbindEach name bs).1, failure.or (firstFailure (f.unbindEach name bs).2))
  := by
  induction bs generalizing f failure with
  | nil =>
    cases failure with
    | none => rfl
    | some e => rfl
  | cons b bs ih =>
    rw [begin, finishFrom, finish_current, ih, Option.or_assoc, Fabric.unbindEach_cons,
      firstFailure_cons]
    rfl

end Release

theorem Fabric.unbindAll_eq (f : Fabric) (name : String) (bs : List BindingId) :
  f.unbindAll name bs = ((f.unbindEach name bs).1, firstFailure (f.unbindEach name bs).2)
  := by
  have h := Release.finishFrom_begin f name none bs
  rw [Option.none_or] at h
  rw [← h]
  rfl

/-- The failures among some unbindings are what there is a first failure of. -/
theorem firstFailure_ne_none_iff (results : List (BindingId × Except BinderError Unit)) :
  firstFailure results ≠ none ↔ ∃ b error, (b, .error error) ∈ results
  := by
  rw [firstFailure, Ne, List.findSome?_eq_none_iff]
  constructor
  · intro hnot
    simp only [not_forall] at hnot
    obtain ⟨⟨b, result⟩, hmem, hfailure⟩ := hnot
    cases result with
    | ok => exact absurd rfl hfailure
    | error error => exact ⟨b, error, hmem⟩
  · rintro ⟨b, error, hmem⟩ hall
    cases hall _ hmem

/-- To report a release is not to change anything. -/
theorem Release.report_eq (f : Fabric) (name : String) (b : BindingId) (failure : Option BinderError) :
  ∃ journal, report f name b failure = { f with journal }
  := by
  unfold report
  split <;> exact ⟨_, rfl⟩

/-- A binding that is in place is released: it is unbound, and its handler unsubscribed. -/
theorem Fabric.unbindAll_singleton {f : Fabric} {b : BindingId} {binding : Binding} {c : ChannelId}
    {h : HandlerId} (hb : f.Attaches b binding c h) (hbound : binding.bound = true) (name : String) :
  ∃ journal, (f.unbindAll name [b]).1
    = { ((f.setBinding b { binding with bound := false }).unsubscribe c h).1 with journal }
  := by
  obtain ⟨journal, hjournal⟩ :=
    Release.report_eq (f.unbind b).1 name b (Release.failureOf (f.unbind b).2)
  have hreport : (f.unbindEach name [b]).1
      = Release.report (f.unbind b).1 name b (Release.failureOf (f.unbind b).2) := rfl
  use journal
  rw [unbindAll_eq, hreport, hjournal, unbind_of_bound hb hbound]
  rfl

/-- What the release of a binding that was in place makes of a fabric. -/
structure Fabric.Detached (f f' : Fabric) (b : BindingId) (binding : Binding) (c : ChannelId)
    (h : HandlerId) : Prop where
  size : f.channels.size ≤ f'.channels.size
  binding?_eq : ∀ b', f'.binding? b'
    = if b = b' then (f.binding? b').map fun _ => { binding with bound := false } else f.binding? b'
  handler?_eq : ∀ h', f'.handler? h' = f.handler? h'
  subscribers_eq : ∀ c', f'.subscribers c'
    = if c = c' then (f.subscribers c').erase h else f.subscribers c'

theorem Fabric.detached_unbindAll {f : Fabric} {b : BindingId} {binding : Binding} {c : ChannelId}
    {h : HandlerId} (hb : f.Attaches b binding c h) (hbound : binding.bound = true) (name : String) :
  f.Detached (f.unbindAll name [b]).1 b binding c h
  := by
  obtain ⟨journal, hrelease⟩ := unbindAll_singleton hb hbound name
  obtain ⟨hextends, -⟩ := (f.setBinding b { binding with bound := false }).extends_unsubscribe c h
  rw [hrelease]
  constructor
  · exact hextends.channels
  · intro b'
    rw [← f.binding?_setBinding]
    exact hextends.binding?_eq b'
  · intro h'
    have hhandlers := (f.setBinding b { binding with bound := false }).handlers_unsubscribe c h
    exact congrArg (·[h'.index]?) hhandlers
  · intro c'
    exact (f.setBinding b { binding with bound := false }).subscribers_unsubscribe c c' h

end ChannelBinding
