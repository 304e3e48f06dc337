import ChannelBinding.Proofs.Renaming
import ChannelBinding.Proofs.Representation

/-!
# Mirrored binders

What a planned binder has to do with a destination: its transport channel, the requests for it, and how
its bindings stand.  Binds of other destinations leave all that as it is.  When two binders have the
same to do with a destination but for the names of handles, a bind of the destination by the one goes
as the renamed bind goes by the other.
-/

namespace ChannelBinding

/-- What of a binding bears on its release: why it cannot be released, if so, and whether it is
bound. -/
def Binding.standing (binding : Binding) : Option BinderError × Bool :=
  match binding.attachment with
  | .stuck e => (some e, binding.bound)
  | .subscription .. => (none, binding.bound)

namespace Fabric

/-- How a binding of a destination stands. -/
def standing (f : Fabric) (destination : String) (b : BindingId) :
    Option (Option BinderError × Bool) :=
  ((f.binding? b).filter fun binding => binding.name = destination).map Binding.standing

/-- Whether a handle is that of a binding of a destination. -/
def IsOf (f : Fabric) (destination : String) (b : BindingId) : Prop :=
  (f.standing destination b).isSome = true

variable {f f' : Fabric} {d : String} {b : BindingId} {binding : Binding}

theorem standing_eq (h : f'.bindings = f.bindings) :
  f'.standing d = f.standing d
  := by
  funext b
  rw [standing, binding?, h]
  rfl

/-- How the bindings of a destination stand when a binding is added. -/
theorem standing_push (h : f'.bindings = f.bindings.push binding) :
  f'.standing d b
    = if b = ⟨f.bindings.size⟩ then if binding.name = d then some binding.standing else none
      else f.standing d b
  := by
  have hlookup := f.binding?_addBinding b binding
  have heq : f'.binding? b = (f.addBinding binding).1.binding? b := by
    rw [binding?, h]
    rfl
  rw [standing, heq, hlookup]
  split
  · by_cases hname : binding.name = d
    · simp [hname, Option.filter]
    · simp [hname, Option.filter]
  · rfl

/-- A new binding of another destination leaves the bindings of a destination as they are. -/
theorem standing_push_of_ne (h : f'.bindings = f.bindings.push binding) (hne : binding.name ≠ d) :
  f'.standing d = f.standing d
  := by
  funext b
  rw [standing_push h, if_neg hne]
  split
  · rename_i hb
    have hnone : f.binding? b = none := by
      rw [hb, binding?, Array.getElem?_eq_none (Nat.le_refl _)]
    rw [standing, hnone]
    rfl
  · rfl

/-- A binding that is there stands as it did when another is added. -/
theorem standing_push_of_some (h : f'.bindings = f.bindings.push binding)
    {standing : Option BinderError × Bool} (hb : f.standing d b = some standing) :
  f'.standing d b = some standing
  := by
  rw [standing_push h, if_neg, hb]
  rintro rfl
  rw [Fabric.standing, binding?, Array.getElem?_eq_none (Nat.le_refl _)] at hb
  cases hb

theorem standing_push_self (h : f'.bindings = f.bindings.push binding) :
  f'.standing binding.name ⟨f.bindings.size⟩ = some binding.standing
  := by
  rw [standing_push h, if_pos rfl, if_pos rfl]

/-- To mark a binding as unbound changes how it stands and nothing else. -/
theorem standing_unbound (hb : f.binding? b = some binding) (b' : BindingId) :
  (f.setBinding b { binding with bound := false }).standing d b'
    = if b = b' then (f.standing d b').map fun standing => (standing.1, false) else f.standing d b'
  := by
  rw [standing, binding?_setBinding]
  split
  · rename_i hsame
    subst hsame
    rw [standing, hb]
    obtain ⟨name, role, group, attachment, bound⟩ := binding
    by_cases hname : name = d
    · cases attachment <;> simp [Option.filter, hname, Binding.standing]
    · simp [Option.filter, hname]
  · rfl

/-- A binding of a destination that stands somehow is there. -/
theorem binding_of_standing {standing : Option BinderError × Bool}
    (h : f.standing d b = some standing) :
  ∃ binding, f.binding? b = some binding ∧ binding.name = d ∧ binding.standing = standing
  := by
  obtain ⟨binding, hfound, hstanding⟩ := Option.map_eq_some_iff.mp h
  obtain ⟨hb, hname⟩ := Option.filter_eq_some_iff.mp hfound
  exact ⟨binding, hb, of_decide_eq_true hname, hstanding⟩

theorem name_of_isOf (hb : f.binding? b = some binding) (hof : f.IsOf d b) :
  binding.name = d
  := by
  rw [IsOf, standing, hb] at hof
  by_contra hne
  simp [Option.filter, hne] at hof

theorem isOf_addBinding (f : Fabric) (binding : Binding) :
  (f.addBinding binding).1.IsOf binding.name (f.addBinding binding).2
  := by
  have hself : (f.addBinding binding).1.bindings = f.bindings.push binding := rfl
  exact Option.isSome_iff_exists.mpr ⟨_, standing_push_self hself⟩

end Fabric

/-! ## What a binder has to do with a destination -/

/-- What a planned binder has to do with a destination. -/
structure Dealings where
  transport : Option ChannelId
  asked : List BindRequest
  standing : BindingId → Option (Option BinderError × Bool)

/-- What the binder of a fabric has to do with a destination. -/
def dealingsWith (destination : String) (v : Fabric × PlannedBinder) : Dealings where
  transport := v.2.inner.transports.get? destination
  asked := v.2.askedFor destination
  standing := v.1.standing destination

/-- Whether the dealings of one binder are those of another, but for the names of handles. -/
structure Dealings.Mirrors (ρ : Renaming) (D E : Dealings) : Prop where
  transport : D.transport = E.transport.map ρ.channel
  asked : D.asked = E.asked.map (BindRequest.rename ρ)
  standing : ∀ {b standing}, E.standing b = some standing → D.standing (ρ.binding b) = some standing

/-- Whether two numbers stay as they are, or grow by one together. -/
def InStep (x x' y y' : Nat) : Prop := (x' = x ∧ y' = y) ∨ (x' = x + 1 ∧ y' = y + 1)

theorem InStep.refl (x y : Nat) :
  InStep x x y y
  := Or.inl ⟨rfl, rfl⟩

/-! ## The in-memory binder -/

namespace MemoryBinder

/-- A bind adds one binding, of its destination, and no channel. -/
theorem attach_adds (f : Fabric) (t : ChannelId) (request : BindRequest) :
  ∃ h, (attach f t request).1.bindings = f.bindings.push (request.binding t h)
    ∧ (attach f t request).1.channels.size = f.channels.size
    ∧ (attach f t request).2 = ⟨f.bindings.size⟩
  := by
  obtain ⟨e, he⟩ := attach_eq f t request
  have hbindings := ((f.addHandler (.forwarding (request.target t))).1.extends_subscribe
    (request.source t) ⟨f.handlers.size⟩).1.bindings
  have hold : (f.addHandler (.forwarding (request.target t))).1.bindings = f.bindings := rfl
  rw [he]
  refine ⟨⟨f.handlers.size⟩, ?_, ?_, ?_⟩
  · simp only [Fabric.addBinding, Fabric.emit, hbindings, hold]
  · exact Fabric.size_subscribe _ _ _
  · simp only [Fabric.addBinding, Fabric.emit, hbindings, hold]

/-- To open a transport channel is to find the one that is there, or to add a channel. -/
theorem openTransport_cases (f : Fabric) (m : MemoryBinder) (d : String) :
  (∃ t, m.transports.get? d = some t ∧ (m.openTransport f d).2.2 = t
      ∧ (m.openTransport f d).2.1 = m ∧ (m.openTransport f d).1.bindings = f.bindings
      ∧ (m.openTransport f d).1.channels.size = f.channels.size)
    ∨ m.transports.get? d = none ∧ (m.openTransport f d).2.2 = ⟨f.channels.size⟩
      ∧ (m.openTransport f d).2.1 = ⟨m.transports.insert d ⟨f.channels.size⟩⟩
      ∧ (m.openTransport f d).1.bindings = f.bindings
      ∧ (m.openTransport f d).1.channels.size = f.channels.size + 1
  := by
  unfold openTransport
  cases h : m.transports.get? d with
  | some t => exact Or.inl ⟨t, rfl, rfl, rfl, rfl, rfl⟩
  | none => exact Or.inr ⟨rfl, rfl, rfl, rfl, by simp [Fabric.addChannel]⟩

end MemoryBinder

/-- The destination of a bind of the in-memory binder. -/
def MemoryCall.destination : MemoryCall → String
  | opening request => request.destination
  | attaching request _ => request.destination

/-! ## Binds of other destinations -/

/-- Whether a bind is one of a destination; if it is made, so is its binding. -/
def PlannedCall.IsFor (f : Fabric) (destination : String) : PlannedCall → Prop
  | asking request => request.destination = destination
  | pausing request .. => request.destination = destination
  | attaching call _ => call.destination = destination
  | lingering b _ => f.IsOf destination b

/-- Whether a bind goes on as one of a destination, or ends with a binding of it if it ends well. -/
def PlannedCall.IsForAfter (f : Fabric) (destination : String) : Progress PlannedCall BindAnswer → Prop
  | .running call => call.IsFor f destination
  | .waiting call _ => call.IsFor f destination
  | .ended (.ok b) => f.IsOf destination b
  | .ended (.error _) => True

/-- What a step of a bind of a destination may change. -/
structure Deals (destination : String) (v v' : Fabric × PlannedBinder) : Prop where
  bindings : v'.1.bindings = v.1.bindings
    ∨ ∃ binding, binding.name = destination ∧ v'.1.bindings = v.1.bindings.push binding
  channels : v.1.channels.size ≤ v'.1.channels.size
  transport : ∀ {d}, destination ≠ d →
    v'.2.inner.transports.get? d = v.2.inner.transports.get? d
  asked : ∀ {d}, destination ≠ d → v'.2.askedFor d = v.2.askedFor d

namespace Deals

variable {d d' : String} {v v' : Fabric × PlannedBinder}

theorem refl (d : String) (v : Fabric × PlannedBinder) :
  Deals d v v
  := ⟨Or.inl rfl, Nat.le_refl _, fun _ => rfl, fun _ => rfl⟩

/-- What the binder has to do with other destinations stays as it is. -/
theorem dealings_eq (h : Deals d v v') (hne : d ≠ d') :
  dealingsWith d' v' = dealingsWith d' v
  := by
  have hstanding : v'.1.standing d' = v.1.standing d' := by
    rcases h.bindings with hsame | ⟨binding, rfl, hpush⟩
    · apply Fabric.standing_eq hsame
    · apply Fabric.standing_push_of_ne hpush hne
  simp only [dealingsWith, h.transport hne, h.asked hne, hstanding]

/-- The bindings of every destination stay. -/
theorem isOf (h : Deals d v v') {b : BindingId} (hb : v.1.IsOf d' b) :
  v'.1.IsOf d' b
  := by
  rcases h.bindings with hsame | ⟨binding, -, hpush⟩
  · rw [Fabric.IsOf, Fabric.standing_eq hsame]
    apply hb
  · obtain ⟨standing, hstanding⟩ := Option.isSome_iff_exists.mp hb
    rw [Fabric.IsOf, Fabric.standing_push_of_some hpush hstanding]
    rfl

end Deals

namespace PlannedCall

variable {v : Fabric × PlannedBinder} {d : String}

/-- A bind that the in-memory binder carries out changes what it may, and goes on as it should. -/
theorem deals_attaching (v : Fabric × PlannedBinder) (call : MemoryCall) (after : Nat) (plan : Plan) :
  Deals call.destination v (step plan v (attaching call after)).1
    ∧ IsForAfter (step plan v (attaching call after)).1.1 call.destination
        (step plan v (attaching call after)).2
  := by
  cases call with
  | opening request =>
    simp only [step, MemoryCall.step, MemoryCall.destination]
    split
    · exact ⟨.refl _ _, trivial⟩
    · refine ⟨?_, rfl⟩
      rcases v.2.inner.openTransport_cases v.1 request.destination with
        ⟨t, -, -, hinner, hbindings, hsize⟩ | ⟨-, -, hinner, hbindings, hsize⟩
      · exact ⟨Or.inl hbindings, Nat.le_of_eq hsize.symm, fun _ => by rw [hinner], fun _ => rfl⟩
      · refine ⟨Or.inl hbindings, by rw [hsize]; apply Nat.le_succ, fun hne => ?_, fun _ => rfl⟩
        rw [hinner]
        apply Table.get?_insert_of_ne _ _ hne
  | attaching request t =>
    obtain ⟨h, hbindings, hsize, hb⟩ := MemoryBinder.attach_adds v.1 t request
    simp only [step, MemoryCall.step, step.wrap, MemoryCall.destination]
    constructor
    · exact ⟨Or.inr ⟨_, rfl, hbindings⟩, Nat.le_of_eq hsize.symm, fun _ => rfl, fun _ => rfl⟩
    · rw [hb]
      have hnew := Fabric.standing_push_self hbindings
      exact Option.isSome_iff_exists.mpr ⟨_, hnew⟩

/-- Every step of a bind of a destination changes what it may, and goes on as it should. -/
theorem deals_step (plan : Plan) {call : PlannedCall} (hcall : call.IsFor v.1 d) :
  Deals d v (step plan v call).1 ∧ IsForAfter (step plan v call).1.1 d (step plan v call).2
  := by
  match call with
  | asking request =>
    obtain rfl : request.destination = d := hcall
    refine ⟨⟨Or.inl rfl, Nat.le_refl _, fun _ => rfl, fun hne => ?_⟩, rfl⟩
    simp [step, PlannedBinder.askedFor, List.filter_append, hne]
  | pausing request bout (left + 1) => exact ⟨.refl _ _, hcall⟩
  | pausing request bout 0 =>
    obtain rfl : request.destination = d := hcall
    simp only [step]
    split
    · exact ⟨.refl _ _, trivial⟩
    · refine ⟨⟨Or.inr ⟨_, rfl, rfl⟩, Nat.le_refl _, fun _ => rfl, fun _ => rfl⟩, ?_⟩
      apply Fabric.isOf_addBinding
    · exact ⟨.refl _ _, rfl⟩
  | attaching call after =>
    obtain rfl : call.destination = d := hcall
    apply deals_attaching
  | lingering b (left + 1) => exact ⟨.refl _ _, hcall⟩
  | lingering b 0 => exact ⟨.refl _ _, hcall⟩

end PlannedCall

/-! ## Binds of the destination -/

/-- Whether the new handles of one binder are those of another, renamed. -/
structure Renaming.Meets (ρ : Renaming) (v v' w : Fabric × PlannedBinder) : Prop where
  channel : v.1.channels.size < v'.1.channels.size →
    ρ.channel ⟨w.1.channels.size⟩ = ⟨v.1.channels.size⟩
  binding : v.1.bindings.size < v'.1.bindings.size →
    ρ.binding ⟨w.1.bindings.size⟩ = ⟨v.1.bindings.size⟩

/-- Two binders whose dealings stay alike, and which give out new handles together. -/
structure Dealings.Keep (ρ : Renaming) (d : String) (v v' w w' : Fabric × PlannedBinder) : Prop where
  dealings : (dealingsWith d v').Mirrors ρ (dealingsWith d w')
  channels : InStep v.1.channels.size v'.1.channels.size w.1.channels.size w'.1.channels.size
  bindings : InStep v.1.bindings.size v'.1.bindings.size w.1.bindings.size w'.1.bindings.size

section

variable {ρ : Renaming} {d : String} {v w : Fabric × PlannedBinder}

/-- The transport channels that are opened on both sides are alike. -/
theorem MemoryBinder.keep_openTransport (h : (dealingsWith d v).Mirrors ρ (dealingsWith d w))
    (hmeets : v.1.channels.size < (v.2.inner.openTransport v.1 d).1.channels.size →
      ρ.channel ⟨w.1.channels.size⟩ = ⟨v.1.channels.size⟩) :
  let x := v.2.inner.openTransport v.1 d
  let y := w.2.inner.openTransport w.1 d
  Dealings.Keep ρ d v (x.1, { v.2 with inner := x.2.1 }) w (y.1, { w.2 with inner := y.2.1 })
    ∧ x.2.2 = ρ.channel y.2.2
  := by
  intro x y
  have htransport : v.2.inner.transports.get? d = (w.2.inner.transports.get? d).map ρ.channel :=
    h.transport
  have hstanding : x.1.bindings = v.1.bindings → y.1.bindings = w.1.bindings →
      ∀ {b standing}, y.1.standing d b = some standing →
        x.1.standing d (ρ.binding b) = some standing := by
    intro hx hy b standing hb
    rw [Fabric.standing_eq hy] at hb
    rw [Fabric.standing_eq hx]
    apply h.standing hb
  rcases w.2.inner.openTransport_cases w.1 d with
    ⟨t, ht, hopened, hinner, hbindings, hsize⟩ | ⟨ht, hopened, hinner, hbindings, hsize⟩
  · rw [ht] at htransport
    rcases v.2.inner.openTransport_cases v.1 d with
      ⟨t', ht', hopened', hinner', hbindings', hsize'⟩ | ⟨ht', -⟩
    · rw [ht'] at htransport
      refine ⟨⟨⟨?_, h.asked, hstanding hbindings' hbindings⟩, Or.inl ⟨hsize', hsize⟩,
        Or.inl ⟨congrArg _ hbindings', congrArg _ hbindings⟩⟩, ?_⟩
      · simp only [dealingsWith, x, y, hinner, hinner', ht, ht', htransport]
      · simp only [x, y, hopened, hopened']
        exact Option.some.inj htransport
    · rw [ht'] at htransport
      cases htransport
  · rw [ht] at htransport
    rcases v.2.inner.openTransport_cases v.1 d with
      ⟨t', ht', -⟩ | ⟨ht', hopened', hinner', hbindings', hsize'⟩
    · rw [ht'] at htransport
      cases htransport
    · have hnew := hmeets (by rw [hsize']; apply Nat.lt_succ_self)
      refine ⟨⟨⟨?_, h.asked, hstanding hbindings' hbindings⟩, Or.inr ⟨hsize', hsize⟩,
        Or.inl ⟨congrArg _ hbindings', congrArg _ hbindings⟩⟩, ?_⟩
      · simp only [dealingsWith, x, y, hinner, hinner', Table.get?_insert_self, Option.map_some, hnew]
      · simp only [x, y, hopened, hopened', hnew]

/-- A binding that is added on both sides keeps dealings alike. -/
theorem Dealings.Mirrors.keep_push (h : (dealingsWith d v).Mirrors ρ (dealingsWith d w)) {f g : Fabric}
    {binding binding' : Binding} (hf : f.bindings = v.1.bindings.push binding)
    (hg : g.bindings = w.1.bindings.push binding') (hname : binding.name = d)
    (hname' : binding'.name = d) (hstanding : binding.standing = binding'.standing)
    (hf' : f.channels.size = v.1.channels.size) (hg' : g.channels.size = w.1.channels.size)
    (hmeets : ρ.Meets v (f, v.2) w) :
  Dealings.Keep ρ d v (f, v.2) w (g, w.2) ∧ ρ.binding ⟨w.1.bindings.size⟩ = ⟨v.1.bindings.size⟩
  := by
  have hnew := hmeets.binding (by simp [hf])
  refine ⟨⟨⟨h.transport, h.asked, ?_⟩, Or.inl ⟨hf', hg'⟩, Or.inr ⟨by simp [hf], by simp [hg]⟩⟩, hnew⟩
  intro b standing hb
  change g.standing d b = some standing at hb
  change f.standing d (ρ.binding b) = some standing
  rw [Fabric.standing_push hg, if_pos hname'] at hb
  split at hb
  · rename_i hself
    rw [← hstanding] at hb
    rw [hself, hnew, ← hname, Fabric.standing_push_self hf, hb]
  · apply Fabric.standing_push_of_some hf
    apply h.standing hb

/-- Dealings that nothing changes are kept. -/
theorem Dealings.Mirrors.keep (h : (dealingsWith d v).Mirrors ρ (dealingsWith d w)) :
  Dealings.Keep ρ d v v w w
  := ⟨h, .refl _ _, .refl _ _⟩

namespace PlannedCall

variable (plan : Plan)

/-- A bind that the in-memory binder carries out goes alike on both sides. -/
theorem keep_attaching (h : (dealingsWith d v).Mirrors ρ (dealingsWith d w)) {call : MemoryCall}
    (hcall : call.destination = d) (after : Nat)
    (hmeets : ρ.Meets v (step plan v (attaching (call.rename ρ) after)).1 w) :
  let x := step plan v (attaching (call.rename ρ) after)
  let y := step plan w (attaching call after)
  Dealings.Keep ρ d v x.1 w y.1 ∧ x.2 = y.2.map (rename ρ) (Except.map ρ.binding)
  := by
  cases call with
  | opening request =>
    obtain rfl : request.destination = d := hcall
    simp only [step, MemoryCall.step, MemoryCall.rename, BindRequest.destination_rename] at hmeets ⊢
    split
    · exact ⟨h.keep, rfl⟩
    · rename_i hblank
      rw [if_neg hblank] at hmeets
      obtain ⟨hkeep, ht⟩ := MemoryBinder.keep_openTransport h hmeets.channel
      refine ⟨hkeep, ?_⟩
      simp only [step.wrap, Progress.map, rename, MemoryCall.rename, ht]
  | attaching request t =>
    obtain rfl : request.destination = d := hcall
    obtain ⟨c, hf, hf', hb⟩ :=
      MemoryBinder.attach_adds v.1 (ρ.channel t) (request.rename ρ)
    obtain ⟨c', hg, hg', hb'⟩ := MemoryBinder.attach_adds w.1 t request
    obtain ⟨hkeep, hnew⟩ := h.keep_push hf hg (request.destination_rename ρ) rfl rfl hf' hg' hmeets
    simp only [step, MemoryCall.step, MemoryCall.rename, step.wrap]
    refine ⟨hkeep, ?_⟩
    rw [hb, hb', ← hnew]
    rfl

/-- Every bind of the destination goes alike on both sides. -/
theorem keep_step (h : (dealingsWith d v).Mirrors ρ (dealingsWith d w)) {call : PlannedCall}
    (hcall : call.IsFor w.1 d) (hmeets : ρ.Meets v (step plan v (call.rename ρ)).1 w) :
  let x := step plan v (call.rename ρ)
  let y := step plan w call
  Dealings.Keep ρ d v x.1 w y.1 ∧ x.2 = y.2.map (rename ρ) (Except.map ρ.binding)
  := by
  match call with
  | asking request =>
    obtain rfl : request.destination = d := hcall
    have hasked : v.2.askedFor request.destination
      = (w.2.askedFor request.destination).map (BindRequest.rename ρ) := h.asked
    refine ⟨⟨⟨h.transport, ?_, h.standing⟩, .refl _ _, .refl _ _⟩, ?_⟩
    · simp only [PlannedBinder.askedFor] at hasked
      simp [dealingsWith, step, rename, PlannedBinder.askedFor, List.filter_append, hasked]
    · simp only [step, rename, BindRequest.destination_rename, hasked, List.length_map, Progress.map]
  | pausing request bout (left + 1) => exact ⟨h.keep, rfl⟩
  | pausing request bout 0 =>
    obtain rfl : request.destination = d := hcall
    simp only [step, rename] at hmeets ⊢
    split
    · exact ⟨h.keep, rfl⟩
    · rename_i e hruling
      rw [hruling] at hmeets
      have hpush (request : BindRequest) (f : Fabric) :
          (f.addBinding ⟨request.destination, request.role, none, .stuck e, true⟩).1.bindings
            = f.bindings.push ⟨request.destination, request.role, none, .stuck e, true⟩ := rfl
      obtain ⟨hkeep, hnew⟩ := h.keep_push (hpush (request.rename ρ) v.1) (hpush request w.1)
        (request.destination_rename ρ) rfl rfl rfl rfl hmeets
      refine ⟨hkeep, ?_⟩
      simp only [Progress.map, rename, hnew, Fabric.addBinding]
    · exact ⟨h.keep, rfl⟩
  | attaching call after =>
    apply keep_attaching plan h hcall after hmeets
  | lingering b (left + 1) => exact ⟨h.keep, rfl⟩
  | lingering b 0 => exact ⟨h.keep, rfl⟩

end PlannedCall

end

end ChannelBinding
