import ChannelBinding.Proofs.Representation

/-!
# A binder that refuses

A binder that may refuse whatever it is asked for, and is an in-memory binder otherwise.  What it
refuses may depend on all that it was asked for before, so that it may refuse any requests at all, and
the same request at one time and not at another.
-/

namespace ChannelBinding

/-- An in-memory binder with the requests that it was asked for. -/
structure RefusingBinder where
  inner : MemoryBinder := {}
  asked : List BindRequest := []

/-- Where a bind of a binder that may refuse stands. -/
inductive RefusingCall where
  | asking (request : BindRequest)
  /-- The request was not refused. -/
  | attaching (call : MemoryCall)

/-- What is refused, by the requests that came before. -/
abbrev Refusals := List BindRequest → BindRequest → Option BinderError

namespace RefusingCall

/-- One step of a bind. -/
def step (refuses : Refusals) (v : Fabric × RefusingBinder) :
    RefusingCall → (Fabric × RefusingBinder) × Progress RefusingCall BindAnswer
  | asking request =>
    let v' := (v.1, { v.2 with asked := v.2.asked ++ [request] })
    match refuses v.2.asked request with
    | some e => (v', .ended (.error e))
    | none => (v', .running (attaching (.opening request)))
  | attaching call =>
    let (f, inner, p) := call.step v.1 v.2.inner
    ((f, { v.2 with inner }), wrap p)
where
  /-- The progress of the bind of the in-memory binder. -/
  wrap : Progress MemoryCall BindAnswer → Progress RefusingCall BindAnswer
    | .running call => .running (attaching call)
    | .waiting call pause => .waiting (attaching call) pause
    | .ended answer => .ended answer

/-- The number of steps to the end. -/
def rank : RefusingCall → Nat
  | asking _ => 2
  | attaching call => call.rank

variable {refuses : Refusals}

theorem rank_lt_of_step {v v' : Fabric × RefusingBinder} {call call' : RefusingCall}
    (h : step refuses v call = (v', .running call')) :
  call'.rank < call.rank
  := by
  cases call with
  | asking request =>
    simp only [step] at h
    split at h
    · simp at h
    · simp only [Prod.mk.injEq, Progress.running.injEq] at h
      rw [← h.2]
      exact (by decide : 1 < 2)
  | attaching call =>
    obtain ⟨f, inner, p, hstep⟩ : ∃ f inner p, call.step v.1 v.2.inner = (f, inner, p) :=
      ⟨_, _, _, rfl⟩
    simp only [step, hstep] at h
    cases p with
    | running next =>
      simp only [step.wrap, Prod.mk.injEq, Progress.running.injEq] at h
      rw [← h.2]
      apply MemoryCall.rank_lt_of_step hstep
    | waiting next pause => simp [step.wrap] at h
    | ended answer => simp [step.wrap] at h

end RefusingCall

namespace RefusingBinder

/-- The bind calls of a binder that may refuse, as a process on the fabric and the binder. -/
def process (refuses : Refusals) : Process (Fabric × RefusingBinder) RefusingCall BindAnswer where
  step := RefusingCall.step refuses
  nearer := InvImage (· < ·) RefusingCall.rank
  wellFounded := (measure RefusingCall.rank).wf
  nearer_of_step := RefusingCall.rank_lt_of_step

/-- A binder that may refuse as the only binder of a system. -/
def behaviour (refuses : Refusals) : Binders Unit RefusingBinder RefusingCall where
  extendedConsumer _ _ _ := {}
  extendedProducer _ _ _ := {}
  bindConsumer _ destination group input properties :=
    .asking (.consumer destination group input properties)
  bindProducer _ destination output properties :=
    .asking (.producer destination output properties)
  process := process refuses

/-- A set-up whose only binder is one that may refuse. -/
def setup (refuses : Refusals) (settings : Settings) (factory : Factory Unit)
    (callback : Option Callback) : Setup Unit RefusingBinder RefusingCall :=
  { settings, factory, binders := behaviour refuses, callback }

variable (refuses : Refusals)

/-- A binder that may refuse keeps all channels. -/
theorem keepsChannels :
  (behaviour refuses).KeepsChannels
  := by
  rintro ⟨f, m⟩ call
  cases call with
  | asking request =>
    simp only [behaviour, process, RefusingCall.step]
    split <;> apply Nat.le_refl
  | attaching call => apply MemoryBinder.keepsChannels (f, m.inner) call

end RefusingBinder

/-! ## What is there -/

/-- Transport channels are there, and so are the handlers that are subscribed or have a label. -/
structure Grounded (f : Fabric) (m : MemoryBinder) : Prop where
  transport_lt : ∀ {d t}, m.transports.get? d = some t → t.index < f.channels.size
  subscriber_lt : ∀ {c h}, h ∈ f.subscribers c → h.index < f.handlers.size
  labelled_lt : ∀ {label h}, f.labels.handlers.get? label = some h → h.index < f.handlers.size

theorem grounded_empty :
  Grounded {} {}
  := by
  constructor <;> simp [Fabric.subscribers, Fabric.channel?]

namespace Grounded

variable {f f' : Fabric} {m : MemoryBinder}

/-- What is there stays there as long as nothing is taken away, and what is new is there. -/
theorem extend (hg : Grounded f m) (hchannels : f.channels.size ≤ f'.channels.size)
    (hhandlers : f.handlers.size ≤ f'.handlers.size)
    (hsubscribers : ∀ {c h}, h ∈ f'.subscribers c →
      h ∈ f.subscribers c ∨ h.index < f'.handlers.size)
    (hlabels : f'.labels.handlers = f.labels.handlers) :
  Grounded f' m
  := by
  constructor
  · intro d t ht
    apply Nat.lt_of_lt_of_le (hg.transport_lt ht) hchannels
  · intro c h hh
    rcases hsubscribers hh with hold | hlt
    · apply Nat.lt_of_lt_of_le (hg.subscriber_lt hold) hhandlers
    · apply hlt
  · intro label h hlabel
    rw [hlabels] at hlabel
    apply Nat.lt_of_lt_of_le (hg.labelled_lt hlabel) hhandlers

theorem emit (hg : Grounded f m) (e : Event) :
  Grounded (f.emit e) m
  := ⟨hg.transport_lt, hg.subscriber_lt, hg.labelled_lt⟩

theorem addChannel (hg : Grounded f m) (name : String) (contentType : Option String) :
  Grounded (f.addChannel { name, contentType }).1 m
  := by
  apply hg.extend
  · simp [Fabric.addChannel]
  · apply Nat.le_refl
  · intro c h hh
    rw [Fabric.subscribers_addChannel] at hh
    apply Or.inl hh
  · rfl

theorem addHandler (hg : Grounded f m) (handler : Handler) :
  Grounded (f.addHandler handler).1 m
  := by
  apply hg.extend
  · apply Nat.le_refl
  · simp [Fabric.addHandler]
  · intro c h hh
    apply Or.inl hh
  · rfl

/-- A handler that is there may subscribe anywhere. -/
theorem subscribe (hg : Grounded f m) {h : HandlerId} (hlt : h.index < f.handlers.size)
    (c : ChannelId) :
  Grounded (f.subscribe c h).1 m
  := by
  obtain ⟨hextends, hlabels⟩ := f.extends_subscribe c h
  apply hg.extend hextends.channels hextends.handlers
  · intro d h' hh
    rcases Fabric.of_mem_subscribers_subscribe hh with hold | ⟨-, rfl⟩
    · apply Or.inl hold
    · apply Or.inr (Nat.lt_of_lt_of_le hlt hextends.handlers)
  · rw [hlabels]

theorem unsubscribe (hg : Grounded f m) (c : ChannelId) (h : HandlerId) :
  Grounded (f.unsubscribe c h).1 m
  := by
  obtain ⟨hextends, hlabels⟩ := f.extends_unsubscribe c h
  apply hg.extend hextends.channels hextends.handlers
  · intro d h' hh
    rw [Fabric.subscribers_unsubscribe] at hh
    split at hh
    · apply Or.inl (List.mem_of_mem_erase hh)
    · apply Or.inl hh
  · rw [hlabels]

theorem sendsKeep (m : MemoryBinder) :
  Fabric.SendsKeep fun f => Grounded f m
  := by
  constructor
  · intro f e _ hg
    apply hg.emit
  · intro f c channel turn hc hg
    apply hg.extend
    · simp
    · apply Nat.le_refl
    · intro d h hh
      rw [Fabric.subscribers_setTurn turn hc] at hh
      apply Or.inl hh
    · rfl
  · intro f h handler handler' _ _ hg
    apply hg.extend
    · apply Nat.le_refl
    · simp [Fabric.setHandler]
    · intro c h' hh
      apply Or.inl hh
    · rfl
  · intro f c label h hlabel hg
    apply hg.subscribe (hg.labelled_lt hlabel)
  · intro f c label h hlabel hg
    apply hg.unsubscribe

/-- Whatever the application does, what is there stays there. -/
theorem act (hg : Grounded f m) (a : Act) :
  Grounded (f.act a) m
  := by
  cases a with
  | newChannel name contentType => apply hg.addChannel
  | newHandler label handler =>
    have hadd := hg.addHandler handler
    refine ⟨hadd.transport_lt, hadd.subscriber_lt, ?_⟩
    intro label' h hlabel
    simp only [Fabric.act, Table.get?_insert] at hlabel
    split at hlabel
    · cases hlabel
      simp [Fabric.act, Fabric.addHandler]
    · apply hadd.labelled_lt hlabel
  | nameChannel label c => exact ⟨hg.transport_lt, hg.subscriber_lt, hg.labelled_lt⟩
  | subscribe c label =>
    simp only [Fabric.act]
    split
    · apply hg
    · rename_i h hlabel
      apply hg.subscribe (hg.labelled_lt hlabel)
  | unsubscribe c label =>
    simp only [Fabric.act]
    split
    · apply hg
    · apply hg.unsubscribe
  | send c message =>
    simp only [Fabric.act]
    split
    · apply hg
    · rename_i hdeliver
      apply (sendsKeep m).deliver hdeliver hg
  | wait time => exact ⟨hg.transport_lt, hg.subscriber_lt, hg.labelled_lt⟩

/-- A transport channel that is opened is there. -/
theorem openTransport (hg : Grounded f m) (d : String) :
  Grounded (m.openTransport f d).1 (m.openTransport f d).2.1
  := by
  unfold MemoryBinder.openTransport
  split
  · apply hg.emit
  · have hadd := (hg.addChannel d none).emit (.transportCreated d)
    refine ⟨?_, hadd.subscriber_lt, hadd.labelled_lt⟩
    intro d' t ht
    rw [Table.get?_insert] at ht
    split at ht
    · cases ht
      simp [Fabric.addChannel]
    · apply hadd.transport_lt ht

theorem attach (hg : Grounded f m) (t : ChannelId) (request : BindRequest) :
  Grounded (MemoryBinder.attach f t request).1 m
  := by
  obtain ⟨e, he⟩ := MemoryBinder.attach_eq f t request
  have hlt : f.handlers.size
      < (f.addHandler (.forwarding (request.target t))).1.handlers.size := by
    simp [Fabric.addHandler]
  have hsubscribed := ((hg.addHandler (.forwarding (request.target t))).subscribe hlt
    (request.source t)).emit e
  rw [he]
  exact ⟨hsubscribed.transport_lt, hsubscribed.subscriber_lt, hsubscribed.labelled_lt⟩

theorem setBinding (hg : Grounded f m) (b : BindingId) (binding : Binding) :
  Grounded (f.setBinding b binding) m
  := ⟨hg.transport_lt, hg.subscriber_lt, hg.labelled_lt⟩

theorem detach (hg : Grounded f m) (b : BindingId) :
  Grounded (Unbinding.step f (.detaching b)).1 m
  := by
  simp only [Unbinding.step]
  split
  · apply (hg.unsubscribe _ _).emit
  · apply hg

/-- Whatever happens, what is there stays there. -/
theorem retains (refuses : Refusals) :
  World.Retains (RefusingBinder.behaviour refuses) fun v => Grounded v.1 v.2.inner
  := by
  constructor
  · intro f m a hg
    apply hg.act
  · rintro v x v' x' hg hchange
    cases hchange with
    | emit f t k e => apply hg.emit
    | addChannel f t k name contentType => apply hg.addChannel
    | begin f t binder request h => apply hg
    | attach v call =>
      cases call with
      | asking request =>
        simp only [RefusingBinder.behaviour, RefusingBinder.process, RefusingCall.step]
        split <;> apply hg
      | attaching call =>
        cases call with
        | opening request =>
          simp only [RefusingBinder.behaviour, RefusingBinder.process, RefusingCall.step,
            MemoryCall.step]
          split
          · apply hg
          · apply hg.openTransport
        | attaching request t => apply hg.attach
    | mark f t b binding h hbound => apply hg.setBinding
    | detach f t b => apply hg.detach

/-- In every world that can be reached what is referred to is there. -/
theorem run (refuses : Refusals) (settings : Settings) (factory : Factory Unit)
    (callback : Option Callback) (moves : List (Move Unit)) :
  let w := (World.fresh {} {}).run (RefusingBinder.setup refuses settings factory callback) moves
  Grounded w.system.fabric w.system.binders.inner
  := by
  have hretains : World.Retains (RefusingBinder.setup refuses settings factory callback).binders
      fun v => Grounded v.1 v.2.inner := retains refuses
  have hfresh := World.hasChannels_fresh (ι := Unit) (β := RefusingCall) {} ({} : RefusingBinder)
  exact hretains.run (RefusingBinder.keepsChannels refuses) hfresh grounded_empty moves

end Grounded

end ChannelBinding
