import ChannelBinding.Proofs.Sending
import ChannelBinding.Proofs.World.Basic
import Mathlib.Logic.Relation

/-!
# Changes of the fabric

A change is one thing that a call does to the fabric and to the binders.  The task of a call is what
it is in the middle of there: a bind call of a binder, or a binding that is marked as unbound and not
yet detached.  Every move is an act of the application or a chain of changes.  A call in the middle of
a bind takes one step of the bind call first; everything else it does while binders stand still.
-/

namespace ChannelBinding

variable {ι τ β : Type}

/-! ## Tasks -/

/-- What a call is in the middle of. -/
inductive Task (β : Type) where
  | idle
  /-- A bind call of a binder. -/
  | attaching (call : β)
  /-- A binding is marked as unbound, and its handler still to be unsubscribed. -/
  | detaching (b : BindingId)

/-- The task of the release of one binding. -/
def Unbinding.task : Unbinding → Task β
  | requested _ => .idle
  | detaching b => .detaching b

/-- The task of a withdrawal. -/
def Withdrawal.task (w : Withdrawal) : Task β :=
  match w.current with
  | none => .idle
  | some r => r.current.task

namespace Call

/-- The task of a call. -/
def task : Call ι β → Task β
  | resolving ⟨_, .binding _ _ _ bind⟩ => .attaching bind.call
  | producing bind => .attaching bind.call
  | consuming (.binding _ _ call _ _) => .attaching call
  | consuming (.rollingBack release _) => release.current.task
  | attaching call => .attaching call
  | unbinding u => u.task
  | releasing w => w.task
  | draining w => w.task
  | stopping (.releasing _ (some w) _) => w.task
  | _ => .idle

/-- The channels that a call has still to hand to a binder, or to keep after that. -/
def channels : Call ι β → List ChannelId
  | resolving r => r.channel?.toList
  | consuming (.binding request ..) => [request.input]
  | _ => []

end Call

/-- The task of what a process does next. -/
def Progress.task (task : ρ → Task β) : Progress ρ α → Task β
  | running r => task r
  | waiting r _ => task r
  | ended _ => .idle

/-! ## Changes -/

/-- The bind call of a request. -/
def Binders.bind (binders : Binders ι τ β) (binder : ι) : BindRequest → β
  | .consumer destination group input properties =>
    binders.bindConsumer binder destination group input properties
  | .producer destination output properties =>
    binders.bindProducer binder destination output properties

/-- `Change binders (view, task) (view', task')`: one thing that a call does to the fabric and to the
state of the binders. -/
inductive Change (binders : Binders ι τ β) :
    (Fabric × τ) × Task β → (Fabric × τ) × Task β → Prop where
  | emit (f : Fabric) (t : τ) (k : Task β) (e : Event) :
    Change binders ((f, t), k) ((f.emit e, t), k)
  /-- A channel that nobody has subscribed to is added. -/
  | addChannel (f : Fabric) (t : τ) (k : Task β) (name : String) (contentType : Option String) :
    Change binders ((f, t), k) (((f.addChannel { name, contentType }).1, t), k)
  | begin (f : Fabric) (t : τ) (binder : ι) (request : BindRequest)
      (h : request.channel.index < f.channels.size) :
    Change binders ((f, t), .idle) ((f, t), .attaching (binders.bind binder request))
  | attach (v : Fabric × τ) (call : β) :
    Change binders (v, .attaching call)
      ((binders.process.step v call).1, (binders.process.step v call).2.task .attaching)
  | mark (f : Fabric) (t : τ) (b : BindingId) (binding : Binding)
      (h : f.binding? b = some binding) (hbound : binding.bound = true) :
    Change binders ((f, t), .idle) ((f.setBinding b { binding with bound := false }, t), .detaching b)
  | detach (f : Fabric) (t : τ) (b : BindingId) :
    Change binders ((f, t), .detaching b) (((Unbinding.step f (.detaching b)).1, t), .idle)

/-- Some changes, one after the other. -/
abbrev Changes (binders : Binders ι τ β) := Relation.ReflTransGen (Change binders)

variable {setup : Setup ι τ β}

/-- The binders keep all channels. -/
def Binders.KeepsChannels (binders : Binders ι τ β) : Prop :=
  ∀ v call, v.1.channels.size ≤ (binders.process.step v call).1.1.channels.size

/-- The release of a binding keeps all channels. -/
theorem Unbinding.size_step (f : Fabric) (u : Unbinding) :
  (step f u).1.channels.size = f.channels.size
  := by
  unfold step
  repeat' split
  all_goals simp

/-- No change takes a channel away. -/
theorem Changes.size_le {binders : Binders ι τ β} (hkeep : binders.KeepsChannels)
    {x y : (Fabric × τ) × Task β} (h : Changes binders x y) :
  x.1.1.channels.size ≤ y.1.1.channels.size
  := by
  induction h with
  | refl => apply Nat.le_refl
  | tail _ hstep ih =>
    apply Nat.le_trans ih
    cases hstep with
    | emit => apply Nat.le_refl
    | addChannel => simp [Fabric.addChannel]
    | begin => apply Nat.le_refl
    | attach v call => apply hkeep v call
    | mark => apply Nat.le_refl
    | detach f t b =>
      apply Nat.le_of_eq
      rw [Unbinding.size_step]

theorem System.changes_emit {binders : Binders ι τ β} (s : System τ) (e : Event) (k : Task β) :
  Changes binders (s.bindersView, k) ((s.emit e).bindersView, k)
  := .single (.emit _ _ _ _)

/-! ## Binders that stand still -/

/-- The same binders, but their bind calls do nothing. -/
def Binders.still (binders : Binders ι τ β) : Binders ι τ β :=
  { binders with
    process := {
      step := fun v call => (v, .waiting call .turn)
      nearer := fun _ _ => False
      wellFounded := ⟨fun _ => ⟨_, fun _ h => h.elim⟩⟩
      nearer_of_step := by simp } }

/-- The set-up with binders that stand still. -/
def Setup.still (setup : Setup ι τ β) : Setup ι τ β := { setup with binders := setup.binders.still }

theorem Setup.keepsChannels_still (setup : Setup ι τ β) :
  setup.still.binders.KeepsChannels
  := fun _ _ => Nat.le_refl _

theorem Binders.bind_still (binders : Binders ι τ β) (binder : ι) (request : BindRequest) :
  binders.still.bind binder request = binders.bind binder request
  := by
  cases request <;> rfl

/-- What changes while binders stand still may change anyway. -/
theorem Change.of_still {binders : Binders ι τ β} {x y : (Fabric × τ) × Task β}
    (h : Change binders.still x y) :
  y = x ∨ Change binders x y
  := by
  cases h with
  | emit f t k e => exact Or.inr (.emit f t k e)
  | addChannel f t k name contentType => exact Or.inr (.addChannel f t k name contentType)
  | begin f t binder request h =>
    rw [binders.bind_still]
    exact Or.inr (.begin f t binder request h)
  | attach v call => exact Or.inl rfl
  | mark f t b binding h hbound => exact Or.inr (.mark f t b binding h hbound)
  | detach f t b => exact Or.inr (.detach f t b)

theorem Changes.of_still {binders : Binders ι τ β} {x y : (Fabric × τ) × Task β}
    (h : Changes binders.still x y) :
  Changes binders x y
  := by
  induction h with
  | refl => apply Relation.ReflTransGen.refl
  | tail _ hstep ih =>
    rcases hstep.of_still with rfl | hstep
    · apply ih
    · apply ih.tail hstep

/-! ## Releases -/

/-- The detachment of a binding ends its release. -/
theorem Unbinding.ended_of_detaching (f : Fabric) (b : BindingId) :
  (step f (.detaching b)).2 = .ended (.ok ())
  := by
  simp only [step]
  split
  · rfl
  · rfl

theorem Unbinding.changes_step (binders : Binders ι τ β) (f : Fabric) (t : τ) (u : Unbinding) :
  Changes binders ((f, t), u.task) (((step f u).1, t), (step f u).2.task task)
  := by
  cases u with
  | requested b =>
    simp only [step]
    cases hb : f.binding? b with
    | none => apply Relation.ReflTransGen.refl
    | some binding =>
      dsimp only
      split
      · apply Relation.ReflTransGen.refl
      · split
        · rename_i hbound
          apply Relation.ReflTransGen.single (.mark _ _ _ _ hb hbound)
        · apply Relation.ReflTransGen.single (.emit _ _ _ _)
  | detaching b =>
    rw [ended_of_detaching]
    apply Relation.ReflTransGen.single (.detach _ _ _)

/-- The task of a release that begins. -/
theorem Release.task_begin (name : String) (failure : Option BinderError) (bs : List BindingId) :
  (begin name failure bs).task (fun r => (r.current.task : Task β)) = .idle
  := by
  cases bs with
  | nil => rfl
  | cons b rest => rfl

theorem Release.changes_report (binders : Binders ι τ β) (f : Fabric) (t : τ) (name : String)
    (b : BindingId) (failure : Option BinderError) (k : Task β) :
  Changes binders ((f, t), k) ((report f name b failure, t), k)
  := by
  unfold report
  split
  · apply Relation.ReflTransGen.refl
  · apply Relation.ReflTransGen.single (.emit _ _ _ _)
  · apply Relation.ReflTransGen.single (.emit _ _ _ _)

theorem Release.changes_step (binders : Binders ι τ β) (f : Fabric) (t : τ) (r : Release) :
  Changes binders ((f, t), r.current.task)
    (((step f r).1, t), (step f r).2.task fun r => r.current.task)
  := by
  have hunbind := Unbinding.changes_step binders f t r.current
  obtain ⟨f', p, hp⟩ : ∃ f' p, Unbinding.step f r.current = (f', p) := ⟨_, _, rfl⟩
  rw [hp] at hunbind
  cases p with
  | running u =>
    simp only [step, hp]
    apply hunbind
  | waiting u pause => exact absurd hp Unbinding.step_ne_waiting
  | ended result =>
    simp only [step, hp]
    rw [task_begin]
    apply hunbind.trans
    apply changes_report

theorem Withdrawal.task_proceed (w : Withdrawal) (name : String)
    (p : Progress Release (Option BinderError)) :
  (w.proceed name p).task = (p.task fun r => (r.current.task : Task β))
  := by
  cases p with
  | running r => rfl
  | waiting r pause => rfl
  | ended failure => cases failure <;> rfl

theorem Withdrawal.changes_step (binders : Binders ι τ β) (s : System τ) (w : Withdrawal) :
  Changes binders (s.bindersView, w.task) ((step s w).1.bindersView, (step s w).2.task task)
  := by
  obtain ⟨role, names, current, failures⟩ := w
  cases current with
  | none =>
    cases names with
    | nil => apply Relation.ReflTransGen.refl
    | cons name names =>
      obtain ⟨ledger, taken, htake⟩ : ∃ ledger taken, s.ledger.take role name = (ledger, taken) :=
        ⟨_, _, rfl⟩
      cases taken with
      | some bs =>
        simp only [step, htake, Progress.task]
        rw [task_proceed, Release.task_begin]
        apply Relation.ReflTransGen.refl
      | none =>
        simp only [step, htake]
        apply s.changes_emit
  | some r =>
    have hrelease := Release.changes_step binders s.fabric s.binders r
    obtain ⟨f, p, hp⟩ : ∃ f p, Release.step s.fabric r = (f, p) := ⟨_, _, rfl⟩
    rw [hp] at hrelease
    simp only [step, hp, Progress.task]
    rw [task_proceed]
    apply hrelease

theorem Shutdown.changes_conclude (binders : Binders ι τ β) (s : System τ)
    (failures : List UnbindFailure) :
  Changes binders (s.bindersView, .idle) ((conclude s failures).bindersView, .idle)
  := by
  unfold conclude
  apply Relation.ReflTransGen.trans _ (System.changes_emit _ _ _)
  induction failures generalizing s with
  | nil => apply Relation.ReflTransGen.refl
  | cons failure failures ih =>
    apply (s.changes_emit _ _).trans
    apply ih

theorem Bindable.bindersView_claimNames (s : System τ) (role : Role) (bindable : Bindable) :
  (bindable.claimNames s role).1.bindersView = s.bindersView
  := by
  cases role <;> cases bindable <;> rfl

theorem Shutdown.changes_step (binders : Binders ι τ β) (s : System τ) (x : Shutdown) :
  Changes binders (s.bindersView, (Call.stopping (ι := ι) x).task)
    ((step s x).1.bindersView, (step s x).2.task fun x => (Call.stopping (ι := ι) x).task)
  := by
  match x with
  | requested =>
    simp only [step]
    split
    · apply Relation.ReflTransGen.refl
    · apply Relation.ReflTransGen.refl
  | listing => apply s.changes_emit
  | releasing [] none failures => apply changes_conclude
  | releasing ((role, bindable) :: rest) none failures =>
    simp only [step]
    rw [Bindable.bindersView_claimNames]
    apply Relation.ReflTransGen.refl
  | releasing rest (some w) failures =>
    have hw := Withdrawal.changes_step binders s w
    obtain ⟨s', p, hp⟩ : ∃ s' p, Withdrawal.step s w = (s', p) := ⟨_, _, rfl⟩
    rw [hp] at hw
    simp only [step, hp]
    cases p with
    | running w' => apply hw
    | waiting w' pause => apply hw
    | ended more => apply hw

/-! ## Binds -/

/-- A step of a bind call is a change. -/
theorem Setup.changes_bindProcess (setup : Setup ι τ β) (s : System τ) (call : β) :
  Changes setup.binders (s.bindersView, .attaching call)
    ((setup.bindProcess.step s call).1.bindersView,
      (setup.bindProcess.step s call).2.task .attaching)
  := .single (.attach _ _)

/-- A bind that was prepared asks a binder for the channel that it was prepared with. -/
theorem ProducerBind.call_of_prepare {binders : τ} {name : String} {output : ChannelId}
    {properties : ProducerProperties} {bind : ProducerBind β}
    (h : prepare setup binders name output properties = .ok bind) :
  ∃ binder request, request.channel = output ∧ bind.call = setup.binders.bind binder request
  := by
  unfold prepare at h
  cases hb : setup.binderFor name with
  | error e => simp [hb, Bind.bind, Except.bind] at h
  | ok binder =>
    simp only [hb, Bind.bind, Except.bind] at h
    split at h
    · cases h
    · cases h
      exact ⟨binder, .producer _ output _, rfl, rfl⟩

theorem ProducerBind.changes_begin (setup : Setup ι τ β) (s : System τ) (name : String)
    (output : ChannelId) (properties : ProducerProperties)
    (houtput : output.index < s.fabric.channels.size) :
  Changes setup.binders (s.bindersView, .idle)
    ((begin setup s name output properties).1.bindersView,
      (begin setup s name output properties).2.task fun bind => .attaching bind.call)
  := by
  unfold begin
  cases h : prepare setup s.binders name output properties with
  | error e => apply Relation.ReflTransGen.refl
  | ok bind =>
    obtain ⟨binder, request, hchannel, hcall⟩ := call_of_prepare h
    simp only [Progress.task, hcall]
    apply (s.changes_emit _ _).trans
    apply Relation.ReflTransGen.single
    apply Change.begin
    rw [hchannel]
    apply houtput

/-- What a producer bind does after a step of its bind call. -/
theorem ProducerBind.changes_rest (binders : Binders ι τ β) (setup : Setup ι τ β) (s : System τ)
    (bind : ProducerBind β) :
  Changes binders
    ((setup.bindProcess.step s bind.call).1.bindersView,
      (setup.bindProcess.step s bind.call).2.task .attaching)
    ((step setup s bind).1.bindersView,
      (step setup s bind).2.task fun bind => .attaching bind.call)
  := by
  obtain ⟨s', p, hp⟩ : ∃ s' p, setup.bindProcess.step s bind.call = (s', p) := ⟨_, _, rfl⟩
  simp only [step, hp]
  cases p with
  | running call => apply Relation.ReflTransGen.refl
  | waiting call pause => apply Relation.ReflTransGen.refl
  | ended answer =>
    cases answer with
    | ok b => apply System.changes_emit
    | error e => apply System.changes_emit

theorem ProducerBind.changes_step (setup : Setup ι τ β) (s : System τ) (bind : ProducerBind β) :
  Changes setup.binders (s.bindersView, .attaching bind.call)
    ((step setup s bind).1.bindersView,
      (step setup s bind).2.task fun bind => .attaching bind.call)
  := (setup.changes_bindProcess s bind.call).trans (changes_rest _ setup s bind)

/-- A consumer bind that was prepared asks binders for the channel that it was prepared with. -/
theorem ConsumerBind.input_of_prepare {binders : τ} {name : String} {input : ChannelId}
    {request : ConsumerRequest ι} {destinations : List String}
    (h : prepare setup binders name input = .ok (request, destinations)) :
  request.input = input
  := by
  unfold prepare at h
  cases hb : setup.binderFor name with
  | error e => simp [hb, Bind.bind, Except.bind] at h
  | ok binder =>
    simp only [hb, Bind.bind, Except.bind] at h
    split at h
    · cases h
    · split at h
      · cases h
      · cases h
        rfl

theorem ConsumerBind.changes_next (s : System τ) (request : ConsumerRequest ι)
    (created : List BindingId) (rest : List String)
    (hinput : request.input.index < s.fabric.channels.size) :
  Changes setup.binders (s.bindersView, .idle)
    ((next setup s request created rest).1.bindersView,
      (next setup s request created rest).2.task fun bind => (Call.consuming bind).task)
  := by
  cases rest with
  | nil => apply s.changes_emit
  | cons destination rest =>
    have hbegin : Change setup.binders _ _ := .begin s.fabric s.binders request.binder
      (.consumer destination request.group request.input request.properties) hinput
    apply Relation.ReflTransGen.head hbegin
    apply s.changes_emit

theorem ConsumerBind.changes_begin (setup : Setup ι τ β) (s : System τ) (name : String)
    (input : ChannelId) (hinput : input.index < s.fabric.channels.size) :
  Changes setup.binders (s.bindersView, .idle)
    ((begin setup s name input).1.bindersView,
      (begin setup s name input).2.task fun bind => (Call.consuming bind).task)
  := by
  unfold begin
  cases h : prepare setup s.binders name input with
  | error e => apply Relation.ReflTransGen.refl
  | ok prepared =>
    obtain ⟨request, destinations⟩ := prepared
    have hrequest := input_of_prepare h
    subst hrequest
    apply changes_next s _ _ _ hinput

theorem ConsumerBind.task_rollBack (e : BinderError) (p : Progress Release (Option BinderError)) :
  ((rollBack (ι := ι) (β := β) e p).task fun bind => (Call.consuming bind).task)
    = p.task fun r => r.current.task
  := by
  cases p <;> rfl

/-- What a consumer bind does after a step of its bind call. -/
theorem ConsumerBind.changes_rest (hkeep : setup.binders.KeepsChannels) (s : System τ)
    (request : ConsumerRequest ι) (destination : String) (call : β) (rest : List String)
    (created : List BindingId) (hinput : request.input.index < s.fabric.channels.size) :
  Changes setup.binders.still
    ((setup.bindProcess.step s call).1.bindersView,
      (setup.bindProcess.step s call).2.task .attaching)
    ((step setup s (.binding request destination call rest created)).1.bindersView,
      (step setup s (.binding request destination call rest created)).2.task
        fun bind => (Call.consuming bind).task)
  := by
  have hsize := (setup.changes_bindProcess s call).size_le hkeep
  obtain ⟨s', p, hp⟩ : ∃ s' p, setup.bindProcess.step s call = (s', p) := ⟨_, _, rfl⟩
  rw [hp] at hsize
  simp only [step, hp]
  cases p with
  | running call => apply Relation.ReflTransGen.refl
  | waiting call pause => apply Relation.ReflTransGen.refl
  | ended answer =>
    cases answer with
    | ok b =>
      have hinput' := Nat.lt_of_lt_of_le hinput hsize
      exact @changes_next _ _ _ setup.still s' request (created ++ [b]) rest hinput'
    | error e =>
      simp only [task_rollBack, Release.task_begin]
      apply System.changes_emit

theorem ConsumerBind.changes_step (hkeep : setup.binders.KeepsChannels) (s : System τ)
    (bind : ConsumerBind ι β)
    (hbind : ∀ c ∈ (Call.consuming bind).channels, c.index < s.fabric.channels.size) :
  Changes setup.binders (s.bindersView, (Call.consuming bind).task)
    ((step setup s bind).1.bindersView,
      (step setup s bind).2.task fun bind => (Call.consuming bind).task)
  := by
  cases bind with
  | binding request destination call rest created =>
    have hinput := hbind _ (List.mem_singleton.2 rfl)
    apply (setup.changes_bindProcess s call).trans
    apply (changes_rest hkeep s request destination call rest created hinput).of_still
  | rollingBack release e =>
    have hrelease := Release.changes_step setup.binders s.fabric s.binders release
    obtain ⟨f, p, hp⟩ : ∃ f p, Release.step s.fabric release = (f, p) := ⟨_, _, rfl⟩
    rw [hp] at hrelease
    simp only [step, hp, task_rollBack]
    apply hrelease

/-! ## Resolutions -/

/-- The announcement of a new destination adds a channel. -/
theorem Resolution.changes_announce (setup : Setup ι τ β) (s : System τ) (name : String)
    (k : Task β) :
  Changes setup.binders (s.bindersView, k) ((announce setup s name).1.bindersView, k)
    ∧ (announce setup s name).2.1.index < (announce setup s name).1.fabric.channels.size
  := by
  have hadd : Changes setup.binders (s.bindersView, k)
      (((s.fabric.addChannel (setup.newChannel name)).1, s.binders), k) :=
    .single (.addChannel _ _ _ _ _)
  have hsize : s.fabric.channels.size
      < (s.fabric.addChannel (setup.newChannel name)).1.channels.size := by
    simp [Fabric.addChannel]
  unfold announce
  cases setup.callback with
  | none => exact ⟨hadd, hsize⟩
  | some callback =>
    dsimp only
    split
    · exact ⟨hadd, hsize⟩
    · exact ⟨hadd.trans (.single (.emit _ _ _ _)), hsize⟩

theorem Resolution.changes_proceed {x : (Fabric × τ) × Task β} {binders : Binders ι τ β}
    (r : Resolution β) (cell : CellId) (t : Ticket) (c : ChannelId)
    (q : System τ × Progress (ProducerBind β) ProducerAnswer)
    (h : Changes binders x (q.1.bindersView, q.2.task fun bind => .attaching bind.call)) :
  Changes binders x ((r.proceed cell t c q).1.bindersView,
      (r.proceed cell t c q).2.task fun r => (Call.resolving (ι := ι) r).task)
  := by
  obtain ⟨s, p⟩ := q
  cases p with
  | running bind => apply h
  | waiting bind pause => apply h
  | ended answer =>
    cases answer with
    | ok b =>
      apply h.trans
      apply (System.changes_emit _ _ _).trans
      apply System.changes_emit
    | error e => apply h

/-- A resolution that binds goes on with the channel that it binds. -/
theorem Resolution.channels_proceed (r : Resolution β) (cell : CellId) (t : Ticket) (c : ChannelId)
    (q : System τ × Progress (ProducerBind β) ProducerAnswer) :
  ∀ c' ∈ (Call.after (ι := ι) .resolving (r.proceed cell t c q).2).channels, c' = c
  := by
  obtain ⟨s, p⟩ := q
  intro c' hc'
  cases p with
  | running bind => apply List.mem_singleton.1 hc'
  | waiting bind pause => apply List.mem_singleton.1 hc'
  | ended answer => cases answer <;> cases hc'

/-- A step of a resolution changes the fabric; the channel that it binds then is there. -/
theorem Resolution.changes_step (setup : Setup ι τ β)
    (hkeep : setup.binders.KeepsChannels) (s : System τ)
    (r : Resolution β)
    (hr : ∀ c ∈ (Call.resolving (ι := ι) r).channels, c.index < s.fabric.channels.size) :
  Changes setup.binders (s.bindersView, (Call.resolving (ι := ι) r).task)
      ((step setup s r).1.bindersView,
        (step setup s r).2.task fun r => (Call.resolving (ι := ι) r).task)
    ∧ ∀ c ∈ (Call.after (ι := ι) .resolving (step setup s r).2).channels,
        c.index < (step setup s r).1.fabric.channels.size
  := by
  obtain ⟨name, stage⟩ := r
  cases stage with
  | requested =>
    simp only [step]
    split
    · exact ⟨s.changes_emit _ _, List.forall_mem_nil _⟩
    · exact ⟨s.changes_emit _ _, List.forall_mem_nil _⟩
  | readingFixed =>
    simp only [step]
    split
    · exact ⟨s.changes_emit _ _, List.forall_mem_nil _⟩
    · split
      · exact ⟨.refl, List.forall_mem_nil _⟩
      · exact ⟨s.changes_emit _ _, List.forall_mem_nil _⟩
  | readingCache =>
    simp only [step]
    split
    · exact ⟨s.changes_emit _ _, List.forall_mem_nil _⟩
    · exact ⟨.refl, List.forall_mem_nil _⟩
  | entering => exact ⟨.refl, List.forall_mem_nil _⟩
  | claiming cell t =>
    simp only [step]
    split
    · exact ⟨.refl, List.forall_mem_nil _⟩
    · exact ⟨.refl, List.forall_mem_nil _⟩
    · rename_i cache hclaim
      obtain ⟨hannounce, hc⟩ := changes_announce setup { s with cache } name .idle
      obtain ⟨s₁, c, properties, hs₁⟩ :
          ∃ s₁ c properties, announce setup { s with cache } name = (s₁, c, properties) :=
        ⟨_, _, _, rfl⟩
      rw [hs₁] at hannounce hc
      simp only [hs₁]
      have hbegin := ProducerBind.changes_begin setup s₁ name c properties hc
      have hchanges := changes_proceed ⟨name, .claiming cell t⟩ cell t c _ (hannounce.trans hbegin)
      have hsize := (changes_proceed ⟨name, .claiming cell t⟩ cell t c _ hbegin).size_le hkeep
      constructor
      · apply hchanges
      · intro c' hc'
        rw [channels_proceed _ _ _ _ _ c' hc']
        apply Nat.lt_of_lt_of_le hc hsize
  | binding cell t channel bind =>
    have hbind := ProducerBind.changes_step setup s bind
    have hchanges := changes_proceed ⟨name, .binding cell t channel bind⟩ cell t channel _ hbind
    have hsize := hchanges.size_le hkeep
    constructor
    · apply hchanges
    · intro c hc
      simp only [step] at hc
      rw [channels_proceed _ _ _ _ _ c hc]
      apply Nat.lt_of_lt_of_le (hr channel (List.mem_singleton.2 rfl)) hsize
  | forgetting cell t e => exact ⟨System.changes_emit _ _ _, List.forall_mem_nil _⟩

/-! ## Calls -/

/-- The task of a call after a step. -/
theorem Call.task_after (call : ρ → Call ι β) (p : Progress ρ α) :
  (after call p).task = p.task fun r => (call r).task
  := by
  cases p <;> rfl

/-- A call that never refers to a channel does not refer to one after a step. -/
theorem Call.not_mem_channels_after (call : ρ → Call ι β) (hcall : ∀ r, (call r).channels = [])
    (p : Progress ρ α) (c : ChannelId) :
  c ∉ (after call p).channels
  := by
  cases p with
  | running r => simp [after, hcall]
  | waiting r pause => simp [after, hcall]
  | ended a => simp [after, channels]

/-- The changes of a process are those of a call that runs it and never refers to a channel. -/
theorem Call.changes_after {binders : Binders ι τ β} (call : ρ → Call ι β)
    (hcall : ∀ r, (call r).channels = []) {x : (Fabric × τ) × Task β} {s : System τ}
    {p : Progress ρ α} (h : Changes binders x (s.bindersView, p.task fun r => (call r).task)) :
  Changes binders x (s.bindersView, (after call p).task)
    ∧ ∀ c ∈ (after call p).channels, c.index < s.fabric.channels.size
  := by
  constructor
  · rw [task_after]
    apply h
  · intro c hc
    apply absurd hc (not_mem_channels_after call hcall p c)

/-- A consumer bind that goes on refers to the channel of its request. -/
theorem ConsumerBind.channels_next (s : System τ) (request : ConsumerRequest ι)
    (created : List BindingId) (rest : List String) :
  ∀ c ∈ (Call.after .consuming (next setup s request created rest).2).channels, c = request.input
  := by
  intro c hc
  cases rest with
  | nil => cases hc
  | cons destination rest => apply List.mem_singleton.1 hc

theorem ConsumerBind.channels_begin (s : System τ) (name : String) (input : ChannelId) :
  ∀ c ∈ (Call.after .consuming (begin setup s name input).2).channels, c = input
  := by
  unfold begin
  cases h : prepare setup s.binders name input with
  | error e => exact List.forall_mem_nil _
  | ok prepared =>
    obtain ⟨request, destinations⟩ := prepared
    have hrequest := input_of_prepare h
    subst hrequest
    apply channels_next

/-- A consumer bind refers to the same channel after a step, or to none. -/
theorem ConsumerBind.channels_step (s : System τ) (bind : ConsumerBind ι β) :
  ∀ c ∈ (Call.after .consuming (step setup s bind).2).channels, c ∈ (Call.consuming bind).channels
  := by
  intro c hc
  cases bind with
  | binding request destination call rest created =>
    obtain ⟨s', p, hp⟩ : ∃ s' p, setup.bindProcess.step s call = (s', p) := ⟨_, _, rfl⟩
    simp only [step, hp] at hc
    cases p with
    | running call => apply hc
    | waiting call pause => apply hc
    | ended answer =>
      cases answer with
      | ok b =>
        rw [channels_next _ _ _ _ c hc]
        apply List.mem_singleton.2 rfl
      | error e => cases created <;> cases hc
  | rollingBack release e =>
    obtain ⟨f, p, hp⟩ : ∃ f p, Release.step s.fabric release = (f, p) := ⟨_, _, rfl⟩
    simp only [step, hp] at hc
    cases p <;> cases hc

/-- Every step of a call is a chain of changes, after which the channels of the call are there. -/
theorem Call.changes_step (hkeep : setup.binders.KeepsChannels) (s : System τ) (call : Call ι β)
    (hcall : ∀ c ∈ call.channels, c.index < s.fabric.channels.size) :
  Changes setup.binders (s.bindersView, call.task)
      ((call.step setup s).1.bindersView, (call.step setup s).2.1.task)
    ∧ ∀ c ∈ (call.step setup s).2.1.channels, c.index < (call.step setup s).1.fabric.channels.size
  := by
  cases call with
  | resolving r =>
    obtain ⟨hchanges, hchannels⟩ := Resolution.changes_step setup hkeep s r hcall
    simp only [step, task_after]
    exact ⟨hchanges, hchannels⟩
  | producing bind =>
    apply changes_after producing (fun _ => rfl)
    apply ProducerBind.changes_step setup s bind
  | consuming bind =>
    have hchanges := ConsumerBind.changes_step hkeep s bind hcall
    simp only [step, task_after]
    constructor
    · apply hchanges
    · intro c hc
      apply Nat.lt_of_lt_of_le (hcall c (ConsumerBind.channels_step s bind c hc))
      apply hchanges.size_le hkeep
  | attaching call =>
    apply changes_after attaching (fun _ => rfl)
    apply setup.changes_bindProcess s call
  | unbinding u =>
    apply changes_after unbinding (fun _ => rfl)
    apply Unbinding.changes_step setup.binders s.fabric s.binders u
  | releasing w =>
    apply changes_after releasing (fun _ => rfl)
    apply Withdrawal.changes_step setup.binders s w
  | draining w =>
    apply changes_after draining (fun _ => rfl)
    apply Withdrawal.changes_step setup.binders s w
  | stopping x =>
    apply changes_after stopping (fun _ => rfl)
    apply Shutdown.changes_step (ι := ι) setup.binders s x
  | finished => exact ⟨.refl, List.forall_mem_nil _⟩

/-- No release is a bind. -/
theorem Unbinding.task_ne_attaching (u : Unbinding) (call : β) :
  u.task ≠ .attaching call
  := by
  cases u <;> rintro ⟨⟩

theorem Withdrawal.task_ne_attaching (w : Withdrawal) (call : β) :
  w.task ≠ .attaching call
  := by
  obtain ⟨role, names, current, failures⟩ := w
  cases current with
  | none => rintro ⟨⟩
  | some r => apply r.current.task_ne_attaching

/-- A call that is not in the middle of a bind does not notice whether binders stand still. -/
theorem Call.step_still (s : System τ) {call : Call ι β} (h : ∀ c, call.task ≠ .attaching c) :
  call.step setup.still s = call.step setup s
  := by
  cases call with
  | resolving r =>
    obtain ⟨name, stage⟩ := r
    cases stage with
    | binding cell t channel bind => apply absurd rfl (h bind.call)
    | _ => rfl
  | producing bind => apply absurd rfl (h bind.call)
  | consuming bind =>
    cases bind with
    | binding request destination call rest created => apply absurd rfl (h call)
    | rollingBack release e => rfl
  | attaching call => apply absurd rfl (h call)
  | _ => rfl

/-- What a call does after a step of its bind call it does while binders stand still. -/
theorem Call.changes_rest (hkeep : setup.binders.KeepsChannels) (s : System τ) {call : Call ι β}
    {c : β} (h : call.task = .attaching c)
    (hcall : ∀ c ∈ call.channels, c.index < s.fabric.channels.size) :
  Changes setup.binders.still
    ((setup.bindProcess.step s c).1.bindersView, (setup.bindProcess.step s c).2.task .attaching)
    ((call.step setup s).1.bindersView, (call.step setup s).2.1.task)
  := by
  cases call with
  | resolving r =>
    obtain ⟨name, stage⟩ := r
    cases stage with
    | binding cell t channel bind =>
      cases h
      simp only [step, task_after]
      apply Resolution.changes_proceed
      apply ProducerBind.changes_rest
    | _ => cases h
  | producing bind =>
    cases h
    simp only [step, task_after]
    apply ProducerBind.changes_rest
  | consuming bind =>
    cases bind with
    | binding request destination call rest created =>
      cases h
      simp only [step, task_after]
      apply ConsumerBind.changes_rest hkeep
      apply hcall _ (List.mem_singleton.2 rfl)
    | rollingBack release e => apply absurd h (release.current.task_ne_attaching c)
  | attaching call =>
    cases h
    simp only [step, task_after]
    apply Relation.ReflTransGen.refl
  | unbinding u => apply absurd h (u.task_ne_attaching c)
  | releasing w => apply absurd h (w.task_ne_attaching c)
  | draining w => apply absurd h (w.task_ne_attaching c)
  | stopping x =>
    cases x with
    | releasing rest current failures =>
      cases current with
      | none => cases h
      | some w => apply absurd h (w.task_ne_attaching c)
    | _ => cases h
  | finished => cases h

/-- The beginning of a call is a chain of changes, after which the channels of the call are there. -/
theorem Request.changes_begin (hkeep : setup.binders.KeepsChannels) (s : System τ)
    (request : Request ι)
    (hrequest : ∀ c ∈ request.channels, c.index < s.fabric.channels.size) :
  Changes setup.binders (s.bindersView, .idle)
      ((request.begin setup s).1.bindersView, (request.begin setup s).2.1.task)
    ∧ ∀ c ∈ (request.begin setup s).2.1.channels,
        c.index < (request.begin setup s).1.fabric.channels.size
  := by
  cases request with
  | resolve name => exact ⟨.refl, List.forall_mem_nil _⟩
  | bindProducer name output properties =>
    apply Call.changes_after .producing (fun _ => rfl)
    apply ProducerBind.changes_begin
    apply hrequest output (List.mem_singleton.2 rfl)
  | bindConsumer name input =>
    have hinput := hrequest input (List.mem_singleton.2 rfl)
    have hchanges := ConsumerBind.changes_begin setup s name input hinput
    simp only [begin, Call.task_after]
    constructor
    · apply hchanges
    · intro c hc
      rw [ConsumerBind.channels_begin s name input c hc]
      apply Nat.lt_of_lt_of_le hinput
      apply hchanges.size_le hkeep
  | attach binder request =>
    have hbegin : Change setup.binders _ _ := .begin s.fabric s.binders binder request
      (hrequest _ (List.mem_singleton.2 rfl))
    cases request with
    | consumer destination group input properties => exact ⟨.single hbegin, List.forall_mem_nil _⟩
    | producer destination output properties => exact ⟨.single hbegin, List.forall_mem_nil _⟩
  | unbind b => exact ⟨.refl, List.forall_mem_nil _⟩
  | unbindTracked role name => exact ⟨.refl, List.forall_mem_nil _⟩
  | unbindRegistry => exact ⟨.refl, List.forall_mem_nil _⟩
  | stop => exact ⟨.refl, List.forall_mem_nil _⟩

/-! ## Worlds -/

/-- No act takes a channel away. -/
theorem Fabric.size_act (f : Fabric) (a : Act) :
  f.channels.size ≤ (f.act a).channels.size
  := by
  cases a with
  | newChannel name contentType => simp [act, addChannel]
  | newHandler label handler => apply Nat.le_refl
  | nameChannel label c => apply Nat.le_refl
  | subscribe c label =>
    simp only [act]
    split
    · apply Nat.le_refl
    · simp
  | unsubscribe c label =>
    simp only [act]
    split
    · apply Nat.le_refl
    · simp
  | send c m =>
    simp only [act]
    split
    · apply Nat.le_refl
    · rename_i hdeliver
      apply (sendsKeep_size _).deliver hdeliver (Nat.le_refl _)
  | wait time => apply Nat.le_refl

namespace World

/-- The task of a call. -/
def task (w : World ι τ β) (i : Nat) : Task β := (w.call i).task

/-- Whether the channels that calls refer to are there. -/
def HasChannels (w : World ι τ β) : Prop :=
  ∀ call ∈ w.calls, ∀ c ∈ call.channels, c.index < w.system.fabric.channels.size

/-- Whether no move drops a call between the two steps of a release. -/
def IsOrderly (setup : Setup ι τ β) : World ι τ β → List (Move ι) → Prop
  | _, [] => True
  | w, m :: moves =>
    (∀ i b, m = .drop i → w.task i ≠ .detaching b) ∧ IsOrderly setup (w.next setup m) moves

theorem task_append (w : World ι τ β) (s : System τ) (call : Call ι β)
    (history : List (Nat × Happening)) :
  (World.mk s (w.calls ++ [call]) history).task
    = Function.update w.task w.calls.length call.task
  := by
  simp only [funext_iff, task, call_append]
  apply congrFun (comp_update Call.task _ _ _)

theorem task_set (w : World ι τ β) (s : System τ) {i : Nat} {call : Call ι β} (call' : Call ι β)
    (history : List (Nat × Happening)) (h : w.calls[i]? = some call) :
  (World.mk s (w.calls.set i call') history).task = Function.update w.task i call'.task
  := by
  simp only [funext_iff, task, call_set w s call' history h]
  apply congrFun (comp_update Call.task _ _ _)

/-- What is said of the channels of calls stays true when channels are added and one call changes. -/
theorem HasChannels.set {w : World ι τ β} (hw : w.HasChannels) {s : System τ}
    (hsize : w.system.fabric.channels.size ≤ s.fabric.channels.size) {i : Nat} {call : Call ι β}
    {history : List (Nat × Happening)}
    (hcall : ∀ c ∈ call.channels, c.index < s.fabric.channels.size) :
  HasChannels ⟨s, w.calls.set i call, history⟩
  := by
  intro call' hmem c hc
  rcases List.mem_or_eq_of_mem_set hmem with hmem | rfl
  · apply Nat.lt_of_lt_of_le (hw call' hmem c hc) hsize
  · apply hcall c hc

/-- No move takes a channel away, or lets a call refer to a channel that is not there. -/
theorem HasChannels.next {w : World ι τ β} (hkeep : setup.binders.KeepsChannels)
    (hw : w.HasChannels) (m : Move ι) :
  (w.next setup m).HasChannels
    ∧ w.system.fabric.channels.size ≤ (w.next setup m).system.fabric.channels.size
  := by
  cases m with
  | call request =>
    simp only [World.next]
    split
    · rename_i hrequest
      obtain ⟨hchanges, hchannels⟩ := request.changes_begin hkeep w.system hrequest
      have hsize := hchanges.size_le hkeep
      constructor
      · intro call hmem c hc
        rcases List.mem_append.1 hmem with hmem | hmem
        · apply Nat.lt_of_lt_of_le (hw call hmem c hc) hsize
        · rw [List.mem_singleton.1 hmem] at hc
          apply hchannels c hc
      · apply hsize
    · exact ⟨hw, Nat.le_refl _⟩
  | advance i =>
    simp only [World.next]
    cases hi : w.calls[i]? with
    | none => exact ⟨hw, Nat.le_refl _⟩
    | some call =>
      obtain ⟨hchanges, hchannels⟩ :=
        call.changes_step hkeep w.system (hw call (List.mem_of_getElem? hi))
      have hsize := hchanges.size_le hkeep
      exact ⟨hw.set hsize hchannels, hsize⟩
  | drop i =>
    simp only [World.next]
    split
    · rename_i r hi
      have hsize : w.system.fabric.channels.size ≤ (r.abandon w.system).fabric.channels.size := by
        unfold Resolution.abandon
        split <;> apply Nat.le_refl
      exact ⟨hw.set hsize (List.forall_mem_nil _), hsize⟩
    · exact ⟨hw.set (Nat.le_refl _) (List.forall_mem_nil _), Nat.le_refl _⟩
    · exact ⟨hw.set (Nat.le_refl _) (List.forall_mem_nil _), Nat.le_refl _⟩
    · exact ⟨hw.set (Nat.le_refl _) (List.forall_mem_nil _), Nat.le_refl _⟩
    · exact ⟨hw, Nat.le_refl _⟩
  | act a =>
    have hsize := w.system.fabric.size_act a
    exact ⟨fun call hmem c hc => Nat.lt_of_lt_of_le (hw call hmem c hc) hsize, hsize⟩
  | register name c => exact ⟨hw, Nat.le_refl _⟩
  | addBindable bindable => exact ⟨hw, Nat.le_refl _⟩
  | start =>
    simp only [World.next, System.startLifecycle]
    split
    · exact ⟨hw, Nat.le_refl _⟩
    · exact ⟨hw, Nat.le_refl _⟩

theorem hasChannels_fresh (fabric : Fabric) (binders : τ) :
  (fresh fabric binders : World ι τ β).HasChannels
  := by
  intro call hcall
  cases hcall

/-- In every world that can be reached the channels that calls refer to are there. -/
theorem HasChannels.run {w : World ι τ β} (hkeep : setup.binders.KeepsChannels)
    (hw : w.HasChannels) (moves : List (Move ι)) :
  (w.run setup moves).HasChannels
  := run_induction hw (fun _ m hw => (hw.next hkeep m).1) moves

end World

end ChannelBinding
