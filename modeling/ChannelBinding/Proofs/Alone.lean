import ChannelBinding.Proofs.Cells
import ChannelBinding.Proofs.Representation
import ChannelBinding.Proofs.Validity

/-!
# Binds that run alone

A bind that is begun in any world with an in-memory binder, and then runs to its end while all other
calls stand still, adds one binding with its handler, and a transport channel if there was none for
its destination.  `World.perform_bindConsumer`, `World.perform_bindProducer` and
`World.perform_resolve` tell what the binder is asked for under settings that are accepted.
-/

namespace ChannelBinding

/-! ## What a bind makes -/

/-- A fabric with the handlers, bindings and subscriptions of another, and at least its channels. -/
structure Fabric.Grows (f f' : Fabric) : Prop where
  size : f.channels.size ≤ f'.channels.size
  handlers : f'.handlers = f.handlers
  bindings : f'.bindings = f.bindings
  subscribers : f'.subscribers = f.subscribers

namespace Fabric.Grows

theorem refl (f : Fabric) :
  f.Grows f
  := ⟨Nat.le_refl _, rfl, rfl, rfl⟩

theorem trans {f f' f'' : Fabric} (h : f.Grows f') (h' : f'.Grows f'') :
  f.Grows f''
  := ⟨Nat.le_trans h.size h'.size, h'.handlers.trans h.handlers, h'.bindings.trans h.bindings,
    h'.subscribers.trans h.subscribers⟩

theorem emit {f f' : Fabric} (h : f.Grows f') (e : Event) :
  f.Grows (f'.emit e)
  := ⟨h.size, h.handlers, h.bindings, h.subscribers⟩

theorem addChannel {f f' : Fabric} (h : f.Grows f') (name : String) (contentType : Option String) :
  f.Grows (f'.addChannel { name, contentType }).1
  := by
  refine ⟨Nat.le_trans h.size ?_, h.handlers, h.bindings, ?_⟩
  · simp [Fabric.addChannel]
  · rw [Fabric.subscribers_addChannel, h.subscribers]

theorem openTransport {f f' : Fabric} (h : f.Grows f') (m : MemoryBinder) (d : String) :
  f.Grows (m.openTransport f' d).1
  := by
  unfold MemoryBinder.openTransport
  split
  · apply h.emit
  · apply (h.addChannel d none).emit

end Fabric.Grows

/-- Whether a binding is in place as a request asked for it, and was not released. -/
def BindRequest.IsMet (request : BindRequest) (v : Fabric × MemoryBinder) (binding : Binding)
    (h : HandlerId) : Prop :=
  ∃ t, v.2.transports.get? request.destination = some t ∧ binding = request.binding t h
    ∧ v.1.handler? h = some (.forwarding (request.target t))

/-- What a bind for a request makes of the fabric and of the binder: one binding with its handler, and
a transport channel if there was none. -/
structure Makes (v v' : Fabric × MemoryBinder) (request : BindRequest) : Prop where
  size : v.1.channels.size ≤ v'.1.channels.size
  channel_lt : request.channel.index < v'.1.channels.size
  handler : ∀ {h handler}, v.1.handler? h = some handler → v'.1.handler? h = some handler
  subscribed : ∀ {c h}, h ∈ v.1.subscribers c → h ∈ v'.1.subscribers c
  attached : ∀ {b binding c h}, v.1.Attaches b binding c h → v'.1.Attaches b binding c h
  transport : ∀ {d t}, v.2.transports.get? d = some t → v'.2.transports.get? d = some t
  /-- No transport channel is made of a channel that was there, or of the one that is bound. -/
  fresh : ∀ {d t}, v'.2.transports.get? d = some t →
    v.2.transports.get? d = some t ∨ v.1.channels.size ≤ t.index ∧ t ≠ request.channel
  made : ∃ b binding c h, v'.1.Attaches b binding c h ∧ request.IsMet v' binding h
  /-- There is no other new binding. -/
  of_attached : ∀ {b binding c h}, v'.1.Attaches b binding c h →
    v.1.Attaches b binding c h ∨ request.IsMet v' binding h
  /-- There is no new subscription but that of its handler. -/
  of_subscribed : ∀ {c h}, h ∈ v'.1.subscribers c →
    h ∈ v.1.subscribers c ∨ ∃ b binding, v'.1.Attaches b binding c h

/-- The transport channels after one is opened. -/
theorem MemoryBinder.get?_openTransport (f : Fabric) (m : MemoryBinder) (d d' : String) :
  (m.openTransport f d).2.1.transports.get? d'
    = if d = d' then some (m.openTransport f d).2.2 else m.transports.get? d'
  := by
  unfold openTransport
  split
  · rename_i t ht
    split
    · rename_i heq
      rw [← heq, ht]
    · rfl
  · apply Table.get?_insert

/-- A transport channel that is opened was there, or is new. -/
theorem MemoryBinder.openTransport_new (f : Fabric) (m : MemoryBinder) (d : String) :
  m.transports.get? d = some (m.openTransport f d).2.2
    ∨ m.transports.get? d = none ∧ (m.openTransport f d).2.2 = ⟨f.channels.size⟩
  := by
  unfold openTransport
  split
  · rename_i t ht
    exact Or.inl ht
  · rename_i hnone
    exact Or.inr ⟨hnone, rfl⟩

/-- What a bind makes when it attaches its channel. -/
theorem Makes.of_attach {f f' : Fabric} {m m' : MemoryBinder} {request : BindRequest} {t : ChannelId}
    (hgrows : f.Grows f') (hrequest : request.channel.index < f'.channels.size)
    (ht : m'.transports.get? request.destination = some t)
    (htransport : ∀ {d t}, m.transports.get? d = some t → m'.transports.get? d = some t)
    (hfresh : ∀ {d t}, m'.transports.get? d = some t →
      m.transports.get? d = some t ∨ f.channels.size ≤ t.index ∧ t ≠ request.channel) :
  Makes (f, m) ((MemoryBinder.attach f' t request).1, m') request
  := by
  obtain ⟨e', hattach⟩ := MemoryBinder.attach_eq f' t request
  obtain ⟨f₁, hf₁⟩ : ∃ f₁, (f'.addHandler (.forwarding (request.target t))).1 = f₁ := ⟨_, rfl⟩
  have hself : f₁.handler? ⟨f'.handlers.size⟩ = some (.forwarding (request.target t)) := by
    rw [← hf₁, Fabric.handler?_addHandler_self]
  have hhandler : ∀ {h handler}, f.handler? h = some handler → f₁.handler? h = some handler := by
    intro h handler hh
    rw [← hf₁]
    apply Fabric.handler?_addHandler_of_some
    rw [Fabric.handler?, hgrows.handlers]
    apply hh
  have hchannels : f₁.channels = f'.channels := by
    rw [← hf₁]
    rfl
  have hbindings : f₁.bindings = f.bindings := by
    rw [← hf₁]
    exact hgrows.bindings
  have hsubscribers : f₁.subscribers = f.subscribers := by
    rw [← hf₁]
    exact hgrows.subscribers
  rw [hf₁] at hattach
  rw [hattach]
  obtain ⟨hextends, -⟩ := f₁.extends_subscribe (request.source t) ⟨f'.handlers.size⟩
  have hattaches : ∀ {b binding c h}, ((f₁.subscribe (request.source t)
      ⟨f'.handlers.size⟩).1.emit e').Attaches b binding c h ↔ f.Attaches b binding c h := by
    intro b binding c h
    simp only [Fabric.Attaches, Fabric.binding?, Fabric.emit, hextends.bindings, hbindings]
  have hatt : (request.binding t ⟨f'.handlers.size⟩).attachment
      = .subscription (request.source t) ⟨f'.handlers.size⟩ := rfl
  have hmade := ((f₁.subscribe (request.source t)
    ⟨f'.handlers.size⟩).1.emit e').attaches_addBinding_self hatt
  have hforwards : (f₁.subscribe (request.source t) ⟨f'.handlers.size⟩).1.handler?
      ⟨f'.handlers.size⟩ = some (.forwarding (request.target t)) := hextends.forwarding hself
  constructor
  · apply Nat.le_trans hgrows.size
    rw [← hchannels]
    apply hextends.channels
  · rw [← hchannels] at hrequest
    apply Nat.lt_of_lt_of_le hrequest hextends.channels
  · intro h handler hh
    rw [← hhandler hh]
    simp only [Fabric.handler?, Fabric.emit, Fabric.addBinding, Fabric.handlers_subscribe]
  · intro c h hh
    rw [← hsubscribers] at hh
    apply Fabric.mem_subscribers_subscribe_of_mem hh
  · intro b binding c h hb
    apply Fabric.attaches_addBinding_of_attaches _ (hattaches.mpr hb)
  · apply htransport
  · apply hfresh
  · exact ⟨_, _, _, _, hmade, t, ht, rfl, hforwards⟩
  · intro b binding c h hb
    rcases Fabric.attaches_addBinding rfl hb with ⟨-, rfl, -, rfl⟩ | hold
    · exact Or.inr ⟨t, ht, rfl, hforwards⟩
    · exact Or.inl (hattaches.mp hold)
  · intro c h hh
    rcases Fabric.of_mem_subscribers_subscribe hh with hold | ⟨rfl, rfl⟩
    · rw [hsubscribers] at hold
      exact Or.inl hold
    · exact Or.inr ⟨_, _, hmade⟩

/-- What is reported afterwards makes no difference. -/
theorem Makes.emit {v : Fabric × MemoryBinder} {f : Fabric} {m : MemoryBinder}
    {request : BindRequest} (h : Makes v (f, m) request) (e : Event) :
  Makes v (f.emit e, m) request
  := ⟨h.size, h.channel_lt, h.handler, h.subscribed, h.attached, h.transport, h.fresh, h.made,
    h.of_attached, h.of_subscribed⟩

/-- The fabric and the binder after a bind that runs without a break. -/
def MemoryBinder.bindAt (f : Fabric) (m : MemoryBinder) (request : BindRequest) :
    Fabric × MemoryBinder :=
  let opened := m.openTransport f request.destination
  ((attach opened.1 opened.2.2 request).1, opened.2.1)

/-- What a bind makes when it runs without a break. -/
theorem Makes.bindAt {f f' : Fabric} (hgrows : f.Grows f') (m : MemoryBinder) (request : BindRequest)
    (hrequest : request.channel.index < f'.channels.size) :
  Makes (f, m) (MemoryBinder.bindAt f' m request) request
  := by
  have hget := MemoryBinder.get?_openTransport f' m request.destination
  have hnew := MemoryBinder.openTransport_new f' m request.destination
  unfold MemoryBinder.bindAt
  apply Makes.of_attach (hgrows.openTransport m _)
  · apply Nat.lt_of_lt_of_le hrequest
    apply MemoryBinder.size_openTransport
  · rw [hget, if_pos rfl]
  · intro d t ht
    rw [hget]
    split
    · rename_i heq
      rcases hnew with hold | ⟨hnone, -⟩
      · rw [← ht, ← heq, hold]
      · rw [heq, ht] at hnone
        cases hnone
    · apply ht
  · intro d t ht
    rw [hget] at ht
    split at ht
    · rename_i heq
      cases ht
      rcases hnew with hold | ⟨-, heq'⟩
      · rw [← heq]
        exact Or.inl hold
      · apply Or.inr
        rw [heq']
        use hgrows.size
        rintro hchannel
        rw [← hchannel] at hrequest
        apply Nat.lt_irrefl _ hrequest
    · exact Or.inl ht

/-! ## Calls that run alone -/

section Alone

variable {ι τ β : Type} (setup : Setup ι τ β)

/-- Some steps of one call. -/
def Call.go : Nat → System τ × Call ι β → System τ × Call ι β
  | 0, x => x
  | n + 1, (s, call) => go n ((call.step setup s).1, (call.step setup s).2.1)

theorem Call.go_finished (n : Nat) (s : System τ) :
  go setup n (s, .finished) = (s, .finished)
  := by
  induction n with
  | zero => rfl
  | succ n ih => apply ih

/-- A call runs alone from its beginning, for as many steps as any bind of one destination takes. -/
def World.perform (w : World ι τ β) (request : Request ι) : World ι τ β :=
  w.run setup (.call request :: List.replicate 7 (.advance w.calls.length))

theorem World.run_advances (s : System τ) (calls : List (Call ι β)) (call : Call ι β)
    (history : List (Nat × Happening)) (n : Nat) :
  ∃ history', (World.mk s (calls ++ [call]) history).run setup
      (List.replicate n (.advance calls.length))
    = ⟨(Call.go setup n (s, call)).1, calls ++ [(Call.go setup n (s, call)).2], history'⟩
  := by
  induction n generalizing s call history with
  | zero => exact ⟨_, rfl⟩
  | succ n ih =>
    have hnext : (World.mk s (calls ++ [call]) history).next setup (.advance calls.length)
        = ⟨(call.step setup s).1, calls ++ [(call.step setup s).2.1],
            history ++ (call.step setup s).2.2.map (calls.length, ·)⟩ := by
      simp [next]
    rw [List.replicate_succ, run, List.foldl_cons, hnext]
    apply ih

/-- A world after a call that ran alone. -/
theorem World.perform_of_go (w : World ι τ β) {request : Request ι}
    (h : ∀ c ∈ request.channels, c.index < w.system.fabric.channels.size)
    {s s' : System τ} {call call' : Call ι β} {news : List Happening}
    (hbegin : request.begin setup w.system = (s, call, news))
    (hgo : Call.go setup 7 (s, call) = (s', call')) :
  (w.perform setup request).system = s' ∧ (w.perform setup request).calls = w.calls ++ [call']
  := by
  obtain ⟨history, hrun⟩ := run_advances setup s w.calls call
    (w.history ++ news.map (w.calls.length, ·)) 7
  rw [run, hgo] at hrun
  rw [perform, run, List.foldl_cons, next, if_pos h, hbegin, hrun]
  exact ⟨rfl, rfl⟩

end Alone

section Binds

variable (settings : Settings) (factory : Factory Unit) (callback : Option Callback)

/-- The step of a bind that opens its transport channel. -/
theorem MemoryBinder.step_opening (s : System MemoryBinder) {request : BindRequest}
    (hblank : Text.isBlankText request.destination = false) :
  (setup settings factory callback).bindProcess.step s (.opening request)
    = (s.withBindersView ((s.binders.openTransport s.fabric request.destination).1,
        (s.binders.openTransport s.fabric request.destination).2.1),
      .running (.attaching request (s.binders.openTransport s.fabric request.destination).2.2))
  := by
  simp [Setup.bindProcess, Process.focus, setup, behaviour, process, stepPair, MemoryCall.step,
    System.bindersView, hblank]

/-- The step of a bind that attaches its channel. -/
theorem MemoryBinder.step_attaching (s : System MemoryBinder) (request : BindRequest)
    (t : ChannelId) :
  (setup settings factory callback).bindProcess.step s (.attaching request t)
    = (s.withBindersView ((attach s.fabric t request).1, s.binders),
      .ended (.ok (attach s.fabric t request).2))
  := rfl

/-- A producer bind that the binder has been asked for runs to its end. -/
theorem ProducerBind.go_producing (s : System MemoryBinder) (n : Nat)
    {bind : ProducerBind MemoryCall} {request : BindRequest} (hcall : bind.call = .opening request)
    (hblank : Text.isBlankText request.destination = false) :
  ∃ e ledger, Call.go (MemoryBinder.setup settings factory callback) (n + 2)
      (s, .producing bind)
    = ({ s with
        fabric := (MemoryBinder.bindAt s.fabric s.binders request).1.emit e
        binders := (MemoryBinder.bindAt s.fabric s.binders request).2
        ledger }, .finished)
  := by
  obtain ⟨name, destination, binder, call⟩ := bind
  cases hcall
  simp only [Call.go, Call.step, step, MemoryBinder.step_opening _ _ _ s hblank, Call.after,
    MemoryBinder.step_attaching, Call.go_finished]
  exact ⟨_, _, rfl⟩

/-- A consumer bind that the binder has been asked for at its last destination runs to its end. -/
theorem ConsumerBind.go_consuming (s : System MemoryBinder) (n : Nat)
    (bind : ConsumerRequest Unit) (destination : String) (created : List BindingId)
    (request : BindRequest) (hblank : Text.isBlankText request.destination = false) :
  ∃ e ledger, Call.go (MemoryBinder.setup settings factory callback) (n + 2)
      (s, .consuming (.binding bind destination (.opening request) [] created))
    = ({ s with
        fabric := (MemoryBinder.bindAt s.fabric s.binders request).1.emit e
        binders := (MemoryBinder.bindAt s.fabric s.binders request).2
        ledger }, .finished)
  := by
  simp only [Call.go, Call.step, step, MemoryBinder.step_opening _ _ _ s hblank, Call.after,
    MemoryBinder.step_attaching, next, Call.go_finished]
  exact ⟨_, _, rfl⟩

/-- A resolution that binds a channel runs to its end. -/
theorem Resolution.go_resolving (s : System MemoryBinder) (n : Nat)
    (name : String) (cell : CellId) (t : Ticket) (c : ChannelId) {bind : ProducerBind MemoryCall}
    {request : BindRequest} (hcall : bind.call = .opening request)
    (hblank : Text.isBlankText request.destination = false) :
  ∃ e₁ e₂ e₃ ledger registry b, Call.go (MemoryBinder.setup settings factory callback) (n + 2)
      (s, .resolving ⟨name, .binding cell t c bind⟩)
    = ({ s with
        fabric := (((MemoryBinder.bindAt s.fabric s.binders request).1.emit e₁).emit e₂).emit e₃
        binders := (MemoryBinder.bindAt s.fabric s.binders request).2
        ledger
        registry
        cache := s.cache.fill cell t ⟨c, b⟩ }, .finished)
  := by
  obtain ⟨bindName, destination, binder, call⟩ := bind
  cases hcall
  simp only [Call.go, Call.step, step, ProducerBind.step, proceed, goTo,
    MemoryBinder.step_opening _ _ _ s hblank, Call.after, MemoryBinder.step_attaching,
    Call.go_finished]
  exact ⟨_, _, _, _, _, _, rfl⟩

variable {settings factory} {w : World Unit MemoryBinder MemoryCall} {name : String}

/-- What a call that has bound a channel leaves behind. -/
structure World.HasMade (w w' : World Unit MemoryBinder MemoryCall) (request : BindRequest) :
    Prop where
  makes : Makes w.system.bindersView w'.system.bindersView request
  /-- The call has ended. -/
  calls : w'.calls = w.calls ++ [.finished]
  fixed : w'.system.fixed = w.system.fixed

/-- What the binder is asked for at a destination. -/
def ConsumerRequest.bindRequest (request : ConsumerRequest ι) (destination : String) : BindRequest :=
  .consumer destination request.group request.input request.properties

/-- The consumer bind of a name, if the binder supplies no properties. -/
def Settings.consumerBind (s : Settings) (name : String) (input : ChannelId) :
    ConsumerRequest Unit where
  name
  group := s.group name
  binder := ()
  input
  properties := (s.consumerProperties name).withExtensionDefaults ∅

/-- What a consumer bind asks the binder for, if the destination has no comma. -/
def Settings.consumerRequest (s : Settings) (name : String) (input : ChannelId) : BindRequest :=
  (s.consumerBind name input).bindRequest (Text.trim (s.destination name))

/-- What a producer bind asks the binder for. -/
def Settings.producerRequest (s : Settings) (name : String) (output : ChannelId)
    (properties : ProducerProperties) : BindRequest :=
  .producer (s.destination name) output (properties.withExtensionDefaults ∅)

/-- A consumer bind asks for the trimmed destination. -/
theorem ConsumerBind.begin_eq (hvalid : settings.validate = .ok ())
    (hname : Text.isBlankText name = false) (hcomma : ',' ∉ (settings.destination name).toList)
    (hbinder : factory.get? (settings.binderName name) = some ()) (s : System MemoryBinder)
    (input : ChannelId) :
  ∃ e bind destination, begin (MemoryBinder.setup settings factory callback) s name input
    = (s.emit e,
        .running (.binding bind destination (.opening (settings.consumerRequest name input)) [] []))
  := by
  have hdestination := Settings.destination_not_blank hvalid hname
  have hfault : ∀ e, ((settings.consumerProperties name).withExtensionDefaults e).fault? = none :=
    fun _ => Settings.consumerProperties_valid hvalid name
  have hparts := Text.commaParts_of_not_mem hcomma hdestination
  have hprepare : prepare (MemoryBinder.setup settings factory callback) s.binders name input
      = .ok (settings.consumerBind name input, [Text.trim (settings.destination name)]) := by
    simp [prepare, Setup.binderFor, hbinder, hparts, hfault, ConsumerProperties.validate,
      MemoryBinder.setup]
    rfl
  simp only [begin, hprepare]
  exact ⟨_, _, _, rfl⟩

/-- A producer bind asks for the destination as it stands. -/
theorem ProducerBind.begin_eq (hbinder : factory.get? (settings.binderName name) = some ())
    {properties : ProducerProperties} (hproperties : properties.fault? = none)
    (s : System MemoryBinder) (output : ChannelId) :
  ∃ e bind, bind.call = .opening (settings.producerRequest name output properties)
    ∧ begin (MemoryBinder.setup settings factory callback) s name output properties
      = (s.emit e, .running bind)
  := by
  have hfault : ∀ e, (properties.withExtensionDefaults e).fault? = none := fun _ => hproperties
  have hprepare : prepare (MemoryBinder.setup settings factory callback) s.binders name output
      properties = .ok ⟨name, settings.destination name, binderLabel (settings.binderName name),
        .opening (settings.producerRequest name output properties)⟩ := by
    simp [prepare, Setup.binderFor, hbinder, hfault, ProducerProperties.validate,
      MemoryBinder.setup]
    rfl
  simp only [begin, hprepare]
  exact ⟨_, _, rfl, rfl⟩

/-- Binding the input of a name attaches it to the trimmed destination. -/
theorem World.perform_bindConsumer {input : ChannelId}
    (hvalid : settings.validate = .ok ()) (hname : Text.isBlankText name = false)
    (hcomma : ',' ∉ (settings.destination name).toList)
    (hbinder : factory.get? (settings.binderName name) = some ())
    (hinput : input.index < w.system.fabric.channels.size) :
  w.HasMade (w.perform (MemoryBinder.setup settings factory callback) (.bindConsumer name input))
      (settings.consumerRequest name input)
    ∧ (w.perform (MemoryBinder.setup settings factory callback)
        (.bindConsumer name input)).system.cache = w.system.cache
  := by
  have hblank : Text.isBlankText (settings.consumerRequest name input).destination = false := by
    rw [← Settings.destination_not_blank hvalid hname]
    apply Text.isBlankText_trim
  obtain ⟨e₀, bind, destination, hbegin⟩ := ConsumerBind.begin_eq callback hvalid hname
    hcomma hbinder w.system input
  obtain ⟨e, ledger, hgo⟩ := ConsumerBind.go_consuming settings factory callback
    (w.system.emit e₀) 5 bind destination [] (settings.consumerRequest name input) hblank
  have hchannels : ∀ c ∈ (Request.bindConsumer (ι := Unit) name input).channels,
      c.index < w.system.fabric.channels.size := List.forall_mem_singleton.mpr hinput
  have hrequest : (Request.bindConsumer name input).begin
      (MemoryBinder.setup settings factory callback) w.system = (w.system.emit e₀, .consuming
        (.binding bind destination (.opening (settings.consumerRequest name input)) [] []), []) := by
    simp only [Request.begin, hbegin]
    rfl
  obtain ⟨hsystem, hcalls⟩ := w.perform_of_go _ hchannels hrequest hgo
  constructor
  · constructor
    · rw [hsystem]
      apply Makes.emit
      apply Makes.bindAt ((Fabric.Grows.refl _).emit e₀)
      apply hinput
    · apply hcalls
    · rw [hsystem]
      rfl
  · rw [hsystem]
    rfl

/-- Binding an output to a name attaches it to the destination as it stands. -/
theorem World.perform_bindProducer {output : ChannelId}
    (hvalid : settings.validate = .ok ()) (hname : Text.isBlankText name = false)
    (hbinder : factory.get? (settings.binderName name) = some ())
    (houtput : output.index < w.system.fabric.channels.size) :
  w.HasMade (w.perform (MemoryBinder.setup settings factory callback)
      (.bindProducer name output none))
      (settings.producerRequest name output (settings.producerProperties name))
    ∧ (w.perform (MemoryBinder.setup settings factory callback)
        (.bindProducer name output none)).system.cache = w.system.cache
  := by
  have hblank : Text.isBlankText (settings.producerRequest name output
      (settings.producerProperties name)).destination = false :=
    Settings.destination_not_blank hvalid hname
  obtain ⟨e₀, bind, hcall, hbegin⟩ := ProducerBind.begin_eq callback hbinder
    (Settings.producerProperties_valid hvalid name) w.system output
  obtain ⟨e, ledger, hgo⟩ := ProducerBind.go_producing settings factory callback
    (w.system.emit e₀) 5 hcall hblank
  have hchannels : ∀ c ∈ (Request.bindProducer (ι := Unit) name output none).channels,
      c.index < w.system.fabric.channels.size := List.forall_mem_singleton.mpr houtput
  have hrequest : (Request.bindProducer name output none).begin
      (MemoryBinder.setup settings factory callback) w.system
        = (w.system.emit e₀, .producing bind, []) := by
    simp only [Request.begin, Option.getD_none]
    exact congrArg (fun q : System MemoryBinder × Progress (ProducerBind MemoryCall) ProducerAnswer =>
      (q.1, Call.after Call.producing q.2, Call.recorded .producer name ([·]) q.2)) hbegin
  obtain ⟨hsystem, hcalls⟩ := w.perform_of_go _ hchannels hrequest hgo
  constructor
  · constructor
    · rw [hsystem]
      apply Makes.emit
      apply Makes.bindAt ((Fabric.Grows.refl _).emit e₀)
      apply houtput
    · apply hcalls
    · rw [hsystem]
      rfl
  · rw [hsystem]
    rfl

/-- Whether nobody has resolved a name, and nobody has the permit to bind a channel for it. -/
def Cache.IsFree (cache : Cache) (name : String) : Prop :=
  ∀ id, cache.entries.get? name = some id →
    ∃ cell, cache.cell? id = some cell ∧ cell.value = none ∧ cell.permit = none

namespace Cache

variable {cache : Cache} {id : CellId} {cell : Cell}

theorem IsFree.get?_eq (h : cache.IsFree name) :
  cache.get? name = none
  := by
  cases hentry : cache.entries.get? name with
  | none => simp [Cache.get?, hentry]
  | some id =>
    obtain ⟨cell, hcell, hvalue, -⟩ := h id hentry
    rw [get?_of_cell hentry hcell, hvalue]

/-- Who asks for the permit of a cell that is empty and free gets it, and may fill the cell. -/
theorem claim_of_free (hentry : cache.entries.get? name = some id)
    (hcell : cache.cell? id = some cell) (hvalue : cell.value = none) (hpermit : cell.permit = none)
    (t : Ticket) :
  (cache.claim id t).2 = .permitted
    ∧ ∀ v, ((cache.claim id t).1.fill id t v).get? name = some v
  := by
  have hclaim : cell.claim t = ({ cell with permit := some t }, .permitted) := by
    simp only [Cell.claim, hvalue, hpermit]
  rw [claim_eq _ _ hcell, hclaim]
  use rfl
  intro v
  have hfilled : ((cache.modify id fun _ => { cell with permit := some t }).fill id t v).cell? id
      = some ((Cell.fill { cell with permit := some t } v).letGo t) := by
    rw [fill, cell?_modify, if_pos rfl, cell?_modify, if_pos rfl, hcell]
    rfl
  refine (get?_of_cell ?_ hfilled).trans rfl
  apply hentry

/-- Who enters a cell that is there takes hold of it. -/
theorem enter_of_cell (hentry : cache.entries.get? name = some id)
    (hcell : cache.cell? id = some cell) :
  ∃ entered t, cache.enter name = (entered, id, t) ∧ entered.entries.get? name = some id
    ∧ entered.cell? id = some (cell.hold t)
  := by
  have hheld := cache.cell?_modify id id (·.hold ⟨cache.issued⟩)
  rw [if_pos rfl, hcell] at hheld
  exact ⟨_, _, enter_of_entry hentry, hentry, hheld⟩

/-- Who enters the cell of a name that is free gets its permit, and may fill it. -/
theorem IsFree.enter (h : cache.IsFree name) :
  let x := cache.enter name
  (x.1.claim x.2.1 x.2.2).2 = .permitted
    ∧ ∀ v, ((x.1.claim x.2.1 x.2.2).1.fill x.2.1 x.2.2 v).get? name = some v
  := by
  obtain ⟨id, held, entered, t, henter, hentry, hheld, hvalue, hpermit⟩ : ∃ id held entered t,
      cache.enter name = (entered, id, t) ∧ entered.entries.get? name = some id
        ∧ entered.cell? id = some held ∧ held.value = none ∧ held.permit = none := by
    cases hentry : cache.entries.get? name with
    | none =>
      -- the cell that is added is as free as one that was there
      have hnew : (cache.addCell name).cell? ⟨cache.cells.size⟩ = some {} := by
        rw [cell?_addCell, if_pos rfl]
      obtain ⟨entered, t, henter, hentry', hheld⟩ :=
        enter_of_cell (cache.entry_addCell name) hnew
      rw [enter_of_no_entry hentry]
      exact ⟨_, _, entered, t, henter, hentry', hheld, rfl, rfl⟩
    | some id =>
      obtain ⟨cell, hcell, hvalue, hpermit⟩ := h id hentry
      obtain ⟨entered, t, henter, hentry', hheld⟩ := enter_of_cell hentry hcell
      exact ⟨id, _, entered, t, henter, hentry', hheld, hvalue, hpermit⟩
  rw [henter]
  exact claim_of_free hentry hheld hvalue hpermit t

end Cache

variable (factory name) in
/-- The announcement of a new destination adds its channel. -/
theorem Resolution.announce_spec (hvalid : settings.validate = .ok ())
    (hcallback : ∀ c ∈ callback, ∀ channel properties, ProducerProperties.fault? properties = none →
      (c.adjust name channel properties).fault? = none) (s : System MemoryBinder) :
  let x := announce (MemoryBinder.setup settings factory callback) s name
  x.2.1 = ⟨s.fabric.channels.size⟩ ∧ x.2.2.fault? = none ∧ s.fabric.Grows x.1.fabric
    ∧ x.1.fabric.channels.size = s.fabric.channels.size + 1
    ∧ x.1.binders = s.binders ∧ x.1.cache = s.cache ∧ x.1.fixed = s.fixed
  := by
  have hproperties := Settings.producerProperties_valid hvalid name
  have hgrows := (Fabric.Grows.refl s.fabric).addChannel name (some (settings.contentType name))
  have hsize : (s.fabric.addChannel ((MemoryBinder.setup settings factory callback).newChannel
      name)).1.channels.size = s.fabric.channels.size + 1 := by
    simp [Fabric.addChannel]
  unfold announce
  cases callback with
  | none => exact ⟨rfl, hproperties, hgrows, hsize, rfl, rfl, rfl⟩
  | some c =>
    have hadjusted := hcallback c rfl
      ((MemoryBinder.setup settings factory (some c)).newChannel name) _ hproperties
    dsimp only
    split
    · rename_i heq
      cases heq
    · rename_i heq
      cases heq
      split
      · exact ⟨rfl, hadjusted, hgrows, hsize, rfl, rfl, rfl⟩
      · exact ⟨rfl, hadjusted, hgrows.emit _, hsize, rfl, rfl, rfl⟩

/-- A resolution that enters the cell of a name that has none binds a new channel. -/
theorem Resolution.go_entering (hvalid : settings.validate = .ok ())
    (hbinder : factory.get? (settings.binderName name) = some ())
    (hcallback : ∀ c ∈ callback, ∀ channel properties, ProducerProperties.fault? properties = none →
      (c.adjust name channel properties).fault? = none) {s : System MemoryBinder}
    (hcache : s.cache.IsFree name) (n : Nat) :
  ∃ s' cell t bind properties, Call.go (MemoryBinder.setup settings factory callback) (n + 2)
        (s, .resolving ⟨name, .entering⟩)
      = Call.go (MemoryBinder.setup settings factory callback) n
          (s', .resolving ⟨name, .binding cell t ⟨s.fabric.channels.size⟩ bind⟩)
    ∧ bind.call = .opening
        (settings.producerRequest name ⟨s.fabric.channels.size⟩ properties)
    ∧ s.fabric.Grows s'.fabric ∧ s'.fabric.channels.size = s.fabric.channels.size + 1
    ∧ s'.binders = s.binders ∧ s'.fixed = s.fixed
    ∧ ∀ v, (s'.cache.fill cell t v).get? name = some v
  := by
  obtain ⟨hclaim, hfill⟩ := hcache.enter
  obtain ⟨cache, cell, t, henter⟩ : ∃ cache cell t, s.cache.enter name = (cache, cell, t) :=
    ⟨_, _, _, rfl⟩
  rw [henter] at hclaim hfill
  obtain ⟨claimed, claim, hclaimed⟩ : ∃ claimed claim, cache.claim cell t = (claimed, claim) :=
    ⟨_, _, rfl⟩
  rw [hclaimed] at hclaim hfill
  dsimp only at hclaim hfill
  subst hclaim
  have hannounce := announce_spec factory callback name hvalid hcallback
    { s with cache := claimed }
  obtain ⟨s₁, c, properties, hs₁⟩ : ∃ s₁ c properties,
      announce (MemoryBinder.setup settings factory callback) { s with cache := claimed } name
        = (s₁, c, properties) := ⟨_, _, _, rfl⟩
  rw [hs₁] at hannounce
  dsimp only at hannounce
  obtain ⟨rfl, hproperties, hgrows, hsize, hbinders, hcache₁, hfixed₁⟩ := hannounce
  obtain ⟨e, bind, hcall, hbegin⟩ :=
    ProducerBind.begin_eq callback hbinder hproperties s₁ ⟨s.fabric.channels.size⟩
  refine ⟨s₁.emit e, cell, t, bind, properties, ?_, hcall, hgrows.emit e, hsize, hbinders,
    hfixed₁, ?_⟩
  · simp only [Call.go, Call.step, step, henter, goTo, Call.after, hclaimed, hs₁, hbegin, proceed]
  · intro v
    rw [← hfill v, ← hcache₁]
    rfl

variable (factory) in
/-- A resolution of a name that is allowed, and neither fixed nor resolved, enters the name's cell. -/
theorem Resolution.go_requested (hname : isValidName name = true)
    (hallowed : settings.allowsDynamic name = true) {s : System MemoryBinder}
    (hfixed : s.fixed.get? name = none) (hcache : s.cache.get? name = none) (n : Nat) :
  Call.go (MemoryBinder.setup settings factory callback) (n + 3) (s, .resolving { name })
    = Call.go (MemoryBinder.setup settings factory callback) n
        (s.emit (.resolutionStarted name), .resolving ⟨name, .entering⟩)
  := by
  simp [Call.go, Call.step, step, hname, Call.after, goTo, hfixed, hallowed, hcache, System.emit,
    MemoryBinder.setup]

/-- A valid name is not blank. -/
theorem Resolution.not_blank_of_isValidName (h : isValidName name = true) :
  Text.isBlankText name = false
  := by
  simp only [isValidName, Bool.and_eq_true, Bool.not_eq_true'] at h
  apply h.1

/-- Resolving a name that is allowed and neither fixed nor resolved attaches a new channel to the
destination as it stands, and the resolver keeps that channel. -/
theorem World.perform_resolve (hvalid : settings.validate = .ok ())
    (hname : Resolution.isValidName name = true)
    (hbinder : factory.get? (settings.binderName name) = some ())
    (hcallback : ∀ c ∈ callback, ∀ channel properties, ProducerProperties.fault? properties = none →
      (c.adjust name channel properties).fault? = none)
    (hallowed : settings.allowsDynamic name = true) (hfixed : w.system.fixed.get? name = none)
    (hcache : w.system.cache.IsFree name) :
  ∃ properties b, w.HasMade
      (w.perform (MemoryBinder.setup settings factory callback) (.resolve name))
      (settings.producerRequest name ⟨w.system.fabric.channels.size⟩ properties)
    ∧ (w.perform (MemoryBinder.setup settings factory callback)
        (.resolve name)).system.cache.get? name = some ⟨⟨w.system.fabric.channels.size⟩, b⟩
  := by
  have hbegin : (Request.resolve name).begin (MemoryBinder.setup settings factory callback) w.system
      = (w.system, .resolving { name }, []) := rfl
  have hrequested := Resolution.go_requested factory callback hname hallowed hfixed hcache.get?_eq 4
  obtain ⟨s', cell, t, bind, properties, hentering, hcall, hgrows, hsize, hbinders, hfixed', hfill⟩ :=
    Resolution.go_entering callback hvalid hbinder hcallback
      (s := w.system.emit (.resolutionStarted name)) hcache 2
  have hblank : Text.isBlankText (settings.producerRequest name ⟨w.system.fabric.channels.size⟩
      properties).destination = false :=
    Settings.destination_not_blank hvalid (Resolution.not_blank_of_isValidName hname)
  obtain ⟨e₁, e₂, e₃, ledger, registry, b, hgo⟩ := Resolution.go_resolving settings factory callback
    s' 0 name cell t ⟨w.system.fabric.channels.size⟩ hcall hblank
  have hrun := hrequested.trans (hentering.trans hgo)
  obtain ⟨hsystem, hcalls⟩ := w.perform_of_go _ (List.forall_mem_nil _) hbegin hrun
  refine ⟨properties, b, ⟨?_, hcalls, ?_⟩, ?_⟩
  · have hnew : w.system.fabric.channels.size < s'.fabric.channels.size := by
      rw [hsize]
      apply Nat.lt_succ_self
    have hgrows' : w.system.fabric.Grows s'.fabric := ((Fabric.Grows.refl _).emit _).trans hgrows
    have hmakes := Makes.bindAt hgrows' s'.binders (settings.producerRequest name
      ⟨w.system.fabric.channels.size⟩ properties) hnew
    have hview : w.system.bindersView = (w.system.fabric, s'.binders) := by
      rw [hbinders]
      rfl
    rw [hsystem, hview]
    exact ((hmakes.emit e₁).emit e₂).emit e₃
  · rw [hsystem]
    exact hfixed'
  · rw [hsystem]
    apply hfill

end Binds

end ChannelBinding
