import ChannelBinding.Demo.Program
import ChannelBinding.Proofs.Restart

/-!
# The layout of the demo

The channels of the demo are laid out in three layers.  Each input has one subscriber, the handler that
reports what it receives; who subscribes to the transport channel of a destination forwards to an input
that was bound to this destination; and each output that was resolved has one subscriber, which forwards to
the transport channel of its destination.  Binds keep to this layout, and every binding that is bound is
tracked under a name that the shutdown will ask for.
-/

namespace ChannelBinding

/-- Whether an event tells of the messages of the demo, or of how it ended. -/
def Event.isOfDemo : Event → Bool
  | messageReceived .. | publishFailed .. | summary .. | programEnded .. => true
  | _ => false

/-! ## What has nothing to do with messages -/

/-- Whether messages are left alone: none is made or told of, and handlers stay as they are. -/
structure Fabric.Quiet (f f' : Fabric) : Prop where
  size : f.channels.size ≤ f'.channels.size
  told : ∃ news, f'.told = f.told ++ news ∧ ∀ e ∈ news, e.isOfDemo = false
  minted : f'.minted = f.minted
  handler : ∀ {h handler}, f.handler? h = some handler → f'.handler? h = some handler

namespace Fabric.Quiet

variable {f f' f'' : Fabric}

/-- Where the journal, the messages and the handlers stay as they are, nothing is told of messages. -/
theorem of_eq (hsize : f.channels.size ≤ f'.channels.size) (hjournal : f'.journal = f.journal)
    (hminted : f'.minted = f.minted)
    (hhandler : ∀ {h handler}, f.handler? h = some handler → f'.handler? h = some handler) :
  f.Quiet f'
  := by
  refine ⟨hsize, ⟨[], ?_, List.forall_mem_nil _⟩, hminted, hhandler⟩
  rw [List.append_nil, Fabric.told, hjournal, Fabric.told]

theorem refl (f : Fabric) :
  f.Quiet f
  := of_eq (Nat.le_refl _) rfl rfl id

theorem trans (h : f.Quiet f') (h' : f'.Quiet f'') :
  f.Quiet f''
  := by
  obtain ⟨news, htold, hnews⟩ := h.told
  obtain ⟨news', htold', hnews'⟩ := h'.told
  refine ⟨Nat.le_trans h.size h'.size, ⟨news ++ news', ?_, ?_⟩, h'.minted.trans h.minted,
    fun hh => h'.handler (h.handler hh)⟩
  · rw [htold', htold, List.append_assoc]
  · exact List.forall_mem_append.mpr ⟨hnews, hnews'⟩

theorem emit (h : f.Quiet f') {e : Event} (he : e.isOfDemo = false) :
  f.Quiet (f'.emit e)
  := h.trans ⟨Nat.le_refl _, ⟨[e], told_emit f' e, List.forall_mem_singleton.mpr he⟩, rfl, id⟩

theorem addChannel (h : f.Quiet f') (channel : Channel) :
  f.Quiet (f'.addChannel channel).1
  := by
  refine h.trans (of_eq ?_ rfl rfl id)
  rw [Fabric.addChannel, Array.size_push]
  exact Nat.le_succ _

theorem addHandler (h : f.Quiet f') (handler : Handler) :
  f.Quiet (f'.addHandler handler).1
  := h.trans (of_eq (Nat.le_refl _) rfl rfl (handler?_addHandler_of_some handler))

theorem addBinding (h : f.Quiet f') (binding : Binding) :
  f.Quiet (f'.addBinding binding).1
  := h.trans (of_eq (Nat.le_refl _) rfl rfl id)

theorem setBinding (h : f.Quiet f') (b : BindingId) (binding : Binding) :
  f.Quiet (f'.setBinding b binding)
  := h.trans (of_eq (Nat.le_refl _) rfl rfl id)

theorem setChannel (h : f.Quiet f') (c : ChannelId) (channel : Channel) :
  f.Quiet (f'.setChannel c channel)
  := h.trans (of_eq (Nat.le_of_eq (size_setChannel f' c channel).symm) rfl rfl id)

theorem subscribe (h : f.Quiet f') (c : ChannelId) (handler : HandlerId) :
  f.Quiet (f'.subscribe c handler).1
  := by
  rcases f'.subscribe_cases c handler with heq | ⟨channel, -, -, heq⟩
  · rw [heq]
    exact h
  · rw [heq]
    exact (h.setChannel _ _).emit rfl

theorem unsubscribe (h : f.Quiet f') (c : ChannelId) (handler : HandlerId) :
  f.Quiet (f'.unsubscribe c handler).1
  := by
  rcases f'.unsubscribe_cases c handler with heq | ⟨channel, -, -, heq⟩
  · rw [heq]
    exact h
  · rw [heq]
    exact (h.setChannel _ _).emit rfl

theorem openTransport (h : f.Quiet f') (m : MemoryBinder) (destination : String) :
  f.Quiet (m.openTransport f' destination).1
  := by
  unfold MemoryBinder.openTransport
  split
  · exact h.emit rfl
  · exact (h.addChannel _).emit rfl

end Fabric.Quiet

/-- What it is to put a new handler on a channel which forwards to another one, with the binding that it
holds in place. -/
structure Fabric.Links (f f' : Fabric) (c target : ChannelId) (b : BindingId) (binding : Binding) :
    Prop where
  quiet : f.Quiet f'
  forwards : f'.handler? ⟨f.handlers.size⟩ = some (.forwarding target)
  subscribers_eq : ∀ c', f'.subscribers c'
    = if c = c' then f.subscribers c' ++ [⟨f.handlers.size⟩] else f.subscribers c'
  binding?_eq : ∀ b', f'.binding? b' = if b' = b then some binding else f.binding? b'

theorem MemoryBinder.links_attach {f : Fabric} {t : ChannelId} (request : BindRequest)
    (hlt : (request.source t).index < f.channels.size)
    (hnew : ⟨f.handlers.size⟩ ∉ f.subscribers (request.source t)) :
  f.Links (attach f t request).1 (request.source t) (request.target t) (attach f t request).2
    (request.binding t ⟨f.handlers.size⟩)
  := by
  obtain ⟨e, he, heq⟩ : ∃ e : Event, e.isOfDemo = false ∧ attach f t request
      = (((f.addHandler (.forwarding (request.target t))).1.subscribe (request.source t)
        ⟨f.handlers.size⟩).1.emit e).addBinding (request.binding t ⟨f.handlers.size⟩) := by
    cases request <;> exact ⟨_, rfl, rfl⟩
  obtain ⟨f₁, hf₁⟩ : ∃ f₁, (f.addHandler (.forwarding (request.target t))).1 = f₁ := ⟨_, rfl⟩
  obtain ⟨hchannels, hsubscribers⟩ : f₁.channels = f.channels ∧ f₁.subscribers = f.subscribers := by
    subst hf₁
    exact ⟨rfl, rfl⟩
  have hquiet : f.Quiet f₁ := by
    subst hf₁
    exact (Fabric.Quiet.refl f).addHandler _
  have hself : f₁.handler? ⟨f.handlers.size⟩ = some (.forwarding (request.target t)) := by
    subst hf₁
    exact f.handler?_addHandler_self _
  have hbindings : (f₁.subscribe (request.source t) ⟨f.handlers.size⟩).1.bindings = f.bindings := by
    subst hf₁
    exact ((f.addHandler _).1.extends_subscribe (request.source t) ⟨f.handlers.size⟩).1.bindings
  rw [hf₁] at heq
  rw [heq]
  constructor
  · exact ((hquiet.subscribe _ _).emit he).addBinding _
  · exact (Fabric.Quiet.refl f₁).subscribe _ _ |>.handler hself
  · intro c'
    rw [← hchannels] at hlt
    rw [← hsubscribers] at hnew ⊢
    exact Fabric.subscribers_subscribe_of_new hlt hnew c'
  · intro b'
    rw [Fabric.binding?_addBinding]
    have hold : ((f₁.subscribe (request.source t) ⟨f.handlers.size⟩).1.emit e).binding? b'
        = f.binding? b' := congrArg (·[b'.index]?) hbindings
    rw [hold]
    rfl

namespace Demo

/-! ## Inputs, transports and outputs -/

/-- An input of the demo: the name that it is bound under, its channel, and the handler that reports what
it receives. -/
structure Input where
  name : String
  channel : ChannelId
  handler : HandlerId

/-- How inputs and transport channels are laid out. -/
structure Layout (settings : Settings) (inputs : List Input) (f : Fabric) (m : MemoryBinder) : Prop where
  input : ∀ i ∈ inputs, f.subscribers i.channel = [i.handler]
    ∧ ∃ received, f.handler? i.handler = some (.reporting i.name received)
  input_inj : (inputs.map Input.handler).Nodup
  transport_lt : ∀ {d t}, m.transports.get? d = some t → t.index < f.channels.size
  transport_inj : ∀ {d d' t}, m.transports.get? d = some t → m.transports.get? d' = some t → d = d'
  transport_ne : ∀ {d t}, m.transports.get? d = some t → ∀ i ∈ inputs, t ≠ i.channel
  /-- Who subscribes to a transport channel forwards to an input that is bound to the destination. -/
  heard : ∀ {d t}, m.transports.get? d = some t → ∀ h ∈ f.subscribers t,
    ∃ i ∈ inputs, d ∈ Text.commaParts (settings.destination i.name)
      ∧ f.handler? h = some (.forwarding i.channel)

/-- Whether an output has one subscriber, which forwards to the transport channel of a destination. -/
def IsOutput (d : String) (c : ChannelId) (f : Fabric) (m : MemoryBinder) : Prop :=
  ∃ h t, f.subscribers c = [h] ∧ f.handler? h = some (.forwarding t) ∧ m.transports.get? d = some t

theorem subscribers_of_size_le {f : Fabric} {c : ChannelId} (h : f.channels.size ≤ c.index) :
  f.subscribers c = []
  := by
  rw [Fabric.subscribers, Fabric.channel?, Array.getElem?_eq_none h]
  rfl

theorem lt_of_subscribers {f : Fabric} {c : ChannelId} (h : f.subscribers c ≠ []) :
  c.index < f.channels.size
  := by
  by_contra hle
  exact h (subscribers_of_size_le (Nat.le_of_not_lt hle))

namespace Layout

variable {settings : Settings} {inputs : List Input} {f f' : Fabric} {m : MemoryBinder}

theorem input_lt (hl : Layout settings inputs f m) {i : Input} (hi : i ∈ inputs) :
  i.channel.index < f.channels.size
  := by
  apply lt_of_subscribers
  rw [(hl.input i hi).1]
  exact List.cons_ne_nil _ _

/-- No handler is taken for one that subscribes. -/
theorem handler_new (hl : Layout settings inputs f m) {d : String} {t : ChannelId}
    (ht : m.transports.get? d = some t) :
  ⟨f.handlers.size⟩ ∉ f.subscribers t
  := by
  intro hmem
  obtain ⟨i, -, -, hh⟩ := hl.heard ht _ hmem
  exact Nat.lt_irrefl _ (Array.getElem?_eq_some_iff.mp hh).1

/-- What leaves all handlers alone, and the subscribers of inputs and transport channels, keeps the
layout. -/
theorem of_kept (hl : Layout settings inputs f m) (hsize : f.channels.size ≤ f'.channels.size)
    (hhandler : ∀ {h handler}, f.handler? h = some handler → f'.handler? h = some handler)
    (hsubscribers : ∀ c, (∃ i ∈ inputs, i.channel = c) ∨ (∃ d, m.transports.get? d = some c) →
      f'.subscribers c = f.subscribers c) :
  Layout settings inputs f' m
  := by
  constructor
  · intro i hi
    obtain ⟨hsubscriber, received, hh⟩ := hl.input i hi
    rw [hsubscribers _ (Or.inl ⟨i, hi, rfl⟩)]
    exact ⟨hsubscriber, received, hhandler hh⟩
  · exact hl.input_inj
  · intro d t ht
    exact Nat.lt_of_lt_of_le (hl.transport_lt ht) hsize
  · exact hl.transport_inj
  · exact hl.transport_ne
  · intro d t ht h hh
    rw [hsubscribers _ (Or.inr ⟨d, ht⟩)] at hh
    obtain ⟨i, hi, hd, hforwards⟩ := hl.heard ht h hh
    exact ⟨i, hi, hd, hhandler hforwards⟩

theorem of_quiet (hl : Layout settings inputs f m) (hquiet : f.Quiet f')
    (hsubscribers : ∀ c, (∃ i ∈ inputs, i.channel = c) ∨ (∃ d, m.transports.get? d = some c) →
      f'.subscribers c = f.subscribers c) :
  Layout settings inputs f' m
  := hl.of_kept hquiet.size hquiet.handler hsubscribers

/-- The channel that is opened for a destination that has none is laid out with nobody to hear it. -/
theorem openTransport (hl : Layout settings inputs f m) (d : String) :
  Layout settings inputs (m.openTransport f d).1 (m.openTransport f d).2.1
  := by
  have hgrows := (Fabric.Grows.refl f).openTransport m d
  have hquiet := (Fabric.Quiet.refl f).openTransport m d
  have hget := MemoryBinder.get?_openTransport f m d
  have hnew := MemoryBinder.openTransport_new f m d
  -- a transport channel is one of before, or the one that is new
  have hcases : ∀ {d' t}, (m.openTransport f d).2.1.transports.get? d' = some t →
      m.transports.get? d' = some t ∨ d' = d ∧ m.transports.get? d = none ∧ t = ⟨f.channels.size⟩ := by
    intro d' t ht
    rw [hget] at ht
    split at ht
    · rename_i heq
      cases ht
      rcases hnew with hold | ⟨hnone, hsize⟩
      · rw [← heq]
        exact Or.inl hold
      · exact Or.inr ⟨heq.symm, hnone, hsize⟩
    · exact Or.inl ht
  have hlt : ∀ {d' t}, m.transports.get? d' = some t → t ≠ ⟨f.channels.size⟩ := by
    rintro d' t ht rfl
    exact Nat.lt_irrefl _ (hl.transport_lt ht)
  have hkept := hl.of_quiet hquiet fun c _ => congrFun hgrows.subscribers c
  constructor
  · exact hkept.input
  · exact hkept.input_inj
  · intro d' t ht
    rcases hcases ht with ht | ⟨rfl, hnone, rfl⟩
    · exact hkept.transport_lt ht
    · unfold MemoryBinder.openTransport
      rw [hnone]
      simp [Fabric.addChannel]
  · intro d₁ d₂ t h₁ h₂
    rcases hcases h₁ with hold₁ | ⟨heq₁, -, hsize₁⟩
    · rcases hcases h₂ with hold₂ | ⟨-, -, hsize₂⟩
      · exact hl.transport_inj hold₁ hold₂
      · exact absurd hsize₂ (hlt hold₁)
    · rcases hcases h₂ with hold₂ | ⟨heq₂, -, -⟩
      · exact absurd hsize₁ (hlt hold₂)
      · rw [heq₁, heq₂]
  · intro d' t ht i hi
    rcases hcases ht with ht | ⟨-, -, rfl⟩
    · exact hl.transport_ne ht i hi
    · intro heq
      have hinput := hl.input_lt hi
      rw [← heq] at hinput
      exact Nat.lt_irrefl _ hinput
  · intro d' t ht h hh
    rcases hcases ht with ht | ⟨-, -, rfl⟩
    · exact hkept.heard ht h hh
    · have hnobody : f.subscribers ⟨f.channels.size⟩ = [] := subscribers_of_size_le (Nat.le_refl _)
      rw [hgrows.subscribers, hnobody] at hh
      cases hh

/-- An input may be put on the transport channel of a destination that it is bound to. -/
theorem link_input (hl : Layout settings inputs f m) {i : Input} (hi : i ∈ inputs) {d : String}
    (hd : d ∈ Text.commaParts (settings.destination i.name)) {t : ChannelId}
    (ht : m.transports.get? d = some t) {b : BindingId} {binding : Binding}
    (hlinks : f.Links f' t i.channel b binding) :
  Layout settings inputs f' m
  := by
  have hother : ∀ c, c ≠ t → f'.subscribers c = f.subscribers c := by
    intro c hc
    rw [hlinks.subscribers_eq, if_neg (Ne.symm hc)]
  constructor
  · intro j hj
    obtain ⟨hsubscriber, received, hh⟩ := hl.input j hj
    rw [hother _ (Ne.symm (hl.transport_ne ht j hj))]
    exact ⟨hsubscriber, received, hlinks.quiet.handler hh⟩
  · exact hl.input_inj
  · intro d' t' ht'
    exact Nat.lt_of_lt_of_le (hl.transport_lt ht') hlinks.quiet.size
  · exact hl.transport_inj
  · exact hl.transport_ne
  · intro d' t' ht' h hh
    have hold : h ∈ f.subscribers t' → ∃ i ∈ inputs,
        d' ∈ Text.commaParts (settings.destination i.name)
          ∧ f'.handler? h = some (.forwarding i.channel) := by
      intro hh
      obtain ⟨j, hj, hd', hforwards⟩ := hl.heard ht' h hh
      exact ⟨j, hj, hd', hlinks.quiet.handler hforwards⟩
    rw [hlinks.subscribers_eq] at hh
    split at hh
    · rename_i heq
      subst heq
      rcases List.mem_append.mp hh with hh | hh
      · exact hold hh
      · rw [List.mem_singleton.mp hh, hl.transport_inj ht' ht]
        exact ⟨i, hi, hd, hlinks.forwards⟩
    · exact hold hh

/-- A channel that is neither an input nor a transport channel may be put anything on. -/
theorem link_output (hl : Layout settings inputs f m) {c target : ChannelId}
    (hnone : f.subscribers c = []) (hc : ∀ d, m.transports.get? d ≠ some c) {b : BindingId}
    {binding : Binding} (hlinks : f.Links f' c target b binding) :
  Layout settings inputs f' m
  := by
  apply hl.of_quiet hlinks.quiet
  intro c' hc'
  rw [hlinks.subscribers_eq, if_neg]
  rintro rfl
  rcases hc' with ⟨i, hi, rfl⟩ | ⟨d, hd⟩
  · rw [(hl.input i hi).1] at hnone
    cases hnone
  · exact hc d hd

end Layout

namespace IsOutput

variable {d : String} {c : ChannelId} {f f' : Fabric} {m m' : MemoryBinder}

theorem of_quiet (ho : IsOutput d c f m) (hquiet : f.Quiet f')
    (hsubscribers : f'.subscribers c = f.subscribers c)
    (htransport : ∀ {d t}, m.transports.get? d = some t → m'.transports.get? d = some t) :
  IsOutput d c f' m'
  := by
  obtain ⟨h, t, hsubscriber, hforwards, ht⟩ := ho
  exact ⟨h, t, hsubscribers.trans hsubscriber, hquiet.handler hforwards, htransport ht⟩

/-- A channel without subscribers that is put on the transport channel of a destination is an output. -/
theorem of_links (hnone : f.subscribers c = []) {t : ChannelId} (ht : m.transports.get? d = some t)
    {b : BindingId} {binding : Binding} (hlinks : f.Links f' c t b binding) :
  IsOutput d c f' m
  := by
  refine ⟨⟨f.handlers.size⟩, t, ?_, hlinks.forwards, ht⟩
  rw [hlinks.subscribers_eq, if_pos rfl, hnone]
  rfl

/-- An output stays one when something is put on a channel without subscribers. -/
theorem link (ho : IsOutput d c f m) {c' target : ChannelId} (hnone : f.subscribers c' = [])
    {b : BindingId} {binding : Binding} (hlinks : f.Links f' c' target b binding) :
  IsOutput d c f' m
  := by
  apply ho.of_quiet hlinks.quiet _ id
  rw [hlinks.subscribers_eq, if_neg]
  rintro rfl
  obtain ⟨h, t, hsubscriber, -⟩ := ho
  rw [hnone] at hsubscriber
  cases hsubscriber

end IsOutput

/-! ## Bindings -/

/-- Whether the shutdown asks for a name in a role: for the names of inputs, and for what is registered. -/
def IsListed (names : List String) (registry : Registry) : Role → String → Prop
  | .consumer, name => name ∈ names
  | .producer, name => name ∈ registry.outputs.keys

/-- Every binding that is bound is held in place by a subscription, and it is tracked under a name that the
shutdown asks for, or was made for a consumer bind that is under way. -/
structure Booked (names : List String) (created : List BindingId) (f : Fabric) (ledger : Ledger)
    (registry : Registry) : Prop where
  attached : ∀ {b binding}, f.binding? b = some binding → binding.bound = true →
    ∃ c h, binding.attachment = .subscription c h
  held : ∀ {b binding}, f.binding? b = some binding → binding.bound = true →
    b ∈ created ∧ binding.role = .consumer
      ∨ ∃ name, b ∈ ledger.tracked binding.role name ∧ IsListed names registry binding.role name

namespace Booked

variable {names : List String} {created : List BindingId} {f f' : Fabric} {ledger : Ledger}
variable {registry : Registry}

theorem of_bindings (hb : Booked names created f ledger registry) (h : f'.bindings = f.bindings) :
  Booked names created f' ledger registry
  := by
  have hbinding : ∀ b, f'.binding? b = f.binding? b := fun b => congrArg (·[b.index]?) h
  constructor
  · intro b binding hmem
    rw [hbinding] at hmem
    exact hb.attached hmem
  · intro b binding hmem
    rw [hbinding] at hmem
    exact hb.held hmem

/-- A consumer that is made for a bind is kept until the bind ends. -/
theorem link_consumer (hb : Booked names created f ledger registry) {c target : ChannelId} {b : BindingId}
    {request : BindRequest} {t : ChannelId} {h : HandlerId} (hrole : request.role = .consumer)
    (hlinks : f.Links f' c target b (request.binding t h)) :
  Booked names (created ++ [b]) f' ledger registry
  := by
  constructor
  · intro b' binding hmem hbound
    rw [hlinks.binding?_eq] at hmem
    split at hmem
    · cases hmem
      exact ⟨_, _, rfl⟩
    · exact hb.attached hmem hbound
  · intro b' binding hmem hbound
    rw [hlinks.binding?_eq] at hmem
    split at hmem
    · rename_i heq
      cases hmem
      rw [heq]
      exact Or.inl ⟨List.mem_append_right _ (List.mem_singleton_self b), hrole⟩
    · rcases hb.held hmem hbound with ⟨hcreated, hconsumer⟩ | htracked
      · exact Or.inl ⟨List.mem_append_left _ hcreated, hconsumer⟩
      · exact Or.inr htracked

/-- The consumers of a bind that has ended are tracked. -/
theorem record_consumers (hb : Booked names created f ledger registry) {name : String}
    (hname : name ∈ names) :
  Booked names [] f (ledger.record .consumer name created) registry
  := by
  refine ⟨hb.attached, ?_⟩
  intro b binding hmem hbound
  right
  rcases hb.held hmem hbound with ⟨hcreated, hconsumer⟩ | ⟨name', htracked, hlisted⟩
  · refine ⟨name, ?_, ?_⟩
    · rw [hconsumer, Ledger.tracked_record, if_pos ⟨rfl, rfl⟩]
      exact List.mem_append_right _ hcreated
    · rw [hconsumer]
      exact hname
  · refine ⟨name', ?_, hlisted⟩
    rw [Ledger.tracked_record]
    split
    · exact List.mem_append_left _ htracked
    · exact htracked

/-- A producer is tracked and registered as soon as it is made. -/
theorem link_producer (hb : Booked names [] f ledger registry) {c target : ChannelId} {b : BindingId}
    {request : BindRequest} {t : ChannelId} {h : HandlerId} (hrole : request.role = .producer)
    (hlinks : f.Links f' c target b (request.binding t h)) (name : String) (output : ChannelId) :
  Booked names [] f' (ledger.record .producer name [b]) (registry.add name output)
  := by
  have hkey : ∀ {other}, other ∈ (registry.add name output).outputs.keys
      ↔ other = name ∨ other ∈ registry.outputs.keys := by
    intro other
    rw [Registry.add, Table.mem_keys_iff, Table.get?_insert, Table.mem_keys_iff]
    by_cases hother : name = other
    · simp [hother]
    · simp [hother, Ne.symm hother]
  constructor
  · intro b' binding hmem hbound
    rw [hlinks.binding?_eq] at hmem
    split at hmem
    · cases hmem
      exact ⟨_, _, rfl⟩
    · exact hb.attached hmem hbound
  · intro b' binding hmem hbound
    right
    rw [hlinks.binding?_eq] at hmem
    split at hmem
    · rename_i heq
      cases hmem
      refine ⟨name, ?_, ?_⟩
      · rw [heq, show (request.binding t h).role = .producer from hrole, Ledger.tracked_record,
          if_pos ⟨rfl, rfl⟩]
        exact List.mem_append_right _ (List.mem_singleton_self b)
      · rw [show (request.binding t h).role = .producer from hrole]
        exact hkey.mpr (Or.inl rfl)
    · rcases hb.held hmem hbound with ⟨hcreated, -⟩ | ⟨name', htracked, hlisted⟩
      · cases hcreated
      · refine ⟨name', ?_, ?_⟩
        · rw [Ledger.tracked_record]
          split
          · exact List.mem_append_left _ htracked
          · exact htracked
        · cases hbinding : binding.role with
          | consumer =>
            rw [hbinding] at hlisted
            exact hlisted
          | producer =>
            rw [hbinding] at hlisted
            exact hkey.mpr (Or.inr hlisted)

end Booked

end Demo

end ChannelBinding
