import ChannelBinding.Proofs.Memory

/-!
# The wiring of an in-memory binder

An in-memory binder has one transport channel a destination.  A producer binding is held in place by a
handler that forwards from the output to the transport channel, a consumer binding by one that forwards
from there to the input.  In every world that can be reached, these handlers are subscribed exactly
while their bindings are bound, or are about to be detached; no one but the binder has hold of them.
-/

namespace ChannelBinding

/-- The request of a bind of the in-memory binder. -/
def MemoryCall.request : MemoryCall → BindRequest
  | opening request => request
  | attaching request _ => request

/-- Whether a binding is held in place by a handler that is subscribed to a channel. -/
def Fabric.Attaches (f : Fabric) (b : BindingId) (binding : Binding) (c : ChannelId)
    (h : HandlerId) : Prop :=
  f.binding? b = some binding ∧ binding.attachment = .subscription c h

/-- Whether a binding is in force: it is bound, or it was marked as unbound by a release that has yet
to unsubscribe its handler.  Where no release stands between the two, this is to be bound. -/
def Binding.InForce (binding : Binding) (b : BindingId) (task : Nat → Task MemoryCall) : Prop :=
  binding.bound = true ∨ ∃ i, task i = .detaching b

/-- The transport channels of an in-memory binder, and the handlers that hold bindings in place. -/
structure Anchored (f : Fabric) (m : MemoryBinder) : Prop where
  transport_lt : ∀ {d t}, m.transports.get? d = some t → t.index < f.channels.size
  transport_inj : ∀ {d d' t}, m.transports.get? d = some t → m.transports.get? d' = some t → d = d'
  /-- Every binding is held in place by a subscription. -/
  attached : ∀ {b binding}, f.binding? b = some binding →
    ∃ c h, binding.attachment = .subscription c h
  /-- The handler of a producer binding forwards to the transport channel of the destination. -/
  producer : ∀ {b binding c h}, f.Attaches b binding c h → binding.role = .producer →
    ∃ t, m.transports.get? binding.name = some t ∧ f.handler? h = some (.forwarding t)
  /-- The handler of a consumer binding forwards from the transport channel of the destination. -/
  consumer : ∀ {b binding c h}, f.Attaches b binding c h → binding.role = .consumer →
    m.transports.get? binding.name = some c
      ∧ ∃ input, f.handler? h = some (.forwarding input) ∧ input.index < f.channels.size
  handler_inj : ∀ {b b' binding binding' c c' h}, f.Attaches b binding c h →
    f.Attaches b' binding' c' h → b = b'
  /-- No handler of a binding has a label. -/
  unlabelled : ∀ {label h b binding c}, f.labels.handlers.get? label = some h →
    ¬ f.Attaches b binding c h
  labelled_lt : ∀ {label h}, f.labels.handlers.get? label = some h → h.index < f.handlers.size

/-- The subscriptions of the handlers that hold bindings in place, and the releases under way. -/
structure Hung (f : Fabric) (task : Nat → Task MemoryCall) : Prop where
  nodup : ∀ c, (f.subscribers c).Nodup
  subscriber_lt : ∀ {c h}, h ∈ f.subscribers c → h.index < f.handlers.size
  /-- The handler of a binding is subscribed to its channel, and to no other, exactly while the binding
  is in force. -/
  subscribed : ∀ {b binding c c' h}, f.Attaches b binding c h →
    (h ∈ f.subscribers c' ↔ c' = c ∧ binding.InForce b task)
  /-- A binding that is about to be detached is not bound. -/
  unbound : ∀ {i b}, task i = .detaching b →
    ∃ binding, f.binding? b = some binding ∧ binding.bound = false
  detaching_inj : ∀ {i j b}, task i = .detaching b → task j = .detaching b → i = j

/-- What the bind calls under way were asked for, and what they know. -/
structure Informed (f : Fabric) (m : MemoryBinder) (task : Nat → Task MemoryCall) : Prop where
  request_lt : ∀ {i call}, task i = .attaching call →
    call.request.channel.index < f.channels.size
  /-- A bind that is about to subscribe its handler knows the transport channel. -/
  transport_of_attaching : ∀ {i request t}, task i = .attaching (.attaching request t) →
    m.transports.get? request.destination = some t

/-- The bindings of an in-memory binder and what holds them in place. -/
structure Wired (f : Fabric) (m : MemoryBinder) (task : Nat → Task MemoryCall) : Prop
  extends Anchored f m, Hung f task, Informed f m task

theorem wired_empty :
  Wired {} {} fun _ => .idle
  := by
  constructor
  · constructor <;> simp [Fabric.Attaches, Fabric.binding?]
  · constructor <;> simp [Fabric.Attaches, Fabric.binding?, Fabric.subscribers, Fabric.channel?]
  · constructor <;> simp

/-- What holds a binding in place. -/
theorem Fabric.Attaches.unique {f : Fabric} {b : BindingId} {binding binding' : Binding}
    {c c' : ChannelId} {h h' : HandlerId} (hb : f.Attaches b binding c h)
    (hb' : f.Attaches b binding' c' h') :
  binding' = binding ∧ c' = c ∧ h' = h
  := by
  obtain ⟨hbinding, hatt⟩ := hb
  obtain ⟨hbinding', hatt'⟩ := hb'
  rw [hbinding] at hbinding'
  cases hbinding'
  rw [hatt] at hatt'
  cases hatt'
  exact ⟨rfl, rfl, rfl⟩

open World (of_update)

variable {f f' : Fabric} {m : MemoryBinder} {task : Nat → Task MemoryCall}

/-! ## What leaves the bindings alone -/

/-- A fabric with the bindings of another, at least its channels, and at least its handlers. -/
structure Fabric.Extends (f f' : Fabric) : Prop where
  bindings : f'.bindings = f.bindings
  channels : f.channels.size ≤ f'.channels.size
  handlers : f.handlers.size ≤ f'.handlers.size
  forwarding : ∀ {h target}, f.handler? h = some (.forwarding target) →
    f'.handler? h = some (.forwarding target)

namespace Fabric

theorem Extends.binding?_eq (hf : f.Extends f') (b : BindingId) :
  f'.binding? b = f.binding? b
  := by
  rw [binding?, hf.bindings]
  rfl

/-- A fabric that extends another attaches the same bindings. -/
theorem Extends.of_attaches (hf : f.Extends f') {b : BindingId} {binding : Binding} {c : ChannelId}
    {h : HandlerId} (hb : f'.Attaches b binding c h) :
  f.Attaches b binding c h
  := by
  obtain ⟨hb, hatt⟩ := hb
  rw [hf.binding?_eq] at hb
  exact ⟨hb, hatt⟩

/-- What is left of the fabric when a handler subscribes. -/
theorem extends_subscribe (f : Fabric) (c : ChannelId) (h : HandlerId) :
  f.Extends (f.subscribe c h).1 ∧ (f.subscribe c h).1.labels = f.labels
  := by
  unfold subscribe
  split
  · exact ⟨⟨rfl, Nat.le_refl _, Nat.le_refl _, id⟩, rfl⟩
  · split
    · exact ⟨⟨rfl, Nat.le_refl _, Nat.le_refl _, id⟩, rfl⟩
    · exact ⟨⟨rfl, by simp, Nat.le_refl _, id⟩, rfl⟩

/-- What is left of the fabric when a handler unsubscribes. -/
theorem extends_unsubscribe (f : Fabric) (c : ChannelId) (h : HandlerId) :
  f.Extends (f.unsubscribe c h).1 ∧ (f.unsubscribe c h).1.labels = f.labels
  := by
  unfold unsubscribe
  split
  · exact ⟨⟨rfl, Nat.le_refl _, Nat.le_refl _, id⟩, rfl⟩
  · split
    · exact ⟨⟨rfl, by simp, Nat.le_refl _, id⟩, rfl⟩
    · exact ⟨⟨rfl, Nat.le_refl _, Nat.le_refl _, id⟩, rfl⟩

end Fabric

/-- The handler of a binding is there. -/
theorem Anchored.lt_of_attaches (ha : Anchored f m) {b : BindingId} {binding : Binding}
    {c : ChannelId} {h : HandlerId} (hb : f.Attaches b binding c h) :
  h.index < f.handlers.size
  := by
  have hsome : (f.handler? h).isSome = true := by
    cases hrole : binding.role with
    | consumer =>
      obtain ⟨-, input, hh, -⟩ := ha.consumer hb hrole
      rw [hh]
      rfl
    | producer =>
      obtain ⟨t, -, hh⟩ := ha.producer hb hrole
      rw [hh]
      rfl
  simpa [Fabric.handler?] using hsome

theorem Anchored.extend (ha : Anchored f m) (hf : f.Extends f')
    (hlabels : f'.labels.handlers = f.labels.handlers) :
  Anchored f' m
  := by
  constructor
  · intro d t ht
    apply Nat.lt_of_lt_of_le (ha.transport_lt ht) hf.channels
  · exact ha.transport_inj
  · intro b binding hb
    rw [hf.binding?_eq] at hb
    apply ha.attached hb
  · intro b binding c h hb hrole
    obtain ⟨t, ht, hh⟩ := ha.producer (hf.of_attaches hb) hrole
    use t, ht
    apply hf.forwarding hh
  · intro b binding c h hb hrole
    obtain ⟨ht, input, hh, hlt⟩ := ha.consumer (hf.of_attaches hb) hrole
    use ht, input, hf.forwarding hh
    apply Nat.lt_of_lt_of_le hlt hf.channels
  · intro b b' binding binding' c c' h hb hb'
    apply ha.handler_inj (hf.of_attaches hb) (hf.of_attaches hb')
  · intro label h b binding c hlabel hb
    rw [hlabels] at hlabel
    apply ha.unlabelled hlabel (hf.of_attaches hb)
  · intro label h hlabel
    rw [hlabels] at hlabel
    apply Nat.lt_of_lt_of_le (ha.labelled_lt hlabel) hf.handlers

theorem Hung.extend (hh : Hung f task) (hf : f.Extends f')
    (hsubscribers : ∀ {b binding c h}, f.Attaches b binding c h →
      ∀ c', h ∈ f'.subscribers c' ↔ h ∈ f.subscribers c')
    (hnodup : ∀ c, (f'.subscribers c).Nodup)
    (hlt : ∀ {c h}, h ∈ f'.subscribers c → h.index < f'.handlers.size) :
  Hung f' task
  := by
  constructor
  · apply hnodup
  · intro c h hmem
    apply hlt hmem
  · intro b binding c c' h hb
    rw [hsubscribers (hf.of_attaches hb), hh.subscribed (hf.of_attaches hb)]
  · intro i b hi
    rw [hf.binding?_eq]
    apply hh.unbound hi
  · exact hh.detaching_inj

theorem Informed.extend (hi : Informed f m task) (hf : f.channels.size ≤ f'.channels.size) :
  Informed f' m task
  := by
  constructor
  · intro i call htask
    apply Nat.lt_of_lt_of_le (hi.request_lt htask) hf
  · exact hi.transport_of_attaching

namespace Wired

/-- Wired bindings stay wired if their handlers stay subscribed where they are. -/
theorem extend (hw : Wired f m task) (hf : f.Extends f')
    (hlabels : f'.labels.handlers = f.labels.handlers)
    (hsubscribers : ∀ {b binding c h}, f.Attaches b binding c h →
      ∀ c', h ∈ f'.subscribers c' ↔ h ∈ f.subscribers c')
    (hnodup : ∀ c, (f'.subscribers c).Nodup)
    (hlt : ∀ {c h}, h ∈ f'.subscribers c → h.index < f'.handlers.size) :
  Wired f' m task
  := by
  constructor
  · apply hw.toAnchored.extend hf hlabels
  · apply hw.toHung.extend hf hsubscribers hnodup hlt
  · apply hw.toInformed.extend hf.channels

/-- Wired bindings stay wired if all subscriptions stay as they are. -/
theorem extend_same (hw : Wired f m task) (hf : f.Extends f')
    (hlabels : f'.labels.handlers = f.labels.handlers)
    (hsubscribers : f'.subscribers = f.subscribers) :
  Wired f' m task
  := by
  apply hw.extend hf hlabels
  · intro b binding c h _ c'
    rw [hsubscribers]
  · rw [hsubscribers]
    apply hw.nodup
  · intro c h hh
    rw [hsubscribers] at hh
    apply Nat.lt_of_lt_of_le (hw.subscriber_lt hh) hf.handlers

/-- A handler that holds no binding in place may subscribe anywhere. -/
theorem subscribe (hw : Wired f m task) {h : HandlerId} (hlt : h.index < f.handlers.size)
    (hfree : ∀ {b binding c}, ¬ f.Attaches b binding c h) (c : ChannelId) :
  Wired (f.subscribe c h).1 m task
  := by
  obtain ⟨hextends, hlabels⟩ := f.extends_subscribe c h
  apply hw.extend hextends
  · rw [hlabels]
  · intro b binding c₁ h₁ hb c'
    constructor
    · intro hmem
      rcases Fabric.of_mem_subscribers_subscribe hmem with hmem | ⟨-, rfl⟩
      · apply hmem
      · apply absurd hb hfree
    · apply Fabric.mem_subscribers_subscribe_of_mem
  · intro d
    apply Fabric.nodup_subscribers_subscribe hw.nodup
  · intro d h' hmem
    apply Nat.lt_of_lt_of_le _ hextends.handlers
    rcases Fabric.of_mem_subscribers_subscribe hmem with hmem | ⟨-, rfl⟩
    · apply hw.subscriber_lt hmem
    · apply hlt

/-- A handler that has a label may unsubscribe anywhere. -/
theorem unsubscribe (hw : Wired f m task) {label : String} {h : HandlerId}
    (hlabel : f.labels.handlers.get? label = some h) (c : ChannelId) :
  Wired (f.unsubscribe c h).1 m task
  := by
  obtain ⟨hextends, hlabels⟩ := f.extends_unsubscribe c h
  apply hw.extend hextends
  · rw [hlabels]
  · intro b binding c₁ h₁ hb c'
    have hne : h₁ ≠ h := by
      rintro rfl
      apply hw.unlabelled hlabel hb
    rw [Fabric.subscribers_unsubscribe]
    split
    · apply List.mem_erase_of_ne hne
    · apply Iff.rfl
  · intro d
    rw [Fabric.subscribers_unsubscribe]
    split
    · apply (hw.nodup d).erase
    · apply hw.nodup d
  · intro d h' hmem
    apply Nat.lt_of_lt_of_le _ hextends.handlers
    rw [Fabric.subscribers_unsubscribe] at hmem
    split at hmem
    · apply hw.subscriber_lt (List.mem_of_mem_erase hmem)
    · apply hw.subscriber_lt hmem

/-- Sends leave wired bindings wired: scripts have hold of labelled handlers only. -/
theorem sendsKeep (m : MemoryBinder) (task : Nat → Task MemoryCall) :
  Fabric.SendsKeep fun f => Wired f m task
  := by
  constructor
  · intro f e _ hw
    exact hw.extend_same ⟨rfl, Nat.le_refl _, Nat.le_refl _, id⟩ rfl rfl
  · intro f c channel turn hc hw
    refine hw.extend_same ⟨rfl, by simp, Nat.le_refl _, id⟩ rfl ?_
    apply Fabric.subscribers_setTurn turn hc
  · intro f h handler handler' hh hreceives hw
    refine hw.extend_same ⟨rfl, Nat.le_refl _, ?_, ?_⟩ rfl rfl
    · simp [Fabric.setHandler]
    · intro h' target
      apply Fabric.forwarding_setHandler hh hreceives
  · intro f c label h hlabel hw
    apply hw.subscribe (hw.labelled_lt hlabel) (hw.unlabelled hlabel)
  · intro f c label h hlabel hw
    apply hw.unsubscribe hlabel

/-! ## Acts -/

/-- A handler that is added leaves wired bindings wired. -/
theorem addHandler (hw : Wired f m task) (handler : Handler) :
  Wired (f.addHandler handler).1 m task
  := by
  refine hw.extend_same ⟨rfl, Nat.le_refl _, ?_, ?_⟩ rfl rfl
  · simp [Fabric.addHandler]
  · intro h target
    apply Fabric.handler?_addHandler_of_some

/-- What is added under a label is not a handler of a binding. -/
theorem newHandler (hw : Wired f m task) (label : String) (handler : Handler) :
  Wired (f.act (.newHandler label handler)) m task
  := by
  have hadd := hw.addHandler handler
  have hnew : ∀ {label' h}, (f.labels.handlers.insert label ⟨f.handlers.size⟩).get? label' = some h →
      h = ⟨f.handlers.size⟩ ∨ f.labels.handlers.get? label' = some h := by
    intro label' h hlabel
    rw [Table.get?_insert] at hlabel
    split at hlabel
    · cases hlabel
      apply Or.inl rfl
    · apply Or.inr hlabel
  constructor
  · constructor
    · exact hadd.transport_lt
    · exact hadd.transport_inj
    · exact hadd.attached
    · exact hadd.producer
    · exact hadd.consumer
    · exact hadd.handler_inj
    · intro label' h b binding c hlabel hb
      rcases hnew hlabel with rfl | hold
      · apply Nat.lt_irrefl _ (hw.lt_of_attaches hb)
      · apply hadd.unlabelled hold hb
    · intro label' h hlabel
      rcases hnew hlabel with rfl | hold
      · simp [Fabric.act, Fabric.addHandler]
      · apply hadd.labelled_lt hold
  · refine hadd.toHung.extend ⟨rfl, Nat.le_refl _, Nat.le_refl _, id⟩ ?_ hadd.nodup hadd.subscriber_lt
    intro b binding c h _ c'
    apply Iff.rfl
  · exact hadd.toInformed.extend (Nat.le_refl _)

/-- Whatever the application does leaves wired bindings wired. -/
theorem act (hw : Wired f m task) (a : Act) :
  Wired (f.act a) m task
  := by
  cases a with
  | newChannel name contentType =>
    refine hw.extend_same ⟨rfl, by simp [Fabric.act, Fabric.addChannel], Nat.le_refl _, id⟩ rfl ?_
    apply Fabric.subscribers_addChannel
  | newHandler label handler => apply hw.newHandler
  | nameChannel label c => exact hw.extend_same ⟨rfl, Nat.le_refl _, Nat.le_refl _, id⟩ rfl rfl
  | subscribe c label =>
    simp only [Fabric.act]
    split
    · apply hw
    · rename_i h hlabel
      apply hw.subscribe (hw.labelled_lt hlabel) (hw.unlabelled hlabel)
  | unsubscribe c label =>
    simp only [Fabric.act]
    split
    · apply hw
    · rename_i h hlabel
      apply hw.unsubscribe hlabel
  | send c message =>
    simp only [Fabric.act]
    split
    · apply hw
    · rename_i hdeliver
      apply (sendsKeep m task).deliver hdeliver hw
  | wait time => exact hw.extend_same ⟨rfl, Nat.le_refl _, Nat.le_refl _, id⟩ rfl rfl

end Wired

/-! ## Tasks -/

/-- A change of one task, from and to others, does not change who detaches a binding. -/
theorem update_detaching_iff {i : Nat} {x : Task MemoryCall} {b : BindingId}
    (hi : task i ≠ .detaching b) (hx : x ≠ .detaching b) (j : Nat) :
  Function.update task i x j = .detaching b ↔ task j = .detaching b
  := by
  constructor
  · intro h
    rcases of_update h with ⟨-, hnew⟩ | ⟨-, hold⟩
    · apply absurd hnew hx
    · apply hold
  · intro h
    rw [Function.update_of_ne, h]
    rintro rfl
    apply hi h

/-- A change of one task, from and to others, does not change whether a binding is in force. -/
theorem inForce_update_iff {i : Nat} {x : Task MemoryCall} {b : BindingId}
    (hi : task i ≠ .detaching b) (hx : x ≠ .detaching b) (binding : Binding) :
  binding.InForce b (Function.update task i x) ↔ binding.InForce b task
  := by
  simp only [Binding.InForce, update_detaching_iff hi hx]

theorem Hung.turn (hh : Hung f task) {i : Nat} (hi : ∀ b, task i ≠ .detaching b)
    {x : Task MemoryCall} (hx : ∀ b, x ≠ .detaching b) :
  Hung f (Function.update task i x)
  := by
  constructor
  · exact hh.nodup
  · exact hh.subscriber_lt
  · intro b binding c c' h hb
    rw [inForce_update_iff (hi b) (hx b), hh.subscribed hb]
  · intro j b hj
    rw [update_detaching_iff (hi b) (hx b)] at hj
    apply hh.unbound hj
  · intro j k b hj hk
    rw [update_detaching_iff (hi b) (hx b)] at hj hk
    apply hh.detaching_inj hj hk

/-- A call may turn to a bind that is informed. -/
theorem Informed.turn (hi : Informed f m task) (i : Nat) {x : Task MemoryCall}
    (hrequest : ∀ {call}, x = .attaching call → call.request.channel.index < f.channels.size)
    (htransport : ∀ {request t}, x = .attaching (.attaching request t) →
      m.transports.get? request.destination = some t) :
  Informed f m (Function.update task i x)
  := by
  constructor
  · intro j call hj
    rcases of_update hj with ⟨-, hnew⟩ | ⟨-, hold⟩
    · apply hrequest hnew
    · apply hi.request_lt hold
  · intro j request t hj
    rcases of_update hj with ⟨-, hnew⟩ | ⟨-, hold⟩
    · apply htransport hnew
    · apply hi.transport_of_attaching hold

/-- A call may turn to what is not a bind. -/
theorem Informed.turn_away (hi : Informed f m task) (i : Nat) {x : Task MemoryCall}
    (hx : ∀ call, x ≠ .attaching call) :
  Informed f m (Function.update task i x)
  := by
  apply hi.turn i
  · intro call hcall
    apply absurd hcall (hx _)
  · intro request t hcall
    apply absurd hcall (hx _)

namespace Wired

/-- A call that is not in the middle of a release may turn to a bind. -/
theorem turn (hw : Wired f m task) {i : Nat} (hi : ∀ b, task i ≠ .detaching b)
    {call : MemoryCall} (hrequest : call.request.channel.index < f.channels.size)
    (htransport : ∀ {request t}, call = .attaching request t →
      m.transports.get? request.destination = some t) :
  Wired f m (Function.update task i (.attaching call))
  := by
  constructor
  · exact hw.toAnchored
  · apply hw.toHung.turn hi
    intro b hb
    cases hb
  · apply hw.toInformed.turn i
    · rintro call' ⟨⟩
      apply hrequest
    · rintro request t ⟨⟩
      apply htransport rfl

/-- A call that is not in the middle of a release may turn to nothing. -/
theorem turn_idle (hw : Wired f m task) {i : Nat} (hi : ∀ b, task i ≠ .detaching b) :
  Wired f m (Function.update task i .idle)
  := by
  constructor
  · exact hw.toAnchored
  · apply hw.toHung.turn hi
    intro b hb
    cases hb
  · apply hw.toInformed.turn_away i
    intro call hcall
    cases hcall

/-! ## Binds -/

/-- A new transport channel leaves wired bindings wired. -/
theorem insertTransport (hw : Wired f m task) {d : String} {t : ChannelId}
    (hnone : m.transports.get? d = none) (ht : t.index < f.channels.size)
    (hfresh : ∀ d', m.transports.get? d' ≠ some t) :
  Wired f ⟨m.transports.insert d t⟩ task
  := by
  have hget : ∀ {d' t'}, (m.transports.insert d t).get? d' = some t' →
      (d' = d ∧ t' = t) ∨ m.transports.get? d' = some t' := by
    intro d' t' h
    rw [Table.get?_insert] at h
    split at h
    · cases h
      rename_i heq
      exact Or.inl ⟨heq.symm, rfl⟩
    · exact Or.inr h
  have hkept : ∀ {d' t'}, m.transports.get? d' = some t' →
      (m.transports.insert d t).get? d' = some t' := Table.get?_insert_of_new t hnone
  constructor
  · constructor
    · intro d' t' h
      rcases hget h with ⟨-, rfl⟩ | hold
      · apply ht
      · apply hw.transport_lt hold
    · intro d₁ d₂ t' h₁ h₂
      rcases hget h₁ with ⟨rfl, rfl⟩ | hold₁
      · rcases hget h₂ with ⟨rfl, -⟩ | hold₂
        · rfl
        · apply absurd hold₂ (hfresh d₂)
      · rcases hget h₂ with ⟨rfl, rfl⟩ | hold₂
        · apply absurd hold₁ (hfresh d₁)
        · apply hw.transport_inj hold₁ hold₂
    · exact hw.attached
    · intro b binding c h hb hrole
      obtain ⟨t', ht', hh⟩ := hw.producer hb hrole
      use t', hkept ht'
    · intro b binding c h hb hrole
      obtain ⟨hc, hh⟩ := hw.consumer hb hrole
      use hkept hc
    · exact hw.handler_inj
    · exact hw.unlabelled
    · exact hw.labelled_lt
  · exact hw.toHung
  · constructor
    · exact hw.request_lt
    · intro i request t' hi
      apply hkept (hw.transport_of_attaching hi)

/-- Opening a transport channel leaves wired bindings wired. -/
theorem openTransport (hw : Wired f m task) (d : String) :
  Wired (m.openTransport f d).1 (m.openTransport f d).2.1 task
    ∧ (m.openTransport f d).2.1.transports.get? d = some (m.openTransport f d).2.2
  := by
  unfold MemoryBinder.openTransport
  split
  · rename_i t ht
    constructor
    · exact hw.extend_same ⟨rfl, Nat.le_refl _, Nat.le_refl _, id⟩ rfl rfl
    · apply ht
  · rename_i hnone
    have hadd : Wired ((f.addChannel { name := d }).1.emit (.transportCreated d)) m task := by
      refine hw.extend_same ⟨rfl, by simp [Fabric.addChannel], Nat.le_refl _, id⟩ rfl ?_
      apply f.subscribers_addChannel d none
    constructor
    · apply hadd.insertTransport hnone
      · simp [Fabric.addChannel]
      · intro d' hd'
        have hlt := hw.transport_lt hd'
        simp [Fabric.addChannel] at hlt
    · apply Table.get?_insert_self

end Wired

/-- Whether a handler is there and nobody has hold of it. -/
structure Fabric.IsFree (f : Fabric) (h : HandlerId) : Prop where
  lt : h.index < f.handlers.size
  unattached : ∀ {b binding c}, ¬ f.Attaches b binding c h
  unlabelled : ∀ {label}, f.labels.handlers.get? label ≠ some h
  unsubscribed : ∀ {c}, h ∉ f.subscribers c

/-- A binding that is added is attached, and so are those that were there. -/
theorem Fabric.attaches_addBinding {binding binding' : Binding} {b : BindingId} {c c' : ChannelId}
    {h h' : HandlerId} (hatt : binding.attachment = .subscription c h)
    (hb : (f.addBinding binding).1.Attaches b binding' c' h') :
  (b = ⟨f.bindings.size⟩ ∧ binding' = binding ∧ c' = c ∧ h' = h) ∨ f.Attaches b binding' c' h'
  := by
  obtain ⟨hb, hatt'⟩ := hb
  rw [binding?_addBinding] at hb
  split at hb
  · cases hb
    rename_i heq
    rw [hatt] at hatt'
    cases hatt'
    exact Or.inl ⟨heq, rfl, rfl, rfl⟩
  · exact Or.inr ⟨hb, hatt'⟩

theorem Fabric.attaches_addBinding_of_attaches {b : BindingId} {binding : Binding} {c : ChannelId}
    {h : HandlerId} (binding' : Binding) (hb : f.Attaches b binding c h) :
  (f.addBinding binding').1.Attaches b binding c h
  := by
  obtain ⟨hb, hatt⟩ := hb
  refine ⟨?_, hatt⟩
  rw [binding?_addBinding, if_neg, hb]
  rintro rfl
  simp [binding?] at hb

theorem Fabric.attaches_addBinding_self (f : Fabric) {binding : Binding} {c : ChannelId}
    {h : HandlerId} (hatt : binding.attachment = .subscription c h) :
  (f.addBinding binding).1.Attaches ⟨f.bindings.size⟩ binding c h
  := by
  refine ⟨?_, hatt⟩
  rw [binding?_addBinding, if_pos rfl]

section AddBinding

variable {binding : Binding} {c : ChannelId} {h : HandlerId}

/-- A binding may be added if its handler holds no other and forwards as it should. -/
theorem Anchored.addBinding (ha : Anchored f m) (hatt : binding.attachment = .subscription c h)
    (hfree : ∀ {b binding c}, ¬ f.Attaches b binding c h)
    (hunlabelled : ∀ label, f.labels.handlers.get? label ≠ some h)
    (hproducer : binding.role = .producer →
      ∃ t, m.transports.get? binding.name = some t ∧ f.handler? h = some (.forwarding t))
    (hconsumer : binding.role = .consumer → m.transports.get? binding.name = some c
      ∧ ∃ input, f.handler? h = some (.forwarding input) ∧ input.index < f.channels.size) :
  Anchored (f.addBinding binding).1 m
  := by
  constructor
  · exact ha.transport_lt
  · exact ha.transport_inj
  · intro b binding' hb
    rw [Fabric.binding?_addBinding] at hb
    split at hb
    · cases hb
      exact ⟨c, h, hatt⟩
    · apply ha.attached hb
  · intro b binding' c' h' hb hrole
    rcases Fabric.attaches_addBinding hatt hb with ⟨-, rfl, rfl, rfl⟩ | hold
    · apply hproducer hrole
    · apply ha.producer hold hrole
  · intro b binding' c' h' hb hrole
    rcases Fabric.attaches_addBinding hatt hb with ⟨-, rfl, rfl, rfl⟩ | hold
    · apply hconsumer hrole
    · apply ha.consumer hold hrole
  · intro b₁ b₂ binding₁ binding₂ c₁ c₂ h' hb₁ hb₂
    rcases Fabric.attaches_addBinding hatt hb₁ with ⟨rfl, -, -, rfl⟩ | hold₁
    · rcases Fabric.attaches_addBinding hatt hb₂ with ⟨rfl, -⟩ | hold₂
      · rfl
      · apply absurd hold₂ hfree
    · rcases Fabric.attaches_addBinding hatt hb₂ with ⟨-, -, -, rfl⟩ | hold₂
      · apply absurd hold₁ hfree
      · apply ha.handler_inj hold₁ hold₂
  · intro label h' b binding' c' hlabel hb
    rcases Fabric.attaches_addBinding hatt hb with ⟨-, -, -, rfl⟩ | hold
    · apply hunlabelled label hlabel
    · apply ha.unlabelled hlabel hold
  · exact ha.labelled_lt

/-- A binding may be added if it is bound and its handler is subscribed to its channel alone. -/
theorem Hung.addBinding (hh : Hung f task) (hatt : binding.attachment = .subscription c h)
    (hbound : binding.bound = true) (hsubscribed : ∀ c', h ∈ f.subscribers c' ↔ c' = c) :
  Hung (f.addBinding binding).1 task
  := by
  constructor
  · exact hh.nodup
  · exact hh.subscriber_lt
  · intro b binding' c₁ c₂ h' hb
    rcases Fabric.attaches_addBinding hatt hb with ⟨-, rfl, rfl, rfl⟩ | hold
    · apply (hsubscribed c₂).trans
      simp [Binding.InForce, hbound]
    · apply hh.subscribed hold
  · intro i b hi
    obtain ⟨binding', hb, hunbound⟩ := hh.unbound hi
    use binding'
    constructor
    · rw [Fabric.binding?_addBinding, if_neg, hb]
      rintro rfl
      simp [Fabric.binding?] at hb
    · apply hunbound
  · exact hh.detaching_inj

end AddBinding

namespace Wired

/-- Nobody has hold of a handler that has just been added. -/
theorem isFree_addHandler (hw : Wired f m task) (handler : Handler) :
  (f.addHandler handler).1.IsFree ⟨f.handlers.size⟩
  := by
  constructor
  · simp [Fabric.addHandler]
  · intro b binding c hb
    apply Nat.lt_irrefl _ (hw.lt_of_attaches hb)
  · intro label hlabel
    apply Nat.lt_irrefl _ (hw.labelled_lt hlabel)
  · intro c hmem
    apply Nat.lt_irrefl _ (hw.subscriber_lt hmem)

/-- A binding that is hung on a handler of which nobody has hold is wired. -/
theorem hang (hw : Wired f m task) {source target : ChannelId} {h : HandlerId} {binding : Binding}
    (hfree : f.IsFree h) (hhandler : f.handler? h = some (.forwarding target))
    (hsource : source.index < f.channels.size) (htarget : target.index < f.channels.size)
    (hatt : binding.attachment = .subscription source h) (hbound : binding.bound = true)
    (hproducer : binding.role = .producer → m.transports.get? binding.name = some target)
    (hconsumer : binding.role = .consumer → m.transports.get? binding.name = some source)
    (e : Event) :
  Wired (((f.subscribe source h).1.emit e).addBinding binding).1 m task
  := by
  obtain ⟨hextends, hlabels⟩ := f.extends_subscribe source h
  have hemit : Wired ((f.subscribe source h).1.emit e) m task :=
    (hw.subscribe hfree.lt hfree.unattached source).extend_same
      ⟨rfl, Nat.le_refl _, Nat.le_refl _, id⟩ rfl rfl
  constructor
  · apply hemit.toAnchored.addBinding hatt
    · intro b binding c hb
      apply hfree.unattached (hextends.of_attaches hb)
    · intro label hlabel
      apply hfree.unlabelled
      rw [← hlabels]
      apply hlabel
    · intro hrole
      use target, hproducer hrole
      apply hextends.forwarding hhandler
    · intro hrole
      use hconsumer hrole, target, hextends.forwarding hhandler
      apply Nat.lt_of_lt_of_le htarget hextends.channels
  · apply hemit.toHung.addBinding hatt hbound
    intro c
    constructor
    · intro hmem
      rcases Fabric.of_mem_subscribers_subscribe hmem with hmem | ⟨rfl, -⟩
      · apply absurd hmem hfree.unsubscribed
      · rfl
    · rintro rfl
      apply Fabric.mem_subscribers_subscribe hsource
  · exact hemit.toInformed.extend (Nat.le_refl _)

/-- A bind that the binder carries out leaves wired bindings wired. -/
theorem attach (hw : Wired f m task) {request : BindRequest} {t : ChannelId}
    (ht : m.transports.get? request.destination = some t)
    (hrequest : request.channel.index < f.channels.size) :
  Wired (MemoryBinder.attach f t request).1 m task
  := by
  cases request with
  | consumer destination group input properties =>
    have hadd := hw.addHandler (.forwarding input)
    have hself := f.handler?_addHandler_self (.forwarding input)
    apply hadd.hang (hw.isFree_addHandler _) hself (hw.transport_lt ht) hrequest rfl rfl
    · intro hrole
      cases hrole
    · intro _
      apply ht
  | producer destination output properties =>
    have hadd := hw.addHandler (.forwarding t)
    have hself := f.handler?_addHandler_self (.forwarding t)
    apply hadd.hang (hw.isFree_addHandler _) hself hrequest (hw.transport_lt ht) rfl rfl
    · intro _
      apply ht
    · intro hrole
      cases hrole

end Wired

/-! ## Releases -/

section Mark

variable {b : BindingId} {binding : Binding}

/-- A binding that is marked as unbound is attached as before, and so are all others. -/
theorem Fabric.attaches_mark (hb : f.binding? b = some binding) {b' : BindingId} {binding' : Binding}
    {c : ChannelId} {h : HandlerId}
    (hb' : (f.setBinding b { binding with bound := false }).Attaches b' binding' c h) :
  ∃ bound, f.Attaches b' { binding' with bound } c h
    ∧ (b' ≠ b ∧ bound = binding'.bound ∨ b' = b ∧ bound = binding.bound)
  := by
  obtain ⟨hb', hatt⟩ := hb'
  rw [binding?_setBinding] at hb'
  split at hb'
  · rename_i heq
    subst heq
    rw [hb] at hb'
    cases hb'
    exact ⟨binding.bound, ⟨hb, hatt⟩, Or.inr ⟨rfl, rfl⟩⟩
  · rename_i hne
    exact ⟨binding'.bound, ⟨hb', hatt⟩, Or.inl ⟨Ne.symm hne, rfl⟩⟩

theorem Anchored.mark (ha : Anchored f m) (hb : f.binding? b = some binding) :
  Anchored (f.setBinding b { binding with bound := false }) m
  := by
  constructor
  · exact ha.transport_lt
  · exact ha.transport_inj
  · intro b' binding' hb'
    rw [Fabric.binding?_setBinding] at hb'
    split at hb'
    · rename_i heq
      subst heq
      rw [hb] at hb'
      cases hb'
      apply ha.attached hb
    · apply ha.attached hb'
  · intro b' binding' c h hb' hrole
    obtain ⟨bound, hold, -⟩ := Fabric.attaches_mark hb hb'
    apply ha.producer hold hrole
  · intro b' binding' c h hb' hrole
    obtain ⟨bound, hold, -⟩ := Fabric.attaches_mark hb hb'
    apply ha.consumer hold hrole
  · intro b₁ b₂ binding₁ binding₂ c₁ c₂ h hb₁ hb₂
    obtain ⟨bound₁, hold₁, -⟩ := Fabric.attaches_mark hb hb₁
    obtain ⟨bound₂, hold₂, -⟩ := Fabric.attaches_mark hb hb₂
    apply ha.handler_inj hold₁ hold₂
  · intro label h b' binding' c hlabel hb'
    obtain ⟨bound, hold, -⟩ := Fabric.attaches_mark hb hb'
    apply ha.unlabelled hlabel hold
  · exact ha.labelled_lt

/-- Nobody is about to detach a binding as long as it is bound. -/
theorem Hung.ne_detaching (hh : Hung f task) (hb : f.binding? b = some binding)
    (hbound : binding.bound = true) (i : Nat) :
  task i ≠ .detaching b
  := by
  intro hi
  obtain ⟨binding', hb', hunbound⟩ := hh.unbound hi
  rw [hb] at hb'
  cases hb'
  rw [hbound] at hunbound
  cases hunbound

/-- A binding that is marked as unbound stays in force until its call detaches it. -/
theorem Hung.mark (hh : Hung f task) {i : Nat} (hi : ∀ b, task i ≠ .detaching b)
    (hb : f.binding? b = some binding) (hbound : binding.bound = true) :
  Hung (f.setBinding b { binding with bound := false }) (Function.update task i (.detaching b))
  := by
  constructor
  · exact hh.nodup
  · exact hh.subscriber_lt
  · intro b' binding' c c' h hb'
    obtain ⟨bound, hold, ⟨hne, rfl⟩ | ⟨rfl, rfl⟩⟩ := Fabric.attaches_mark hb hb'
    · have hother : Task.detaching (β := MemoryCall) b ≠ .detaching b' := by
        rintro ⟨⟩
        apply hne rfl
      rw [inForce_update_iff (hi b') hother]
      apply hh.subscribed hold
    · -- `b'` is bound before the mark, and about to be detached after it
      have hbefore : Binding.InForce { binding' with bound := binding.bound } b' task :=
        Or.inl hbound
      have hafter : binding'.InForce b' (Function.update task i (.detaching b')) := by
        apply Or.inr
        use i
        rw [Function.update_self]
      apply (hh.subscribed hold).trans
      simp only [hbefore, hafter]
  · intro j b' hj
    rw [Fabric.binding?_setBinding]
    rcases of_update hj with ⟨-, hnew⟩ | ⟨-, hold⟩
    · cases hnew
      rw [if_pos rfl, hb]
      exact ⟨_, rfl, rfl⟩
    · obtain ⟨binding', hb', hunbound⟩ := hh.unbound hold
      split
      · rw [hb']
        exact ⟨_, rfl, rfl⟩
      · exact ⟨binding', hb', hunbound⟩
  · intro j k b' hj hk
    rcases of_update hj with ⟨rfl, hnew⟩ | ⟨-, hold⟩
    · rcases of_update hk with ⟨rfl, -⟩ | ⟨-, hold'⟩
      · rfl
      · cases hnew
        apply absurd hold' (hh.ne_detaching hb hbound k)
    · rcases of_update hk with ⟨rfl, hnew⟩ | ⟨-, hold'⟩
      · cases hnew
        apply absurd hold (hh.ne_detaching hb hbound j)
      · apply hh.detaching_inj hold hold'

end Mark

section Unhang

variable {i : Nat} {b : BindingId} {binding : Binding} {c : ChannelId} {h : HandlerId}

/-- The binding that a call has detached is not in force any more. -/
theorem Hung.not_inForce (hh : Hung f task) (hi : task i = .detaching b)
    (hb : f.binding? b = some binding) :
  ¬ binding.InForce b (Function.update task i .idle)
  := by
  rintro (hbound | ⟨j, hj⟩)
  · apply hh.ne_detaching hb hbound i hi
  · rcases of_update hj with ⟨-, hnew⟩ | ⟨hne, hold⟩
    · cases hnew
    · apply hne (hh.detaching_inj hold hi)

/-- The handler of a binding that was subscribed to its channel alone is subscribed nowhere when it
has unsubscribed there. -/
theorem Hung.not_mem_unsubscribe (hh : Hung f task) (hb : f.Attaches b binding c h) (c' : ChannelId) :
  h ∉ (f.unsubscribe c h).1.subscribers c'
  := by
  rw [Fabric.subscribers_unsubscribe]
  split
  · apply (hh.nodup c').not_mem_erase
  · rename_i hne
    intro hmem
    obtain ⟨rfl, -⟩ := (hh.subscribed hb).mp hmem
    apply hne rfl

/-- All other handlers stay subscribed when the handler of a binding that is not bound any more
unsubscribes. -/
theorem Hung.unhang (hh : Hung f task) (ha : Anchored f m) (hi : task i = .detaching b)
    (hb : f.Attaches b binding c h) :
  Hung (f.unsubscribe c h).1 (Function.update task i .idle)
  := by
  obtain ⟨hextends, -⟩ := f.extends_unsubscribe c h
  constructor
  · intro d
    rw [Fabric.subscribers_unsubscribe]
    split
    · apply (hh.nodup d).erase
    · apply hh.nodup d
  · intro d h' hmem
    apply Nat.lt_of_lt_of_le _ hextends.handlers
    rw [Fabric.subscribers_unsubscribe] at hmem
    split at hmem
    · apply hh.subscriber_lt (List.mem_of_mem_erase hmem)
    · apply hh.subscriber_lt hmem
  · intro b' binding' c₁ c₂ h' hb'
    have hold := hextends.of_attaches hb'
    by_cases hsame : b' = b
    · subst hsame
      obtain ⟨rfl, rfl, rfl⟩ := hb.unique hold
      simp [hh.not_mem_unsubscribe hb, hh.not_inForce hi hb.1]
    · have hne : h' ≠ h := by
        rintro rfl
        apply hsame (ha.handler_inj hold hb)
      have hother : task i ≠ .detaching b' := by
        rw [hi]
        rintro ⟨⟩
        apply hsame rfl
      have hidle : Task.idle (β := MemoryCall) ≠ .detaching b' := by
        rintro ⟨⟩
      rw [inForce_update_iff hother hidle, ← hh.subscribed hold, Fabric.subscribers_unsubscribe]
      split
      · apply List.mem_erase_of_ne hne
      · apply Iff.rfl
  · intro j b' hj
    rcases of_update hj with ⟨-, hnew⟩ | ⟨-, hold⟩
    · cases hnew
    · rw [hextends.binding?_eq]
      apply hh.unbound hold
  · intro j k b' hj hk
    rcases of_update hj with ⟨-, hnew⟩ | ⟨-, hold⟩
    · cases hnew
    · rcases of_update hk with ⟨-, hnew⟩ | ⟨-, hold'⟩
      · cases hnew
      · apply hh.detaching_inj hold hold'

end Unhang

namespace Wired

/-- A binding that is marked as unbound stays wired until its call detaches it. -/
theorem mark (hw : Wired f m task) {i : Nat} (hi : task i = .idle) {b : BindingId}
    {binding : Binding} (hb : f.binding? b = some binding) (hbound : binding.bound = true) :
  Wired (f.setBinding b { binding with bound := false }) m
    (Function.update task i (.detaching b))
  := by
  constructor
  · apply hw.toAnchored.mark hb
  · apply hw.toHung.mark _ hb hbound
    intro b' hb'
    rw [hi] at hb'
    cases hb'
  · have haway : Informed f m (Function.update task i (.detaching b)) := by
      apply hw.toInformed.turn_away i
      intro call hcall
      cases hcall
    exact haway.extend (Nat.le_refl _)

/-- Wired bindings stay wired when the handler of an unbound one unsubscribes. -/
theorem unhang (hw : Wired f m task) {i : Nat} {b : BindingId} (hi : task i = .detaching b)
    {binding : Binding} {c : ChannelId} {h : HandlerId} (hb : f.Attaches b binding c h) :
  Wired (f.unsubscribe c h).1 m (Function.update task i .idle)
  := by
  obtain ⟨hextends, hlabels⟩ := f.extends_unsubscribe c h
  constructor
  · apply hw.toAnchored.extend hextends
    rw [hlabels]
  · apply hw.toHung.unhang hw.toAnchored hi hb
  · apply Informed.extend _ hextends.channels
    apply hw.toInformed.turn_away i
    intro call hcall
    cases hcall

/-- The detachment of a binding leaves wired bindings wired. -/
theorem detach (hw : Wired f m task) {i : Nat} {b : BindingId} (hi : task i = .detaching b) :
  Wired (Unbinding.step f (.detaching b)).1 m (Function.update task i .idle)
  := by
  obtain ⟨⟨name, role, group, attachment, bound⟩, hb, -⟩ := hw.unbound hi
  obtain ⟨c, h, hatt⟩ := hw.attached hb
  dsimp only at hatt
  subst hatt
  have hunhung := hw.unhang hi ⟨hb, rfl⟩
  simp only [Unbinding.step, hb]
  exact hunhung.extend_same ⟨rfl, Nat.le_refl _, Nat.le_refl _, id⟩ rfl rfl

/-! ## Every world is wired -/

/-- A step of a bind leaves wired bindings wired. -/
theorem step (hw : Wired f m task) {i : Nat} {call : MemoryCall}
    (hi : task i = .attaching call) :
  Wired (call.step f m).1 (call.step f m).2.1
    (Function.update task i ((call.step f m).2.2.task .attaching))
  := by
  have hbusy : ∀ b, task i ≠ .detaching b := by
    intro b hb
    rw [hi] at hb
    cases hb
  have hrequest := hw.request_lt hi
  cases call with
  | opening request =>
    simp only [MemoryCall.step]
    split
    · apply hw.turn_idle hbusy
    · obtain ⟨hopen, ht⟩ := hw.openTransport request.destination
      apply hopen.turn hbusy
      · apply Nat.lt_of_lt_of_le hrequest
        apply MemoryBinder.size_openTransport
      · rintro request' t ⟨⟩
        apply ht
  | attaching request t =>
    have hattach := hw.attach (hw.transport_of_attaching hi) hrequest
    apply hattach.turn_idle hbusy

/-- Whatever happens leaves wired bindings wired. -/
theorem keeps :
  World.Keeps MemoryBinder.behaviour fun v task => Wired v.1 v.2 task
  := by
  constructor
  · intro f m task a hw
    apply hw.act
  · rintro ⟨f, m⟩ task i v' x hw hchange
    generalize htask : task i = x₀ at hchange
    cases hchange with
    | emit f t k e =>
      rw [← htask, Function.update_eq_self]
      exact hw.extend_same ⟨rfl, Nat.le_refl _, Nat.le_refl _, id⟩ rfl rfl
    | addChannel f t k name contentType =>
      rw [← htask, Function.update_eq_self]
      apply hw.act (.newChannel name contentType)
    | begin f t binder request h =>
      have hopening : MemoryBinder.behaviour.bind binder request = .opening request := by
        cases request <;> rfl
      rw [hopening]
      apply hw.turn
      · intro b hb
        rw [htask] at hb
        cases hb
      · apply h
      · rintro request' t ⟨⟩
    | attach v call => apply hw.step htask
    | mark f t b binding h hbound => apply hw.mark htask h hbound
    | detach f t b => apply hw.detach htask
  · intro v task i hw hi
    apply hw.turn_idle hi

/-- The bindings of an in-memory binder are wired in every world that can be reached without dropping
a call in the middle of a release. -/
theorem run (settings : Settings) (factory : Factory Unit) (callback : Option Callback)
    {moves : List (Move Unit)}
    (hmoves : (World.fresh {} {}).IsOrderly (MemoryBinder.setup settings factory callback) moves) :
  let w := (World.fresh {} {}).run (MemoryBinder.setup settings factory callback) moves
  Wired w.system.fabric w.system.binders w.task
  := by
  have hkeeps : World.Keeps (MemoryBinder.setup settings factory callback).binders
      fun v task => Wired v.1 v.2 task := keeps
  apply hkeeps.run MemoryBinder.keepsChannels (World.hasChannels_fresh _ _) wired_empty hmoves

end Wired

end ChannelBinding
