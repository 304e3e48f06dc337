import ChannelBinding.Proofs.Wiring
import Mathlib.Data.List.Sort

/-!
# What an in-memory binder represents

What an in-memory binder has done is known from the calls and acts alone: which destinations passed
validation, which requests were served with a binding, and which handlers the application has made
itself.  The transport table has one channel for each of these destinations, for ever.  The handlers
that the binder has put on a channel are those of the bindings that are in force there, once each and
in the order in which they were bound, and each forwards to where its request asked it to.
-/

namespace ChannelBinding

/-! ## Requests and their bindings -/

namespace BindRequest

/-- The channel to whose messages a bind subscribes, given the transport channel. -/
def source (t : ChannelId) : BindRequest → ChannelId
  | consumer .. => t
  | producer _ output _ => output

/-- The channel to which a bind forwards, given the transport channel. -/
def target (t : ChannelId) : BindRequest → ChannelId
  | consumer _ _ input _ => input
  | producer .. => t

/-- The consumer group that is asked for. -/
def group : BindRequest → Option String
  | consumer _ group .. => group
  | producer .. => none

/-- The binding that a request asks for, given the transport channel and the handler. -/
def binding (request : BindRequest) (t : ChannelId) (h : HandlerId) : Binding where
  name := request.destination
  role := request.role
  group := request.group
  attachment := .subscription (request.source t) h

end BindRequest

/-- The channel to which the handler of a binding is subscribed. -/
def Binding.channel? (binding : Binding) : Option ChannelId :=
  match binding.attachment with
  | .subscription c _ => some c
  | .stuck _ => none

/-- The handler that holds a binding in place. -/
def Binding.handler? (binding : Binding) : Option HandlerId :=
  match binding.attachment with
  | .subscription _ h => some h
  | .stuck _ => none

/-- Whether a binding, released since or not, is the one that a request asked for. -/
def Serves (f : Fabric) (m : MemoryBinder) (request : BindRequest) (binding : Binding) : Prop :=
  ∃ t h, m.transports.get? request.destination = some t
    ∧ binding = { request.binding t h with bound := binding.bound }
    ∧ f.handler? h = some (.forwarding (request.target t))

/-- A bind subscribes a new handler, which forwards as asked, and adds its binding. -/
theorem MemoryBinder.attach_eq (f : Fabric) (t : ChannelId) (request : BindRequest) :
  ∃ e, attach f t request
    = (((f.addHandler (.forwarding (request.target t))).1.subscribe (request.source t)
        ⟨f.handlers.size⟩).1.emit e).addBinding (request.binding t ⟨f.handlers.size⟩)
  := by
  cases request with
  | consumer destination group input properties => exact ⟨_, rfl⟩
  | producer destination output properties => exact ⟨_, rfl⟩

/-! ## Records -/

/-- What is known of an in-memory binder from the calls and acts alone. -/
structure Record where
  /-- The handlers that the application has made; all others the binder has made. -/
  own : List HandlerId := []
  /-- The destinations that have passed validation in a bind. -/
  validated : List String := []
  /-- The requests that were served with a binding, in order. -/
  served : List BindRequest := []

namespace Record

/-- What is noted of an act. -/
def act (f : Fabric) (a : Act) (r : Record) : Record :=
  match a with
  | .newHandler .. => { r with own := r.own ++ [⟨f.handlers.size⟩] }
  | _ => r

/-- What is noted of a step of a bind. -/
def bind (r : Record) : MemoryCall → Record
  | .opening request =>
    if Text.isBlankText request.destination then r
    else { r with validated := r.validated ++ [request.destination] }
  | .attaching request _ => { r with served := r.served ++ [request] }

/-- The observer that keeps the record. -/
def observer : Observer MemoryBinder MemoryCall Record where
  act := act
  bind _ call r := r.bind call

end Record

/-- The subscribers of a channel that the application has not made. -/
def Fabric.binderHandlers (f : Fabric) (own : List HandlerId) (c : ChannelId) : List HandlerId :=
  (f.subscribers c).filter fun h => h ∉ own

/-- The handlers that hold bindings in place, in the order in which these were bound. -/
def Fabric.bindingHandlers (f : Fabric) : List HandlerId :=
  f.bindings.toList.filterMap Binding.handler?

/-- The order in which handlers are made. -/
def HandlerId.Before (h h' : HandlerId) : Prop := h.index < h'.index

instance : Std.Irrefl HandlerId.Before := ⟨fun h => Nat.lt_irrefl h.index⟩

instance : Std.Antisymm HandlerId.Before := ⟨fun _ _ h h' => absurd h' (Nat.lt_asymm h)⟩

/-- What a record says of the fabric and the binder. -/
structure Recorded (f : Fabric) (m : MemoryBinder) (r : Record) : Prop where
  /-- The application has made the handlers that hold no binding in place. -/
  own_iff : ∀ {h}, h ∈ r.own ↔ h.index < f.handlers.size ∧ h ∉ f.bindingHandlers
  length_served : r.served.length = f.bindings.size
  served : ∀ {b request binding}, r.served[b.index]? = some request →
    f.binding? b = some binding → Serves f m request binding
  keys_nodup : m.transports.keys.Nodup
  validated : ∀ {d}, (m.transports.get? d).isSome = true ↔ d ∈ r.validated
  /-- The handlers that the binder has put on a channel stand there in the order in which they were
  made. -/
  subscribers_sorted : ∀ c, (f.binderHandlers r.own c).Pairwise HandlerId.Before
  /-- Bindings and their handlers were made in the same order. -/
  bindings_sorted : f.bindingHandlers.Pairwise HandlerId.Before

theorem recorded_empty :
  Recorded {} {} {}
  := by
  constructor
  · simp
  · rfl
  · simp
  · exact .nil
  · simp
  · simp [Fabric.binderHandlers, Fabric.subscribers, Fabric.channel?]
  · exact .nil

variable {f f' : Fabric} {m : MemoryBinder} {r : Record} {task : Nat → Task MemoryCall}

/-- Whether a binding is held in place by a handler. -/
theorem Fabric.attaches_iff {b : BindingId} {binding : Binding} {c : ChannelId} {h : HandlerId} :
  f.Attaches b binding c h
    ↔ f.binding? b = some binding ∧ binding.channel? = some c ∧ binding.handler? = some h
  := by
  obtain ⟨name, role, group, attachment, bound⟩ := binding
  cases attachment with
  | subscription c' h' => simp [Attaches, Binding.channel?, Binding.handler?]
  | stuck e => simp [Attaches, Binding.channel?]

theorem Fabric.mem_bindingHandlers {h : HandlerId} :
  h ∈ f.bindingHandlers ↔ ∃ b binding c, f.Attaches b binding c h
  := by
  simp only [bindingHandlers, List.mem_filterMap, Array.mem_toList_iff]
  constructor
  · rintro ⟨⟨name, role, group, attachment, bound⟩, hmem, hh⟩
    obtain ⟨i, hi⟩ := Array.mem_iff_getElem?.mp hmem
    cases attachment with
    | subscription c h' =>
      cases hh
      exact ⟨⟨i⟩, _, c, hi, rfl⟩
    | stuck e => cases hh
  · rintro ⟨b, binding, c, hb⟩
    obtain ⟨hb, -, hh⟩ := attaches_iff.mp hb
    exact ⟨binding, Array.mem_of_getElem? hb, hh⟩

/-- A binding may be replaced by one that is held in place by the same handler. -/
theorem Fabric.bindingHandlers_setBinding {b : BindingId} {binding binding' : Binding}
    (hb : f.binding? b = some binding) (hsame : binding'.handler? = binding.handler?) :
  (f.setBinding b binding').bindingHandlers = f.bindingHandlers
  := by
  have hmap : (f.setBinding b binding').bindings.toList.map Binding.handler?
      = f.bindings.toList.map Binding.handler? := by
    obtain ⟨hlt, hget⟩ := Array.getElem?_eq_some_iff.mp hb
    simp only [setBinding, Array.toList_setIfInBounds, List.map_set, hsame, ← hget]
    apply List.ext_getElem
    · simp
    · intro i h h'
      simp only [List.getElem_set]
      split
      · rename_i heq
        simp [← heq]
      · rfl
  have hfilter := congrArg (List.filterMap id) hmap
  simp only [List.filterMap_map] at hfilter
  apply hfilter

/-! ## What leaves the bindings alone -/

theorem Serves.mono {m' : MemoryBinder} {request : BindRequest} {binding : Binding}
    (h : Serves f m request binding)
    (hforwarding : ∀ {h target}, f.handler? h = some (.forwarding target) →
      f'.handler? h = some (.forwarding target))
    (htransports : ∀ {d t}, m.transports.get? d = some t → m'.transports.get? d = some t) :
  Serves f' m' request binding
  := by
  obtain ⟨t, h, ht, hbinding, hh⟩ := h
  exact ⟨t, h, htransports ht, hbinding, hforwarding hh⟩

namespace Recorded

/-- A record stays right as long as there are no more handlers and binder handlers only go. -/
theorem extend (hr : Recorded f m r) (hf : f.Extends f') (hsize : f'.handlers.size = f.handlers.size)
    (hsub : ∀ c, (f'.binderHandlers r.own c).Sublist (f.binderHandlers r.own c)) :
  Recorded f' m r
  := by
  have hhandlers : f'.bindingHandlers = f.bindingHandlers := by
    rw [Fabric.bindingHandlers, hf.bindings]
    rfl
  constructor
  · intro h
    rw [hr.own_iff, hsize, hhandlers]
  · rw [hf.bindings, hr.length_served]
  · intro b request binding hrequest hb
    rw [hf.binding?_eq] at hb
    apply (hr.served hrequest hb).mono hf.forwarding id
  · exact hr.keys_nodup
  · exact hr.validated
  · intro c
    apply (hr.subscribers_sorted c).sublist (hsub c)
  · rw [hhandlers]
    exact hr.bindings_sorted

/-- A record stays right as long as there are no more handlers and all subscriptions stay. -/
theorem extend_same (hr : Recorded f m r) (hf : f.Extends f')
    (hsize : f'.handlers.size = f.handlers.size) (hsubscribers : f'.subscribers = f.subscribers) :
  Recorded f' m r
  := by
  apply hr.extend hf hsize
  intro c
  rw [Fabric.binderHandlers, hsubscribers]
  exact List.Sublist.refl _

/-- A channel that is added leaves the record right. -/
theorem addChannel (hr : Recorded f m r) (name : String) (contentType : Option String) :
  Recorded (f.addChannel { name, contentType }).1 m r
  := by
  refine hr.extend_same ⟨rfl, by simp [Fabric.addChannel], Nat.le_refl _, id⟩ rfl ?_
  apply Fabric.subscribers_addChannel

/-- The handlers that have a label are the application's own. -/
theorem mem_own (hr : Recorded f m r) (hw : Wired f m task) {label : String} {h : HandlerId}
    (hlabel : f.labels.handlers.get? label = some h) :
  h ∈ r.own
  := by
  rw [hr.own_iff, Fabric.mem_bindingHandlers]
  use hw.labelled_lt hlabel
  rintro ⟨b, binding, c, hb⟩
  apply hw.unlabelled hlabel hb

/-- The subscriptions of the application's own handlers are not on record. -/
theorem subscribe (hr : Recorded f m r) {h : HandlerId} (hown : h ∈ r.own) (c : ChannelId) :
  Recorded (f.subscribe c h).1 m r
  := by
  obtain ⟨hextends, -⟩ := f.extends_subscribe c h
  apply hr.extend hextends
  · rw [Fabric.handlers_subscribe]
  · intro d
    simp only [Fabric.binderHandlers, Fabric.subscribers_subscribe]
    split
    · simp [List.filter_append, hown]
    · exact List.Sublist.refl _

theorem unsubscribe (hr : Recorded f m r) (c : ChannelId) (h : HandlerId) :
  Recorded (f.unsubscribe c h).1 m r
  := by
  obtain ⟨hextends, -⟩ := f.extends_unsubscribe c h
  apply hr.extend hextends
  · rw [Fabric.handlers_unsubscribe]
  · intro d
    simp only [Fabric.binderHandlers, Fabric.subscribers_unsubscribe]
    split
    · apply List.erase_sublist.filter
    · exact List.Sublist.refl _

/-- Sends leave a record right: scripts have hold of labelled handlers only. -/
theorem sendsKeep (m : MemoryBinder) (task : Nat → Task MemoryCall) (r : Record) :
  Fabric.SendsKeep fun f => Wired f m task ∧ Recorded f m r
  := by
  have hwired := Wired.sendsKeep m task
  constructor
  · rintro f e he ⟨hw, hr⟩
    use hwired.emit he hw
    exact hr.extend_same ⟨rfl, Nat.le_refl _, Nat.le_refl _, id⟩ rfl rfl
  · rintro f c channel turn hc ⟨hw, hr⟩
    use hwired.turn turn hc hw
    refine hr.extend_same ⟨rfl, by simp, Nat.le_refl _, id⟩ rfl ?_
    apply Fabric.subscribers_setTurn turn hc
  · rintro f h handler handler' hh hreceives ⟨hw, hr⟩
    use hwired.receive hh hreceives hw
    refine hr.extend_same ⟨rfl, Nat.le_refl _, ?_, ?_⟩ ?_ rfl
    · simp [Fabric.setHandler]
    · intro h' target
      apply Fabric.forwarding_setHandler hh hreceives
    · simp [Fabric.setHandler]
  · rintro f c label h hlabel ⟨hw, hr⟩
    exact ⟨hwired.subscribe c hlabel hw, hr.subscribe (hr.mem_own hw hlabel) c⟩
  · rintro f c label h hlabel ⟨hw, hr⟩
    exact ⟨hwired.unsubscribe c hlabel hw, hr.unsubscribe c h⟩

/-! ## Acts -/

/-- A handler that the application makes is its own. -/
theorem newHandler (hr : Recorded f m r) (hw : Wired f m task) (label : String) (handler : Handler) :
  Recorded (f.act (.newHandler label handler)) m (r.act f (.newHandler label handler))
  := by
  have hnew : ⟨f.handlers.size⟩ ∉ f.bindingHandlers := by
    rw [Fabric.mem_bindingHandlers]
    rintro ⟨b, binding, c, hb⟩
    apply Nat.lt_irrefl _ (hw.lt_of_attaches hb)
  constructor
  · intro h
    have hsize : (f.act (.newHandler label handler)).handlers.size = f.handlers.size + 1 := by
      simp [Fabric.act, Fabric.addHandler]
    have hhandlers : (f.act (.newHandler label handler)).bindingHandlers = f.bindingHandlers := rfl
    rw [hsize, hhandlers]
    simp only [Record.act, List.mem_append, List.mem_singleton, hr.own_iff]
    constructor
    · rintro (⟨hlt, hnot⟩ | rfl)
      · exact ⟨Nat.lt_succ_of_lt hlt, hnot⟩
      · exact ⟨Nat.lt_succ_self _, hnew⟩
    · rintro ⟨hlt, hnot⟩
      rcases Nat.lt_succ_iff_lt_or_eq.mp hlt with hlt | heq
      · exact Or.inl ⟨hlt, hnot⟩
      · exact Or.inr (congrArg HandlerId.mk heq)
  · exact hr.length_served
  · intro b request binding hrequest hb
    apply (hr.served hrequest hb).mono _ id
    intro h target
    apply Fabric.handler?_addHandler_of_some
  · exact hr.keys_nodup
  · exact hr.validated
  · intro c
    refine List.Pairwise.sublist ?_ (hr.subscribers_sorted c)
    apply List.monotone_filter_right
    intro h
    simp only [Record.act, List.mem_append, not_or, decide_eq_true_eq]
    apply And.left
  · exact hr.bindings_sorted

/-- Whatever the application does, the record stays right. -/
theorem act (hr : Recorded f m r) (hw : Wired f m task) (a : Act) :
  Recorded (f.act a) m (r.act f a)
  := by
  cases a with
  | newChannel name contentType => apply hr.addChannel name contentType
  | newHandler label handler => apply hr.newHandler hw
  | nameChannel label c => exact hr.extend_same ⟨rfl, Nat.le_refl _, Nat.le_refl _, id⟩ rfl rfl
  | subscribe c label =>
    simp only [Fabric.act]
    split
    · apply hr
    · rename_i h hlabel
      apply hr.subscribe (hr.mem_own hw hlabel)
  | unsubscribe c label =>
    simp only [Fabric.act]
    split
    · apply hr
    · apply hr.unsubscribe
  | send c message =>
    simp only [Fabric.act]
    split
    · apply hr
    · rename_i hdeliver
      have hsend := (sendsKeep m task r).deliver hdeliver ⟨hw, hr⟩
      apply hsend.2
  | wait time => exact hr.extend_same ⟨rfl, Nat.le_refl _, Nat.le_refl _, id⟩ rfl rfl

/-! ## Releases -/

/-- To mark a binding as unbound leaves the record right. -/
theorem mark (hr : Recorded f m r) {b : BindingId} {binding : Binding}
    (hb : f.binding? b = some binding) :
  Recorded (f.setBinding b { binding with bound := false }) m r
  := by
  have hhandlers : (f.setBinding b { binding with bound := false }).bindingHandlers
      = f.bindingHandlers := Fabric.bindingHandlers_setBinding hb rfl
  constructor
  · intro h
    rw [hhandlers]
    apply hr.own_iff
  · rw [hr.length_served]
    simp [Fabric.setBinding]
  · intro b' request binding' hrequest hb'
    rw [Fabric.binding?_setBinding] at hb'
    split at hb'
    · rename_i heq
      subst heq
      rw [hb] at hb'
      cases hb'
      obtain ⟨t, h, ht, hbinding, hh⟩ := hr.served hrequest hb
      rw [hbinding]
      exact ⟨t, h, ht, rfl, hh⟩
    · apply hr.served hrequest hb'
  · exact hr.keys_nodup
  · exact hr.validated
  · exact hr.subscribers_sorted
  · rw [hhandlers]
    exact hr.bindings_sorted

/-- To detach a binding leaves the record right. -/
theorem detach (hr : Recorded f m r) (b : BindingId) :
  Recorded (Unbinding.step f (.detaching b)).1 m r
  := by
  simp only [Unbinding.step]
  split
  · exact (hr.unsubscribe _ _).extend_same ⟨rfl, Nat.le_refl _, Nat.le_refl _, id⟩ rfl rfl
  · apply hr

/-- Whatever calls change while the binder stands still, the record stays right. -/
theorem change (hr : Recorded f m r) {f' : Fabric} {m' : MemoryBinder} {k k' : Task MemoryCall}
    (h : Change MemoryBinder.behaviour.still ((f, m), k) ((f', m'), k')) :
  Recorded f' m' r
  := by
  cases h with
  | emit f t k e => exact hr.extend_same ⟨rfl, Nat.le_refl _, Nat.le_refl _, id⟩ rfl rfl
  | addChannel f t k name contentType => apply hr.addChannel name contentType
  | begin f t binder request h => apply hr
  | attach v call => apply hr
  | mark f t b binding h hbound => apply hr.mark h
  | detach f t b => apply hr.detach b

/-! ## Binds -/

/-- A destination whose transport channel is opened has passed validation. -/
theorem openTransport (hr : Recorded f m r) (d : String) :
  Recorded (m.openTransport f d).1 (m.openTransport f d).2.1
    { r with validated := r.validated ++ [d] }
  := by
  unfold MemoryBinder.openTransport
  split
  · rename_i t ht
    have hsame : Recorded (f.emit (.transportReused d)) m r :=
      hr.extend_same ⟨rfl, Nat.le_refl _, Nat.le_refl _, id⟩ rfl rfl
    refine { hsame with validated := ?_ }
    intro d'
    rw [List.mem_append, ← hr.validated, List.mem_singleton]
    constructor
    · apply Or.inl
    · rintro (hd' | rfl)
      · apply hd'
      · rw [ht]
        rfl
  · rename_i hnone
    have hadd : Recorded ((f.addChannel { name := d }).1.emit (.transportCreated d)) m r :=
      (hr.addChannel d none).extend_same ⟨rfl, Nat.le_refl _, Nat.le_refl _, id⟩ rfl rfl
    refine { hadd with served := ?_, keys_nodup := ?_, validated := ?_ }
    · intro b request binding hrequest hb
      exact (hadd.served hrequest hb).mono id (Table.get?_insert_of_new _ hnone)
    · apply Table.nodup_keys_insert _ _ hr.keys_nodup
    · intro d'
      rw [Table.get?_insert, List.mem_append, ← hr.validated, List.mem_singleton]
      split
      · rename_i heq
        simp [heq]
      · rename_i hne
        simp [Ne.symm hne]

/-- A binding may be put on record with its request if its handler is newer than all others and
forwards as asked. -/
theorem addBinding (hr : Recorded f m r) {request : BindRequest} {t : ChannelId}
    (ht : m.transports.get? request.destination = some t) (hbindings : f'.bindings = f.bindings)
    (hsize : f'.handlers.size = f.handlers.size + 1)
    (hforwarding : ∀ {h target}, f.handler? h = some (.forwarding target) →
      f'.handler? h = some (.forwarding target))
    (hnew : f'.handler? ⟨f.handlers.size⟩ = some (.forwarding (request.target t)))
    (hold : ∀ h ∈ f.bindingHandlers, h.index < f.handlers.size)
    (hsorted : ∀ c, (f'.binderHandlers r.own c).Pairwise HandlerId.Before) :
  Recorded (f'.addBinding (request.binding t ⟨f.handlers.size⟩)).1 m
    { r with served := r.served ++ [request] }
  := by
  have hhandlers : (f'.addBinding (request.binding t ⟨f.handlers.size⟩)).1.bindingHandlers
      = f.bindingHandlers ++ [⟨f.handlers.size⟩] := by
    simp only [Fabric.bindingHandlers, Fabric.addBinding, hbindings, Array.toList_push,
      List.filterMap_append]
    rfl
  constructor
  · intro h
    have hadded : (f'.addBinding (request.binding t ⟨f.handlers.size⟩)).1.handlers.size
        = f.handlers.size + 1 := hsize
    rw [hr.own_iff, hhandlers, hadded, List.mem_append, List.mem_singleton, not_or]
    constructor
    · rintro ⟨hlt, hnot⟩
      refine ⟨Nat.lt_succ_of_lt hlt, hnot, ?_⟩
      rintro rfl
      apply Nat.lt_irrefl _ hlt
    · rintro ⟨hlt, hnot, hne⟩
      refine ⟨Nat.lt_of_le_of_ne (Nat.le_of_lt_succ hlt) ?_, hnot⟩
      intro heq
      apply hne (congrArg HandlerId.mk heq)
  · simp [Fabric.addBinding, hbindings, hr.length_served]
  · intro b request' binding hrequest hb
    rw [Fabric.binding?_addBinding, hbindings] at hb
    split at hb
    · rename_i heq
      cases hb
      rw [heq, List.getElem?_append_right (Nat.le_of_eq hr.length_served), hr.length_served,
        Nat.sub_self] at hrequest
      cases hrequest
      exact ⟨t, _, ht, rfl, hnew⟩
    · have hbold : f.binding? b = some binding := by
        rw [← hb, Fabric.binding?, Fabric.binding?, hbindings]
      have hlt : b.index < r.served.length := by
        rw [hr.length_served]
        apply (Array.getElem?_eq_some_iff.mp hbold).1
      rw [List.getElem?_append_left hlt] at hrequest
      apply (hr.served hrequest hbold).mono hforwarding id
  · exact hr.keys_nodup
  · exact hr.validated
  · exact hsorted
  · rw [hhandlers, List.pairwise_append]
    refine ⟨hr.bindings_sorted, List.pairwise_singleton _ _, ?_⟩
    intro h hh h' hh'
    rw [List.mem_singleton.mp hh']
    apply hold h hh

/-- A request that is served with a binding is put on record. -/
theorem attach (hr : Recorded f m r) (hw : Wired f m task) {request : BindRequest} {t : ChannelId}
    (ht : m.transports.get? request.destination = some t) :
  Recorded (MemoryBinder.attach f t request).1 m { r with served := r.served ++ [request] }
  := by
  obtain ⟨e, he⟩ := MemoryBinder.attach_eq f t request
  obtain ⟨hextends, -⟩ := (f.addHandler (.forwarding (request.target t))).1.extends_subscribe
    (request.source t) ⟨f.handlers.size⟩
  rw [he]
  apply hr.addBinding ht
  · exact hextends.bindings
  · simp [Fabric.emit, Fabric.addHandler]
  · intro h target hh
    apply hextends.forwarding
    apply Fabric.handler?_addHandler_of_some _ hh
  · apply hextends.forwarding
    apply Fabric.handler?_addHandler_self
  · intro h hh
    obtain ⟨b, binding, c, hb⟩ := Fabric.mem_bindingHandlers.mp hh
    apply hw.lt_of_attaches hb
  · intro c
    have hlast : ((f.subscribers c ++ [HandlerId.mk f.handlers.size]).filter
        fun h => h ∉ r.own).Pairwise HandlerId.Before := by
      rw [List.filter_append, List.pairwise_append]
      refine ⟨hr.subscribers_sorted c, ?_, ?_⟩
      · apply List.Pairwise.filter
        apply List.pairwise_singleton
      · intro h hh h' hh'
        rw [List.mem_singleton.mp (List.mem_of_mem_filter hh')]
        apply hw.subscriber_lt (List.mem_of_mem_filter hh)
    simp only [Fabric.binderHandlers, Fabric.subscribers_emit, Fabric.subscribers_subscribe]
    split
    · apply hlast
    · apply hr.subscribers_sorted c

/-- A step of a bind leaves the record right. -/
theorem bind (hr : Recorded f m r) (hw : Wired f m task) {i : Nat} {call : MemoryCall}
    (hi : task i = .attaching call) :
  Recorded (call.step f m).1 (call.step f m).2.1 (r.bind call)
  := by
  cases call with
  | opening request =>
    simp only [MemoryCall.step, Record.bind]
    split
    · apply hr
    · apply hr.openTransport
  | attaching request t => apply hr.attach hw (hw.transport_of_attaching hi)

/-- Whatever happens, the bindings stay wired and the record right. -/
theorem follows :
  World.Follows Record.observer MemoryBinder.behaviour
    fun v task r => Wired v.1 v.2 task ∧ Recorded v.1 v.2 r
  := by
  have hkeeps := Wired.keeps
  constructor
  · rintro f m task r a ⟨hw, hr⟩
    exact ⟨hw.act a, hr.act hw a⟩
  · rintro ⟨f, m⟩ task r i call ⟨hw, hr⟩ hi
    exact ⟨hw.step hi, hr.bind hw hi⟩
  · rintro ⟨f, m⟩ task r i ⟨f', m'⟩ x ⟨hw, hr⟩ hchange
    use hkeeps.follows.change (g := ()) hw hchange
    apply hr.change hchange
  · rintro v task r i ⟨hw, hr⟩ hi
    exact ⟨hw.turn_idle hi, hr⟩

end Recorded

/-! ## What the binder represents -/

namespace World

variable {ι τ β : Type}

/-- Whether a release has marked a binding as unbound and is still to unsubscribe its handler. -/
def isDetaching (w : World ι τ β) (b : BindingId) : Bool :=
  w.calls.any fun call =>
    match call.task with
    | .detaching b' => b' = b
    | _ => false

theorem isDetaching_iff {w : World ι τ β} {b : BindingId} :
  w.isDetaching b = true ↔ ∃ i, w.task i = .detaching b
  := by
  rw [isDetaching, List.any_eq_true]
  constructor
  · rintro ⟨call, hmem, hb⟩
    obtain ⟨i, hi⟩ := List.mem_iff_getElem?.mp hmem
    use i
    rw [task, call_of_getElem? hi]
    split at hb
    · rename_i htask
      rw [htask, decide_eq_true_eq.mp hb]
    · cases hb
  · rintro ⟨i, hi⟩
    cases hcall : w.calls[i]? with
    | none =>
      rw [task, call, hcall] at hi
      cases hi
    | some call =>
      rw [task, call_of_getElem? hcall] at hi
      use call, List.mem_of_getElem? hcall
      simp [hi]

/-- The bindings in force, in the order in which they were bound. -/
def inForce (w : World ι τ β) : List Binding :=
  (w.system.fabric.bindings.toList.zipIdx.filter fun entry =>
    entry.1.bound || w.isDetaching ⟨entry.2⟩).map Prod.fst

/-- While no release stands between its two steps, the bindings in force are those that are bound. -/
theorem inForce_eq_filter {w : World ι τ β} (h : ∀ b, w.isDetaching b = false) :
  w.inForce = w.system.fabric.bindings.toList.filter (·.bound)
  := by
  simp only [inForce, h, Bool.or_false]
  rw [← List.zipIdx_map_fst 0 w.system.fabric.bindings.toList, List.filter_map,
    List.zipIdx_map_fst]
  rfl

theorem inForce_sublist (w : World ι τ β) :
  w.inForce.Sublist w.system.fabric.bindings.toList
  := by
  have hsub := List.filter_sublist (l := w.system.fabric.bindings.toList.zipIdx)
    (p := fun entry => entry.1.bound || w.isDetaching ⟨entry.2⟩)
  have hmap := hsub.map Prod.fst
  rw [List.zipIdx_map_fst] at hmap
  apply hmap

theorem mem_inForce {w : World Unit MemoryBinder MemoryCall} {binding : Binding} :
  binding ∈ w.inForce
    ↔ ∃ b, w.system.fabric.binding? b = some binding ∧ binding.InForce b w.task
  := by
  simp only [inForce, List.mem_map, List.mem_filter, List.mem_zipIdx_iff_getElem?, Bool.or_eq_true,
    isDetaching_iff, Array.getElem?_toList]
  constructor
  · rintro ⟨⟨_, i⟩, ⟨hi, hforce⟩, rfl⟩
    exact ⟨⟨i⟩, hi, hforce⟩
  · rintro ⟨⟨i⟩, hi, hforce⟩
    exact ⟨(binding, i), ⟨hi, hforce⟩, rfl⟩

/-- What the transport table, the subscriber lists and the bindings have to do with each other and
with what is on record. -/
structure Represents (w : World Unit MemoryBinder MemoryCall) (r : Record) : Prop where
  /-- The transport table has one entry for every destination that passed validation in a bind. -/
  keys_nodup : w.system.binders.transports.keys.Nodup
  mem_keys_iff : ∀ {d}, d ∈ w.system.binders.transports.keys ↔ d ∈ r.validated
  /-- Every entry has a channel of its own. -/
  transport_lt : ∀ {d t}, w.system.binders.transports.get? d = some t →
    t.index < w.system.fabric.channels.size
  transport_inj : ∀ {d d' t}, w.system.binders.transports.get? d = some t →
    w.system.binders.transports.get? d' = some t → d = d'
  /-- The bindings ever made are those of the requests that were served, in order; they refer to the
  transport channels of the table, and their handlers forward as asked. -/
  length_served : r.served.length = w.system.fabric.bindings.size
  served : ∀ {b request binding}, r.served[b.index]? = some request →
    w.system.fabric.binding? b = some binding →
      Serves w.system.fabric w.system.binders request binding
  /-- While no release stands between its two steps, to be in force is to be bound. -/
  bound : (∀ b, w.isDetaching b = false) →
    w.inForce = w.system.fabric.bindings.toList.filter (·.bound)
  /-- The binder's handlers on a channel are those of the bindings in force there, in bind order. -/
  attached : ∀ c, w.system.fabric.binderHandlers r.own c
    = (w.inForce.filter fun binding => binding.channel? = some c).filterMap Binding.handler?
  /-- On a transport channel that was never bound as an output, these are the consumer bindings to
  its destination. -/
  consumers : ∀ {d t}, w.system.binders.transports.get? d = some t →
    (∀ request ∈ r.served, request.role = .producer → request.channel ≠ t) →
      w.system.fabric.binderHandlers r.own t
        = (w.inForce.filter fun binding => binding.role = .consumer ∧ binding.name = d).filterMap
            Binding.handler?
  /-- On a channel that is no transport channel, these are its producer bindings. -/
  producers : ∀ {o}, (∀ d, w.system.binders.transports.get? d ≠ some o) →
    w.system.fabric.binderHandlers r.own o
      = (w.inForce.filter fun binding =>
          binding.role = .producer ∧ binding.channel? = some o).filterMap Binding.handler?
  /-- No channel has a subscriber twice. -/
  nodup : ∀ c, (w.system.fabric.subscribers c).Nodup
  /-- The handler of a binding that is not in force is subscribed nowhere. -/
  released : ∀ {b binding h}, w.system.fabric.binding? b = some binding →
    binding.handler? = some h → binding.bound = false → w.isDetaching b = false →
      ∀ c, h ∉ w.system.fabric.subscribers c

variable {w : World Unit MemoryBinder MemoryCall}

/-- The binder's handlers on a channel are those of the bindings in force there: both stand in the
order in which they were made. -/
theorem binderHandlers_eq (hw : Wired w.system.fabric w.system.binders w.task)
    (hr : Recorded w.system.fabric w.system.binders r) (c : ChannelId) :
  w.system.fabric.binderHandlers r.own c
    = (w.inForce.filter fun binding => binding.channel? = some c).filterMap Binding.handler?
  := by
  have hsub := (List.filter_sublist (p := fun binding => binding.channel? = some c)).trans
    w.inForce_sublist
  apply (hr.subscribers_sorted c).eq_of_mem_iff
  · apply hr.bindings_sorted.sublist (hsub.filterMap Binding.handler?)
  intro h
  simp only [Fabric.binderHandlers, List.mem_filter, List.mem_filterMap, decide_eq_true_eq]
  constructor
  · rintro ⟨hmem, hown⟩
    have hhandler : h ∈ w.system.fabric.bindingHandlers := by
      by_contra hnot
      apply hown (hr.own_iff.mpr ⟨hw.subscriber_lt hmem, hnot⟩)
    obtain ⟨b, binding, c', hb⟩ := Fabric.mem_bindingHandlers.mp hhandler
    obtain ⟨rfl, hforce⟩ := (hw.subscribed hb).mp hmem
    obtain ⟨hbinding, hchannel, hh⟩ := Fabric.attaches_iff.mp hb
    exact ⟨binding, ⟨mem_inForce.mpr ⟨b, hbinding, hforce⟩, hchannel⟩, hh⟩
  · rintro ⟨binding, ⟨hmem, hchannel⟩, hh⟩
    obtain ⟨b, hbinding, hforce⟩ := mem_inForce.mp hmem
    have hb := Fabric.attaches_iff.mpr ⟨hbinding, hchannel, hh⟩
    use (hw.subscribed hb).mpr ⟨rfl, hforce⟩
    intro hown
    apply (hr.own_iff.mp hown).2
    exact Fabric.mem_bindingHandlers.mpr ⟨b, binding, c, hb⟩

/-- The channel of a consumer binding is the transport channel of its destination. -/
theorem channel_of_consumer (hw : Wired w.system.fabric w.system.binders w.task)
    {binding : Binding} (hmem : binding ∈ w.inForce) (hrole : binding.role = .consumer) :
  binding.channel? = w.system.binders.transports.get? binding.name
  := by
  obtain ⟨b, hb, -⟩ := mem_inForce.mp hmem
  obtain ⟨c, h, hatt⟩ := hw.attached hb
  obtain ⟨hc, -⟩ := hw.consumer ⟨hb, hatt⟩ hrole
  rw [hc, Binding.channel?, hatt]

/-- The channel of a producer binding is the one that its request asked for. -/
theorem channel_of_producer (hr : Recorded w.system.fabric w.system.binders r) {binding : Binding}
    (hmem : binding ∈ w.inForce) (hrole : binding.role = .producer) :
  ∃ request ∈ r.served, request.role = .producer ∧ binding.channel? = some request.channel
  := by
  obtain ⟨b, hb, -⟩ := mem_inForce.mp hmem
  have hlt : b.index < r.served.length := by
    rw [hr.length_served]
    apply (Array.getElem?_eq_some_iff.mp hb).1
  obtain ⟨t, h, -, hbinding, -⟩ := hr.served (List.getElem?_eq_getElem hlt) hb
  use r.served[b.index], List.getElem_mem hlt
  cases hrequest : r.served[b.index] with
  | consumer destination group input properties =>
    rw [hbinding, hrequest] at hrole
    cases hrole
  | producer destination output properties =>
    rw [hbinding, hrequest]
    exact ⟨rfl, rfl⟩

/-- What is wired and recorded is represented. -/
theorem Represents.of_recorded (hw : Wired w.system.fabric w.system.binders w.task)
    (hr : Recorded w.system.fabric w.system.binders r) :
  w.Represents r
  where
    keys_nodup := hr.keys_nodup
    mem_keys_iff := by
      intro d
      rw [Table.mem_keys_iff, hr.validated]
    transport_lt := hw.transport_lt
    transport_inj := hw.transport_inj
    length_served := hr.length_served
    served := hr.served
    bound := inForce_eq_filter
    attached := binderHandlers_eq hw hr
    consumers := by
      intro d t ht houtput
      rw [binderHandlers_eq hw hr]
      congr 1
      apply List.filter_congr
      intro binding hmem
      rw [decide_eq_decide]
      constructor
      · intro hchannel
        cases hrole : binding.role with
        | consumer =>
          rw [channel_of_consumer hw hmem hrole] at hchannel
          exact ⟨rfl, hw.transport_inj hchannel ht⟩
        | producer =>
          obtain ⟨request, hrequest, hproducer, hsource⟩ := channel_of_producer hr hmem hrole
          rw [hsource] at hchannel
          apply absurd (Option.some.inj hchannel) (houtput request hrequest hproducer)
      · rintro ⟨hrole, rfl⟩
        rw [channel_of_consumer hw hmem hrole, ht]
    producers := by
      intro o ho
      rw [binderHandlers_eq hw hr]
      congr 1
      apply List.filter_congr
      intro binding hmem
      rw [decide_eq_decide]
      refine ⟨fun hchannel => ⟨?_, hchannel⟩, And.right⟩
      cases hrole : binding.role with
      | consumer =>
        rw [channel_of_consumer hw hmem hrole] at hchannel
        apply absurd hchannel (ho _)
      | producer => rfl
    nodup := hw.nodup
    released := by
      intro b binding h hb hh hbound hdetaching c hmem
      obtain ⟨c', h', hatt⟩ := hw.attached hb
      obtain rfl : h' = h := by simpa [Binding.handler?, hatt] using hh
      obtain ⟨-, hforce⟩ := (hw.subscribed ⟨hb, hatt⟩).mp hmem
      rcases hforce with hbound' | htask
      · rw [hbound] at hbound'
        cases hbound'
      · rw [isDetaching_iff.mpr htask] at hdetaching
        cases hdetaching

end World

/-- A step of a bind leaves the transport channels where they are. -/
theorem MemoryCall.transport_step {d : String} {t : ChannelId}
    (ht : m.transports.get? d = some t) (call : MemoryCall) :
  (call.step f m).2.1.transports.get? d = some t
  := by
  cases call with
  | opening request =>
    simp only [step]
    split
    · apply ht
    · simp only [MemoryBinder.openTransport]
      split
      · apply ht
      · rename_i hnone
        apply Table.get?_insert_of_new _ hnone ht
  | attaching request t => apply ht

namespace World

/-- An entry of the transport table is never removed or replaced. -/
theorem keeps_transport (d : String) (t : ChannelId) :
  Keeps MemoryBinder.behaviour fun v _ => v.2.transports.get? d = some t
  where
    act _ := id
    change := by
      rintro v k i v' x ht hchange
      generalize k i = y at hchange
      cases hchange with
      | attach v call => apply MemoryCall.transport_step ht call
      | _ => apply ht
    drop _ ht _ := ht

/-- However the calls of a system with an in-memory binder interleave, the transport table has one
entry for each destination that passed validation, and keeps it for ever; the handlers that the binder
has put on a channel are those of the bindings in force there, once each and in bind order; and the
handler of a binding that was released is subscribed nowhere. -/
theorem represents_record (settings : Settings) (factory : Factory Unit)
    (callback : Option Callback) {moves : List (Move Unit)}
    (hmoves : (fresh {} {}).IsOrderly (MemoryBinder.setup settings factory callback) moves) :
  let setup := MemoryBinder.setup settings factory callback
  let w := (fresh {} {}).run setup moves
  w.Represents ((fresh {} {}).notes Record.observer setup {} moves)
    ∧ ∀ {further}, w.IsOrderly setup further →
        ∀ {d t}, w.system.binders.transports.get? d = some t →
          (w.run setup further).system.binders.transports.get? d = some t
  := by
  intro setup w
  have hfollows : Follows Record.observer setup.binders
      fun v task r => Wired v.1 v.2 task ∧ Recorded v.1 v.2 r := Recorded.follows
  have hchannels := hasChannels_fresh (ι := Unit) (β := MemoryCall) {} ({} : MemoryBinder)
  obtain ⟨hw, hr⟩ := hfollows.run MemoryBinder.keepsChannels hchannels
    ⟨wired_empty, recorded_empty⟩ hmoves
  use Represents.of_recorded hw hr
  intro further hfurther d t ht
  have hkeeps : Keeps setup.binders fun v _ => v.2.transports.get? d = some t := keeps_transport d t
  apply hkeeps.run MemoryBinder.keepsChannels _ ht hfurther
  apply hchannels.run MemoryBinder.keepsChannels

/-- Two inputs are bound to one destination, and the first of them is released. -/
def bindTwoReleaseFirst : List (Move Unit) :=
  [.act (.newChannel "first" none), .act (.newChannel "second" none),
    .call (.attach () (.consumer "orders" none ⟨0⟩ {})), .advance 0, .advance 0,
    .call (.attach () (.consumer "orders" none ⟨1⟩ {})), .advance 1, .advance 1,
    .call (.unbind ⟨0⟩), .advance 2, .advance 2]

/-- The handler of the input that was not released is left on the transport channel. -/
theorem represents_record_of_release :
  let w := (fresh {} {}).run MemoryBinder.setup bindTwoReleaseFirst
  w.system.fabric.binderHandlers [] ⟨2⟩ = [⟨1⟩]
    ∧ (w.run MemoryBinder.setup [.advance 2]).system.binders.transports.get? "orders" = some ⟨2⟩
  := by
  intro w
  have hmoves : (fresh {} {}).IsOrderly MemoryBinder.setup bindTwoReleaseFirst := by
    simp [bindTwoReleaseFirst, IsOrderly]
  obtain ⟨hrepresents, hkept⟩ :=
    represents_record {} { binders := Table.ofEntries [("memory", ())] } none hmoves
  constructor
  · apply hrepresents.attached ⟨2⟩
  · apply hkept
    · simp [IsOrderly]
    · rfl

end World

end ChannelBinding
