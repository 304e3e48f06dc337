import ChannelBinding.Proofs.Alone
import ChannelBinding.Proofs.Refusal
import ChannelBinding.Session.Job

/-!
# Consumer binds are all or nothing

A consumer bind that runs without a break either makes one binding for each of its destinations, and
records them, or releases all that it has made when the binder refuses a destination.  Then nothing is
left but transport channels that nobody has subscribed to: every channel that was there is as it was,
with the same subscribers in the same order.
-/

namespace ChannelBinding

open Session (settleFrom)

/-! ## Links -/

/-- A binding that a consumer bind has made: its destination, the transport channel, and the handler
that holds it in place there. -/
structure Link where
  destination : String
  transport : ChannelId
  handler : HandlerId

/-- The binding of a link, still bound or released. -/
def Link.binding (group : Option String) (bound : Bool) (link : Link) : Binding where
  name := link.destination
  role := .consumer
  group
  attachment := .subscription link.transport link.handler
  bound

/-- The handlers that links have put on a channel, in order. -/
def heldAt (links : List Link) (c : ChannelId) : List HandlerId :=
  (links.filter fun link => link.transport = c).map Link.handler

/-- What a consumer bind has made of a fabric and an in-memory binder when it has released some of its
links and holds others. -/
structure Linked (f₀ : Fabric) (m₀ : MemoryBinder) (f : Fabric) (m : MemoryBinder)
    (request : ConsumerRequest Unit) (released links : List Link) : Prop where
  /-- The handlers of its links stand behind the subscribers that were there. -/
  subscribers : ∀ c, f.subscribers c = f₀.subscribers c ++ heldAt links c
  channel : ∀ {c channel}, f₀.channel? c = some channel →
    ∃ subscribers, f.channel? c = some { channel with subscribers }
  channels_le : f₀.channels.size ≤ f.channels.size
  handler : ∀ {h handler}, f₀.handler? h = some handler → f.handler? h = some handler
  handlers_le : f₀.handlers.size ≤ f.handlers.size
  bindings : f.bindings.toList = f₀.bindings.toList
    ++ (released.map (Link.binding request.group false)
      ++ links.map (Link.binding request.group true))
  /-- The handlers of its links are new, and forward to the input. -/
  fresh : ∀ link ∈ links, f₀.handlers.size ≤ link.handler.index
    ∧ f.handler? link.handler = some (.forwarding request.input)
  nodup : (links.map Link.handler).Nodup
  transport : ∀ {d t}, m₀.transports.get? d = some t → m.transports.get? d = some t
  linked : ∀ link ∈ links, m.transports.get? link.destination = some link.transport
  /-- New channels are transport channels of new destinations. -/
  gained : ∀ {c}, f₀.channels.size ≤ c.index → c.index < f.channels.size →
    ∃ d, m₀.transports.get? d = none ∧ m.transports.get? d = some c
  of_transport : ∀ {d t}, m.transports.get? d = some t →
    m₀.transports.get? d = some t ∨ f₀.channels.size ≤ t.index
  rest : f.labels = f₀.labels ∧ f.minted = f₀.minted ∧ f.now = f₀.now

variable {f₀ f : Fabric} {m₀ m : MemoryBinder} {request : ConsumerRequest Unit}
  {released links : List Link}

theorem heldAt_cons (link : Link) (links : List Link) (c : ChannelId) :
  heldAt (link :: links) c
    = if link.transport = c then link.handler :: heldAt links c else heldAt links c
  := by
  simp only [heldAt, List.filter_cons, decide_eq_true_eq]
  split <;> rfl

theorem heldAt_append_singleton (links : List Link) (link : Link) (c : ChannelId) :
  heldAt (links ++ [link]) c
    = if link.transport = c then heldAt links c ++ [link.handler] else heldAt links c
  := by
  simp only [heldAt, List.filter_append, List.map_append, List.filter_singleton]
  split <;> simp_all

theorem mem_heldAt {link : Link} (h : link ∈ links) :
  link.handler ∈ heldAt links link.transport
  := by
  apply List.mem_map_of_mem
  simpa using h

namespace Linked

theorem refl (f : Fabric) (m : MemoryBinder) (request : ConsumerRequest Unit) :
  Linked f m f m request [] []
  := by
  constructor
  · simp [heldAt]
  · intro c channel hc
    exact ⟨channel.subscribers, hc⟩
  · apply Nat.le_refl
  · exact id
  · apply Nat.le_refl
  · simp
  · simp
  · simp
  · exact id
  · simp
  · intro c hle hlt
    apply absurd hlt (Nat.not_lt.mpr hle)
  · exact Or.inl
  · exact ⟨rfl, rfl, rfl⟩

theorem emit (hl : Linked f₀ m₀ f m request released links) (e : Event) :
  Linked f₀ m₀ (f.emit e) m request released links
  := { hl with }

/-- A transport channel that is opened is an old one or has no subscribers. -/
theorem openTransport (hl : Linked f₀ m₀ f m request released links) (d : String) :
  Linked f₀ m₀ (m.openTransport f d).1 (m.openTransport f d).2.1 request released links
  := by
  unfold MemoryBinder.openTransport
  split
  · apply hl.emit
  · rename_i hnone
    have hold : ∀ {d' t}, m.transports.get? d' = some t →
        (m.transports.insert d ⟨f.channels.size⟩).get? d' = some t :=
      Table.get?_insert_of_new _ hnone
    have hnone₀ : m₀.transports.get? d = none := by
      cases h₀ : m₀.transports.get? d with
      | none => rfl
      | some t =>
        rw [hl.transport h₀] at hnone
        cases hnone
    refine Linked.emit ?_ _
    refine { hl with subscribers := ?_, channel := ?_, channels_le := ?_, transport := ?_,
                     linked := ?_, gained := ?_, of_transport := ?_ }
    · intro c
      rw [Fabric.subscribers_addChannel, hl.subscribers]
    · intro c channel hc
      obtain ⟨subscribers, hsame⟩ := hl.channel hc
      use subscribers
      rw [Fabric.channel?_addChannel, if_neg, hsame]
      rintro rfl
      simp [Fabric.channel?] at hsame
    · apply Nat.le_trans hl.channels_le
      simp [Fabric.addChannel]
    · intro d' t ht
      apply hold (hl.transport ht)
    · intro link hlink
      apply hold (hl.linked link hlink)
    · intro c hle hlt
      have hsize : c.index < f.channels.size + 1 := by
        simpa [Fabric.addChannel] using hlt
      rcases Nat.lt_succ_iff_lt_or_eq.mp hsize with hlt | heq
      · obtain ⟨d', hnone', hsome⟩ := hl.gained hle hlt
        exact ⟨d', hnone', hold hsome⟩
      · obtain rfl : c = ⟨f.channels.size⟩ := congrArg ChannelId.mk heq
        exact ⟨d, hnone₀, Table.get?_insert_self _ _ _⟩
    · intro d' t ht
      rw [Table.get?_insert] at ht
      split at ht
      · cases ht
        exact Or.inr hl.channels_le
      · apply hl.of_transport ht

theorem addHandler (hl : Linked f₀ m₀ f m request released links) (handler : Handler) :
  Linked f₀ m₀ (f.addHandler handler).1 m request released links
  := by
  refine { hl with handler := ?_, handlers_le := ?_, fresh := ?_ }
  · intro h handler' hh
    apply Fabric.handler?_addHandler_of_some _ (hl.handler hh)
  · apply Nat.le_trans hl.handlers_le
    simp [Fabric.addHandler]
  · intro link hlink
    obtain ⟨hle, hforward⟩ := hl.fresh link hlink
    use hle
    apply Fabric.handler?_addHandler_of_some _ hforward

/-- A binding that is hung on a new handler adds a link. -/
theorem hang (hl : Linked f₀ m₀ f m request released links) (link : Link)
    (ht : m.transports.get? link.destination = some link.transport)
    (hlt : link.transport.index < f.channels.size)
    (hforward : f.handler? link.handler = some (.forwarding request.input))
    (hle : f₀.handlers.size ≤ link.handler.index)
    (hnew : link.handler ∉ links.map Link.handler)
    (hunsubscribed : link.handler ∉ f.subscribers link.transport) (e : Event) :
  Linked f₀ m₀ (((f.subscribe link.transport link.handler).1.emit e).addBinding
    (link.binding request.group true)).1 m request released (links ++ [link])
  := by
  obtain ⟨hextends, -⟩ := f.extends_subscribe link.transport link.handler
  have hhandlers := f.handlers_subscribe link.transport link.handler
  constructor
  · intro c
    have hsubscribers := Fabric.subscribers_subscribe_of_new hlt hunsubscribed c
    rw [heldAt_append_singleton]
    apply hsubscribers.trans
    rw [hl.subscribers]
    split
    · apply List.append_assoc
    · rfl
  · intro c channel hc
    obtain ⟨subscribers, hold⟩ := hl.channel hc
    apply Fabric.channel?_subscribe hold
  · apply Nat.le_trans hl.channels_le hextends.channels
  · intro h handler hh
    rw [← hl.handler hh]
    simp only [Fabric.handler?, Fabric.emit, Fabric.addBinding, hhandlers]
  · apply Nat.le_trans hl.handlers_le hextends.handlers
  · simp only [Fabric.addBinding, Fabric.emit, hextends.bindings, Array.toList_push, hl.bindings,
      List.map_append, List.map_singleton, List.append_assoc]
  · intro link' hlink
    rcases List.mem_append.mp hlink with hold | hlast
    · obtain ⟨hle', hforward'⟩ := hl.fresh link' hold
      use hle'
      apply hextends.forwarding hforward'
    · rw [List.mem_singleton.mp hlast]
      use hle
      apply hextends.forwarding hforward
  · rw [List.map_append, List.map_singleton, ← List.concat_eq_append]
    apply hl.nodup.concat hnew
  · exact hl.transport
  · intro link' hlink
    rcases List.mem_append.mp hlink with hold | hlast
    · apply hl.linked link' hold
    · rw [List.mem_singleton.mp hlast]
      apply ht
  · intro c hle' hlt'
    apply hl.gained hle'
    rw [← f.size_subscribe link.transport link.handler]
    apply hlt'
  · exact hl.of_transport
  · obtain ⟨hlabels, hminted, hnow⟩ := f.rest_subscribe link.transport link.handler
    obtain ⟨hlabels₀, hminted₀, hnow₀⟩ := hl.rest
    exact ⟨hlabels.trans hlabels₀, hminted.trans hminted₀, hnow.trans hnow₀⟩

/-- A bind that the binder carries out adds a link. -/
theorem attach (hl : Linked f₀ m₀ f m request released links) (hg : Grounded f m) {d : String}
    {t : ChannelId} (ht : m.transports.get? d = some t) :
  Linked f₀ m₀ (MemoryBinder.attach f t (request.bindRequest d)).1 m request released
    (links ++ [⟨d, t, ⟨f.handlers.size⟩⟩])
  := by
  obtain ⟨e, he⟩ := MemoryBinder.attach_eq f t (request.bindRequest d)
  have hself := f.handler?_addHandler_self (.forwarding request.input)
  -- the handler is newer than all that are linked or subscribed
  have hnew : ⟨f.handlers.size⟩ ∉ links.map Link.handler := by
    intro hmem
    obtain ⟨link, hlink, heq⟩ := List.mem_map.mp hmem
    have hlt := (Array.getElem?_eq_some_iff.mp (hl.fresh link hlink).2).1
    rw [heq] at hlt
    apply Nat.lt_irrefl _ hlt
  have hunsubscribed : ⟨f.handlers.size⟩ ∉ f.subscribers t := by
    intro hmem
    apply Nat.lt_irrefl _ (hg.subscriber_lt hmem)
  rw [he]
  exact (hl.addHandler (.forwarding request.input)).hang ⟨d, t, ⟨f.handlers.size⟩⟩ ht
    (hg.transport_lt ht) hself hl.handlers_le hnew hunsubscribed e

/-- The bindings of links come after those of the links that were released. -/
theorem binding?_link (hl : Linked f₀ m₀ f m request released links) {i : Nat}
    (hi : i < links.length) :
  f.binding? ⟨f₀.bindings.size + released.length + i⟩
    = some (links[i].binding request.group true)
  := by
  rw [Fabric.binding?, ← Array.getElem?_toList, hl.bindings, Nat.add_assoc]
  simp [hi]

/-- What was bound before stays as it was. -/
theorem binding?_old (hl : Linked f₀ m₀ f m request released links) {b : BindingId}
    {binding : Binding} (hb : f₀.binding? b = some binding) :
  f.binding? b = some binding
  := by
  obtain ⟨hlt, -⟩ := Array.getElem?_eq_some_iff.mp hb
  rw [Fabric.binding?, ← Array.getElem?_toList] at hb ⊢
  rw [hl.bindings, List.getElem?_append_left hlt]
  apply hb

/-- What was bound is not bound any more when all links are released. -/
theorem unbound (hl : Linked f₀ m₀ f m request released []) {b : BindingId} {binding : Binding}
    (hnew : f₀.binding? b = none) (hb : f.binding? b = some binding) :
  binding.bound = false
  := by
  have hle : f₀.bindings.toList.length ≤ b.index := Array.getElem?_eq_none_iff.mp hnew
  rw [Fabric.binding?, ← Array.getElem?_toList, hl.bindings, List.getElem?_append_right hle,
    List.map_nil, List.append_nil] at hb
  obtain ⟨link, -, rfl⟩ := List.mem_map.mp (List.mem_of_getElem? hb)
  rfl

theorem size_bindings (hl : Linked f₀ m₀ f m request released links) :
  f.bindings.size = f₀.bindings.size + (released.length + links.length)
  := by
  rw [← Array.length_toList, hl.bindings]
  simp

/-- When all links are released, the channels are as they were. -/
theorem channel_eq (hl : Linked f₀ m₀ f m request released []) {c : ChannelId} {channel : Channel}
    (hc : f₀.channel? c = some channel) :
  f.channel? c = some channel
  := by
  obtain ⟨subscribers, hold⟩ := hl.channel hc
  have hsame : subscribers = channel.subscribers := by
    have hsubscribers := hl.subscribers c
    simp only [Fabric.subscribers, hc, hold] at hsubscribers
    simpa [heldAt] using hsubscribers
  rw [hold, hsame]

/-- The bindings when the one of the first link is marked as unbound. -/
theorem bindings_mark {link : Link} (hl : Linked f₀ m₀ f m request released (link :: links)) :
  (f.setBinding ⟨f₀.bindings.size + released.length⟩
      (link.binding request.group false)).bindings.toList
    = f₀.bindings.toList ++ ((released ++ [link]).map (Link.binding request.group false)
      ++ links.map (Link.binding request.group true))
  := by
  rw [Fabric.setBinding, Array.toList_setIfInBounds, hl.bindings]
  simp [List.set_append_right]

/-- A link that is released leaves the subscribers in place that were there before it was made. -/
theorem release {link : Link} (hl : Linked f₀ m₀ f m request released (link :: links))
    (hg₀ : Grounded f₀ m₀) :
  Linked f₀ m₀ ((f.setBinding ⟨f₀.bindings.size + released.length⟩
      (link.binding request.group false)).unsubscribe link.transport link.handler).1 m request
    (released ++ [link]) links
  := by
  have hmarked := hl.bindings_mark
  -- to mark a binding changes nothing else
  obtain ⟨f₁, hf₁, hchannels, hhandlers, hrest⟩ : ∃ f₁, f.setBinding
      ⟨f₀.bindings.size + released.length⟩ (link.binding request.group false) = f₁
        ∧ f₁.channels = f.channels ∧ f₁.handlers = f.handlers
        ∧ f₁.labels = f.labels ∧ f₁.minted = f.minted ∧ f₁.now = f.now :=
    ⟨_, rfl, rfl, rfl, rfl, rfl, rfl⟩
  rw [hf₁] at hmarked ⊢
  obtain ⟨hextends, -⟩ := f₁.extends_unsubscribe link.transport link.handler
  have hunsubscribed : link.handler ∉ f₀.subscribers link.transport := by
    intro hmem
    have hlt := hg₀.subscriber_lt hmem
    apply Nat.not_lt.mpr (hl.fresh link List.mem_cons_self).1 hlt
  constructor
  · intro c
    have hsubscribers : f₁.subscribers c = f.subscribers c := by
      rw [Fabric.subscribers, Fabric.channel?, hchannels]
      rfl
    rw [Fabric.subscribers_unsubscribe, hsubscribers, hl.subscribers, heldAt_cons]
    split
    · rename_i heq
      rw [← heq, List.erase_append_right _ hunsubscribed, List.erase_cons_head]
    · rfl
  · intro c channel hc
    obtain ⟨subscribers, hold⟩ := hl.channel hc
    have hold₁ : f₁.channel? c = some { channel with subscribers } := by
      rw [Fabric.channel?, hchannels]
      apply hold
    apply Fabric.channel?_unsubscribe hold₁
  · apply Nat.le_trans hl.channels_le
    rw [← hchannels]
    apply hextends.channels
  · intro h handler hh
    rw [← hl.handler hh, Fabric.handler?, Fabric.handlers_unsubscribe, hhandlers]
    rfl
  · rw [Fabric.handlers_unsubscribe, hhandlers]
    apply hl.handlers_le
  · rw [hextends.bindings, hmarked]
  · intro link' hlink
    obtain ⟨hle, hforward⟩ := hl.fresh link' (List.mem_cons_of_mem _ hlink)
    use hle
    rw [← hforward, Fabric.handler?, Fabric.handlers_unsubscribe, hhandlers]
    rfl
  · exact (List.nodup_cons.mp hl.nodup).2
  · exact hl.transport
  · intro link' hlink
    apply hl.linked link' (List.mem_cons_of_mem _ hlink)
  · intro c hle hlt
    apply hl.gained hle
    rw [Fabric.size_unsubscribe, hchannels] at hlt
    apply hlt
  · exact hl.of_transport
  · obtain ⟨hlabels, hminted, hnow⟩ := f₁.rest_unsubscribe link.transport link.handler
    rw [hlabels, hminted, hnow, hrest.1, hrest.2.1, hrest.2.2]
    apply hl.rest

end Linked

/-! ## Releases -/

/-- The handles of a number of bindings that are made one after the other. -/
def bindingIds (first count : Nat) : List BindingId := (List.range' first count).map BindingId.mk

theorem bindingIds_succ (first count : Nat) :
  bindingIds first (count + 1) = ⟨first⟩ :: bindingIds (first + 1) count
  := by
  simp [bindingIds, List.range'_succ]

theorem bindingIds_concat (first count : Nat) :
  bindingIds first (count + 1) = bindingIds first count ++ [⟨first + count⟩]
  := by
  simp [bindingIds, List.range'_1_concat]

/-- A process that is let go on has taken one step and goes on from there. -/
theorem settleFrom_running {σ ρ α : Type} (P : Process σ ρ α) (s : σ) (r : ρ) :
  settleFrom P (s, .running r) = settleFrom P (P.step s r)
  := by
  rw [settleFrom, P.settle_eq]
  split
  all_goals simp_all [settleFrom]

/-- The release of a link marks its binding first. -/
theorem Release.step_requested {b : BindingId} {link : Link} {group : Option String}
    (hb : f.binding? b = some (link.binding group true)) (name : String) (rest : List BindingId)
    (failure : Option BinderError) :
  Release.step f ⟨name, .requested b, rest, failure⟩
    = (f.setBinding b (link.binding group false), .running ⟨name, .detaching b, rest, failure⟩)
  := by
  simp [step, Unbinding.step, hb, Link.binding]

/-- The release of a link unsubscribes its handler then, and goes on to the next one. -/
theorem Release.step_detaching {b : BindingId} {link : Link} {group : Option String}
    (hb : f.binding? b = some (link.binding group false)) (name : String) (rest : List BindingId)
    (failure : Option BinderError) :
  ∃ e e', Release.step f ⟨name, .detaching b, rest, failure⟩
    = (((f.unsubscribe link.transport link.handler).1.emit e).emit e',
      begin name (failure.or none) rest)
  := by
  obtain ⟨hextends, -⟩ := f.extends_unsubscribe link.transport link.handler
  have hbinding : ∀ e, ((f.unsubscribe link.transport link.handler).1.emit e).binding? b
      = some (link.binding group false) := by
    intro e
    rw [← hb, ← hextends.binding?_eq]
    rfl
  simp only [Link.binding] at hb hbinding
  simp only [step, Unbinding.step, hb, report, Unbinding.target, failureOf, hbinding]
  exact ⟨_, _, rfl⟩

section RollBack

variable {ι τ β : Type} (setup : Setup ι τ β)

/-- A consumer bind that is rolled back releases all of its links. -/
theorem ConsumerBind.settle_rollBack (hg₀ : Grounded f₀ m₀) (name : String) (error : BinderError)
    (s : System τ) (hl : Linked f₀ m₀ f m request released links) (failure : Option BinderError) :
  ∃ f', settleFrom (process setup) ({ s with fabric := f }, rollBack error (Release.begin name failure
      (bindingIds (f₀.bindings.size + released.length) links.length)))
      = ({ s with fabric := f' }, .ended (.error (.binder error)))
    ∧ Linked f₀ m₀ f' m request (released ++ links) []
  := by
  induction links generalizing f released failure with
  | nil =>
    use f, rfl
    rw [List.append_nil]
    apply hl
  | cons link links ih =>
    have hb : f.binding? ⟨f₀.bindings.size + released.length⟩
        = some (link.binding request.group true) := hl.binding?_link (Nat.succ_pos _)
    have hmarked : (f.setBinding ⟨f₀.bindings.size + released.length⟩
        (link.binding request.group false)).binding? ⟨f₀.bindings.size + released.length⟩
          = some (link.binding request.group false) := by
      rw [Fabric.binding?_setBinding, if_pos rfl, hb]
      rfl
    obtain ⟨e, e', hdetach⟩ := Release.step_detaching hmarked name
      (bindingIds (f₀.bindings.size + released.length + 1) links.length) failure
    have hreleased := ((hl.release hg₀).emit e).emit e'
    generalize Fabric.emit _ e' = f₁ at hdetach hreleased
    obtain ⟨f', hsettle, hl'⟩ := ih hreleased (failure.or none)
    use f'
    rw [List.append_assoc, List.singleton_append] at hl'
    refine ⟨?_, hl'⟩
    rw [← hsettle, List.length_cons, bindingIds_succ, List.length_append]
    simp only [Release.begin, rollBack, settleFrom_running, process, step,
      Release.step_requested hb, hdetach]
    rfl

end RollBack

/-! ## The way of a consumer bind -/

/-- Whether none of some requests is refused when they come one after the other. -/
def Refusals.Accept (refuses : Refusals) : List BindRequest → List BindRequest → Prop
  | _, [] => True
  | asked, request :: rest => refuses asked request = none ∧ refuses.Accept (asked ++ [request]) rest

theorem Refusals.accept_concat {refuses : Refusals} {asked requests : List BindRequest}
    {request : BindRequest} (h : refuses.Accept asked requests)
    (hlast : refuses (asked ++ requests) request = none) :
  refuses.Accept asked (requests ++ [request])
  := by
  induction requests generalizing asked with
  | nil =>
    rw [List.append_nil] at hlast
    exact ⟨hlast, trivial⟩
  | cons first rest ih =>
    use h.1
    apply ih h.2
    rw [List.append_assoc]
    apply hlast

/-- What a consumer bind that ends well leaves behind: one binding for each destination, in order. -/
structure BoundAll (refuses : Refusals) (s s' : System RefusingBinder)
    (request : ConsumerRequest Unit) (destinations : List String) (bs : List BindingId) : Prop where
  /-- The binder was asked for every destination, once, and refused none. -/
  asked : s'.binders.asked = s.binders.asked ++ destinations.map request.bindRequest
  accepted : refuses.Accept s.binders.asked (destinations.map request.bindRequest)
  /-- Its bindings are the only new ones. -/
  bindings : bs = bindingIds s.fabric.bindings.size destinations.length
  size : s'.fabric.bindings.size = s.fabric.bindings.size + destinations.length
  /-- Each of them is bound, and its handler forwards from the transport channel to the input. -/
  bound : List.Forall₂ (fun d b => ∃ t h,
    s'.fabric.binding? b = some
        { name := d, role := .consumer, group := request.group, attachment := .subscription t h
          bound := true }
      ∧ s'.binders.inner.transports.get? d = some t ∧ h ∈ s'.fabric.subscribers t
      ∧ s'.fabric.handler? h = some (.forwarding request.input)) destinations bs
  tracked : ∀ role name, s'.ledger.tracked role name
    = if role = .consumer ∧ name = request.name then s.ledger.tracked role name ++ bs
      else s.ledger.tracked role name
  rest : { s' with fabric := s.fabric, binders := s.binders, ledger := s.ledger } = s

/-- What a consumer bind that the binder has refused leaves behind: transport channels without
subscribers, and bindings that are not bound. -/
structure RolledBack (refuses : Refusals) (s s' : System RefusingBinder)
    (request : ConsumerRequest Unit) (destinations : List String) (e : BinderError) : Prop where
  /-- The binder was asked for the destinations up to the first that it refused, and for no other. -/
  refused : ∃ before d after, destinations = before ++ d :: after
    ∧ refuses.Accept s.binders.asked (before.map request.bindRequest)
    ∧ refuses (s.binders.asked ++ before.map request.bindRequest) (request.bindRequest d) = some e
    ∧ s'.binders.asked = s.binders.asked ++ (before ++ [d]).map request.bindRequest
    ∧ s'.fabric.bindings.size = s.fabric.bindings.size + before.length
  binding : ∀ {b binding}, s.fabric.binding? b = some binding → s'.fabric.binding? b = some binding
  unbound : ∀ {b binding}, s.fabric.binding? b = none → s'.fabric.binding? b = some binding →
    binding.bound = false
  /-- Every channel is as it was, with its subscribers in their order. -/
  channel : ∀ {c channel}, s.fabric.channel? c = some channel → s'.fabric.channel? c = some channel
  unsubscribed : ∀ {c}, s.fabric.channel? c = none → s'.fabric.subscribers c = []
  /-- New channels are transport channels of new destinations. -/
  gained : ∀ {c channel}, s.fabric.channel? c = none → s'.fabric.channel? c = some channel →
    ∃ d, s.binders.inner.transports.get? d = none ∧ s'.binders.inner.transports.get? d = some c
  transport : ∀ {d t}, s.binders.inner.transports.get? d = some t →
    s'.binders.inner.transports.get? d = some t
  handler : ∀ {h handler}, s.fabric.handler? h = some handler → s'.fabric.handler? h = some handler
  fabric : s'.fabric.labels = s.fabric.labels ∧ s'.fabric.minted = s.fabric.minted
    ∧ s'.fabric.now = s.fabric.now
  /-- The ledger is as it was, and so is all else but the fabric and the binder. -/
  rest : { s' with fabric := s.fabric, binders := s.binders } = s

/-- Where a consumer bind stands that has bound some destinations, none of which was refused. -/
structure Underway (refuses : Refusals) (s s' : System RefusingBinder)
    (request : ConsumerRequest Unit) (done : List String) (links : List Link) : Prop where
  grounded : Grounded s'.fabric s'.binders.inner
  linked : Linked s.fabric s.binders.inner s'.fabric s'.binders.inner request [] links
  destinations : links.map Link.destination = done
  asked : s'.binders.asked = s.binders.asked ++ done.map request.bindRequest
  accepted : refuses.Accept s.binders.asked (done.map request.bindRequest)
  rest : { s' with fabric := s.fabric, binders := s.binders } = s

variable {refuses : Refusals} {s s' : System RefusingBinder} {done : List String}

/-- The handle of the binding that is made next. -/
theorem MemoryBinder.attach_snd (f : Fabric) (t : ChannelId) (request : BindRequest) :
  (attach f t request).2 = ⟨f.bindings.size⟩
  := by
  obtain ⟨e, he⟩ := attach_eq f t request
  obtain ⟨hextends, -⟩ := (f.addHandler (.forwarding (request.target t))).1.extends_subscribe
    (request.source t) ⟨f.handlers.size⟩
  rw [he]
  exact congrArg (fun bindings : Array Binding => BindingId.mk bindings.size) hextends.bindings

/-- A request that is not refused is served as by an in-memory binder. -/
def RefusingBinder.serve (s : System RefusingBinder) (request : BindRequest) :
    System RefusingBinder :=
  { s with
    fabric := (MemoryBinder.bindAt s.fabric s.binders.inner request).1
    binders :=
      { inner := (MemoryBinder.bindAt s.fabric s.binders.inner request).2
        asked := s.binders.asked ++ [request] } }

namespace Underway

theorem begin (hg : Grounded s.fabric s.binders.inner) :
  Underway refuses s s request [] []
  where
    grounded := hg
    linked := Linked.refl _ _ _
    destinations := rfl
    asked := by simp
    accepted := trivial
    rest := rfl

theorem emit (h : Underway refuses s s' request done links) (e : Event) :
  Underway refuses s (s'.emit e) request done links
  := ⟨h.grounded.emit e, h.linked.emit e, h.destinations, h.asked, h.accepted, h.rest⟩

/-- A destination that is not refused adds a link. -/
theorem serve (h : Underway refuses s s' request done links) {d : String}
    (haccept : refuses s'.binders.asked (request.bindRequest d) = none) :
  ∃ link, Underway refuses s (RefusingBinder.serve s' (request.bindRequest d)) request (done ++ [d])
    (links ++ [link])
  := by
  have hopened := h.grounded.openTransport d
  have hget := MemoryBinder.get?_openTransport s'.fabric s'.binders.inner d d
  rw [if_pos rfl] at hget
  refine ⟨_, ?_, (h.linked.openTransport d).attach hopened hget, ?_, ?_, ?_, h.rest⟩
  · apply hopened.attach
  · rw [List.map_append, h.destinations, List.map_singleton]
  · rw [RefusingBinder.serve, h.asked, List.map_append, List.append_assoc, List.map_singleton]
  · rw [List.map_append, List.map_singleton]
    apply Refusals.accept_concat h.accepted
    rw [← h.asked]
    apply haccept

/-- When all destinations are bound, the bindings are recorded. -/
theorem boundAll (h : Underway refuses s s' request done links) :
  let bs := bindingIds s.fabric.bindings.size links.length
  BoundAll refuses s { s' with ledger := s'.ledger.record .consumer request.name bs } request done bs
  := by
  intro bs
  have hlength : done.length = links.length := by
    rw [← h.destinations, List.length_map]
  have hledger := congrArg System.ledger h.rest
  dsimp only at hledger
  constructor
  · exact h.asked
  · exact h.accepted
  · rw [hlength]
  · rw [hlength, h.linked.size_bindings, List.length_nil, Nat.zero_add]
  · rw [← h.destinations, List.forall₂_map_left_iff, List.forall₂_iff_get]
    constructor
    · simp [bs, bindingIds]
    · intro i hi hi'
      have hb := h.linked.binding?_link hi
      have hlink : links[i] ∈ links := List.getElem_mem hi
      have hid : bs.get ⟨i, hi'⟩ = ⟨s.fabric.bindings.size + i⟩ := by
        simp [bs, bindingIds]
      rw [hid]
      refine ⟨links[i].transport, links[i].handler, hb, h.linked.linked _ hlink, ?_,
        (h.linked.fresh _ hlink).2⟩
      rw [h.linked.subscribers]
      apply List.mem_append_right
      apply mem_heldAt hlink
  · intro role name
    rw [Ledger.tracked_record, hledger]
    simp only [@eq_comm _ name, @eq_comm _ role]
  · rw [← h.rest]

/-- When the binder refuses a destination and all links are released, nothing is left but transport
channels. -/
theorem rolledBack (h : Underway refuses s s' request done links) {d : String} {e : BinderError}
    (hrefuse : refuses s'.binders.asked (request.bindRequest d) = some e) {f : Fabric}
    (hl : Linked s.fabric s.binders.inner f s'.binders.inner request links []) (after : List String) :
  RolledBack refuses s { s' with
    fabric := f
    binders := { s'.binders with asked := s'.binders.asked ++ [request.bindRequest d] } } request
      (done ++ d :: after) e
  := by
  constructor
  · refine ⟨done, d, after, rfl, h.accepted, ?_, ?_, ?_⟩
    · rw [← h.asked]
      apply hrefuse
    · rw [h.asked, List.map_append, List.append_assoc, List.map_singleton]
    · rw [hl.size_bindings, ← h.destinations, List.length_map, List.length_nil, Nat.add_zero]
  · exact hl.binding?_old
  · exact hl.unbound
  · exact hl.channel_eq
  · intro c hc
    rw [hl.subscribers, Fabric.subscribers, hc]
    rfl
  · intro c channel hc hc'
    apply hl.gained
    · exact Array.getElem?_eq_none_iff.mp hc
    · exact (Array.getElem?_eq_some_iff.mp hc').1
  · exact hl.transport
  · exact hl.handler
  · exact hl.rest
  · exact h.rest

end Underway

section Settle

variable (refuses : Refusals) (settings : Settings) (factory : Factory Unit)
  (callback : Option Callback)

theorem RefusingBinder.step_asking {s : System RefusingBinder} {request : BindRequest}
    (haccept : refuses s.binders.asked request = none) :
  (setup refuses settings factory callback).bindProcess.step s (.asking request)
    = ({ s with binders := { s.binders with asked := s.binders.asked ++ [request] } },
      .running (.attaching (.opening request)))
  := by
  simp [Setup.bindProcess, Process.focus, setup, behaviour, process, RefusingCall.step,
    System.bindersView, System.withBindersView, haccept]

theorem RefusingBinder.step_refusing {s : System RefusingBinder} {request : BindRequest}
    {e : BinderError} (hrefuse : refuses s.binders.asked request = some e) :
  (setup refuses settings factory callback).bindProcess.step s (.asking request)
    = ({ s with binders := { s.binders with asked := s.binders.asked ++ [request] } },
      .ended (.error e))
  := by
  simp [Setup.bindProcess, Process.focus, setup, behaviour, process, RefusingCall.step,
    System.bindersView, System.withBindersView, hrefuse]

theorem RefusingBinder.step_opening (s : System RefusingBinder) (request : BindRequest)
    (hblank : Text.isBlankText request.destination = false) :
  let opened := s.binders.inner.openTransport s.fabric request.destination
  (setup refuses settings factory callback).bindProcess.step s (.attaching (.opening request))
    = ({ s with fabric := opened.1, binders := { s.binders with inner := opened.2.1 } },
      .running (.attaching (.attaching request opened.2.2)))
  := by
  simp [Setup.bindProcess, Process.focus, setup, behaviour, process, RefusingCall.step,
    RefusingCall.step.wrap, MemoryCall.step, System.bindersView, System.withBindersView, hblank]

theorem RefusingBinder.step_attaching (s : System RefusingBinder) (request : BindRequest)
    (t : ChannelId) :
  (setup refuses settings factory callback).bindProcess.step s (.attaching (.attaching request t))
    = ({ s with fabric := (MemoryBinder.attach s.fabric t request).1 },
      .ended (.ok (MemoryBinder.attach s.fabric t request).2))
  := rfl

/-- A destination that is not refused is bound, and the bind goes on. -/
theorem ConsumerBind.settle_served {s : System RefusingBinder} {d : String}
    (haccept : refuses s.binders.asked (request.bindRequest d) = none)
    (hblank : Text.isBlankText d = false) (rest : List String) (created : List BindingId) :
  settleFrom (process (RefusingBinder.setup refuses settings factory callback))
      (s, .running (.binding request d (.asking (request.bindRequest d)) rest created))
    = settleFrom (process (RefusingBinder.setup refuses settings factory callback))
        (next (RefusingBinder.setup refuses settings factory callback)
          (RefusingBinder.serve s (request.bindRequest d)) request
          (created ++ [⟨s.fabric.bindings.size⟩]) rest)
  := by
  have hgrows := (Fabric.Grows.refl s.fabric).openTransport s.binders.inner
    (request.bindRequest d).destination
  have hstep := RefusingBinder.step_opening refuses settings factory callback
    { s with binders := { s.binders with asked := s.binders.asked ++ [request.bindRequest d] } }
    (request.bindRequest d) hblank
  simp only [settleFrom_running, process, step, RefusingBinder.step_asking _ _ _ _ haccept, hstep,
    RefusingBinder.step_attaching, MemoryBinder.attach_snd, hgrows.bindings]
  rfl

/-- A destination that is refused makes the bind roll back. -/
theorem ConsumerBind.settle_refused {s : System RefusingBinder} {d : String} {e : BinderError}
    (hrefuse : refuses s.binders.asked (request.bindRequest d) = some e) (rest : List String)
    (created : List BindingId) :
  ∃ event, settleFrom (process (RefusingBinder.setup refuses settings factory callback))
      (s, .running (.binding request d (.asking (request.bindRequest d)) rest created))
    = settleFrom (process (RefusingBinder.setup refuses settings factory callback))
        ({ s with
          fabric := s.fabric.emit event
          binders := { s.binders with asked := s.binders.asked ++ [request.bindRequest d] } },
          rollBack e (Release.begin request.name none created))
  := by
  simp only [settleFrom_running, process, step, RefusingBinder.step_refusing _ _ _ _ hrefuse]
  exact ⟨_, rfl⟩

/-- A consumer bind that is under way binds all destinations that are left, or rolls back. -/
theorem ConsumerBind.settle_next {s s' : System RefusingBinder} {done rest : List String}
    {links : List Link} (h : Underway refuses s s' request done links)
    (hg : Grounded s.fabric s.binders.inner) (hblank : ∀ d ∈ rest, Text.isBlankText d = false) :
  ∃ s'' answer, settleFrom (process (RefusingBinder.setup refuses settings factory callback))
      (next (RefusingBinder.setup refuses settings factory callback) s' request
        (bindingIds s.fabric.bindings.size links.length) rest) = (s'', .ended answer)
    ∧ ((∃ bs, answer = .ok bs ∧ BoundAll refuses s s'' request (done ++ rest) bs)
      ∨ ∃ e, answer = .error (.binder e) ∧ RolledBack refuses s s'' request (done ++ rest) e)
  := by
  induction rest generalizing s' done links with
  | nil =>
    obtain ⟨event, hevent⟩ : ∃ event, next (RefusingBinder.setup refuses settings factory callback)
        s' request (bindingIds s.fabric.bindings.size links.length) []
          = ({ s'.emit event with
              ledger := (s'.emit event).ledger.record .consumer request.name
                (bindingIds s.fabric.bindings.size links.length) },
            .ended (.ok (bindingIds s.fabric.bindings.size links.length))) := ⟨_, rfl⟩
    rw [hevent, List.append_nil]
    exact ⟨_, _, rfl, Or.inl ⟨_, rfl, (h.emit event).boundAll⟩⟩
  | cons d rest ih =>
    obtain ⟨event, hevent⟩ : ∃ event, next (RefusingBinder.setup refuses settings factory callback)
        s' request (bindingIds s.fabric.bindings.size links.length) (d :: rest)
          = (s'.emit event, .running (.binding request d (.asking (request.bindRequest d)) rest
              (bindingIds s.fabric.bindings.size links.length))) := ⟨_, rfl⟩
    have hbegun := h.emit event
    rw [hevent]
    generalize s'.emit event = s₁ at hbegun
    cases hrefuse : refuses s₁.binders.asked (request.bindRequest d) with
    | some e =>
      obtain ⟨event', hrefused⟩ := settle_refused refuses settings factory callback hrefuse rest
        (bindingIds s.fabric.bindings.size links.length)
      obtain ⟨f, hsettle, hl⟩ := settle_rollBack
        (RefusingBinder.setup refuses settings factory callback) hg request.name e
        { s₁ with binders := { s₁.binders with
          asked := s₁.binders.asked ++ [request.bindRequest d] } } (hbegun.linked.emit event') none
      exact ⟨_, _, hrefused.trans hsettle, Or.inr ⟨e, rfl, hbegun.rolledBack hrefuse hl rest⟩⟩
    | none =>
      obtain ⟨link, hserved⟩ := hbegun.serve hrefuse
      have hid : bindingIds s.fabric.bindings.size links.length ++ [⟨s₁.fabric.bindings.size⟩]
          = bindingIds s.fabric.bindings.size (links ++ [link]).length := by
        rw [List.length_append, List.length_singleton, bindingIds_concat,
          hbegun.linked.size_bindings, List.length_nil, Nat.zero_add]
      obtain ⟨s'', answer, hsettle, houtcome⟩ :=
        ih hserved fun d hd => hblank d (List.mem_cons_of_mem _ hd)
      use s'', answer
      rw [settle_served refuses settings factory callback hrefuse (hblank d List.mem_cons_self), hid]
      use hsettle
      rw [List.append_assoc] at houtcome
      apply houtcome

/-- A consumer bind fails before it asks the binder, or asks it for the parts of the destination. -/
theorem ConsumerBind.prepare_cases (m : RefusingBinder) (name : String) (input : ChannelId) :
  (∃ e, prepare (RefusingBinder.setup refuses settings factory callback) m name input = .error e)
    ∨ prepare (RefusingBinder.setup refuses settings factory callback) m name input
      = .ok (settings.consumerBind name input, Text.commaParts (settings.destination name))
  := by
  cases hbinder : (RefusingBinder.setup refuses settings factory callback).binderFor name with
  | error e =>
    apply Or.inl
    use e
    simp only [prepare, hbinder]
    rfl
  | ok binder =>
    simp only [prepare, hbinder, bind, Except.bind]
    split
    · exact Or.inl ⟨_, rfl⟩
    · split
      · exact Or.inl ⟨_, rfl⟩
      · exact Or.inr rfl

/-- However a system has come about, and whatever its binder refuses: a consumer bind that runs
without a break ends.  If it ends well, each part of the destination has one new binding, in order, and
these are what was added to the tracked consumers of the name.  If the binder refuses a part, no part
after it was asked for, all new bindings are released, and everything but the binder's transport
channels is as it was.  If the bind fails before it asks the binder, nothing has changed. -/
theorem ConsumerBind.all_or_nothing (moves : List (Move Unit)) (name : String) (input : ChannelId) :
  let setup := RefusingBinder.setup refuses settings factory callback
  let s := ((World.fresh {} {}).run setup moves).system
  let request := settings.consumerBind name input
  let destinations := Text.commaParts (settings.destination name)
  ∃ s' answer, settleFrom (process setup) (begin setup s name input) = (s', .ended answer)
    ∧ ((∃ bs, answer = .ok bs ∧ BoundAll refuses s s' request destinations bs)
      ∨ (∃ e, answer = .error (.binder e) ∧ RolledBack refuses s s' request destinations e)
      ∨ ∃ e, prepare setup s.binders name input = .error e ∧ answer = .error e ∧ s' = s)
  := by
  intro setup s request destinations
  have hg : Grounded s.fabric s.binders.inner :=
    Grounded.run refuses settings factory callback moves
  have hblank : ∀ d ∈ destinations, Text.isBlankText d = false :=
    fun d hd => Text.not_blank_of_mem_commaParts hd
  rcases prepare_cases refuses settings factory callback s.binders name input with ⟨e, he⟩ | hok
  · have hbegin : begin setup s name input = (s, .ended (.error e)) := by
      simp only [begin, setup, he]
    rw [hbegin]
    exact ⟨_, _, rfl, Or.inr (Or.inr ⟨e, he, rfl, rfl⟩)⟩
  · have hbegin : begin setup s name input = next setup s request [] destinations := by
      simp only [begin, setup, hok]
      rfl
    have hbegun : Underway refuses s s request [] [] := Underway.begin hg
    obtain ⟨s', answer, hsettle, houtcome⟩ :=
      settle_next refuses settings factory callback hbegun hg hblank
    rw [hbegin]
    use s', answer, hsettle
    rcases houtcome with hbound | hrolled
    · exact Or.inl hbound
    · exact Or.inr (Or.inl hrolled)

end Settle

end ChannelBinding
