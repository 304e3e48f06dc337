import ChannelBinding.Proofs.Demo.Layout
import ChannelBinding.Proofs.Dispatch

/-!
# Messages of the demo

A message that is sent on an output goes to the transport channel of its destination, and from there to one
of the inputs that are bound to the destination; the handler of the input counts it.  If no input is bound
to the destination, the message is refused and nobody counts it.
-/

namespace ChannelBinding

/-- What the demo has told of its messages, and of how it ended. -/
def Fabric.demoTold (f : Fabric) : List Event := f.told.filter Event.isOfDemo

theorem Fabric.Quiet.demoTold_eq {f f' : Fabric} (h : f.Quiet f') :
  f'.demoTold = f.demoTold
  := by
  obtain ⟨news, htold, hnews⟩ := h.told
  have hnone : news.filter Event.isOfDemo = [] := by
    rw [List.filter_eq_nil_iff]
    intro e he
    rw [hnews e he]
    exact Bool.false_ne_true
  rw [demoTold, htold, List.filter_append, hnone, List.append_nil, demoTold]

theorem Fabric.demoTold_emit (f : Fabric) {e : Event} (he : e.isOfDemo = true) :
  (f.emit e).demoTold = f.demoTold ++ [e]
  := by
  rw [demoTold, told_emit, List.filter_append, List.filter_cons_of_pos he, List.filter_nil, demoTold]

/-- Whether a message leaves no trace: channels take their turns, and what is told is not of the demo. -/
structure Fabric.Passes (f f' : Fabric) : Prop extends Fabric.Grows f f', Fabric.Quiet f f'

namespace Fabric.Passes

variable {f f' f'' : Fabric}

theorem refl (f : Fabric) :
  f.Passes f
  := ⟨.refl f, (Quiet.refl f).told, rfl, id⟩

theorem trans (h : f.Passes f') (h' : f'.Passes f'') :
  f.Passes f''
  := ⟨h.toGrows.trans h'.toGrows, (h.toQuiet.trans h'.toQuiet).told, h'.minted.trans h.minted,
    fun hh => h'.handler (h.handler hh)⟩

theorem emit (h : f.Passes f') {e : Event} (he : e.isOfDemo = false) :
  f.Passes (f'.emit e)
  := ⟨h.toGrows.emit e, (h.toQuiet.emit he).told, h.minted, h.handler⟩

theorem countTurn (f : Fabric) {c : ChannelId} {channel : Channel} (hc : f.channel? c = some channel) :
  f.Passes (f.countTurn c channel)
  := by
  have hquiet := (Quiet.refl f).setChannel c { channel with turn := channel.turn + 1 }
  exact ⟨⟨hquiet.size, rfl, rfl, subscribers_setTurn _ hc⟩, hquiet.told, rfl, id⟩

end Fabric.Passes

/-- The message of a dispatch is offered to one of the subscribers first. -/
theorem dispatch_first (take : Taking) {f : Fabric} {c : ChannelId} (hne : f.subscribers c ≠ [])
    (m : Message) :
  ∃ h rest last f₁ m', (h :: rest).Perm (f.subscribers c) ∧ f.Passes f₁ ∧ m'.id = m.id
    ∧ dispatch take c m f = offer take c m' (h :: rest) last f₁
  := by
  cases hc : f.channel? c with
  | none =>
    rw [Fabric.subscribers, hc] at hne
    exact absurd rfl hne
  | some channel =>
    have hsubscribers : f.subscribers c = channel.subscribers := by
      rw [Fabric.subscribers, hc]
      rfl
    rw [hsubscribers] at hne ⊢
    have hperm := channel.perm_offerOrder
    have hsome : channel.offerOrder ≠ [] := by
      intro hnil
      rw [hnil] at hperm
      exact hne hperm.nil_eq.symm
    obtain ⟨h, rest, horder⟩ := List.exists_cons_of_ne_nil hsome
    refine ⟨h, rest, .noSubscribers channel.name, f.countTurn c channel, m.stamp channel.contentType,
      horder ▸ hperm, .countTurn f hc, m.stamp_id _, ?_⟩
    rw [dispatch_of_subscribers hc hne, horder]

namespace Demo

/-- What it is for an input to hear a message: its handler counts the message and tells of it. -/
structure Hears (f f' : Fabric) (i : Input) (id : MessageId) : Prop where
  size : f.channels.size ≤ f'.channels.size
  bindings : f'.bindings = f.bindings
  subscribers : f'.subscribers = f.subscribers
  minted : f'.minted = f.minted
  counted : ∃ received, f.handler? i.handler = some (.reporting i.name received)
    ∧ f'.handler? i.handler = some (.reporting i.name (received + 1))
  others : ∀ {h}, h ≠ i.handler → f'.handler? h = f.handler? h
  told : ∃ contentType payload,
    f'.demoTold = f.demoTold ++ [.messageReceived i.name id contentType payload]

namespace Hears

variable {f f₁ f' : Fabric} {i : Input} {id : MessageId}

theorem of_passes (hpasses : f.Passes f₁) (h : Hears f₁ f' i id) :
  Hears f f' i id
  := by
  have hhandler : ∀ h, f₁.handler? h = f.handler? h := fun h => congrArg (·[h.index]?) hpasses.handlers
  obtain ⟨received, hbefore, hafter⟩ := h.counted
  obtain ⟨contentType, payload, htold⟩ := h.told
  refine ⟨Nat.le_trans hpasses.size h.size, h.bindings.trans hpasses.bindings,
    h.subscribers.trans hpasses.subscribers, h.minted.trans hpasses.minted,
    ⟨received, ?_, hafter⟩, fun hh => (h.others hh).trans (hhandler _), contentType, payload, ?_⟩
  · rw [← hhandler, hbefore]
  · rw [htold, hpasses.demoTold_eq]

/-- Who forwards goes on to forward. -/
theorem forwarding (h : Hears f f' i id) {h' : HandlerId} {t : ChannelId}
    (hh : f.handler? h' = some (.forwarding t)) :
  f'.handler? h' = some (.forwarding t)
  := by
  rw [h.others, hh]
  rintro rfl
  obtain ⟨received, hbefore, -⟩ := h.counted
  rw [hh] at hbefore
  cases hbefore

end Hears

/-- How a send on behalf of a destination ends: an input that is bound to it hears the message, or the
message is refused. -/
def Arrives (settings : Settings) (inputs : List Input) (d : String) (id : MessageId) (f : Fabric)
    (verdict : Verdict) (f' : Fabric) : Prop :=
  (∃ i ∈ inputs, d ∈ Text.commaParts (settings.destination i.name) ∧ verdict = .ok ()
    ∧ Hears f f' i id)
  ∨ (∃ e, verdict = .error e) ∧ f.Passes f'

variable {settings : Settings} {inputs : List Input} {f f' : Fabric} {m : MemoryBinder}

namespace Layout

theorem of_passes (hl : Layout settings inputs f m) (h : f.Passes f') :
  Layout settings inputs f' m
  := hl.of_quiet h.toQuiet fun c _ => congrFun h.subscribers c

theorem of_hears (hl : Layout settings inputs f m) {i : Input} {id : MessageId} (h : Hears f f' i id) :
  Layout settings inputs f' m
  := by
  constructor
  · intro j hj
    obtain ⟨hsubscriber, received, hh⟩ := hl.input j hj
    rw [h.subscribers]
    refine ⟨hsubscriber, ?_⟩
    by_cases heq : j.handler = i.handler
    · obtain ⟨received', hbefore, hafter⟩ := h.counted
      rw [heq, hbefore] at hh
      obtain ⟨hname, -⟩ := Handler.reporting.inj (Option.some.inj hh)
      rw [heq, ← hname]
      exact ⟨_, hafter⟩
    · exact ⟨received, (h.others heq).trans hh⟩
  · exact hl.input_inj
  · intro d t ht
    exact Nat.lt_of_lt_of_le (hl.transport_lt ht) h.size
  · exact hl.transport_inj
  · exact hl.transport_ne
  · intro d t ht h' hh
    rw [h.subscribers] at hh
    obtain ⟨j, hj, hd, hforwards⟩ := hl.heard ht h' hh
    exact ⟨j, hj, hd, h.forwarding hforwards⟩

end Layout

theorem IsOutput.of_hears {d : String} {c : ChannelId} (ho : IsOutput d c f m) {i : Input}
    {id : MessageId} (h : Hears f f' i id) :
  IsOutput d c f' m
  := by
  obtain ⟨h', t, hsubscriber, hforwards, ht⟩ := ho
  exact ⟨h', t, (congrFun h.subscribers c).trans hsubscriber, h.forwarding hforwards, ht⟩

/-! ## The way of a message -/

/-- A handler that forwards sends what it takes on its target. -/
theorem take_forwarding {send : ChannelId → Message → Work Outcome} {h : HandlerId} {t : ChannelId}
    (hh : f.handler? h = some (.forwarding t)) (msg : Message) :
  Handler.take send h msg f = send t msg f
  := by
  rw [Handler.take, Work.get_bind, hh]

/-- A handler that reports counts the message that it takes, and accepts it. -/
theorem hears_take (send : ChannelId → Message → Work Outcome) {i : Input} {received : Nat}
    (hh : f.handler? i.handler = some (.reporting i.name received)) (msg : Message) :
  ∃ f', Handler.take send i.handler msg f = some (⟨[], .ok ()⟩, f') ∧ Hears f f' i msg.id
  := by
  obtain ⟨counting, hcounting⟩ : ∃ counting,
      f.setHandler i.handler (.reporting i.name (received + 1)) = counting := ⟨_, rfl⟩
  refine ⟨counting.emit (.messageReceived i.name msg.id msg.contentType? (Handler.payloadText msg)),
    ?_, ?_⟩
  · rw [Handler.take, Work.get_bind, hh, ← hcounting]
    rfl
  · have hset : ∀ h, counting.handler? h = if i.handler = h
        then (f.handler? h).map fun _ => Handler.reporting i.name (received + 1)
        else f.handler? h := by
      rw [← hcounting]
      intro h
      exact f.handler?_setHandler _ h _
    have htold : counting.demoTold = f.demoTold := by
      rw [← hcounting]
      rfl
    refine ⟨?_, ?_, ?_, ?_, ⟨received, hh, ?_⟩, ?_,
      ⟨msg.contentType?, Handler.payloadText msg, ?_⟩⟩
    · rw [← hcounting]
      exact Nat.le_refl _
    · rw [← hcounting]
      rfl
    · rw [← hcounting]
      rfl
    · rw [← hcounting]
      rfl
    · refine (hset i.handler).trans ?_
      rw [if_pos rfl, hh]
      rfl
    · intro h hne
      exact (hset h).trans (if_neg (Ne.symm hne))
    · rw [Fabric.demoTold_emit _ rfl, htold]

/-- An input hears what is sent on its channel. -/
theorem send_input (hl : Layout settings inputs f m) {i : Input} (hi : i ∈ inputs) (depth : Nat)
    (msg : Message) :
  ∃ o f', Fabric.send (depth + 1) i.channel msg f = some (o, f') ∧ o.verdict = .ok ()
    ∧ Hears f f' i msg.id
  := by
  obtain ⟨hsubscriber, received, hh⟩ := hl.input i hi
  obtain ⟨h, rest, last, f₁, msg', hperm, hpasses, hid, hdispatch⟩ :=
    dispatch_first (Handler.take (Fabric.send depth)) (hsubscriber ▸ List.cons_ne_nil _ _) msg
  rw [hsubscriber, List.perm_singleton] at hperm
  obtain ⟨rfl, rfl⟩ := List.cons.inj hperm
  obtain ⟨f', htake, hears⟩ := hears_take (Fabric.send depth) (hpasses.handler hh) msg'
  rw [offer_cons_of_ok htake rfl] at hdispatch
  exact ⟨_, f', hdispatch, rfl, hid ▸ hears.of_passes hpasses⟩

/-- What is sent on the transport channel of a destination is heard by an input that is bound to the
destination, if there is one. -/
theorem send_transport (hl : Layout settings inputs f m) {d : String} {t : ChannelId}
    (ht : m.transports.get? d = some t) (depth : Nat) (msg : Message) :
  ∃ o f', Fabric.send (depth + 2) t msg f = some (o, f')
    ∧ Arrives settings inputs d msg.id f o.verdict f'
  := by
  by_cases hnobody : f.subscribers t = []
  · obtain ⟨channel, hchannel⟩ : ∃ channel, f.channel? t = some channel :=
      ⟨_, Array.getElem?_eq_getElem (hl.transport_lt ht)⟩
    have hempty : channel.subscribers = [] := by
      rw [← hnobody, Fabric.subscribers, hchannel]
      rfl
    have hdispatch : Fabric.send (depth + 2) t msg f = _ := dispatch_of_nobody hchannel hempty msg
    exact ⟨_, _, hdispatch, Or.inr ⟨⟨_, rfl⟩, (Fabric.Passes.refl f).emit rfl⟩⟩
  · obtain ⟨h, rest, last, f₁, msg', hperm, hpasses, hid, hdispatch⟩ :=
      dispatch_first (Handler.take (Fabric.send (depth + 1))) hnobody msg
    obtain ⟨i, hi, hd, hforwards⟩ := hl.heard ht h (hperm.subset List.mem_cons_self)
    obtain ⟨o, f', hsend, hok, hears⟩ := send_input (hl.of_passes hpasses) hi depth msg'
    have htake : Handler.take (Fabric.send (depth + 1)) h msg' f₁ = some (o, f') := by
      rw [take_forwarding (hpasses.handler hforwards), hsend]
    rw [offer_cons_of_ok htake hok] at hdispatch
    exact ⟨_, f', hdispatch, Or.inl ⟨i, hi, hd, rfl, hid ▸ hears.of_passes hpasses⟩⟩

/-- What is sent on an output is heard by an input that is bound to the destination of the output, if there
is one. -/
theorem deliver_output (hl : Layout settings inputs f m) {d : String} {c : ChannelId}
    (ho : IsOutput d c f m) (msg : Message) :
  ∃ f' o, f.deliver c msg = some (f', o) ∧ Arrives settings inputs d msg.id f o.verdict f'
  := by
  obtain ⟨h, t, hsubscriber, hforwards, ht⟩ := ho
  obtain ⟨depth, hdepth⟩ : ∃ depth, f.nestingBound = depth + 3 := ⟨f.channels.size + 997, rfl⟩
  obtain ⟨h', rest, last, f₁, msg', hperm, hpasses, hid, hdispatch⟩ :=
    dispatch_first (Handler.take (Fabric.send (depth + 2)))
      (hsubscriber ▸ List.cons_ne_nil _ _) msg
  rw [hsubscriber, List.perm_singleton] at hperm
  obtain ⟨rfl, rfl⟩ := List.cons.inj hperm
  obtain ⟨o, f', hsend, harrives⟩ := send_transport (hl.of_passes hpasses) ht depth msg'
  have htake : Handler.take (Fabric.send (depth + 2)) h' msg' f₁ = some (o, f') := by
    rw [take_forwarding (hpasses.handler hforwards), hsend]
  have hdeliver : f.deliver c msg
      = (dispatch (Handler.take (Fabric.send (depth + 2))) c msg f).map fun x => (x.2, x.1) := by
    rw [Fabric.deliver, hdepth, Fabric.send]
  rcases harrives with ⟨i, hi, hd, hok, hears⟩ | ⟨⟨e, he⟩, hpasses'⟩
  · rw [hdispatch, offer_cons_of_ok htake hok] at hdeliver
    exact ⟨f', _, hdeliver, Or.inl ⟨i, hi, hd, rfl, hid ▸ hears.of_passes hpasses⟩⟩
  · rw [hdispatch, offer_cons_of_error htake he] at hdeliver
    exact ⟨_, _, hdeliver, Or.inr ⟨⟨e, rfl⟩, (hpasses.trans hpasses').emit rfl⟩⟩

end Demo

end ChannelBinding
