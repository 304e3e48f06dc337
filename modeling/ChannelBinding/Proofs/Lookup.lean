import ChannelBinding.Fabric

/-!
# Looking things up in a fabric

What the channels, handlers and bindings of a fabric are after one of them is added or replaced.
-/

namespace ChannelBinding

namespace Fabric

/-! ## Sizes -/

@[simp]
theorem size_setBinding (f : Fabric) (b : BindingId) (binding : Binding) :
  (f.setBinding b binding).channels.size = f.channels.size
  := rfl

@[simp]
theorem size_emit (f : Fabric) (e : Event) :
  (f.emit e).channels.size = f.channels.size
  := rfl

@[simp]
theorem size_setChannel (f : Fabric) (c : ChannelId) (channel : Channel) :
  (f.setChannel c channel).channels.size = f.channels.size
  := Array.size_setIfInBounds

@[simp]
theorem size_subscribe (f : Fabric) (c : ChannelId) (h : HandlerId) :
  (f.subscribe c h).1.channels.size = f.channels.size
  := by
  unfold subscribe
  split
  · rfl
  · split
    · rfl
    · simp

@[simp]
theorem size_unsubscribe (f : Fabric) (c : ChannelId) (h : HandlerId) :
  (f.unsubscribe c h).1.channels.size = f.channels.size
  := by
  unfold unsubscribe
  split
  · rfl
  · split
    · simp
    · rfl

@[simp]
theorem handlers_subscribe (f : Fabric) (c : ChannelId) (h : HandlerId) :
  (f.subscribe c h).1.handlers = f.handlers
  := by
  unfold subscribe
  repeat' split
  all_goals rfl

@[simp]
theorem handlers_unsubscribe (f : Fabric) (c : ChannelId) (h : HandlerId) :
  (f.unsubscribe c h).1.handlers = f.handlers
  := by
  unfold unsubscribe
  repeat' split
  all_goals rfl

/-- A subscription leaves labels, the count of messages and the clock. -/
theorem rest_subscribe (f : Fabric) (c : ChannelId) (h : HandlerId) :
  (f.subscribe c h).1.labels = f.labels ∧ (f.subscribe c h).1.minted = f.minted
    ∧ (f.subscribe c h).1.now = f.now
  := by
  unfold subscribe
  repeat' split
  all_goals exact ⟨rfl, rfl, rfl⟩

theorem rest_unsubscribe (f : Fabric) (c : ChannelId) (h : HandlerId) :
  (f.unsubscribe c h).1.labels = f.labels ∧ (f.unsubscribe c h).1.minted = f.minted
    ∧ (f.unsubscribe c h).1.now = f.now
  := by
  unfold unsubscribe
  repeat' split
  all_goals exact ⟨rfl, rfl, rfl⟩

/-! ## Handlers -/

theorem handler?_setHandler (f : Fabric) (h h' : HandlerId) (handler : Handler) :
  (f.setHandler h handler).handler? h'
    = if h = h' then (f.handler? h').map fun _ => handler else f.handler? h'
  := by
  obtain ⟨i⟩ := h
  obtain ⟨j⟩ := h'
  simp only [handler?, setHandler, Array.getElem?_setIfInBounds, HandlerId.mk.injEq]
  by_cases hij : i = j
  · subst hij
    by_cases hi : i < f.handlers.size <;> simp [hi]
  · simp [hij]

/-- A handler that is added changes no other. -/
theorem handler?_addHandler (f : Fabric) (h : HandlerId) (handler : Handler) :
  (f.addHandler handler).1.handler? h
    = if h = ⟨f.handlers.size⟩ then some handler else f.handler? h
  := by
  obtain ⟨i⟩ := h
  simp only [handler?, addHandler, Array.getElem?_push, HandlerId.mk.injEq]

/-- A handler that is there stays as it is when another is added. -/
theorem handler?_addHandler_of_some {f : Fabric} {h : HandlerId} {handler : Handler}
    (handler' : Handler) (hh : f.handler? h = some handler) :
  (f.addHandler handler').1.handler? h = some handler
  := by
  rw [handler?_addHandler, if_neg, hh]
  rintro rfl
  simp [handler?] at hh

theorem handler?_addHandler_self (f : Fabric) (handler : Handler) :
  (f.addHandler handler).1.handler? ⟨f.handlers.size⟩ = some handler
  := by
  rw [handler?_addHandler, if_pos rfl]

/-! ## Bindings -/

theorem binding?_setBinding (f : Fabric) (b b' : BindingId) (binding : Binding) :
  (f.setBinding b binding).binding? b'
    = if b = b' then (f.binding? b').map fun _ => binding else f.binding? b'
  := by
  obtain ⟨i⟩ := b
  obtain ⟨j⟩ := b'
  simp only [binding?, setBinding, Array.getElem?_setIfInBounds, BindingId.mk.injEq]
  by_cases hij : i = j
  · subst hij
    by_cases hi : i < f.bindings.size <;> simp [hi]
  · simp [hij]

/-- A binding that is added changes no other. -/
theorem binding?_addBinding (f : Fabric) (b : BindingId) (binding : Binding) :
  (f.addBinding binding).1.binding? b
    = if b = ⟨f.bindings.size⟩ then some binding else f.binding? b
  := by
  obtain ⟨i⟩ := b
  simp only [binding?, addBinding, Array.getElem?_push, BindingId.mk.injEq]

/-! ## Subscribers -/

@[simp]
theorem subscribers_emit (f : Fabric) (e : Event) (c : ChannelId) :
  (f.emit e).subscribers c = f.subscribers c
  := rfl

theorem channel?_addChannel (f : Fabric) (c : ChannelId) (channel : Channel) :
  (f.addChannel channel).1.channel? c
    = if c = ⟨f.channels.size⟩ then some channel else f.channel? c
  := by
  obtain ⟨i⟩ := c
  simp only [channel?, addChannel, Array.getElem?_push, ChannelId.mk.injEq]

/-- A channel that is added has the subscribers that it comes with. -/
theorem subscribers_addChannel (f : Fabric) (name : String) (contentType : Option String) :
  (f.addChannel { name, contentType }).1.subscribers = f.subscribers
  := by
  ext1 c
  simp only [subscribers, channel?_addChannel]
  split
  · rename_i hc
    subst hc
    simp [channel?]
  · rfl

/-- To count a turn of a channel changes no subscription. -/
theorem subscribers_setTurn {f : Fabric} {c : ChannelId} {channel : Channel} (turn : UInt64)
    (hc : f.channel? c = some channel) :
  (f.setChannel c { channel with turn }).subscribers = f.subscribers
  := by
  ext1 d
  simp only [subscribers, channel?_setChannel]
  split
  · rename_i hcd
    subst hcd
    simp [hc]
  · rfl

/-- Who subscribes to a channel that is there is a subscriber of it. -/
theorem mem_subscribers_subscribe {f : Fabric} {c : ChannelId} (hc : c.index < f.channels.size)
    (h : HandlerId) :
  h ∈ (f.subscribe c h).1.subscribers c
  := by
  have hchannel : f.channel? c = some f.channels[c.index] := Array.getElem?_eq_getElem hc
  rw [subscribers_subscribe]
  split
  · apply List.mem_append_right
    apply List.mem_singleton.mpr rfl
  · rename_i hnot
    simp only [true_and, subscribe, hchannel] at hnot
    split at hnot
    · rename_i hmem
      simp only [subscribers, hchannel]
      apply hmem
    · simp at hnot

/-- Who is subscribed after a subscription was before, or is the new subscriber. -/
theorem of_mem_subscribers_subscribe {f : Fabric} {c d : ChannelId} {h h' : HandlerId}
    (hmem : h' ∈ (f.subscribe c h).1.subscribers d) :
  h' ∈ f.subscribers d ∨ c = d ∧ h' = h
  := by
  rw [subscribers_subscribe] at hmem
  split at hmem
  · rename_i hcd
    rcases List.mem_append.mp hmem with hmem | hmem
    · apply Or.inl hmem
    · exact Or.inr ⟨hcd.1, List.mem_singleton.mp hmem⟩
  · apply Or.inl hmem

/-- Who is subscribed stays so when another subscribes. -/
theorem mem_subscribers_subscribe_of_mem {f : Fabric} {c d : ChannelId} {h h' : HandlerId}
    (hmem : h' ∈ f.subscribers d) :
  h' ∈ (f.subscribe c h).1.subscribers d
  := by
  rw [subscribers_subscribe]
  split
  · apply List.mem_append_left _ hmem
  · apply hmem

/-- A subscription does not repeat a subscriber. -/
theorem nodup_subscribers_subscribe {f : Fabric} (hf : ∀ c, (f.subscribers c).Nodup)
    (c d : ChannelId) (h : HandlerId) :
  ((f.subscribe c h).1.subscribers d).Nodup
  := by
  rw [subscribers_subscribe]
  split
  · rename_i hcd
    obtain ⟨rfl, hnew⟩ := hcd
    have hnot : h ∉ f.subscribers c := by
      unfold subscribe at hnew
      split at hnew
      · cases hnew
      · rename_i channel hchannel
        split at hnew
        · cases hnew
        · rename_i hmem
          simp only [subscribers, hchannel]
          apply hmem
    rw [List.nodup_append]
    refine ⟨hf c, List.pairwise_singleton _ h, ?_⟩
    rintro h' hold h'' hh'' rfl
    rw [List.mem_singleton.mp hh''] at hold
    apply hnot hold
  · apply hf d

/-- A handler that is new to a channel becomes its last subscriber. -/
theorem subscribers_subscribe_of_new {f : Fabric} {c : ChannelId} {h : HandlerId}
    (hc : c.index < f.channels.size) (hnew : h ∉ f.subscribers c) (d : ChannelId) :
  (f.subscribe c h).1.subscribers d = if c = d then f.subscribers d ++ [h] else f.subscribers d
  := by
  have hchannel : f.channel? c = some f.channels[c.index] := Array.getElem?_eq_getElem hc
  have hsubscribed : (f.subscribe c h).2 = true := by
    simp only [subscribers, hchannel, Option.map_some, Option.getD_some] at hnew
    simp only [subscribe, hchannel, if_neg hnew]
  simp only [subscribers_subscribe, hsubscribed, and_true]

/-- A subscription changes nothing of a channel but its subscribers. -/
theorem channel?_subscribe {f : Fabric} {c : ChannelId} {channel : Channel}
    (hc : f.channel? c = some channel) (d : ChannelId) (h : HandlerId) :
  ∃ subscribers, (f.subscribe d h).1.channel? c = some { channel with subscribers }
  := by
  have hsame : ∃ subscribers, f.channel? c = some { channel with subscribers } :=
    ⟨channel.subscribers, hc⟩
  unfold subscribe
  split
  · apply hsame
  · rename_i channel' hd
    split
    · apply hsame
    · dsimp only
      rw [channel?_emit, channel?_setChannel]
      split
      · rename_i heq
        rw [heq, hc] at hd
        cases hd
        rw [hc]
        exact ⟨_, rfl⟩
      · apply hsame

/-- The end of a subscription changes nothing of a channel but its subscribers. -/
theorem channel?_unsubscribe {f : Fabric} {c : ChannelId} {channel : Channel}
    (hc : f.channel? c = some channel) (d : ChannelId) (h : HandlerId) :
  ∃ subscribers, (f.unsubscribe d h).1.channel? c = some { channel with subscribers }
  := by
  have hsame : ∃ subscribers, f.channel? c = some { channel with subscribers } :=
    ⟨channel.subscribers, hc⟩
  unfold unsubscribe
  split
  · apply hsame
  · rename_i channel' hd
    split
    · dsimp only
      rw [channel?_emit, channel?_setChannel]
      split
      · rename_i heq
        rw [heq, hc] at hd
        cases hd
        rw [hc]
        exact ⟨_, rfl⟩
      · apply hsame
    · apply hsame

/-! ## The journal -/

/-- The journal as a list, in the order in which events were reported. -/
def told (f : Fabric) : List Event := f.journal.toList

theorem told_emit (f : Fabric) (e : Event) :
  (f.emit e).told = f.told ++ [e]
  := Array.toList_push

/-- A subscription changes nothing, or adds to the subscribers of a channel and is told of. -/
theorem subscribe_cases (f : Fabric) (c : ChannelId) (h : HandlerId) :
  f.subscribe c h = (f, false)
    ∨ ∃ channel, f.channel? c = some channel ∧ h ∉ channel.subscribers
      ∧ f.subscribe c h = ((f.setChannel c { channel with subscribers := channel.subscribers ++ [h] }).emit
        (.subscribed channel.name (channel.subscribers ++ [h]).length), true)
  := by
  unfold subscribe
  cases hc : f.channel? c with
  | none => exact Or.inl rfl
  | some channel =>
    dsimp only
    by_cases hmem : h ∈ channel.subscribers
    · exact Or.inl (if_pos hmem)
    · exact Or.inr ⟨channel, rfl, hmem, if_neg hmem⟩

/-- The end of a subscription changes nothing, or takes from the subscribers of a channel and is told of. -/
theorem unsubscribe_cases (f : Fabric) (c : ChannelId) (h : HandlerId) :
  f.unsubscribe c h = (f, false)
    ∨ ∃ channel, f.channel? c = some channel ∧ h ∈ channel.subscribers
      ∧ f.unsubscribe c h
        = ((f.setChannel c { channel with subscribers := channel.subscribers.erase h }).emit
          (.unsubscribed channel.name (channel.subscribers.erase h).length), true)
  := by
  unfold unsubscribe
  cases hc : f.channel? c with
  | none => exact Or.inl rfl
  | some channel =>
    dsimp only
    by_cases hmem : h ∈ channel.subscribers
    · exact Or.inr ⟨channel, rfl, hmem, if_pos hmem⟩
    · exact Or.inl (if_neg hmem)

end Fabric

end ChannelBinding
