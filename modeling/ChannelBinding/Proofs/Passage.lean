import ChannelBinding.Proofs.Dispatch
import ChannelBinding.Proofs.Sending

/-!
# Passage

What becomes of a message on its way through channels.  Every channel stamps the copy that it sends on,
and no handler changes what it is given; so whoever is called, however late and after however many
failures elsewhere, has the message as it was sent but for a content type: if it had none, it has that of
the first channel on the way to this call that has one.  Where channels are connected by forwarding
without a circle, every send ends, and every call is reached by forwarding.
-/

namespace ChannelBinding

namespace Fabric

variable {f f' : Fabric} {c d : ChannelId} {channel channel' : Channel} {m m' m'' : Message}
  {path path' : List ChannelId}

/-! ## Content types on the way -/

/-- The content type of a channel, if it has one. -/
def contentType? (f : Fabric) (c : ChannelId) : Option String := (f.channel? c).bind Channel.contentType

/-- A channel that is replaced by one of the same content type leaves all content types as they are. -/
theorem contentType?_setChannel (hd : f.channel? d = some channel)
    (hsame : channel'.contentType = channel.contentType) (c : ChannelId) :
  (f.setChannel d channel').contentType? c = f.contentType? c
  := by
  rw [contentType?, channel?_setChannel]
  split
  · rename_i heq
    subst heq
    rw [contentType?, hd]
    exact hsame
  · rfl

theorem contentType?_subscribe (f : Fabric) (c d : ChannelId) (h : HandlerId) :
  (f.subscribe d h).1.contentType? c = f.contentType? c
  := by
  unfold subscribe
  split
  · rfl
  · rename_i channel hd
    split
    · rfl
    · rw [← contentType?_setChannel hd _ c]
      · rfl
      · rfl

theorem contentType?_unsubscribe (f : Fabric) (c d : ChannelId) (h : HandlerId) :
  (f.unsubscribe d h).1.contentType? c = f.contentType? c
  := by
  unfold unsubscribe
  split
  · rfl
  · rename_i channel hd
    split
    · rw [← contentType?_setChannel hd _ c]
      · rfl
      · rfl
    · rfl

/-- Whether all channels have the content types that they had. -/
def KeepsContentTypes (f f' : Fabric) : Prop := ∀ c, f'.contentType? c = f.contentType? c

/-- No send changes the content type of a channel. -/
theorem sendsKeep_contentTypes (f : Fabric) :
  SendsKeep f.KeepsContentTypes
  := by
  constructor
  · intro f' e _ hf c
    apply hf c
  · intro f' d channel turn hd hf c
    rw [← hf c]
    apply contentType?_setChannel hd
    rfl
  · intro f' h handler handler' _ _ hf c
    apply hf c
  · intro f' d label h _ hf c
    rw [contentType?_subscribe]
    apply hf c
  · intro f' d label h _ hf c
    rw [contentType?_unsubscribe]
    apply hf c

/-- Whether a message that has come through some channels is as it was sent, but for a content type: if
it was sent without, it has that of the first of these channels that has one. -/
structure Carries (f : Fabric) (path : List ChannelId) (m received : Message) : Prop where
  id : received.id = m.id
  payload : received.payload = m.payload
  header : ∀ {key}, key ≠ contentTypeHeader → received.header? key = m.header? key
  contentType : received.contentType? = m.contentType?.or (path.findSome? f.contentType?)

/-- A channel sends a message on as it should. -/
theorem carries_stamped (f : Fabric) (c : ChannelId) (m : Message) :
  f.Carries [c] m (f.stamped c m)
  := by
  constructor
  · apply m.stamp_id
  · apply m.stamp_payload
  · intro key hne
    apply m.header?_stamp_of_ne _ hne
  · rw [stamped, m.contentType?_stamp, List.findSome?_singleton]
    rfl

/-- A message that has come through some channels and then through some more has come through all. -/
theorem Carries.trans (h : f.Carries path m m') (h' : f.Carries path' m' m'') :
  f.Carries (path ++ path') m m''
  := by
  constructor
  · rw [h'.id, h.id]
  · rw [h'.payload, h.payload]
  · intro key hne
    rw [h'.header hne, h.header hne]
  · rw [h'.contentType, h.contentType, List.findSome?_append, Option.or_assoc]

/-- Whether all that is called in the course of some work on a message has it as it should. -/
def CarriesCalls (f : Fabric) (m : Message) (o : Outcome) : Prop :=
  ∀ call ∈ o.calls, f.Carries call.path m call.message

end Fabric

/-! ## Work that tells -/

namespace Work

variable {I : Fabric → Prop} {f : Fabric} {α γ : Type} {Q : α → Prop} {R : γ → Prop}

/-- Whether a property holds after some work, and another of what the work returns, if it does. -/
def TellsFrom (I : Fabric → Prop) (Q : α → Prop) (f : Fabric) (work : Work α) : Prop :=
  ∀ a f', work f = some (a, f') → I f' ∧ Q a

/-- Whether some work keeps a property, and returns what has another. -/
def Tells (I : Fabric → Prop) (Q : α → Prop) (work : Work α) : Prop :=
  ∀ f, I f → work.TellsFrom I Q f

theorem tells_pure {a : α} (hf : I f) (ha : Q a) :
  TellsFrom I Q f (pure a)
  := by
  rintro a' f' ⟨⟩
  exact ⟨hf, ha⟩

theorem TellsFrom.bind {work : Work α} {next : α → Work γ} (h : work.TellsFrom I Q f)
    (hnext : ∀ a, Q a → (next a).Tells I R) :
  (work >>= next).TellsFrom I R f
  := by
  intro b f'' hb
  change (work f).bind (fun p => next p.1 p.2) = some (b, f'') at hb
  obtain ⟨⟨a, f'⟩, ha, hb⟩ := Option.bind_eq_some_iff.1 hb
  obtain ⟨hf', hQ⟩ := h a f' ha
  apply hnext a hQ f' hf' b f'' hb

theorem tells_get_bind {next : Fabric → Work γ} (h : (next f).TellsFrom I R f) :
  (get >>= next).TellsFrom I R f
  := h

theorem tells_set_bind {f' : Fabric} {next : PUnit → Work γ} (h : (next ⟨⟩).TellsFrom I R f') :
  (set f' >>= next).TellsFrom I R f
  := h

end Work

/-! ## Sends -/

namespace Fabric

variable {f : Fabric}

/-- What a script sends of a message is carried as it should be if sends carry what they are given. -/
theorem act_carries {send : ChannelId → Message → Work Outcome}
    (hsend : ∀ c m, (send c m).Tells f.KeepsContentTypes (f.CarriesCalls m))
    (m : Message) (actions : List Action) :
  (Handler.act send m actions).Tells f.KeepsContentTypes (f.CarriesCalls m)
  := by
  have hkeep := sendsKeep_contentTypes f
  induction actions with
  | nil =>
    intro f' hf
    apply Work.tells_pure hf
    rintro call ⟨⟩
  | cons action rest ih =>
    intro f' hf
    cases action with
    | subscribe channel handler =>
      apply Work.tells_get_bind
      split
      · rename_i c h _ hh
        apply Work.tells_set_bind
        apply ih _ (hkeep.subscribe c hh hf)
      · apply ih f' hf
    | unsubscribe channel handler =>
      apply Work.tells_get_bind
      split
      · rename_i c h _ hh
        apply Work.tells_set_bind
        apply ih _ (hkeep.unsubscribe c hh hf)
      · apply ih f' hf
    | send channel =>
      apply Work.tells_get_bind
      split
      · apply ih f' hf
      · rename_i c _
        apply (hsend c m f' hf).bind
        intro sent hsent f₁ hf₁
        split
        · apply Work.tells_pure hf₁ hsent
        · apply (ih f₁ hf₁).bind
          intro later hlater f₂ hf₂
          apply Work.tells_pure hf₂
          intro call hcall
          rcases List.mem_append.mp hcall with hcall | hcall
          · apply hsent call hcall
          · apply hlater call hcall

/-- What a handler makes of a message is carried as it should be if sends carry what they are given. -/
theorem take_carries {send : ChannelId → Message → Work Outcome}
    (hsend : ∀ c m, (send c m).Tells f.KeepsContentTypes (f.CarriesCalls m)) (h : HandlerId)
    (m : Message) :
  (Handler.take send h m).Tells f.KeepsContentTypes (f.CarriesCalls m)
  := by
  intro f' hf
  apply Work.tells_get_bind
  split
  · rintro o f'' ⟨⟩
  · apply Work.tells_set_bind
    apply Work.tells_pure
    · exact hf
    · rintro call ⟨⟩
  · apply Work.tells_pure hf
    rintro call ⟨⟩
  · apply hsend _ m f' hf
  · rename_i outcomes actions received hh
    apply Work.tells_set_bind
    have hf' : f.KeepsContentTypes (f'.setHandler h (.scripted outcomes actions (received ++ [m]))) :=
      hf
    apply (act_carries hsend m actions _ hf').bind
    intro acted hacted f₁ hf₁
    split
    · apply Work.tells_pure hf₁
      exact hacted
    · apply Work.tells_pure hf₁ hacted
  · apply Work.tells_set_bind
    apply Work.tells_pure
    · exact hf
    · rintro call ⟨⟩

/-- Dispatches carry what they are given if handlers do. -/
theorem dispatch_carries {take : Taking}
    (htake : ∀ h m, (take h m).Tells f.KeepsContentTypes (f.CarriesCalls m)) (c : ChannelId)
    (m : Message) :
  (dispatch take c m).Tells f.KeepsContentTypes (f.CarriesCalls m)
  := by
  have hkeep := sendsKeep_contentTypes f
  intro f' hf o f'' hdispatch
  cases hc : f'.channel? c with
  | none =>
    rw [dispatch, Work.get_bind, hc] at hdispatch
    cases hdispatch
  | some channel =>
    by_cases hne : channel.subscribers = []
    · rw [dispatch_of_nobody hc hne] at hdispatch
      cases hdispatch
      refine ⟨hkeep.emit rfl hf, ?_⟩
      rintro call ⟨⟩
    · obtain ⟨tries, htries⟩ := dispatch_ends hc hne hdispatch
      have hstamped : f.stamped c m = m.stamp channel.contentType := by
        change m.stamp (f.contentType? c) = _
        rw [← hf c, contentType?, hc]
        rfl
      obtain ⟨hf'', hcalls⟩ : f.KeepsContentTypes f''
          ∧ ∀ t ∈ tries, f.CarriesCalls (f.stamped c m) t.taken := by
        have hturn : f.KeepsContentTypes (f'.countTurn c channel) := hkeep.turn _ hc hf
        rw [hstamped]
        apply htries.tried.keeps (I := f.KeepsContentTypes)
          (Q := fun _ o => f.CarriesCalls (m.stamp channel.contentType) o) (fun _ hf => hf) _ hturn
        intro t _ f₁ o f₂ hf₁ ht
        apply htake _ _ f₁ hf₁ o f₂ ht
      refine ⟨hf'', ?_⟩
      intro call hcall
      rw [htries.calls_eq] at hcall
      obtain ⟨t, ht, hcall⟩ := List.mem_flatMap.mp hcall
      rw [← hstamped] at hcall
      rcases Outcome.mem_callsOf.mp hcall with rfl | ⟨inner, hinner, rfl⟩
      · apply f.carries_stamped
      · apply (f.carries_stamped c m).trans (hcalls t ht inner hinner)

/-- Every send carries what it is given. -/
theorem send_carries (f : Fabric) (depth : Nat) (c : ChannelId) (m : Message) :
  (send depth c m).Tells f.KeepsContentTypes (f.CarriesCalls m)
  := by
  induction depth generalizing c m with
  | zero => rintro f' hf o f'' ⟨⟩
  | succ depth ih => apply dispatch_carries (take_carries ih)

/-! ## Acyclic relays -/

section Relays

variable {f f' f'' : Fabric} {network : ChannelId → Prop} {c t : ChannelId} {h : HandlerId}

/-- Whether some channels are connected by forwarding, without a circle: whoever subscribes to one of
them forwards to one of them or keeps to itself. -/
structure IsRelay (f : Fabric) (network : ChannelId → Prop) : Prop extends f.IsAcyclic network where
  subscriber : ∀ {c h}, network c → h ∈ f.subscribers c →
    f.IsPassive h ∨ ∃ t, network t ∧ f.handler? h = some (.forwarding t)

/-- The ways along channels on which a handler is reached by forwarding. -/
inductive Route (f : Fabric) : ChannelId → List ChannelId → HandlerId → Prop where
  | own {c : ChannelId} {h : HandlerId} (hh : h ∈ f.subscribers c) :
    Route f c [c] h
  | onward {c t : ChannelId} {path : List ChannelId} {h : HandlerId} (ht : f.Forwards c t)
      (hroute : Route f t path h) :
    Route f c (c :: path) h

theorem forwards_of_mem (hmem : h ∈ f.subscribers c) (hh : f.handler? h = some (.forwarding t)) :
  f.Forwards c t
  := by
  use h, hmem
  rw [manner, hh]
  rfl

/-- Who keeps to itself does not forward. -/
theorem manner_ne_of_passive (hpassive : f.IsPassive h) (t : ChannelId) :
  f.manner h ≠ some (.forwarding t)
  := by
  obtain ⟨handler, hh, hpassive⟩ := hpassive
  rw [manner, hh, Option.bind_some]
  cases handler with
  | collecting received => rintro ⟨⟩
  | failing error => rintro ⟨⟩
  | forwarding target => cases hpassive
  | scripted outcomes actions received =>
    cases actions with
    | cons action rest => cases hpassive
    | nil =>
      rw [Handler.manner]
      split
      · rintro ⟨⟩
      · rintro ⟨⟩
  | reporting name received => rintro ⟨⟩

/-- Whether a fabric still has the subscriptions of another and handlers of the same kinds. -/
structure Upholds (f f' : Fabric) : Prop where
  size : f'.channels.size = f.channels.size
  subscribers : f'.subscribers = f.subscribers
  passive : ∀ {h}, f.IsPassive h → f'.IsPassive h
  forwarding : ∀ {h t}, f.handler? h = some (.forwarding t) → f'.handler? h = some (.forwarding t)

theorem Upholds.refl (f : Fabric) :
  f.Upholds f
  := ⟨rfl, rfl, id, id⟩

theorem Upholds.emit (hf : f.Upholds f') (e : Event) :
  f.Upholds (f'.emit e)
  := ⟨hf.size, hf.subscribers, hf.passive, hf.forwarding⟩

theorem Upholds.countTurn (hf : f.Upholds f') {channel : Channel}
    (hc : f'.channel? c = some channel) :
  f.Upholds (f'.countTurn c channel)
  := by
  constructor
  · rw [Fabric.countTurn, size_setChannel, hf.size]
  · rw [Fabric.countTurn, subscribers_setTurn _ hc, hf.subscribers]
  · exact hf.passive
  · exact hf.forwarding

/-- What is taken by a handler that keeps to itself changes nothing of note. -/
theorem Upholds.afterPassive (hf : f.Upholds f') (hpassive : f'.IsPassive h)
    (hafter : f'.IsAfterPassive f'' h) :
  f.Upholds f''
  := by
  constructor
  · rw [hafter.channels, hf.size]
  · rw [← hf.subscribers]
    funext c
    rw [Fabric.subscribers, Fabric.subscribers, channel?, channel?, hafter.channels]
  · intro h' hh'
    by_cases heq : h' = h
    · subst heq
      exact hafter.taker
    · rw [IsPassive, hafter.others heq]
      exact hf.passive hh'
  · intro h' t hh'
    have hne : h' ≠ h := by
      rintro rfl
      obtain ⟨handler, hh, hkind⟩ := hpassive
      rw [hf.forwarding hh'] at hh
      cases hh
      cases hkind
    rw [hafter.others hne]
    exact hf.forwarding hh'

/-- A handler that forwards makes of a message what a send on its target does. -/
theorem take_eq_send {send : ChannelId → Message → Work Outcome}
    (hh : f.handler? h = some (.forwarding t)) (m : Message) :
  Handler.take send h m f = send t m f
  := by
  rw [Handler.take, Work.get_bind, hh]

/-- A send in an acyclic relay returns, and whoever is called is reached by forwarding. -/
theorem send_of_trail (hf : f.IsRelay network) {n : Nat} {trail : List ChannelId}
    (htrail : f.IsTrail network c trail) (hc : network c) (hsize : f.channels.size ≤ n + trail.length)
    (m : Message) (hf' : f.Upholds f') :
  ∃ o f'', send n c m f' = some (o, f'') ∧ f.Upholds f''
    ∧ ∀ call ∈ o.calls, f.Route c call.path call.handler
  := by
  induction n generalizing c trail m f' with
  | zero =>
    have hlength := htrail.length_lt hf.toIsAcyclic hc
    omega
  | succ n ih =>
    have hlt : c.index < f'.channels.size := by
      rw [hf'.size]
      exact hf.lt_size hc
    obtain ⟨channel, hchannel⟩ : ∃ channel, f'.channel? c = some channel :=
      ⟨_, Array.getElem?_eq_getElem hlt⟩
    have hsubscribers : channel.subscribers = f.subscribers c := by
      rw [← hf'.subscribers, Fabric.subscribers, hchannel]
      rfl
    by_cases hne : channel.subscribers = []
    · refine ⟨_, _, dispatch_of_nobody hchannel hne m, hf'.emit _, ?_⟩
      rintro call ⟨⟩
    · have htake : ∀ h ∈ channel.subscribers, ∀ {f₁}, f.Upholds f₁ →
          ∃ o f₂, Handler.take (send n) h (m.stamp channel.contentType) f₁ = some (o, f₂)
            ∧ f.Upholds f₂ ∧ ∀ call ∈ o.calls, ∃ t, f.handler? h = some (.forwarding t)
              ∧ f.Route t call.path call.handler := by
        intro h hmem f₁ hf₁
        rw [hsubscribers] at hmem
        rcases hf.subscriber hc hmem with hpassive | ⟨t, ht, hforward⟩
        · obtain ⟨verdict, f₂, hrun, hafter⟩ := take_passive (hf₁.passive hpassive) _
          refine ⟨⟨[], verdict⟩, f₂, hrun, hf₁.afterPassive (hf₁.passive hpassive) hafter, ?_⟩
          rintro call ⟨⟩
        · have htrail' : f.IsTrail network t (c :: trail) := by
            apply htrail.cons hf.toIsAcyclic hc (forwards_of_mem hmem hforward)
          obtain ⟨o, f₂, hrun, hf₂, hroutes⟩ :=
            ih htrail' ht (by rw [List.length_cons]; omega) (m.stamp channel.contentType) hf₁
          refine ⟨o, f₂, ?_, hf₂, fun call hcall => ⟨t, hforward, hroutes call hcall⟩⟩
          rw [take_eq_send (hf₁.forwarding hforward), hrun]
      obtain ⟨o, f'', tries, hdispatch, htries, hf'', hroutes⟩ :=
        dispatch_keeps hchannel hne (fun e hf => hf.emit e) (hf'.countTurn hchannel) htake
      refine ⟨o, f'', hdispatch, hf'', ?_⟩
      intro call hcall
      rw [htries.calls_eq] at hcall
      obtain ⟨t, ht, hcall⟩ := List.mem_flatMap.mp hcall
      obtain ⟨j, hj⟩ := List.getElem?_of_mem ht
      have hmem := List.mem_of_getElem? (htries.handler hj)
      rw [hsubscribers] at hmem
      rcases Outcome.mem_callsOf.mp hcall with rfl | ⟨inner, hinner, rfl⟩
      · apply Route.own hmem
      · obtain ⟨d, hforward, hroute⟩ := hroutes t ht inner hinner
        apply Route.onward (forwards_of_mem hmem hforward) hroute

/-- Messages travel unaltered but for one content type: whatever the handlers and however the channels
are connected, whoever is called in the course of a send has the message as it was sent, with the content
type of the first channel on the way that has one if it had none.  Where channels are connected by
forwarding without a circle, the send returns, and whoever is called is reached by forwarding. -/
theorem deliver_carries (f : Fabric) (c : ChannelId) (m : Message) :
  (∀ f' o, f.deliver c m = some (f', o) → ∀ call ∈ o.calls, f.Carries call.path m call.message)
    ∧ ∀ network, f.IsRelay network → network c →
        ∃ f' o, f.deliver c m = some (f', o) ∧ ∀ call ∈ o.calls, f.Route c call.path call.handler
  := by
  constructor
  · intro f' o hdeliver
    rw [deliver, Option.map_eq_some_iff] at hdeliver
    obtain ⟨⟨o, f'⟩, hsend, heq⟩ := hdeliver
    cases heq
    apply (send_carries f f.nestingBound c m f (fun c => rfl) o f' hsend).2
  · intro network hf hc
    have hsize : f.channels.size ≤ f.nestingBound + ([] : List ChannelId).length := by
      rw [nestingBound]
      omega
    obtain ⟨o, f', hsend, -, hroutes⟩ :=
      send_of_trail hf (isTrail_nil f network c) hc hsize m (Upholds.refl f)
    refine ⟨f', o, ?_, hroutes⟩
    rw [deliver, hsend]
    rfl

/-- A channel that forwards first to one that has a content type and where everybody fails, and then to
one that has none and forwards to a channel of another content type. -/
def mixed : Fabric where
  channels := #[⟨"in", none, [⟨0⟩, ⟨1⟩], 0⟩, ⟨"faulty", some "text/plain", [⟨2⟩], 3⟩,
    ⟨"bare", none, [⟨3⟩], 5⟩, ⟨"out", some "application/json", [⟨4⟩], 0⟩]
  handlers := #[.forwarding ⟨1⟩, .forwarding ⟨2⟩, .failing (.handlerFailed "down"), .forwarding ⟨3⟩,
    .scripted [none] [] []]

/-- Whoever subscribes to one of the mixed channels keeps to itself or forwards further down. -/
theorem subscriber_mixed (hh : h ∈ mixed.subscribers c) :
  mixed.IsPassive h ∨ ∃ t, c.index < t.index ∧ t.index < 4 ∧ mixed.handler? h = some (.forwarding t)
  := by
  have hcases : c = ⟨0⟩ ∧ (h = ⟨0⟩ ∨ h = ⟨1⟩) ∨ c = ⟨2⟩ ∧ h = ⟨3⟩ ∨ h = ⟨2⟩ ∨ h = ⟨4⟩ := by
    rcases c with ⟨_ | _ | _ | _ | n⟩
    all_goals simp_all [subscribers, channel?, mixed]
  rcases hcases with ⟨rfl, rfl | rfl⟩ | ⟨rfl, rfl⟩ | rfl | rfl
  · exact Or.inr ⟨⟨1⟩, by decide, by decide, rfl⟩
  · exact Or.inr ⟨⟨2⟩, by decide, by decide, rfl⟩
  · exact Or.inr ⟨⟨3⟩, by decide, by decide, rfl⟩
  · exact Or.inl ⟨_, rfl, rfl⟩
  · exact Or.inl ⟨_, rfl, rfl⟩

/-- The stamp of the channel where everybody fails does not show on the other way. -/
theorem deliver_carries_mixed :
  ∃ f' o, mixed.deliver ⟨0⟩ ⟨⟨0⟩, ∅, []⟩ = some (f', o)
    ∧ o.calls.map (fun call => (call.path.map ChannelId.index, call.message.contentType?))
      = [([0], none), ([0, 1], some "text/plain"), ([0], none), ([0, 2], none),
        ([0, 2, 3], some "application/json")]
    ∧ ∀ call ∈ o.calls, mixed.Route ⟨0⟩ call.path call.handler
      ∧ mixed.Carries call.path ⟨⟨0⟩, ∅, []⟩ call.message
  := by
  have hdown : ∀ {c t}, mixed.Forwards c t → c.index < t.index := by
    rintro c t ⟨h, hh, ht⟩
    rcases subscriber_mixed hh with hpassive | ⟨t', hlt, -, hforward⟩
    · exact absurd ht (manner_ne_of_passive hpassive t)
    · rw [manner, hforward] at ht
      cases ht
      exact hlt
  have hrelay : mixed.IsRelay fun c => c.index < 4 := by
    constructor
    · constructor
      · intro c hc
        exact hc
      · intro c hc hcycle
        apply Nat.lt_irrefl _ (lt_of_leads hdown hcycle)
    · intro c h hc hh
      rcases subscriber_mixed hh with hpassive | ⟨t, -, ht, hforward⟩
      · exact Or.inl hpassive
      · exact Or.inr ⟨t, ht, hforward⟩
  obtain ⟨f', o, hdeliver, hroutes⟩ :=
    (deliver_carries mixed ⟨0⟩ ⟨⟨0⟩, ∅, []⟩).2 (fun c => c.index < 4) hrelay (by decide)
  have hcarries := (deliver_carries mixed ⟨0⟩ ⟨⟨0⟩, ∅, []⟩).1 f' o hdeliver
  have hshape : (mixed.deliver ⟨0⟩ ⟨⟨0⟩, ∅, []⟩).map (fun r => r.2.calls.map fun call =>
      (call.path.map ChannelId.index, call.message.contentType?))
        = some [([0], none), ([0, 1], some "text/plain"), ([0], none), ([0, 2], none),
          ([0, 2, 3], some "application/json")] := by
    decide +kernel
  rw [hdeliver] at hshape
  refine ⟨f', o, hdeliver, Option.some_inj.mp hshape, ?_⟩
  intro call hcall
  exact ⟨hroutes call hcall, hcarries call hcall⟩

end Relays

end Fabric

end ChannelBinding
