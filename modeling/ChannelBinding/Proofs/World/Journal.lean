import ChannelBinding.Proofs.Unbinding
import ChannelBinding.Proofs.World.Transaction

/-!
# The journal

Whoever reads the journal of a world of the in-memory binder knows how many subscribers the channels of a
name have, which transport channels there are, and how many producers are tracked under a name.  The
journal tells of every change of the subscribers of a channel, with their number right after it, and of
nothing else that would look like one.  A producer is told of when it is tracked and when its release has
ended; in between it is tracked, or a call that has taken it answers for it.
-/

namespace ChannelBinding

namespace Event

/-- Whether an event tells of the subscribers of a channel. -/
def isOfSubscribers : Event → Bool
  | subscribed .. | unsubscribed .. => true
  | _ => false

/-- Whether an event tells that a channel of a name has one subscriber more. -/
def isSubscription (name : String) : Event → Bool
  | subscribed channel _ => channel = name
  | _ => false

/-- Whether an event tells that a channel of a name has one subscriber less. -/
def isUnsubscription (name : String) : Event → Bool
  | unsubscribed channel _ => channel = name
  | _ => false

/-- Whether an event tells of a transport channel that is made, or of a binding that is tracked or released. -/
def isOfHoldings : Event → Bool
  | transportCreated .. | producerTracked .. | released .. | releaseFailed .. => true
  | _ => false

/-- Whether an event tells that a producer is tracked under a name. -/
def isTracking (name : String) : Event → Bool
  | producerTracked name' .. => name' = name
  | _ => false

/-- Whether an event tells that the release of a producer that was tracked under a name has ended, well or
not. -/
def isReleasing (name : String) : Event → Bool
  | released name' _ role | releaseFailed name' _ role _ => role = .producer ∧ name' = name
  | _ => false

variable {e : Event}

theorem isOfSubscribers_of_not_isCounted (h : e.isCounted = false) :
  e.isOfSubscribers = false
  := by
  cases e <;> first | rfl | cases h

theorem isOfHoldings_of_not_isCounted (h : e.isCounted = false) :
  e.isOfHoldings = false
  := by
  cases e <;> first | rfl | cases h

theorem isSubscription_of_not_isOfSubscribers (h : e.isOfSubscribers = false) (name : String) :
  e.isSubscription name = false ∧ e.isUnsubscription name = false
  := by
  cases e <;> first | exact ⟨rfl, rfl⟩ | cases h

/-- What does not tell of holdings is none of the events that are counted for them. -/
theorem isTracking_of_not_isOfHoldings (h : e.isOfHoldings = false) (name : String) :
  e ≠ .transportCreated name ∧ e.isTracking name = false ∧ e.isReleasing name = false
  := by
  refine ⟨?_, ?_⟩
  · rintro rfl
    cases h
  · cases e <;> first | exact ⟨rfl, rfl⟩ | cases h

end Event

namespace Fabric

theorem roll_emit (f : Fabric) (e : Event) :
  (f.emit e).roll = f.roll
  := rfl

theorem roll_addChannel (f : Fabric) (channel : Channel) :
  (f.addChannel channel).1.roll = f.roll ++ [(channel.name, channel.subscribers)]
  := by
  rw [roll, addChannel, Array.toList_push, List.map_append]
  rfl

theorem roll_setChannel (f : Fabric) (c : ChannelId) (channel : Channel) :
  (f.setChannel c channel).roll = f.roll.set c.index (channel.name, channel.subscribers)
  := by
  rw [roll, setChannel, Array.toList_setIfInBounds, List.map_set]
  rfl

theorem getElem?_roll {f : Fabric} {c : ChannelId} {channel : Channel} (h : f.channel? c = some channel) :
  f.roll[c.index]? = some (channel.name, channel.subscribers)
  := by
  rw [roll, List.getElem?_map, Array.getElem?_toList, ← channel?, h]
  rfl

end Fabric

/-! ## Subscribers -/

/-- A journal tells of some channels with their subscribers: channels are made one after the other, without
subscribers, and each time a channel gets or loses a subscriber it is told how many it has then. -/
inductive Chronicle : List Event → List (String × List HandlerId) → Prop where
  | nothing : Chronicle [] []
  | made {events roll} (h : Chronicle events roll) (name : String) :
    Chronicle events (roll ++ [(name, [])])
  | aside {events roll} (h : Chronicle events roll) {e : Event} (he : e.isOfSubscribers = false) :
    Chronicle (events ++ [e]) roll
  | subscribed {events roll} (h : Chronicle events roll) {i name handlers handler}
      (hi : roll[i]? = some (name, handlers)) (hnew : handler ∉ handlers) :
    Chronicle (events ++ [.subscribed name (handlers ++ [handler]).length])
      (roll.set i (name, handlers ++ [handler]))
  | unsubscribed {events roll} (h : Chronicle events roll) {i name handlers handler}
      (hi : roll[i]? = some (name, handlers)) (hmem : handler ∈ handlers) :
    Chronicle (events ++ [.unsubscribed name (handlers.erase handler).length])
      (roll.set i (name, handlers.erase handler))

/-- The number of subscribers that the channels of a name have together. -/
def audience (name : String) : List (String × List HandlerId) → Nat
  | [] => 0
  | (name', handlers) :: roll => (if name' = name then handlers.length else 0) + audience name roll

/-- A channel without subscribers adds nothing. -/
theorem audience_concat_nil (name name' : String) (roll : List (String × List HandlerId)) :
  audience name (roll ++ [(name', [])]) = audience name roll
  := by
  induction roll with
  | nil => simp [audience]
  | cons channel roll ih => rw [List.cons_append, audience, audience, ih]

theorem audience_set (name : String) {roll : List (String × List HandlerId)} {i : Nat} {name' : String}
    {handlers : List HandlerId} (h : roll[i]? = some (name', handlers)) (handlers' : List HandlerId) :
  audience name (roll.set i (name', handlers')) + (if name' = name then handlers.length else 0)
    = audience name roll + if name' = name then handlers'.length else 0
  := by
  induction roll generalizing i with
  | nil => cases h
  | cons channel roll ih =>
    cases i with
    | zero =>
      cases h
      rw [List.set_cons_zero, audience, audience]
      omega
    | succ i =>
      have hset := ih h
      rw [List.set_cons_succ, audience, audience]
      omega

/-- A journal that tells of some channels has told of one subscription for each of their subscribers, those
aside that it has told the end of. -/
theorem Chronicle.balance {events : List Event} {roll : List (String × List HandlerId)}
    (h : Chronicle events roll) (name : String) :
  events.countP (Event.isSubscription name)
    = events.countP (Event.isUnsubscription name) + audience name roll
  := by
  induction h with
  | nothing => rfl
  | made h name' ih =>
    rw [ih, audience_concat_nil]
  | aside h he ih =>
    obtain ⟨hsubscription, hunsubscription⟩ := Event.isSubscription_of_not_isOfSubscribers he name
    rw [List.countP_append, List.countP_append, List.countP_singleton, List.countP_singleton,
      hsubscription, hunsubscription, ih]
    rfl
  | @subscribed events roll h i name' handlers handler hi hnew ih =>
    have hset := audience_set name hi (handlers ++ [handler])
    rw [List.length_append, List.length_singleton] at hset
    rw [List.countP_append, List.countP_append, List.countP_singleton, List.countP_singleton, ih]
    by_cases hname : name' = name
    · simp only [Event.isSubscription, Event.isUnsubscription, hname, decide_true, if_true] at hset ⊢
      simp only [Bool.false_eq_true, if_false]
      omega
    · simp only [Event.isSubscription, Event.isUnsubscription, hname, decide_false, if_false] at hset ⊢
      simp only [Bool.false_eq_true, if_false]
      omega
  | @unsubscribed events roll h i name' handlers handler hi hmem ih =>
    have hset := audience_set name hi (handlers.erase handler)
    have hlength := List.length_erase_add_one hmem
    rw [List.countP_append, List.countP_append, List.countP_singleton, List.countP_singleton, ih]
    by_cases hname : name' = name
    · simp only [Event.isSubscription, Event.isUnsubscription, hname, decide_true, if_true] at hset ⊢
      simp only [Bool.false_eq_true, if_false]
      omega
    · simp only [Event.isSubscription, Event.isUnsubscription, hname, decide_false, if_false] at hset ⊢
      simp only [Bool.false_eq_true, if_false]
      omega

namespace Fabric

variable {f : Fabric}

/-- A subscription that changes nothing is not told of; one that does is told of with the number of
subscribers right after it. -/
theorem subscribe_isTold (f : Fabric) (c : ChannelId) (h : HandlerId) :
  let f' := (f.subscribe c h).1
  f.subscribe c h = (f, false) ∨ (f.subscribe c h).2 = true
    ∧ f'.told = f.told ++ [.subscribed (f.channelName c) (f'.subscribers c).length]
  := by
  have hsubscribers := f.subscribers_subscribe c c h
  rcases f.subscribe_cases c h with heq | ⟨channel, hc, hnew, heq⟩
  · exact Or.inl heq
  · right
    rw [heq, if_pos ⟨rfl, rfl⟩] at hsubscribers
    rw [heq]
    refine ⟨rfl, ?_⟩
    dsimp only at hsubscribers ⊢
    rw [told_emit, hsubscribers, channelName, subscribers, hc]
    rfl

/-- The end of a subscription is told of in the same way. -/
theorem unsubscribe_isTold (f : Fabric) (c : ChannelId) (h : HandlerId) :
  let f' := (f.unsubscribe c h).1
  f.unsubscribe c h = (f, false) ∨ (f.unsubscribe c h).2 = true
    ∧ f'.told = f.told ++ [.unsubscribed (f.channelName c) (f'.subscribers c).length]
  := by
  have hsubscribers := f.subscribers_unsubscribe c c h
  rcases f.unsubscribe_cases c h with heq | ⟨channel, hc, hmem, heq⟩
  · exact Or.inl heq
  · right
    rw [heq, if_pos rfl] at hsubscribers
    rw [heq]
    refine ⟨rfl, ?_⟩
    dsimp only at hsubscribers ⊢
    rw [told_emit, hsubscribers, channelName, subscribers, hc]
    rfl

/-- A change of the subscribers of a channel, told of as it is. -/
theorem chronicle_subscribe (hf : Chronicle f.told f.roll) (c : ChannelId) (h : HandlerId) :
  Chronicle (f.subscribe c h).1.told (f.subscribe c h).1.roll
  := by
  rcases f.subscribe_cases c h with heq | ⟨channel, hc, hnew, heq⟩
  · rw [heq]
    exact hf
  · rw [heq, told_emit, roll_emit, roll_setChannel]
    exact hf.subscribed (getElem?_roll hc) hnew

theorem chronicle_unsubscribe (hf : Chronicle f.told f.roll) (c : ChannelId) (h : HandlerId) :
  Chronicle (f.unsubscribe c h).1.told (f.unsubscribe c h).1.roll
  := by
  rcases f.unsubscribe_cases c h with heq | ⟨channel, hc, hmem, heq⟩
  · rw [heq]
    exact hf
  · rw [heq, told_emit, roll_emit, roll_setChannel]
    exact hf.unsubscribed (getElem?_roll hc) hmem

end Fabric

/-! ## What the journal accounts for -/

/-- Whether a call answers for a producer under a name. -/
def Charge.isOfProducer (name : String) (charge : Charge) : Bool :=
  charge.role = .producer ∧ charge.name = name

/-- What is reported of a release tells that a binding of a role is released under a name. -/
theorem Release.report_emits {f : Fabric} {b : BindingId} {role : Role} (h : f.roleOf? b = some role)
    (name : String) (failure : Option BinderError) :
  ∃ e : Event, report f name b failure = f.emit e ∧ e.isOfSubscribers = false
    ∧ (∀ d, e ≠ .transportCreated d) ∧ ∀ name', e.isTracking name' = false
      ∧ e.isReleasing name' = decide (role = .producer ∧ name = name')
  := by
  obtain ⟨binding, hb, rfl⟩ := Option.map_eq_some_iff.mp h
  cases failure with
  | none =>
    refine ⟨.released name binding.name binding.role, ?_, rfl, by rintro d ⟨⟩, fun _ => ⟨rfl, rfl⟩⟩
    simp only [report, hb]
  | some error =>
    refine ⟨.releaseFailed name binding.name binding.role error, ?_, rfl, by rintro d ⟨⟩,
      fun _ => ⟨rfl, rfl⟩⟩
    simp only [report, hb]

namespace Standing

/-- The journal accounts for how matters stand, where other calls answer for some more bindings. -/
structure Accounts (others : List Charge) (x : Standing) : Prop where
  chronicle : Chronicle x.fabric.told x.fabric.roll
  transports : ∀ d, x.fabric.told.count (.transportCreated d)
    = if x.binder.transports.contains d then 1 else 0
  tracked : ∀ role name, ∀ b ∈ x.ledger.tracked role name, x.fabric.roleOf? b = some role
  charged : ∀ charge ∈ x.charges ++ others, x.fabric.roleOf? charge.binding = some charge.role
  producers : ∀ name, x.fabric.told.countP (Event.isTracking name)
    = x.fabric.told.countP (Event.isReleasing name) + (x.ledger.tracked .producer name).length
      + (x.charges ++ others).countP (Charge.isOfProducer name)

variable {others : List Charge} {x y : Standing}

/-- Events that do not tell of holdings leave the accounts of them as they are. -/
theorem Accounts.withFabric (hx : x.Accounts others) {f : Fabric} {news : List Event}
    (htold : f.told = x.fabric.told ++ news) (hnews : ∀ e ∈ news, e.isOfHoldings = false)
    (hrole : ∀ {b role}, x.fabric.roleOf? b = some role → f.roleOf? b = some role)
    (hchronicle : Chronicle f.told f.roll) :
  Accounts others { x with fabric := f }
  := by
  have hcount : ∀ p : Event → Bool, (∀ e, e.isOfHoldings = false → p e = false) →
      f.told.countP p = x.fabric.told.countP p := by
    intro p hp
    have hnone : news.countP p = 0 := by
      rw [List.countP_eq_zero]
      intro e he
      rw [hp e (hnews e he)]
      exact Bool.false_ne_true
    rw [htold, List.countP_append, hnone, Nat.add_zero]
  refine ⟨hchronicle, ?_, ?_, ?_, ?_⟩
  · intro d
    rw [← hx.transports d]
    apply hcount
    intro e he
    exact beq_eq_false_iff_ne.mpr (Event.isTracking_of_not_isOfHoldings he d).1
  · intro role name b hb
    exact hrole (hx.tracked role name b hb)
  · intro charge hcharge
    exact hrole (hx.charged charge hcharge)
  · intro name
    have htracking := hcount (Event.isTracking name) fun e he =>
      (Event.isTracking_of_not_isOfHoldings he name).2.1
    have hreleasing := hcount (Event.isReleasing name) fun e he =>
      (Event.isTracking_of_not_isOfHoldings he name).2.2
    rw [htracking, hreleasing]
    exact hx.producers name

/-- A transport channel that is made is told of. -/
theorem Accounts.openTransport (hx : x.Accounts others) {d : String}
    (hd : x.binder.transports.get? d = none) :
  Accounts others { x with
    fabric := (x.fabric.addChannel { name := d }).1.emit (.transportCreated d)
    binder := ⟨x.binder.transports.insert d ⟨x.fabric.channels.size⟩⟩ }
  := by
  have hkept : ∀ {p : Event → Bool}, p (.transportCreated d) = false →
      ((x.fabric.addChannel { name := d }).1.emit (.transportCreated d)).told.countP p
        = x.fabric.told.countP p := by
    intro p hp
    rw [Fabric.told_emit, List.countP_append, List.countP_singleton, hp]
    rfl
  refine ⟨?_, ?_, hx.tracked, hx.charged, ?_⟩
  · rw [Fabric.told_emit, Fabric.roll_emit, Fabric.roll_addChannel]
    exact (hx.chronicle.made d).aside rfl
  · intro d'
    have htransports := hx.transports d'
    rw [Table.contains] at htransports ⊢
    dsimp only
    rw [Table.get?_insert]
    by_cases hd' : d = d'
    · subst hd'
      rw [hd] at htransports
      rw [if_pos rfl, Fabric.told_emit, List.count_append, List.count_singleton_self]
      exact congrArg (· + 1) htransports
    · rw [if_neg hd', ← htransports]
      apply hkept
      exact beq_eq_false_iff_ne.mpr fun heq => hd' (Event.transportCreated.inj heq)
  · intro name
    rw [hkept rfl, hkept rfl]
    exact hx.producers name

/-- A release that is reported is not answered for any more. -/
theorem Accounts.report (hx : x.Accounts others) {charge : Charge} {rest : List Charge}
    (hcharges : x.charges = charge :: rest) (failure : Option BinderError) :
  Accounts others { x with
    fabric := Release.report x.fabric charge.name charge.binding failure
    charges := rest }
  := by
  have hcharged : x.fabric.roleOf? charge.binding = some charge.role := by
    apply hx.charged
    rw [hcharges]
    exact List.mem_cons_self
  obtain ⟨e, hreport, hsubscribers, htransport, hcounts⟩ :=
    Release.report_emits hcharged charge.name failure
  rw [hreport]
  refine ⟨?_, ?_, hx.tracked, ?_, ?_⟩
  · rw [Fabric.told_emit]
    exact hx.chronicle.aside hsubscribers
  · intro d
    rw [Fabric.told_emit, List.count_append, List.count_singleton, hx.transports d,
      beq_eq_false_iff_ne.mpr (htransport d)]
    rfl
  · intro other hother
    apply hx.charged
    rw [hcharges]
    exact List.mem_cons_of_mem _ hother
  · intro name
    have hproducers := hx.producers name
    rw [hcharges, List.cons_append, List.countP_cons] at hproducers
    rw [Fabric.told_emit, List.countP_append, List.countP_append, List.countP_singleton,
      List.countP_singleton, (hcounts name).1, (hcounts name).2, hproducers]
    simp only [Charge.isOfProducer, decide_eq_true_eq, Bool.false_eq_true, if_false]
    omega

theorem accounts_of_posting (h : Posting x y) (hx : x.Accounts others) :
  y.Accounts others
  := by
  cases h with
  | told he =>
    refine hx.withFabric (Fabric.told_emit _ _) ?_ id ?_
    · exact List.forall_mem_singleton.mpr (Event.isOfHoldings_of_not_isCounted he)
    · rw [Fabric.told_emit]
      exact hx.chronicle.aside (Event.isOfSubscribers_of_not_isCounted he)
  | @quiet f hf =>
    have htold : f.told = x.fabric.told := congrArg Array.toList hf.journal
    refine hx.withFabric (htold.trans (List.append_nil _).symm) (List.forall_mem_nil _) hf.role ?_
    rw [htold, hf.roll]
    exact hx.chronicle
  | added name contentType =>
    refine hx.withFabric (List.append_nil _).symm (List.forall_mem_nil _) id ?_
    rw [Fabric.roll_addChannel]
    exact hx.chronicle.made name
  | opened hd => exact hx.openTransport hd
  | subscribed c h =>
    have hchronicle := Fabric.chronicle_subscribe hx.chronicle c h
    rcases x.fabric.subscribe_cases c h with heq | ⟨channel, hc, hnew, heq⟩
    · rw [heq]
      exact hx
    · rw [heq] at hchronicle ⊢
      exact hx.withFabric (Fabric.told_emit _ _) (List.forall_mem_singleton.mpr rfl) id hchronicle
  | unsubscribed c h =>
    have hchronicle := Fabric.chronicle_unsubscribe hx.chronicle c h
    rcases x.fabric.unsubscribe_cases c h with heq | ⟨channel, hc, hmem, heq⟩
    · rw [heq]
      exact hx
    · rw [heq] at hchronicle ⊢
      exact hx.withFabric (Fabric.told_emit _ _) (List.forall_mem_singleton.mpr rfl) id hchronicle
  | @kept name b hb =>
    refine ⟨hx.chronicle, hx.transports, hx.tracked, ?_, ?_⟩
    · intro charge hcharge
      rw [List.append_assoc, List.mem_append, List.mem_append, List.mem_singleton] at hcharge
      rcases hcharge with hcharge | rfl | hcharge
      · exact hx.charged charge (List.mem_append_left _ hcharge)
      · exact hb
      · exact hx.charged charge (List.mem_append_right _ hcharge)
    · intro name'
      rw [hx.producers name', List.append_assoc, List.countP_append, List.countP_append,
        List.countP_append, List.countP_singleton]
      exact congrArg _ (congrArg _ (Nat.zero_add _).symm)
  | reported hcharges failure => exact hx.report hcharges failure
  | lost hlost =>
    refine ⟨hx.chronicle, hx.transports, hx.tracked, ?_, ?_⟩
    · intro charge hcharge
      exact hx.charged charge (List.mem_append_right _ hcharge)
    · intro name
      have hnone : x.charges.countP (Charge.isOfProducer name) = 0 := by
        rw [List.countP_eq_zero]
        intro charge hcharge
        rw [Charge.isOfProducer, hlost charge hcharge]
        simp
      rw [hx.producers name, List.countP_append, hnone, Nat.zero_add]
      rfl

theorem accounts_of_postings (h : Postings x y) (hx : x.Accounts others) :
  y.Accounts others
  := by
  induction h with
  | refl => exact hx
  | tail _ hposting ih => exact accounts_of_posting hposting ih

/-- The producers of a list of bindings that are put to the account of one name. -/
theorem countP_isOfProducer (bs : List BindingId) (role : Role) (name name' : String) :
  (bs.map fun b => (⟨name, role, b⟩ : Charge)).countP (Charge.isOfProducer name')
    = if role = .producer ∧ name = name' then bs.length else 0
  := by
  rw [List.countP_map]
  split
  · rename_i h
    rw [List.countP_eq_length]
    intro b _
    exact decide_eq_true h
  · rename_i h
    rw [List.countP_eq_zero]
    intro b _ hb
    exact h (of_decide_eq_true hb)

/-- What is recorded under a role stays tracked under its role. -/
theorem Accounts.record (hx : x.Accounts others) {role : Role} {bs : List BindingId}
    (hbs : ∀ b ∈ bs, x.fabric.roleOf? b = some role) (name : String) :
  ∀ role' name', ∀ b ∈ (x.ledger.record role name bs).tracked role' name',
    x.fabric.roleOf? b = some role'
  := by
  intro role' name' b hb
  rw [Ledger.tracked_record] at hb
  split at hb
  · rename_i heq
    rcases List.mem_append.mp hb with hb | hb
    · exact hx.tracked role' name' b hb
    · rw [← heq.1]
      exact hbs b hb
  · exact hx.tracked role' name' b hb

theorem accounts_of_entry (h : Entry x y) (hx : x.Accounts others) :
  y.Accounts others
  := by
  cases h with
  | @tracked name destination binder b hb =>
    refine ⟨?_, ?_, hx.record (List.forall_mem_singleton.mpr hb) name, hx.charged, ?_⟩
    · rw [Fabric.told_emit]
      exact hx.chronicle.aside rfl
    · intro d
      rw [Fabric.told_emit, List.count_append, hx.transports d]
      rfl
    · intro name'
      have hproducers := hx.producers name'
      rw [Fabric.told_emit, List.countP_append, List.countP_append, List.countP_singleton,
        List.countP_singleton, hproducers]
      simp only [Event.isTracking, Event.isReleasing, decide_eq_true_eq, Bool.false_eq_true, if_false,
        Ledger.tracked_record, true_and]
      split
      · rw [List.length_append, List.length_singleton]
        omega
      · rfl
  | @recorded name bs hcharges =>
    have hconsumers : ∀ b ∈ bs, x.fabric.roleOf? b = some .consumer := by
      intro b hb
      apply hx.charged ⟨name, .consumer, b⟩
      rw [hcharges]
      exact List.mem_append_left _ (List.mem_map_of_mem hb)
    refine ⟨hx.chronicle, hx.transports, hx.record hconsumers name, ?_, ?_⟩
    · intro charge hcharge
      exact hx.charged charge (List.mem_append_right _ hcharge)
    · intro name'
      have hproducers := hx.producers name'
      rw [hcharges, List.countP_append, countP_isOfProducer, if_neg (by rintro ⟨⟨⟩, -⟩), Nat.zero_add]
        at hproducers
      dsimp only
      rw [Ledger.tracked_record, if_neg (by rintro ⟨⟨⟩, -⟩), hproducers]
      rfl
  | @took role name bs hnone htaken =>
    have htracked : x.ledger.tracked role name = bs := by
      rw [← Ledger.take_snd_getD, htaken]
      rfl
    refine ⟨hx.chronicle, hx.transports, ?_, ?_, ?_⟩
    · intro role' name' b hb
      dsimp only at hb
      rw [Ledger.tracked_take] at hb
      split at hb
      · cases hb
      · exact hx.tracked role' name' b hb
    · intro charge hcharge
      rcases List.mem_append.mp hcharge with hcharge | hcharge
      · obtain ⟨b, hb, rfl⟩ := List.mem_map.mp hcharge
        exact hx.tracked role name b (htracked ▸ hb)
      · exact hx.charged charge (List.mem_append_right _ hcharge)
    · intro name'
      have hproducers := hx.producers name'
      rw [hnone, List.nil_append] at hproducers
      dsimp only
      rw [Ledger.tracked_take, List.countP_append, countP_isOfProducer]
      split
      · rename_i heq
        obtain ⟨rfl, rfl⟩ := heq
        rw [htracked] at hproducers
        rw [hproducers, List.length_nil]
        omega
      · rw [hproducers]
        omega

theorem accounts_of_transaction (h : Transaction x y) (hx : x.Accounts others) :
  y.Accounts others
  := by
  obtain ⟨u, v, hbefore, hentry, hafter⟩ := h
  have hu := accounts_of_postings hbefore hx
  rcases hentry with rfl | hentry
  · exact accounts_of_postings hafter hu
  · exact accounts_of_postings hafter (accounts_of_entry hentry hu)

/-- Who answers for what does not matter, as long as somebody does. -/
theorem Accounts.perm {f : Fabric} {m : MemoryBinder} {l : Ledger} {charges charges' others' : List Charge}
    (h : Accounts others ⟨f, m, l, charges⟩) (hperm : (charges ++ others).Perm (charges' ++ others')) :
  Accounts others' ⟨f, m, l, charges'⟩
  := by
  refine ⟨h.chronicle, h.transports, h.tracked, ?_, ?_⟩
  · intro charge hcharge
    exact h.charged charge (hperm.mem_iff.mpr hcharge)
  · intro name
    rw [h.producers name]
    exact congrArg _ (hperm.countP_eq _)

/-! ## What is told of tracking -/

/-- What is told on the way, where a producer is told of with the number of those that are tracked in the
end. -/
def Tells (x y : Standing) : Prop :=
  ∃ news, y.fabric.told = x.fabric.told ++ news ∧ ∀ {name destination binder n},
    .producerTracked name destination binder n ∈ news → n = (y.ledger.tracked .producer name).length

/-- Whether the ledger is left alone and nothing is told of producers that are tracked. -/
def Aside (x y : Standing) : Prop :=
  y.ledger = x.ledger
    ∧ ∃ news, y.fabric.told = x.fabric.told ++ news ∧ ∀ e ∈ news, ∀ name, e.isTracking name = false

theorem Aside.of_told_eq (hledger : y.ledger = x.ledger) (htold : y.fabric.told = x.fabric.told) :
  x.Aside y
  := ⟨hledger, [], htold.trans (List.append_nil _).symm, List.forall_mem_nil _⟩

theorem Aside.of_emit (hledger : y.ledger = x.ledger) {e : Event}
    (htold : y.fabric.told = x.fabric.told ++ [e]) (he : ∀ name, e.isTracking name = false) :
  x.Aside y
  := ⟨hledger, [e], htold, List.forall_mem_singleton.mpr he⟩

theorem aside_of_posting (h : Posting x y) :
  x.Aside y
  := by
  cases h with
  | told he =>
    exact .of_emit rfl (Fabric.told_emit _ _) fun name =>
      (Event.isTracking_of_not_isOfHoldings (Event.isOfHoldings_of_not_isCounted he) name).2.1
  | quiet hf => exact .of_told_eq rfl (congrArg Array.toList hf.journal)
  | added => exact .of_told_eq rfl rfl
  | opened => exact .of_emit rfl (Fabric.told_emit _ _) fun _ => rfl
  | subscribed c h =>
    rcases x.fabric.subscribe_cases c h with heq | ⟨channel, hc, hnew, heq⟩
    · rw [heq]
      exact .of_told_eq rfl rfl
    · rw [heq]
      exact .of_emit rfl (Fabric.told_emit _ _) fun _ => rfl
  | unsubscribed c h =>
    rcases x.fabric.unsubscribe_cases c h with heq | ⟨channel, hc, hmem, heq⟩
    · rw [heq]
      exact .of_told_eq rfl rfl
    · rw [heq]
      exact .of_emit rfl (Fabric.told_emit _ _) fun _ => rfl
  | kept => exact .of_told_eq rfl rfl
  | reported h failure =>
    unfold Release.report
    split
    · exact .of_told_eq rfl rfl
    · exact .of_emit rfl (Fabric.told_emit _ _) fun _ => rfl
    · exact .of_emit rfl (Fabric.told_emit _ _) fun _ => rfl
  | lost => exact .of_told_eq rfl rfl

theorem aside_of_postings (h : Postings x y) :
  x.Aside y
  := by
  induction h with
  | refl => exact .of_told_eq rfl rfl
  | tail _ hposting ih =>
    obtain ⟨hledger, news, htold, hnews⟩ := ih
    obtain ⟨hledger', news', htold', hnews'⟩ := aside_of_posting hposting
    refine ⟨hledger'.trans hledger, news ++ news', ?_, ?_⟩
    · rw [htold', htold, List.append_assoc]
    · exact List.forall_mem_append.mpr ⟨hnews, hnews'⟩

theorem tells_of_entry (h : Entry x y) :
  x.Tells y
  := by
  cases h with
  | tracked name destination binder hb =>
    refine ⟨_, Fabric.told_emit _ _, ?_⟩
    intro name' destination' binder' n hmem
    cases List.mem_singleton.mp hmem
    rfl
  | recorded | took => exact ⟨[], (List.append_nil _).symm, by rintro _ _ _ _ ⟨⟩⟩

/-- What is told on the way changes by nothing that is told aside. -/
theorem Tells.aside {x' y' : Standing} (h : x.Tells y) (hx : x'.Aside x) (hy : y.Aside y') :
  x'.Tells y'
  := by
  obtain ⟨news, htold, hnews⟩ := h
  obtain ⟨-, before, hbefore, hasideBefore⟩ := hx
  obtain ⟨hledger, after, hafter, hasideAfter⟩ := hy
  refine ⟨before ++ news ++ after, ?_, ?_⟩
  · rw [hafter, htold, hbefore, List.append_assoc, List.append_assoc, List.append_assoc]
  · intro name destination binder n hmem
    have hnot : ∀ {events : List Event}, (∀ e ∈ events, ∀ name, e.isTracking name = false) →
        .producerTracked name destination binder n ∉ events := by
      intro events haside hmem
      exact of_decide_eq_false (haside _ hmem name) rfl
    rw [List.mem_append, List.mem_append] at hmem
    rcases hmem with (hmem | hmem) | hmem
    · exact absurd hmem (hnot hasideBefore)
    · rw [hledger]
      exact hnews hmem
    · exact absurd hmem (hnot hasideAfter)

theorem tells_of_transaction (h : Transaction x y) :
  x.Tells y
  := by
  obtain ⟨u, v, hbefore, hentry, hafter⟩ := h
  have htells : u.Tells v := by
    rcases hentry with rfl | hentry
    · exact ⟨[], (List.append_nil _).symm, by rintro _ _ _ _ ⟨⟩⟩
    · exact tells_of_entry hentry
  exact htells.aside (aside_of_postings hbefore) (aside_of_postings hafter)

end Standing

/-! ## Worlds -/

/-- Whether a call releases bindings that are tracked. -/
def Call.isRelease : Call Unit MemoryCall → Bool
  | releasing _ | draining _ | stopping _ => true
  | _ => false

/-- Only calls that release bindings answer for producers. -/
theorem Call.not_isOfProducer {call : Call Unit MemoryCall} (hcall : call.isRelease = false) {charge : Charge}
    (hcharge : charge ∈ call.charges) (name : String) :
  charge.isOfProducer name = false
  := by
  cases call with
  | consuming bind => cases bind <;> obtain ⟨b, -, rfl⟩ := List.mem_map.mp hcharge <;> rfl
  | releasing | draining | stopping => cases hcall
  | _ => cases hcharge

namespace World

/-- What is read off the journal of a world is how matters stand in it. -/
structure IsTold (w : World Unit MemoryBinder MemoryCall) : Prop where
  /-- The journal tells of the channels there are, each change of the subscribers of one of them with their
  number right after it. -/
  chronicle : Chronicle w.system.fabric.told w.system.fabric.roll
  /-- The subscriptions and the ends of subscriptions that were told of under a name come to the number of
  subscribers that the channels of the name have together. -/
  subscribers : ∀ name, w.system.fabric.told.countP (Event.isSubscription name)
    = w.system.fabric.told.countP (Event.isUnsubscription name) + audience name w.system.fabric.roll
  /-- Each transport channel was told of once, when it was made. -/
  transports : ∀ destination, w.system.fabric.told.count (.transportCreated destination)
    = if w.system.binders.transports.contains destination then 1 else 0
  /-- A producer that was told of as tracked was told of as released, is tracked, or has been taken by a call
  that has not released it yet. -/
  producers : ∀ name, w.system.fabric.told.countP (Event.isTracking name)
    = w.system.fabric.told.countP (Event.isReleasing name)
      + (w.system.ledger.tracked .producer name).length + w.charges.countP (Charge.isOfProducer name)
  /-- While no call releases bindings, no call has taken any. -/
  settled : (∀ call ∈ w.calls, call.isRelease = false) →
    ∀ name, w.system.fabric.told.countP (Event.isTracking name)
      = w.system.fabric.told.countP (Event.isReleasing name)
        + (w.system.ledger.tracked .producer name).length

variable {w : World Unit MemoryBinder MemoryCall}

theorem IsTold.of_accounts (h : (w.system.standing w.charges).Accounts []) :
  w.IsTold
  := by
  have hproducers := h.producers
  simp only [List.append_nil] at hproducers
  refine ⟨h.chronicle, h.chronicle.balance, h.transports, hproducers, ?_⟩
  intro hcalls name
  have hnone : w.charges.countP (Charge.isOfProducer name) = 0 := by
    rw [List.countP_eq_zero]
    intro charge hcharge
    obtain ⟨call, hcall, hmem⟩ := List.mem_flatMap.mp hcharge
    rw [Call.not_isOfProducer (hcalls call hcall) hmem]
    exact Bool.false_ne_true
  have hname := hproducers name
  rw [show (w.system.standing w.charges).charges = w.charges from rfl, hnone] at hname
  exact hname

theorem Transacts.accounts {w' : World Unit MemoryBinder MemoryCall} (h : w.Transacts w')
    (hw : (w.system.standing w.charges).Accounts []) :
  (w'.system.standing w'.charges).Accounts []
  := by
  obtain ⟨old, new, others, htransaction, hold, hnew⟩ := h
  have hbefore : (w.system.standing old).Accounts others := hw.perm (by rwa [List.append_nil])
  have hafter := Standing.accounts_of_transaction htransaction hbefore
  exact hafter.perm (by rw [List.append_nil]; exact hnew.symm)

/-- What is told in a move, where a producer is told of with the number of those that are tracked after it. -/
def Tells (w w' : World Unit MemoryBinder MemoryCall) : Prop :=
  ∃ news, w'.system.fabric.told = w.system.fabric.told ++ news ∧ ∀ {name destination binder n},
    .producerTracked name destination binder n ∈ news →
      n = (w'.system.ledger.tracked .producer name).length

theorem Transacts.tells {w' : World Unit MemoryBinder MemoryCall} (h : w.Transacts w') :
  w.Tells w'
  := by
  obtain ⟨old, new, others, htransaction, -, -⟩ := h
  exact Standing.tells_of_transaction htransaction

variable (settings : Settings) (factory : Factory Unit) {callback : Option Callback}

theorem accounts_run (hdiscreet : Callback.IsDiscreet callback) (moves : List (Move Unit)) :
  let w := (fresh {} {}).run (MemoryBinder.setup settings factory callback) moves
  w.IsFit ∧ (w.system.standing w.charges).Accounts []
  := by
  apply run_induction (P := fun w => w.IsFit ∧ (w.system.standing w.charges).Accounts [])
  · refine ⟨List.forall_mem_nil _, .nothing, fun _ => rfl, ?_, List.forall_mem_nil _, fun _ => rfl⟩
    rintro (_ | _) name b ⟨⟩
  · rintro w m ⟨hfit, haccounts⟩
    obtain ⟨htransacts, hfit'⟩ := transacts_next settings factory hdiscreet hfit m
    exact ⟨hfit', htransacts.accounts haccounts⟩

/-- However calls on the system and what the application does interleave, what is read off the journal is
how matters stand.  A producer is told of with the number of those that are tracked right after it; what
changes no subscription is not told of, nor is it told that a binding is released by unbinding it once more. -/
theorem journal_accounts_for_state (hdiscreet : Callback.IsDiscreet callback) (moves : List (Move Unit)) :
  let setup := MemoryBinder.setup settings factory callback
  let w := (fresh {} {}).run setup moves
  w.IsTold ∧ (∀ m, w.Tells (w.next setup m))
    ∧ ∀ f : Fabric,
      (∀ c h, let f' := (f.subscribe c h).1
        f.subscribe c h = (f, false) ∨ (f.subscribe c h).2 = true
          ∧ f'.told = f.told ++ [.subscribed (f.channelName c) (f'.subscribers c).length])
      ∧ (∀ c h, let f' := (f.unsubscribe c h).1
        f.unsubscribe c h = (f, false) ∨ (f.unsubscribe c h).2 = true
          ∧ f'.told = f.told ++ [.unsubscribed (f.channelName c) (f'.subscribers c).length])
      ∧ ∀ {b binding c h}, f.Attaches b binding c h → binding.bound = false →
        f.unbind b = (f.emit (.unboundAlready binding.name binding.role), .ok ())
  := by
  intro setup w
  obtain ⟨hfit, haccounts⟩ := accounts_run settings factory hdiscreet moves
  refine ⟨.of_accounts haccounts, ?_, fun f => ⟨f.subscribe_isTold, f.unsubscribe_isTold, ?_⟩⟩
  · intro m
    exact (transacts_next settings factory hdiscreet hfit m).1.tells
  · intro b binding c h hb hbound
    exact Fabric.unbind_of_unbound hb hbound

/-- Two producers are bound under a name and released, while a consumer bind is under way. -/
def twoReleased : List (Move Unit) :=
  [.act (.newChannel "out" none), .act (.newChannel "in" none),
    .call (.bindProducer "orders" ⟨0⟩ none), .advance 0, .advance 0,
    .call (.bindProducer "orders" ⟨0⟩ none), .advance 1, .advance 1,
    .call (.bindConsumer "orders" ⟨1⟩), .advance 2,
    .call (.unbindTracked .producer "orders"), .advance 3, .advance 3, .advance 3]

/-- While the second producer is being released, it is missing from the ledger. -/
theorem journal_accounts_for_state_two_released :
  let w := (fresh {} {}).run MemoryBinder.setup twoReleased
  Callback.IsDiscreet none ∧ w.IsTold
    ∧ w.system.fabric.told.countP (Event.isTracking "orders") = 2
    ∧ w.system.fabric.told.countP (Event.isReleasing "orders") = 1
    ∧ w.system.ledger.tracked .producer "orders" = []
    ∧ w.charges.countP (Charge.isOfProducer "orders") = 1
  := by
  intro w
  have hdiscreet : Callback.IsDiscreet none := by rintro _ ⟨⟩
  have htold := (journal_accounts_for_state {} { binders := Table.ofEntries [("memory", ())] } hdiscreet
    twoReleased).1
  exact ⟨hdiscreet, htold, rfl, rfl, rfl, rfl⟩

end World

end ChannelBinding
