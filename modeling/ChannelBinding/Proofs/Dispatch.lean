import ChannelBinding.Proofs.Failover
import Mathlib.Data.List.Rotate

/-!
# Dispatch

What one send on a channel does, whatever the handlers do while they have the message.  The subscribers
and whose turn it is are read once, before the first handler is called; from there on a dispatch goes by
the verdicts alone.  The handlers that it calls are therefore a stretch of the list as it was then, in
cyclic order, however they change the list and the turn themselves.
-/

namespace ChannelBinding

/-! ## Tries -/

/-- One try of a dispatch: a handler, the fabric that it found, what it made of the message there, and
the fabric that it left. -/
structure Try where
  handler : HandlerId
  before : Fabric
  taken : Outcome
  after : Fabric

/-- Whether a message of a channel is tried with handlers, one after the other, on the way from one
fabric to another: each handler is called when the one before it has failed and this is reported. -/
inductive Tried (take : Taking) (c : ChannelId) (m : Message) : Fabric → List Try → Fabric → Prop where
  | nobody (f : Fabric) : Tried take c m f [] f
  | accepted {f : Fabric} {t : Try} (hbefore : t.before = f)
      (ht : take t.handler m f = some (t.taken, t.after)) (hok : t.taken.verdict = .ok ()) :
    Tried take c m f [t] t.after
  | passed {f f' : Fabric} {t : Try} {tries : List Try} {e : DeliveryError} (hbefore : t.before = f)
      (ht : take t.handler m f = some (t.taken, t.after)) (he : t.taken.verdict = .error e)
      (htries : Tried take c m
        (t.after.emit (.handlerFailed (t.after.channelName c) m.id m.contentType? e)) tries f') :
    Tried take c m f (t :: tries) f'

variable {take : Taking} {c : ChannelId} {m : Message} {f f' : Fabric} {h : HandlerId}
  {hs : List HandlerId} {last : DeliveryError} {taken o : Outcome}

/-! ## Offers -/

/-- An offer does not return if its first handler does not. -/
theorem offer_cons_of_none (ht : take h m f = none) :
  offer take c m (h :: hs) last f = none
  := by
  change (take h m f).bind _ = none
  rw [ht]
  rfl

/-- An offer that its first handler accepts ends there. -/
theorem offer_cons_of_ok (ht : take h m f = some (taken, f')) (hok : taken.verdict = .ok ()) :
  offer take c m (h :: hs) last f = some (⟨taken.callsOf c h m, .ok ()⟩, f')
  := by
  change (take h m f).bind _ = _
  rw [ht, Option.bind_some]
  simp only [hok]
  rw [Outcome.callsOf, hok]
  rfl

/-- An offer whose first handler fails goes on with the others once this is reported. -/
theorem offer_cons_of_error {e : DeliveryError} (ht : take h m f = some (taken, f'))
    (he : taken.verdict = .error e) :
  offer take c m (h :: hs) last f
    = (offer take c m hs e
        (f'.emit (.handlerFailed (f'.channelName c) m.id m.contentType? e))).map fun later =>
          (⟨taken.callsOf c h m ++ later.1.calls, later.1.verdict⟩, later.2)
  := by
  change (take h m f).bind _ = _
  rw [ht, Option.bind_some]
  simp only [he]
  rw [Outcome.callsOf, he, Option.map_eq_bind]
  rfl

/-- What an offer comes to that returns: some of the handlers were tried, and the last of these tries
decides; if it failed, everybody was tried. -/
structure Outcome.EndsTries (o : Outcome) (c : ChannelId) (m : Message) (hs : List HandlerId)
    (last : DeliveryError) (tries : List Try) : Prop where
  handlers : tries.map Try.handler <+: hs
  calls_eq : o.calls = tries.flatMap fun t => t.taken.callsOf c t.handler m
  verdict_eq : o.verdict = (tries.getLast?.map fun t => t.taken.verdict).getD (.error last)
  exhausted : o.verdict ≠ .ok () → tries.length = hs.length

/-- What an offer comes to that does not return: some of the handlers were tried and failed, and the
call of the next one does not return. -/
structure StuckTries (take : Taking) (m : Message) (hs : List HandlerId) (tries : List Try)
    (f : Fabric) (h : HandlerId) : Prop where
  handlers : tries.map Try.handler ++ [h] <+: hs
  failed : ∀ t ∈ tries, t.taken.verdict ≠ .ok ()
  stuck : take h m f = none

/-- An offer that returns has tried handlers in turn. -/
theorem offer_ends (h : offer take c m hs last f = some (o, f')) :
  ∃ tries, Tried take c m f tries f' ∧ o.EndsTries c m hs last tries
  := by
  induction hs generalizing f last o with
  | nil =>
    cases h
    refine ⟨[], .nobody f', ?_⟩
    constructor
    · apply List.prefix_rfl
    · rfl
    · rfl
    · intro _
      rfl
  | cons h' hs ih =>
    cases ht : take h' m f with
    | none =>
      rw [offer_cons_of_none ht] at h
      cases h
    | some taken =>
      obtain ⟨taken, f₁⟩ := taken
      cases hverdict : taken.verdict with
      | ok =>
        rw [offer_cons_of_ok ht hverdict] at h
        cases h
        refine ⟨[⟨h', f, taken, f'⟩], .accepted rfl ht hverdict, ?_⟩
        constructor
        · apply List.prefix_append [h'] hs
        · simp
        · exact hverdict.symm
        · intro hnot
          apply absurd rfl hnot
      | error e =>
        rw [offer_cons_of_error ht hverdict, Option.map_eq_some_iff] at h
        obtain ⟨⟨later, f₂⟩, hlater, h⟩ := h
        cases h
        obtain ⟨tries, htries, hends⟩ := ih hlater
        refine ⟨⟨h', f, taken, f₁⟩ :: tries, .passed rfl ht hverdict htries, ?_⟩
        constructor
        · apply (List.prefix_cons_inj h').mpr hends.handlers
        · rw [List.flatMap_cons, ← hends.calls_eq]
        · rw [hends.verdict_eq, List.getLast?_cons, ← hverdict]
          cases tries.getLast? <;> rfl
        · intro hnot
          rw [List.length_cons, List.length_cons, hends.exhausted hnot]

/-- An offer that does not return has come to a handler that does not return. -/
theorem offer_sticks (h : offer take c m hs last f = none) :
  ∃ tries f' h', Tried take c m f tries f' ∧ StuckTries take m hs tries f' h'
  := by
  induction hs generalizing f last with
  | nil => cases h
  | cons h' hs ih =>
    cases ht : take h' m f with
    | none =>
      refine ⟨[], f, h', .nobody f, ?_⟩
      constructor
      · apply List.prefix_append [h'] hs
      · rintro t ⟨⟩
      · exact ht
    | some taken =>
      obtain ⟨taken, f₁⟩ := taken
      cases hverdict : taken.verdict with
      | ok =>
        rw [offer_cons_of_ok ht hverdict] at h
        cases h
      | error e =>
        rw [offer_cons_of_error ht hverdict, Option.map_eq_none_iff] at h
        obtain ⟨tries, f₂, h₂, htries, hstuck⟩ := ih h
        refine ⟨⟨h', f, taken, f₁⟩ :: tries, f₂, h₂, .passed rfl ht hverdict htries, ?_⟩
        constructor
        · apply (List.prefix_cons_inj h').mpr hstuck.handlers
        · rintro t (_ | ⟨_, hmem⟩)
          · rw [hverdict]
            rintro ⟨⟩
          · apply hstuck.failed t hmem
        · exact hstuck.stuck

/-! ## Dispatches -/

/-- The handlers that are offered a message next are those that subscribe, rotated to whose turn it is. -/
theorem Channel.offerOrder_eq_rotate (channel : Channel) :
  channel.offerOrder = channel.subscribers.rotate channel.turn.toNat
  := by
  rw [offerOrder, List.rotateLeft, List.rotate_eq_drop_append_take_mod]
  split
  · rename_i hlength
    have hzero : channel.turn.toNat % channel.subscribers.length = 0
        ∨ channel.subscribers.length = 0 := by
      rcases Nat.le_one_iff_eq_zero_or_eq_one.mp hlength with h | h
      · apply Or.inr h
      · rw [h, Nat.mod_one]
        apply Or.inl rfl
    rcases hzero with h | h
    · rw [h, List.drop_zero, List.take_zero, List.append_nil]
    · simp [List.length_eq_zero_iff.mp h]
  · rfl

/-- Work that looks at the fabric first goes by the fabric that it begins with. -/
theorem Work.get_bind {α : Type} (next : Fabric → Work α) (f : Fabric) :
  (get >>= next) f = next f f
  := rfl

/-- The fabric in which a channel has counted a turn. -/
def Fabric.countTurn (f : Fabric) (c : ChannelId) (channel : Channel) : Fabric :=
  f.setChannel c { channel with turn := channel.turn + 1 }

/-- A dispatch on a channel that has subscribers counts a turn and then offers the message to them. -/
theorem dispatch_of_subscribers {channel : Channel} (hc : f.channel? c = some channel)
    (hne : channel.subscribers ≠ []) (m : Message) :
  dispatch take c m f
    = offer take c (m.stamp channel.contentType) channel.offerOrder (.noSubscribers channel.name)
        (f.countTurn c channel)
  := by
  rw [dispatch, Work.get_bind, hc]
  dsimp only
  rw [if_neg (by rwa [List.isEmpty_iff])]
  rfl

/-- The handlers that are called first are the subscribers from the one whose turn it is on, in cyclic
order. -/
theorem Channel.getElem?_of_prefix {channel : Channel} (hstart : hs <+: channel.offerOrder) {j : Nat}
    (hj : hs[j]? = some h) :
  channel.subscribers[(channel.turn.toNat + j) % channel.subscribers.length]? = some h
  := by
  rw [channel.offerOrder_eq_rotate] at hstart
  have hlt : j < channel.subscribers.length := by
    have hlength := hstart.length_le
    rw [List.length_rotate] at hlength
    exact Nat.lt_of_lt_of_le (List.getElem?_eq_some_iff.mp hj).1 hlength
  rw [Nat.add_comm, ← List.getElem?_rotate hlt]
  obtain ⟨others, heq⟩ := hstart
  rw [← heq, List.getElem?_append_left (List.getElem?_eq_some_iff.mp hj).1, hj]

/-- What a dispatch on a channel does that ends, told by the tries that it makes. -/
structure Channel.TriesInTurn (channel : Channel) (take : Taking) (c : ChannelId) (m : Message)
    (f : Fabric) (tries : List Try) (o : Outcome) (f' : Fabric) : Prop where
  /-- The turn is counted once, and then the stamped message is tried with handlers, one after the
  other, none of whom accepts it but possibly the last. -/
  tried : Tried take c (m.stamp channel.contentType) (f.countTurn c channel) tries f'
  /-- The handlers are those that subscribe when the dispatch begins, from the one whose turn it is on. -/
  handler : ∀ {j t}, tries[j]? = some t →
    channel.subscribers[(channel.turn.toNat + j) % channel.subscribers.length]? = some t.handler
  length_le : tries.length ≤ channel.subscribers.length
  /-- Nobody who subscribes once is called twice. -/
  nodup : channel.subscribers.Nodup → (tries.map Try.handler).Nodup
  /-- The message is accepted if the last handler that is called accepts it. -/
  ok_iff : o.verdict = .ok () ↔ ∃ t, tries.getLast? = some t ∧ t.taken.verdict = .ok ()
  /-- Otherwise everybody is called, and the error is that of the handler that comes last. -/
  rejected : ∀ {e}, o.verdict = .error e → tries.length = channel.subscribers.length
    ∧ ∃ t, tries.getLast? = some t ∧ t.taken.verdict = .error e
      ∧ channel.subscribers[(channel.turn.toNat + channel.subscribers.length - 1)
        % channel.subscribers.length]? = some t.handler
  /-- The calls of the outcome are those of the tries and what they led to. -/
  calls_eq : o.calls
    = tries.flatMap fun t => t.taken.callsOf c t.handler (m.stamp channel.contentType)

theorem Outcome.EndsTries.triesInTurn {channel : Channel} {tries : List Try}
    (hends : o.EndsTries c (m.stamp channel.contentType) channel.offerOrder last tries)
    (hne : channel.subscribers ≠ [])
    (htried : Tried take c (m.stamp channel.contentType) (f.countTurn c channel) tries f') :
  channel.TriesInTurn take c m f tries o f'
  := by
  have hlength : channel.offerOrder.length = channel.subscribers.length := by
    rw [channel.offerOrder_eq_rotate, List.length_rotate]
  have hhandler : ∀ {j t}, tries[j]? = some t →
      channel.subscribers[(channel.turn.toNat + j) % channel.subscribers.length]?
        = some t.handler := by
    intro j t hj
    apply Channel.getElem?_of_prefix hends.handlers
    rw [List.getElem?_map, hj]
    rfl
  -- somebody was tried, since somebody subscribes
  have htries : tries ≠ [] := by
    rintro rfl
    have hnone := hends.exhausted (by rw [hends.verdict_eq]; rintro ⟨⟩)
    rw [hlength, List.length_nil] at hnone
    apply hne (List.length_eq_zero_iff.mp hnone.symm)
  obtain ⟨t, ht⟩ := Option.isSome_iff_exists.mp (List.getLast?_isSome.mpr htries)
  have hverdict : o.verdict = t.taken.verdict := by
    rw [hends.verdict_eq, ht]
    rfl
  constructor
  · exact htried
  · exact hhandler
  · have hle := hends.handlers.length_le
    rwa [List.length_map, hlength] at hle
  · intro hnodup
    apply List.Nodup.sublist hends.handlers.sublist
    rw [channel.offerOrder_eq_rotate]
    apply List.nodup_rotate.mpr hnodup
  · rw [hverdict]
    constructor
    · intro hok
      exact ⟨t, ht, hok⟩
    · rintro ⟨t', ht', hok⟩
      rw [ht] at ht'
      cases ht'
      exact hok
  · intro e he
    have hall := hends.exhausted (by rw [he]; rintro ⟨⟩)
    rw [hlength] at hall
    refine ⟨hall, t, ht, hverdict ▸ he, ?_⟩
    have hpos := List.length_pos_of_ne_nil htries
    rw [List.getLast?_eq_getElem?] at ht
    have hlast := hhandler ht
    rwa [hall, ← Nat.add_sub_assoc (by omega)] at hlast
  · exact hends.calls_eq

/-- How a dispatch on a channel may fail to end: some of the handlers are tried in turn and fail, and
the call of the next one does not return. -/
def Channel.SticksInTurn (channel : Channel) (take : Taking) (c : ChannelId) (m : Message)
    (f : Fabric) : Prop :=
  ∃ tries f' h, Tried take c (m.stamp channel.contentType) (f.countTurn c channel) tries f'
    ∧ (∀ t ∈ tries, t.taken.verdict ≠ .ok ())
    ∧ channel.subscribers[(channel.turn.toNat + tries.length) % channel.subscribers.length]? = some h
    ∧ take h (m.stamp channel.contentType) f' = none

/-- A dispatch on a channel without subscribers reports that it went unheard, and fails. -/
theorem dispatch_of_nobody {channel : Channel} (hc : f.channel? c = some channel)
    (hnobody : channel.subscribers = []) (m : Message) :
  dispatch take c m f
    = some (⟨[], .error (.noSubscribers channel.name)⟩, f.emit (.unheard channel.name m.id))
  := by
  rw [dispatch, Work.get_bind, hc]
  dsimp only
  rw [if_pos (List.isEmpty_iff.mpr hnobody), Message.stamp_id]
  rfl

/-- A dispatch on a channel with subscribers that ends has tried them in turn. -/
theorem dispatch_ends {channel : Channel} (hc : f.channel? c = some channel)
    (hne : channel.subscribers ≠ []) (h : dispatch take c m f = some (o, f')) :
  ∃ tries, channel.TriesInTurn take c m f tries o f'
  := by
  rw [dispatch_of_subscribers hc hne] at h
  obtain ⟨tries, htried, hends⟩ := offer_ends h
  exact ⟨tries, hends.triesInTurn hne htried⟩

/-- A dispatch that does not end has come to a handler that does not return. -/
theorem dispatch_sticks {channel : Channel} (hc : f.channel? c = some channel)
    (h : dispatch take c m f = none) :
  channel.SticksInTurn take c m f
  := by
  have hne : channel.subscribers ≠ [] := by
    intro hnobody
    rw [dispatch_of_nobody hc hnobody] at h
    cases h
  rw [dispatch_of_subscribers hc hne] at h
  obtain ⟨tries, f', h', htried, hstuck⟩ := offer_sticks h
  refine ⟨tries, f', h', htried, hstuck.failed, ?_, hstuck.stuck⟩
  apply Channel.getElem?_of_prefix hstuck.handlers
  rw [← List.length_map (f := Try.handler), List.getElem?_concat_length]

/-- A dispatch calls nobody if nobody subscribes, and changes nothing but the journal.  Otherwise it
counts a turn and tries those who subscribe at that time with the stamped message, in cyclic order from
the one whose turn it is on, until one accepts; whatever the handlers do, it ends unless one of the calls
that it comes to does not return. -/
theorem dispatch_tries_in_turn {take : Taking} {f : Fabric} {c : ChannelId} {channel : Channel}
    (hc : f.channel? c = some channel) (m : Message) :
  (channel.subscribers = [] → dispatch take c m f
      = some (⟨[], .error (.noSubscribers channel.name)⟩, f.emit (.unheard channel.name m.id)))
    ∧ (channel.subscribers ≠ [] → ∀ o f', dispatch take c m f = some (o, f') →
        ∃ tries, channel.TriesInTurn take c m f tries o f')
    ∧ (dispatch take c m f = none → channel.SticksInTurn take c m f)
  := by
  refine ⟨?_, ?_, dispatch_sticks hc⟩
  · intro hnobody
    apply dispatch_of_nobody hc hnobody
  · intro hne o f' h
    apply dispatch_ends hc hne h

/-- A channel whose turns are about to start anew. -/
def busy : Channel := ⟨"busy", some "text/plain", [⟨0⟩, ⟨1⟩], .ofNat (UInt64.size - 1)⟩

/-- The second of the subscribers of a busy channel has the turn: it takes the subscription of the first
away, lets another handler subscribe, sends the message aside and then fails. -/
def meddling : Fabric where
  channels := #[busy, ⟨"aside", none, [⟨2⟩], 0⟩]
  handlers := #[.collecting [],
    .scripted [some (.handlerFailed "late")]
      [.unsubscribe "busy" "first", .subscribe "busy" "other", .send "aside"] [],
    .collecting []]
  labels := { channels := Table.ofEntries [("busy", ⟨0⟩), ("aside", ⟨1⟩)]
              handlers := Table.ofEntries [("first", ⟨0⟩), ("other", ⟨2⟩)] }

/-- The handler that has the turn is called first, then whom it has sent the message to, and then the
one whose subscription is gone; who has subscribed meanwhile is not called for that. -/
theorem dispatch_tries_in_turn_meddling :
  ∃ o f' tries, meddling.channel? ⟨0⟩ = some busy
    ∧ dispatch (Handler.take (Fabric.send 1)) ⟨0⟩ ⟨⟨0⟩, ∅, []⟩ meddling = some (o, f')
    ∧ o.calls.map HandlerCall.handler = [⟨1⟩, ⟨2⟩, ⟨0⟩] ∧ f'.subscribers ⟨0⟩ = [⟨1⟩, ⟨2⟩]
    ∧ busy.TriesInTurn (Handler.take (Fabric.send 1)) ⟨0⟩ ⟨⟨0⟩, ∅, []⟩ meddling tries o f'
  := by
  have hc : meddling.channel? ⟨0⟩ = some busy := by
    simp [Fabric.channel?, meddling]
  have hrun : (dispatch (Handler.take (Fabric.send 1)) ⟨0⟩ ⟨⟨0⟩, ∅, []⟩ meddling).map
      (fun r => (r.1.calls.map HandlerCall.handler, r.2.subscribers ⟨0⟩))
        = some ([⟨1⟩, ⟨2⟩, ⟨0⟩], [⟨1⟩, ⟨2⟩]) := by
    decide +kernel
  obtain ⟨⟨o, f'⟩, hdispatch, hshape⟩ := Option.map_eq_some_iff.mp hrun
  obtain ⟨tries, htries⟩ :=
    (dispatch_tries_in_turn hc _).2.1 (List.cons_ne_nil _ _) o f' hdispatch
  exact ⟨o, f', tries, hc, hdispatch, congrArg Prod.fst hshape, congrArg Prod.snd hshape, htries⟩

/-! ## What dispatches keep -/

section Keeps

variable {I : Fabric → Prop} {Q : HandlerId → Outcome → Prop} {tries : List Try}

/-- What reports and handlers keep, tries of these handlers keep. -/
theorem Tried.keeps (htried : Tried take c m f tries f')
    (hemit : ∀ {f} (e : Event), I f → I (f.emit e))
    (htake : ∀ t ∈ tries, ∀ {f o f'}, I f → take t.handler m f = some (o, f') → I f' ∧ Q t.handler o)
    (hf : I f) :
  I f' ∧ ∀ t ∈ tries, Q t.handler t.taken
  := by
  induction htried with
  | nobody f => exact ⟨hf, List.forall_mem_nil _⟩
  | accepted hbefore ht hok =>
    obtain ⟨hafter, hq⟩ := htake _ List.mem_cons_self hf ht
    exact ⟨hafter, List.forall_mem_singleton.mpr hq⟩
  | passed hbefore ht he htries ih =>
    obtain ⟨hafter, hq⟩ := htake _ List.mem_cons_self hf ht
    obtain ⟨hend, hqs⟩ :=
      ih (fun t hmem => htake t (List.mem_cons_of_mem _ hmem)) (hemit _ hafter)
    exact ⟨hend, List.forall_mem_cons.mpr ⟨hq, hqs⟩⟩

/-- A dispatch whose handlers return and keep a property returns and keeps it. -/
theorem dispatch_keeps {channel : Channel} (hc : f.channel? c = some channel)
    (hne : channel.subscribers ≠ []) (hemit : ∀ {f} (e : Event), I f → I (f.emit e))
    (hturn : I (f.countTurn c channel))
    (htake : ∀ h ∈ channel.subscribers, ∀ {f}, I f →
      ∃ o f', take h (m.stamp channel.contentType) f = some (o, f') ∧ I f' ∧ Q h o) :
  ∃ o f' tries, dispatch take c m f = some (o, f') ∧ channel.TriesInTurn take c m f tries o f'
    ∧ I f' ∧ ∀ t ∈ tries, Q t.handler t.taken
  := by
  -- whoever is called subscribes, so that the call returns and keeps the property
  have hkeeps : ∀ h ∈ channel.subscribers, ∀ {f o f'}, I f →
      take h (m.stamp channel.contentType) f = some (o, f') → I f' ∧ Q h o := by
    intro h hmem f o f' hf ht
    obtain ⟨o', f'', ht', hend⟩ := htake h hmem hf
    rw [ht] at ht'
    cases ht'
    exact hend
  cases hdispatch : dispatch take c m f with
  | some r =>
    obtain ⟨o, f'⟩ := r
    obtain ⟨tries, htries⟩ := dispatch_ends hc hne hdispatch
    have hmem : ∀ t ∈ tries, t.handler ∈ channel.subscribers := by
      intro t ht
      obtain ⟨j, hj⟩ := List.getElem?_of_mem ht
      apply List.mem_of_getElem? (htries.handler hj)
    refine ⟨o, f', tries, rfl, htries, ?_⟩
    apply htries.tried.keeps hemit _ hturn
    intro t ht _ _ _
    apply hkeeps t.handler (hmem t ht)
  | none =>
    exfalso
    rw [dispatch_of_subscribers hc hne] at hdispatch
    obtain ⟨tries, f', h, htried, hstuck⟩ := offer_sticks hdispatch
    have hmem : ∀ h' ∈ tries.map Try.handler ++ [h], h' ∈ channel.subscribers := by
      intro h' hh'
      apply channel.perm_offerOrder.mem_iff.mp (hstuck.handlers.subset hh')
    obtain ⟨hf', -⟩ : I f' ∧ ∀ t ∈ tries, Q t.handler t.taken := by
      apply htried.keeps hemit _ hturn
      intro t ht _ _ _
      apply hkeeps t.handler (hmem _ (List.mem_append_left _ (List.mem_map_of_mem ht)))
    obtain ⟨o, f'', hreturns, -⟩ := htake h (hmem h List.mem_concat_self) hf'
    rw [hstuck.stuck] at hreturns
    cases hreturns

end Keeps

/-! ## Handlers that keep to themselves -/

/-- Whether a handler keeps to itself: it does not send, subscribe or unsubscribe. -/
def Handler.isPassive : Handler → Bool
  | collecting _ => true
  | failing _ => true
  | forwarding _ => false
  | scripted _ actions _ => actions.isEmpty
  | reporting _ _ => true

/-- Whether the handler of a handle keeps to itself. -/
def Fabric.IsPassive (f : Fabric) (h : HandlerId) : Prop :=
  ∃ handler, f.handler? h = some handler ∧ handler.isPassive = true

/-- Whether a fabric is another after a handler that keeps to itself has taken a message. -/
structure Fabric.IsAfterPassive (f f' : Fabric) (h : HandlerId) : Prop where
  channels : f'.channels = f.channels
  taker : f'.IsPassive h
  others : ∀ {h'}, h' ≠ h → f'.handler? h' = f.handler? h'

theorem Fabric.isAfterPassive_setHandler {handler handler' : Handler}
    (hh : f.handler? h = some handler) (hpassive : handler'.isPassive = true) :
  f.IsAfterPassive (f.setHandler h handler') h
  := by
  constructor
  · rfl
  · use handler'
    rw [handler?_setHandler, if_pos rfl, hh]
    exact ⟨rfl, hpassive⟩
  · intro h' hne
    rw [handler?_setHandler, if_neg hne.symm]

/-- A handler that keeps to itself returns, and leaves the channels and other handlers alone. -/
theorem take_passive {send : ChannelId → Message → Work Outcome} (hpassive : f.IsPassive h)
    (m : Message) :
  ∃ verdict f', Handler.take send h m f = some (⟨[], verdict⟩, f') ∧ f.IsAfterPassive f' h
  := by
  obtain ⟨handler, hh, hpassive⟩ := hpassive
  rw [Handler.take, Work.get_bind, hh]
  cases handler with
  | collecting received =>
    have hafter : f.IsAfterPassive (f.setHandler h (.collecting (received ++ [m]))) h :=
      Fabric.isAfterPassive_setHandler hh rfl
    exact ⟨.ok (), _, rfl, hafter⟩
  | failing error =>
    refine ⟨.error error, f, rfl, rfl, ⟨.failing error, hh, rfl⟩, ?_⟩
    intro h' _
    rfl
  | forwarding target => cases hpassive
  | scripted outcomes actions received =>
    cases actions with
    | cons action rest => cases hpassive
    | nil =>
      have hafter : f.IsAfterPassive (f.setHandler h (.scripted outcomes [] (received ++ [m]))) h :=
        Fabric.isAfterPassive_setHandler hh rfl
      cases hn : outcomes[received.length]?.join with
      | none =>
        refine ⟨.ok (), _, ?_, hafter⟩
        dsimp only
        rw [hn]
        rfl
      | some e =>
        refine ⟨.error e, _, ?_, hafter⟩
        dsimp only
        rw [hn]
        rfl
  | reporting name received =>
    have hafter : f.IsAfterPassive (f.setHandler h (.reporting name (received + 1))) h :=
      Fabric.isAfterPassive_setHandler hh rfl
    exact ⟨.ok (), _, rfl, hafter.channels, hafter.taker, hafter.others⟩

end ChannelBinding
