import ChannelBinding.Fabric.Delivery
import ChannelBinding.Proofs.Lookup
import Mathlib.Tactic.Use

/-!
# Networks of channels

Handlers that forward make a network of the channels.  Where every handler forwards or has a fixed
verdict, and no chain of forwarding goes on without end, every send returns, and what dispatches pass
up from one channel to the next holds of it, as `send_settles_of` says.  In particular, by
`send_settles`, it is accepted if some chain leads to a handler that accepts, then along one chain
only, whose last call is the last call there is; and otherwise nobody accepts it.
-/

namespace ChannelBinding

/-! ## Manners -/

/-- What a handler does with every message, if it does the same with all of them. -/
inductive Manner where
  | answering (verdict : Verdict)
  | forwarding (target : ChannelId)

/-- The manner of a handler; a script has one if it does nothing and has no errors left to give. -/
def Handler.manner : Handler → Option Manner
  | collecting _ => some (.answering (.ok ()))
  | failing error => some (.answering (.error error))
  | forwarding target => some (.forwarding target)
  | scripted outcomes [] received =>
    if (outcomes.drop received.length).all Option.isNone then some (.answering (.ok ())) else none
  | scripted _ (_ :: _) _ => none
  | reporting _ _ => some (.answering (.ok ()))

namespace Fabric

/-- The manner of the handler of a handle. -/
def manner (f : Fabric) (h : HandlerId) : Option Manner := (f.handler? h).bind Handler.manner

/-- A message as a channel gives it to its subscribers. -/
def stamped (f : Fabric) (c : ChannelId) (m : Message) : Message :=
  m.stamp ((f.channel? c).bind Channel.contentType)

/-- Whether a fabric is like another but for the turns of channels and what handlers have kept. -/
structure Alike (f f' : Fabric) : Prop where
  channel : ∀ {c channel}, f.channel? c = some channel →
    ∃ turn, f'.channel? c = some { channel with turn }
  manner : ∀ {h manner}, f.manner h = some manner → f'.manner h = some manner

namespace Alike

variable {f f' : Fabric}

theorem refl (f : Fabric) :
  f.Alike f
  := by
  constructor
  · intro c channel hc
    use channel.turn
  · intro h manner hh
    apply hh

theorem emit (hf : f.Alike f') (e : Event) :
  f.Alike (f'.emit e)
  := ⟨hf.channel, hf.manner⟩

theorem setTurn (hf : f.Alike f') {c : ChannelId} {channel : Channel}
    (hc : f'.channel? c = some channel) (turn : UInt64) :
  f.Alike (f'.setChannel c { channel with turn })
  := by
  constructor
  · intro d original hd
    obtain ⟨turn', hd'⟩ := hf.channel hd
    rw [channel?_setChannel]
    split
    · rename_i hcd
      subst hcd
      rw [hc] at hd'
      cases hd'
      use turn
      rw [hc]
      rfl
    · use turn'
  · exact hf.manner

/-- A handler that is replaced by one of the same manner changes nothing of note. -/
theorem setHandler (hf : f.Alike f') {h : HandlerId} {handler handler' : Handler}
    (hh : f'.handler? h = some handler) (hsame : handler'.manner = handler.manner) :
  f.Alike (f'.setHandler h handler')
  := by
  constructor
  · exact hf.channel
  · intro h' manner hmanner
    have hmanner' := hf.manner hmanner
    rw [Fabric.manner, handler?_setHandler]
    split
    · rename_i heq
      subst heq
      rw [Fabric.manner, hh] at hmanner'
      rw [hh, ← hmanner']
      apply hsame
    · apply hmanner'

end Alike

end Fabric

/-! ## Work that settles -/

namespace Work

variable {f f' : Fabric} {α γ : Type} {Q : α → Prop}

/-- Whether some work returns from `f'` with what satisfies `Q`, and with a fabric like `f`. -/
def SettlesFrom (f f' : Fabric) (Q : α → Prop) (work : Work α) : Prop :=
  ∃ a f'', work f' = some (a, f'') ∧ f.Alike f'' ∧ Q a

/-- Whether some work returns from every fabric like `f` with what satisfies `Q`, and with a fabric
like `f` again. -/
def Settles (f : Fabric) (Q : α → Prop) (work : Work α) : Prop :=
  ∀ f', f.Alike f' → work.SettlesFrom f f' Q

theorem settles_pure {a : α} (hf : f.Alike f') (ha : Q a) :
  SettlesFrom f f' Q (pure a)
  := ⟨a, f', rfl, hf, ha⟩

theorem SettlesFrom.bind {work : Work α} {next : α → Work γ} {R : γ → Prop}
    (hwork : work.SettlesFrom f f' Q) (hnext : ∀ a, Q a → (next a).Settles f R) :
  SettlesFrom f f' R (work >>= next)
  := by
  obtain ⟨a, f₁, hrun, hlike, ha⟩ := hwork
  obtain ⟨b, f₂, hrun', hlike', hb⟩ := hnext a ha f₁ hlike
  refine ⟨b, f₂, ?_, hlike', hb⟩
  change (work f').bind (fun p => next p.1 p.2) = some (b, f₂)
  rw [hrun]
  apply hrun'

theorem settles_get_bind {next : Fabric → Work α} (h : (next f').SettlesFrom f f' Q) :
  SettlesFrom f f' Q (get >>= next)
  := h

theorem settles_set_bind {f₁ : Fabric} {next : PUnit → Work α}
    (h : (next ⟨⟩).SettlesFrom f f₁ Q) :
  SettlesFrom f f' Q (set f₁ >>= next)
  := h

theorem settles_modify_bind {change : Fabric → Fabric} {next : PUnit → Work α}
    (h : (next ⟨⟩).SettlesFrom f (change f') Q) :
  SettlesFrom f f' Q (modify change >>= next)
  := h

theorem Settles.mono {work : Work α} {R : α → Prop} (hwork : work.Settles f Q)
    (h : ∀ a, Q a → R a) :
  work.Settles f R
  := by
  intro f' hf
  obtain ⟨a, f'', hrun, hlike, ha⟩ := hwork f' hf
  exact ⟨a, f'', hrun, hlike, h a ha⟩

/-- What some work returns satisfies all that it settles on. -/
theorem Settles.and {work : Work α} {R : α → Prop} (hQ : work.Settles f Q) (hR : work.Settles f R) :
  work.Settles f fun a => Q a ∧ R a
  := by
  intro f' hf
  obtain ⟨a, f₁, hrun, hlike, hQa⟩ := hQ f' hf
  obtain ⟨b, f₂, hrun', -, hRb⟩ := hR f' hf
  rw [hrun] at hrun'
  cases hrun'
  exact ⟨a, f₁, hrun, hlike, hQa, hRb⟩

end Work

/-! ## Outcomes -/

/-- A call seen from a channel further up. -/
def HandlerCall.through (call : HandlerCall) (c : ChannelId) : HandlerCall :=
  { call with path := c :: call.path }

/-- The calls that ended well. -/
def Outcome.accepted (o : Outcome) : List HandlerCall :=
  o.calls.filter fun call => call.verdict.isOk

/-- Whether an outcome makes no calls but the given ones, and was accepted along one of the given
chains of calls, whose last call is the last one; if it was not accepted, there is no such chain. -/
structure Outcome.Suits (o : Outcome) (calls : HandlerCall → Prop)
    (chains : List HandlerCall → Prop) : Prop where
  calls : ∀ call ∈ o.calls, calls call
  accepted : o.verdict = .ok () → chains o.accepted ∧ o.accepted.getLast? = o.calls.getLast?
  rejected : ∀ {e}, o.verdict = .error e → o.accepted = [] ∧ ∀ chain, ¬ chains chain

namespace Outcome

variable {o taken later : Outcome} {c : ChannelId} {h : HandlerId} {m : Message}
  {calls calls' : HandlerCall → Prop} {chains chains' : List HandlerCall → Prop}

theorem Suits.congr (ho : o.Suits calls chains) (hcalls : ∀ call, calls call → calls' call)
    (hchains : ∀ chain, chains chain ↔ chains' chain) :
  o.Suits calls' chains'
  := by
  constructor
  · intro call hcall
    apply hcalls call (ho.calls call hcall)
  · intro hok
    obtain ⟨hchain, hlast⟩ := ho.accepted hok
    exact ⟨(hchains _).mp hchain, hlast⟩
  · intro e he
    obtain ⟨hnone, hnot⟩ := ho.rejected he
    use hnone
    intro chain hchain
    apply hnot chain
    apply (hchains chain).mpr hchain

theorem accepted_through (o : Outcome) (c : ChannelId) :
  (o.through c).accepted = o.accepted.map fun call => call.through c
  := by
  simp only [accepted, through, List.filter_map]
  rfl

/-- What an outcome comes to whose first call accepts. -/
theorem accepted_of_first (htaken : taken.verdict = .ok ()) :
  accepted ⟨⟨[c], h, m, taken.verdict⟩ :: (taken.through c).calls, .ok ()⟩
    = ⟨[c], h, m, .ok ()⟩ :: taken.accepted.map fun call => call.through c
  := by
  rw [← accepted_through]
  simp [accepted, htaken, Except.toBool]

/-- What an outcome comes to whose first call fails. -/
theorem accepted_of_next {e : DeliveryError} (htaken : taken.verdict = .error e)
    (hnone : taken.accepted = []) :
  accepted ⟨⟨[c], h, m, taken.verdict⟩ :: (taken.through c).calls ++ later.calls, later.verdict⟩
    = later.accepted
  := by
  have hthrough : (taken.through c).accepted = [] := by
    rw [accepted_through, hnone]
    rfl
  simp only [accepted] at hthrough ⊢
  simp [htaken, hthrough, Except.toBool]

end Outcome

/-! ## Offers -/

section Offers

variable {c : ChannelId} {m : Message} {calls : HandlerId → HandlerCall → Prop}
  {chains : HandlerId → List HandlerCall → Prop} {h : HandlerId} {hs : List HandlerId}

/-- The calls that an offer to some handlers comes to: those of the handlers, and those that they make
in turn. -/
def OfferedCalls (c : ChannelId) (m : Message) (calls : HandlerId → HandlerCall → Prop)
    (hs : List HandlerId) (call : HandlerCall) : Prop :=
  ∃ h ∈ hs, (∃ verdict, call = ⟨[c], h, m, verdict⟩) ∨ ∃ inner, calls h inner ∧ call = inner.through c

/-- The chains of calls along which an offer to some handlers may be accepted. -/
def OfferedChains (c : ChannelId) (m : Message) (chains : HandlerId → List HandlerCall → Prop)
    (hs : List HandlerId) (chain : List HandlerCall) : Prop :=
  ∃ h ∈ hs, ∃ inner, chains h inner
    ∧ chain = ⟨[c], h, m, .ok ()⟩ :: inner.map fun call => call.through c

theorem OfferedCalls.mono {hs' : List HandlerId} (hsub : hs ⊆ hs') {call : HandlerCall}
    (hcall : OfferedCalls c m calls hs call) :
  OfferedCalls c m calls hs' call
  := by
  obtain ⟨h, hmem, hcall⟩ := hcall
  exact ⟨h, hsub hmem, hcall⟩

theorem OfferedChains.mono {hs' : List HandlerId} (hsub : hs ⊆ hs') {chain : List HandlerCall}
    (hchain : OfferedChains c m chains hs chain) :
  OfferedChains c m chains hs' chain
  := by
  obtain ⟨h, hmem, hchain⟩ := hchain
  exact ⟨h, hsub hmem, hchain⟩

/-- The call of the first handler, and those that it makes, are calls of the offer. -/
theorem offeredCalls_of_mem {taken : Outcome} (htaken : ∀ call ∈ taken.calls, calls h call)
    {call : HandlerCall}
    (hcall : call ∈ (⟨[c], h, m, taken.verdict⟩ : HandlerCall) :: (taken.through c).calls) :
  OfferedCalls c m calls (h :: hs) call
  := by
  use h, List.mem_cons_self
  rcases List.mem_cons.mp hcall with rfl | hcall
  · exact Or.inl ⟨taken.verdict, rfl⟩
  · obtain ⟨inner, hinner, rfl⟩ := List.mem_map.mp hcall
    exact Or.inr ⟨inner, htaken inner hinner, rfl⟩

namespace Outcome

/-- An offer to nobody is not accepted. -/
theorem suits_nobody (e : DeliveryError) :
  Suits ⟨[], .error e⟩ (OfferedCalls c m calls []) (OfferedChains c m chains [])
  := by
  constructor
  · intro call hcall
    cases hcall
  · intro hok
    cases hok
  · intro e' _
    use rfl
    rintro chain ⟨h, hmem, -⟩
    cases hmem

/-- An offer that the first handler accepts is accepted along its chain. -/
theorem Suits.first {taken : Outcome} (htaken : taken.Suits (calls h) (chains h))
    (hok : taken.verdict = .ok ()) :
  Suits ⟨⟨[c], h, m, taken.verdict⟩ :: (taken.through c).calls, .ok ()⟩
    (OfferedCalls c m calls (h :: hs)) (OfferedChains c m chains (h :: hs))
  := by
  obtain ⟨hchain, hlast⟩ := htaken.accepted hok
  constructor
  · intro call hcall
    apply offeredCalls_of_mem htaken.calls hcall
  · intro _
    rw [accepted_of_first hok]
    constructor
    · exact ⟨h, List.mem_cons_self, taken.accepted, hchain, rfl⟩
    · simp only [through, List.getLast?_cons, List.getLast?_map, hlast]
      cases taken.calls.getLast? with
      | none => simp [hok]
      | some call => rfl
  · intro e he
    cases he

/-- An offer that the first handler does not accept comes to what the offer to the others does. -/
theorem Suits.next {taken later : Outcome} {e : DeliveryError}
    (htaken : taken.Suits (calls h) (chains h)) (he : taken.verdict = .error e)
    (hlater : later.Suits (OfferedCalls c m calls hs) (OfferedChains c m chains hs)) :
  Suits ⟨⟨[c], h, m, taken.verdict⟩ :: (taken.through c).calls ++ later.calls, later.verdict⟩
    (OfferedCalls c m calls (h :: hs)) (OfferedChains c m chains (h :: hs))
  := by
  obtain ⟨hnone, hnot⟩ := htaken.rejected he
  constructor
  · intro call hcall
    rcases List.mem_append.mp hcall with hcall | hcall
    · apply offeredCalls_of_mem htaken.calls hcall
    · apply (hlater.calls call hcall).mono (List.subset_cons_self h hs)
  · intro hok
    obtain ⟨hchain, hlast⟩ := hlater.accepted hok
    rw [accepted_of_next he hnone]
    constructor
    · apply hchain.mono (List.subset_cons_self h hs)
    · obtain ⟨h', -, inner, -, hinner⟩ := hchain
      rw [List.getLast?_append, ← hlast, hinner, List.getLast?_cons]
      rfl
  · intro e' he'
    obtain ⟨hnone', hnot'⟩ := hlater.rejected he'
    constructor
    · rw [accepted_of_next he hnone]
      apply hnone'
    · rintro chain ⟨h', hmem, inner, hinner, hchain⟩
      rcases List.mem_cons.mp hmem with rfl | hmem
      · apply hnot inner hinner
      · apply hnot' chain
        exact ⟨h', hmem, inner, hinner, hchain⟩

end Outcome

/-- What offering a message to handlers in turn comes to, given what each of them may make of it. -/
inductive Offered (c : ChannelId) (m : Message) (takes : HandlerId → Outcome → Prop) :
    List HandlerId → DeliveryError → Outcome → Prop where
  | nobody (last : DeliveryError) : Offered c m takes [] last ⟨[], .error last⟩
  | accepted {h : HandlerId} {hs : List HandlerId} {last : DeliveryError} {taken : Outcome}
      (htaken : takes h taken) (hok : taken.verdict = .ok ()) :
    Offered c m takes (h :: hs) last ⟨⟨[c], h, m, taken.verdict⟩ :: (taken.through c).calls, .ok ()⟩
  | passed {h : HandlerId} {hs : List HandlerId} {last e : DeliveryError} {taken later : Outcome}
      (htaken : takes h taken) (he : taken.verdict = .error e)
      (hlater : Offered c m takes hs e later) :
    Offered c m takes (h :: hs) last
      ⟨⟨[c], h, m, taken.verdict⟩ :: (taken.through c).calls ++ later.calls, later.verdict⟩

/-- An offer to handlers in turn comes to what it should if each of them does. -/
theorem offer_settles {take : Taking} {f : Fabric} {takes : HandlerId → Outcome → Prop}
    (htake : ∀ h ∈ hs, (take h m).Settles f (takes h)) (last : DeliveryError) :
  (offer take c m hs last).Settles f (Offered c m takes hs last)
  := by
  induction hs generalizing last with
  | nil =>
    intro f' hf
    apply Work.settles_pure hf
    apply Offered.nobody
  | cons h rest ih =>
    have hrest := ih fun h' hh' => htake h' (List.mem_cons_of_mem h hh')
    intro f' hf
    apply (htake h List.mem_cons_self f' hf).bind
    intro taken htaken f₁ hf₁
    dsimp only
    split
    · rename_i hok
      apply Work.settles_pure hf₁
      apply Offered.accepted htaken hok
    · rename_i e he
      apply Work.settles_modify_bind
      apply (hrest e _ (hf₁.emit _)).bind
      intro later hlater f₂ hf₂
      apply Work.settles_pure hf₂
      apply Offered.passed htaken he hlater

/-- An offer to handlers in turn is accepted along a chain of the first of them that accepts. -/
theorem Offered.suits {takes : HandlerId → Outcome → Prop} {last : DeliveryError} {o : Outcome}
    (ho : Offered c m takes hs last o) (htakes : ∀ h o, takes h o → o.Suits (calls h) (chains h)) :
  o.Suits (OfferedCalls c m calls hs) (OfferedChains c m chains hs)
  := by
  induction ho with
  | nobody last => apply Outcome.suits_nobody
  | accepted htaken hok => apply (htakes _ _ htaken).first hok
  | passed htaken he hlater ih => apply (htakes _ _ htaken).next he ih

end Offers

/-! ## Sends -/

/-- To take turns is not to leave anybody out. -/
theorem Channel.perm_offerOrder (channel : Channel) :
  channel.offerOrder.Perm channel.subscribers
  := by
  simp only [offerOrder, List.rotateLeft]
  split
  · apply List.Perm.refl
  · apply List.perm_append_comm.trans
    rw [List.take_append_drop]

namespace Fabric

/-- The handler calls that a send may come to in a network of channels. -/
inductive Calls (f : Fabric) : ChannelId → Message → HandlerCall → Prop where
  | own {c : ChannelId} {m : Message} {h : HandlerId} {verdict : Verdict}
      (hh : h ∈ f.subscribers c) :
    Calls f c m ⟨[c], h, f.stamped c m, verdict⟩
  | onward {c t : ChannelId} {m : Message} {h : HandlerId} {call : HandlerCall}
      (hh : h ∈ f.subscribers c) (ht : f.manner h = some (.forwarding t))
      (hcall : Calls f t (f.stamped c m) call) :
    Calls f c m (call.through c)

/-- The chains of calls along which a send may be accepted in a network of channels. -/
inductive Chains (f : Fabric) : ChannelId → Message → List HandlerCall → Prop where
  | own {c : ChannelId} {m : Message} {h : HandlerId}
      (hh : h ∈ f.subscribers c) (hok : f.manner h = some (.answering (.ok ()))) :
    Chains f c m [⟨[c], h, f.stamped c m, .ok ()⟩]
  | onward {c t : ChannelId} {m : Message} {h : HandlerId} {chain : List HandlerCall}
      (hh : h ∈ f.subscribers c) (ht : f.manner h = some (.forwarding t))
      (hchain : Chains f t (f.stamped c m) chain) :
    Chains f c m (⟨[c], h, f.stamped c m, .ok ()⟩ :: chain.map fun call => call.through c)

/-- Whether no chain of forwarding from a channel is as long as the given number, and whoever does
not forward has a fixed verdict. -/
def Clear (f : Fabric) : Nat → ChannelId → Prop
  | 0, _ => False
  | n + 1, c => c.index < f.channels.size ∧ ∀ h ∈ f.subscribers c,
    (∃ verdict, f.manner h = some (.answering verdict))
      ∨ ∃ t, f.manner h = some (.forwarding t) ∧ f.Clear n t

/-- A script that has no errors left to give gives none. -/
theorem join_getElem?_of_drop {outcomes : List (Option DeliveryError)} {n : Nat}
    (h : (outcomes.drop n).all Option.isNone = true) :
  outcomes[n]?.join = none
  := by
  cases hn : outcomes[n]? with
  | none => rfl
  | some outcome =>
    have hmem : outcome ∈ outcomes.drop n := by
      apply List.mem_of_getElem? (i := 0)
      rw [List.getElem?_drop, Nat.add_zero, hn]
    simpa using List.all_eq_true.mp h outcome hmem

/-- A script that has no errors left to give has none after one more message. -/
theorem manner_scripted_append {outcomes : List (Option DeliveryError)} {received : List Message}
    {manner : Manner} (h : (Handler.scripted outcomes [] received).manner = some manner)
    (m : Message) :
  (Handler.scripted outcomes [] (received ++ [m])).manner = some manner
  := by
  simp only [Handler.manner, Option.ite_none_right_eq_some] at h ⊢
  obtain ⟨hnone, hmanner⟩ := h
  refine ⟨?_, hmanner⟩
  rw [List.length_append, List.length_singleton, List.all_eq_true]
  intro outcome hmem
  rw [← List.drop_drop] at hmem
  apply List.all_eq_true.mp hnone outcome (List.mem_of_mem_drop hmem)

/-- A handler of a fixed verdict gives it. -/
theorem take_answering {f : Fabric} {send : ChannelId → Message → Work Outcome} {h : HandlerId}
    {m : Message} {verdict : Verdict} (hmanner : f.manner h = some (.answering verdict)) :
  (Handler.take send h m).Settles f fun o => o = ⟨[], verdict⟩
  := by
  intro f' hf
  obtain ⟨handler, hh, hverdict⟩ := Option.bind_eq_some_iff.mp (hf.manner hmanner)
  apply Work.settles_get_bind
  rw [hh]
  cases handler with
  | collecting received =>
    cases hverdict
    apply Work.settles_set_bind
    have hf' : f.Alike (f'.setHandler h (.collecting (received ++ [m]))) := hf.setHandler hh rfl
    apply Work.settles_pure hf'
    rfl
  | failing error =>
    cases hverdict
    apply Work.settles_pure hf
    rfl
  | forwarding target => cases hverdict
  | scripted outcomes actions received =>
    cases actions with
    | cons action rest => cases hverdict
    | nil =>
      have hafter := manner_scripted_append hverdict m
      simp only [Handler.manner, Option.ite_none_right_eq_some] at hverdict
      obtain ⟨hnone, hverdict⟩ := hverdict
      cases hverdict
      apply Work.settles_set_bind
      have hf' : f.Alike (f'.setHandler h (.scripted outcomes [] (received ++ [m]))) := by
        apply hf.setHandler hh
        rw [hafter, Handler.manner, if_pos hnone]
      have hacted : (Handler.act send m []).SettlesFrom f
          (f'.setHandler h (.scripted outcomes [] (received ++ [m]))) fun o => o = ⟨[], .ok ()⟩ :=
        Work.settles_pure hf' rfl
      apply hacted.bind
      rintro acted rfl f₁ hf₁
      dsimp only
      rw [join_getElem?_of_drop hnone]
      apply Work.settles_pure hf₁
      rfl
  | reporting name received =>
    cases hverdict
    apply Work.settles_set_bind
    have hf' : f.Alike (f'.setHandler h (.reporting name (received + 1))) := hf.setHandler hh rfl
    apply Work.settles_pure (hf'.emit _)
    rfl

/-- A handler that forwards makes of a message what a send on its target does. -/
theorem take_forwarding {f : Fabric} {send : ChannelId → Message → Work Outcome} {h : HandlerId}
    {m : Message} {t : ChannelId} {Q : Outcome → Prop}
    (hmanner : f.manner h = some (.forwarding t)) (hsend : (send t m).Settles f Q) :
  (Handler.take send h m).Settles f Q
  := by
  intro f' hf
  obtain ⟨handler, hh, ht⟩ := Option.bind_eq_some_iff.mp (hf.manner hmanner)
  apply Work.settles_get_bind
  rw [hh]
  cases handler with
  | collecting received => cases ht
  | failing error => cases ht
  | forwarding target =>
    cases ht
    apply hsend f' hf
  | scripted outcomes actions received =>
    cases actions with
    | nil => simp [Handler.manner] at ht
    | cons action rest => cases ht
  | reporting name received => cases ht

/-- The calls that a handler makes in a network of channels when it takes a message. -/
def OnwardCalls (f : Fabric) (m : Message) (h : HandlerId) (call : HandlerCall) : Prop :=
  ∃ t, f.manner h = some (.forwarding t) ∧ f.Calls t m call

/-- The chains of calls along which a handler may accept a message in a network of channels. -/
def OnwardChains (f : Fabric) (m : Message) (h : HandlerId) (chain : List HandlerCall) : Prop :=
  (f.manner h = some (.answering (.ok ())) ∧ chain = [])
    ∨ ∃ t, f.manner h = some (.forwarding t) ∧ f.Chains t m chain

/-- The calls of a send are those of an offer to the subscribers. -/
theorem calls_of_offered {f : Fabric} {c : ChannelId} {m : Message} {call : HandlerCall}
    (h : OfferedCalls c (f.stamped c m) (f.OnwardCalls (f.stamped c m)) (f.subscribers c) call) :
  f.Calls c m call
  := by
  obtain ⟨h', hmem, ⟨verdict, rfl⟩ | ⟨inner, ⟨t, ht, hinner⟩, rfl⟩⟩ := h
  · apply Calls.own hmem
  · apply Calls.onward hmem ht hinner

/-- The chains of a send are those of an offer to the subscribers. -/
theorem offeredChains_iff (f : Fabric) (c : ChannelId) (m : Message) (chain : List HandlerCall) :
  OfferedChains c (f.stamped c m) (f.OnwardChains (f.stamped c m)) (f.subscribers c) chain
    ↔ f.Chains c m chain
  := by
  constructor
  · rintro ⟨h, hmem, inner, ⟨hok, rfl⟩ | ⟨t, ht, hinner⟩, rfl⟩
    · apply Chains.own hmem hok
    · apply Chains.onward hmem ht hinner
  · intro hchain
    cases hchain with
    | own hmem hok => exact ⟨_, hmem, [], Or.inl ⟨hok, rfl⟩, rfl⟩
    | onward hmem ht hinner => exact ⟨_, hmem, _, Or.inr ⟨_, ht, hinner⟩, rfl⟩

/-- What a handler of a network makes of a message, given what sends on the targets may come to. -/
def Taken (f : Fabric) (sent : ChannelId → Outcome → Prop) (h : HandlerId) (o : Outcome) : Prop :=
  (∃ verdict, f.manner h = some (.answering verdict) ∧ o = ⟨[], verdict⟩)
    ∨ ∃ t, f.manner h = some (.forwarding t) ∧ sent t o

/-- What a handler of a network may make of a message is what it makes of it. -/
theorem take_settles {f : Fabric} {send : ChannelId → Message → Work Outcome} {h : HandlerId}
    {m : Message} {sent : ChannelId → Outcome → Prop}
    (hmanner : (∃ verdict, f.manner h = some (.answering verdict))
      ∨ ∃ t, f.manner h = some (.forwarding t) ∧ (send t m).Settles f (sent t)) :
  (Handler.take send h m).Settles f (f.Taken sent h)
  := by
  rcases hmanner with ⟨verdict, hverdict⟩ | ⟨t, ht, hsend⟩
  · apply (take_answering hverdict).mono
    rintro o rfl
    exact Or.inl ⟨verdict, hverdict, rfl⟩
  · apply (take_forwarding ht hsend).mono
    intro o ho
    exact Or.inr ⟨t, ht, ho⟩

/-- What a handler makes of a message suits the handler if what sends on the targets come to does. -/
theorem Taken.suits {f : Fabric} {m : Message} {sent : ChannelId → Outcome → Prop} {h : HandlerId}
    {o : Outcome} (ho : f.Taken sent h o)
    (hsent : ∀ t o, sent t o → o.Suits (f.Calls t m) (f.Chains t m)) :
  o.Suits (f.OnwardCalls m h) (f.OnwardChains m h)
  := by
  rcases ho with ⟨verdict, hverdict, rfl⟩ | ⟨t, ht, hsent'⟩
  · constructor
    · intro call hcall
      cases hcall
    · rintro rfl
      exact ⟨Or.inl ⟨hverdict, rfl⟩, rfl⟩
    · rintro e rfl
      use rfl
      rintro chain (⟨hok, -⟩ | ⟨t, ht, -⟩)
      · rw [hverdict] at hok
        cases hok
      · rw [hverdict] at ht
        cases ht
  · apply (hsent t o hsent').congr
    · intro call hcall
      exact ⟨t, ht, hcall⟩
    · intro chain
      constructor
      · intro hchain
        exact Or.inr ⟨t, ht, hchain⟩
      · rintro (⟨hok, -⟩ | ⟨t', ht', hchain⟩)
        · rw [ht] at hok
          cases hok
        · rw [ht] at ht'
          cases ht'
          apply hchain

/-- What a dispatch on a channel comes to, given what each handler may make of the message. -/
inductive Dispatched (f : Fabric) (c : ChannelId) (m : Message) (takes : HandlerId → Outcome → Prop) :
    Outcome → Prop where
  | unheard (hempty : f.subscribers c = []) :
    Dispatched f c m takes ⟨[], .error (.noSubscribers (f.channelName c))⟩
  | offered {order : List HandlerId} {o : Outcome} (hne : order ≠ [])
      (horder : order.Perm (f.subscribers c))
      (hoffered : Offered c (f.stamped c m) takes order (.noSubscribers (f.channelName c)) o) :
    Dispatched f c m takes o

/-- A dispatch comes to what it should if each of the subscribers does. -/
theorem dispatch_settles {f : Fabric} {take : Taking} {c : ChannelId} {m : Message}
    {takes : HandlerId → Outcome → Prop} (hc : c.index < f.channels.size)
    (htake : ∀ h ∈ f.subscribers c, (take h (f.stamped c m)).Settles f (takes h)) :
  (dispatch take c m).Settles f (f.Dispatched c m takes)
  := by
  intro f' hf
  have hchannel : f.channel? c = some f.channels[c.index] := Array.getElem?_eq_getElem hc
  generalize f.channels[c.index] = channel at hchannel
  obtain ⟨turn, hchannel'⟩ := hf.channel hchannel
  have hsubscribers : f.subscribers c = channel.subscribers := by
    rw [subscribers, hchannel]
    rfl
  have hstamped : f.stamped c m = m.stamp channel.contentType := by
    rw [stamped, hchannel]
    rfl
  have hname : f.channelName c = channel.name := by
    rw [channelName, hchannel]
    rfl
  apply Work.settles_get_bind
  rw [hchannel']
  dsimp only
  split
  · rename_i hempty
    apply Work.settles_set_bind
    apply Work.settles_pure (hf.emit _)
    rw [← hname]
    apply Dispatched.unheard
    rw [hsubscribers]
    apply List.isEmpty_iff.mp hempty
  · rename_i hne
    apply Work.settles_set_bind
    -- whose turn it is decides on the order of the offer only
    have horder : (Channel.offerOrder { channel with turn }).Perm (f.subscribers c) := by
      rw [hsubscribers]
      apply Channel.perm_offerOrder
    rw [← hstamped]
    apply Work.Settles.mono (offer_settles (fun h hmem => htake h (horder.mem_iff.mp hmem)) _) _ _
      (hf.setTurn hchannel' (turn + 1))
    intro o ho
    rw [← hname] at ho
    apply Dispatched.offered _ horder ho
    intro hnil
    rw [hnil, hsubscribers] at horder
    apply hne
    rw [List.isEmpty_iff, horder.nil_eq]

/-- What a dispatch comes to suits the channel if what sends on the targets come to does. -/
theorem Dispatched.suits {f : Fabric} {c : ChannelId} {m : Message} {o : Outcome}
    {sent : ChannelId → Outcome → Prop} (ho : f.Dispatched c m (f.Taken sent) o)
    (hsent : ∀ t o, sent t o → o.Suits (f.Calls t (f.stamped c m)) (f.Chains t (f.stamped c m))) :
  o.Suits (f.Calls c m) (f.Chains c m)
  := by
  have hoffered : o.Suits
      (OfferedCalls c (f.stamped c m) (f.OnwardCalls (f.stamped c m)) (f.subscribers c))
      (OfferedChains c (f.stamped c m) (f.OnwardChains (f.stamped c m)) (f.subscribers c)) := by
    cases ho with
    | unheard hempty =>
      rw [hempty]
      apply Outcome.suits_nobody
    | offered hne horder hoffered =>
      apply (hoffered.suits fun h o ho => ho.suits hsent).congr
      · intro call hcall
        apply hcall.mono fun h => horder.mem_iff.mp
      · intro chain
        constructor
        · intro hchain
          apply hchain.mono fun h => horder.mem_iff.mp
        · intro hchain
          apply hchain.mono fun h => horder.mem_iff.mpr
  apply hoffered.congr
  · intro call hcall
    apply calls_of_offered hcall
  · apply offeredChains_iff

/-- A send in a network of channels returns, and comes to what every dispatch passes up. -/
theorem send_settles_of {f : Fabric} (sent : ChannelId → Message → Outcome → Prop)
    (hsent : ∀ c m o, f.Dispatched c m (f.Taken fun t => sent t (f.stamped c m)) o → sent c m o)
    {n depth : Nat} {c : ChannelId} (hclear : f.Clear n c) (hdepth : n ≤ depth) (m : Message) :
  (send depth c m).Settles f (sent c m)
  := by
  induction n generalizing c m depth with
  | zero => cases hclear
  | succ n ih =>
    cases depth with
    | zero => cases hdepth
    | succ depth =>
      obtain ⟨hc, hsubscribers⟩ := hclear
      apply (dispatch_settles hc _).mono (hsent c m)
      intro h hmem
      apply take_settles
      rcases hsubscribers h hmem with hverdict | ⟨t, ht, hnext⟩
      · apply Or.inl hverdict
      · exact Or.inr ⟨t, ht, ih hnext (Nat.le_of_succ_le_succ hdepth) _⟩

/-- What a send comes to in a network of channels. -/
theorem send_settles {f : Fabric} {n depth : Nat} {c : ChannelId} (hclear : f.Clear n c)
    (hdepth : n ≤ depth) (m : Message) :
  (send depth c m).Settles f fun o => o.Suits (f.Calls c m) (f.Chains c m)
  := by
  apply send_settles_of (fun c m o => o.Suits (f.Calls c m) (f.Chains c m)) _ hclear hdepth
  intro c m o ho
  apply ho.suits fun t o ho => ho

end Fabric

end ChannelBinding
