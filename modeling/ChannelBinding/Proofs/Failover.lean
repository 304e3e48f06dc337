import ChannelBinding.Proofs.Network
import Mathlib.Data.List.Nodup
import Mathlib.Data.List.Perm.Subperm
import Mathlib.Logic.Relation

/-!
# Failover in acyclic networks

Where nobody who forwards a message can see it come back, every send returns.  It is accepted exactly
if an accepting handler can be reached, and then by one such handler, the last one that is called; and
if it is not accepted, everybody who can be reached was called, and the error is that of the handler
that was tried last.
-/

namespace ChannelBinding

/-! ## Calls of an offer -/

namespace Outcome

/-- The calls that come of an offer to one handler: its own, and those that it leads to. -/
def callsOf (taken : Outcome) (c : ChannelId) (h : HandlerId) (m : Message) : List HandlerCall :=
  ⟨[c], h, m, taken.verdict⟩ :: (taken.through c).calls

variable {taken : Outcome} {c : ChannelId} {h : HandlerId} {m : Message} {call : HandlerCall}

theorem mem_callsOf :
  call ∈ taken.callsOf c h m
    ↔ call = ⟨[c], h, m, taken.verdict⟩ ∨ ∃ inner ∈ taken.calls, inner.through c = call
  := by
  rw [callsOf, List.mem_cons]
  apply or_congr_right
  apply List.mem_map

theorem path_of_mem_callsOf (hcall : call ∈ taken.callsOf c h m) :
  call.path ≠ []
  := by
  rcases mem_callsOf.mp hcall with rfl | ⟨inner, -, rfl⟩
  · apply List.cons_ne_nil
  · apply List.cons_ne_nil

theorem mem_accepted (o : Outcome) :
  call ∈ o.accepted ↔ call ∈ o.calls ∧ call.verdict = .ok ()
  := by
  rw [accepted, List.mem_filter]
  apply and_congr_right
  intro _
  cases call.verdict with
  | ok => exact ⟨fun _ => rfl, fun _ => rfl⟩
  | error e =>
    constructor
    · intro hok
      cases hok
    · intro hok
      cases hok

end Outcome

/-! ## Acyclic networks -/

namespace Fabric

variable {f : Fabric} {network : ChannelId → Prop} {c t : ChannelId} {h : HandlerId}

/-- Whether a subscriber of a channel forwards to another one. -/
def Forwards (f : Fabric) (c t : ChannelId) : Prop :=
  ∃ h ∈ f.subscribers c, f.manner h = some (.forwarding t)

/-- Whether some channels are a network of their own: whoever subscribes to one of them has a fixed
verdict or forwards to one of them, and nothing that is forwarded comes back. -/
structure IsNetwork (f : Fabric) (network : ChannelId → Prop) : Prop where
  lt_size : ∀ {c}, network c → c.index < f.channels.size
  manner : ∀ {c h}, network c → h ∈ f.subscribers c →
    (∃ verdict, f.manner h = some (.answering verdict))
      ∨ ∃ t, network t ∧ f.manner h = some (.forwarding t)
  acyclic : ∀ {c}, network c → ¬ Relation.TransGen f.Forwards c c

/-- Whether nothing that is forwarded from one of some channels comes back to it. -/
structure IsAcyclic (f : Fabric) (network : ChannelId → Prop) : Prop where
  lt_size : ∀ {c}, network c → c.index < f.channels.size
  acyclic : ∀ {c}, network c → ¬ Relation.TransGen f.Forwards c c

theorem IsNetwork.isAcyclic (hf : f.IsNetwork network) :
  f.IsAcyclic network
  := ⟨hf.lt_size, hf.acyclic⟩

/-- Where whatever is forwarded goes down, it goes down all the way. -/
theorem lt_of_leads (hdown : ∀ {c t}, f.Forwards c t → c.index < t.index)
    (ht : Relation.TransGen f.Forwards c t) :
  c.index < t.index
  := by
  induction ht with
  | single ht => apply hdown ht
  | tail _ ht ih => apply Nat.lt_trans ih (hdown ht)

/-- A trail of channels that messages were forwarded along on their way to a channel. -/
structure IsTrail (f : Fabric) (network : ChannelId → Prop) (c : ChannelId)
    (trail : List ChannelId) : Prop where
  nodup : trail.Nodup
  mem : ∀ d ∈ trail, network d
  leads : ∀ d ∈ trail, Relation.TransGen f.Forwards d c

theorem isTrail_nil (f : Fabric) (network : ChannelId → Prop) (c : ChannelId) :
  f.IsTrail network c []
  := by
  constructor
  · apply List.nodup_nil
  · rintro d ⟨⟩
  · rintro d ⟨⟩

/-- A trail does not come back to where it was. -/
theorem IsTrail.nodup_cons {trail : List ChannelId} (htrail : f.IsTrail network c trail)
    (hf : f.IsAcyclic network) (hc : network c) :
  (c :: trail).Nodup
  := by
  apply List.nodup_cons.mpr
  constructor
  · intro hin
    apply hf.acyclic hc (htrail.leads c hin)
  · exact htrail.nodup

/-- A trail goes on to whatever channel is forwarded to. -/
theorem IsTrail.cons {trail : List ChannelId} (htrail : f.IsTrail network c trail)
    (hf : f.IsAcyclic network) (hc : network c) (ht : f.Forwards c t) :
  f.IsTrail network t (c :: trail)
  := by
  constructor
  · apply htrail.nodup_cons hf hc
  · rintro d (_ | ⟨_, hd⟩)
    · exact hc
    · apply htrail.mem d hd
  · rintro d (_ | ⟨_, hd⟩)
    · apply Relation.TransGen.single ht
    · apply (htrail.leads d hd).tail ht

/-- There are fewer channels on a trail to a channel than there are channels. -/
theorem IsTrail.length_lt {trail : List ChannelId} (htrail : f.IsTrail network c trail)
    (hf : f.IsAcyclic network) (hc : network c) :
  trail.length < f.channels.size
  := by
  have hnodup : ((c :: trail).map ChannelId.index).Nodup := by
    apply List.Nodup.map _ (htrail.nodup_cons hf hc)
    rintro ⟨i⟩ ⟨j⟩ rfl
    rfl
  have hsub : (c :: trail).map ChannelId.index ⊆ List.range f.channels.size := by
    intro i hi
    obtain ⟨d, hd, rfl⟩ := List.mem_map.mp hi
    apply List.mem_range.mpr
    rcases List.mem_cons.mp hd with rfl | hd
    · apply hf.lt_size hc
    · apply hf.lt_size (htrail.mem d hd)
  have hlength := (hnodup.subperm hsub).length_le
  rwa [List.length_map, List.length_range] at hlength

/-- After a trail in a network, only as many steps are left as there are other channels. -/
theorem IsTrail.clear {n : Nat} {trail : List ChannelId} (htrail : f.IsTrail network c trail)
    (hf : f.IsNetwork network) (hc : network c) (hsize : f.channels.size ≤ n + trail.length) :
  f.Clear n c
  := by
  induction n generalizing c trail with
  | zero =>
    have hlength := htrail.length_lt hf.isAcyclic hc
    omega
  | succ n ih =>
    use hf.lt_size hc
    intro h hh
    rcases hf.manner hc hh with hverdict | ⟨t, ht, hforward⟩
    · apply Or.inl hverdict
    · refine Or.inr ⟨t, hforward, ih (htrail.cons hf.isAcyclic hc ⟨h, hh, hforward⟩) ht ?_⟩
      rw [List.length_cons]
      omega

/-- No chain of forwarding in a network is longer than there are channels. -/
theorem IsNetwork.clear (hf : f.IsNetwork network) (hc : network c) :
  f.Clear f.channels.size c
  := by
  apply (isTrail_nil f network c).clear hf hc (Nat.le_refl _)

/-! ## Reach -/

/-- Whether a handler subscribes to a channel, or to one that messages are forwarded to from there. -/
inductive Reaches (f : Fabric) : ChannelId → HandlerId → Prop where
  | own {c : ChannelId} {h : HandlerId} (hh : h ∈ f.subscribers c) :
    Reaches f c h
  | onward {c t : ChannelId} {h h' : HandlerId} (hh : h ∈ f.subscribers c)
      (ht : f.manner h = some (.forwarding t)) (hreach : Reaches f t h') :
    Reaches f c h'

/-- A chain consists of handlers that forward and a handler that accepts, who is reached. -/
theorem Chains.exists_accepting {m : Message} {chain : List HandlerCall} (hchain : f.Chains c m chain) :
  ∃ onward call, chain = onward ++ [call]
    ∧ (∀ call' ∈ onward, ∃ t, f.manner call'.handler = some (.forwarding t))
    ∧ f.Reaches c call.handler ∧ f.manner call.handler = some (.answering (.ok ()))
  := by
  induction hchain with
  | @own c m h hh hok =>
    refine ⟨[], ⟨[c], h, f.stamped c m, .ok ()⟩, rfl, ?_, Reaches.own hh, hok⟩
    rintro call' ⟨⟩
  | @onward c t m h chain hh ht hchain ih =>
    obtain ⟨onward, call, rfl, hforward, hreach, hok⟩ := ih
    refine ⟨⟨[c], h, f.stamped c m, .ok ()⟩ :: onward.map fun call => call.through c, call.through c,
      by simp, ?_, Reaches.onward hh ht hreach, hok⟩
    rintro call' (_ | ⟨_, hcall'⟩)
    · exact ⟨t, ht⟩
    · obtain ⟨inner, hinner, rfl⟩ := List.mem_map.mp hcall'
      apply hforward inner hinner

/-- A chain leads to every accepting handler that is reached. -/
theorem Reaches.exists_chain (hreach : f.Reaches c h) (hok : f.manner h = some (.answering (.ok ())))
    (m : Message) :
  ∃ chain, f.Chains c m chain
  := by
  induction hreach generalizing m with
  | own hh => exact ⟨_, Chains.own hh hok⟩
  | @onward c t h h' hh ht hreach ih =>
    obtain ⟨chain, hchain⟩ := ih hok (f.stamped c m)
    exact ⟨_, Chains.onward hh ht hchain⟩

/-! ## Blame -/

/-- Where the error of a send comes from, given the calls it made: nobody subscribes to the channel, or
the handler that the channel tried last rejects every message, or it forwarded the message and the
error comes from the channel that it forwarded to. -/
inductive Blames (f : Fabric) : ChannelId → List HandlerCall → DeliveryError → Prop where
  | unheard {c : ChannelId} (hempty : f.subscribers c = []) :
    Blames f c [] (.noSubscribers (f.channelName c))
  | rejected {c : ChannelId} {h : HandlerId} {m : Message} {e : DeliveryError}
      {earlier : List HandlerCall} (hh : h ∈ f.subscribers c)
      (he : f.manner h = some (.answering (.error e))) :
    Blames f c (earlier ++ [⟨[c], h, m, .error e⟩]) e
  | onward {c t : ChannelId} {h : HandlerId} {m : Message} {e : DeliveryError}
      {earlier inner : List HandlerCall} (hh : h ∈ f.subscribers c)
      (ht : f.manner h = some (.forwarding t)) (hpath : ∀ call ∈ inner, call.path ≠ [])
      (hinner : Blames f t inner e) :
    Blames f c (earlier ++ ⟨[c], h, m, .error e⟩ :: inner.map fun call => call.through c) e

/-- Calls made earlier take no blame. -/
theorem Blames.append {calls : List HandlerCall} {e : DeliveryError} (hblame : f.Blames c calls e)
    (hheard : f.subscribers c ≠ []) (earlier : List HandlerCall) :
  f.Blames c (earlier ++ calls) e
  := by
  cases hblame with
  | unheard hempty => exact absurd hempty hheard
  | rejected hh he =>
    rw [← List.append_assoc]
    apply Blames.rejected hh he
  | onward hh ht hpath hinner =>
    rw [← List.append_assoc]
    apply Blames.onward hh ht hpath hinner

/-- Whether an outcome of a send tells the verdicts of handlers as they are, and, if it was not
accepted, everybody who is reached was called and the error has its origin with the last of them. -/
structure Exhausts (f : Fabric) (c : ChannelId) (o : Outcome) : Prop where
  path : ∀ call ∈ o.calls, call.path ≠ []
  verdict : ∀ call ∈ o.calls, ∀ verdict, f.manner call.handler = some (.answering verdict) →
    call.verdict = verdict
  reached : ∀ {e}, o.verdict = .error e → ∀ h, f.Reaches c h → ∃ call ∈ o.calls, call.handler = h
  blame : ∀ {e}, o.verdict = .error e → f.Blames c o.calls e

variable {m : Message} {taken : Outcome} {e : DeliveryError}

/-- A handler of a fixed verdict is called to that verdict. -/
theorem Taken.verdict (htaken : f.Taken f.Exhausts h taken) {call : HandlerCall} {verdict : Verdict}
    (hcall : call ∈ taken.callsOf c h m)
    (hverdict : f.manner call.handler = some (.answering verdict)) :
  call.verdict = verdict
  := by
  rcases htaken with ⟨verdict', hmanner, rfl⟩ | ⟨t, ht, hexhausts⟩
  · rcases Outcome.mem_callsOf.mp hcall with rfl | ⟨inner, ⟨⟩, -⟩
    rw [hmanner] at hverdict
    cases hverdict
    rfl
  · rcases Outcome.mem_callsOf.mp hcall with rfl | ⟨inner, hinner, rfl⟩
    · rw [ht] at hverdict
      cases hverdict
    · apply hexhausts.verdict inner hinner verdict hverdict

/-- A handler that does not take a message leaves nobody out whom it could have called. -/
theorem Taken.reached (htaken : f.Taken f.Exhausts h taken) (he : taken.verdict = .error e)
    {h' : HandlerId} (hreach : h' = h ∨ ∃ t, f.manner h = some (.forwarding t) ∧ f.Reaches t h') :
  ∃ call ∈ taken.callsOf c h m, call.handler = h'
  := by
  rcases hreach with rfl | ⟨t, ht, hreach⟩
  · exact ⟨_, List.mem_cons_self, rfl⟩
  · rcases htaken with ⟨verdict, hmanner, -⟩ | ⟨t', ht', hexhausts⟩
    · rw [hmanner] at ht
      cases ht
    · rw [ht'] at ht
      cases ht
      obtain ⟨call, hcall, rfl⟩ := hexhausts.reached he h' hreach
      exact ⟨call.through c, Outcome.mem_callsOf.mpr (Or.inr ⟨call, hcall, rfl⟩), rfl⟩

/-- A handler that does not take a message is to blame if nobody is tried after it. -/
theorem Taken.blame (htaken : f.Taken f.Exhausts h taken) (hh : h ∈ f.subscribers c)
    (he : taken.verdict = .error e) :
  f.Blames c (taken.callsOf c h m) e
  := by
  rw [Outcome.callsOf, he]
  change f.Blames c ([] ++ ⟨[c], h, m, .error e⟩ :: (taken.through c).calls) e
  rcases htaken with ⟨verdict, hmanner, rfl⟩ | ⟨t, ht, hexhausts⟩
  · cases he
    apply Blames.rejected hh hmanner
  · apply Blames.onward hh ht hexhausts.path (hexhausts.blame he)

end Fabric

/-! ## Offers that exhaust -/

section Exhausting

variable {f : Fabric} {c : ChannelId} {m : Message} {hs : List HandlerId} {last : DeliveryError}
  {o : Outcome}

theorem Offered.path {takes : HandlerId → Outcome → Prop} (ho : Offered c m takes hs last o) :
  ∀ call ∈ o.calls, call.path ≠ []
  := by
  induction ho with
  | nobody last => rintro call ⟨⟩
  | accepted htaken hok =>
    intro call hcall
    apply Outcome.path_of_mem_callsOf hcall
  | passed htaken he hlater ih =>
    intro call hcall
    rcases List.mem_append.mp hcall with hcall | hcall
    · apply Outcome.path_of_mem_callsOf hcall
    · apply ih call hcall

theorem Offered.verdict (ho : Offered c m (f.Taken f.Exhausts) hs last o) :
  ∀ call ∈ o.calls, ∀ verdict, f.manner call.handler = some (.answering verdict) →
    call.verdict = verdict
  := by
  induction ho with
  | nobody last => rintro call ⟨⟩
  | accepted htaken hok =>
    intro call hcall verdict
    apply htaken.verdict hcall
  | passed htaken he hlater ih =>
    intro call hcall
    rcases List.mem_append.mp hcall with hcall | hcall
    · intro verdict
      apply htaken.verdict hcall
    · apply ih call hcall

/-- An offer that nobody takes is made to everybody. -/
theorem Offered.reached (ho : Offered c m (f.Taken f.Exhausts) hs last o) {e : DeliveryError}
    (he : o.verdict = .error e) :
  ∀ h ∈ hs, ∀ h', (h' = h ∨ ∃ t, f.manner h = some (.forwarding t) ∧ f.Reaches t h') →
    ∃ call ∈ o.calls, call.handler = h'
  := by
  induction ho with
  | nobody last => rintro h ⟨⟩
  | accepted htaken hok => cases he
  | passed htaken he' hlater ih =>
    rintro h hmem h' hreach
    rcases List.mem_cons.mp hmem with rfl | hmem
    · obtain ⟨call, hcall, hhandler⟩ := htaken.reached he' hreach
      exact ⟨call, List.mem_append_left _ hcall, hhandler⟩
    · obtain ⟨call, hcall, hhandler⟩ := ih he h hmem h' hreach
      exact ⟨call, List.mem_append_right _ hcall, hhandler⟩

/-- An offer that nobody takes fails because of the last one it was made to. -/
theorem Offered.blame (ho : Offered c m (f.Taken f.Exhausts) hs last o) (hsub : hs ⊆ f.subscribers c)
    {e : DeliveryError} (he : o.verdict = .error e) :
  hs = [] ∧ o.calls = [] ∧ e = last ∨ f.Blames c o.calls e
  := by
  induction ho with
  | nobody last =>
    cases he
    exact Or.inl ⟨rfl, rfl, rfl⟩
  | accepted htaken hok => cases he
  | @passed h hs last e' taken later htaken he' hlater ih =>
    right
    have hh : h ∈ f.subscribers c := hsub List.mem_cons_self
    rcases ih (List.subset_of_cons_subset hsub) he with ⟨-, hnone, rfl⟩ | hblame
    · rw [hnone, List.append_nil]
      apply htaken.blame hh he'
    · apply hblame.append _ (taken.callsOf c h m)
      apply List.ne_nil_of_mem hh

end Exhausting

/-! ## Sends that fail over -/

namespace Fabric

variable {f : Fabric} {network : ChannelId → Prop} {c t : ChannelId} {h : HandlerId} {m : Message}
  {o : Outcome}

/-- A dispatch exhausts what it can reach if the sends that it leads to do. -/
theorem Dispatched.exhausts (ho : f.Dispatched c m (f.Taken f.Exhausts) o) :
  f.Exhausts c o
  := by
  cases ho with
  | unheard hempty =>
    constructor
    · rintro call ⟨⟩
    · rintro call ⟨⟩
    · intro e _ h hreach
      cases hreach with
      | own hh =>
        rw [hempty] at hh
        cases hh
      | onward hh ht hreach =>
        rw [hempty] at hh
        cases hh
    · intro e he
      cases he
      apply Blames.unheard hempty
  | offered hne horder hoffered =>
    constructor
    · exact hoffered.path
    · exact hoffered.verdict
    · intro e he h hreach
      cases hreach with
      | own hh => apply hoffered.reached he h (horder.mem_iff.mpr hh) h (Or.inl rfl)
      | onward hh ht hreach =>
        apply hoffered.reached he _ (horder.mem_iff.mpr hh) h (Or.inr ⟨_, ht, hreach⟩)
    · intro e he
      rcases hoffered.blame horder.subset he with ⟨hnil, -⟩ | hblame
      · exact absurd hnil hne
      · exact hblame

/-- Whether a handler has a fixed verdict. -/
def isLeaf (f : Fabric) (h : HandlerId) : Bool :=
  match f.manner h with
  | some (.answering _) => true
  | _ => false

theorem isLeaf_iff (f : Fabric) (h : HandlerId) :
  f.isLeaf h = true ↔ ∃ verdict, f.manner h = some (.answering verdict)
  := by
  rw [isLeaf]
  cases f.manner h with
  | none => simp
  | some manner => cases manner <;> simp

/-- The calls of handlers that have a fixed verdict. -/
def leafCalls (f : Fabric) (o : Outcome) : List HandlerCall :=
  o.calls.filter fun call => f.isLeaf call.handler

/-- Whoever is called can be reached. -/
theorem Calls.reaches {call : HandlerCall} (hcall : f.Calls c m call) :
  f.Reaches c call.handler
  := by
  induction hcall with
  | own hh => apply Reaches.own hh
  | onward hh ht hcall ih => apply Reaches.onward hh ht ih

/-- Of the calls of handlers of fixed verdicts, the last one alone ends well if the send does. -/
theorem leafCalls_of_ok (hsuits : o.Suits (f.Calls c m) (f.Chains c m)) (hok : o.verdict = .ok ()) :
  ∃ earlier call, f.leafCalls o = earlier ++ [call] ∧ call.verdict = .ok ()
    ∧ ∀ call' ∈ earlier, call'.verdict ≠ .ok ()
  := by
  obtain ⟨hchain, hlast⟩ := hsuits.accepted hok
  obtain ⟨onward, call, haccepted, hforward, -, hanswer⟩ := hchain.exists_accepting
  have hcalls : o.calls.getLast? = some call := by
    rw [← hlast, haccepted, List.getLast?_concat]
  obtain ⟨earlier, hcalls⟩ := List.getLast?_eq_some_iff.mp hcalls
  have hcall : call.verdict = .ok () := by
    have hmem : call ∈ o.accepted := by
      rw [haccepted]
      apply List.mem_concat_self
    apply (o.mem_accepted.mp hmem).2
  refine ⟨earlier.filter fun call => f.isLeaf call.handler, call, ?_, hcall, ?_⟩
  · have hleaf : f.isLeaf call.handler = true := (f.isLeaf_iff _).mpr ⟨_, hanswer⟩
    rw [leafCalls, hcalls, List.filter_append, List.filter_singleton, hleaf]
    rfl
  · intro call' hmem hok'
    obtain ⟨hmem, hleaf⟩ := List.mem_filter.mp hmem
    obtain ⟨verdict, hverdict⟩ := (f.isLeaf_iff _).mp hleaf
    -- whoever else accepted did so by forwarding
    have hchain : Outcome.accepted ⟨earlier, o.verdict⟩ ++ [call] = onward ++ [call] := by
      rw [← haccepted, Outcome.accepted, Outcome.accepted, hcalls, List.filter_append,
        List.filter_singleton, hcall]
      rfl
    have hin : call' ∈ onward := by
      rw [← List.append_cancel_right hchain]
      apply (Outcome.mem_accepted _).mpr ⟨hmem, hok'⟩
    obtain ⟨t, ht⟩ := hforward call' hin
    rw [hverdict] at ht
    cases ht

/-- Whether an outcome is what a send on a channel of a network should come to. -/
structure FailsOver (f : Fabric) (c : ChannelId) (o : Outcome) : Prop where
  /-- The message is accepted exactly if somebody can be reached who accepts it. -/
  ok_iff : o.verdict = .ok () ↔ ∃ h, f.Reaches c h ∧ f.manner h = some (.answering (.ok ()))
  /-- Nobody is called who cannot be reached. -/
  calls : ∀ call ∈ o.calls, f.Reaches c call.handler
  /-- A handler of a fixed verdict is called to that verdict. -/
  verdict : ∀ call ∈ o.calls, ∀ verdict, f.manner call.handler = some (.answering verdict) →
    call.verdict = verdict
  /-- If the message is accepted, then by the last handler of a fixed verdict that is called, and by
  none before. -/
  accepted : o.verdict = .ok () → ∃ earlier call, f.leafCalls o = earlier ++ [call]
    ∧ call.verdict = .ok () ∧ ∀ call' ∈ earlier, call'.verdict ≠ .ok ()
  /-- If it is not accepted, nobody accepts it, and everybody who can be reached is called. -/
  rejected : ∀ {e}, o.verdict = .error e → (∀ call ∈ o.calls, call.verdict ≠ .ok ())
    ∧ ∀ h, f.Reaches c h → ∃ call ∈ o.calls, call.handler = h
  /-- The error is that of the handler that is tried last. -/
  blame : ∀ {e}, o.verdict = .error e → f.Blames c o.calls e

theorem Exhausts.failsOver (hexhausts : f.Exhausts c o)
    (hsuits : o.Suits (f.Calls c m) (f.Chains c m)) :
  f.FailsOver c o
  := by
  constructor
  · constructor
    · intro hok
      obtain ⟨-, call, -, -, hreach, hanswer⟩ := (hsuits.accepted hok).1.exists_accepting
      exact ⟨call.handler, hreach, hanswer⟩
    · rintro ⟨h, hreach, hanswer⟩
      cases hverdict : o.verdict with
      | ok => rfl
      | error e =>
        obtain ⟨chain, hchain⟩ := hreach.exists_chain hanswer m
        exact absurd hchain ((hsuits.rejected hverdict).2 chain)
  · intro call hcall
    apply (hsuits.calls call hcall).reaches
  · exact hexhausts.verdict
  · apply leafCalls_of_ok hsuits
  · intro e he
    constructor
    · intro call hcall hok
      apply List.not_mem_nil (a := call)
      rw [← (hsuits.rejected he).1]
      apply o.mem_accepted.mpr ⟨hcall, hok⟩
    · exact hexhausts.reached he
  · exact hexhausts.blame

/-- Whatever the turns of the channels, a message that is sent in an acyclic network of channels comes
to one accepting handler if there is one that can be reached; otherwise everybody was tried. -/
theorem deliver_fails_over (hf : f.IsNetwork network) (hc : network c) (m : Message) :
  ∃ f' o, f.deliver c m = some (f', o) ∧ f.FailsOver c o
  := by
  have hdepth : f.channels.size ≤ f.nestingBound := by
    rw [nestingBound]
    omega
  have hsettles : (send f.nestingBound c m).Settles f (f.Exhausts c) :=
    send_settles_of (fun c _ => f.Exhausts c) (fun _ _ _ ho => ho.exhausts) (hf.clear hc) hdepth m
  obtain ⟨o, f', hsend, -, hexhausts, hsuits⟩ :=
    hsettles.and (send_settles (hf.clear hc) hdepth m) f (Alike.refl f)
  use f', o
  constructor
  · rw [deliver, hsend]
    rfl
  · apply hexhausts.failsOver hsuits

/-- A channel that forwards to one where everybody fails and to one that forwards to a silent channel
and to one where somebody accepts. -/
def layers : Fabric where
  channels := #[⟨"top", none, [⟨0⟩, ⟨1⟩], 7⟩, ⟨"side", none, [⟨2⟩, ⟨3⟩], 0⟩, ⟨"faulty", none, [⟨4⟩], 1⟩,
    ⟨"sound", none, [⟨5⟩], 0⟩, ⟨"silent", none, [], 0⟩]
  handlers := #[.forwarding ⟨1⟩, .forwarding ⟨2⟩, .forwarding ⟨4⟩, .forwarding ⟨3⟩,
    .failing (.handlerFailed "down"), .collecting []]

/-- Whoever subscribes to a layer fails, accepts, or forwards to a layer further down. -/
theorem manner_layers (hh : h ∈ layers.subscribers c) :
  (∃ verdict, layers.manner h = some (.answering verdict))
    ∨ ∃ t, c.index < t.index ∧ t.index < 5 ∧ layers.manner h = some (.forwarding t)
  := by
  have hcases : c = ⟨0⟩ ∧ (h = ⟨0⟩ ∨ h = ⟨1⟩) ∨ c = ⟨1⟩ ∧ (h = ⟨2⟩ ∨ h = ⟨3⟩) ∨ h = ⟨4⟩ ∨ h = ⟨5⟩ := by
    rcases c with ⟨_ | _ | _ | _ | _ | n⟩
    all_goals simp_all [subscribers, channel?, layers]
  rcases hcases with ⟨rfl, rfl | rfl⟩ | ⟨rfl, rfl | rfl⟩ | rfl | rfl
  · exact Or.inr ⟨⟨1⟩, by decide, by decide, rfl⟩
  · exact Or.inr ⟨⟨2⟩, by decide, by decide, rfl⟩
  · exact Or.inr ⟨⟨4⟩, by decide, by decide, rfl⟩
  · exact Or.inr ⟨⟨3⟩, by decide, by decide, rfl⟩
  · exact Or.inl ⟨_, rfl⟩
  · exact Or.inl ⟨_, rfl⟩

/-- What is forwarded through the layers goes down. -/
theorem lt_of_forwards_layers (ht : layers.Forwards c t) :
  c.index < t.index
  := by
  obtain ⟨h, hh, ht⟩ := ht
  rcases manner_layers hh with ⟨verdict, hverdict⟩ | ⟨t', hlt, -, ht'⟩
  · rw [hverdict] at ht
    cases ht
  · rw [ht'] at ht
    cases ht
    exact hlt

/-- A message that is sent on the topmost layer fails over to the handler that accepts. -/
theorem deliver_fails_over_layers :
  ∃ f o, layers.deliver ⟨0⟩ ⟨⟨0⟩, ∅, []⟩ = some (f, o) ∧ layers.FailsOver ⟨0⟩ o
  := by
  have hnetwork : layers.IsNetwork fun c => c.index < 5 := by
    constructor
    · intro c hc
      apply hc
    · intro c h hc hh
      rcases manner_layers hh with hverdict | ⟨t, -, ht, hforward⟩
      · apply Or.inl hverdict
      · exact Or.inr ⟨t, ht, hforward⟩
    · intro c hc hcycle
      apply Nat.lt_irrefl _ (lt_of_leads lt_of_forwards_layers hcycle)
  apply deliver_fails_over hnetwork (by decide)

end Fabric

end ChannelBinding
