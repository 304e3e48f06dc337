import ChannelBinding.Proofs.Alone
import ChannelBinding.Proofs.EndToEnd

/-!
# Producers and consumers of one binding name

A consumer bind trims the destination of a binding name, a producer bind passes it on as it stands.
They meet on one transport channel exactly if the destination has no blank characters at either end,
in whichever order they are made and whether the output was given or resolved; a message that is sent
on the output then reaches the input.
-/

namespace ChannelBinding

/-! ## Two binds -/

section Both

variable {w w₁ w' : World Unit MemoryBinder MemoryCall} {r r' : BindRequest} {c : ChannelId}

/-- What is met stays met. -/
theorem BindRequest.IsMet.mono {v v' : Fabric × MemoryBinder} {request : BindRequest}
    {binding : Binding} {h : HandlerId} (hmet : r.IsMet v binding h) (hmakes : Makes v v' request) :
  r.IsMet v' binding h
  := by
  obtain ⟨t, ht, hbinding, hh⟩ := hmet
  exact ⟨t, hmakes.transport ht, hbinding, hmakes.handler hh⟩

namespace World

/-- Whether a channel is no transport channel. -/
def IsApart (w : World Unit MemoryBinder MemoryCall) (c : ChannelId) : Prop :=
  ∀ d, w.system.binders.transports.get? d ≠ some c

/-- A bind makes no transport channel of a channel that was there, or that it binds. -/
theorem HasMade.apart (h : w.HasMade w' r) (hc : w.IsApart c)
    (hold : c.index < w.system.fabric.channels.size ∨ c = r.channel) :
  w'.IsApart c
  := by
  intro d hd
  rcases h.makes.fresh hd with hbefore | ⟨hle, hne⟩
  · apply hc d hbefore
  · rcases hold with hlt | rfl
    · apply Nat.not_lt.mpr hle hlt
    · apply hne rfl

/-- A call that has ended is about to do nothing. -/
theorem HasMade.task (h : w.HasMade w' r) :
  w'.task = w.task
  := by
  obtain ⟨s, calls, history⟩ := w'
  obtain rfl := h.calls
  rw [task_append]
  apply Function.update_eq_self_iff.mpr
  rw [World.task, call_length]

/-- What two binds leave behind. -/
structure HasMadeBoth (w w' : World Unit MemoryBinder MemoryCall) (r r' : BindRequest) : Prop where
  handler : ∀ {h handler}, w.system.fabric.handler? h = some handler →
    w'.system.fabric.handler? h = some handler
  subscribed : ∀ {c h}, h ∈ w.system.fabric.subscribers c → h ∈ w'.system.fabric.subscribers c
  first : ∃ b binding c h, w'.system.fabric.Attaches b binding c h
    ∧ r.IsMet w'.system.bindersView binding h
  second : ∃ b binding c h, w'.system.fabric.Attaches b binding c h
    ∧ r'.IsMet w'.system.bindersView binding h
  of_attached : ∀ {b binding c h}, w'.system.fabric.Attaches b binding c h →
    w.system.fabric.Attaches b binding c h ∨ r.IsMet w'.system.bindersView binding h
      ∨ r'.IsMet w'.system.bindersView binding h
  of_subscribed : ∀ {c h}, h ∈ w'.system.fabric.subscribers c →
    h ∈ w.system.fabric.subscribers c ∨ ∃ b binding, w'.system.fabric.Attaches b binding c h
  calls : w'.calls = w.calls ++ [.finished, .finished]
  task : w'.task = w.task

theorem HasMade.both (h₁ : w.HasMade w₁ r) (h₂ : w₁.HasMade w' r') :
  w.HasMadeBoth w' r r'
  := by
  obtain ⟨b, binding, c, h, hb, hmet⟩ := h₁.makes.made
  constructor
  · intro h handler hh
    apply h₂.makes.handler (h₁.makes.handler hh)
  · intro c h hh
    apply h₂.makes.subscribed (h₁.makes.subscribed hh)
  · exact ⟨b, binding, c, h, h₂.makes.attached hb, hmet.mono h₂.makes⟩
  · exact h₂.makes.made
  · intro b binding c h hb
    rcases h₂.makes.of_attached hb with hb | hmet
    · rcases h₁.makes.of_attached hb with hb | hmet
      · exact Or.inl hb
      · exact Or.inr (Or.inl (hmet.mono h₂.makes))
    · exact Or.inr (Or.inr hmet)
  · intro c h hh
    rcases h₂.makes.of_subscribed hh with hh | hb
    · rcases h₁.makes.of_subscribed hh with hh | ⟨b, binding, hb⟩
      · exact Or.inl hh
      · exact Or.inr ⟨b, binding, h₂.makes.attached hb⟩
    · exact Or.inr hb
  · rw [h₂.calls, h₁.calls, List.append_assoc]
    rfl
  · rw [h₂.task, h₁.task]

theorem HasMadeBoth.symm (h : w.HasMadeBoth w' r r') :
  w.HasMadeBoth w' r' r
  := ⟨h.handler, h.subscribed, h.second, h.first, fun hb => (h.of_attached hb).imp_right Or.symm,
    h.of_subscribed, h.calls, h.task⟩

/-- Where no binding was in force before, those in force are of the two binds. -/
theorem HasMadeBoth.of_inForce (h : w.HasMadeBoth w' r r') (hidle : w.inForce = [])
    {b : BindingId} {binding : Binding} {k : HandlerId} (hb : w'.system.fabric.Attaches b binding c k)
    (hforce : binding.InForce b w'.task) :
  r.IsMet w'.system.bindersView binding k ∨ r'.IsMet w'.system.bindersView binding k
  := by
  rcases h.of_attached hb with ⟨hold, -⟩ | hmet
  · rw [h.task] at hforce
    have hmem := mem_inForce.mpr ⟨b, hold, hforce⟩
    rw [hidle] at hmem
    cases hmem
  · apply hmet

end World

end Both

/-! ## The two binds of a name -/

/-- How the output of a name is bound. -/
inductive OutputRequest where
  /-- An output is given. -/
  | given (output : ChannelId)
  /-- The name is resolved. -/
  | resolved

/-- The call that binds the output of a name. -/
def OutputRequest.request (name : String) : OutputRequest → Request Unit
  | given output => .bindProducer name output none
  | resolved => .resolve name

namespace World

variable {w w₁ w' : World Unit MemoryBinder MemoryCall} {settings : Settings}
  {factory : Factory Unit} {callback : Option Callback} {name : String} {input : ChannelId}
  {how : OutputRequest}

/-- The output of a name: the one that was given, or the one that its resolution has left. -/
def output? (w : World Unit MemoryBinder MemoryCall) (name : String) :
    OutputRequest → Option ChannelId
  | .given output => some output
  | .resolved => (w.system.cache.get? name).map Resolved.channel

theorem output?_congr (h : w'.system.cache = w.system.cache) :
  w'.output? name how = w.output? name how
  := by
  cases how with
  | given output => rfl
  | resolved => rw [output?, h, output?]

/-- Whether the output of a name can be bound in a way: an output that is given is there, and a name
that is resolved is allowed, has no fixed channel and is free. -/
def Permits (w : World Unit MemoryBinder MemoryCall) (settings : Settings) (name : String) :
    OutputRequest → Prop
  | .given output => output.index < w.system.fabric.channels.size
  | .resolved => settings.allowsDynamic name = true ∧ w.system.fixed.get? name = none
    ∧ w.system.cache.IsFree name

/-- Whether an output, if it is given, is another channel than the input and no transport channel. -/
def KeepsApart (w : World Unit MemoryBinder MemoryCall) (input : ChannelId) : OutputRequest → Prop
  | .given output => output ≠ input ∧ w.IsApart output
  | .resolved => True

/-- What a bind leaves of the ways in which an output can be bound. -/
theorem HasMade.permits {r : BindRequest} (h : w.HasMade w' r)
    (hcache : w'.system.cache = w.system.cache) (hpermits : w.Permits settings name how) :
  w'.Permits settings name how
  := by
  cases how with
  | given output => apply Nat.lt_of_lt_of_le hpermits h.makes.size
  | resolved =>
    rw [Permits, hcache, h.fixed]
    apply hpermits

theorem HasMade.keepsApart {r : BindRequest} (h : w.HasMade w' r)
    (hpermits : w.Permits settings name how) (hapart : w.KeepsApart input how) :
  w'.KeepsApart input how
  := by
  cases how with
  | given output => exact ⟨hapart.1, h.apart hapart.2 (Or.inl hpermits)⟩
  | resolved => trivial

/-- What the two binds of a name make. -/
structure HasJoined (w w' : World Unit MemoryBinder MemoryCall) (settings : Settings) (name : String)
    (input output : ChannelId) (how : OutputRequest) : Prop where
  made : ∃ properties, w.HasMadeBoth w' (settings.consumerRequest name input)
    (settings.producerRequest name output properties)
  found : w'.output? name how = some output
  output_lt : output.index < w'.system.fabric.channels.size
  input_apart : w.IsApart input → w'.IsApart input
  output_apart : w.KeepsApart input how → output ≠ input ∧ w'.IsApart output

/-- The output is bound after the input. -/
theorem HasJoined.of_input_first {properties : ProducerProperties} {output : ChannelId}
    (hfirst : w.HasMade w₁ (settings.consumerRequest name input))
    (hsecond : w₁.HasMade w' (settings.producerRequest name output properties))
    (hinput : input.index < w.system.fabric.channels.size)
    (hpermits : w.Permits settings name how) (hfound : w'.output? name how = some output)
    (houtput : w₁.KeepsApart input how → output ≠ input ∧ w'.IsApart output) :
  w.HasJoined w' settings name input output how
  := by
  have hinput₁ := Nat.lt_of_lt_of_le hinput hfirst.makes.size
  constructor
  · exact ⟨properties, hfirst.both hsecond⟩
  · apply hfound
  · apply hsecond.makes.channel_lt
  · intro hapart
    apply hsecond.apart (hfirst.apart hapart (Or.inl hinput)) (Or.inl hinput₁)
  · intro hapart
    apply houtput (hfirst.keepsApart hpermits hapart)

/-- The output is bound before the input. -/
theorem HasJoined.of_output_first {properties : ProducerProperties} {output : ChannelId}
    (hfirst : w.HasMade w₁ (settings.producerRequest name output properties))
    (hsecond : w₁.HasMade w' (settings.consumerRequest name input))
    (hinput : input.index < w.system.fabric.channels.size)
    (hfound : w'.output? name how = some output)
    (houtput : w.KeepsApart input how → output ≠ input ∧ w₁.IsApart output) :
  w.HasJoined w' settings name input output how
  := by
  have hinput₁ := Nat.lt_of_lt_of_le hinput hfirst.makes.size
  constructor
  · exact ⟨properties, (hfirst.both hsecond).symm⟩
  · apply hfound
  · apply Nat.lt_of_lt_of_le hfirst.makes.channel_lt hsecond.makes.size
  · intro hapart
    apply hsecond.apart (hfirst.apart hapart (Or.inl hinput)) (Or.inl hinput₁)
  · intro hapart
    obtain ⟨hne, hapart₁⟩ := houtput hapart
    use hne
    apply hsecond.apart hapart₁ (Or.inl hfirst.makes.channel_lt)

variable (settings factory callback) in
/-- A call that runs alone leaves wired bindings wired. -/
theorem wired_perform (hchannels : w.HasChannels)
    (hw : Wired w.system.fabric w.system.binders w.task) (request : Request Unit) :
  let w' := w.perform (MemoryBinder.setup settings factory callback) request
  w'.HasChannels ∧ Wired w'.system.fabric w'.system.binders w'.task
  := by
  intro w'
  have hkeeps : Keeps (MemoryBinder.setup settings factory callback).binders
      fun v task => Wired v.1 v.2 task := Wired.keeps
  -- the moves stay folded, for all that counts is that none of them drops a call
  obtain ⟨moves, hmoves⟩ : ∃ moves, moves
      = Move.call request :: List.replicate 7 (.advance w.calls.length) := ⟨_, rfl⟩
  have horderly : w.IsOrderly (MemoryBinder.setup settings factory callback) moves := by
    simp [hmoves, IsOrderly, List.replicate]
  have hw' : w' = w.run (MemoryBinder.setup settings factory callback) moves := by
    rw [hmoves]
    rfl
  rw [hw']
  exact ⟨hchannels.run MemoryBinder.keepsChannels moves,
    hkeeps.run MemoryBinder.keepsChannels hchannels hw horderly⟩

section Perform

variable (hvalid : settings.validate = .ok ()) (hname : Resolution.isValidName name = true)
  (hbinder : factory.get? (settings.binderName name) = some ())
  (hcallback : ∀ c ∈ callback, ∀ channel properties, ProducerProperties.fault? properties = none →
    (c.adjust name channel properties).fault? = none)

include hvalid hname hbinder hcallback

/-- The output of a name is bound to the destination as it stands, given or resolved. -/
theorem perform_output (hw : Wired w.system.fabric w.system.binders w.task)
    (hinput : input.index < w.system.fabric.channels.size)
    (hpermits : w.Permits settings name how) :
  let w' := w.perform (MemoryBinder.setup settings factory callback) (how.request name)
  ∃ output properties, w.HasMade w' (settings.producerRequest name output properties)
    ∧ w'.output? name how = some output
    ∧ (w.KeepsApart input how → output ≠ input ∧ w'.IsApart output)
  := by
  cases how with
  | given output =>
    obtain ⟨hmade, -⟩ := w.perform_bindProducer callback hvalid
      (Resolution.not_blank_of_isValidName hname) hbinder hpermits
    refine ⟨output, _, hmade, rfl, ?_⟩
    rintro ⟨hne, hapart⟩
    exact ⟨hne, hmade.apart hapart (Or.inr rfl)⟩
  | resolved =>
    obtain ⟨hallowed, hfixed, hfree⟩ := hpermits
    obtain ⟨properties, b, hmade, hcached⟩ := w.perform_resolve callback hvalid hname hbinder
      hcallback hallowed hfixed hfree
    refine ⟨_, properties, hmade, ?_, ?_⟩
    · rw [output?, OutputRequest.request, hcached]
      rfl
    · -- the resolved channel is a new one
      intro _
      constructor
      · rintro rfl
        apply Nat.lt_irrefl _ hinput
      · apply hmade.apart _ (Or.inr rfl)
        intro d hd
        apply Nat.lt_irrefl _ (hw.transport_lt hd)

variable (hcomma : ',' ∉ (settings.destination name).toList)

include hcomma

/-- The two binds of a name join its input and its output to their destinations, in either order. -/
theorem perform_both (hchannels : w.HasChannels)
    (hw : Wired w.system.fabric w.system.binders w.task)
    (hinput : input.index < w.system.fabric.channels.size) (hpermits : w.Permits settings name how)
    {requests : List (Request Unit)}
    (hrequests : requests = [.bindConsumer name input, how.request name]
      ∨ requests = [how.request name, .bindConsumer name input]) :
  let w' := requests.foldl (perform (MemoryBinder.setup settings factory callback)) w
  Wired w'.system.fabric w'.system.binders w'.task
    ∧ ∃ output, w.HasJoined w' settings name input output how
  := by
  have hblank := Resolution.not_blank_of_isValidName hname
  rcases hrequests with rfl | rfl
  · simp only [List.foldl_cons, List.foldl_nil]
    obtain ⟨hfirst, hcache⟩ := w.perform_bindConsumer callback hvalid hblank hcomma hbinder hinput
    obtain ⟨hchannels₁, hw₁⟩ := wired_perform settings factory callback hchannels hw
      (.bindConsumer name input)
    generalize w.perform _ (.bindConsumer name input) = w₁ at *
    have hpermits₁ := hfirst.permits hcache hpermits
    have hinput₁ := Nat.lt_of_lt_of_le hinput hfirst.makes.size
    obtain ⟨output, properties, hsecond, hfound, houtput⟩ :=
      perform_output hvalid hname hbinder hcallback hw₁ hinput₁ hpermits₁
    obtain ⟨-, hw'⟩ := wired_perform settings factory callback hchannels₁ hw₁ (how.request name)
    generalize w₁.perform _ (how.request name) = w' at *
    use hw', output
    apply HasJoined.of_input_first hfirst hsecond hinput hpermits hfound houtput
  · simp only [List.foldl_cons, List.foldl_nil]
    obtain ⟨output, properties, hfirst, hfound, houtput⟩ :=
      perform_output hvalid hname hbinder hcallback hw hinput hpermits
    obtain ⟨hchannels₁, hw₁⟩ := wired_perform settings factory callback hchannels hw
      (how.request name)
    generalize w.perform _ (how.request name) = w₁ at *
    have hinput₁ := Nat.lt_of_lt_of_le hinput hfirst.makes.size
    obtain ⟨hsecond, hcache⟩ := w₁.perform_bindConsumer callback hvalid hblank hcomma hbinder hinput₁
    obtain ⟨-, hw'⟩ := wired_perform settings factory callback hchannels₁ hw₁
      (.bindConsumer name input)
    generalize w₁.perform _ (.bindConsumer name input) = w' at *
    use hw', output
    apply HasJoined.of_output_first hfirst hsecond hinput _ houtput
    rw [output?_congr hcache]
    apply hfound

end Perform

/-! ## What the binds of a name come to -/

/-- Whether an input and an output are attached to the transport channels of a destination, to one and
the same exactly if there is nothing to trim. -/
structure Joins (w : World Unit MemoryBinder MemoryCall) (destination : String)
    (input output : ChannelId) : Prop where
  /-- The input is attached to the trimmed destination. -/
  consumes : ∃ c t, w.Consumes (Text.trim destination) input c
    ∧ w.system.binders.transports.get? (Text.trim destination) = some t
  /-- The output is attached to the destination as it stands. -/
  produces : ∃ p t, w.Produces output destination p
    ∧ w.system.binders.transports.get? destination = some t
  same_iff : w.system.binders.transports.get? (Text.trim destination)
    = w.system.binders.transports.get? destination ↔ Text.trim destination = destination

/-- Whether every message that is sent on an output reaches a handler of an input exactly if there is
nothing to trim. -/
def Reaches (w : World Unit MemoryBinder MemoryCall) (destination : String)
    (input output : ChannelId) (h : HandlerId) : Prop :=
  ∀ m, ∃ f outcome, w.system.fabric.deliver output m = some (f, outcome)
    ∧ w.DeliversTo output m outcome
    ∧ (outcome.verdict = .ok () ↔ Text.trim destination = destination)
    ∧ (Text.trim destination = destination → ∃ t p c, w.Leads output t input p c
        ∧ outcome.accepted = w.routeCalls output t input p c h m)

/-- Whether a handler alone awaits messages on an input: it accepts them, there is no other
subscription and no binding in force, and the channels to be bound are kept apart. -/
structure Awaits (w : World Unit MemoryBinder MemoryCall) (input : ChannelId) (how : OutputRequest)
    (h : HandlerId) : Prop where
  idle : w.inForce = []
  subscribers : ∀ c, w.system.fabric.subscribers c = if c = input then [h] else []
  accepts : w.system.fabric.manner h = some (.answering (.ok ()))
  input_apart : w.IsApart input
  output_apart : w.KeepsApart input how

variable {output : ChannelId} {h : HandlerId}

/-- What is joined is attached to the transport channels. -/
theorem HasJoined.joins (hjoined : w.HasJoined w' settings name input output how)
    (hw : Wired w'.system.fabric w'.system.binders w'.task) :
  w'.Joins (settings.destination name) input output
  := by
  obtain ⟨properties, hmade⟩ := hjoined.made
  obtain ⟨b, binding, t, c, hb, t₁, ht₁, rfl, hc⟩ := hmade.first
  obtain ⟨b', binding', o, p, hb', t₂, ht₂, rfl, hp⟩ := hmade.second
  obtain rfl : o = output := by
    obtain ⟨-, hatt⟩ := hb'
    cases hatt
    rfl
  constructor
  · exact ⟨c, t₁, ⟨b, _, t, hb, rfl, rfl, Or.inl rfl, hc⟩, ht₁⟩
  · exact ⟨p, t₂, ⟨b', _, hb', rfl, rfl, Or.inl rfl⟩, ht₂⟩
  · constructor
    · intro hsame
      apply hw.transport_inj ht₁
      rw [← hsame]
      apply ht₁
    · intro hsame
      rw [hsame]

/-- The consumer binding that two binds have made is the only one in force, if there was none. -/
theorem HasJoined.of_consumes (hjoined : w.HasJoined w' settings name input output how)
    (hidle : w.inForce = []) {d : String} {i : ChannelId} {c : HandlerId} (hc : w'.Consumes d i c) :
  d = Text.trim (settings.destination name) ∧ i = input
  := by
  obtain ⟨properties, hmade⟩ := hjoined.made
  obtain ⟨b, binding, t, hb, hrole, rfl, hforce, hforward⟩ := hc
  rcases hmade.of_inForce hidle hb hforce with ⟨t', -, rfl, hc⟩ | ⟨t', -, rfl, -⟩
  · use rfl
    have hsame := hforward.symm.trans hc
    cases hsame
    rfl
  · cases hrole

/-- The producer binding that two binds have made is the only one in force, if there was none. -/
theorem HasJoined.of_produces (hjoined : w.HasJoined w' settings name input output how)
    (hidle : w.inForce = []) {d : String} {o : ChannelId} {p : HandlerId} (hp : w'.Produces o d p) :
  d = settings.destination name ∧ o = output
  := by
  obtain ⟨properties, hmade⟩ := hjoined.made
  obtain ⟨b, binding, hb, hrole, rfl, hforce⟩ := hp
  rcases hmade.of_inForce hidle hb hforce with ⟨t', -, rfl, -⟩ | ⟨t', -, rfl, -⟩
  · cases hrole
  · use rfl
    obtain ⟨-, hatt⟩ := hb
    cases hatt
    rfl

/-- A subscriber that holds none of the new bindings in place was one before. -/
theorem HasJoined.of_subscribed (hjoined : w.HasJoined w' settings name input output how)
    (hawaits : w.Awaits input how h) {c : ChannelId} {k : HandlerId}
    (hk : k ∈ w'.system.fabric.subscribers c)
    (hnone : ∀ b binding, ¬ w'.system.fabric.Attaches b binding c k) :
  c = input ∧ k = h
  := by
  obtain ⟨properties, hmade⟩ := hjoined.made
  rcases hmade.of_subscribed hk with hold | ⟨b, binding, hb⟩
  · rw [hawaits.subscribers] at hold
    split at hold
    · rename_i heq
      exact ⟨heq, List.mem_singleton.mp hold⟩
    · cases hold
  · apply absurd hb (hnone b binding)

/-- The handler that awaits messages goes on to accept them. -/
theorem HasJoined.accepts (hjoined : w.HasJoined w' settings name input output how)
    (hawaits : w.Awaits input how h) :
  w'.Accepts input h
  := by
  obtain ⟨properties, hmade⟩ := hjoined.made
  constructor
  · apply hmade.subscribed
    rw [hawaits.subscribers, if_pos rfl]
    apply List.mem_singleton_self
  · have hmanner := hawaits.accepts
    cases hh : w.system.fabric.handler? h with
    | none => simp [Fabric.manner, hh] at hmanner
    | some handler =>
      rw [Fabric.manner, hh] at hmanner
      rw [Fabric.manner, hmade.handler hh]
      apply hmanner

/-- What is joined where nothing else is bound is set apart. -/
theorem HasJoined.setsApart (hjoined : w.HasJoined w' settings name input output how)
    (hawaits : w.Awaits input how h) :
  w'.SetsApart (· = output) (· = input)
  := by
  obtain ⟨hne, hapart⟩ := hjoined.output_apart hawaits.output_apart
  constructor
  · intro o d p hp
    apply (hjoined.of_produces hawaits.idle hp).2
  · intro d i c hc
    apply (hjoined.of_consumes hawaits.idle hc).2
  · rintro c rfl rfl
    apply hne rfl
  · intro d t ht
    constructor
    · rintro rfl
      apply hapart d ht
    · rintro rfl
      apply hjoined.input_apart hawaits.input_apart d ht
  · intro c k hk hnone
    obtain ⟨rfl, rfl⟩ := hjoined.of_subscribed hawaits hk fun b binding => hnone b binding _
    use rfl, .ok ()
    apply (hjoined.accepts hawaits).2

/-- Nobody but the handler that awaits messages is subscribed to the input. -/
theorem HasJoined.eq_of_accepts (hjoined : w.HasJoined w' settings name input output how)
    (hawaits : w.Awaits input how h) (hw : Wired w'.system.fabric w'.system.binders w'.task)
    {k : HandlerId} (hk : w'.Accepts input k) :
  k = h
  := by
  obtain ⟨hsubscribed, -⟩ := hk
  by_cases hattached : ∃ b binding, w'.system.fabric.Attaches b binding input k
  · -- the handler of a binding in force would make the input an output, or a transport channel
    obtain ⟨b, binding, hb⟩ := hattached
    obtain ⟨-, hforce⟩ := (hw.subscribed hb).mp hsubscribed
    cases hrole : binding.role with
    | producer =>
      obtain ⟨-, heq⟩ := hjoined.of_produces hawaits.idle ⟨b, binding, hb, hrole, rfl, hforce⟩
      apply absurd heq.symm (hjoined.output_apart hawaits.output_apart).1
    | consumer =>
      obtain ⟨ht, -⟩ := hw.consumer hb hrole
      apply absurd ht (hjoined.input_apart hawaits.input_apart _)
  · apply (hjoined.of_subscribed hawaits hsubscribed _).2
    intro b binding hb
    apply hattached ⟨b, binding, hb⟩

/-- Where a handler alone awaits messages, they reach it from what is joined exactly if there is
nothing to trim. -/
theorem HasJoined.reaches (hjoined : w.HasJoined w' settings name input output how)
    (hawaits : w.Awaits input how h) (hw : Wired w'.system.fabric w'.system.binders w'.task) :
  w'.Reaches (settings.destination name) input output h
  := by
  intro m
  have hapart := hjoined.setsApart hawaits
  have hdepth : 3 ≤ w'.system.fabric.nestingBound := by
    rw [Fabric.nestingBound]
    omega
  obtain ⟨outcome, f, hsend, -, hsuits⟩ := Fabric.send_settles
    (hapart.clear hw rfl hjoined.output_lt) hdepth m w'.system.fabric (Fabric.Alike.refl _)
  have hdelivers := hapart.deliversTo hw rfl hsuits
  have hok : outcome.verdict = .ok ()
      ↔ Text.trim (settings.destination name) = settings.destination name := by
    rw [hdelivers.ok_iff]
    constructor
    · rintro ⟨d, i, p, c, k, hp, hc, -⟩
      rw [← (hjoined.of_consumes hawaits.idle hc).1, (hjoined.of_produces hawaits.idle hp).1]
    · intro htrim
      obtain ⟨⟨c, -, hc, -⟩, ⟨p, -, hp, -⟩, -⟩ := hjoined.joins hw
      rw [htrim] at hc
      exact ⟨_, input, p, c, h, hp, hc, hjoined.accepts hawaits⟩
  refine ⟨f, outcome, ?_, hdelivers, hok, ?_⟩
  · rw [Fabric.deliver, hsend]
    rfl
  · intro htrim
    obtain ⟨t, i, p, c, k, hleads, hk, hcalls, -⟩ := hdelivers.accepted (hok.mpr htrim)
    obtain ⟨d, hp, ht, hc⟩ := hleads
    obtain ⟨-, rfl⟩ := hjoined.of_consumes hawaits.idle hc
    obtain rfl := hjoined.eq_of_accepts hawaits hw hk
    exact ⟨t, p, c, ⟨d, hp, ht, hc⟩, hcalls⟩

/-- Under settings that are accepted, a consumer bind and a producer bind of one name that run to
their end, in either order, attach the input and the output to one transport channel exactly if the
destination has no blank characters at either end.  Where a handler alone awaits messages on the
input, it gets every message that is sent on the output in this case, and none in the other. -/
theorem meet_iff_trimmed (settings : Settings) (factory : Factory Unit) (callback : Option Callback)
    {moves : List (Move Unit)}
    (hmoves : (fresh {} {}).IsOrderly (MemoryBinder.setup settings factory callback) moves)
    (hvalid : settings.validate = .ok ()) {name : String}
    (hname : Resolution.isValidName name = true) (hcomma : ',' ∉ (settings.destination name).toList)
    (hbinder : factory.get? (settings.binderName name) = some ())
    (hcallback : ∀ c ∈ callback, ∀ channel properties, ProducerProperties.fault? properties = none →
      (c.adjust name channel properties).fault? = none) :
  let setup := MemoryBinder.setup settings factory callback
  let w := (fresh {} {}).run setup moves
  ∀ {input : ChannelId} {how : OutputRequest} {requests : List (Request Unit)},
    input.index < w.system.fabric.channels.size → w.Permits settings name how →
      (requests = [.bindConsumer name input, how.request name]
        ∨ requests = [how.request name, .bindConsumer name input]) →
      let w' := requests.foldl (perform setup) w
      w'.calls = w.calls ++ [.finished, .finished]
        ∧ ∃ output, w'.output? name how = some output
          ∧ w'.Joins (settings.destination name) input output
          ∧ ∀ h, w.Awaits input how h → w'.Reaches (settings.destination name) input output h
  := by
  intro setup w input how requests hinput hpermits hrequests
  have hw : Wired w.system.fabric w.system.binders w.task :=
    Wired.run settings factory callback hmoves
  have hchannels : w.HasChannels :=
    (hasChannels_fresh _ _).run MemoryBinder.keepsChannels moves
  obtain ⟨hw', output, hjoined⟩ := perform_both hvalid hname hbinder hcallback hcomma hchannels hw
    hinput hpermits hrequests
  obtain ⟨properties, hmade⟩ := hjoined.made
  use hmade.calls, output, hjoined.found, hjoined.joins hw'
  intro h hawaits
  apply hjoined.reaches hawaits hw'

/-- There is an input with a handler that collects, and a channel to be an output. -/
def awaitInput : List (Move Unit) :=
  [.act (.newChannel "in" none), .act (.newChannel "out" none),
    .act (.newHandler "sink" (.collecting [])), .act (.subscribe ⟨0⟩ "sink")]

/-- The input and then the output are bound to a name. -/
def bindBoth (name : String) : World Unit MemoryBinder MemoryCall :=
  [Request.bindConsumer name ⟨0⟩, .bindProducer name ⟨1⟩ none].foldl (perform MemoryBinder.setup)
    ((fresh {} {}).run MemoryBinder.setup awaitInput)

theorem awaits_of_awaitInput :
  ((fresh {} {}).run MemoryBinder.setup awaitInput).Awaits ⟨0⟩ (.given ⟨1⟩) ⟨0⟩
  := by
  constructor
  · rfl
  · rintro ⟨_ | _ | n⟩
    all_goals rfl
  · rfl
  · rintro d ⟨⟩
  · constructor
    · decide
    · rintro d ⟨⟩

/-- A message that is sent on the output comes over one transport channel to the input's handler. -/
theorem meet_iff_trimmed_of_orders :
  ∃ output f outcome t p c, (bindBoth "orders").output? "orders" (.given ⟨1⟩) = some output
    ∧ (bindBoth "orders").system.fabric.deliver output ⟨⟨0⟩, ∅, []⟩ = some (f, outcome)
    ∧ outcome.accepted = (bindBoth "orders").routeCalls output t ⟨0⟩ p c ⟨0⟩ ⟨⟨0⟩, ∅, []⟩
  := by
  have hmoves : (fresh {} {}).IsOrderly MemoryBinder.setup awaitInput := by
    simp [awaitInput, IsOrderly]
  have hname : Resolution.isValidName "orders" = true := by decide
  have hcallback : ∀ c ∈ (none : Option Callback), ∀ channel properties,
      ProducerProperties.fault? properties = none →
        (c.adjust "orders" channel properties).fault? = none := by
    rintro c ⟨⟩
  have hpermits : ((fresh {} {}).run MemoryBinder.setup awaitInput).Permits {} "orders"
      (.given ⟨1⟩) := (by decide : 1 < 2)
  obtain ⟨-, output, hfound, -, hreaches⟩ :=
    meet_iff_trimmed {} { binders := Table.ofEntries [("memory", ())] } none hmoves rfl hname
      (by decide) rfl hcallback (by decide : 0 < 2) hpermits (Or.inl rfl)
  obtain ⟨f, outcome, hdeliver, -, -, haccepted⟩ :=
    hreaches ⟨0⟩ awaits_of_awaitInput ⟨⟨0⟩, ∅, []⟩
  obtain ⟨t, p, c, -, hcalls⟩ := haccepted (by decide)
  exact ⟨output, f, outcome, t, p, c, hfound, hdeliver, hcalls⟩

/-- A name with blank characters at either end is accepted, but its binds do not meet: there are two
transport channels, and a message that is sent on the output gets lost though nothing else is bound. -/
theorem padded_name_does_not_meet :
  ({} : Settings).validate = .ok () ∧ Resolution.isValidName " orders " = true
    ∧ ',' ∉ (({} : Settings).destination " orders ").toList
    ∧ ((fresh {} {}).run MemoryBinder.setup awaitInput).Awaits ⟨0⟩ (.given ⟨1⟩) ⟨0⟩
    ∧ (bindBoth " orders ").calls = [.finished, .finished]
    ∧ (bindBoth " orders ").system.binders.transports.entries = [("orders", ⟨2⟩), (" orders ", ⟨3⟩)]
    ∧ (bindBoth " orders ").system.fabric.subscribers ⟨3⟩ = []
    ∧ ((bindBoth " orders ").system.fabric.deliver ⟨1⟩ ⟨⟨0⟩, ∅, []⟩).map (·.2.verdict)
      = some (.error (.noSubscribers " orders "))
  := by
  refine ⟨rfl, by decide, by decide, awaits_of_awaitInput, ?_, ?_, ?_, ?_⟩
  · rfl
  · decide +kernel
  · decide +kernel
  · decide +kernel

end World

end ChannelBinding
