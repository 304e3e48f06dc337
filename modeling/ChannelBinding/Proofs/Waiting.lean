import ChannelBinding.Fabric.Waiting
import ChannelBinding.Proofs.Dispatch
import ChannelBinding.Proofs.Sending
import ChannelBinding.Proofs.Walk
import ChannelBinding.Proofs.World.Basic

/-!
# Waiting without loss

A collecting handler keeps what it is called with, in order, whoever calls it and however deep in other
sends.  Any number of waits look at what handlers have kept, each in steps of its own, while the handlers
are called and time passes.  Each call is announced to everybody who has noted before it: a wait notes,
looks at what there is, and only then pauses.  So a wait that is not woken has seen everything, and what
it answers with is what was kept when it answers.
-/

namespace ChannelBinding

/-! ## What handlers are called with -/

/-- The messages that a handler was called with in some calls. -/
def messagesTo (h : HandlerId) (calls : List HandlerCall) : List Message :=
  calls.filterMap fun call => if call.handler = h then some call.message else none

theorem messagesTo_append (h : HandlerId) (calls later : List HandlerCall) :
  messagesTo h (calls ++ later) = messagesTo h calls ++ messagesTo h later
  := List.filterMap_append

theorem messagesTo_cons_self (h : HandlerId) (path : List ChannelId) (m : Message) (verdict : Verdict)
    (calls : List HandlerCall) :
  messagesTo h (⟨path, h, m, verdict⟩ :: calls) = m :: messagesTo h calls
  := List.filterMap_cons_some (if_pos rfl)

theorem messagesTo_cons_of_ne {h : HandlerId} {call : HandlerCall} (hne : call.handler ≠ h)
    (calls : List HandlerCall) :
  messagesTo h (call :: calls) = messagesTo h calls
  := List.filterMap_cons_none (if_neg hne)

/-- The calls of a handler that is called through a channel are those of the same messages. -/
theorem messagesTo_callsOf (h' : HandlerId) (taken : Outcome) (c : ChannelId) (h : HandlerId)
    (m : Message) (path : List ChannelId) (verdict : Verdict) :
  messagesTo h' (taken.callsOf c h m) = messagesTo h' (⟨path, h, m, verdict⟩ :: taken.calls)
  := by
  have hinner : messagesTo h' (taken.through c).calls = messagesTo h' taken.calls :=
    List.filterMap_map
  rw [Outcome.callsOf]
  by_cases heq : h = h'
  · subst heq
    rw [messagesTo_cons_self, messagesTo_cons_self, hinner]
  · rw [messagesTo_cons_of_ne heq, messagesTo_cons_of_ne heq, hinner]

namespace Fabric

variable {f f' f'' : Fabric} {calls later : List HandlerCall}

/-- Whether every collecting handler has kept in addition what it was called with in some calls. -/
def Collects (f : Fabric) (calls : List HandlerCall) (f' : Fabric) : Prop :=
  ∀ h stored, f.handler? h = some (.collecting stored) →
    f'.handler? h = some (.collecting (stored ++ messagesTo h calls))

theorem collects_of_handlers (hhandlers : f'.handlers = f.handlers) :
  f.Collects [] f'
  := by
  intro h stored hh
  rw [handler?, hhandlers, ← handler?, hh, messagesTo, List.filterMap_nil, List.append_nil]

theorem Collects.trans (h : f.Collects calls f') (h' : f'.Collects later f'') :
  f.Collects (calls ++ later) f''
  := by
  intro k stored hk
  rw [h' k _ (h k stored hk), messagesTo_append, List.append_assoc]

/-- A call that a handler keeps, if it collects. -/
theorem collects_setHandler {h : HandlerId} {handler handler' : Handler} {m : Message}
    (hh : f.handler? h = some handler)
    (hkeeps : ∀ stored, handler = .collecting stored → handler' = .collecting (stored ++ [m]))
    (path : List ChannelId) (verdict : Verdict) :
  f.Collects [⟨path, h, m, verdict⟩] (f.setHandler h handler')
  := by
  intro k stored hk
  rw [handler?_setHandler]
  by_cases heq : h = k
  · subst heq
    rw [if_pos rfl, hk, messagesTo_cons_self]
    rw [hh] at hk
    cases hk
    rw [hkeeps stored rfl]
    rfl
  · rw [if_neg heq, hk, messagesTo_cons_of_ne heq, messagesTo, List.filterMap_nil, List.append_nil]

/-- A call of a handler that does not collect. -/
theorem collects_call {h : HandlerId} {handler : Handler} (hh : f.handler? h = some handler)
    (hnot : ∀ stored, handler ≠ .collecting stored) (path : List ChannelId) (m : Message)
    (verdict : Verdict) :
  f.Collects [⟨path, h, m, verdict⟩] f
  := by
  intro k stored hk
  have hne : h ≠ k := by
    rintro rfl
    rw [hh] at hk
    cases hk
    exact hnot stored rfl
  rw [messagesTo_cons_of_ne hne, hk, messagesTo, List.filterMap_nil, List.append_nil]

end Fabric

/-! ## Sends -/

/-- Whether handlers keep what some work calls them with, if it returns; `calls` are the calls that it
answers for. -/
def Work.Collects (calls : Outcome → List HandlerCall) (work : Work Outcome) (f : Fabric) : Prop :=
  ∀ o f', work f = some (o, f') → f.Collects (calls o) f'

namespace Work

variable {f f' : Fabric} {calls : Outcome → List HandlerCall}

theorem collects_get_bind {next : Fabric → Work Outcome} (h : (next f).Collects calls f) :
  (get >>= next).Collects calls f
  := h

theorem collects_set_bind {next : PUnit → Work Outcome} (hset : f.Collects [] f')
    (h : (next ⟨⟩).Collects calls f') :
  (set f' >>= next).Collects calls f
  := by
  intro o f'' hwork
  exact hset.trans (h o f'' hwork)

end Work

/-- The calls that a handler answers for that takes a message: its own and those that it makes. -/
def Outcome.callsOfTaking (h : HandlerId) (m : Message) (o : Outcome) : List HandlerCall :=
  ⟨[], h, m, o.verdict⟩ :: o.calls

namespace Fabric

variable {f f' : Fabric} {c : ChannelId} {m : Message} {o : Outcome}

/-- What a script makes of a message is kept by those who collect it, if its sends are. -/
theorem act_collects {send : ChannelId → Message → Work Outcome}
    (hsend : ∀ c m f, (send c m).Collects Outcome.calls f) (m : Message) (actions : List Action)
    (f : Fabric) :
  (Handler.act send m actions).Collects Outcome.calls f
  := by
  induction actions generalizing f with
  | nil =>
    rintro o f' ⟨⟩
    exact collects_of_handlers rfl
  | cons action rest ih =>
    cases action with
    | subscribe channel handler =>
      apply Work.collects_get_bind
      split
      · exact Work.collects_set_bind (collects_of_handlers (handlers_subscribe ..)) (ih _)
      · exact ih f
    | unsubscribe channel handler =>
      apply Work.collects_get_bind
      split
      · exact Work.collects_set_bind (collects_of_handlers (handlers_unsubscribe ..)) (ih _)
      · exact ih f
    | send channel =>
      apply Work.collects_get_bind
      split
      · exact ih f
      · rename_i c _
        intro o f' hwork
        obtain ⟨⟨sent, f₁⟩, hsent, hwork⟩ := Option.bind_eq_some_iff.mp hwork
        cases hverdict : sent.verdict with
        | error e =>
          simp only [hverdict] at hwork
          cases hwork
          exact hsend c m f _ _ hsent
        | ok =>
          simp only [hverdict] at hwork
          obtain ⟨⟨later, f₂⟩, hlater, hwork⟩ := Option.bind_eq_some_iff.mp hwork
          cases hwork
          exact (hsend c m f _ _ hsent).trans (ih f₁ _ _ hlater)

theorem take_collects {send : ChannelId → Message → Work Outcome}
    (hsend : ∀ c m f, (send c m).Collects Outcome.calls f) (h : HandlerId) (m : Message) (f : Fabric) :
  (Handler.take send h m).Collects (Outcome.callsOfTaking h m) f
  := by
  apply Work.collects_get_bind
  split
  · rintro o f' ⟨⟩
  · rename_i received hh
    rintro o f' ⟨⟩
    refine collects_setHandler hh ?_ [] (.ok ())
    rintro stored ⟨⟩
    rfl
  · rename_i error hh
    rintro o f' ⟨⟩
    exact collects_call hh (by rintro _ ⟨⟩) [] m _
  · rename_i target hh
    intro o f' hwork
    exact (collects_call hh (by rintro _ ⟨⟩) [] m _).trans (hsend target m f o f' hwork)
  · rename_i outcomes actions received hh
    intro o f' hwork
    obtain ⟨⟨acted, f₁⟩, hacted, hwork⟩ := Option.bind_eq_some_iff.mp hwork
    have hacts := act_collects hsend m actions _ _ _ hacted
    have hkeeps : ∀ verdict, f.Collects (⟨[], h, m, verdict⟩ :: acted.calls) f₁ := fun verdict =>
      (collects_setHandler hh (by rintro _ ⟨⟩) [] verdict).trans hacts
    cases hverdict : acted.verdict with
    | error e =>
      simp only [hverdict] at hwork
      cases hwork
      exact hkeeps _
    | ok =>
      cases houtcome : outcomes[received.length]?.join with
      | none =>
        simp only [hverdict, houtcome] at hwork
        cases hwork
        exact hkeeps _
      | some e =>
        simp only [hverdict, houtcome] at hwork
        cases hwork
        exact hkeeps _
  · rename_i name received hh
    rintro o f' ⟨⟩
    exact (collects_setHandler hh (by rintro _ ⟨⟩) [] (.ok ())).trans (collects_of_handlers rfl)

/-- Tries of a message are kept by those who collect it. -/
theorem tried_collects {take : Taking}
    (htake : ∀ h m f, (take h m).Collects (Outcome.callsOfTaking h m) f) {tries : List Try}
    (htried : Tried take c m f tries f') :
  f.Collects (tries.flatMap fun t => t.taken.callsOf c t.handler m) f'
  := by
  -- a try is a call of its own handler and the calls that come of it, seen from the channel
  have htry : ∀ {t : Try} {f f' : Fabric}, take t.handler m f = some (t.taken, f') →
      f.Collects (t.taken.callsOf c t.handler m) f' := by
    intro t f f' ht k stored hk
    rw [messagesTo_callsOf k t.taken c t.handler m [] t.taken.verdict]
    exact htake t.handler m f _ _ ht k stored hk
  induction htried with
  | nobody f => exact collects_of_handlers rfl
  | accepted hbefore ht hok =>
    rw [List.flatMap_singleton]
    exact htry ht
  | @passed f f' t tries e hbefore ht he htries ih =>
    have hreport : t.after.Collects []
        (t.after.emit (.handlerFailed (t.after.channelName c) m.id m.contentType? e)) :=
      collects_of_handlers rfl
    rw [List.flatMap_cons]
    exact (htry ht).trans (hreport.trans ih)

theorem dispatch_collects {take : Taking}
    (htake : ∀ h m f, (take h m).Collects (Outcome.callsOfTaking h m) f) (c : ChannelId) (m : Message)
    (f : Fabric) :
  (dispatch take c m).Collects Outcome.calls f
  := by
  cases hc : f.channel? c with
  | none =>
    intro o f' hwork
    rw [dispatch, Work.get_bind, hc] at hwork
    cases hwork
  | some channel =>
    intro o f' hwork
    by_cases hne : channel.subscribers = []
    · rw [dispatch_of_nobody hc hne] at hwork
      cases hwork
      exact collects_of_handlers rfl
    · rw [dispatch_of_subscribers hc hne] at hwork
      obtain ⟨tries, htried, hends⟩ := offer_ends hwork
      have hcount : f.Collects [] (f.countTurn c channel) := collects_of_handlers rfl
      rw [hends.calls_eq]
      exact hcount.trans (tried_collects htake htried)

/-- Every collecting handler keeps what it is called with in the course of a send, in order. -/
theorem send_collects (depth : Nat) (c : ChannelId) (m : Message) (f : Fabric) :
  (Fabric.send depth c m).Collects Outcome.calls f
  := by
  induction depth generalizing c m f with
  | zero => rintro o f' ⟨⟩
  | succ depth ih => exact dispatch_collects (take_collects ih) c m f

/-- No send turns the clock back. -/
theorem sendsKeep_now (n : Nat) :
  Fabric.SendsKeep fun f => n ≤ f.now
  := by
  constructor
  · intro f e _ h
    exact h
  · intro f c channel turn _ h
    exact h
  · intro f h handler handler' _ _ hn
    exact hn
  · intro f c label h _ hn
    rwa [(rest_subscribe f c h).2.2]
  · intro f c label h _ hn
    rwa [(rest_unsubscribe f c h).2.2]

/-- The calls of handlers that an act makes. -/
def callsIn (f : Fabric) : Act → List HandlerCall
  | .send c m => ((f.deliver c m).map fun sent => sent.2.calls).getD []
  | _ => []

theorem collects_act (f : Fabric) (a : Act) :
  f.Collects (f.callsIn a) (f.act a)
  := by
  cases a with
  | newHandler label handler =>
    intro h stored hh
    change _ = some (Handler.collecting (stored ++ messagesTo h []))
    rw [messagesTo, List.filterMap_nil, List.append_nil]
    exact handler?_addHandler_of_some handler hh
  | subscribe c handler =>
    rw [act]
    split
    · exact collects_of_handlers rfl
    · exact collects_of_handlers (handlers_subscribe ..)
  | unsubscribe c handler =>
    rw [act]
    split
    · exact collects_of_handlers rfl
    · exact collects_of_handlers (handlers_unsubscribe ..)
  | send c m =>
    rw [act, callsIn, deliver]
    cases h : send f.nestingBound c m f with
    | none => exact collects_of_handlers rfl
    | some sent => exact send_collects _ c m f _ _ h
  | newChannel | nameChannel | wait => exact collects_of_handlers rfl

theorem now_le_act (f : Fabric) (a : Act) :
  f.now ≤ (f.act a).now
  := by
  cases a with
  | subscribe c handler =>
    rw [act]
    split
    · exact Nat.le_refl _
    · rename_i h _
      rw [(rest_subscribe f c h).2.2]
  | unsubscribe c handler =>
    rw [act]
    split
    · exact Nat.le_refl _
    · rename_i h _
      rw [(rest_unsubscribe f c h).2.2]
  | send c m =>
    rw [act]
    split
    · exact Nat.le_refl _
    · rename_i hdeliver
      exact (sendsKeep_now f.now).deliver hdeliver (Nat.le_refl _)
  | wait time => exact Nat.le_max_left ..
  | newChannel | newHandler | nameChannel => exact Nat.le_refl _

end Fabric

/-! ## Rooms -/

/-- Something of note to those who wait for messages. -/
inductive Incident where
  /-- A handler was called, and everybody who had noted before is woken. -/
  | called (call : HandlerCall)
  /-- The wait of this number has noted. -/
  | noted (i : Nat)

namespace Incident

/-- The call that an incident is, if it is one. -/
def call? : Incident → Option HandlerCall
  | called call => some call
  | noted _ => none

/-- Whether an incident is a note of a wait. -/
def isNoteOf (i : Nat) : Incident → Bool
  | called _ => false
  | noted j => j == i

/-- The incidents since a wait has noted. -/
def sinceNote (i : Nat) (history : List Incident) : List Incident :=
  (history.reverse.takeWhile fun x => !x.isNoteOf i).reverse

theorem filterMap_call?_called (calls : List HandlerCall) :
  (calls.map called).filterMap call? = calls
  := by
  rw [List.filterMap_map]
  exact List.filterMap_some

theorem sinceNote_append {i : Nat} {later : List Incident} (history : List Incident)
    (hlater : ∀ x ∈ later, x.isNoteOf i = false) :
  sinceNote i (history ++ later) = sinceNote i history ++ later
  := by
  have hlater' : ∀ x ∈ later.reverse, (!x.isNoteOf i) = true := by
    intro x hx
    rw [hlater x (List.mem_reverse.mp hx)]
    rfl
  rw [sinceNote, List.reverse_append, List.takeWhile_append_of_pos hlater', List.reverse_append,
    List.reverse_reverse, sinceNote]

theorem sinceNote_noted (i : Nat) (history : List Incident) :
  sinceNote i (history ++ [noted i]) = []
  := by
  rw [sinceNote, List.reverse_concat, List.takeWhile_cons_of_neg (by simp [isNoteOf]),
    List.reverse_nil]

end Incident

/-! ## Steps of a wait -/

namespace Wait

/-- What a wait relies on where it stands, with as many messages kept and as many of them missed since it
has noted: it has counted the others, and has not found enough if it pauses. -/
def Knows (now kept missed : Nat) (w : Wait) : Prop :=
  match w.stage with
  | .registering => True
  | .checking seen => seen + missed = kept
  | .pausing seen => seen + missed = kept ∧ seen < w.count
  | .collecting => w.deadline ≤ now

/-- What is missed is kept, so that a wait knows as much as before. -/
theorem Knows.grow {now now' kept missed : Nat} {w : Wait} (h : w.Knows now kept missed)
    (hnow : now ≤ now') (n : Nat) :
  w.Knows now' (kept + n) (missed + n)
  := by
  rw [Knows] at *
  split at h
  · trivial
  · rw [← h, Nat.add_assoc]
  · exact ⟨by rw [← h.1, Nat.add_assoc], h.2⟩
  · exact Nat.le_trans h hnow

/-- What a step of a wait comes to that knows what it relies on. -/
inductive StepsTo (f : Fabric) (missed : Nat) (w : Wait) : Progress Wait (List Message) → Prop where
  | running {stage : WaitStage}
      (h : { w with stage }.Knows f.now (f.received w.handler).length
        (if w.stage = WaitStage.registering then 0 else missed)) :
    StepsTo f missed w (.running { w with stage })
  /-- It waits where nothing was missed, there is not enough and there is time. -/
  | waiting {seen : Nat} (hstage : w.stage = .pausing seen) (hmissed : missed = 0)
      (hcount : (f.received w.handler).length < w.count) (hnow : f.now < w.deadline) :
    StepsTo f missed w (.waiting w (.alarm w.deadline))
  /-- It ends with all that is kept, which is enough unless the time is up. -/
  | ended (h : (f.received w.handler).length < w.count → w.deadline ≤ f.now) :
    StepsTo f missed w (.ended (f.received w.handler))

theorem stepsTo_step {f : Fabric} {missed : Nat} {w : Wait}
    (h : w.Knows f.now (f.received w.handler).length missed) :
  w.StepsTo f missed (w.step f)
  := by
  cases hstage : w.stage with
  | registering =>
    rw [step, hstage]
    refine .running ?_
    rw [if_pos hstage]
    rfl
  | checking seen =>
    rw [Knows, hstage] at h
    rw [step, hstage]
    dsimp only at h ⊢
    split
    · rename_i henough
      exact .ended fun hfew => absurd henough (Nat.not_le.mpr hfew)
    · rename_i hfew
      refine .running ?_
      rw [if_neg (show w.stage ≠ .registering by rw [hstage]; rintro ⟨⟩)]
      exact ⟨h, by change seen < w.count; omega⟩
  | pausing seen =>
    rw [Knows, hstage] at h
    rw [step, hstage]
    dsimp only at h ⊢
    split
    · exact .running trivial
    · rename_i hseen
      split
      · rename_i hnow
        exact .running hnow
      · rename_i hnow
        exact .waiting hstage (by omega) (by omega) (Nat.not_le.mp hnow)
  | collecting =>
    rw [Knows, hstage] at h
    rw [step, hstage]
    exact .ended fun _ => h

/-- A wait that pauses and has missed something does not wait on. -/
theorem step_of_missed {f : Fabric} {missed seen : Nat} {w : Wait} (hstage : w.stage = .pausing seen)
    (h : w.Knows f.now (f.received w.handler).length missed) (hmissed : missed ≠ 0) :
  w.step f = .running { w with stage := .registering }
  := by
  rw [Knows, hstage] at h
  dsimp only at h
  rw [step, hstage]
  dsimp only
  rw [if_pos (by omega)]

/-- A wait that pauses and is left alone ends exactly if there is enough or its time is up. -/
theorem settle_of_pausing {f : Fabric} {missed seen : Nat} {w : Wait} (hstage : w.stage = .pausing seen)
    (h : w.Knows f.now (f.received w.handler).length missed) :
  w.settle f
    = let messages := f.received w.handler
      if w.count ≤ messages.length ∨ w.deadline ≤ f.now then .ended messages
      else .waiting { w with stage := .pausing messages.length } (.alarm w.deadline)
  := by
  obtain ⟨handler, count, deadline, stage⟩ := w
  cases hstage
  rw [Knows] at h
  dsimp only at h ⊢
  generalize hmessages : f.received handler = messages at h ⊢
  by_cases hmissed : seen < messages.length
  · by_cases henough : count ≤ messages.length
    · simp [settle, steps, step, hmessages, hmissed, henough]
    · by_cases hnow : deadline ≤ f.now
      · simp [settle, steps, step, hmessages, hmissed, henough, hnow]
      · simp [settle, steps, step, hmessages, hmissed, henough, hnow]
  · have hseen : seen = messages.length := by omega
    have hfew : ¬ count ≤ messages.length := by omega
    by_cases hnow : deadline ≤ f.now
    · simp [settle, steps, step, hmessages, hseen, hfew, hnow]
    · simp [settle, steps, step, hmessages, hseen, hfew, hnow]

end Wait

/-- A fabric with waits for messages on it, each where it stands, and what they have had notice of. -/
structure Room where
  fabric : Fabric
  waits : List (Progress Wait (List Message)) := []
  history : List Incident := []

namespace Room

/-- What can happen next where messages are waited for. -/
inductive Move where
  /-- A handler is called with a message. -/
  | handle (h : HandlerId) (m : Message)
  | act (a : Act)
  /-- A wait for a number of messages begins. -/
  | wait (h : HandlerId) (count within : Nat)
  /-- A wait takes a step. -/
  | advance (i : Nat)

/-- The wait of a number, if it is under way. -/
def underWay? (room : Room) (i : Nat) : Option Wait := room.waits[i]?.bind Progress.rest?

/-- The room after a move. -/
def next (room : Room) : Move → Room
  | .handle h m =>
    match Handler.take (Fabric.send room.fabric.nestingBound) h m room.fabric with
    | none => room
    | some (o, fabric) =>
      { room with fabric, history := room.history ++ (o.callsOfTaking h m).map .called }
  | .act a =>
    { room with
      fabric := room.fabric.act a
      history := room.history ++ (room.fabric.callsIn a).map .called }
  | .wait handler count within =>
    let wait : Wait := { handler, count, deadline := room.fabric.now + within }
    { room with waits := room.waits ++ [.running wait] }
  | .advance i =>
    match room.underWay? i with
    | none => room
    | some w =>
      { room with
        waits := room.waits.set i (w.step room.fabric)
        history := room.history ++ if w.stage = .registering then [.noted i] else [] }

/-- The room after some moves. -/
def run (room : Room) (moves : List Move) : Room := moves.foldl next room

theorem run_append (room : Room) (moves further : List Move) :
  room.run (moves ++ further) = (room.run moves).run further
  := List.foldl_append

/-- The calls of handlers so far. -/
def calls (room : Room) : List HandlerCall := room.history.filterMap Incident.call?

/-- The calls of handlers since a wait has noted. -/
def callsSince (room : Room) (i : Nat) : List HandlerCall :=
  (Incident.sinceNote i room.history).filterMap Incident.call?

/-! ## What moves keep -/

variable {room : Room} {stored : List Message} {h : HandlerId} {i : Nat} {begun : Wait}

/-- Whether a handler has kept, on top of some messages, exactly what it was called with. -/
def Keeps (room : Room) (h : HandlerId) (stored : List Message) : Prop :=
  room.fabric.handler? h = some (.collecting (stored ++ messagesTo h room.calls))

theorem Keeps.received (hkeeps : room.Keeps h stored) :
  room.fabric.received h = stored ++ messagesTo h room.calls
  := by
  rw [Fabric.received, hkeeps]
  rfl

theorem calls_append (room : Room) (fabric : Fabric) (waits : List (Progress Wait (List Message)))
    (later : List Incident) :
  calls { fabric, waits, history := room.history ++ later }
    = room.calls ++ later.filterMap Incident.call?
  := List.filterMap_append

/-- A note is not a call. -/
theorem filterMap_call?_noted {later : List Incident} (hlater : ∀ x ∈ later, x = .noted i) :
  later.filterMap Incident.call? = []
  := by
  refine List.filterMap_eq_nil_iff.mpr fun x hx => ?_
  rw [hlater x hx]
  rfl

/-- What a wait that takes a step adds to the history. -/
theorem eq_noted_of_mem {w : Wait} {x : Incident}
    (hx : x ∈ if w.stage = .registering then [Incident.noted i] else []) :
  x = .noted i
  := by
  split at hx
  · exact List.mem_singleton.mp hx
  · cases hx

theorem Keeps.next (hkeeps : room.Keeps h stored) (m : Move) :
  (room.next m).Keeps h stored
  := by
  have hcalled : ∀ {fabric calls}, room.fabric.Collects calls fabric →
      Keeps { room with fabric, history := room.history ++ calls.map .called } h stored := by
    intro fabric calls hcalls
    rw [Keeps, calls_append, Incident.filterMap_call?_called, messagesTo_append,
      ← List.append_assoc]
    exact hcalls h _ hkeeps
  cases m with
  | handle k m =>
    rw [Room.next]
    split
    · exact hkeeps
    · rename_i o fabric htake
      exact hcalled (Fabric.take_collects (Fabric.send_collects _) k m _ _ _ htake)
  | act a => exact hcalled (room.fabric.collects_act a)
  | wait => exact hkeeps
  | advance j =>
    rw [Room.next]
    split
    · exact hkeeps
    · rw [Keeps, calls_append, filterMap_call?_noted fun x => eq_noted_of_mem, List.append_nil]
      exact hkeeps

theorem Keeps.run (hkeeps : room.Keeps h stored) (moves : List Move) :
  (room.run moves).Keeps h stored
  := by
  induction moves generalizing room with
  | nil => exact hkeeps
  | cons m moves ih => exact ih (hkeeps.next m)

/-- What holds of a wait of a number that has begun: it knows what its handler has kept, but for what the
handler was called with since the wait has noted. -/
structure Attends (room : Room) (stored : List Message) (i : Nat) (begun : Wait) : Prop where
  lt : i < room.waits.length
  wait : ∀ w, room.underWay? i = some w →
    (∃ stage, w = { begun with stage })
      ∧ w.Knows room.fabric.now (stored ++ messagesTo begun.handler room.calls).length
        (messagesTo begun.handler (room.callsSince i)).length
  pausing : ∀ w pause, room.waits[i]? = some (.waiting w pause) → ∃ seen, w.stage = .pausing seen

/-- Calls of handlers change nothing for a wait but what it has missed. -/
theorem Attends.called (hw : room.Attends stored i begun) {fabric : Fabric}
    {calls : List HandlerCall} (hnow : room.fabric.now ≤ fabric.now) :
  Attends { room with fabric, history := room.history ++ calls.map Incident.called } stored i begun
  := by
  have hsince : (Incident.sinceNote i (room.history ++ calls.map Incident.called)).filterMap
      Incident.call? = room.callsSince i ++ calls := by
    rw [Incident.sinceNote_append, List.filterMap_append, Incident.filterMap_call?_called, callsSince]
    intro x hx
    obtain ⟨call, -, rfl⟩ := List.mem_map.mp hx
    rfl
  constructor
  · exact hw.lt
  · intro w hunderWay
    obtain ⟨hstage, hknows⟩ := hw.wait w hunderWay
    refine ⟨hstage, ?_⟩
    have hgrown := hknows.grow hnow (messagesTo begun.handler calls).length
    rw [← List.length_append, ← List.length_append, List.append_assoc, ← messagesTo_append,
      ← messagesTo_append] at hgrown
    rw [calls_append, Incident.filterMap_call?_called, Room.callsSince, hsince]
    exact hgrown
  · exact hw.pausing

/-- A step of another wait changes nothing for a wait. -/
theorem Attends.other (hw : room.Attends stored i begun) {j : Nat} (hne : j ≠ i)
    (p : Progress Wait (List Message)) {later : List Incident} (hlater : ∀ x ∈ later, x = .noted j) :
  Attends { room with waits := room.waits.set j p, history := room.history ++ later } stored i begun
  := by
  have hsince : (Incident.sinceNote i (room.history ++ later)).filterMap Incident.call?
      = room.callsSince i := by
    rw [Incident.sinceNote_append, List.filterMap_append, filterMap_call?_noted hlater,
      List.append_nil, callsSince]
    intro x hx
    rw [hlater x hx]
    exact beq_eq_false_iff_ne.mpr hne
  have hplace : (room.waits.set j p)[i]? = room.waits[i]? := List.getElem?_set_ne hne
  constructor
  · rw [List.length_set]
    exact hw.lt
  · intro w hunderWay
    rw [calls_append, filterMap_call?_noted hlater, List.append_nil, Room.callsSince, hsince]
    rw [underWay?, hplace] at hunderWay
    exact hw.wait w hunderWay
  · intro w pause hwaiting
    rw [hplace] at hwaiting
    exact hw.pausing w pause hwaiting

/-- A wait under way that attends to what its handler keeps takes steps as it should. -/
theorem Attends.stepsTo_step (hw : room.Attends stored i begun)
    (hkeeps : room.Keeps begun.handler stored) {w : Wait} (hunderWay : room.underWay? i = some w) :
  w.StepsTo room.fabric (messagesTo begun.handler (room.callsSince i)).length (w.step room.fabric)
  := by
  obtain ⟨⟨stage, rfl⟩, hknows⟩ := hw.wait w hunderWay
  rw [← hkeeps.received] at hknows
  exact Wait.stepsTo_step hknows

/-- A wait that takes a step goes on attending. -/
theorem Attends.step (hw : room.Attends stored i begun) (hkeeps : room.Keeps begun.handler stored)
    {w : Wait} (hunderWay : room.underWay? i = some w) {p : Progress Wait (List Message)}
    (hp : w.StepsTo room.fabric (messagesTo begun.handler (room.callsSince i)).length p)
    {later : List Incident} (hlater : later = if w.stage = .registering then [.noted i] else []) :
  Attends { room with waits := room.waits.set i p, history := room.history ++ later } stored i begun
  := by
  obtain ⟨⟨stage, hstage⟩, hknows⟩ := hw.wait w hunderWay
  have hreceived : room.fabric.received w.handler = stored ++ messagesTo begun.handler room.calls := by
    rw [← hkeeps.received, hstage]
  have hplace : (room.waits.set i p)[i]? = some p := List.getElem?_set_self hw.lt
  have hnoted : ∀ x ∈ later, x = .noted i := by
    intro x hx
    rw [hlater] at hx
    exact eq_noted_of_mem hx
  have hsince : messagesTo begun.handler
      ((Incident.sinceNote i (room.history ++ later)).filterMap Incident.call?)
      = if w.stage = .registering then [] else messagesTo begun.handler (room.callsSince i) := by
    rw [hlater]
    split
    · rw [Incident.sinceNote_noted]
      rfl
    · rw [List.append_nil, callsSince]
  constructor
  · rw [List.length_set]
    exact hw.lt
  · intro w' hw'
    rw [underWay?, hplace] at hw'
    rw [calls_append, filterMap_call?_noted hnoted, List.append_nil, Room.callsSince, hsince]
    cases hp with
    | @running stage' hknows' =>
      cases hw'
      refine ⟨⟨stage', by rw [hstage]⟩, ?_⟩
      rw [hreceived] at hknows'
      convert hknows' using 1
      split
      · rfl
      · rfl
    | waiting hpausing hmissed hcount hnow =>
      cases hw'
      refine ⟨⟨stage, hstage⟩, ?_⟩
      rw [if_neg (by rw [hpausing]; rintro ⟨⟩)]
      exact hknows
    | ended => cases hw'
  · intro w' pause hw'
    rw [hplace] at hw'
    cases hw'
    cases hp with
    | waiting hpausing => exact ⟨_, hpausing⟩

theorem Attends.next (hw : room.Attends stored i begun) (hkeeps : room.Keeps begun.handler stored)
    (m : Move) :
  (room.next m).Attends stored i begun
  := by
  cases m with
  | handle k m =>
    rw [Room.next]
    split
    · exact hw
    · rename_i o fabric htake
      have hnow := Fabric.sendsKeep_now room.fabric.now
      exact hw.called (hnow.take (hnow.send _) k m _ (Nat.le_refl _) _ _ htake)
  | act a => exact hw.called (room.fabric.now_le_act a)
  | wait handler count within =>
    have hplace : (room.next (.wait handler count within)).waits[i]? = room.waits[i]? :=
      List.getElem?_append_left hw.lt
    constructor
    · rw [Room.next, List.length_append]
      exact Nat.lt_add_right _ hw.lt
    · intro w hunderWay
      rw [underWay?, hplace] at hunderWay
      exact hw.wait w hunderWay
    · intro w pause hwaiting
      rw [hplace] at hwaiting
      exact hw.pausing w pause hwaiting
  | advance j =>
    rw [Room.next]
    split
    · exact hw
    · rename_i w hunderWay
      by_cases heq : j = i
      · subst heq
        exact hw.step hkeeps hunderWay (hw.stepsTo_step hkeeps hunderWay) rfl
      · exact hw.other heq _ fun x => eq_noted_of_mem

theorem Attends.run (hw : room.Attends stored i begun) (hkeeps : room.Keeps begun.handler stored)
    (moves : List Move) :
  (room.run moves).Attends stored i begun
  := by
  induction moves generalizing room with
  | nil => exact hw
  | cons m moves ih => exact ih (hw.next hkeeps m) (hkeeps.next m)

/-- A wait that begins attends to what its handler has kept. -/
theorem attends_wait (room : Room) (stored : List Message) (handler : HandlerId) (count within : Nat) :
  (room.next (.wait handler count within)).Attends stored room.waits.length
    { handler, count, deadline := room.fabric.now + within }
  := by
  have hplace : (room.next (.wait handler count within)).waits[room.waits.length]?
      = some (.running { handler, count, deadline := room.fabric.now + within }) :=
    List.getElem?_concat_length
  constructor
  · rw [Room.next, List.length_append]
    exact Nat.lt_add_one _
  · intro w hunderWay
    rw [underWay?, hplace] at hunderWay
    cases hunderWay
    exact ⟨⟨.registering, rfl⟩, trivial⟩
  · intro w pause hwaiting
    rw [hplace] at hwaiting
    cases hwaiting

/-! ## Answers -/

/-- A wait that has ended has done so in a step of its own. -/
theorem ended_next {m : Move} {answer : List Message} (hlt : i < room.waits.length)
    (hended : (room.next m).waits[i]? = some (.ended answer)) :
  room.waits[i]? = some (.ended answer)
    ∨ m = .advance i ∧ ∃ w, room.underWay? i = some w ∧ w.step room.fabric = .ended answer
  := by
  cases m with
  | handle k m =>
    rw [Room.next] at hended
    split at hended
    · exact Or.inl hended
    · exact Or.inl hended
  | act a => exact Or.inl hended
  | wait handler count within =>
    rw [Room.next, List.getElem?_append_left hlt] at hended
    exact Or.inl hended
  | advance j =>
    rw [Room.next] at hended
    split at hended
    · exact Or.inl hended
    · rename_i w hunderWay
      dsimp only at hended
      by_cases heq : j = i
      · subst heq
        rw [List.getElem?_set_self hlt] at hended
        exact Or.inr ⟨rfl, w, hunderWay, Option.some_inj.mp hended⟩
      · rw [List.getElem?_set_ne heq] at hended
        exact Or.inl hended

theorem ended_run (hw : room.Attends stored i begun) (hkeeps : room.Keeps begun.handler stored)
    {w : Wait} (hunderWay : room.underWay? i = some w) {moves : List Move} {answer : List Message}
    (hended : (room.run moves).waits[i]? = some (.ended answer)) :
  ∃ earlier later w, moves = earlier ++ .advance i :: later
    ∧ (room.run earlier).underWay? i = some w ∧ w.step (room.run earlier).fabric = .ended answer
  := by
  induction moves using List.reverseRecOn with
  | nil =>
    rw [underWay?, show room.waits[i]? = some (.ended answer) from hended] at hunderWay
    cases hunderWay
  | append_singleton moves m ih =>
    rw [run_append] at hended
    rcases ended_next (hw.run hkeeps moves).lt hended with hbefore | ⟨rfl, w, hw', hstep⟩
    · obtain ⟨earlier, later, w, rfl, hend⟩ := ih hbefore
      exact ⟨earlier, later ++ [m], w, by simp, hend⟩
    · exact ⟨moves, [], w, rfl, hw', hstep⟩

/-- How a wait stands in a room that is suspended there. -/
structure Suspends (room : Room) (i : Nat) (w : Wait) : Prop where
  /-- If nothing has woken it, there is not enough. -/
  few : messagesTo w.handler (room.callsSince i) = [] →
    (room.fabric.received w.handler).length < w.count
  /-- If its handler was called since it has noted, it is awake. -/
  woken : messagesTo w.handler (room.callsSince i) ≠ [] →
    w.step room.fabric = .running { w with stage := .registering }
  /-- Left alone, it ends exactly if there is enough or its time is up. -/
  alone : w.settle room.fabric
    = let messages := room.fabric.received w.handler
      if w.count ≤ messages.length ∨ w.deadline ≤ room.fabric.now then .ended messages
      else .waiting { w with stage := .pausing messages.length } (.alarm w.deadline)

theorem Attends.suspends (hw : room.Attends stored i begun) (hkeeps : room.Keeps begun.handler stored)
    {w : Wait} {pause : Pause} (hwaiting : room.waits[i]? = some (.waiting w pause)) :
  (∃ stage, w = { begun with stage }) ∧ room.Suspends i w
  := by
  have hunderWay : room.underWay? i = some w := by
    rw [underWay?, hwaiting]
    rfl
  obtain ⟨seen, hpausing⟩ := hw.pausing w pause hwaiting
  obtain ⟨⟨stage, rfl⟩, hknows⟩ := hw.wait w hunderWay
  rw [← hkeeps.received] at hknows
  refine ⟨⟨stage, rfl⟩, ?_, ?_, ?_⟩
  · intro hnothing
    rw [Wait.Knows, hpausing] at hknows
    rw [hnothing] at hknows
    exact Nat.lt_of_le_of_lt (Nat.le_of_eq hknows.1.symm) hknows.2
  · intro hmissed
    exact Wait.step_of_missed hpausing hknows (List.length_eq_zero_iff.not.mpr hmissed)
  · exact Wait.settle_of_pausing hpausing hknows

/-- However calls of a collecting handler, waits for its messages and anything else interleave, the
handler keeps exactly what it is called with.  A wait that has ended has answered with all that was kept
when it did, with less than it waited for only if its time was up; and no wait is suspended where there is
enough and nothing is there to wake it. -/
theorem wait_misses_nothing {f : Fabric} {h : HandlerId} {stored : List Message}
    (hh : f.handler? h = some (.collecting stored)) (before after : List Move) (count within : Nat) :
  let begun := run { fabric := f } before
  let room (moves : List Move) := begun.run (.wait h count within :: moves)
  let i := begun.waits.length
  let deadline := begun.fabric.now + within
  (∀ moves, (room moves).fabric.received h = stored ++ messagesTo h (room moves).calls)
    ∧ ∃ p, (room after).waits[i]? = some p ∧ match p with
      | .running _ => True
      | .waiting w _ =>
        (w.handler = h ∧ w.count = count ∧ w.deadline = deadline) ∧ (room after).Suspends i w
      | .ended answer => ∃ earlier later, after = earlier ++ .advance i :: later
        ∧ answer = (room earlier).fabric.received h
        ∧ (answer.length < count → deadline ≤ (room earlier).fabric.now)
  := by
  intro begun room i deadline
  have hstart : Keeps { fabric := f } h stored := by
    rw [Keeps, hh]
    exact congrArg (fun messages => some (Handler.collecting messages)) (List.append_nil stored).symm
  have hbegun : begun.Keeps h stored := hstart.run before
  have hfirst := hbegun.next (.wait h count within)
  have hkeeps : ∀ moves, (room moves).Keeps h stored := hfirst.run
  have hwait := begun.attends_wait stored h count within
  have hattends : ∀ moves, (room moves).Attends stored i { handler := h, count, deadline } :=
    hwait.run hfirst
  refine ⟨fun moves => (hkeeps moves).received, _, List.getElem?_eq_getElem (hattends after).lt, ?_⟩
  split
  · trivial
  · rename_i w pause hp
    have hplace := List.getElem?_eq_getElem (hattends after).lt
    rw [hp] at hplace
    obtain ⟨⟨stage, rfl⟩, hsuspends⟩ := (hattends after).suspends (hkeeps after) hplace
    exact ⟨⟨rfl, rfl, rfl⟩, hsuspends⟩
  · rename_i answer hp
    have hplace := List.getElem?_eq_getElem (hattends after).lt
    rw [hp] at hplace
    have hunderWay : (begun.next (.wait h count within)).underWay? i
        = some { handler := h, count, deadline } := by
      rw [underWay?, show (begun.next (.wait h count within)).waits[i]? = _ from
        List.getElem?_concat_length]
      rfl
    obtain ⟨earlier, later, w, rfl, hw, hstep⟩ := ended_run hwait hfirst hunderWay hplace
    obtain ⟨⟨stage, rfl⟩, -⟩ := (hattends earlier).wait w hw
    have hsteps := (hattends earlier).stepsTo_step (hkeeps earlier) hw
    change Wait.StepsTo (room earlier).fabric _ _ _ at hsteps
    rw [show Wait.step (room earlier).fabric _ = .ended answer from hstep] at hsteps
    refine ⟨earlier, later, rfl, ?_⟩
    cases hsteps with
    | ended hfew => exact ⟨rfl, hfew⟩

/-- A handler that collects, and has nothing yet. -/
def desk : Fabric where
  handlers := #[.collecting []]

/-- A wait that has found too little when its handler is called, and has not paused yet. -/
def callers : List Move :=
  [.advance 0, .advance 0, .handle ⟨0⟩ ⟨⟨0⟩, ∅, []⟩, .advance 0, .advance 0, .advance 0]

/-- The call that comes between the look and the pause of a wait wakes it. -/
theorem wait_misses_nothing_callers :
  desk.handler? ⟨0⟩ = some (.collecting [])
    ∧ ∃ earlier later, callers = earlier ++ .advance 0 :: later
      ∧ [⟨⟨0⟩, ∅, []⟩] = (run { fabric := desk } (.wait ⟨0⟩ 1 5 :: earlier)).fabric.received ⟨0⟩
  := by
  refine ⟨rfl, ?_⟩
  obtain ⟨-, p, hp, hend⟩ := wait_misses_nothing (f := desk) (h := ⟨0⟩) rfl [] callers 1 5
  have hanswer : (run { fabric := desk } (.wait ⟨0⟩ 1 5 :: callers)).waits[0]?
      = some (.ended [⟨⟨0⟩, ∅, []⟩]) := rfl
  cases hp.symm.trans hanswer
  obtain ⟨earlier, later, hsplit, hreceived, -⟩ := hend
  exact ⟨earlier, later, hsplit, hreceived⟩

end Room

end ChannelBinding
