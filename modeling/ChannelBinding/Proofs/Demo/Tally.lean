import ChannelBinding.Proofs.Demo.Delivery

/-!
# The tally of the demo

What the demo tells of its messages, taken together: each message that was published was counted by the
handler of one input, which is bound to the destination of the message, or it was refused, with a warning.
Hence what the handlers have counted and the warnings add up to the number of messages.
-/

namespace ChannelBinding

/-- Whether an event warns that a message could not be published. -/
def Event.isWarning : Event → Bool
  | publishFailed .. => true
  | _ => false

/-- What the handlers that sum up have counted, taken together. -/
def Event.total : List Event → Nat
  | [] => 0
  | summary _ received :: rest => received + total rest
  | _ :: rest => total rest

theorem Event.total_append (events events' : List Event) :
  total (events ++ events') = total events + total events'
  := by
  induction events with
  | nil => exact (Nat.zero_add _).symm
  | cons e events ih => cases e <;> simp [total, ih, Nat.add_assoc]

/-- Who sums up tells of the demo. -/
theorem Event.total_filter_isOfDemo (events : List Event) :
  total (events.filter isOfDemo) = total events
  := by
  induction events with
  | nil => rfl
  | cons e events ih => cases e <;> simp [List.filter_cons, total, isOfDemo, ih]

/-- Who warns tells of the demo. -/
theorem Event.countP_filter_isOfDemo (events : List Event) :
  (events.filter isOfDemo).countP isWarning = events.countP isWarning
  := by
  rw [List.countP_filter]
  apply List.countP_congr
  intro e _
  cases e <;> simp [isOfDemo, isWarning]

namespace Demo

/-- What is found in a list with one more element is found in the list, or is this element. -/
theorem getElem?_concat_cases {α : Type} {xs : List α} {x y : α} {j : Nat}
    (h : (xs ++ [x])[j]? = some y) :
  xs[j]? = some y ∨ j = xs.length ∧ y = x
  := by
  rcases Nat.lt_or_ge j xs.length with hlt | hge
  · rw [List.getElem?_append_left hlt] at h
    exact Or.inl h
  · rw [List.getElem?_append_right hge, List.getElem?_singleton] at h
    split at h
    · rename_i heq
      cases h
      exact Or.inr ⟨Nat.le_antisymm (Nat.le_of_sub_eq_zero heq) hge, rfl⟩
    · cases h

/-- How the demo sums up what the handler of each input has counted. -/
def summaries (names : List String) (counts : Nat → Nat) : List Event :=
  names.mapIdx fun k name => .summary name (counts k)

theorem total_summaries_zero (names : List String) :
  Event.total (summaries names fun _ => 0) = 0
  := by
  induction names with
  | nil => rfl
  | cons name names ih =>
    rw [summaries, List.mapIdx_cons, Event.total, Nat.zero_add]
    exact ih

/-- A handler that has counted one more makes the total one more. -/
theorem total_summaries_bump {names : List String} {counts counts' : Nat → Nat} {k : Nat}
    (hk : k < names.length) (hself : counts' k = counts k + 1)
    (hothers : ∀ {j}, j ≠ k → counts' j = counts j) :
  Event.total (summaries names counts') = Event.total (summaries names counts) + 1
  := by
  induction names generalizing counts counts' k with
  | nil => cases hk
  | cons name names ih =>
    have hcons : ∀ counts, Event.total (summaries (name :: names) counts)
        = counts 0 + Event.total (summaries names fun k => counts (k + 1)) := by
      intro counts
      rw [summaries, List.mapIdx_cons, Event.total]
      rfl
    rw [hcons, hcons]
    cases k with
    | zero =>
      have htail : (fun k => counts' (k + 1)) = fun k => counts (k + 1) := by
        funext j
        exact hothers (Nat.succ_ne_zero j)
      rw [htail, hself, Nat.add_right_comm]
    | succ k =>
      have htail : Event.total (summaries names fun k => counts' (k + 1))
          = Event.total (summaries names fun k => counts (k + 1)) + 1 := by
        apply ih (Nat.lt_of_succ_lt_succ hk) hself
        intro j hj
        exact hothers fun h => hj (Nat.succ_inj.mp h)
      rw [htail, hothers (Nat.succ_ne_zero k).symm, Nat.add_assoc]

/-- What has become of the messages that were published under some names, one after the other, and what was
told of it: an input that is bound to the destination of the name has counted the message, or it was
refused.  An input goes by its place among the names of all inputs. -/
inductive Recounts (settings : Settings) (all : List String) :
    List String → List (Option Nat) → List Event → Prop where
  | nil : Recounts settings all [] [] []
  | counted {published : List String} {hearers : List (Option Nat)} {events : List Event} {k : Nat}
      {name input : String} {contentType : Option String} {payload : String}
      (h : Recounts settings all published hearers events) (hinput : all[k]? = some input)
      (hbound : settings.destination name ∈ Text.commaParts (settings.destination input)) :
    Recounts settings all (published ++ [name]) (hearers ++ [some k])
      (events ++ [.messageReceived input ⟨published.length⟩ contentType payload])
  | refused {published : List String} {hearers : List (Option Nat)} {events : List Event}
      {name : String} {e : DeliveryError} (h : Recounts settings all published hearers events) :
    Recounts settings all (published ++ [name]) (hearers ++ [none])
      (events ++ [.publishFailed name e])

namespace Recounts

variable {settings : Settings} {all published : List String} {hearers : List (Option Nat)}
variable {events : List Event}

theorem length_eq (h : Recounts settings all published hearers events) :
  hearers.length = published.length
  := by
  induction h with
  | nil => rfl
  | counted _ _ _ ih => rw [List.length_append, List.length_append, ih, List.length_singleton,
      List.length_singleton]
  | refused _ ih => rw [List.length_append, List.length_append, ih, List.length_singleton,
      List.length_singleton]

/-- Whoever has counted a message is bound to its destination. -/
theorem bound (h : Recounts settings all published hearers events) {j k : Nat}
    (hj : hearers[j]? = some (some k)) :
  ∃ name input, published[j]? = some name ∧ all[k]? = some input
    ∧ settings.destination name ∈ Text.commaParts (settings.destination input)
  := by
  -- what is found among the messages so far is found among them all
  have hkept : ∀ {published : List String} {name : String}, (∃ name input, published[j]? = some name
        ∧ all[k]? = some input
        ∧ settings.destination name ∈ Text.commaParts (settings.destination input)) →
      ∃ name' input, (published ++ [name])[j]? = some name' ∧ all[k]? = some input
        ∧ settings.destination name' ∈ Text.commaParts (settings.destination input) := by
    rintro published name ⟨name', input, hname, hrest⟩
    have hlt := (List.getElem?_eq_some_iff.mp hname).1
    exact ⟨name', input, (List.getElem?_append_left hlt).trans hname, hrest⟩
  induction h with
  | nil => cases hj
  | @counted published hearers _ _ name input _ _ h hinput hbound ih =>
    rcases getElem?_concat_cases hj with hold | ⟨rfl, heq⟩
    · exact hkept (ih hold)
    · cases heq
      refine ⟨name, input, ?_, hinput, hbound⟩
      rw [h.length_eq, List.getElem?_concat_length]
  | refused h ih =>
    rcases getElem?_concat_cases hj with hold | ⟨rfl, heq⟩
    · exact hkept (ih hold)
    · cases heq

/-- Nobody sums up before the end. -/
theorem total_eq (h : Recounts settings all published hearers events) :
  Event.total events = 0
  := by
  induction h with
  | nil => rfl
  | counted _ _ _ ih =>
    rw [Event.total_append, ih]
    rfl
  | refused _ ih =>
    rw [Event.total_append, ih]
    rfl

/-- What was counted and the warnings add up to the number of messages. -/
theorem total_add_warnings (h : Recounts settings all published hearers events) :
  Event.total (summaries all fun k => hearers.count (some k)) + events.countP Event.isWarning
    = published.length
  := by
  induction h with
  | nil => exact total_summaries_zero all
  | @counted published hearers events k _ _ _ _ _ hinput _ ih =>
    have hbump : Event.total (summaries all fun j => (hearers ++ [some k]).count (some j))
        = Event.total (summaries all fun j => hearers.count (some j)) + 1 := by
      apply total_summaries_bump (List.getElem?_eq_some_iff.mp hinput).1
      · rw [List.count_append, List.count_singleton_self]
      · intro j hj
        rw [List.count_append, List.count_singleton, if_neg, Nat.add_zero]
        simp [Ne.symm hj]
    rw [hbump, List.countP_append, List.length_append, ← ih, List.length_singleton]
    exact Nat.add_right_comm _ _ _
  | @refused published hearers events _ _ _ ih =>
    have hsame : (fun j => (hearers ++ [none]).count (some j)) = fun j => hearers.count (some j) := by
      funext j
      rw [List.count_append, List.count_singleton, if_neg, Nat.add_zero]
      simp
    rw [hsame, List.countP_append, List.length_append, ← ih, List.length_singleton]
    rfl

end Recounts

/-- How the books stand when messages were published under some names: each message that was made has been
accounted for, and the handlers of the inputs have counted what they have heard. -/
structure Tally (settings : Settings) (all : List String) (inputs : List Input)
    (published : List String) (hearers : List (Option Nat)) (f : Fabric) : Prop where
  minted : f.minted = published.length
  recounts : Recounts settings all published hearers f.demoTold
  counted : ∀ {k i}, inputs[k]? = some i →
    f.handler? i.handler = some (.reporting i.name (hearers.count (some k)))

namespace Tally

variable {settings : Settings} {all published : List String} {inputs : List Input}
variable {hearers : List (Option Nat)} {f f' : Fabric} {name : String} {payload : List UInt8}

theorem of_quiet (ht : Tally settings all inputs published hearers f) (h : f.Quiet f') :
  Tally settings all inputs published hearers f'
  := ⟨h.minted.trans ht.minted, h.demoTold_eq ▸ ht.recounts, fun hi => h.handler (ht.counted hi)⟩

/-- An input that is added before any message is published has counted nothing. -/
theorem addInput (ht : Tally settings all inputs [] [] f) (h : f.Quiet f') {i : Input}
    (hi : f'.handler? i.handler = some (.reporting i.name 0)) :
  Tally settings all (inputs ++ [i]) [] [] f'
  := by
  have hold := ht.of_quiet h
  refine ⟨hold.minted, hold.recounts, ?_⟩
  intro k i' hk
  rcases getElem?_concat_cases hk with hk | ⟨-, rfl⟩
  · exact hold.counted hk
  · exact hi

/-- A message that an input hears is counted by its handler. -/
theorem hears (ht : Tally settings all inputs published hearers f)
    (hinj : (inputs.map Input.handler).Nodup) {k : Nat} {i : Input} (hk : inputs[k]? = some i)
    (hinput : all[k]? = some i.name)
    (hbound : settings.destination name ∈ Text.commaParts (settings.destination i.name))
    (h : Hears (f.mint ∅ payload).1 f' i ⟨f.minted⟩) :
  Tally settings all inputs (published ++ [name]) (hearers ++ [some k]) f'
  := by
  obtain ⟨contentType, text, htold⟩ := h.told
  constructor
  · rw [h.minted, List.length_append, List.length_singleton, ← ht.minted]
    rfl
  · rw [htold, ht.minted]
    exact ht.recounts.counted hinput hbound
  · intro k' i' hk'
    rw [List.count_append]
    by_cases heq : k' = k
    · subst heq
      rw [hk] at hk'
      cases hk'
      obtain ⟨received, hbefore, hafter⟩ := h.counted
      have hcounted := (ht.counted hk).symm.trans hbefore
      obtain ⟨-, rfl⟩ := Handler.reporting.inj (Option.some.inj hcounted)
      rw [List.count_singleton_self]
      exact hafter
    · have hother : i'.handler ≠ i.handler := by
        intro hsame
        apply heq
        have hlt := (List.getElem?_eq_some_iff.mp hk').1
        apply (List.getElem?_inj (by rwa [List.length_map]) hinj).mp
        rw [List.getElem?_map, List.getElem?_map, hk', hk, Option.map_some, hsame, Option.map_some]
      rw [List.count_singleton, if_neg, Nat.add_zero, h.others hother]
      · exact ht.counted hk'
      · simp [Ne.symm heq]

/-- A message that is refused is warned of. -/
theorem refuse (ht : Tally settings all inputs published hearers f)
    (h : (f.mint ∅ payload).1.Passes f') (e : DeliveryError) :
  Tally settings all inputs (published ++ [name]) (hearers ++ [none])
    (f'.emit (.publishFailed name e))
  := by
  constructor
  · rw [List.length_append, List.length_singleton, ← ht.minted]
    exact h.minted
  · rw [Fabric.demoTold_emit _ rfl, h.demoTold_eq]
    exact ht.recounts.refused
  · intro k i hk
    rw [List.count_append, List.count_singleton, if_neg, Nat.add_zero]
    · exact h.handler (ht.counted hk)
    · simp

end Tally

end Demo

end ChannelBinding
