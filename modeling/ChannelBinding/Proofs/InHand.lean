import ChannelBinding.Proofs.Bookkeeping
import ChannelBinding.Proofs.Holders
import ChannelBinding.Proofs.Walk
import Mathlib.Data.List.Induction

/-!
# Bindings in hand

A consumer bind with several destinations keeps the bindings that it was handed to itself until it can
record all of them at once; if a destination is refused, it unbinds them one after the other.  What it
was handed it has therefore unbound, or recorded, or still in hand.  A bind that ends has nothing in
hand any more.  A bind that is dropped loses what it has in hand: nobody records or unbinds that on its
behalf.
-/

namespace ChannelBinding

variable {ι τ β : Type} {setup : Setup ι τ β}

/-! ## What calls are handed, have in hand and let go of -/

namespace ConsumerBind

/-- The bindings that a consumer bind was handed and has yet to record or to unbind. -/
def inHand : ConsumerBind ι β → List BindingId
  | binding _ _ _ _ created => created
  | rollingBack release _ => release.pending

/-- The binding that the binder hands to a consumer bind in its next step, if it does. -/
def handed (setup : Setup ι τ β) (s : System τ) : ConsumerBind ι β → List BindingId
  | binding _ _ call _ _ =>
    match (setup.bindProcess.step s call).2 with
    | .ended (.ok b) => [b]
    | _ => []
  | rollingBack .. => []

/-- The binding that a consumer bind begins to unbind in its next step, if it does. -/
def unbound : ConsumerBind ι β → List BindingId
  | rollingBack ⟨_, .requested b, _, _⟩ _ => [b]
  | _ => []

/-- The name that a consumer bind was asked for. -/
def target : ConsumerBind ι β → String
  | binding request .. => request.name
  | rollingBack release _ => release.name

/-- Whether a consumer bind goes through the parts of the destination of its name, with one binding for
each part that it is done with. -/
def IsOnCourse (setup : Setup ι τ β) : ConsumerBind ι β → Prop
  | binding request destination _ rest created =>
    ∃ done, Text.commaParts (setup.settings.destination request.name) = done ++ destination :: rest
      ∧ created.length = done.length
  | rollingBack release _ =>
    release.pending.length < (Text.commaParts (setup.settings.destination release.name)).length

/-- A bind that is on its course has fewer bindings in hand than its name has destinations. -/
theorem IsOnCourse.length_inHand_lt {bind : ConsumerBind ι β} (h : bind.IsOnCourse setup) :
  bind.inHand.length < (Text.commaParts (setup.settings.destination bind.target)).length
  := by
  cases bind with
  | binding request destination call rest created =>
    obtain ⟨done, hparts, hlength⟩ := h
    rw [target, hparts, inHand, hlength, List.length_append, List.length_cons]
    omega
  | rollingBack release e => apply h

end ConsumerBind

/-- The consumer bindings that are recorded. -/
def Happening.consumers : Happening → List BindingId
  | tracked .consumer _ bs => bs
  | _ => []

/-- What was added under a name some call has recorded there. -/
theorem tracked_of_mem_addedSince {role : Role} {name : String} {history : List (Nat × Happening)}
    {b : BindingId} (h : b ∈ addedSince role name history) :
  ∃ i bs, (i, .tracked role name bs) ∈ history ∧ b ∈ bs
  := by
  obtain ⟨⟨i, e⟩, he, hb⟩ := List.mem_flatMap.mp h
  have hmem : (i, e) ∈ history := (List.rtakeWhile_suffix _ _).subset he
  unfold Happening.recorded at hb
  dsimp only at hb
  split at hb
  · split at hb
    · rename_i heq
      obtain ⟨rfl, rfl⟩ := heq
      exact ⟨i, _, hmem, hb⟩
    · cases hb
  · cases hb

namespace Call

/-- The bindings that a call has in hand; only consumer binds have any. -/
def inHand : Call ι β → List BindingId
  | consuming bind => bind.inHand
  | _ => []

/-- The binding that a consumer bind is handed in its next step. -/
def handed (setup : Setup ι τ β) (s : System τ) : Call ι β → List BindingId
  | consuming bind => bind.handed setup s
  | _ => []

/-- The binding that a consumer bind begins to unbind in its next step. -/
def unbound : Call ι β → List BindingId
  | consuming bind => bind.unbound
  | _ => []

theorem inHand_dropped (call : Call ι β) :
  call.dropped.inHand = []
  := by
  cases call <;> rfl

theorem dropped_ne_consuming (call : Call ι β) (bind : ConsumerBind ι β) :
  call.dropped ≠ .consuming bind
  := by
  cases call <;> simp [dropped]

end Call

/-! ## What a step does with the bindings in hand -/

/-- A bind that goes on to its next destination keeps what it has made, and one that has none left
records it. -/
theorem ConsumerBind.inHand_next (setup : Setup ι τ β) (s : System τ) (request : ConsumerRequest ι)
    (created : List BindingId) (rest : List String) :
  (Call.recorded .consumer request.name id (next setup s request created rest).2).flatMap
      Happening.consumers
    ++ (Call.after .consuming (next setup s request created rest).2).inHand = created
  := by
  cases rest with
  | nil => exact (List.append_nil _).trans (List.flatMap_singleton _ _)
  | cons destination rest => rfl

/-- A bind that rolls back has in hand what the release is still to unbind. -/
theorem ConsumerBind.inHand_rollBack (e : BinderError) (p : Progress Release (Option BinderError)) :
  (Call.after (ι := ι) (β := β) .consuming (rollBack e p)).inHand = Release.pendingAfter p
  := by
  cases p <;> rfl

/-- A bind that rolls back records nothing. -/
theorem ConsumerBind.recorded_rollBack (name : String) (e : BinderError)
    (p : Progress Release (Option BinderError)) :
  Call.recorded .consumer name id (rollBack (ι := ι) (β := β) e p) = []
  := by
  cases p <;> rfl

/-- A release begins to unbind the first of its bindings, unless it has begun already. -/
theorem ConsumerBind.unbound_append_rest (release : Release) (e : BinderError) :
  (rollingBack (ι := ι) (β := β) release e).unbound ++ release.rest = release.pending
  := by
  obtain ⟨name, u, rest, failure⟩ := release
  cases u <;> rfl

/-- What a consumer bind has in hand and is handed in a step, it unbinds or records in that step or has
in hand after it. -/
theorem ConsumerBind.inHand_step (setup : Setup ι τ β) (s : System τ) (bind : ConsumerBind ι β) :
  bind.inHand ++ bind.handed setup s
    = bind.unbound
      ++ (Call.recorded .consumer (Call.consumerName bind) id (step setup s bind).2).flatMap
        Happening.consumers
      ++ (Call.after .consuming (step setup s bind).2).inHand
  := by
  cases bind with
  | binding request destination call rest created =>
    obtain ⟨s', p, hp⟩ : ∃ s' p, setup.bindProcess.step s call = (s', p) := ⟨_, _, rfl⟩
    simp only [inHand, handed, unbound, step, hp, List.nil_append]
    cases p with
    | running call' => apply List.append_nil
    | waiting call' pause => apply List.append_nil
    | ended answer =>
      cases answer with
      | ok b => exact (inHand_next setup s' request (created ++ [b]) rest).symm
      | error e =>
        dsimp only
        rw [recorded_rollBack, inHand_rollBack, Release.pendingAfter_begin, List.append_nil]
        rfl
  | rollingBack release e =>
    simp only [handed, step]
    rw [recorded_rollBack, inHand_rollBack, Release.pendingAfter_step, List.flatMap_nil,
      List.append_nil, List.append_nil, unbound_append_rest]
    rfl

/-- A call that is no consumer bind has nothing in hand after a step. -/
theorem Call.inHand_after {ρ α : Type} (call : ρ → Call ι β) (hcall : ∀ r, (call r).inHand = [])
    (p : Progress ρ α) :
  (after call p).inHand = []
  := by
  cases p with
  | running r => apply hcall
  | waiting r pause => apply hcall
  | ended a => rfl

/-- Only consumer binds record consumer bindings. -/
theorem Call.consumers_step (setup : Setup ι τ β) (s : System τ) {call : Call ι β}
    (hcall : ∀ bind, call ≠ .consuming bind) :
  (call.step setup s).2.2.flatMap Happening.consumers = []
  := by
  apply flatMap_eq_nil
  intro e he
  unfold Happening.consumers
  split
  · rename_i name bs
    have hadds := ((call.tellsNews_step setup s).tracked_iff .consumer name bs).mp he
    cases hadds with
    | consuming h => exact absurd rfl (hcall _)
  · rfl

/-- What a call has in hand and is handed in a step, it unbinds or records in that step or has in hand
after it. -/
theorem Call.inHand_step (setup : Setup ι τ β) (s : System τ) (call : Call ι β) :
  call.inHand ++ call.handed setup s
    = call.unbound ++ (call.step setup s).2.2.flatMap Happening.consumers
      ++ (call.step setup s).2.1.inHand
  := by
  by_cases hconsuming : ∃ bind, call = .consuming bind
  · obtain ⟨bind, rfl⟩ := hconsuming
    apply bind.inHand_step
  · have hcall : ∀ bind, call ≠ .consuming bind := not_exists.mp hconsuming
    have hafter : (call.step setup s).2.1.inHand = [] := by
      cases call with
      | consuming bind => exact absurd rfl (hcall bind)
      | finished => rfl
      | resolving | producing | attaching | unbinding | releasing | draining | stopping =>
        exact inHand_after _ (fun _ => rfl) _
    rw [consumers_step setup s hcall, hafter]
    cases call with
    | consuming bind => exact absurd rfl (hcall bind)
    | _ => rfl

/-! ## The course of a consumer bind -/

/-- A call that goes on is of the kind that it was. -/
theorem Call.of_after {ρ α : Type} {call : ρ → Call ι β} {p : Progress ρ α}
    {bind : ConsumerBind ι β} (h : after call p = .consuming bind) :
  ∃ r, p.rest? = some r ∧ call r = .consuming bind
  := by
  cases p with
  | running r => exact ⟨r, rfl, h⟩
  | waiting r pause => exact ⟨r, rfl, h⟩
  | ended a => cases h

/-- A bind that goes on has recorded nothing. -/
theorem Call.recorded_of_after {p : Progress (ConsumerBind ι β) ConsumerAnswer}
    {bind : ConsumerBind ι β} (h : after .consuming p = .consuming bind) (name : String) :
  recorded .consumer name id p = []
  := by
  cases p with
  | running r => rfl
  | waiting r pause => rfl
  | ended a => cases h

/-- Only a consumer bind goes on as one, and nothing is recorded as long as it does. -/
theorem Call.of_step_consuming {s : System τ} {call : Call ι β} {bind' : ConsumerBind ι β}
    (h : (call.step setup s).2.1 = .consuming bind') :
  ∃ bind, call = .consuming bind
    ∧ after .consuming (ConsumerBind.step setup s bind).2 = .consuming bind'
    ∧ (call.step setup s).2.2 = []
  := by
  cases call with
  | consuming bind => exact ⟨bind, rfl, h, recorded_of_after h _⟩
  | finished => cases h
  | resolving | producing | attaching | unbinding | releasing | draining | stopping =>
    obtain ⟨r, -, ⟨⟩⟩ := of_after h

/-- A release goes by the name that it was begun with. -/
theorem Release.name_begin {name : String} {failure : Option BinderError} {bs : List BindingId}
    {r : Release} (h : (begin name failure bs).rest? = some r) :
  r.name = name
  := by
  cases bs with
  | nil => cases h
  | cons b rest =>
    cases h
    rfl

theorem Release.name_step {f : Fabric} {r r' : Release} (h : (step f r).2.rest? = some r') :
  r'.name = r.name
  := by
  obtain ⟨f', p, hp⟩ : ∃ f' p, Unbinding.step f r.current = (f', p) := ⟨_, _, rfl⟩
  simp only [step, hp] at h
  cases p with
  | running u =>
    cases h
    rfl
  | waiting u pause => exact absurd hp Unbinding.step_ne_waiting
  | ended result => apply name_begin h

namespace ConsumerBind

/-- A bind that comes to its next destination has a binding for each one before. -/
theorem isOnCourse_next {s : System τ} {request : ConsumerRequest ι} {created : List BindingId}
    {done rest : List String}
    (hparts : Text.commaParts (setup.settings.destination request.name) = done ++ rest)
    (hlength : created.length = done.length) {bind : ConsumerBind ι β}
    (h : Call.after .consuming (next setup s request created rest).2 = .consuming bind) :
  bind.IsOnCourse setup
  := by
  cases rest with
  | nil => cases h
  | cons destination rest =>
    cases h
    exact ⟨done, hparts, hlength⟩

theorem isOnCourse_begin {s : System τ} {name : String} {input : ChannelId}
    {bind : ConsumerBind ι β}
    (h : Call.after .consuming (begin setup s name input).2 = .consuming bind) :
  bind.IsOnCourse setup ∧ bind.inHand = []
  := by
  unfold begin at h
  cases hprepare : prepare setup s.binders name input with
  | error e =>
    rw [hprepare] at h
    cases h
  | ok prepared =>
    obtain ⟨request, destinations⟩ := prepared
    rw [hprepare] at h
    obtain ⟨hname, hdestinations, -⟩ := of_prepare hprepare
    have hparts : Text.commaParts (setup.settings.destination request.name) = [] ++ destinations := by
      rw [hname, hdestinations]
      rfl
    constructor
    · apply isOnCourse_next hparts rfl h
    · have hinHand := inHand_next setup s request [] destinations
      rw [h] at hinHand
      apply (List.append_eq_nil_iff.mp hinHand).2

/-- A bind that rolls back has a release before it that goes by its name. -/
theorem isOnCourse_rollBack {name : String} {e : BinderError}
    {p : Progress Release (Option BinderError)} (hname : ∀ r, p.rest? = some r → r.name = name)
    (hlength : (Release.pendingAfter p).length
      < (Text.commaParts (setup.settings.destination name)).length)
    {bind : ConsumerBind ι β} (h : Call.after .consuming (rollBack e p) = .consuming bind) :
  bind.IsOnCourse setup
  := by
  cases p with
  | running r | waiting r pause =>
    cases h
    rw [IsOnCourse, hname r rfl]
    apply hlength
  | ended failure => cases h

/-- A bind that is on its course stays there as long as it goes on. -/
theorem IsOnCourse.step {s : System τ} {bind bind' : ConsumerBind ι β} (hbind : bind.IsOnCourse setup)
    (h : Call.after .consuming (ConsumerBind.step setup s bind).2 = .consuming bind') :
  bind'.IsOnCourse setup
  := by
  have hfew := hbind.length_inHand_lt
  cases bind with
  | binding request destination call rest created =>
    obtain ⟨s', p, hp⟩ : ∃ s' p, setup.bindProcess.step s call = (s', p) := ⟨_, _, rfl⟩
    simp only [ConsumerBind.step, hp] at h
    cases p with
    | running call' =>
      cases h
      apply hbind
    | waiting call' pause =>
      cases h
      apply hbind
    | ended answer =>
      cases answer with
      | ok b =>
        obtain ⟨done, hparts, hlength⟩ := hbind
        have hparts' : Text.commaParts (setup.settings.destination request.name)
            = (done ++ [destination]) ++ rest := by
          rw [hparts, List.append_assoc, List.singleton_append]
        apply isOnCourse_next hparts' _ h
        rw [List.length_append, List.length_append, hlength]
        rfl
      | error e =>
        refine isOnCourse_rollBack (fun r => Release.name_begin) ?_ h
        rw [Release.pendingAfter_begin]
        apply hfew
  | rollingBack release e =>
    refine isOnCourse_rollBack (fun r => Release.name_step) ?_ h
    rw [Release.pendingAfter_step]
    have hpending := congrArg List.length (unbound_append_rest (ι := ι) (β := β) release e)
    rw [List.length_append] at hpending
    rw [inHand, target] at hfew
    omega

end ConsumerBind

/-! ## What a move makes of one call -/

/-- A consumer bind that begins is on its course and has nothing in hand. -/
theorem Request.of_begin_consuming {s : System τ} {request : Request ι} {bind : ConsumerBind ι β}
    (h : (request.begin setup s).2.1 = .consuming bind) :
  bind.IsOnCourse setup ∧ bind.inHand = []
  := by
  cases request with
  | bindConsumer name input => apply ConsumerBind.isOnCourse_begin h
  | bindProducer name output properties => obtain ⟨r, -, ⟨⟩⟩ := Call.of_after h
  | attach binder request => cases request <;> cases h
  | _ => cases h

theorem Request.inHand_begin (setup : Setup ι τ β) (s : System τ) (request : Request ι) :
  (request.begin setup s).2.1.inHand = []
  := by
  cases hcall : (request.begin setup s).2.1 with
  | consuming bind => apply (of_begin_consuming hcall).2
  | _ => rfl

/-- To begin a call records nothing. -/
theorem Request.consumers_begin (setup : Setup ι τ β) (s : System τ) (request : Request ι) :
  (request.begin setup s).2.2.flatMap Happening.consumers = []
  := by
  apply flatMap_eq_nil
  intro e he
  unfold Happening.consumers
  split
  · exact (((request.tellsNews_begin setup s).tracked_iff _ _ _).mp he).elim
  · rfl

namespace World

/-- `w.Turn setup i m call news`: what a move makes of one call, and what the call brings about in
it. -/
inductive Turn (setup : Setup ι τ β) (w : World ι τ β) (i : Nat) :
    Move ι → Call ι β → List Happening → Prop where
  /-- The move is about something else. -/
  | rest (m : Move ι) (hadvance : m ≠ .advance i) (hdrop : m ≠ .drop i) : Turn setup w i m (w.call i) []
  | begun (request : Request ι) (hi : i = w.calls.length) :
    Turn setup w i (.call request) (request.begin setup w.system).2.1
      (request.begin setup w.system).2.2
  | advanced :
    Turn setup w i (.advance i) ((w.call i).step setup w.system).2.1
      ((w.call i).step setup w.system).2.2
  | dropped : Turn setup w i (.drop i) (w.call i).dropped []

/-- Every move is a turn of every call. -/
theorem turn_next (setup : Setup ι τ β) (w : World ι τ β) (m : Move ι) (i : Nat) :
  ∃ news, Turn setup w i m ((w.next setup m).call i) news
    ∧ ofCall i (w.next setup m).history = ofCall i w.history ++ news
  := by
  -- the move is about something else
  have hrest : m ≠ .advance i → m ≠ .drop i → (w.next setup m).call i = w.call i →
      ofCall i (w.next setup m).history = ofCall i w.history →
        ∃ news, Turn setup w i m ((w.next setup m).call i) news
          ∧ ofCall i (w.next setup m).history = ofCall i w.history ++ news := by
    intro hadvance hdrop hcall hhistory
    rw [hcall, hhistory]
    exact ⟨[], .rest m hadvance hdrop, (List.append_nil _).symm⟩
  cases m with
  | call request =>
    by_cases hrequest : ∀ c ∈ request.channels, c.index < w.system.fabric.channels.size
    · simp only [next, if_pos hrequest, call_append, ofCall_append] at hrest ⊢
      by_cases hi : i = w.calls.length
      · rw [hi, Function.update_self, if_pos rfl]
        exact ⟨_, .begun request rfl, rfl⟩
      · rw [if_neg (Ne.symm hi), List.append_nil] at hrest ⊢
        apply hrest (by simp) (by simp) (Function.update_of_ne hi _ _) rfl
    · apply hrest (by simp) (by simp) <;> simp only [next, if_neg hrequest]
  | advance j =>
    have hhistory : ofCall i (w.next setup (.advance j)).history
        = ofCall i w.history ++ if j = i then ((w.call j).step setup w.system).2.2 else [] := by
      rw [next_advance, ofCall_append]
    rw [call_advance, hhistory] at hrest ⊢
    by_cases hji : j = i
    · subst hji
      rw [Function.update_self, if_pos rfl]
      exact ⟨_, .advanced, rfl⟩
    · rw [if_neg hji, List.append_nil] at hrest ⊢
      apply hrest (by simp [hji]) (by simp) (Function.update_of_ne (Ne.symm hji) _ _) rfl
  | drop j =>
    rw [call_drop, history_drop] at hrest ⊢
    by_cases hji : j = i
    · subst hji
      rw [Function.update_self]
      exact ⟨[], .dropped, (List.append_nil _).symm⟩
    · apply hrest (by simp) (by simp [hji]) (Function.update_of_ne (Ne.symm hji) _ _) rfl
  | _ => exact hrest (by simp) (by simp) rfl rfl

namespace Turn

variable {w : World ι τ β} {i : Nat} {m : Move ι} {call' : Call ι β} {news : List Happening}

/-- A consumer bind that is on its course stays there. -/
theorem isOnCourse (h : w.Turn setup i m call' news)
    (hi : ∀ bind, w.call i = .consuming bind → bind.IsOnCourse setup) {bind : ConsumerBind ι β}
    (hbind : call' = .consuming bind) :
  bind.IsOnCourse setup
  := by
  cases h with
  | rest m hadvance hdrop => apply hi bind hbind
  | begun request hlength => apply (Request.of_begin_consuming hbind).1
  | advanced =>
    obtain ⟨bind', hbind', hafter, -⟩ := Call.of_step_consuming hbind
    apply (hi bind' hbind').step hafter
  | dropped => exact absurd hbind ((w.call i).dropped_ne_consuming bind)

/-- A consumer bind that is still under way after a turn was under way before, or had not begun, and
has recorded nothing. -/
theorem of_consuming (h : w.Turn setup i m call' news) {bind : ConsumerBind ι β}
    (hbind : call' = .consuming bind) :
  ((∃ bind', w.call i = .consuming bind') ∨ i = w.calls.length) ∧ m ≠ .drop i
    ∧ news.flatMap Happening.consumers = []
  := by
  cases h with
  | rest m hadvance hdrop => exact ⟨Or.inl ⟨bind, hbind⟩, hdrop, rfl⟩
  | begun request hlength => exact ⟨Or.inr hlength, by simp, request.consumers_begin setup w.system⟩
  | advanced =>
    obtain ⟨bind', hbind', -, hnews⟩ := Call.of_step_consuming hbind
    rw [hnews]
    exact ⟨Or.inl ⟨bind', hbind'⟩, by simp, rfl⟩
  | dropped => exact absurd hbind ((w.call i).dropped_ne_consuming bind)

/-- Nothing becomes of a call that is over. -/
theorem of_finished (h : w.Turn setup i m call' news) (hi : w.call i = .finished)
    (hlength : i < w.calls.length) :
  call' = .finished ∧ news = []
  := by
  cases h with
  | rest m hadvance hdrop => exact ⟨hi, rfl⟩
  | begun request hlength' => exact absurd hlength' (Nat.ne_of_lt hlength)
  | advanced =>
    rw [hi]
    exact ⟨rfl, rfl⟩
  | dropped =>
    rw [hi]
    exact ⟨rfl, rfl⟩

end Turn

/-! ## What becomes of the bindings in hand -/

/-- The binding that a call is handed in a move. -/
def handedTo (setup : Setup ι τ β) (i : Nat) (w : World ι τ β) : Move ι → List BindingId
  | .advance j => if j = i then (w.call i).handed setup w.system else []
  | _ => []

/-- The binding that a consumer bind begins to unbind in a move. -/
def unboundBy (i : Nat) (w : World ι τ β) : Move ι → List BindingId
  | .advance j => if j = i then (w.call i).unbound else []
  | _ => []

/-- The bindings that a consumer bind has in hand when a move drops it. -/
def lostWith (i : Nat) (w : World ι τ β) : Move ι → List BindingId
  | .drop j => if j = i then (w.call i).inHand else []
  | _ => []

/-- The consumer bindings that a call has recorded. -/
def recordedBy (i : Nat) (w : World ι τ β) : List BindingId :=
  (ofCall i w.history).flatMap Happening.consumers

/-- What is seen in the moves of a run, one after the other. -/
def gather (setup : Setup ι τ β) (see : World ι τ β → Move ι → List BindingId) :
    World ι τ β → List (Move ι) → List BindingId
  | _, [] => []
  | w, m :: moves => see w m ++ gather setup see (w.next setup m) moves

theorem gather_append (see : World ι τ β → Move ι → List BindingId) (w : World ι τ β)
    (moves further : List (Move ι)) :
  w.gather setup see (moves ++ further)
    = w.gather setup see moves ++ (w.run setup moves).gather setup see further
  := by
  induction moves generalizing w with
  | nil => rfl
  | cons m moves ih =>
    rw [List.cons_append, gather, gather, ih, List.append_assoc]
    rfl

theorem gather_concat (see : World ι τ β → Move ι → List BindingId) (w : World ι τ β)
    (moves : List (Move ι)) (m : Move ι) :
  w.gather setup see (moves ++ [m]) = w.gather setup see moves ++ see (w.run setup moves) m
  := by
  rw [gather_append, gather, gather, List.append_nil]

namespace Turn

variable {w : World ι τ β} {i : Nat} {m : Move ι} {call' : Call ι β} {news : List Happening}

/-- What a call has in hand and is handed in a move, it unbinds or records in it, has in hand after it,
or had in hand when the move dropped it. -/
theorem inHand_eq (h : w.Turn setup i m call' news) :
  (w.call i).inHand ++ handedTo setup i w m
    = unboundBy i w m ++ news.flatMap Happening.consumers ++ call'.inHand ++ lostWith i w m
  := by
  cases h with
  | rest m hadvance hdrop =>
    have hnone : handedTo setup i w m = [] ∧ unboundBy i w m = [] ∧ lostWith i w m = [] := by
      cases m with
      | advance j =>
        have hji : j ≠ i := fun hji => hadvance (congrArg _ hji)
        simp only [handedTo, unboundBy, lostWith, if_neg hji, and_self]
      | drop j =>
        have hji : j ≠ i := fun hji => hdrop (congrArg _ hji)
        simp only [handedTo, unboundBy, lostWith, if_neg hji, and_self]
      | _ => exact ⟨rfl, rfl, rfl⟩
    obtain ⟨hhanded, hunbound, hlost⟩ := hnone
    simp only [hhanded, hunbound, hlost, List.flatMap_nil, List.append_nil, List.nil_append]
  | begun request hi =>
    have hcall : w.call i = .finished := by
      rw [hi, call_length]
    rw [hcall, request.inHand_begin, request.consumers_begin]
    rfl
  | advanced =>
    simp only [handedTo, unboundBy, lostWith, if_pos, List.append_nil]
    apply Call.inHand_step
  | dropped =>
    simp only [handedTo, unboundBy, lostWith, if_pos, Call.inHand_dropped, List.flatMap_nil,
      List.append_nil, List.nil_append]

/-- A call that is no consumer bind has nothing to do with bindings in hand. -/
theorem nothing (h : w.Turn setup i m call' news) (hi : ∀ bind, w.call i ≠ .consuming bind) :
  (w.call i).inHand = [] ∧ handedTo setup i w m = [] ∧ unboundBy i w m = []
    ∧ news.flatMap Happening.consumers = [] ∧ call'.inHand = [] ∧ lostWith i w m = []
  := by
  have hinHand : (w.call i).inHand = [] := by
    cases hcall : w.call i with
    | consuming bind => exact absurd hcall (hi bind)
    | _ => rfl
  have hhanded : handedTo setup i w m = [] := by
    cases m with
    | advance j =>
      rw [handedTo]
      split
      · cases hcall : w.call i with
        | consuming bind => exact absurd hcall (hi bind)
        | _ => rfl
      · rfl
    | _ => rfl
  have heq := h.inHand_eq
  rw [hinHand, hhanded] at heq
  simp only [List.nil_append, List.nil_eq, List.append_eq_nil_iff, and_assoc] at heq
  exact ⟨hinHand, hhanded, heq⟩

/-- A turn keeps the account of what a call was handed, if a call that is under way has recorded and
lost nothing. -/
theorem handed_append (h : w.Turn setup i m call' news)
    {handed unbound recorded lost : List BindingId}
    (heq : handed = unbound ++ recorded ++ (w.call i).inHand ++ lost)
    (hunderway : (∃ bind, w.call i = .consuming bind) → recorded = [] ∧ lost = []) :
  handed ++ handedTo setup i w m
    = unbound ++ unboundBy i w m ++ (recorded ++ news.flatMap Happening.consumers) ++ call'.inHand
      ++ (lost ++ lostWith i w m)
  := by
  by_cases hconsuming : ∃ bind, w.call i = .consuming bind
  · obtain ⟨rfl, rfl⟩ := hunderway hconsuming
    simp only [heq, List.append_nil, List.nil_append, List.append_assoc, h.inHand_eq]
  · obtain ⟨hinHand, hhanded, hunbound, hrecorded, hinHand', hlost⟩ :=
      h.nothing (not_exists.mp hconsuming)
    simp only [heq, hinHand, hhanded, hunbound, hrecorded, hinHand', hlost, List.append_nil]

/-- A turn after which a call is under way, or has not begun, neither records nor loses anything. -/
theorem nothing_of_underway (h : w.Turn setup i m call' news)
    (hunderway : (∃ bind, call' = .consuming bind) ∨ w.calls.length ≤ i) :
  ((∃ bind, w.call i = .consuming bind) ∨ w.calls.length ≤ i)
    ∧ news.flatMap Happening.consumers = [] ∧ lostWith i w m = []
  := by
  rcases hunderway with ⟨bind, hbind⟩ | hlength
  · obtain ⟨hbefore, hdrop, hnews⟩ := h.of_consuming hbind
    refine ⟨hbefore.imp_right fun hi => Nat.le_of_eq hi.symm, hnews, ?_⟩
    cases m with
    | drop j => exact if_neg fun hji => hdrop (congrArg _ hji)
    | _ => rfl
  · have hfinished := call_of_length_le hlength
    obtain ⟨-, -, -, hnews, -, hlost⟩ := h.nothing (by simp [hfinished])
    exact ⟨Or.inr hlength, hnews, hlost⟩

end Turn

/-- Whether what a call was handed in the course of some moves is accounted for. -/
structure Conserves (setup : Setup ι τ β) (start : World ι τ β) (moves : List (Move ι)) (i : Nat) :
    Prop where
  isOnCourse : ∀ bind, (start.run setup moves).call i = .consuming bind → bind.IsOnCourse setup
  /-- What the call was handed it has unbound, or recorded, or has in hand, or had in hand when it was
  dropped. -/
  handed_eq : start.gather setup (handedTo setup i) moves
    = start.gather setup (unboundBy i) moves ++ recordedBy i (start.run setup moves)
      ++ ((start.run setup moves).call i).inHand ++ start.gather setup (lostWith i) moves
  /-- As long as the call is under way or has not begun, nothing is recorded and nothing lost. -/
  underway : (∃ bind, (start.run setup moves).call i = .consuming bind)
      ∨ (start.run setup moves).calls.length ≤ i →
    recordedBy i (start.run setup moves) = [] ∧ start.gather setup (lostWith i) moves = []

/-- One more move keeps the account of what a call was handed. -/
theorem Conserves.next {start : World ι τ β} {moves : List (Move ι)} {i : Nat}
    (h : Conserves setup start moves i) (m : Move ι) :
  Conserves setup start (moves ++ [m]) i
  := by
  have hnext : start.run setup (moves ++ [m]) = (start.run setup moves).next setup m :=
    run_append _ _ _ _
  obtain ⟨news, hturn, hhistory⟩ := turn_next setup (start.run setup moves) m i
  have hrecorded : recordedBy i ((start.run setup moves).next setup m)
      = recordedBy i (start.run setup moves) ++ news.flatMap Happening.consumers := by
    rw [recordedBy, hhistory, List.flatMap_append]
    rfl
  constructor
  · rw [hnext]
    intro bind hbind
    apply hturn.isOnCourse h.isOnCourse hbind
  · rw [hnext, gather_concat, gather_concat, gather_concat, hrecorded]
    apply hturn.handed_append h.handed_eq
    intro hconsuming
    apply h.underway (Or.inl hconsuming)
  · rw [hnext, gather_concat, hrecorded]
    intro hunderway
    obtain ⟨hbefore, hnews, hlostWith⟩ := hturn.nothing_of_underway
      (hunderway.imp_right (length_calls_le_next setup (start.run setup moves) m).trans)
    obtain ⟨hnone, hlost⟩ := h.underway hbefore
    rw [hnone, hlost, hnews, hlostWith]
    exact ⟨rfl, rfl⟩

/-- What a call was handed is accounted for in every run. -/
theorem conserves (setup : Setup ι τ β) (fabric : Fabric) (binders : τ) (moves : List (Move ι))
    (i : Nat) :
  Conserves setup (fresh fabric binders) moves i
  := by
  induction moves using List.reverseRecOn with
  | nil =>
    constructor
    · intro bind hbind
      cases hbind
    · rfl
    · intro _
      exact ⟨rfl, rfl⟩
  | append_singleton moves m ih => apply ih.next m

/-- A call that is over is handed nothing, unbinds nothing and records nothing. -/
theorem gather_of_finished (setup : Setup ι τ β) {w : World ι τ β} {i : Nat}
    (hi : w.call i = .finished) (hlength : i < w.calls.length) (moves : List (Move ι)) :
  w.gather setup (handedTo setup i) moves = [] ∧ w.gather setup (unboundBy i) moves = []
    ∧ recordedBy i (w.run setup moves) = recordedBy i w
  := by
  induction moves generalizing w with
  | nil => exact ⟨rfl, rfl, rfl⟩
  | cons m moves ih =>
    obtain ⟨news, hturn, hhistory⟩ := turn_next setup w m i
    obtain ⟨hcall, rfl⟩ := hturn.of_finished hi hlength
    obtain ⟨-, hhanded, hunbound, -⟩ := hturn.nothing (by simp [hi])
    obtain ⟨ihhanded, ihunbound, ihrecorded⟩ :=
      ih hcall (Nat.lt_of_lt_of_le hlength (length_calls_le_next setup w m))
    rw [gather, gather, hhanded, hunbound, ihhanded, ihunbound]
    refine ⟨rfl, rfl, ihrecorded.trans ?_⟩
    rw [recordedBy, hhistory, List.append_nil]
    rfl

/-- What is tracked was recorded by some other call than one that has recorded nothing. -/
theorem recorded_by_other (setup : Setup ι τ β) (fabric : Fabric) (binders : τ)
    (moves : List (Move ι)) {i : Nat} {name : String} {b : BindingId}
    (hnone : recordedBy i ((fresh fabric binders).run setup moves) = [])
    (hb : b ∈ ((fresh fabric binders : World ι τ β).run setup moves).system.ledger.tracked
      .consumer name) :
  ∃ j bs, j ≠ i ∧ b ∈ bs
    ∧ (j, .tracked .consumer name bs) ∈ ((fresh fabric binders).run setup moves).history
  := by
  have htracked := (balances setup fabric binders moves).tracked_eq .consumer name
  obtain ⟨j, bs, hmem, hbs⟩ := tracked_of_mem_addedSince (htracked ▸ hb)
  refine ⟨j, bs, ?_, hbs, hmem⟩
  rintro rfl
  have hrecorded : b ∈ recordedBy j ((fresh fabric binders).run setup moves) :=
    List.mem_flatMap.mpr ⟨_, mem_ofCall.mpr hmem, hbs⟩
  rw [hnone] at hrecorded
  cases hrecorded

/-- What becomes of the bindings of a consumer bind that is dropped, whatever happens after that. -/
structure LosesInHand (setup : Setup ι τ β) (start : World ι τ β) (moves further : List (Move ι))
    (i : Nat) (bind : ConsumerBind ι β) : Prop where
  /-- Nothing changes in the system when the bind is dropped. -/
  system_eq : ((start.run setup moves).next setup (.drop i)).system = (start.run setup moves).system
  /-- What the bind was handed it has begun to unbind, all but what it has in hand. -/
  handed_eq : start.gather setup (handedTo setup i) (moves ++ .drop i :: further)
    = start.gather setup (unboundBy i) (moves ++ .drop i :: further) ++ bind.inHand
  recorded_eq : recordedBy i (start.run setup (moves ++ .drop i :: further)) = []
  /-- Whatever is tracked another call has recorded. -/
  tracked : ∀ name b,
    b ∈ (start.run setup (moves ++ .drop i :: further)).system.ledger.tracked .consumer name →
      ∃ j bs, j ≠ i ∧ b ∈ bs
        ∧ (j, .tracked .consumer name bs) ∈ (start.run setup (moves ++ .drop i :: further)).history
  /-- Fewer bindings are in hand than there are destinations, so none is if there is just one. -/
  length_inHand_lt :
    bind.inHand.length < (Text.commaParts (setup.settings.destination bind.target)).length

/-- A consumer bind that is dropped loses the bindings that it has in hand, and these alone: what it
was handed before it has begun to unbind, what it has in hand it never unbinds or records. -/
theorem dropped_bind_loses_in_hand (setup : Setup ι τ β) (fabric : Fabric) (binders : τ)
    (moves further : List (Move ι)) {i : Nat} {bind : ConsumerBind ι β}
    (hi : ((fresh fabric binders).run setup moves).call i = .consuming bind) :
  LosesInHand setup (fresh fabric binders) moves further i bind
  := by
  obtain ⟨hcourse, hhanded, hunderway⟩ := conserves setup fabric binders moves i
  obtain ⟨hrecorded, hlost⟩ := hunderway (Or.inl ⟨bind, hi⟩)
  have hget := getElem?_of_call hi (by simp)
  obtain ⟨hlength, -⟩ := List.getElem?_eq_some_iff.mp hget
  -- the bind is over once it was dropped
  have hfinished : (((fresh fabric binders).run setup moves).next setup (.drop i)).call i
      = .finished := by
    rw [call_drop, Function.update_self, hi]
    rfl
  obtain ⟨hnohanded, hnounbound, hnorecorded⟩ := gather_of_finished setup hfinished
    (Nat.lt_of_lt_of_le hlength (length_calls_le_next setup _ _)) further
  have hrun : (fresh fabric binders).run setup (moves ++ .drop i :: further)
      = (((fresh fabric binders).run setup moves).next setup (.drop i)).run setup further :=
    run_append _ _ _ _
  have hnone : recordedBy i ((fresh fabric binders).run setup (moves ++ .drop i :: further)) = [] := by
    rw [hrun, hnorecorded, recordedBy, history_drop]
    exact hrecorded
  constructor
  · simp only [next, hget]
  · rw [gather_append, gather_append, gather, gather, hnohanded, hnounbound, hhanded, hrecorded, hlost,
      hi]
    simp only [handedTo, unboundBy, Call.inHand, List.append_nil]
  · exact hnone
  · intro name b hb
    apply recorded_by_other setup fabric binders _ hnone hb
  · apply (hcourse bind hi).length_inHand_lt

/-- A binder that gives up a turn before each bind. -/
def yielding : AnyBinders := #[.scripted { script := { yields := 1 } }]

/-- A consumer bind to two destinations goes on until the binder gives up a turn over the second
one. -/
def pauseAtSecond : List (Move BinderId) :=
  [.act (.newChannel "in" none), .call (.bindConsumer "eu,us" ⟨0⟩)] ++ List.replicate 11 (.advance 0)

/-- The binding to the first destination is in hand when the bind is dropped. -/
theorem dropped_bind_loses_first :
  ∃ bind, bind.inHand = [⟨0⟩] ∧ LosesInHand soleBinder (fresh {} yielding) pauseAtSecond [] 0 bind
  := ⟨_, rfl, dropped_bind_loses_in_hand soleBinder {} yielding pauseAtSecond [] rfl⟩

/-- A binding that a consumer bind was handed before it was dropped at a pause may be tracked by nobody,
and be bound still when all that is tracked under the name is released. -/
theorem dropped_bind_leaves_binding :
  let w := (fresh {} yielding).run soleBinder
    (pauseAtSecond ++ [.drop 0, .call (.unbindTracked .consumer "eu,us"), .advance 1])
  let before := (fresh {} yielding).run soleBinder pauseAtSecond.dropLast
  (∃ bind bind', before.call 0 = .consuming bind
      ∧ (ConsumerBind.step soleBinder before.system bind).2 = .waiting bind' .turn)
    ∧ (fresh {} yielding).gather soleBinder (handedTo soleBinder 0) pauseAtSecond = [⟨0⟩]
    ∧ w.system.ledger.tracked .consumer "eu,us" = []
    ∧ w.Answers 1 (.error (.notBound "eu,us"))
    ∧ (w.system.fabric.binding? ⟨0⟩).map (·.bound) = some true
    ∧ w.system.fabric.subscribers ⟨1⟩ = [⟨0⟩]
  := by
  refine ⟨⟨_, _, rfl, rfl⟩, rfl, ?_, ⟨_, _, rfl, rfl, rfl⟩, ?_, ?_⟩ <;> decide +kernel

end World

end ChannelBinding
