import ChannelBinding.Proofs.Mirror.Frame

/-!
# Courses

What is done for names: resolutions, producer binds, releases of producers and look-ups, each of them
for one name, the calls one step at a time and in any order.  A call is meant by its place among the
calls for its name, and a channel that was resolved by the place of the answer among those for the
name, so that what is done for one name can be taken out of a list of doings and done alone.  A course
is a world with the calls of every name and what was seen of them.
-/

namespace ChannelBinding

/-! ## What is seen -/

/-- What is seen of a step that is taken for a name. -/
inductive Sight where
  | goesOn
  | waits (pause : Pause)
  | resolved (answer : ResolutionAnswer)
  | bound (answer : ProducerAnswer)
  | unbound (failures : List UnbindFailure)
  /-- The binding of the name, as a look-up finds it. -/
  | found (binding : Option BindingId)
  | dropped
  /-- There is no such call, or no such channel. -/
  | denied
deriving DecidableEq

/-- The channel that was resolved. -/
def Sight.channel? : Sight → Option ChannelId
  | resolved (.ok c) => some c
  | _ => none

/-- What is seen of the progress of a call. -/
def Progress.sight {γ α : Type} (answer : α → Sight) : Progress γ α → Sight
  | running _ => .goesOn
  | waiting _ pause => .waits pause
  | ended a => answer a

section

variable {ι τ β : Type}

/-- What is seen of the next step of a call. -/
def Call.sight (setup : Setup ι τ β) (s : System τ) : Call ι β → Sight
  | resolving r => (Resolution.step setup s r).2.sight .resolved
  | producing bind => (ProducerBind.step setup s bind).2.sight .bound
  | releasing w => (Withdrawal.step s w).2.sight .unbound
  | _ => .denied

/-- What is seen when a call is dropped. -/
def Call.dropSight : Call ι β → Sight
  | resolving _ | producing _ => .dropped
  | _ => .denied

/-- What is seen of a call when it begins. -/
def Request.sight (setup : Setup ι τ β) (s : System τ) : Request ι → Sight
  | bindProducer name output properties =>
    (ProducerBind.begin setup s name output
      (properties.getD (setup.settings.producerProperties name))).2.sight .bound
  | _ => .goesOn

end

/-! ## What is done -/

/-- A channel, as whoever calls for a name means it. -/
inductive Output where
  | given (c : ChannelId)
  /-- The channel of an answer to the name's resolutions, by the number of such answers before it. -/
  | answered (k : Nat)
deriving DecidableEq, Repr

/-- The channel that is meant, after what was seen. -/
def Output.channel? (seen : List Sight) : Output → Option ChannelId
  | given c => some c
  | answered k => (seen.filterMap Sight.channel?)[k]?

/-- What can be done for a name; calls go by the number of the name's calls before them. -/
inductive Deed where
  | resolve
  | bindProducer (output : Output) (properties : Option ProducerProperties)
  | unbindProducers
  | look
  | advance (k : Nat)
  | drop (k : Nat)

/-- Something that is done for a name. -/
structure Doing where
  name : String
  deed : Deed

/-- A world with the numbers of the calls for every name and what was seen of them. -/
structure Course where
  world : World Unit PlannedBinder PlannedCall
  numbers : String → List Nat := fun _ => []
  seen : String → List Sight := fun _ => []

namespace Course

variable (setup : Setup Unit PlannedBinder PlannedCall) (c : Course) (name : String)

/-- A course in which nothing has been done yet. -/
def begun (s : System PlannedBinder) : Course := { world := { system := s } }

/-- The system of a course. -/
def system : System PlannedBinder := c.world.system

/-- The calls for a name, where they stand. -/
def calls : List (Call Unit PlannedCall) := (c.numbers name).map c.world.call

/-- Something is seen by whoever calls for a name. -/
def see (sight : Sight) : Course :=
  { c with seen := Function.update c.seen name (c.seen name ++ [sight]) }

/-- The course in which a call for a name has begun. -/
def begin (request : Request Unit) : Course :=
  { c with
    world := c.world.next setup (.call request)
    numbers := Function.update c.numbers name (c.numbers name ++ [c.world.calls.length]) }

/-- A call for a name is asked for. -/
def ask (request : Request Unit) : Course :=
  if ∀ ch ∈ request.channels, ch.index < c.system.fabric.channels.size then
    (c.begin setup name request).see name (request.sight setup c.system)
  else c.see name .denied

/-- A call for a name takes a step. -/
def advance (k : Nat) : Course :=
  match (c.numbers name)[k]? with
  | none => c.see name .denied
  | some i =>
    see { c with world := c.world.next setup (.advance i) } name
      ((c.world.call i).sight setup c.system)

/-- A call for a name is dropped. -/
def drop (k : Nat) : Course :=
  match (c.numbers name)[k]? with
  | none => c.see name .denied
  | some i =>
    see { c with world := c.world.next setup (.drop i) } name (c.world.call i).dropSight

/-- The course after a doing. -/
def next (doing : Doing) : Course :=
  match doing.deed with
  | .resolve => c.ask setup doing.name (.resolve doing.name)
  | .bindProducer output properties =>
    match output.channel? (c.seen doing.name) with
    | none => c.see doing.name .denied
    | some ch => c.ask setup doing.name (.bindProducer doing.name ch properties)
  | .unbindProducers => c.ask setup doing.name (.unbindTracked .producer doing.name)
  | .look => c.see doing.name (.found ((c.system.cache.get? doing.name).map (·.binding)))
  | .advance k => c.advance setup doing.name k
  | .drop k => c.drop setup doing.name k

/-- The course after some doings. -/
def run (doings : List Doing) : Course := doings.foldl (next setup) c

end Course

variable {plan : Plan} {settings : Settings} {factory : Factory Unit} {callback : Option Callback}

/-! ## Calls that begin or are dropped -/

/-- Whether a request is one for a resolution of a name, a producer bind for it or the release of its
producers. -/
def Request.IsFor (name : String) : Request Unit → Prop
  | resolve n => n = name
  | bindProducer n .. => n = name
  | unbindTracked role n => role = .producer ∧ n = name
  | _ => False

variable (plan settings factory callback) in
/-- A call for a name that begins changes nothing for other names. -/
theorem Request.changedFor_begin (s : System PlannedBinder) {name : String} {request : Request Unit}
    (h : request.IsFor name) :
  let x := request.begin (PlannedBinder.setup plan settings factory callback) s
  s.ChangedFor settings name x.1 ∧ x.2.1.IsFor settings x.1.fabric name
  := by
  cases request with
  | resolve n => exact ⟨.refl _ _ _, h, nofun⟩
  | bindProducer n output properties =>
    obtain rfl : n = name := h
    have hbegun := ProducerBind.changedFor_begin plan settings factory callback s n output
    exact ⟨(hbegun _).1, Call.isFor_after (hbegun _).2.2⟩
  | unbindTracked role n =>
    obtain ⟨rfl, rfl⟩ := h
    exact ⟨.refl _ _ _, rfl, Or.inr rfl, nofun⟩
  | _ => exact h.elim

theorem World.next_call {ι τ β : Type} {setup : Setup ι τ β} {w : World ι τ β} {request : Request ι}
    (hin : ∀ ch ∈ request.channels, ch.index < w.system.fabric.channels.size) :
  w.next setup (.call request)
    = { system := (request.begin setup w.system).1
        calls := w.calls ++ [(request.begin setup w.system).2.1]
        history := w.history
          ++ (request.begin setup w.system).2.2.map (w.calls.length, ·) }
  := if_pos hin

/-- What is left of a system when a call on it is dropped. -/
def Call.abandon {ι τ β : Type} (s : System τ) : Call ι β → System τ
  | resolving r => r.abandon s
  | _ => s

theorem World.system_drop {ι τ β : Type} (setup : Setup ι τ β) (w : World ι τ β) (i : Nat) :
  (w.next setup (.drop i)).system = (w.call i).abandon w.system
  := by
  cases hi : w.calls[i]? with
  | none =>
    have hfinished := call_of_length_le (List.getElem?_eq_none_iff.mp hi)
    simp only [next, hi, hfinished, Call.abandon]
  | some call =>
    rw [call_of_getElem? hi]
    cases call <;> simp only [next, hi, Call.abandon]

/-- A call for a name that is dropped changes nothing for other names. -/
theorem Call.changedFor_abandon {s : System PlannedBinder} {name : String} {stake : Nat → Stake}
    (hs : s.cache.Sound stake) {call : Call Unit PlannedCall}
    (hcall : call.IsFor settings s.fabric name) {i : Nat} (hi : stake i = call.stake) :
  s.ChangedFor settings name (call.abandon s)
    ∧ call.dropped.IsFor settings (call.abandon s).fabric name
  := by
  cases call with
  | resolving r =>
    refine ⟨Resolution.changedFor_abandon hcall ?_, trivial⟩
    intro h hh
    apply hs.owns (i := i)
    rw [hi]
    apply hh
  | producing bind => exact ⟨.refl _ _ _, trivial⟩
  | releasing w => exact ⟨.refl _ _ _, hcall⟩
  | finished => exact ⟨.refl _ _ _, trivial⟩
  | _ => exact hcall.elim

/-! ## Order in a course -/

namespace Course

/-- Whether the calls of a course are for the names they go by, each for one, and the cache and the
ledger are in order. -/
structure IsOrderly (settings : Settings) (c : Course) : Prop where
  sound : c.world.account.Sound
  tidy : c.world.IsTidy
  tracks : c.system.TracksOwn settings
  begun : ∀ {name i}, i ∈ c.numbers name → i < c.world.calls.length
  nodup : ∀ name, (c.numbers name).Nodup
  name_inj : ∀ {name other i}, i ∈ c.numbers name → i ∈ c.numbers other → name = other
  isFor : ∀ {name i}, i ∈ c.numbers name → (c.world.call i).IsFor settings c.system.fabric name

/-- Whether everything that has changed in a course is for one name. -/
structure ChangedFor (settings : Settings) (name : String) (c c' : Course) : Prop where
  system : c.system.ChangedFor settings name c'.system
  calls : ∀ {other}, name ≠ other → c'.calls other = c.calls other
  seen : ∀ {other}, name ≠ other → c'.seen other = c.seen other

variable {c c' : Course} {name : String}

theorem ChangedFor.refl (settings : Settings) (name : String) (c : Course) :
  c.ChangedFor settings name c
  := ⟨.refl _ _ _, fun _ => rfl, fun _ => rfl⟩

/-- What is seen for a name is seen for no other. -/
theorem ChangedFor.see (h : c.ChangedFor settings name c') (sight : Sight) :
  c.ChangedFor settings name (c'.see name sight)
  := by
  refine ⟨h.system, h.calls, fun hname => ?_⟩
  rw [← h.seen hname]
  apply Function.update_of_ne (Ne.symm hname)

theorem IsOrderly.see (h : c.IsOrderly settings) (name : String) (sight : Sight) :
  (c.see name sight).IsOrderly settings
  := ⟨h.sound, h.tidy, h.tracks, h.begun, h.nodup, h.name_inj, h.isFor⟩

/-- The calls for a name when a call is changed. -/
theorem calls_update (h : c.IsOrderly settings) {w : World Unit PlannedBinder PlannedCall} {i : Nat}
    {call : Call Unit PlannedCall} (hw : w.call = Function.update c.world.call i call) {other : String}
    (hi : i ∈ c.numbers name) (hname : name ≠ other) :
  ({ c with world := w } : Course).calls other = c.calls other
  := by
  simp only [calls, hw]
  apply List.map_congr_left
  intro j hj
  apply Function.update_of_ne
  rintro rfl
  apply hname (h.name_inj hi hj)

/-- A move of the world that changes one call for a name, and nothing for other names. -/
theorem IsOrderly.move (setup : Setup Unit PlannedBinder PlannedCall) (h : c.IsOrderly settings)
    {i : Nat} (hi : i ∈ c.numbers name) {m : Move Unit} {call : Call Unit PlannedCall}
    (hcall : (c.world.next setup m).call = Function.update c.world.call i call)
    (hchanged : c.system.ChangedFor settings name (c.world.next setup m).system)
    (hfor : call.IsFor settings (c.world.next setup m).system.fabric name) :
  ({ c with world := c.world.next setup m } : Course).IsOrderly settings
    ∧ c.ChangedFor settings name { c with world := c.world.next setup m }
  := by
  obtain ⟨hstep, htidy⟩ := World.step_account setup h.tidy m
  refine ⟨⟨hstep.sound h.sound, htidy, hchanged.tracksOwn h.tracks, ?_, h.nodup, h.name_inj, ?_⟩,
    hchanged, calls_update h hcall hi, fun _ => rfl⟩
  · intro other j hj
    apply Nat.lt_of_lt_of_le (h.begun hj) (World.length_calls_le_next setup c.world m)
  · intro other j hj
    rw [hcall]
    by_cases hij : j = i
    · subst hij
      obtain rfl := h.name_inj hi hj
      rw [Function.update_self]
      apply hfor
    · rw [Function.update_of_ne hij]
      apply (h.isFor hj).mono hchanged.isOf

theorem IsOrderly.new_notMem (h : c.IsOrderly settings) {other : String} :
  c.world.calls.length ∉ c.numbers other
  := fun hmem => absurd (h.begun hmem) (Nat.lt_irrefl _)

/-- The calls for a name after one more for some name. -/
theorem mem_numbers_ask {other : String} {i n : Nat} :
  i ∈ Function.update c.numbers name (c.numbers name ++ [n]) other
    ↔ i ∈ c.numbers other ∨ name = other ∧ i = n
  := by
  by_cases hname : name = other
  · subst hname
    simp
  · simp [Function.update_of_ne (Ne.symm hname), hname]

theorem IsOrderly.nodup_ask (h : c.IsOrderly settings) (name other : String) :
  (Function.update c.numbers name (c.numbers name ++ [c.world.calls.length]) other).Nodup
  := by
  by_cases hname : other = name
  · subst hname
    rw [Function.update_self, ← List.concat_eq_append]
    apply (h.nodup other).concat h.new_notMem
  · rw [Function.update_of_ne hname]
    apply h.nodup

/-- The call that begins is the only one that changes. -/
theorem call_begin (setup : Setup Unit PlannedBinder PlannedCall) {request : Request Unit}
    (hin : ∀ ch ∈ request.channels, ch.index < c.system.fabric.channels.size) (name : String) :
  (c.begin setup name request).world.call
    = Function.update c.world.call c.world.calls.length (request.begin setup c.system).2.1
  := by
  rw [begin, World.next_call hin]
  apply World.call_append

theorem IsOrderly.call_begin_of_mem (h : c.IsOrderly settings)
    {setup : Setup Unit PlannedBinder PlannedCall} {request : Request Unit}
    (hin : ∀ ch ∈ request.channels, ch.index < c.system.fabric.channels.size) (name : String)
    {other : String} {i : Nat} (hi : i ∈ c.numbers other) :
  (c.begin setup name request).world.call i = c.world.call i
  := by
  rw [call_begin setup hin]
  apply Function.update_of_ne (Nat.ne_of_lt (h.begun hi))

theorem IsOrderly.calls_begin (h : c.IsOrderly settings)
    {setup : Setup Unit PlannedBinder PlannedCall} {request : Request Unit}
    (hin : ∀ ch ∈ request.channels, ch.index < c.system.fabric.channels.size) (name : String) :
  (c.begin setup name request).calls name = c.calls name ++ [(request.begin setup c.system).2.1]
  := by
  have hold : (c.numbers name).map (c.begin setup name request).world.call = c.calls name :=
    List.map_congr_left fun i hi => h.call_begin_of_mem hin name hi
  have hnew := congrFun (call_begin setup hin name) c.world.calls.length
  rw [Function.update_self] at hnew
  have hnumbers : (c.begin setup name request).numbers name
      = c.numbers name ++ [c.world.calls.length] := Function.update_self _ _ _
  rw [calls, hnumbers, List.map_append, hold, List.map_singleton, hnew]

theorem IsOrderly.calls_begin_of_ne (h : c.IsOrderly settings)
    {setup : Setup Unit PlannedBinder PlannedCall} {request : Request Unit}
    (hin : ∀ ch ∈ request.channels, ch.index < c.system.fabric.channels.size) {other : String}
    (hname : name ≠ other) :
  (c.begin setup name request).calls other = c.calls other
  := by
  have hnumbers : (c.begin setup name request).numbers other = c.numbers other :=
    Function.update_of_ne (Ne.symm hname) _ _
  rw [calls, hnumbers]
  apply List.map_congr_left fun i hi => h.call_begin_of_mem hin name hi

variable (plan settings factory callback) in
/-- A call for a name that is asked for changes nothing for other names. -/
theorem IsOrderly.ask (h : c.IsOrderly settings) {request : Request Unit}
    (hrequest : request.IsFor name) :
  let c' := c.ask (PlannedBinder.setup plan settings factory callback) name request
  c'.IsOrderly settings ∧ c.ChangedFor settings name c'
  := by
  unfold Course.ask
  split
  case isFalse => exact ⟨h.see name _, (ChangedFor.refl settings name c).see _⟩
  rename_i hin
  obtain ⟨hchanged, hfor⟩ := Request.changedFor_begin plan settings factory callback c.system hrequest
  generalize PlannedBinder.setup plan settings factory callback = setup at hchanged hfor
  obtain ⟨hstep, htidy⟩ := World.step_account setup h.tidy (.call request)
  have hsystem : (c.begin setup name request).system = (request.begin setup c.system).1 :=
    congrArg World.system (World.next_call hin)
  have hlength : (c.begin setup name request).world.calls.length = c.world.calls.length + 1 := by
    simp [begin, World.next_call hin]
  rw [← hsystem] at hchanged hfor
  have horderly : (c.begin setup name request).IsOrderly settings := by
    refine ⟨hstep.sound h.sound, htidy, hchanged.tracksOwn h.tracks, ?_, h.nodup_ask name, ?_, ?_⟩
    · intro other i hi
      rw [hlength]
      rcases mem_numbers_ask.mp hi with hi | ⟨-, rfl⟩
      · apply Nat.lt_succ_of_lt (h.begun hi)
      · apply Nat.lt_succ_self
    · intro other other' i hi hi'
      rcases mem_numbers_ask.mp hi with hi | ⟨rfl, rfl⟩
      · rcases mem_numbers_ask.mp hi' with hi' | ⟨rfl, rfl⟩
        · apply h.name_inj hi hi'
        · apply absurd hi h.new_notMem
      · rcases mem_numbers_ask.mp hi' with hi' | ⟨rfl, -⟩
        · apply absurd hi' h.new_notMem
        · rfl
    · intro other i hi
      rcases mem_numbers_ask.mp hi with hi | ⟨rfl, rfl⟩
      · rw [h.call_begin_of_mem hin name hi]
        apply (h.isFor hi).mono hchanged.isOf
      · rw [call_begin setup hin, Function.update_self]
        apply hfor
  have hothers : c.ChangedFor settings name (c.begin setup name request) :=
    ⟨hchanged, h.calls_begin_of_ne hin, fun _ => rfl⟩
  exact ⟨horderly.see name _, hothers.see _⟩

variable (plan settings factory callback) in
/-- A call for a name that takes a step changes nothing for other names. -/
theorem IsOrderly.advance (h : c.IsOrderly settings) (name : String) (k : Nat) :
  let c' := c.advance (PlannedBinder.setup plan settings factory callback) name k
  c'.IsOrderly settings ∧ c.ChangedFor settings name c'
  := by
  unfold Course.advance
  split
  · exact ⟨h.see name _, (ChangedFor.refl settings name c).see _⟩
  · rename_i i hk
    have hi := List.mem_of_getElem? hk
    have hstep := Call.changedFor_step plan factory callback h.sound h.tracks (h.isFor hi) (i := i) rfl
    obtain ⟨horderly, hothers⟩ := h.move
      (PlannedBinder.setup plan settings factory callback) hi (World.call_advance _ c.world i) (by rw [World.next_advance]; apply hstep.1)
      (by rw [World.next_advance]; apply hstep.2)
    exact ⟨horderly.see name _, hothers.see _⟩

variable (plan settings factory callback) in
/-- A call for a name that is dropped changes nothing for other names. -/
theorem IsOrderly.drop (h : c.IsOrderly settings) (name : String) (k : Nat) :
  let c' := c.drop (PlannedBinder.setup plan settings factory callback) name k
  c'.IsOrderly settings ∧ c.ChangedFor settings name c'
  := by
  unfold Course.drop
  split
  · exact ⟨h.see name _, (ChangedFor.refl settings name c).see _⟩
  · rename_i i hk
    have hi := List.mem_of_getElem? hk
    have hdropped := Call.changedFor_abandon h.sound (h.isFor hi) (i := i) rfl
    obtain ⟨horderly, hothers⟩ := h.move
      (PlannedBinder.setup plan settings factory callback) hi (World.call_drop _ c.world i) (by rw [World.system_drop]; apply hdropped.1)
      (by rw [World.system_drop]; apply hdropped.2)
    exact ⟨horderly.see name _, hothers.see _⟩

variable (plan factory callback) in
/-- What is done for a name changes nothing for other names. -/
theorem IsOrderly.next (h : c.IsOrderly settings) (doing : Doing) :
  let c' := c.next (PlannedBinder.setup plan settings factory callback) doing
  c'.IsOrderly settings ∧ c.ChangedFor settings doing.name c'
  := by
  have hsee (sight : Sight) :
      (c.see doing.name sight).IsOrderly settings
        ∧ c.ChangedFor settings doing.name (c.see doing.name sight) :=
    ⟨h.see doing.name sight, (ChangedFor.refl settings doing.name c).see sight⟩
  obtain ⟨name, deed⟩ := doing
  cases deed with
  | resolve => exact h.ask plan settings factory callback rfl
  | bindProducer output properties =>
    simp only [Course.next]
    split
    · apply hsee
    · exact h.ask plan settings factory callback rfl
  | unbindProducers => exact h.ask plan settings factory callback ⟨rfl, rfl⟩
  | look => exact hsee _
  | advance k => exact h.advance plan settings factory callback name k
  | drop k => exact h.drop plan settings factory callback name k

end Course

end ChannelBinding
