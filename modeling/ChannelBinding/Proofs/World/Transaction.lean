import ChannelBinding.Proofs.Terms
import ChannelBinding.Proofs.Walk
import ChannelBinding.Proofs.World.Posting

/-!
# Transactions

Every step of every call in a world of the in-memory binder is taken apart once, here: it is a
transaction, after which the call answers for what is left to it.  A producer bind asks the binder for a
producer and a consumer bind for consumers, so that the ledger gets bindings of the role that they are
recorded under; that is what makes a call fit.
-/

namespace ChannelBinding

/-! ## Binds of the service -/

section Binds

open MemoryBinder (setup postings_bindProcess)

variable (settings : Settings) (factory : Factory Unit) (callback : Option Callback)

theorem ProducerBind.transaction_begin (s : System MemoryBinder) (name : String) (output : ChannelId)
    (properties : ProducerProperties) :
  let begun := begin (setup settings factory callback) s name output properties
  Transaction (s.standing []) (begun.1.standing [])
    ∧ ∀ bind, begun.2.rest? = some bind → bind.call.role = .producer
  := by
  cases hterms : (setup settings factory callback).producerTerms s.binders name properties with
  | error e =>
    rw [begin_of_error hterms]
    exact ⟨.of_postings .refl, by rintro _ ⟨⟩⟩
  | ok terms =>
    rw [begin_of_ok hterms]
    refine ⟨.of_postings (.single (s.posting_emit [] rfl)), ?_⟩
    rintro bind ⟨⟩
    rfl

theorem ProducerBind.transaction_step (s : System MemoryBinder) {bind : ProducerBind MemoryCall}
    (hbind : bind.call.role = .producer) :
  let after := step (setup settings factory callback) s bind
  Transaction (s.standing []) (after.1.standing [])
    ∧ ∀ bind', after.2.rest? = some bind' → bind'.call.role = .producer
  := by
  obtain ⟨hpostings, hsuits⟩ := postings_bindProcess settings factory callback s bind.call []
  rw [hbind] at hsuits
  obtain ⟨s', p, hp⟩ :
      ∃ s' p, (setup settings factory callback).bindProcess.step s bind.call = (s', p) := ⟨_, _, rfl⟩
  rw [hp] at hpostings hsuits
  simp only [step, hp]
  cases p with
  | running call =>
    refine ⟨.of_postings hpostings, ?_⟩
    rintro bind' ⟨⟩
    exact hsuits
  | waiting call pause =>
    refine ⟨.of_postings hpostings, ?_⟩
    rintro bind' ⟨⟩
    exact hsuits
  | ended answer =>
    cases answer with
    | ok b =>
      have htracked := Entry.tracked (s'.standing []) bind.name bind.destination bind.binder hsuits
      exact ⟨.after hpostings (.of_entry htracked), by rintro _ ⟨⟩⟩
    | error e => exact ⟨.of_postings (hpostings.tail (s'.posting_emit [] rfl)), by rintro _ ⟨⟩⟩

/-- The bindings that a consumer bind answers for. -/
def ConsumerBind.charges : ConsumerBind Unit MemoryCall → List Charge
  | .binding request _ _ _ created => created.map fun b => ⟨request.name, .consumer, b⟩
  | .rollingBack release _ => release.charges .consumer

/-- Whether a consumer bind asks the binder for consumers. -/
def ConsumerBind.IsFit : ConsumerBind Unit MemoryCall → Prop
  | .binding _ _ call _ _ => call.role = .consumer
  | .rollingBack .. => True

/-- The bindings that what is left of a consumer bind answers for. -/
def ConsumerBind.chargesAfter (p : Progress (ConsumerBind Unit MemoryCall) ConsumerAnswer) :
    List Charge :=
  match p with
  | .running bind | .waiting bind _ => bind.charges
  | .ended _ => []

theorem ConsumerBind.transaction_next (s : System MemoryBinder) (request : ConsumerRequest Unit)
    (created : List BindingId) (rest : List String) :
  let after := next (setup settings factory callback) s request created rest
  Transaction (s.standing (created.map fun b => ⟨request.name, .consumer, b⟩))
      (after.1.standing (chargesAfter after.2))
    ∧ ∀ bind, after.2.rest? = some bind → bind.IsFit
  := by
  cases rest with
  | nil =>
    have htold := s.posting_emit (created.map fun b => ⟨request.name, .consumer, b⟩)
      (e := .consumersBound request.name request.group) rfl
    exact ⟨.after (.single htold) (.of_entry (.recorded _ rfl)), by rintro _ ⟨⟩⟩
  | cons destination rest =>
    refine ⟨.of_postings (.single (s.posting_emit _ rfl)), ?_⟩
    rintro bind ⟨⟩
    rfl

theorem ConsumerBind.transaction_begin (s : System MemoryBinder) (name : String) (input : ChannelId) :
  let begun := begin (setup settings factory callback) s name input
  Transaction (s.standing []) (begun.1.standing (chargesAfter begun.2))
    ∧ ∀ bind, begun.2.rest? = some bind → bind.IsFit
  := by
  cases hterms : (setup settings factory callback).consumerTerms s.binders name with
  | error e =>
    rw [begin_of_error hterms]
    exact ⟨.of_postings .refl, by rintro _ ⟨⟩⟩
  | ok terms =>
    by_cases hd : Text.commaParts ((setup settings factory callback).settings.destination name) = []
    · rw [begin_of_no_destination hterms hd]
      exact ⟨.of_postings .refl, by rintro _ ⟨⟩⟩
    · rw [begin_of_ok hterms hd]
      exact transaction_next settings factory callback s _ [] _

theorem ConsumerBind.chargesAfter_rollBack (e : BinderError)
    (p : Progress Release (Option BinderError)) :
  chargesAfter (rollBack e p) = Release.chargesAfter .consumer p
  := by
  cases p <;> rfl

theorem ConsumerBind.isFit_rollBack (e : BinderError) (p : Progress Release (Option BinderError))
    (bind : ConsumerBind Unit MemoryCall) (h : (rollBack e p).rest? = some bind) :
  bind.IsFit
  := by
  cases p <;> cases h <;> trivial

theorem ConsumerBind.transaction_step (s : System MemoryBinder)
    {bind : ConsumerBind Unit MemoryCall} (hbind : bind.IsFit) :
  let after := step (setup settings factory callback) s bind
  Transaction (s.standing bind.charges) (after.1.standing (chargesAfter after.2))
    ∧ ∀ bind', after.2.rest? = some bind' → bind'.IsFit
  := by
  cases bind with
  | binding request destination call rest created =>
    let charges : List Charge := created.map fun b => ⟨request.name, .consumer, b⟩
    obtain ⟨hpostings, hsuits⟩ := postings_bindProcess settings factory callback s call charges
    rw [show call.role = .consumer from hbind] at hsuits
    obtain ⟨s', p, hp⟩ :
        ∃ s' p, (setup settings factory callback).bindProcess.step s call = (s', p) := ⟨_, _, rfl⟩
    rw [hp] at hpostings hsuits
    simp only [step, hp]
    cases p with
    | running call' =>
      refine ⟨.of_postings hpostings, ?_⟩
      rintro bind' ⟨⟩
      exact hsuits
    | waiting call' pause =>
      refine ⟨.of_postings hpostings, ?_⟩
      rintro bind' ⟨⟩
      exact hsuits
    | ended answer =>
      cases answer with
      | ok b =>
        have hkept : Postings (s.standing charges)
            (s'.standing ((created ++ [b]).map fun b => ⟨request.name, .consumer, b⟩)) := by
          rw [List.map_append]
          exact hpostings.tail (.kept (s'.standing charges) request.name hsuits)
        obtain ⟨hnext, hfit⟩ :=
          transaction_next settings factory callback s' request (created ++ [b]) rest
        exact ⟨.after hkept hnext, hfit⟩
      | error e =>
        dsimp only
        rw [chargesAfter_rollBack, Release.chargesAfter_begin]
        exact ⟨.of_postings (hpostings.tail (s'.posting_emit charges rfl)), isFit_rollBack _ _⟩
  | rollingBack release e =>
    dsimp only [step]
    rw [chargesAfter_rollBack]
    exact ⟨.of_postings (Release.postings_step s .consumer release), isFit_rollBack _ _⟩

/-! ## Resolutions -/

/-- Whether the bind of a resolution asks the binder for a producer. -/
def Resolution.IsFit (r : Resolution MemoryCall) : Prop :=
  ∀ cell ticket c bind, r.stage = .binding cell ticket c bind → bind.call.role = .producer

/-- Whether a callback reports nothing as if it were a part of the system. -/
def Callback.IsDiscreet (callback : Option Callback) : Prop :=
  ∀ c ∈ callback, ∀ name channel e, c.report name channel = some e → e.isCounted = false

variable {callback}

theorem Resolution.postings_announce (hdiscreet : Callback.IsDiscreet callback)
    (s : System MemoryBinder) (name : String) :
  Postings (s.standing [])
    ((announce (setup settings factory callback) s name).1.standing [])
  := by
  have hadded := Posting.added (s.standing []) name (some (settings.contentType name))
  rw [announce]
  cases hcallback : callback with
  | none => exact .single hadded
  | some c =>
    dsimp only [setup]
    split
    · exact .single hadded
    · rename_i e hreport
      exact (Relation.ReflTransGen.single hadded).tail
        (.told _ (hdiscreet c hcallback _ _ e hreport))

theorem Resolution.transaction_proceed (r : Resolution MemoryCall) (cell : CellId) (t : Ticket)
    (c : ChannelId) {x : Standing}
    {q : System MemoryBinder × Progress (ProducerBind MemoryCall) ProducerAnswer}
    (hx : Transaction x (q.1.standing []))
    (hfit : ∀ bind, q.2.rest? = some bind → bind.call.role = .producer) :
  Transaction x ((r.proceed cell t c q).1.standing [])
    ∧ ∀ r', (r.proceed cell t c q).2.rest? = some r' → r'.IsFit
  := by
  obtain ⟨s, p⟩ := q
  cases p with
  | running bind =>
    refine ⟨hx, ?_⟩
    rintro r' ⟨⟩ cell' t' c' bind' ⟨⟩
    exact hfit bind rfl
  | waiting bind pause =>
    refine ⟨hx, ?_⟩
    rintro r' ⟨⟩ cell' t' c' bind' ⟨⟩
    exact hfit bind rfl
  | ended answer =>
    cases answer with
    | ok b =>
      have hregistered := s.posting_emit []
        (e := .outputRegistered r.name (s.registry.add r.name c).outputs.size) rfl
      refine ⟨hx.before (.tail (.single hregistered) (.told _ rfl)), by rintro _ ⟨⟩⟩
    | error e =>
      refine ⟨hx, ?_⟩
      rintro r' ⟨⟩ cell' t' c' bind' ⟨⟩

theorem Resolution.transaction_step (hdiscreet : Callback.IsDiscreet callback)
    (s : System MemoryBinder) {r : Resolution MemoryCall} (hr : r.IsFit) :
  let after := step (setup settings factory callback) s r
  Transaction (s.standing []) (after.1.standing []) ∧ ∀ r', after.2.rest? = some r' → r'.IsFit
  := by
  obtain ⟨name, stage⟩ := r
  have hquiet : ∀ {e : Event}, e.isCounted = false →
      Transaction (s.standing []) ((s.emit e).standing []) := fun he =>
    .of_postings (.single (s.posting_emit [] he))
  cases stage with
  | requested =>
    simp only [step]
    split
    · refine ⟨hquiet rfl, ?_⟩
      rintro r' ⟨⟩ cell t c bind ⟨⟩
    · exact ⟨hquiet rfl, by rintro _ ⟨⟩⟩
  | readingFixed =>
    simp only [step]
    split
    · exact ⟨hquiet rfl, by rintro _ ⟨⟩⟩
    · split
      · refine ⟨.of_postings .refl, ?_⟩
        rintro r' ⟨⟩ cell t c bind ⟨⟩
      · exact ⟨hquiet rfl, by rintro _ ⟨⟩⟩
  | readingCache =>
    simp only [step]
    split
    · exact ⟨hquiet rfl, by rintro _ ⟨⟩⟩
    · refine ⟨.of_postings .refl, ?_⟩
      rintro r' ⟨⟩ cell t c bind ⟨⟩
  | entering =>
    refine ⟨.of_postings .refl, ?_⟩
    rintro r' ⟨⟩ cell t c bind ⟨⟩
  | claiming cell t =>
    simp only [step]
    split
    · exact ⟨.of_postings .refl, by rintro _ ⟨⟩⟩
    · refine ⟨.of_postings .refl, ?_⟩
      rintro r' ⟨⟩ cell t c bind ⟨⟩
    · rename_i cache hclaim
      have hannounce := postings_announce settings factory hdiscreet { s with cache } name
      obtain ⟨s₁, c, properties, hs₁⟩ : ∃ s₁ c properties,
          announce (setup settings factory callback) { s with cache } name = (s₁, c, properties) :=
        ⟨_, _, _, rfl⟩
      rw [hs₁] at hannounce
      simp only [hs₁]
      obtain ⟨hbegin, hfit⟩ :=
        ProducerBind.transaction_begin settings factory callback s₁ name c properties
      exact transaction_proceed ⟨name, .claiming cell t⟩ cell t c (.after hannounce hbegin) hfit
  | binding cell t c bind =>
    obtain ⟨hstep, hfit⟩ :=
      ProducerBind.transaction_step settings factory callback s (hr cell t c bind rfl)
    exact transaction_proceed ⟨name, .binding cell t c bind⟩ cell t c hstep hfit
  | forgetting cell t e => exact ⟨hquiet rfl, by rintro _ ⟨⟩⟩

/-! ## Calls -/

namespace Call

/-- The bindings that a call answers for: those that it has taken from the ledger and not yet reported as
released, or made and not yet recorded. -/
def charges : Call Unit MemoryCall → List Charge
  | consuming bind => bind.charges
  | releasing w | draining w => w.charges
  | stopping x => x.charges
  | _ => []

/-- Whether the binds of a call ask the binder for bindings of the role that they are for. -/
def IsFit : Call Unit MemoryCall → Prop
  | resolving r => r.IsFit
  | producing bind => bind.call.role = .producer
  | consuming bind => bind.IsFit
  | _ => True

theorem isFit_after {ρ α : Type} {call : ρ → Call Unit MemoryCall} {p : Progress ρ α}
    (h : ∀ r, p.rest? = some r → (call r).IsFit) :
  (after call p).IsFit
  := by
  cases p with
  | running r => exact h r rfl
  | waiting r pause => exact h r rfl
  | ended a => trivial

/-- A call of a kind that answers for nothing answers for nothing after a step. -/
theorem charges_after {ρ α : Type} {call : ρ → Call Unit MemoryCall}
    (h : ∀ r, (call r).charges = []) (p : Progress ρ α) :
  (after call p).charges = []
  := by
  cases p with
  | running r => exact h r
  | waiting r pause => exact h r
  | ended a => rfl

theorem charges_after_consuming (p : Progress (ConsumerBind Unit MemoryCall) ConsumerAnswer) :
  (after consuming p).charges = ConsumerBind.chargesAfter p
  := by
  cases p <;> rfl

theorem charges_after_releasing {α : Type} (p : Progress Withdrawal α) :
  (after releasing p).charges = Withdrawal.chargesAfter p
    ∧ (after draining p).charges = Withdrawal.chargesAfter p
  := by
  cases p <;> exact ⟨rfl, rfl⟩

theorem charges_after_stopping {α : Type} (p : Progress Shutdown α) :
  (after stopping p).charges = Shutdown.chargesAfter p
  := by
  cases p <;> rfl

/-- Every step of a call is a transaction. -/
theorem transaction_step (hdiscreet : Callback.IsDiscreet callback) (s : System MemoryBinder)
    {call : Call Unit MemoryCall} (hcall : call.IsFit) :
  let after := call.step (setup settings factory callback) s
  Transaction (s.standing call.charges) (after.1.standing after.2.1.charges) ∧ after.2.1.IsFit
  := by
  cases call with
  | resolving r =>
    obtain ⟨hstep, hfit⟩ := Resolution.transaction_step settings factory hdiscreet s hcall
    simp only [step]
    rw [charges_after fun _ => rfl]
    exact ⟨hstep, isFit_after hfit⟩
  | producing bind =>
    obtain ⟨hstep, hfit⟩ := ProducerBind.transaction_step settings factory callback s hcall
    simp only [step]
    rw [charges_after fun _ => rfl]
    exact ⟨hstep, isFit_after hfit⟩
  | consuming bind =>
    obtain ⟨hstep, hfit⟩ := ConsumerBind.transaction_step settings factory callback s hcall
    simp only [step]
    rw [charges_after_consuming]
    exact ⟨hstep, isFit_after hfit⟩
  | attaching call =>
    obtain ⟨hpostings, -⟩ := postings_bindProcess settings factory callback s call []
    simp only [step]
    rw [charges_after fun _ => rfl]
    exact ⟨.of_postings hpostings, isFit_after fun _ _ => trivial⟩
  | unbinding u =>
    have hpostings := Unbinding.postings_step (s.standing []) u
    simp only [step]
    rw [charges_after fun _ => rfl]
    exact ⟨.of_postings hpostings, isFit_after fun _ _ => trivial⟩
  | releasing w =>
    simp only [step]
    rw [(charges_after_releasing _).1]
    exact ⟨Withdrawal.transaction_step s w, isFit_after fun _ _ => trivial⟩
  | draining w =>
    simp only [step]
    rw [(charges_after_releasing _).2]
    exact ⟨Withdrawal.transaction_step s w, isFit_after fun _ _ => trivial⟩
  | stopping x =>
    simp only [step]
    rw [charges_after_stopping]
    exact ⟨Shutdown.transaction_step s x, isFit_after fun _ _ => trivial⟩
  | finished => exact ⟨.of_postings .refl, trivial⟩

/-- A consumer bind answers for consumers only, so that it can be dropped. -/
theorem postings_dropped (s : System MemoryBinder) (call : Call Unit MemoryCall) :
  Postings (s.standing call.charges) (s.standing call.dropped.charges)
  := by
  cases call with
  | consuming bind =>
    have hconsumer : ∀ charge ∈ bind.charges, charge.role = .consumer := by
      intro charge hcharge
      cases bind <;> obtain ⟨b, -, rfl⟩ := List.mem_map.mp hcharge <;> rfl
    exact .single (.lost (s.standing bind.charges) hconsumer)
  | _ => exact .refl

end Call

/-- The beginning of a call is a transaction. -/
theorem Request.transaction_begin (callback : Option Callback) (s : System MemoryBinder)
    (request : Request Unit) :
  let begun := request.begin (setup settings factory callback) s
  Transaction (s.standing []) (begun.1.standing begun.2.1.charges) ∧ begun.2.1.IsFit
  := by
  cases request with
  | resolve name =>
    refine ⟨.of_postings .refl, ?_⟩
    rintro cell t c bind ⟨⟩
  | bindProducer name output properties =>
    obtain ⟨hbegin, hfit⟩ := ProducerBind.transaction_begin settings factory callback s name output
      (properties.getD ((setup settings factory callback).settings.producerProperties name))
    simp only [begin]
    rw [Call.charges_after fun _ => rfl]
    exact ⟨hbegin, Call.isFit_after hfit⟩
  | bindConsumer name input =>
    obtain ⟨hbegin, hfit⟩ := ConsumerBind.transaction_begin settings factory callback s name input
    simp only [begin]
    rw [Call.charges_after_consuming]
    exact ⟨hbegin, Call.isFit_after hfit⟩
  | attach binder request => cases request <;> exact ⟨.of_postings .refl, trivial⟩
  | unbind | unbindTracked | unbindRegistry | stop => exact ⟨.of_postings .refl, trivial⟩

/-! ## Worlds -/

/-- What calls answer for is what one call does and what the others do, before and after that call is
replaced. -/
theorem perm_flatMap_set {α γ : Type} {l : List α} {i : Nat} {a : α} (h : l[i]? = some a) (b : α)
    (g : α → List γ) :
  ∃ others, (l.flatMap g).Perm (g a ++ others) ∧ ((l.set i b).flatMap g).Perm (g b ++ others)
  := by
  induction l generalizing i with
  | nil => cases h
  | cons a' l ih =>
    cases i with
    | zero =>
      cases h
      exact ⟨l.flatMap g, .refl _, .refl _⟩
    | succ i =>
      obtain ⟨others, hold, hnew⟩ := ih h
      have hswap : ∀ {l' c}, (l'.flatMap g).Perm (g c ++ others) →
          ((a' :: l').flatMap g).Perm (g c ++ (g a' ++ others)) := by
        intro l' c hperm
        rw [List.flatMap_cons]
        exact (hperm.append_left _).trans (List.perm_append_comm_assoc _ _ _)
      exact ⟨g a' ++ others, hswap hold, hswap hnew⟩

namespace World

/-- The bindings that the calls of a world answer for. -/
def charges (w : World Unit MemoryBinder MemoryCall) : List Charge := w.calls.flatMap Call.charges

/-- Whether the binds of all calls ask the binder for bindings of the role that they are for. -/
def IsFit (w : World Unit MemoryBinder MemoryCall) : Prop := ∀ call ∈ w.calls, call.IsFit

/-- What becomes of a world by a transaction in which one call goes over to what it answers for, and the
others answer for what they did. -/
def Transacts (w w' : World Unit MemoryBinder MemoryCall) : Prop :=
  ∃ old new others, Transaction (w.system.standing old) (w'.system.standing new)
    ∧ w.charges.Perm (old ++ others) ∧ w'.charges.Perm (new ++ others)

/-- What changes nothing that is posted. -/
theorem transacts_of_postings {w w' : World Unit MemoryBinder MemoryCall}
    (h : Postings (w.system.standing []) (w'.system.standing [])) (hcalls : w'.calls = w.calls) :
  w.Transacts w'
  := by
  refine ⟨[], [], w.charges, .of_postings h, .refl _, ?_⟩
  rw [charges, hcalls]
  exact .refl _

/-- A call of a world that goes over to another one. -/
theorem transacts_set {w : World Unit MemoryBinder MemoryCall} {i : Nat}
    {call call' : Call Unit MemoryCall} (hi : w.calls[i]? = some call) {s : System MemoryBinder}
    (h : Transaction (w.system.standing call.charges) (s.standing call'.charges))
    (history : List (Nat × Happening)) :
  w.Transacts ⟨s, w.calls.set i call', history⟩
  := by
  obtain ⟨others, hold, hnew⟩ := perm_flatMap_set hi call' Call.charges
  exact ⟨_, _, others, h, hold, hnew⟩

theorem IsFit.set {w : World Unit MemoryBinder MemoryCall} (hw : w.IsFit) {call : Call Unit MemoryCall}
    (hcall : call.IsFit) (s : System MemoryBinder) (i : Nat) (history : List (Nat × Happening)) :
  IsFit ⟨s, w.calls.set i call, history⟩
  := by
  intro call' hmem
  rcases List.mem_or_eq_of_mem_set hmem with hmem | rfl
  · exact hw call' hmem
  · exact hcall

/-- Every move is a transaction. -/
theorem transacts_next (hdiscreet : Callback.IsDiscreet callback)
    {w : World Unit MemoryBinder MemoryCall} (hw : w.IsFit) (m : Move Unit) :
  w.Transacts (w.next (setup settings factory callback) m)
    ∧ (w.next (setup settings factory callback) m).IsFit
  := by
  -- a call that is dropped leaves the fabric, the transports and the ledger alone
  have hdrop : ∀ {i call s}, w.calls[i]? = some call → call.dropped = .finished →
      s.standing call.charges = w.system.standing call.charges →
        w.Transacts ⟨s, w.calls.set i .finished, w.history⟩
          ∧ IsFit ⟨s, w.calls.set i .finished, w.history⟩ := by
    intro i call s hi hdropped hs
    have hpostings := call.postings_dropped s
    rw [hdropped, hs] at hpostings
    exact ⟨transacts_set hi (.of_postings hpostings) _,
      hw.set (show Call.IsFit .finished from trivial) _ _ _⟩
  cases m with
  | call request =>
    simp only [World.next]
    split
    · obtain ⟨hbegin, hfit⟩ := request.transaction_begin settings factory callback w.system
      constructor
      · refine ⟨[], _, w.charges, hbegin, .refl _, ?_⟩
        rw [charges, List.flatMap_append, List.flatMap_singleton]
        exact List.perm_append_comm
      · intro call hmem
        rcases List.mem_append.mp hmem with hmem | hmem
        · exact hw call hmem
        · rw [List.mem_singleton.mp hmem]
          exact hfit
    · exact ⟨transacts_of_postings .refl rfl, hw⟩
  | advance i =>
    simp only [World.next]
    cases hi : w.calls[i]? with
    | none => exact ⟨transacts_of_postings .refl rfl, hw⟩
    | some call =>
      obtain ⟨hstep, hfit⟩ := call.transaction_step settings factory hdiscreet w.system
        (hw call (List.mem_of_getElem? hi))
      exact ⟨transacts_set hi hstep _, hw.set hfit _ _ _⟩
  | drop i =>
    simp only [World.next]
    split
    · rename_i r hi
      have habandon : (r.abandon w.system).standing (Call.resolving r).charges
          = w.system.standing (Call.resolving r).charges := by
        unfold Resolution.abandon
        split <;> rfl
      exact hdrop hi rfl habandon
    · rename_i hi
      exact hdrop hi rfl rfl
    · rename_i hi
      exact hdrop hi rfl rfl
    · rename_i hi
      exact hdrop hi rfl rfl
    · exact ⟨transacts_of_postings .refl rfl, hw⟩
  | act a => exact ⟨transacts_of_postings ((w.system.standing []).postings_act a) rfl, hw⟩
  | register name c => exact ⟨transacts_of_postings .refl rfl, hw⟩
  | addBindable bindable => exact ⟨transacts_of_postings .refl rfl, hw⟩
  | start =>
    simp only [World.next, System.startLifecycle]
    split
    · exact ⟨transacts_of_postings .refl rfl, hw⟩
    · exact ⟨transacts_of_postings (.single (.told _ rfl)) rfl, hw⟩

end World

end Binds

end ChannelBinding
