import ChannelBinding.Proofs.Shutdown
import Mathlib.Data.List.Count
import Mathlib.Data.List.DropRight
import Mathlib.Data.List.Nodup
import Mathlib.Data.List.Perm.Subperm
import Mathlib.Data.Prod.Basic

/-!
# Bookkeeping

The service tracks under a name what binds have added there since bindings were last taken from under
it, in the order in which the binds ended.  No name has an empty list, so whoever asks for the release
of a name is told that nothing is bound exactly if nothing is tracked.  What is added is taken once at
the most, and what is taken is unbound once at the most.
-/

namespace ChannelBinding

variable {ι τ β : Type} {setup : Setup ι τ β}

/-! ## What was added since bindings were last taken -/

/-- The bindings added under a name since bindings were last taken from under it. -/
def addedSince (role : Role) (name : String) (history : List (Nat × Happening)) : List BindingId :=
  (history.rtakeWhile fun e => e.2.takenFrom role name = []).flatMap (·.2.recorded role name)

section AddedSince

variable {role : Role} {name : String} {history : List (Nat × Happening)} {news : List Happening}

/-- What takes nothing from under a name adds to what was there. -/
theorem addedSince_append (i : Nat) (h : ∀ e ∈ news, e.takenFrom role name = []) :
  addedSince role name (history ++ news.map (i, ·))
    = addedSince role name history ++ news.flatMap (Happening.recorded role name)
  := by
  induction news generalizing history with
  | nil => simp
  | cons e news ih =>
    obtain ⟨he, hnews⟩ := List.forall_mem_cons.mp h
    have hfirst : addedSince role name (history ++ [(i, e)])
        = addedSince role name history ++ e.recorded role name := by
      rw [addedSince, List.rtakeWhile_concat_pos, List.flatMap_append, List.flatMap_singleton,
        addedSince]
      apply decide_eq_true he
    rw [List.map_cons, List.append_cons, ih hnews, hfirst, List.append_assoc, List.flatMap_cons]

/-- Nothing was added since something was taken. -/
theorem addedSince_took (i : Nat) {bs : List BindingId} (hbs : bs ≠ []) :
  addedSince role name (history ++ [.took role name bs].map (i, ·)) = []
  := by
  rw [addedSince, List.map_singleton, List.rtakeWhile_concat_neg]
  · rfl
  · simp [Happening.takenFrom, hbs]

/-- Only to take bindings from under a name takes something from there. -/
theorem Happening.eq_took {e : Happening} (h : e.takenFrom role name ≠ []) :
  ∃ bs, bs ≠ [] ∧ e = .took role name bs
  := by
  unfold takenFrom at h
  split at h
  · split at h
    · rename_i heq
      obtain ⟨rfl, rfl⟩ := heq
      exact ⟨_, h, rfl⟩
    · apply absurd rfl h
  · apply absurd rfl h

end AddedSince

/-! ## What one transfer keeps -/

section Transfer

variable {L L' : Ledger} {R R' : Registry} {k k' : Stake} {news : List Happening} {name : String}

/-- Nothing is left under a name from which bindings are taken. -/
theorem Transfer.tracked_of_took (h : Transfer L R k L' R' k' news) {role : Role}
    {bs : List BindingId} (hb : .took role name bs ∈ news) :
  L'.tracked role name = []
  := by
  cases h with
  | idle _ _ hpending hdue hnews => cases hnews _ hb
  | took _ role' name' htake =>
    simp only [List.mem_singleton, Happening.took.injEq] at hb
    obtain ⟨rfl, rfl, -⟩ := hb
    rw [Ledger.tracked_take, if_pos ⟨rfl, rfl⟩]
  | _ => simp at hb

/-- What is tracked stays what was added since bindings were last taken. -/
theorem Transfer.tracked_eq_addedSince (h : Transfer L R k L' R' k' news) {role : Role}
    {history : List (Nat × Happening)} (hL : L.tracked role name = addedSince role name history)
    (i : Nat) :
  L'.tracked role name = addedSince role name (history ++ news.map (i, ·))
  := by
  by_cases hnone : ∀ e ∈ news, e.takenFrom role name = []
  · rw [addedSince_append i hnone, ← hL, h.tracked_append, flatMap_eq_nil hnone, List.nil_append]
  · push Not at hnone
    obtain ⟨e, he, hne⟩ := hnone
    obtain ⟨bs, hbs, rfl⟩ := Happening.eq_took hne
    rw [(h.of_took he).1, addedSince_took i hbs, h.tracked_of_took he]

/-- Whether no name has an empty list. -/
def Ledger.HasNoEmpty (L : Ledger) : Prop := ∀ role name, (L.of role).get? name ≠ some []

/-- A ledger without empty lists has a list under a name exactly if something is tracked there. -/
theorem Ledger.HasNoEmpty.take_eq_none_iff (hL : L.HasNoEmpty) (role : Role) (name : String) :
  (L.take role name).2 = none ↔ L.tracked role name = []
  := by
  rw [← take_snd_getD]
  cases htake : (L.take role name).2 with
  | none => simp
  | some bs =>
    have hne : bs ≠ [] := by
      rintro rfl
      apply hL role name htake
    simp [hne]

theorem Ledger.HasNoEmpty.record (hL : L.HasNoEmpty) (role : Role) (name : String)
    {bs : List BindingId} (hbs : bs ≠ []) :
  (L.record role name bs).HasNoEmpty
  := by
  intro role' name'
  rw [Ledger.get?_record]
  split
  · simp [hbs]
  · apply hL

theorem Ledger.HasNoEmpty.take (hL : L.HasNoEmpty) (role : Role) (name : String) :
  (L.take role name).1.HasNoEmpty
  := by
  intro role' name'
  rw [Ledger.get?_take]
  split
  · simp
  · apply hL

/-- A transfer that records no empty list leaves none. -/
theorem Transfer.hasNoEmpty (h : Transfer L R k L' R' k' news) (hL : L.HasNoEmpty)
    (hnews : ∀ role name bs, .tracked role name bs ∈ news → bs ≠ []) :
  L'.HasNoEmpty
  := by
  cases h with
  | established _ name c b => apply hL.record _ _ (List.cons_ne_nil b [])
  | recorded role name bs => apply hL.record _ _ (hnews role name bs List.mem_cons_self)
  | took => apply hL.take
  | _ => apply hL

end Transfer

/-! ## The invariant -/

/-- The ledger of an account is what its history adds up to. -/
structure Account.Balances (a : Account) : Prop where
  tracked_eq : ∀ role name,
    a.books.ledger.tracked role name = addedSince role name a.history
  hasNoEmpty : (∀ i role name bs, (i, .tracked role name bs) ∈ a.history → bs ≠ []) →
    a.books.ledger.HasNoEmpty
  /-- A call has begun to unbind what it has taken, but for what it has yet to come to. -/
  taken_eq : ∀ i, (ofCall i a.history).flatMap Happening.taken
    = (ofCall i a.history).flatMap Happening.released ++ (a.stake i).pending

theorem Account.balances_empty :
  ({} : Account).Balances
  := by
  constructor
  · intro role name
    cases role <;> rfl
  · intro _ role name
    cases role <;> simp [Ledger.of]
  · intro i
    rfl

/-- Every step keeps the balance. -/
theorem Account.Balances.step {a : Account} (ha : a.Balances) {i : Nat} {B : Books} {k : Stake}
    {news : List Happening} (h : Effect a.books (a.stake i) B k news) :
  Account.Balances ⟨B, Function.update a.stake i k, a.history ++ news.map (i, ·)⟩
  := by
  have htransfer := h.transfer
  constructor
  · intro role name
    apply htransfer.tracked_eq_addedSince (ha.tracked_eq role name)
  · intro hhistory
    apply htransfer.hasNoEmpty
    · apply ha.hasNoEmpty
      intro j role name bs hmem
      apply hhistory j role name bs (List.mem_append_left _ hmem)
    · intro role name bs hmem
      apply hhistory i role name bs (mem_history_append.mpr (Or.inr ⟨rfl, hmem⟩))
  · intro j
    rw [ofCall_append]
    dsimp only
    split
    · rename_i hij
      subst hij
      rw [Function.update_self, List.flatMap_append, List.flatMap_append, ha.taken_eq,
        List.append_assoc, htransfer.pending_append, List.append_assoc]
    · rename_i hij
      rw [Function.update_of_ne (Ne.symm hij), List.append_nil, ha.taken_eq]

/-- The account of every world that can be reached balances. -/
theorem World.balances (setup : Setup ι τ β) (fabric : Fabric) (binders : τ)
    (moves : List (Move ι)) :
  ((fresh fabric binders : World ι τ β).run setup moves).account.Balances
  := by
  apply account_run Account.balances_empty
  rintro a a' ha ⟨i, B, k, news, h⟩
  apply ha.step h

/-! ## How often a binding is added, taken and unbound -/

namespace Happening

/-- The bindings that are added, under whatever name. -/
def added : Happening → List BindingId
  | tracked _ _ bs => bs
  | _ => []

/-- The bindings that are added, each with its role and name. -/
def addedEntries : Happening → List (Role × String × BindingId)
  | tracked role name bs => bs.map (role, name, ·)
  | _ => []

/-- The bindings that are taken, each with its role and name. -/
def takenEntries : Happening → List (Role × String × BindingId)
  | took role name bs => bs.map (role, name, ·)
  | _ => []

variable (role : Role) (name : String) (b : BindingId)

theorem count_entries (role' : Role) (name' : String) (bs : List BindingId) :
  (bs.map fun b' => (role', name', b')).count (role, name, b)
    = (if role' = role ∧ name' = name then bs else []).count b
  := by
  split
  · rename_i heq
    obtain ⟨rfl, rfl⟩ := heq
    have hinj : Function.Injective fun b' : BindingId => (role', name', b') := by
      intro b₁ b₂ hb
      simpa using hb
    exact List.count_map_of_injective bs _ hinj b
  · rename_i hne
    rw [List.count_nil, List.count_eq_zero]
    intro hmem
    obtain ⟨b', -, heq⟩ := List.mem_map.mp hmem
    simp only [Prod.mk.injEq] at heq
    exact hne ⟨heq.1, heq.2.1⟩

theorem count_addedEntries (e : Happening) :
  e.addedEntries.count (role, name, b) = (e.recorded role name).count b
  := by
  cases e with
  | tracked role' name' bs => apply count_entries
  | _ => rfl

theorem count_takenEntries (e : Happening) :
  e.takenEntries.count (role, name, b) = (e.takenFrom role name).count b
  := by
  cases e with
  | took role' name' bs => apply count_entries
  | _ => rfl

theorem added_eq (e : Happening) :
  e.added = e.addedEntries.map (·.2.2)
  := by
  cases e <;> simp [added, addedEntries, Function.comp_def]

theorem taken_eq (e : Happening) :
  e.taken = e.takenEntries.map (·.2.2)
  := by
  cases e <;> simp [taken, takenEntries, Function.comp_def]

end Happening

/-- What happens as often along a history, entry by entry, happens as often along all of it. -/
theorem count_flatMap_congr {α γ : Type} [BEq α] [BEq γ] {a : α} {c : γ}
    {f : Nat × Happening → List α} {g : Nat × Happening → List γ}
    (h : ∀ e, (f e).count a = (g e).count c) (history : List (Nat × Happening)) :
  (history.flatMap f).count a = (history.flatMap g).count c
  := by
  induction history with
  | nil => rfl
  | cons e history ih => rw [List.flatMap_cons, List.count_append, h, ih, List.flatMap_cons,
      List.count_append]

/-- A binding occurs among the images of some entries as often as among those of more entries at the
most. -/
theorem count_map_le {α : Type} [BEq α] [LawfulBEq α] {l l' : List α} (see : α → BindingId)
    (h : ∀ a, l.count a ≤ l'.count a) (b : BindingId) :
  (l.map see).count b ≤ (l'.map see).count b
  := by
  have hsub : l.Subperm l' := List.subperm_ext_iff.mpr fun a _ => h a
  obtain ⟨l₁, hperm, hsublist⟩ := hsub
  rw [← (hperm.map see).count_eq b]
  apply (hsublist.map see).count_le

/-- A binding is taken as often as it is added at the most. -/
theorem Account.AddsUp.count_taken_le {a : Account} (ha : a.AddsUp) (b : BindingId) :
  (a.history.flatMap (·.2.taken)).count b ≤ (a.history.flatMap (·.2.added)).count b
  := by
  simp only [Happening.taken_eq, Happening.added_eq, ← List.map_flatMap]
  apply count_map_le
  rintro ⟨role, name, b⟩
  rw [count_flatMap_congr fun e => Happening.count_takenEntries role name b e.2,
    count_flatMap_congr fun e => Happening.count_addedEntries role name b e.2,
    ha.recorded_eq role name, List.count_append]
  apply Nat.le_add_right

/-- What one call has done with a binding, among what all calls have done. -/
theorem count_ofCall (see : Happening → List BindingId) (i : Nat) (b : BindingId)
    (history : List (Nat × Happening)) :
  (history.flatMap fun e => (see e.2).map (e.1, ·)).count (i, b)
    = ((ofCall i history).flatMap see).count b
  := by
  induction history with
  | nil => rfl
  | cons e history ih =>
    obtain ⟨j, e⟩ := e
    rw [List.flatMap_cons, List.count_append, ih]
    by_cases hji : j = i
    · subst hji
      have hinj : Function.Injective fun b : BindingId => (j, b) := Prod.mk_right_injective j
      have hown : ((see e).map (j, ·)).count (j, b) = (see e).count b :=
        List.count_map_of_injective _ _ hinj b
      simp [ofCall, hown]
    · have hother : ((see e).map (j, ·)).count (i, b) = 0 := by
        rw [List.count_eq_zero]
        simp [hji]
      simp [ofCall, hother, hji]

/-- A binding is unbound by those who took it as often as it is taken at the most. -/
theorem Account.Balances.count_released_le {a : Account} (ha : a.Balances) (b : BindingId) :
  (a.history.flatMap (·.2.released)).count b ≤ (a.history.flatMap (·.2.taken)).count b
  := by
  have hmap : ∀ see : Happening → List BindingId, a.history.flatMap (fun e => see e.2)
      = (a.history.flatMap fun e => (see e.2).map (e.1, ·)).map Prod.snd := by
    intro see
    simp [List.map_flatMap, Function.comp_def]
  rw [hmap Happening.released, hmap Happening.taken]
  apply count_map_le
  rintro ⟨i, b⟩
  rw [count_ofCall Happening.released, count_ofCall Happening.taken, ha.taken_eq,
    List.count_append]
  apply Nat.le_add_right

/-! ## Steps that add, take and unbind -/

/-- `call.Adds setup s role name bs`: in its next step a bind ends well, with the bindings `bs`, which
it was asked to make under a name. -/
inductive Call.Adds (setup : Setup ι τ β) (s : System τ) :
    Call ι β → Role → String → List BindingId → Prop where
  | producing {bind : ProducerBind β} {b : BindingId}
      (h : (ProducerBind.step setup s bind).2 = .ended (.ok b)) :
    Adds setup s (.producing bind) .producer bind.name [b]
  | resolving {r : Resolution β} {cell : CellId} {t : Ticket} {c : ChannelId}
      {bind : ProducerBind β} {b : BindingId} (hstage : r.stage = .binding cell t c bind)
      (h : (ProducerBind.step setup s bind).2 = .ended (.ok b)) :
    Adds setup s (.resolving r) .producer r.name [b]
  | consuming {bind : ConsumerBind ι β} {bs : List BindingId}
      (h : (ConsumerBind.step setup s bind).2 = .ended (.ok bs)) :
    Adds setup s (.consuming bind) .consumer (consumerName bind) bs

/-- The withdrawal that a call carries out. -/
def Call.withdrawal? : Call ι β → Option Withdrawal
  | releasing w => some w
  | draining w => some w
  | stopping (.releasing _ current _) => current
  | _ => none

/-- Whether a call takes what is tracked under a name in its next step. -/
def Call.Takes (s : System τ) (call : Call ι β) (role : Role) (name : String)
    (bs : List BindingId) : Prop :=
  ∃ w rest, call.withdrawal? = some w ∧ w.role = role ∧ w.current = none ∧ w.names = name :: rest
    ∧ (s.ledger.take role name).2 = some bs

/-- Whether a call begins to unbind a binding that it has taken in its next step. -/
def Call.Unbinds (call : Call ι β) (b : BindingId) : Prop :=
  ∃ w r, call.withdrawal? = some w ∧ w.current = some r ∧ r.current = .requested b

/-- A producer bind ends well exactly if its binder hands it a binding. -/
theorem ProducerBind.ended_ok_iff (s : System τ) (bind : ProducerBind β) (b : BindingId) :
  (step setup s bind).2 = .ended (.ok b)
    ↔ (setup.bindProcess.step s bind.call).2 = .ended (.ok b)
  := by
  obtain ⟨s', p, hp⟩ : ∃ s' p, setup.bindProcess.step s bind.call = (s', p) := ⟨_, _, rfl⟩
  simp only [step, hp]
  cases p with
  | running call => simp
  | waiting call pause => simp
  | ended answer => cases answer <;> simp

variable (setup) in
theorem Resolution.tracked_mem_news_iff (s : System τ) (r : Resolution β) (role : Role)
    (name : String) (bs : List BindingId) :
  .tracked role name bs ∈ r.news setup s
    ↔ (Call.resolving (ι := ι) r).Adds setup s role name bs
  := by
  unfold news
  constructor
  · intro h
    split at h
    · split at h <;> simp at h
    · rename_i hstage
      split at h
      · rename_i hb
        simp only [List.mem_cons, reduceCtorEq, Happening.tracked.injEq, List.not_mem_nil, or_false,
          false_or] at h
        obtain ⟨rfl, rfl, rfl⟩ := h
        exact .resolving hstage ((ProducerBind.ended_ok_iff s _ _).mpr hb)
      · simp at h
    · simp at h
  · rintro (_ | ⟨hstage, h⟩)
    rw [ProducerBind.ended_ok_iff] at h
    simp [hstage, h]

/-- A process whose end records bindings records those that it ends with. -/
theorem Call.tracked_mem_recorded_iff {ρ α ε : Type} (role role' : Role) (name name' : String)
    (bindings : α → List BindingId) (p : Progress ρ (Except ε α)) (bs : List BindingId) :
  .tracked role' name' bs ∈ recorded role name bindings p
    ↔ ∃ a, p = .ended (.ok a) ∧ role' = role ∧ name' = name ∧ bs = bindings a
  := by
  cases p with
  | running r => simp [recorded]
  | waiting r pause => simp [recorded]
  | ended answer => cases answer <;> simp [recorded]

/-- What a withdrawal takes in its next step. -/
theorem Withdrawal.took_mem_news_iff (s : System τ) (w : Withdrawal) (role : Role) (name : String)
    (bs : List BindingId) :
  .took role name bs ∈ w.news s
    ↔ ∃ rest, w.role = role ∧ w.current = none ∧ w.names = name :: rest
      ∧ (s.ledger.take role name).2 = some bs
  := by
  obtain ⟨role', names, current, failures⟩ := w
  cases current with
  | some r =>
    obtain ⟨name', u, rest, failure⟩ := r
    cases u <;> simp [news]
  | none =>
    cases names with
    | nil => simp [news]
    | cons name' names =>
      simp only [news]
      cases htake : (s.ledger.take role' name').2 with
      | none =>
        simp only [List.not_mem_nil, false_iff]
        rintro ⟨rest, rfl, -, hnames, h⟩
        cases hnames
        rw [htake] at h
        cases h
      | some bs' =>
        rw [List.mem_singleton, Happening.took.injEq]
        constructor
        · rintro ⟨rfl, rfl, rfl⟩
          exact ⟨names, rfl, trivial, rfl, htake⟩
        · rintro ⟨rest, rfl, -, hnames, h⟩
          cases hnames
          rw [htake] at h
          cases h
          exact ⟨rfl, rfl, rfl⟩

/-- What a withdrawal begins to unbind in its next step. -/
theorem Withdrawal.unbinding_mem_news_iff (s : System τ) (w : Withdrawal) (b : BindingId) :
  .unbinding b ∈ w.news s ↔ ∃ r, w.current = some r ∧ r.current = .requested b
  := by
  obtain ⟨role, names, current, failures⟩ := w
  cases current with
  | some r =>
    obtain ⟨name, u, rest, failure⟩ := r
    cases u <;> simp [news, eq_comm]
  | none =>
    cases names with
    | nil => simp [news]
    | cons name names =>
      simp only [news]
      split <;> simp

/-- A withdrawal records nothing. -/
theorem Withdrawal.tracked_not_mem_news (s : System τ) (w : Withdrawal) (role : Role) (name : String)
    (bs : List BindingId) :
  .tracked role name bs ∉ w.news s
  := by
  unfold news
  repeat' split
  all_goals simp

/-- A withdrawal does one thing in a step, if anything. -/
theorem Withdrawal.nodup_news (s : System τ) (w : Withdrawal) :
  (w.news s).Nodup
  := by
  unfold news
  repeat' split
  all_goals simp

/-- What a move brings about, in terms of the calls: binds that end well, bindings that are taken and
bindings that are unbound. -/
structure TellsNews (news : List Happening) (adds : Role → String → List BindingId → Prop)
    (takes : Role → String → List BindingId → Prop) (unbinds : BindingId → Prop) : Prop where
  nodup : news.Nodup
  tracked_iff : ∀ role name bs, .tracked role name bs ∈ news ↔ adds role name bs
  took_iff : ∀ role name bs, .took role name bs ∈ news ↔ takes role name bs
  unbinding_iff : ∀ b, .unbinding b ∈ news ↔ unbinds b

/-- A step of a call that carries out a withdrawal tells what the withdrawal does. -/
theorem Call.tellsNews_withdrawal {s : System τ} {call : Call ι β} {w : Withdrawal}
    (hw : call.withdrawal? = some w) (hadds : ∀ role name bs, ¬ call.Adds setup s role name bs) :
  TellsNews (w.news s) (call.Adds setup s) (call.Takes s) call.Unbinds
  := by
  constructor
  · apply w.nodup_news
  · intro role name bs
    simp only [w.tracked_not_mem_news, hadds]
  · intro role name bs
    rw [w.took_mem_news_iff]
    simp only [Takes, hw, Option.some.injEq, exists_and_left, exists_eq_left']
  · intro b
    rw [w.unbinding_mem_news_iff]
    simp only [Unbinds, hw, Option.some.injEq, exists_and_left, exists_eq_left']

/-- A step of a call without a withdrawal tells what it adds. -/
theorem Call.tellsNews_other {s : System τ} {call : Call ι β} {news : List Happening}
    (hcall : call.withdrawal? = none) (hnodup : news.Nodup)
    (htracked : ∀ role name bs, .tracked role name bs ∈ news ↔ call.Adds setup s role name bs)
    (htook : ∀ role name bs, .took role name bs ∉ news) (hunbinding : ∀ b, .unbinding b ∉ news) :
  TellsNews news (call.Adds setup s) (call.Takes s) call.Unbinds
  := by
  constructor
  · apply hnodup
  · apply htracked
  · intro role name bs
    simp [Takes, hcall, htook]
  · intro b
    simp [Unbinds, hcall, hunbinding]

variable (setup) in
/-- A resolution does nothing with bindings but to add one. -/
theorem Resolution.news_cases (s : System τ) (r : Resolution β) :
  r.news setup s = [] ∨ r.news setup s = [.attempted r.name]
    ∨ ∃ c b, r.news setup s = [.bound r.name c b, .tracked .producer r.name [b]]
  := by
  unfold news
  repeat' split
  all_goals simp

/-- A resolution answers with one channel at the most. -/
theorem Call.answered_cases {ρ : Type} (name : String) (p : Progress ρ ResolutionAnswer) :
  answered name p = [] ∨ ∃ c, answered name p = [.resolved name c]
  := by
  unfold answered
  split
  · exact Or.inr ⟨_, rfl⟩
  · exact Or.inl rfl

/-- What a bind records when it ends well is all that it tells. -/
theorem Call.recorded_cases {ρ α ε : Type} (role : Role) (name : String)
    (bindings : α → List BindingId) (p : Progress ρ (Except ε α)) :
  recorded role name bindings p = []
    ∨ ∃ bs, recorded role name bindings p = [.tracked role name bs]
  := by
  unfold recorded
  split
  · exact Or.inr ⟨_, rfl⟩
  · exact Or.inl rfl

/-- Every step of a call tells of the bindings that it adds, takes and begins to unbind. -/
theorem Call.tellsNews_step (setup : Setup ι τ β) (s : System τ) (call : Call ι β) :
  TellsNews (call.step setup s).2.2 (call.Adds setup s) (call.Takes s) call.Unbinds
  := by
  cases call with
  | resolving r =>
    have hnews := Resolution.news_cases setup s r
    have hanswered := answered_cases r.name (Resolution.step setup s r).2
    have htracked := Resolution.tracked_mem_news_iff (ι := ι) setup s r
    apply tellsNews_other rfl
    · rcases hnews with h | h | ⟨c, b, h⟩ <;> rcases hanswered with h' | ⟨c', h'⟩ <;>
        simp [step, h, h']
    · intro role name bs
      rw [← htracked]
      rcases hanswered with h' | ⟨c', h'⟩ <;> simp [step, h']
    · rcases hnews with h | h | ⟨c, b, h⟩ <;> rcases hanswered with h' | ⟨c', h'⟩ <;>
        simp [step, h, h']
    · rcases hnews with h | h | ⟨c, b, h⟩ <;> rcases hanswered with h' | ⟨c', h'⟩ <;>
        simp [step, h, h']
  | producing bind =>
    have hnews := recorded_cases .producer bind.name ([·]) (ProducerBind.step setup s bind).2
    apply tellsNews_other rfl
    · rcases hnews with h | ⟨bs, h⟩ <;> simp [step, h]
    · intro role name bs
      simp only [step, tracked_mem_recorded_iff]
      constructor
      · rintro ⟨b, h, rfl, rfl, rfl⟩
        apply Adds.producing h
      · intro hadds
        cases hadds with
        | producing h => exact ⟨_, h, rfl, rfl, rfl⟩
    · rcases hnews with h | ⟨bs, h⟩ <;> simp [step, h]
    · rcases hnews with h | ⟨bs, h⟩ <;> simp [step, h]
  | consuming bind =>
    have hnews := recorded_cases .consumer (consumerName bind) id (ConsumerBind.step setup s bind).2
    apply tellsNews_other rfl
    · rcases hnews with h | ⟨bs, h⟩ <;> simp [step, h]
    · intro role name bs
      simp only [step, tracked_mem_recorded_iff]
      constructor
      · rintro ⟨bs, h, rfl, rfl, rfl⟩
        apply Adds.consuming h
      · intro hadds
        cases hadds with
        | consuming h => exact ⟨_, h, rfl, rfl, rfl⟩
    · rcases hnews with h | ⟨bs, h⟩ <;> simp [step, h]
    · rcases hnews with h | ⟨bs, h⟩ <;> simp [step, h]
  | releasing w =>
    apply tellsNews_withdrawal rfl
    rintro role name bs ⟨⟩
  | draining w =>
    apply tellsNews_withdrawal rfl
    rintro role name bs ⟨⟩
  | stopping x =>
    have hnone : ∀ role name bs, ¬ (stopping (ι := ι) (β := β) x).Adds setup s role name bs := by
      rintro role name bs ⟨⟩
    cases x with
    | requested | listing => apply tellsNews_other rfl <;> simp [step, Shutdown.news, hnone]
    | releasing stages current failures =>
      cases current with
      | some w => apply tellsNews_withdrawal rfl hnone
      | none =>
        have hnews : Shutdown.news s (.releasing stages none failures) = []
            ∨ Shutdown.news s (.releasing stages none failures) = [.drained s.registry.names] := by
          rcases stages with _ | ⟨⟨_ | _, _ | _ | _ | _⟩, stages⟩ <;> simp [Shutdown.news]
        rcases hnews with h | h <;> apply tellsNews_other rfl <;> simp [step, h, hnone]
  | attaching call =>
    have hnone : ∀ role name bs, ¬ (attaching (ι := ι) call).Adds setup s role name bs := by
      rintro role name bs ⟨⟩
    apply tellsNews_other rfl <;> simp [step, hnone]
  | unbinding u =>
    have hnone : ∀ role name bs, ¬ (unbinding (ι := ι) (β := β) u).Adds setup s role name bs := by
      rintro role name bs ⟨⟩
    apply tellsNews_other rfl <;> simp [step, hnone]
  | finished =>
    have hnone : ∀ role name bs, ¬ (finished : Call ι β).Adds setup s role name bs := by
      rintro role name bs ⟨⟩
    apply tellsNews_other rfl <;> simp [step, hnone]

/-! ## Moves that add, take and unbind -/

/-- No consumer bind ends well before a binder was asked. -/
theorem ConsumerBind.begin_ne_ended_ok (s : System τ) (name : String) (input : ChannelId)
    (bs : List BindingId) :
  (begin setup s name input).2 ≠ .ended (.ok bs)
  := by
  unfold begin
  cases h : prepare setup s.binders name input with
  | error e => simp
  | ok prepared =>
    obtain ⟨request, destinations⟩ := prepared
    cases destinations with
    | nil => apply absurd rfl (of_prepare h).2.2
    | cons destination rest => simp [next]

/-- A consumer bind that ends well has made a binding. -/
theorem ConsumerBind.ne_nil_of_ended_ok {s : System τ} {bind : ConsumerBind ι β}
    {bs : List BindingId} (h : (step setup s bind).2 = .ended (.ok bs)) :
  bs ≠ []
  := by
  cases bind with
  | binding request destination call rest created =>
    obtain ⟨s', p, hp⟩ : ∃ s' p, setup.bindProcess.step s call = (s', p) := ⟨_, _, rfl⟩
    simp only [step, hp] at h
    cases p with
    | running call => cases h
    | waiting call pause => cases h
    | ended answer =>
      cases answer with
      | ok b =>
        cases rest with
        | nil =>
          cases h
          simp
        | cons destination rest => cases h
      | error e => cases created <;> cases h
  | rollingBack release e =>
    obtain ⟨f, p, hp⟩ : ∃ f p, Release.step s.fabric release = (f, p) := ⟨_, _, rfl⟩
    simp only [step, hp] at h
    cases p <;> cases h

/-- A bind that ends well adds a binding. -/
theorem Call.Adds.ne_nil {s : System τ} {call : Call ι β} {role : Role} {name : String}
    {bs : List BindingId} (h : call.Adds setup s role name bs) :
  bs ≠ []
  := by
  cases h with
  | producing h => apply List.cons_ne_nil
  | resolving hstage h => apply List.cons_ne_nil
  | consuming h => apply ConsumerBind.ne_nil_of_ended_ok h

/-- To begin a call adds, takes and unbinds nothing. -/
theorem Request.tellsNews_begin (setup : Setup ι τ β) (s : System τ) (request : Request ι) :
  TellsNews (request.begin setup s).2.2 (fun _ _ _ => False) (fun _ _ _ => False) fun _ => False
  := by
  cases request with
  | bindProducer name output properties =>
    have hnone : (begin setup s (.bindProducer name output properties)).2.2 = [] := by
      obtain ⟨-, ⟨e, h⟩ | ⟨bind, -, h⟩⟩ := ProducerBind.begin_cases setup s name output
        (properties.getD (setup.settings.producerProperties name)) <;>
        simp [begin, h, Call.recorded]
    rw [hnone]
    constructor <;> simp
  | bindConsumer name input =>
    have hnone : (begin setup s (.bindConsumer name input)).2.2 = [] := by
      rcases Call.recorded_cases .consumer name id (ConsumerBind.begin setup s name input).2 with
        h | ⟨bs, h⟩
      · apply h
      · have hmem : .tracked .consumer name bs
            ∈ Call.recorded .consumer name id (ConsumerBind.begin setup s name input).2 := by
          rw [h]
          apply List.mem_cons_self
        obtain ⟨bs', hended, -⟩ := (Call.tracked_mem_recorded_iff _ _ _ _ _ _ _).mp hmem
        apply absurd hended (ConsumerBind.begin_ne_ended_ok s name input bs')
    rw [hnone]
    constructor <;> simp
  | attach binder request => cases request <;> constructor <;> simp [begin]
  | _ => constructor <;> simp [begin]

namespace World

/-- Every move tells of the bindings that it adds, takes and begins to unbind; only the steps of calls
do any of it. -/
theorem tellsNews_next (setup : Setup ι τ β) (w : World ι τ β) (m : Move ι) :
  ∃ i news, (w.next setup m).history = w.history ++ news.map (i, ·) ∧
    TellsNews news
      (fun role name bs => m = .advance i ∧ (w.call i).Adds setup w.system role name bs)
      (fun role name bs => m = .advance i ∧ (w.call i).Takes w.system role name bs)
      fun b => m = .advance i ∧ (w.call i).Unbinds b
  := by
  have hquiet : (w.next setup m).history = w.history → (∀ i, m ≠ .advance i) →
      ∃ i news, (w.next setup m).history = w.history ++ news.map (i, ·) ∧
        TellsNews news
          (fun role name bs => m = .advance i ∧ (w.call i).Adds setup w.system role name bs)
          (fun role name bs => m = .advance i ∧ (w.call i).Takes w.system role name bs)
          fun b => m = .advance i ∧ (w.call i).Unbinds b := by
    intro hhistory hm
    refine ⟨0, [], ?_, ?_⟩
    · rw [hhistory, List.map_nil, List.append_nil]
    · constructor <;> simp [hm]
  cases m with
  | call request =>
    by_cases hrequest : ∀ c ∈ request.channels, c.index < w.system.fabric.channels.size
    · refine ⟨w.calls.length, (request.begin setup w.system).2.2, ?_, ?_⟩
      · simp only [next, if_pos hrequest]
      · simpa using request.tellsNews_begin setup w.system
    · apply hquiet
      · simp only [next, if_neg hrequest]
      · simp
  | advance i =>
    refine ⟨i, ((w.call i).step setup w.system).2.2, ?_, ?_⟩
    · rw [next_advance]
    · simpa using (w.call i).tellsNews_step setup w.system
  | drop i =>
    apply hquiet
    · simp only [next]
      split <;> rfl
    · simp
  | _ => exact hquiet rfl (by simp)

/-- No bind that ends well adds nothing. -/
theorem ne_nil_of_tracked (setup : Setup ι τ β) (fabric : Fabric) (binders : τ)
    (moves : List (Move ι)) {i : Nat} {role : Role} {name : String} {bs : List BindingId}
    (h : (i, .tracked role name bs)
      ∈ ((fresh fabric binders : World ι τ β).run setup moves).history) :
  bs ≠ []
  := by
  revert h
  apply run_induction (P := fun w => (i, .tracked role name bs) ∈ w.history → bs ≠ [])
  · intro h
    cases h
  · intro w m hw h
    obtain ⟨j, news, hhistory, htells⟩ := tellsNews_next setup w m
    rw [hhistory, mem_history_append] at h
    rcases h with hold | ⟨rfl, hnew⟩
    · apply hw hold
    · apply ((htells.tracked_iff role name bs).mp hnew).2.ne_nil

/-- In no world that can be reached a name has an empty list. -/
theorem hasNoEmpty (setup : Setup ι τ β) (fabric : Fabric) (binders : τ)
    (moves : List (Move ι)) :
  ((fresh fabric binders : World ι τ β).run setup moves).system.ledger.HasNoEmpty
  := by
  apply (balances setup fabric binders moves).hasNoEmpty
  intro i role name bs hmem
  apply ne_nil_of_tracked setup fabric binders moves hmem

end World

/-! ## What an unbind call answers -/

/-- What an unbind call answers when it ends with the failures of its withdrawal. -/
def Withdrawal.answer : List UnbindFailure → Except BindingError Unit
  | [] => .ok ()
  | failure :: _ => .error failure.error

/-- A withdrawal that goes on with the release of what it has found adds failures of binders only. -/
theorem Withdrawal.of_mem_failures_proceed {w : Withdrawal} {name : String}
    {p : Progress Release (Option BinderError)} {failure : UnbindFailure}
    (h : failure ∈ (w.proceed name p).failures) :
  failure ∈ w.failures ∨ ∃ e, failure.error = .binder e
  := by
  cases p with
  | running r => exact Or.inl h
  | waiting r pause => exact Or.inl h
  | ended result =>
    cases result with
    | none => exact Or.inl h
    | some e =>
      apply (List.mem_append.mp h).imp_right
      intro hnew
      rw [List.mem_singleton.mp hnew]
      exact ⟨e, rfl⟩

namespace World

/-- Whether an unbind call ends in its next step, and with which answer. -/
def Answers (w : World ι τ β) (i : Nat) (answer : Except BindingError Unit) : Prop :=
  ∃ x failures, w.call i = .releasing x ∧ (Withdrawal.step w.system x).2 = .ended failures
    ∧ Withdrawal.answer failures = answer

/-- Whether an unbind call has come to its name, where it has `found` bindings or none, and goes on or
is over. -/
def HasRun (w : World ι τ β) (i : Nat) (role : Role) (name : String) (found : Prop) : Prop :=
  i < w.calls.length ∧ (w.call i = .finished ∨ ∃ x, w.call i = .releasing x ∧ x.names = []
    ∧ (found ∧ (∀ failure ∈ x.failures, ∃ e, failure.error = .binder e)
      ∨ ¬ found ∧ x.current = none ∧ x.failures = [⟨name, role, .notBound name⟩]))

variable (setup) in
/-- A call that cannot be dropped stays as it is until it takes a step. -/
theorem call_next {w : World ι τ β} {i : Nat} (hi : i < w.calls.length)
    (hcall : w.call i = .finished ∨ ∃ x, w.call i = .releasing x) (m : Move ι) :
  i < (w.next setup m).calls.length ∧ ((w.next setup m).call i = w.call i
    ∨ m = .advance i ∧ (w.next setup m).call i = ((w.call i).step setup w.system).2.1)
  := by
  refine ⟨Nat.lt_of_lt_of_le hi (length_calls_le_next setup w m), ?_⟩
  cases m with
  | call request =>
    apply Or.inl
    simp only [next]
    split
    · rw [call_append, Function.update_of_ne (Nat.ne_of_lt hi)]
    · rfl
  | advance j =>
    rw [call_advance]
    by_cases hji : j = i
    · subst hji
      rw [Function.update_self]
      exact Or.inr ⟨rfl, rfl⟩
    · rw [Function.update_of_ne (Ne.symm hji)]
      exact Or.inl rfl
  | drop j =>
    apply Or.inl
    rw [call_drop]
    by_cases hji : j = i
    · subst hji
      rw [Function.update_self]
      rcases hcall with hfinished | ⟨x, hx⟩
      · rw [hfinished]
        rfl
      · rw [hx]
        rfl
    · rw [Function.update_of_ne (Ne.symm hji)]
  | _ => exact Or.inl rfl

/-- An unbind call that has come to its name goes on as it should. -/
theorem HasRun.next {w : World ι τ β} {i : Nat} {role : Role} {name : String} {found : Prop}
    (hw : w.HasRun i role name found) (m : Move ι) :
  (w.next setup m).HasRun i role name found
  := by
  obtain ⟨hi, hcall⟩ := hw
  have hkind : w.call i = .finished ∨ ∃ x, w.call i = .releasing x := by
    rcases hcall with hfinished | ⟨x, hx, -⟩
    · exact Or.inl hfinished
    · exact Or.inr ⟨x, hx⟩
  obtain ⟨hi', hsame | ⟨-, hstep⟩⟩ := call_next setup hi hkind m
  · use hi'
    rw [hsame]
    apply hcall
  · use hi'
    rw [hstep]
    rcases hcall with hfinished | ⟨⟨role', names, current, failures⟩, hx, hnames, hfailures⟩
    · rw [hfinished]
      exact Or.inl rfl
    · rw [hx]
      dsimp only at hnames hfailures
      subst hnames
      cases current with
      | none => exact Or.inl rfl
      | some r =>
        obtain ⟨hfound, hall⟩ : found ∧ ∀ failure ∈ failures, ∃ e, failure.error = .binder e := by
          rcases hfailures with h | ⟨-, hnone, -⟩
          · apply h
          · cases hnone
        apply Or.inr
        refine ⟨_, rfl, ?_, Or.inl ⟨hfound, ?_⟩⟩
        · rw [Withdrawal.names_proceed]
        · intro failure hmem
          rcases Withdrawal.of_mem_failures_proceed hmem with hold | hnew
          · apply hall failure hold
          · apply hnew

/-- An unbind call that has come to its name answers that nothing is bound exactly if it has found
nothing. -/
theorem HasRun.answer_iff {w : World ι τ β} {i : Nat} {role : Role} {name : String} {found : Prop}
    (hw : w.HasRun i role name found) {answer : Except BindingError Unit}
    (hanswer : w.Answers i answer) :
  answer = .error (.notBound name) ↔ ¬ found
  := by
  obtain ⟨x, ended, hx, hended, rfl⟩ := hanswer
  obtain ⟨-, hfinished | ⟨⟨role', names, current, failures⟩, hx', hnames, hfailures⟩⟩ := hw
  · rw [hx] at hfinished
    cases hfinished
  · rw [hx] at hx'
    cases hx'
    dsimp only at hnames hfailures
    subst hnames
    cases current with
    | some r => cases hended
    | none =>
      cases hended
      rcases hfailures with ⟨hfound, hall⟩ | ⟨hnot, -, rfl⟩
      · simp only [hfound, not_true_eq_false, iff_false]
        cases failures with
        | nil => simp [Withdrawal.answer]
        | cons failure failures =>
          obtain ⟨e, he⟩ := hall failure List.mem_cons_self
          simp [Withdrawal.answer, he]
      · simp [Withdrawal.answer, hnot]

/-- An unbind call that takes its first step comes to its name, and finds there what is tracked. -/
theorem hasRun_advance {w : World ι τ β} (hw : w.system.ledger.HasNoEmpty) {i : Nat} {role : Role}
    {name : String} (hi : w.call i = .releasing { role, names := [name] }) :
  (w.next setup (.advance i)).HasRun i role name (w.system.ledger.tracked role name ≠ [])
  := by
  have hget := getElem?_of_call hi (by simp)
  obtain ⟨hlt, -⟩ := List.getElem?_eq_some_iff.mp hget
  have hfound := hw.take_eq_none_iff role name
  obtain ⟨ledger, taken, htake⟩ : ∃ ledger taken, w.system.ledger.take role name = (ledger, taken) :=
    ⟨_, _, rfl⟩
  rw [htake] at hfound
  obtain ⟨hlt', -⟩ := call_next setup hlt (Or.inr ⟨_, hi⟩) (.advance i)
  use hlt'
  apply Or.inr
  simp only [next, hget, call_set w _ _ _ hget, Function.update_self]
  cases taken with
  | none =>
    refine ⟨⟨role, [], none, [⟨name, role, .notBound name⟩]⟩, ?_, rfl, Or.inr ⟨?_, rfl, rfl⟩⟩
    · simp [Call.step, Withdrawal.step, htake, Call.after]
    · simpa using hfound
  | some bs =>
    have hne : w.system.ledger.tracked role name ≠ [] := by
      simpa using hfound
    refine ⟨Withdrawal.proceed ⟨role, [], none, []⟩ name (Release.begin name none bs), ?_, ?_,
      Or.inl ⟨hne, ?_⟩⟩
    · simp only [Call.step, Withdrawal.step, htake, Call.after]
    · rw [Withdrawal.names_proceed]
    · cases bs <;> simp [Release.begin, Withdrawal.proceed]

/-- An unbind call comes to an answer. -/
theorem exists_answers (w : World ι τ β) {i : Nat} {x : Withdrawal} (hi : w.call i = .releasing x) :
  ∃ n answer, (w.run setup (List.replicate n (.advance i))).Answers i answer
  := by
  induction x using (Withdrawal.process (τ := τ)).wellFounded.induction generalizing w with
  | _ x ih =>
    obtain ⟨s, p, hp⟩ : ∃ s p, Withdrawal.step w.system x = (s, p) := ⟨_, _, rfl⟩
    cases p with
    | running x' =>
      have hget := getElem?_of_call hi (by simp)
      have hnext : (w.next setup (.advance i)).call i = .releasing x' := by
        simp only [next, hget, call_set w _ _ _ hget, Function.update_self, Call.step, hp, Call.after]
      obtain ⟨n, answer, hanswer⟩ := ih x' (Withdrawal.nearer_of_step hp) _ hnext
      exact ⟨n + 1, answer, hanswer⟩
    | waiting x' pause => exact absurd hp Withdrawal.step_ne_waiting
    | ended failures =>
      refine ⟨0, Withdrawal.answer failures, x, failures, hi, ?_, rfl⟩
      change (Withdrawal.step w.system x).2 = .ended failures
      rw [hp]

end World

/-! ## Nothing is lost or duplicated -/

/-- Whether the ledger has what binds have added and nobody has taken, and whether what was taken, and
what was unbound then, was added before. -/
structure World.KeepsBooks (w : World ι τ β) : Prop where
  /-- What is tracked under a name is what was added there since bindings were last taken. -/
  tracked_eq : ∀ role name, w.system.ledger.tracked role name = addedSince role name w.history
  hasNoEmpty : w.system.ledger.HasNoEmpty
  /-- What was added under a name was taken from there, list by list, or is still tracked. -/
  recorded_eq : ∀ role name, w.history.flatMap (·.2.recorded role name)
    = w.history.flatMap (·.2.takenFrom role name) ++ w.system.ledger.tracked role name
  /-- A binding is taken as often as it is added at the most, by all calls together. -/
  count_taken_le : ∀ b,
    (w.history.flatMap (·.2.taken)).count b ≤ (w.history.flatMap (·.2.added)).count b
  /-- A binding is unbound by those who took it as often as it is taken at the most. -/
  count_released_le : ∀ b,
    (w.history.flatMap (·.2.released)).count b ≤ (w.history.flatMap (·.2.taken)).count b
  /-- Where no binder hands out a binding twice, what is taken at two times has nothing in common. -/
  taken_disjoint : (w.history.flatMap (·.2.added)).Nodup →
    w.history.Pairwise fun e e' => e.2.taken.Disjoint e'.2.taken
  /-- Where no binder hands out a binding twice, none is unbound twice by those who took it. -/
  released_nodup : (w.history.flatMap (·.2.added)).Nodup →
    (w.history.flatMap (·.2.released)).Nodup

/-- Whether unbind calls answer as they should. -/
structure World.AnswersUnbind (setup : Setup ι τ β) (w : World ι τ β) : Prop where
  /-- A call that comes to its name in its next step answers in the end, whatever happens meanwhile,
  that nothing is bound exactly if nothing is tracked there now. -/
  notBound_iff : ∀ i role name, w.call i = .releasing { role, names := [name] } →
    ∀ further answer, ((w.next setup (.advance i)).run setup further).Answers i answer →
      (answer = .error (.notBound name) ↔ w.system.ledger.tracked role name = [])
  /-- A call comes to an answer when it goes on. -/
  exists_answer : ∀ i x, w.call i = .releasing x →
    ∃ n answer, (w.run setup (List.replicate n (.advance i))).Answers i answer

/-- Whatever calls are under way, the service neither loses nor duplicates a binding: its ledger has
what binds that ended well have added since it was last taken, each binding is taken once at the most
for each time that it was added, and only who finds nothing is told that nothing is bound. -/
theorem World.service_conserves_bindings (setup : Setup ι τ β) (fabric : Fabric) (binders : τ)
    (moves : List (Move ι)) :
  let w := (fresh fabric binders : World ι τ β).run setup moves
  w.KeepsBooks
    ∧ (∀ m, ∃ i news, (w.next setup m).history = w.history ++ news.map (i, ·) ∧
      TellsNews news
        (fun role name bs => m = .advance i ∧ (w.call i).Adds setup w.system role name bs)
        (fun role name bs => m = .advance i ∧ (w.call i).Takes w.system role name bs)
        fun b => m = .advance i ∧ (w.call i).Unbinds b)
    ∧ w.AnswersUnbind setup
  := by
  intro w
  have hbalances : w.account.Balances := balances setup fabric binders moves
  have hadds : w.account.AddsUp := addsUp setup fabric binders moves
  have hno : w.system.ledger.HasNoEmpty := hasNoEmpty setup fabric binders moves
  have htaken : (w.history.flatMap (·.2.added)).Nodup →
      (w.history.flatMap (·.2.taken)).Nodup := by
    intro hnodup
    rw [List.nodup_iff_count_le_one] at hnodup ⊢
    intro b
    apply (hadds.count_taken_le b).trans (hnodup b)
  refine ⟨?_, tellsNews_next setup w, ?_⟩
  · constructor
    · apply hbalances.tracked_eq
    · apply hno
    · apply hadds.recorded_eq
    · apply hadds.count_taken_le
    · apply hbalances.count_released_le
    · intro hnodup
      apply (List.nodup_flatMap.mp (htaken hnodup)).2
    · intro hnodup
      have honce := List.nodup_iff_count_le_one.mp (htaken hnodup)
      rw [List.nodup_iff_count_le_one]
      intro b
      apply (hbalances.count_released_le b).trans (honce b)
  · constructor
    · intro i role name hi further answer hanswer
      have hrun : ((w.next setup (.advance i)).run setup further).HasRun i role name
          (w.system.ledger.tracked role name ≠ []) := by
        apply run_induction (P := fun w' => w'.HasRun i role name _) (hasRun_advance hno hi)
        intro w' m hw'
        apply hw'.next m
      rw [hrun.answer_iff hanswer, not_not]
    · intro i x hi
      apply exists_answers w hi

end ChannelBinding
