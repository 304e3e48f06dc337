import ChannelBinding.Proofs.Custody

/-!
# Shutting down

Every binding that was recorded under a name was taken from under it or is still tracked there, each
in its turn; and a call begins to unbind what it has taken, binding after binding, before it takes
more.  So whatever a shutdown races with, it loses no binding that a resolution was handed: when it
is over, each such binding whose name it was handed is being unbound, or is held by another call.
-/

namespace ChannelBinding

variable {ι τ β : Type}

/-! ## What the history adds up to -/

namespace Happening

/-- The bindings that are recorded under a name. -/
def recorded (role : Role) (name : String) : Happening → List BindingId
  | tracked role' name' bs => if role' = role ∧ name' = name then bs else []
  | _ => []

/-- The bindings that are taken from under a name. -/
def takenFrom (role : Role) (name : String) : Happening → List BindingId
  | took role' name' bs => if role' = role ∧ name' = name then bs else []
  | _ => []

/-- The bindings that are taken. -/
def taken : Happening → List BindingId
  | took _ _ bs => bs
  | _ => []

/-- The bindings that are being unbound. -/
def released : Happening → List BindingId
  | unbinding b => [b]
  | _ => []

end Happening

/-- What one call has brought about. -/
def ofCall (i : Nat) (history : List (Nat × Happening)) : List Happening :=
  (history.filter (·.1 = i)).map Prod.snd

theorem ofCall_append (i j : Nat) (history : List (Nat × Happening)) (news : List Happening) :
  ofCall i (history ++ news.map (j, ·))
    = ofCall i history ++ if j = i then news else []
  := by
  simp only [ofCall, List.filter_append, List.map_append, List.filter_map]
  split
  · rename_i hji
    simp [hji, Function.comp_def]
  · rename_i hji
    simp [hji, Function.comp_def]

theorem mem_ofCall {i : Nat} {history : List (Nat × Happening)} {e : Happening} :
  e ∈ ofCall i history ↔ (i, e) ∈ history
  := by
  simp only [ofCall, List.mem_map, List.mem_filter, decide_eq_true_eq]
  constructor
  · rintro ⟨⟨j, e'⟩, ⟨hmem, rfl⟩, rfl⟩
    apply hmem
  · intro hmem
    exact ⟨(i, e), ⟨hmem, rfl⟩, rfl⟩

/-- A binding that a call releases is one that it begins to unbind. -/
theorem mem_released {i : Nat} {history : List (Nat × Happening)} {b : BindingId} :
  b ∈ (ofCall i history).flatMap Happening.released ↔ (i, .unbinding b) ∈ history
  := by
  rw [List.mem_flatMap]
  constructor
  · rintro ⟨e, he, hb⟩
    unfold Happening.released at hb
    split at hb
    · rw [List.mem_singleton] at hb
      subst hb
      apply mem_ofCall.1 he
    · cases hb
  · intro hmem
    exact ⟨_, mem_ofCall.2 hmem, List.mem_singleton.2 rfl⟩

/-! ## What one transfer adds -/

section Transfer

variable {L L' : Ledger} {R R' : Registry} {k k' : Stake} {news : List Happening}

/-- Nothing that has to do with resolutions alone records, takes or releases a binding. -/
theorem Happening.IsAside.eq_nil {e : Happening} (he : e.IsAside) (role : Role) (name : String) :
  e.recorded role name = [] ∧ e.takenFrom role name = [] ∧ e.taken = [] ∧ e.released = []
  := by
  cases e with
  | attempted | resolved => exact ⟨rfl, rfl, rfl, rfl⟩
  | _ => cases he

theorem flatMap_eq_nil {see : Happening → List BindingId} (h : ∀ e ∈ news, see e = []) :
  news.flatMap see = []
  := by
  rw [List.flatMap_eq_nil_iff]
  apply h

/-- What is tracked under a name and what is recorded there now is what is taken from there now and
what is tracked there afterwards. -/
theorem Transfer.tracked_append (h : Transfer L R k L' R' k' news) (role : Role) (name : String) :
  L.tracked role name ++ news.flatMap (Happening.recorded role name)
    = news.flatMap (Happening.takenFrom role name) ++ L'.tracked role name
  := by
  have hrecord : ∀ role' name' bs, L.tracked role name
        ++ (if role' = role ∧ name' = name then bs else [])
      = (L.record role' name' bs).tracked role name := by
    intro role' name' bs
    rw [Ledger.tracked_record]
    split
    · rfl
    · apply List.append_nil
  cases h with
  | idle _ _ hpending hdue hnews =>
    rw [flatMap_eq_nil fun e he => ((hnews e he).eq_nil role name).1,
      flatMap_eq_nil fun e he => ((hnews e he).eq_nil role name).2.1]
    apply List.append_nil
  | established _ name' c b =>
    have hbound := hrecord .producer name' [b]
    simp [Happening.recorded, Happening.takenFrom, ← hbound]
  | recorded role' name' bs =>
    have hbound := hrecord role' name' bs
    simp [Happening.recorded, Happening.takenFrom, ← hbound]
  | took _ role' name' htake =>
    rw [Ledger.tracked_take]
    simp only [List.flatMap_cons, List.flatMap_nil, Happening.recorded, Happening.takenFrom]
    split
    · rename_i heq
      obtain ⟨rfl, rfl⟩ := heq
      rw [Ledger.tracked_of_take htake]
      simp
    · simp
  | missed => simp
  | unbinding => simp [Happening.recorded, Happening.takenFrom]
  | drained => simp [Happening.recorded, Happening.takenFrom]
  | listed => simp

/-- What a call has yet to unbind and what it takes now is what it begins to unbind now and what it
has yet to unbind afterwards. -/
theorem Transfer.pending_append (h : Transfer L R k L' R' k' news) :
  k.pending ++ news.flatMap Happening.taken = news.flatMap Happening.released ++ k'.pending
  := by
  cases h with
  | idle _ _ hpending hdue hnews =>
    rw [flatMap_eq_nil fun e he => ((hnews e he).eq_nil .producer "").2.2.1,
      flatMap_eq_nil fun e he => ((hnews e he).eq_nil .producer "").2.2.2, hpending]
    apply List.append_nil
  | established _ _ _ _ hpending => simp [Happening.taken, Happening.released, hpending]
  | recorded => simp [Happening.taken, Happening.released]
  | took _ _ _ _ hpending => simp [Happening.taken, Happening.released, hpending]
  | missed _ _ _ _ hpending => simp [hpending]
  | unbinding _ _ hpending => simp [Happening.taken, Happening.released, hpending]
  | drained _ hpending => simp [Happening.taken, Happening.released, hpending]
  | listed _ hpending => simp [hpending]

/-- A call takes bindings only when it has begun to unbind all that it has taken before. -/
theorem Transfer.of_took (h : Transfer L R k L' R' k' news) {role : Role} {name : String}
    {bs : List BindingId} (hb : .took role name bs ∈ news) :
  news = [.took role name bs] ∧ k'.pending = bs
  := by
  cases h with
  | idle _ _ hpending hdue hnews => cases hnews _ hb
  | took _ role' name' htake =>
    simp only [List.mem_singleton, Happening.took.injEq] at hb
    obtain ⟨rfl, rfl, rfl⟩ := hb
    exact ⟨rfl, rfl⟩
  | _ => simp at hb

end Transfer

/-! ## The invariant -/

/-- The history of an account adds up: nothing is recorded that is neither taken nor tracked, and
nothing is taken that is not begun to be unbound in its turn. -/
structure Account.AddsUp (a : Account) : Prop where
  recorded_eq : ∀ role name, a.history.flatMap (·.2.recorded role name)
    = a.history.flatMap (·.2.takenFrom role name) ++ a.books.ledger.tracked role name
  released_since : ∀ {i role name bs} pre post,
    a.history = pre ++ (i, .took role name bs) :: post →
      bs ++ (ofCall i post).flatMap Happening.taken
        = (ofCall i post).flatMap Happening.released ++ (a.stake i).pending

theorem Account.addsUp_empty :
  ({} : Account).AddsUp
  := by
  constructor
  · intro role name
    cases role <;> rfl
  · intro i role name bs pre post h
    simp at h

/-- Every step keeps the sums. -/
theorem Account.AddsUp.step {a : Account} (ha : a.AddsUp) {i : Nat} {B : Books} {k : Stake}
    {news : List Happening} (h : Effect a.books (a.stake i) B k news) :
  Account.AddsUp ⟨B, Function.update a.stake i k, a.history ++ news.map (i, ·)⟩
  := by
  have htransfer := h.transfer
  constructor
  · intro role name
    simp only [List.flatMap_append, List.flatMap_map, ha.recorded_eq role name, List.append_assoc]
    rw [htransfer.tracked_append]
  · intro j role name bs
    apply since_append
    · intro pre post hpost
      have hsince := ha.released_since pre post hpost
      rw [ofCall_append]
      dsimp only
      split
      · rename_i hij
        subst hij
        rw [Function.update_self, List.flatMap_append, List.flatMap_append, ← List.append_assoc,
          hsince, List.append_assoc, htransfer.pending_append, List.append_assoc]
      · rename_i hij
        rw [Function.update_of_ne (Ne.symm hij), List.append_nil, hsince]
    · intro pre post hnews
      have hmem : (j, Happening.took role name bs) ∈ news.map (i, ·) := by
        rw [hnews]
        apply List.mem_append_right _ List.mem_cons_self
      obtain ⟨e, he, heq⟩ := List.mem_map.1 hmem
      cases heq
      obtain ⟨rfl, hpending⟩ := htransfer.of_took he
      have hpost : post = [] := by
        cases pre with
        | nil =>
          simp only [List.map_cons, List.map_nil, List.nil_append, List.cons.injEq] at hnews
          apply hnews.2.symm
        | cons e pre => simp at hnews
      subst hpost
      dsimp only
      rw [Function.update_self, hpending]
      simp [ofCall]

/-- The account of every world that can be reached adds up. -/
theorem World.addsUp (setup : Setup ι τ β) (fabric : Fabric) (binders : τ)
    (moves : List (Move ι)) :
  ((fresh fabric binders : World ι τ β).run setup moves).account.AddsUp
  := by
  apply account_run Account.addsUp_empty
  rintro a a' ha ⟨i, B, k, news, h⟩
  apply ha.step h

/-- A binding that was taken is being unbound since, or its call has yet to come to it. -/
theorem Account.AddsUp.unbinding_or_pending {a : Account} (ha : a.AddsUp) {i : Nat} {role : Role}
    {name : String} {bs : List BindingId} (h : (i, .took role name bs) ∈ a.history)
    {b : BindingId} (hb : b ∈ bs) :
  (i, .unbinding b) ∈ a.history ∨ b ∈ (a.stake i).pending
  := by
  obtain ⟨pre, post, hpost⟩ := List.append_of_mem h
  have hmem : b ∈ (ofCall i post).flatMap Happening.released ++ (a.stake i).pending := by
    rw [← ha.released_since pre post hpost]
    apply List.mem_append_left _ hb
  rcases List.mem_append.1 hmem with hreleased | hpending
  · left
    rw [hpost]
    apply List.mem_append_right
    apply List.mem_cons_of_mem _ (mem_released.1 hreleased)
  · exact Or.inr hpending

/-! ## No producer is lost -/

/-- What has become of the bindings that resolutions were handed. -/
structure World.LosesNoProducer (w : World ι τ β) : Prop where
  /-- A binding that was handed over is tracked and its name registered; or it is tracked and its
  name was handed out to a call that has yet to come to it; or it was taken to be released. -/
  kept : ∀ name c b i pre post, w.history = pre ++ (i, .bound name c b) :: post →
    (w.system.registry.outputs.get? name = some c
        ∧ b ∈ w.system.ledger.tracked .producer name)
      ∨ (b ∈ w.system.ledger.tracked .producer name
        ∧ ∃ j names, (j, .drained names) ∈ post ∧ name ∈ names ∧ name ∈ (w.stake j).due)
      ∨ IsTaken .producer name b post
  /-- A binding that was recorded was taken once or is still tracked. -/
  recorded_eq : ∀ role name, w.history.flatMap (·.2.recorded role name)
    = w.history.flatMap (·.2.takenFrom role name) ++ w.system.ledger.tracked role name
  /-- Since it has taken bindings, a call has begun to unbind them, and what it has taken later, each
  once and in order, but for those that it has yet to come to. -/
  released_since : ∀ i role name bs pre post, w.history = pre ++ (i, .took role name bs) :: post →
    bs ++ (ofCall i post).flatMap Happening.taken
      = (ofCall i post).flatMap Happening.released ++ (w.stake i).pending
  /-- When a call that was handed names is over, each binding that a resolution was handed for one of
  them is being unbound, or is held by another call that has yet to come to it. -/
  released_of_finished : ∀ j names, (j, .drained names) ∈ w.history → w.call j = .finished →
    ∀ name ∈ names, ∀ i c b, (i, .bound name c b) ∈ w.history →
      ∃ j', (j', .unbinding b) ∈ w.history ∨ b ∈ (w.stake j').pending

/-- Whatever a shutdown races with, no binding that a binder has handed to a resolution is lost. -/
theorem World.shutdown_loses_no_producer (setup : Setup ι τ β) (fabric : Fabric) (binders : τ)
    (moves : List (Move ι)) :
  ((fresh fabric binders : World ι τ β).run setup moves).LosesNoProducer
  := by
  generalize hw : (fresh fabric binders : World ι τ β).run setup moves = w
  have hcustody : w.account.Custody := hw ▸ custody setup fabric binders moves
  have hadds : w.account.AddsUp := hw ▸ addsUp setup fabric binders moves
  constructor
  · intro name c b i pre post hpost
    rcases hcustody.tracked_or_taken pre post hpost with htracked | htaken
    · rcases hcustody.registered_or_drained pre post hpost with hregistered | hdrained
      · exact Or.inl ⟨hregistered, htracked⟩
      · obtain ⟨j, names, hmem, hname⟩ := hdrained
        have hmem' : (j, .drained names) ∈ w.history := by
          have hhistory : w.history = pre ++ (i, .bound name c b) :: post := hpost
          rw [hhistory]
          apply List.mem_append_right _ (List.mem_cons_of_mem _ hmem)
        rcases hcustody.due_or_taken pre post hpost hmem' hname with hdue | htaken
        · exact Or.inr (Or.inl ⟨htracked, j, names, hmem, hname, hdue⟩)
        · exact Or.inr (Or.inr htaken)
    · exact Or.inr (Or.inr htaken)
  · apply hadds.recorded_eq
  · intro i role name bs pre post hpost
    apply hadds.released_since pre post hpost
  · intro j names hdrained hover name hname i c b hbound
    obtain ⟨pre, post, hpost⟩ := List.append_of_mem hbound
    rcases hcustody.due_or_taken pre post hpost hdrained hname with hdue | htaken
    · -- a call that is over has come to all its names
      exfalso
      change name ∈ (w.call j).stake.due at hdue
      rw [hover] at hdue
      cases hdue
    · obtain ⟨j', bs, hmem, hb⟩ := htaken
      have htook : (j', .took .producer name bs) ∈ w.account.history := by
        change _ ∈ w.history
        rw [hpost]
        apply List.mem_append_right _ (List.mem_cons_of_mem _ hmem)
      exact ⟨j', hadds.unbinding_or_pending htook hb⟩

end ChannelBinding
