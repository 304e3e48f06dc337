import ChannelBinding.Proofs.Cells

/-!
# Agreement on channels

Among all resolutions of a name at most one binds at a time, and at most one bind ever succeeds.  The
cache resolves a name exactly when a bind for it has succeeded, to the channel and the binding of that
bind, and every resolution of the name that ends well answers with this channel.
-/

namespace ChannelBinding

variable {ι τ β : Type}

/-! ## What an effect does to the cache -/

/-- A fixed channel stays fixed, though it may be replaced. -/
theorem Effect.fixed_eq_none {B B' : Books} {k k' : Stake} {news : List Happening}
    (h : Effect B k B' k' news) {name : String} (hnone : B'.fixed.get? name = none) :
  B.fixed.get? name = none
  := by
  cases h with
  | registered name' c =>
    rw [Table.get?_insert] at hnone
    split at hnone
    · cases hnone
    · apply hnone
  | _ => apply hnone

/-- An effect either establishes a name that was not resolved, or leaves alone what is resolved; in
the second case a bind is attempted only for a name that is not resolved, and the channel of an
answer is fixed or cached. -/
theorem Effect.resolves {B B' : Books} {k k' : Stake} {news : List Happening}
    (h : Effect B k B' k' news) {stake : Nat → Stake} {i : Nat} (hi : stake i = k)
    (hs : B.cache.Sound stake) :
  (∃ name c b, news = [.bound name c b, .tracked .producer name [b], .resolved name c]
      ∧ B.cache.get? name = none
      ∧ ∀ name', B'.cache.get? name' = if name = name' then some ⟨c, b⟩ else B.cache.get? name')
    ∨ (B'.cache.get? = B.cache.get?
      ∧ (∀ name c b, .bound name c b ∉ news)
      ∧ (∀ name, .attempted name ∈ news → B.cache.get? name = none)
      ∧ ∀ name c, .resolved name c ∈ news →
        B.fixed.get? name = some c ∨ ∃ b, B.cache.get? name = some ⟨c, b⟩)
  := by
  cases h with
  | established name cell t c b =>
    have hold : (stake i).hold = some ⟨name, cell, t, true⟩ := by
      rw [hi]
    exact Or.inl ⟨name, c, b, rfl, hs.get?_of_filling hold rfl, hs.get?_fill hold ⟨c, b⟩⟩
  | answered name c hc =>
    apply Or.inr
    refine ⟨rfl, by simp, by simp, ?_⟩
    intro name' c' hmem
    simp only [List.mem_singleton, Happening.resolved.injEq] at hmem
    obtain ⟨rfl, rfl⟩ := hmem
    apply hc
  | found name cell t v hc =>
    apply Or.inr
    refine ⟨by simp, by simp, by simp, ?_⟩
    intro name' c' hmem
    simp only [List.mem_singleton, Happening.resolved.injEq] at hmem
    obtain ⟨rfl, rfl⟩ := hmem
    have hv := hs.get?_of_filled (i := i) (h := ⟨name', cell, t, false⟩) (by rw [hi]) hc
    exact Or.inr ⟨v.binding, hv⟩
  | permitted name cell t hc =>
    apply Or.inr
    refine ⟨by simp, by simp, ?_, by simp⟩
    intro name' hmem
    simp only [List.mem_singleton, Happening.attempted.injEq] at hmem
    subst hmem
    apply hs.get?_of_permitted (i := i) (h := ⟨name', cell, t, false⟩) (by rw [hi]) hc
  | refused name cell t hc =>
    apply Or.inr
    refine ⟨by simp, by simp, ?_, by simp⟩
    intro name' hmem
    simp only [List.mem_singleton, Happening.attempted.injEq] at hmem
    subst hmem
    apply hs.get?_of_permitted (i := i) (h := ⟨name', cell, t, false⟩) (by rw [hi]) hc
  | _ => exact Or.inr ⟨by simp, by simp, by simp, by simp⟩

/-! ## The invariant -/

/-- That no bind for a name is attempted, and none succeeds, after one has succeeded. -/
def Happening.Settles (name : String) (earlier later : Nat × Happening) : Prop :=
  ∀ c b, earlier.2 = .bound name c b →
    later.2 ≠ .attempted name ∧ ∀ c' b', later.2 ≠ .bound name c' b'

/-- The cache of an account agrees with its history. -/
structure Account.Agrees (a : Account) : Prop where
  sound : a.Sound
  cached_iff : ∀ {name c b},
    a.books.cache.get? name = some ⟨c, b⟩ ↔ ∃ i, (i, .bound name c b) ∈ a.history
  cached_of_resolved : ∀ {i name c}, (i, .resolved name c) ∈ a.history →
    a.books.fixed.get? name = none → ∃ b, a.books.cache.get? name = some ⟨c, b⟩
  settled : ∀ name, a.history.Pairwise (Happening.Settles name)

theorem Account.agrees_empty :
  ({} : Account).Agrees
  := by
  constructor
  · apply Account.sound_empty
  · simp [Cache.get?]
  · simp
  · simp

/-- What a call brings about may come after what has happened if it does not settle a settled name. -/
theorem Account.Agrees.settled_append {a : Account} (ha : a.Agrees) (name : String) (i : Nat)
    {news : List Happening} (hnews : (news.map (i, ·)).Pairwise (Happening.Settles name))
    (hlater : (a.books.cache.get? name).isSome = true →
      ∀ e ∈ news, e ≠ .attempted name ∧ ∀ c b, e ≠ .bound name c b) :
  (a.history ++ news.map (i, ·)).Pairwise (Happening.Settles name)
  := by
  rw [List.pairwise_append]
  refine ⟨ha.settled name, hnews, ?_⟩
  rintro ⟨j, e⟩ he ⟨i', e'⟩ he' c b rfl
  obtain ⟨e'', hmem, heq⟩ := List.mem_map.1 he'
  cases heq
  have hcached := ha.cached_iff.2 ⟨j, he⟩
  apply hlater _ e' hmem
  rw [hcached]
  rfl

/-- The agreement after a name is established. -/
theorem Account.Agrees.establish {a : Account} (ha : a.Agrees) {name : String} {c : ChannelId}
    {b : BindingId} {B : Books} {stake : Nat → Stake} (i : Nat)
    (hnone : a.books.cache.get? name = none)
    (hget : ∀ name', B.cache.get? name'
      = if name = name' then some ⟨c, b⟩ else a.books.cache.get? name')
    (hfixed : ∀ name, B.fixed.get? name = none → a.books.fixed.get? name = none)
    (hsound : Account.Sound ⟨B, stake, a.history⟩) :
  Account.Agrees ⟨B, stake, a.history
    ++ [Happening.bound name c b, .tracked .producer name [b], .resolved name c].map (i, ·)⟩
  := by
  constructor
  · apply hsound
  · intro name' c' b'
    simp only [hget, mem_history_append]
    by_cases hname : name = name'
    · subst hname
      have hno : ∀ j, (j, .bound name c' b') ∉ a.history := by
        intro j hj
        have hcached := ha.cached_iff.2 ⟨j, hj⟩
        rw [hnone] at hcached
        cases hcached
      simp only [if_true, hno, false_or, exists_eq_left]
      simp [eq_comm]
    · rw [if_neg hname, ha.cached_iff]
      simp [Ne.symm hname]
  · intro j name' c' hmem hnone'
    simp only [hget]
    rcases mem_history_append.1 hmem with hold | ⟨-, hnew⟩
    · obtain ⟨b', hcached⟩ := ha.cached_of_resolved hold (hfixed _ hnone')
      rw [if_neg]
      · exact ⟨b', hcached⟩
      · rintro rfl
        rw [hnone] at hcached
        cases hcached
    · simp only [List.mem_cons, reduceCtorEq, Happening.resolved.injEq, List.not_mem_nil, or_false,
        false_or] at hnew
      obtain ⟨rfl, rfl⟩ := hnew
      rw [if_pos rfl]
      exact ⟨b, rfl⟩
  · intro name'
    apply ha.settled_append
    · simp [Happening.Settles]
    · intro hsome e he
      have hne : name' ≠ name := by
        rintro rfl
        rw [hnone] at hsome
        cases hsome
      simp only [List.mem_cons, List.not_mem_nil, or_false] at he
      rcases he with rfl | rfl | rfl
      · simp [Ne.symm hne]
      · simp
      · simp

/-- The agreement after nothing that is resolved has changed. -/
theorem Account.Agrees.go_on {a : Account} (ha : a.Agrees) {B : Books} {stake : Nat → Stake}
    (i : Nat) {news : List Happening} (hget : B.cache.get? = a.books.cache.get?)
    (hbound : ∀ name c b, .bound name c b ∉ news)
    (hattempted : ∀ name, .attempted name ∈ news → a.books.cache.get? name = none)
    (hresolved : ∀ name c, .resolved name c ∈ news →
      a.books.fixed.get? name = some c ∨ ∃ b, a.books.cache.get? name = some ⟨c, b⟩)
    (hfixed : ∀ name, B.fixed.get? name = none → a.books.fixed.get? name = none)
    (hsound : Account.Sound ⟨B, stake, a.history⟩) :
  Account.Agrees ⟨B, stake, a.history ++ news.map (i, ·)⟩
  := by
  constructor
  · apply hsound
  · intro name c b
    simp only [hget, ha.cached_iff, mem_history_append, hbound, and_false, or_false]
  · intro j name c hmem hnone
    simp only [hget]
    rcases mem_history_append.1 hmem with hold | ⟨-, hnew⟩
    · apply ha.cached_of_resolved hold (hfixed name hnone)
    · rcases hresolved name c hnew with h | h
      · rw [hfixed name hnone] at h
        cases h
      · apply h
  · intro name
    apply ha.settled_append
    · rw [List.pairwise_map]
      apply List.pairwise_of_forall_mem_list
      rintro e he e' - c b rfl
      apply absurd he (hbound name c b)
    · intro hsome e he
      constructor
      · rintro rfl
        rw [hattempted name he] at hsome
        cases hsome
      · rintro c b rfl
        apply hbound name c b he

/-- Every step keeps the agreement. -/
theorem Account.Step.agrees {a a' : Account} (hstep : a.Step a') (ha : a.Agrees) :
  a'.Agrees
  := by
  have hsound := hstep.sound ha.sound
  obtain ⟨i, B, k, news, h⟩ := hstep
  have hfixed : ∀ name, B.fixed.get? name = none → a.books.fixed.get? name = none :=
    fun _ => h.fixed_eq_none
  rcases h.resolves rfl ha.sound with ⟨name, c, b, rfl, hnone, hget⟩
    | ⟨hget, hbound, hattempted, hresolved⟩
  · apply ha.establish i hnone hget hfixed hsound
  · apply ha.go_on i hget hbound hattempted hresolved hfixed hsound

/-- The account of every world that can be reached agrees with itself. -/
theorem World.agrees (setup : Setup ι τ β) (fabric : Fabric) (binders : τ)
    (moves : List (Move ι)) :
  ((fresh fabric binders : World ι τ β).run setup moves).account.Agrees
  := account_run Account.agrees_empty (fun _ _ ha hstep => hstep.agrees ha) setup fabric binders moves

/-! ## Binds in progress -/

/-- Whether a call is a resolution of a name that is binding a channel. -/
def World.IsBinding (name : String) (w : World ι τ β) (i : Nat) : Prop :=
  ∃ r c, w.calls[i]? = some (.resolving r) ∧ r.name = name ∧ r.channel? = some c

/-- A call that binds has the permit of a cell. -/
theorem World.IsBinding.exists_hold {name : String} {w : World ι τ β} {i : Nat}
    (hi : w.IsBinding name i) :
  ∃ h, (w.stake i).hold = some h ∧ h.name = name ∧ h.filling = true
  := by
  obtain ⟨r, c, hcall, hname, hc⟩ := hi
  have hstake : (w.stake i).hold = r.hold? := by
    rw [stake, call_of_getElem? hcall]
    rfl
  rw [hstake]
  unfold Resolution.channel? at hc
  unfold Resolution.hold?
  split at hc
  · rename_i cell ticket channel bind hstage
    rw [hstage]
    exact ⟨_, rfl, hname, rfl⟩
  · cases hc

/-- A call gets a permit only by an attempt. -/
theorem Effect.attempted_of_filling {B B' : Books} {k k' : Stake} {news : List Happening}
    (h : Effect B k B' k' news) {x : Hold} (hx : k'.hold = some x) (hf : x.filling = true) :
  k.hold = some x ∨ .attempted x.name ∈ news
  := by
  cases h with
  | quiet => exact Or.inl hx
  | registered => exact Or.inl hx
  | permitted =>
    cases hx
    exact Or.inr (List.mem_singleton.2 rfl)
  | entered | queued | refused | failed =>
    cases hx
    cases hf
  | _ => cases hx

/-- Every call with a permit has attempted a bind. -/
def Account.Attempts (a : Account) : Prop :=
  ∀ i x, (a.stake i).hold = some x → x.filling = true → (i, .attempted x.name) ∈ a.history

theorem Account.Step.attempts {a a' : Account} (hstep : a.Step a') (ha : a.Attempts) :
  a'.Attempts
  := by
  obtain ⟨i, B, k, news, h⟩ := hstep
  intro j x hx hf
  rw [mem_history_append]
  rcases Cache.hold_update hx with ⟨rfl, hnew⟩ | ⟨-, hold⟩
  · rcases h.attempted_of_filling hnew hf with hold | hmem
    · exact Or.inl (ha j x hold hf)
    · exact Or.inr ⟨rfl, hmem⟩
  · exact Or.inl (ha j x hold hf)

theorem World.attempts (setup : Setup ι τ β) (fabric : Fabric) (binders : τ)
    (moves : List (Move ι)) :
  ((fresh fabric binders : World ι τ β).run setup moves).account.Attempts
  := account_run nofun (fun _ _ ha hstep => hstep.attempts ha) setup fabric binders moves

/-! ## One bind a name -/

/-- What the resolutions of a name have come to in a world, and what is left of it in a later one. -/
structure World.BindsOnce (name : String) (w later : World ι τ β) : Prop where
  /-- At most one call binds. -/
  exclusive : ∀ i j, w.IsBinding name i → w.IsBinding name j → i = j
  /-- A call that binds has attempted to. -/
  attempted : ∀ i, w.IsBinding name i → (i, .attempted name) ∈ w.history
  /-- No bind is attempted, and none succeeds, after one has succeeded. -/
  settled : w.history.Pairwise fun earlier later => ∀ c b, earlier.2 = .bound name c b →
    later.2 ≠ .attempted name ∧ ∀ c' b', later.2 ≠ .bound name c' b'
  /-- The channel and the binding of the bind that has succeeded are cached from then on. -/
  kept : ∀ i c b, (i, .bound name c b) ∈ w.history → later.system.cache.get? name = some ⟨c, b⟩
  /-- Without a fixed channel, every answer is the channel of the bind that has succeeded. -/
  agreed : w.system.fixed.get? name = none → ∀ i c, (i, .resolved name c) ∈ w.history →
    ∃ j b, (j, .bound name c b) ∈ w.history ∧ w.system.cache.get? name = some ⟨c, b⟩

/-- Whatever the binders do, and however resolutions are interleaved and dropped, a name is bound at
most once, by one call at a time, and all resolutions of the name agree on its channel. -/
theorem World.binds_once (setup : Setup ι τ β) (fabric : Fabric) (binders : τ)
    (moves further : List (Move ι)) (name : String) :
  let w := (fresh fabric binders : World ι τ β).run setup moves
  w.BindsOnce name (w.run setup further)
  := by
  intro w
  have hw : w.account.Agrees := agrees setup fabric binders moves
  have hlater : (w.run setup further).account.Agrees := by
    rw [← run_append]
    apply agrees
  constructor
  · intro i j hi hj
    obtain ⟨h, hhold, hname, hf⟩ := hi.exists_hold
    obtain ⟨h', hhold', hname', hf'⟩ := hj.exists_hold
    apply hw.sound.filling_inj hhold hhold' hf hf' (hname.trans hname'.symm)
  · intro i hi
    obtain ⟨h, hhold, rfl, hf⟩ := hi.exists_hold
    apply attempts setup fabric binders moves i h hhold hf
  · apply hw.settled
  · intro i c b hmem
    apply hlater.cached_iff.2
    obtain ⟨rest, hrest⟩ := history_prefix_run setup w further
    refine ⟨i, ?_⟩
    rw [account, ← hrest]
    apply List.mem_append_left _ hmem
  · intro hfixed i c hmem
    obtain ⟨b, hcached⟩ := hw.cached_of_resolved hmem hfixed
    obtain ⟨j, hj⟩ := hw.cached_iff.1 hcached
    exact ⟨j, b, hj, hcached⟩

end ChannelBinding
