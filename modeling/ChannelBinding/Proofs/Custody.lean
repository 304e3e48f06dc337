import ChannelBinding.Proofs.Agreement

/-!
# Custody of bindings

A binding that a resolution was handed is recorded in the ledger and its name in the registry.  It
leaves the ledger when a withdrawal takes it, and its name leaves the registry when the registry hands
out its names.  A transfer is what an effect does to the ledger, to the registry and to what one call
has yet to release; the invariants of this module follow from its eight cases.
-/

namespace ChannelBinding

variable {ι τ β : Type}

/-! ## Transfers -/

/-- Whether something that happens has to do with resolutions alone. -/
def Happening.IsAside : Happening → Prop
  | .attempted _ | .resolved .. => True
  | _ => False

/-- `Transfer ledger registry stake ledger' registry' stake' news`: what an effect does to the ledger,
to the registry and to what one call has yet to release. -/
inductive Transfer (L : Ledger) (R : Registry) (k : Stake) :
    Ledger → Registry → Stake → List Happening → Prop where
  | idle (k' : Stake) (news : List Happening) (hpending : k'.pending = k.pending)
      (hdue : k'.due = k.due) (hnews : ∀ e ∈ news, e.IsAside) :
    Transfer L R k L R k' news
  /-- A binding is handed over and its name registered. -/
  | established (k' : Stake) (name : String) (c : ChannelId) (b : BindingId)
      (hpending : k'.pending = k.pending) (hdue : k'.due = k.due) :
    Transfer L R k (L.record .producer name [b]) (R.add name c) k'
      [.bound name c b, .tracked .producer name [b], .resolved name c]
  | recorded (role : Role) (name : String) (bs : List BindingId) :
    Transfer L R k (L.record role name bs) R k [.tracked role name bs]
  | took (k' : Stake) (role : Role) (name : String) (h : (L.take role name).2 = some k'.pending)
      (hpending : k.pending = [])
      (hdue : k.due = k'.due ∨ role = .producer ∧ k.due = name :: k'.due) :
    Transfer L R k (L.take role name).1 R k' [.took role name k'.pending]
  | missed (k' : Stake) (role : Role) (name : String) (h : (L.take role name).2 = none)
      (hpending : k'.pending = k.pending)
      (hdue : k.due = k'.due ∨ role = .producer ∧ k.due = name :: k'.due) :
    Transfer L R k L R k' []
  | unbinding (k' : Stake) (b : BindingId) (hpending : k.pending = b :: k'.pending)
      (hdue : k'.due = k.due) :
    Transfer L R k L R k' [.unbinding b]
  /-- The registry hands out its names. -/
  | drained (k' : Stake) (hpending : k'.pending = k.pending) (hdue : k.due = [])
      (hdue' : k'.due = R.names) :
    Transfer L R k L R.drain.1 k' [.drained R.names]
  /-- A call comes to names of another origin. -/
  | listed (k' : Stake) (hpending : k'.pending = k.pending) (hdue : k.due = []) :
    Transfer L R k L R k' []

/-- Every effect is a transfer. -/
theorem Effect.transfer {B B' : Books} {k k' : Stake} {news : List Happening}
    (h : Effect B k B' k' news) :
  Transfer B.ledger B.registry k B'.ledger B'.registry k' news
  := by
  cases h with
  | established name cell t c b => exact .established _ name c b rfl rfl
  | recorded role name bs => exact .recorded role name bs
  | took role name bs due due' h hdue => exact .took ⟨none, bs, due'⟩ role name h rfl hdue
  | missed role name due due' h hdue => exact .missed _ role name h rfl hdue
  | unbinding b rest due => exact .unbinding _ b rfl rfl
  | drained => exact .drained _ rfl rfl rfl
  | listed due => exact .listed _ rfl rfl
  | _ => exact .idle _ _ rfl rfl (by simp [Happening.IsAside])

/-! ## What has been since -/

/-- An entry of a longer history is an old one, with more after it, or a new one. -/
theorem since_append {α : Type} {P : List α → Prop} {history news : List α} {e : α}
    (hold : ∀ pre post, history = pre ++ e :: post → P (post ++ news))
    (hnew : ∀ pre post, news = pre ++ e :: post → P post) (pre post : List α)
    (h : history ++ news = pre ++ e :: post) :
  P post
  := by
  rcases List.append_eq_append_iff.1 h with ⟨between, rfl, hnews⟩ | ⟨between, rfl, hpost⟩
  · apply hnew between post hnews
  · cases between with
    | nil =>
      rw [List.nil_append] at hpost
      apply hnew [] post
      rw [List.nil_append, hpost]
    | cons e' between =>
      rw [List.cons_append, List.cons.injEq] at hpost
      obtain ⟨rfl, rfl⟩ := hpost
      apply hold pre between rfl

/-- Whether a binding was taken out of the ledger, from under a name in a role. -/
def IsTaken (role : Role) (name : String) (b : BindingId) (history : List (Nat × Happening)) :
    Prop :=
  ∃ i bs, (i, .took role name bs) ∈ history ∧ b ∈ bs

/-- Whether the registry has handed out a name. -/
def IsDrained (name : String) (history : List (Nat × Happening)) : Prop :=
  ∃ i names, (i, .drained names) ∈ history ∧ name ∈ names

theorem IsTaken.append {role : Role} {name : String} {b : BindingId}
    {history : List (Nat × Happening)} (h : IsTaken role name b history)
    (news : List (Nat × Happening)) :
  IsTaken role name b (history ++ news)
  := by
  obtain ⟨i, bs, hmem, hb⟩ := h
  exact ⟨i, bs, List.mem_append_left news hmem, hb⟩

theorem IsTaken.of_news {role : Role} {name : String} {b : BindingId} {bs : List BindingId}
    {news : List Happening} (h : .took role name bs ∈ news) (hb : b ∈ bs) (i : Nat)
    (history : List (Nat × Happening)) :
  IsTaken role name b (history ++ news.map (i, ·))
  := ⟨i, bs, mem_history_append.2 (Or.inr ⟨rfl, h⟩), hb⟩

theorem IsDrained.append {name : String} {history : List (Nat × Happening)}
    (h : IsDrained name history) (news : List (Nat × Happening)) :
  IsDrained name (history ++ news)
  := by
  obtain ⟨i, names, hmem, hname⟩ := h
  exact ⟨i, names, List.mem_append_left news hmem, hname⟩

theorem IsDrained.of_news {name : String} {names : List String} {news : List Happening}
    (h : .drained names ∈ news) (hname : name ∈ names) (i : Nat)
    (history : List (Nat × Happening)) :
  IsDrained name (history ++ news.map (i, ·))
  := ⟨i, names, mem_history_append.2 (Or.inr ⟨rfl, h⟩), hname⟩

/-! ## What a transfer keeps -/

section Transfer

variable {L L' : Ledger} {R R' : Registry} {k k' : Stake} {news : List Happening} {name : String}

/-- A name is listed by the registry if it has an output. -/
theorem Registry.mem_names {R : Registry} {c : ChannelId} (h : R.outputs.get? name = some c) :
  name ∈ R.names
  := by
  rw [R.names_perm.mem_iff, Table.mem_keys_iff, h]
  rfl

/-- What is taken out of the ledger is what was tracked. -/
theorem Ledger.tracked_of_take {role : Role} {bs : List BindingId}
    (h : (L.take role name).2 = some bs) :
  L.tracked role name = bs
  := by
  rw [← take_snd_getD, h]
  rfl

/-- A binding stays where it is tracked unless it is taken. -/
theorem Transfer.tracked_or_took (h : Transfer L R k L' R' k' news) {role : Role} {b : BindingId}
    (hb : b ∈ L.tracked role name) :
  b ∈ L'.tracked role name ∨ ∃ bs, .took role name bs ∈ news ∧ b ∈ bs
  := by
  have hrecord : ∀ role' name' bs, b ∈ (L.record role' name' bs).tracked role name := by
    intro role' name' bs
    rw [Ledger.tracked_record]
    split
    · apply List.mem_append_left _ hb
    · apply hb
  cases h with
  | established => exact Or.inl (hrecord _ _ _)
  | recorded => exact Or.inl (hrecord _ _ _)
  | took _ role' name' htake =>
    rw [Ledger.tracked_take]
    split
    · rename_i heq
      obtain ⟨rfl, rfl⟩ := heq
      rw [Ledger.tracked_of_take htake] at hb
      exact Or.inr ⟨_, List.mem_singleton.2 rfl, hb⟩
    · exact Or.inl hb
  | _ => exact Or.inl hb

/-- A name stays registered unless it is drained or bound again. -/
theorem Transfer.registered_or_drained (h : Transfer L R k L' R' k' news) {c : ChannelId}
    (hc : R.outputs.get? name = some c) (hno : ∀ c b, .bound name c b ∉ news) :
  R'.outputs.get? name = some c ∨ ∃ names, .drained names ∈ news ∧ name ∈ names
  := by
  cases h with
  | established _ name' c' b =>
    apply Or.inl
    have hne : name' ≠ name := by
      rintro rfl
      apply hno c' b List.mem_cons_self
    rw [Registry.add, Table.get?_insert_of_ne _ _ hne, hc]
  | drained => exact Or.inr ⟨_, List.mem_singleton.2 rfl, Registry.mem_names hc⟩
  | _ => exact Or.inl hc

/-- A binding that is handed over is tracked, and its name registered, at once. -/
theorem Transfer.of_bound (h : Transfer L R k L' R' k' news) {c : ChannelId} {b : BindingId}
    (hb : .bound name c b ∈ news) :
  L'.tracked .producer name = L.tracked .producer name ++ [b] ∧ R'.outputs.get? name = some c
  := by
  cases h with
  | idle _ _ hpending hdue hnews => cases hnews _ hb
  | established _ name' c' b' =>
    simp only [List.mem_cons, Happening.bound.injEq, reduceCtorEq, List.not_mem_nil, or_false]
      at hb
    obtain ⟨rfl, rfl, rfl⟩ := hb
    rw [Ledger.tracked_record, if_pos ⟨rfl, rfl⟩, Registry.add, Table.get?_insert_self]
    exact ⟨rfl, rfl⟩
  | _ => simp at hb

/-- The registry hands out nothing while a binding is handed over. -/
theorem Transfer.not_drained_of_bound (h : Transfer L R k L' R' k' news) {c : ChannelId}
    {b : BindingId} (hb : .bound name c b ∈ news) (names : List String) :
  .drained names ∉ news
  := by
  cases h with
  | idle _ _ hpending hdue hnews => cases hnews _ hb
  | established => simp
  | _ => simp at hb

/-- A registered name was registered before or is bound now. -/
theorem Transfer.registered_cases (h : Transfer L R k L' R' k' news) {c : ChannelId}
    (hc : R'.outputs.get? name = some c) :
  R.outputs.get? name = some c ∨ ∃ b, .bound name c b ∈ news
  := by
  cases h with
  | established _ name' c' b =>
    rw [Registry.add, Table.get?_insert] at hc
    split at hc
    · rename_i heq
      subst heq
      cases hc
      exact Or.inr ⟨b, List.mem_cons_self⟩
    · exact Or.inl hc
  | drained => cases hc
  | _ => exact Or.inl hc

/-- The names that are drained are those registered, and the call that drains them has to come to
all of them. -/
theorem Transfer.of_drained (h : Transfer L R k L' R' k' news) {names : List String}
    (hd : .drained names ∈ news) :
  names = R.names ∧ k'.due = names
  := by
  cases h with
  | idle _ _ hpending hdue hnews => cases hnews _ hd
  | drained _ hpending hdue hdue' =>
    simp only [List.mem_singleton, Happening.drained.injEq] at hd
    rw [hd, hdue']
    exact ⟨rfl, rfl⟩
  | _ => simp at hd

/-- A call has yet to come to a name unless it takes all that is tracked under it. -/
theorem Transfer.due_or_took (h : Transfer L R k L' R' k' news) (hname : name ∈ k.due) :
  name ∈ k'.due
    ∨ ∀ b ∈ L.tracked .producer name, ∃ bs, .took .producer name bs ∈ news ∧ b ∈ bs
  := by
  -- the name that a call comes to, if it is this one
  have hnext : ∀ {role : Role} {name'}, k.due = k'.due ∨ role = .producer ∧ k.due = name' :: k'.due →
      name ∈ k'.due ∨ role = .producer ∧ name' = name := by
    rintro role name' (hdue | ⟨hrole, hdue⟩)
    · rw [hdue] at hname
      exact Or.inl hname
    · rw [hdue, List.mem_cons] at hname
      rcases hname with rfl | hname
      · exact Or.inr ⟨hrole, rfl⟩
      · exact Or.inl hname
  have hkept : k'.due = k.due → name ∈ k'.due := by
    intro hdue
    rw [hdue]
    apply hname
  have hnone : k.due = [] → name ∈ k'.due := by
    intro hdue
    rw [hdue] at hname
    cases hname
  cases h with
  | idle _ _ hpending hdue => exact Or.inl (hkept hdue)
  | established _ _ _ _ hpending hdue => exact Or.inl (hkept hdue)
  | recorded => exact Or.inl hname
  | took _ role name' htake hpending hdue =>
    rcases hnext hdue with hdue | ⟨rfl, rfl⟩
    · exact Or.inl hdue
    · apply Or.inr
      intro b hb
      rw [Ledger.tracked_of_take htake] at hb
      exact ⟨_, List.mem_singleton.2 rfl, hb⟩
  | missed _ role name' htake hpending hdue =>
    rcases hnext hdue with hdue | ⟨rfl, rfl⟩
    · exact Or.inl hdue
    · apply Or.inr
      intro b hb
      rw [← Ledger.take_snd_getD, htake] at hb
      cases hb
  | unbinding _ _ hpending hdue => exact Or.inl (hkept hdue)
  | drained _ hpending hdue => exact Or.inl (hnone hdue)
  | listed _ hpending hdue => exact Or.inl (hnone hdue)

end Transfer

/-! ## The invariant -/

/-- The ledger, the registry and the calls under way account for every binding that a resolution was
handed. -/
structure Account.Custody (a : Account) : Prop where
  agrees : a.Agrees
  /-- A name is registered only if a bind for it has succeeded. -/
  bound_of_registered : ∀ {name c}, a.books.registry.outputs.get? name = some c →
    ∃ i b, (i, .bound name c b) ∈ a.history
  /-- A name is handed out only if a bind for it has succeeded. -/
  bound_of_drained : ∀ {name}, IsDrained name a.history →
    ∃ i c b, (i, .bound name c b) ∈ a.history
  tracked_or_taken : ∀ {name c b i} pre post, a.history = pre ++ (i, .bound name c b) :: post →
    b ∈ a.books.ledger.tracked .producer name ∨ IsTaken .producer name b post
  registered_or_drained : ∀ {name c b i} pre post,
    a.history = pre ++ (i, .bound name c b) :: post →
      a.books.registry.outputs.get? name = some c ∨ IsDrained name post
  /-- A call that was handed a name has yet to come to it, unless its binding was taken. -/
  due_or_taken : ∀ {name c b i} pre post, a.history = pre ++ (i, .bound name c b) :: post →
    ∀ {j names}, (j, .drained names) ∈ a.history → name ∈ names →
      name ∈ (a.stake j).due ∨ IsTaken .producer name b post

theorem Account.custody_empty :
  ({} : Account).Custody
  := by
  constructor
  · apply Account.agrees_empty
  · simp
  · simp [IsDrained]
  · simp
  · simp
  · simp

/-- No bind for a name succeeds a second time. -/
theorem Account.Agrees.not_bound_again {a : Account} {history : List (Nat × Happening)} {i : Nat}
    {news : List Happening} (ha : a.Agrees) (hhistory : a.history = history ++ news.map (i, ·))
    {name : String} {j : Nat} {c : ChannelId} {b : BindingId}
    (hbound : (j, .bound name c b) ∈ history) (c' : ChannelId) (b' : BindingId) :
  .bound name c' b' ∉ news
  := by
  intro hmem
  have hsettled := ha.settled name
  rw [hhistory, List.pairwise_append] at hsettled
  apply (hsettled.2.2 _ hbound _ (List.mem_map_of_mem hmem) c b rfl).2 c' b' rfl

section Step

variable {a : Account} {i : Nat} {B : Books} {k : Stake} {news : List Happening}

/-- What an entry of the history of `a` followed by `news` says, once it is said of the old entries
and of the new ones. -/
theorem bound_since {P : List (Nat × Happening) → Prop} {name : String} {c : ChannelId}
    {b : BindingId} {j : Nat}
    (hold : ∀ pre post, a.history = pre ++ (j, .bound name c b) :: post →
      P (post ++ news.map (i, ·)))
    (hnew : ∀ post, .bound name c b ∈ news → P post) (pre post : List (Nat × Happening))
    (h : a.history ++ news.map (i, ·) = pre ++ (j, .bound name c b) :: post) :
  P post
  := by
  apply since_append hold _ pre post h
  intro pre post hnews
  apply hnew
  have hmem : (j, Happening.bound name c b) ∈ news.map (i, ·) := by
    rw [hnews]
    apply List.mem_append_right _ List.mem_cons_self
  obtain ⟨e, he, heq⟩ := List.mem_map.1 hmem
  cases heq
  apply he

/-- Every step keeps the custody. -/
theorem Account.Custody.step (ha : a.Custody) (h : Effect a.books (a.stake i) B k news) :
  Account.Custody ⟨B, Function.update a.stake i k, a.history ++ news.map (i, ·)⟩
  := by
  have htransfer := h.transfer
  have hagrees : Account.Agrees ⟨B, Function.update a.stake i k, a.history ++ news.map (i, ·)⟩ :=
    (Account.Step.effect i B k news h).agrees ha.agrees
  have hagain : ∀ {name j c b}, (j, .bound name c b) ∈ a.history →
      ∀ c' b', .bound name c' b' ∉ news := fun hbound => hagrees.not_bound_again rfl hbound
  constructor
  · apply hagrees
  · intro name c hc
    rcases htransfer.registered_cases hc with hc | ⟨b, hb⟩
    · obtain ⟨j, b, hb⟩ := ha.bound_of_registered hc
      exact ⟨j, b, List.mem_append_left _ hb⟩
    · exact ⟨i, b, mem_history_append.2 (Or.inr ⟨rfl, hb⟩)⟩
  · rintro name ⟨j, names, hmem, hname⟩
    rcases mem_history_append.1 hmem with hold | ⟨rfl, hnew⟩
    · obtain ⟨j', c, b, hb⟩ := ha.bound_of_drained ⟨j, names, hold, hname⟩
      exact ⟨j', c, b, List.mem_append_left _ hb⟩
    · obtain ⟨rfl, -⟩ := htransfer.of_drained hnew
      rw [a.books.registry.names_perm.mem_iff, Table.mem_keys_iff, Option.isSome_iff_exists] at hname
      obtain ⟨c, hc⟩ := hname
      obtain ⟨j', b, hb⟩ := ha.bound_of_registered hc
      exact ⟨j', c, b, List.mem_append_left _ hb⟩
  · intro name c b j
    apply bound_since
    · intro pre post hpost
      rcases ha.tracked_or_taken pre post hpost with hb | htaken
      · rcases htransfer.tracked_or_took hb with hb | ⟨bs, hmem, hb⟩
        · exact Or.inl hb
        · exact Or.inr (.of_news hmem hb i post)
      · exact Or.inr (htaken.append _)
    · intro post hb
      apply Or.inl
      rw [(htransfer.of_bound hb).1]
      apply List.mem_append_right _ (List.mem_singleton.2 rfl)
  · intro name c b j
    apply bound_since
    · intro pre post hpost
      rcases ha.registered_or_drained pre post hpost with hc | hdrained
      · have hmem : (j, Happening.bound name c b) ∈ a.history := by
          rw [hpost]
          apply List.mem_append_right _ List.mem_cons_self
        rcases htransfer.registered_or_drained hc (hagain hmem) with hc | ⟨names, hmem, hname⟩
        · exact Or.inl hc
        · exact Or.inr (.of_news hmem hname i post)
      · exact Or.inr (hdrained.append _)
    · intro post hb
      exact Or.inl (htransfer.of_bound hb).2
  · intro name c b j pre post hpost j' names hmem hname
    revert pre post
    apply bound_since
    · intro pre post hpost
      rcases mem_history_append.1 hmem with hold | ⟨rfl, hnew⟩
      · rcases ha.due_or_taken pre post hpost hold hname with hdue | htaken
        · by_cases hj : j' = i
          · subst hj
            rcases htransfer.due_or_took hdue with hdue | htook
            · left
              dsimp only
              rw [Function.update_self]
              apply hdue
            · right
              rcases ha.tracked_or_taken pre post hpost with hb | htaken
              · obtain ⟨bs, hmem, hb⟩ := htook b hb
                apply IsTaken.of_news hmem hb
              · apply htaken.append
          · left
            dsimp only
            rw [Function.update_of_ne hj]
            apply hdue
        · exact Or.inr (htaken.append _)
      · obtain ⟨-, hdue⟩ := htransfer.of_drained hnew
        left
        dsimp only
        rw [Function.update_self, hdue]
        apply hname
    · intro post hb
      -- the name cannot have been handed out before it was bound
      exfalso
      rcases mem_history_append.1 hmem with hold | ⟨-, hnew⟩
      · obtain ⟨j₁, c₁, b₁, hbound⟩ := ha.bound_of_drained ⟨j', names, hold, hname⟩
        apply hagain hbound c b hb
      · apply htransfer.not_drained_of_bound hb names hnew

end Step

/-- The account of every world that can be reached is in custody. -/
theorem World.custody (setup : Setup ι τ β) (fabric : Fabric) (binders : τ)
    (moves : List (Move ι)) :
  ((fresh fabric binders : World ι τ β).run setup moves).account.Custody
  := by
  apply account_run Account.custody_empty
  rintro a a' ha ⟨i, B, k, news, h⟩
  apply ha.step h

end ChannelBinding
