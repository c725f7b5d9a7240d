import Mathlib.Data.List.Forall2

/-!
Contract: computations that can fail, taken apart.

Owns: what a success says about the parts of a computation: of one step after another, of a mapped
result, and of a step applied to every item of a list, one by one or from state to state.
-/

set_option autoImplicit false

namespace Findings

universe u v

@[simp] theorem ok_bind {α β ε : Type u} (value : α) (next : α → Except ε β) :
    (Except.ok value >>= next) = next value := rfl

@[simp] theorem error_bind {α β ε : Type u} (fault : ε) (next : α → Except ε β) :
    (Except.error fault >>= next) = .error fault := rfl

@[simp] theorem ok_map {α β ε : Type u} (value : α) (f : α → β) :
    (Except.ok value : Except ε α).map f = .ok (f value) := rfl

@[simp] theorem error_map {α β ε : Type u} (fault : ε) (f : α → β) :
    (Except.error fault : Except ε α).map f = .error fault := rfl

theorem bind_eq_ok_iff {α β ε : Type u} {action : Except ε α} {next : α → Except ε β} {value : β} :
    (action >>= next) = .ok value ↔ ∃ middle, action = .ok middle ∧ next middle = .ok value := by
  cases action with
  | error fault => simp
  | ok middle => simp

theorem bind_eq_error_iff {α β ε : Type u} {action : Except ε α} {next : α → Except ε β}
    {fault : ε} :
    (action >>= next) = .error fault ↔
      action = .error fault ∨ ∃ middle, action = .ok middle ∧ next middle = .error fault := by
  cases action with
  | error fault => simp
  | ok middle => simp

theorem bind_of_map {α β γ ε : Type u} (action : Except ε α) (f : α → β) (next : β → Except ε γ) :
    (action.map f >>= next) = action >>= fun value => next (f value) := by
  cases action <;> rfl

theorem map_of_bind {α β γ ε : Type u} (action : Except ε α) (next : α → Except ε β) (f : β → γ) :
    (action >>= next).map f = action >>= fun value => (next value).map f := by
  cases action <;> rfl

theorem map_eq_ok_iff {α β ε : Type u} {action : Except ε α} {f : α → β} {value : β} :
    action.map f = .ok value ↔ ∃ middle, action = .ok middle ∧ f middle = value := by
  cases action with
  | error fault => simp
  | ok middle => simp

theorem mapError_eq_ok_iff {α β ε : Type u} {action : Except ε α} {f : ε → β} {value : α} :
    action.mapError f = .ok value ↔ action = .ok value := by
  cases action with
  | error fault => simp [Except.mapError]
  | ok middle => simp [Except.mapError]

theorem mapError_eq_error_iff {α β ε : Type u} {action : Except ε α} {f : ε → β} {fault : β} :
    action.mapError f = .error fault ↔ ∃ cause, action = .error cause ∧ f cause = fault := by
  cases action with
  | error cause => simp [Except.mapError]
  | ok middle => simp [Except.mapError]

theorem eq_ok_of_toOption {α ε : Type u} {action : Except ε α} {value : α}
    (isValue : action.toOption = some value) : action = .ok value := by
  cases action with
  | error fault => cases isValue
  | ok middle =>
      cases isValue
      rfl

/-- A step applied to every item succeeds with the results of the single steps, in order. -/
theorem mapM_eq_ok_iff {α : Type v} {β ε : Type u} {f : α → Except ε β} {items : List α}
    {results : List β} :
    items.mapM f = .ok results ↔
      List.Forall₂ (fun item result => f item = .ok result) items results := by
  induction items generalizing results with
  | nil =>
      rw [List.mapM_nil, List.forall₂_nil_left_iff]
      exact ⟨fun equal => by cases equal; rfl, fun equal => by rw [equal]; rfl⟩
  | cons item items inductionHypothesis =>
      rw [List.mapM_cons, bind_eq_ok_iff]
      constructor
      · rintro ⟨first, made, rest⟩
        obtain ⟨others, mapped, equal⟩ := bind_eq_ok_iff.1 rest
        cases equal
        exact .cons made (inductionHypothesis.1 mapped)
      · intro related
        cases related with
        | cons made mapped =>
            refine ⟨_, made, ?_⟩
            rw [inductionHypothesis.2 mapped]
            rfl

/-- A step that succeeds on every item is a function on the list. -/
theorem mapM_eq_ok_map {α : Type v} {β ε : Type u} {f : α → Except ε β} {g : α → β}
    {items : List α} (succeeds : ∀ item ∈ items, f item = .ok (g item)) :
    items.mapM f = .ok (items.map g) := by
  rw [mapM_eq_ok_iff, List.forall₂_map_right_iff, List.forall₂_same]
  exact succeeds

/-- Steps that do the same on every item do the same on the list. -/
theorem mapM_congr {α : Type v} {β ε : Type u} {f g : α → Except ε β} {items : List α}
    (same : ∀ item ∈ items, f item = g item) : items.mapM f = items.mapM g := by
  induction items with
  | nil => rfl
  | cons item items inductionHypothesis =>
      rw [List.mapM_cons, List.mapM_cons, same item (by simp),
        inductionHypothesis fun other member => same other (List.mem_cons_of_mem _ member)]

/-- Steps whose results are all changed afterwards do the same as changing the list of results. -/
theorem mapM_map_result {α : Type v} {β γ ε : Type u} (f : α → Except ε β) (g : β → γ)
    (items : List α) :
    items.mapM (fun item => (f item).map g) = (items.mapM f).map (List.map g) := by
  induction items with
  | nil => rfl
  | cons item items inductionHypothesis =>
      rw [List.mapM_cons, List.mapM_cons, inductionHypothesis]
      cases f item with
      | error fault => rfl
      | ok value => cases items.mapM f <;> rfl

/-- Steps that keep to a change of the state keep to it all together. -/
theorem foldlM_map_state {α : Type v} {σ ε : Type u} {step : σ → α → Except ε σ} {change : σ → σ}
    (keeps : ∀ state item, step (change state) item = (step state item).map change)
    (items : List α) (state : σ) :
    items.foldlM step (change state) = (items.foldlM step state).map change := by
  induction items generalizing state with
  | nil => rfl
  | cons item items inductionHypothesis =>
      rw [List.foldlM_cons, List.foldlM_cons, keeps]
      cases step state item with
      | error fault => rfl
      | ok next => exact inductionHypothesis next

/-- A step applied to every item fails with the fault of the first item that has one. -/
theorem mapM_eq_error_iff {α : Type v} {β ε : Type u} {f : α → Except ε β} {fault? : α → Option ε}
    (isFault : ∀ item fault, f item = .error fault ↔ fault? item = some fault) {items : List α}
    {fault : ε} :
    items.mapM f = .error fault ↔ items.findSome? fault? = some fault := by
  induction items with
  | nil =>
      rw [List.mapM_nil, List.findSome?_nil]
      constructor
      · intro failed
        cases failed
      · intro found
        cases found
  | cons item items inductionHypothesis =>
      rw [List.mapM_cons, List.findSome?_cons]
      cases made : f item with
      | error first =>
          rw [(isFault item first).1 made, error_bind]
          simp
      | ok value =>
          have faultless : fault? item = none := by
            rw [Option.eq_none_iff_forall_ne_some]
            intro first isFirst
            rw [(isFault item first).2 isFirst] at made
            cases made
          rw [faultless, ok_bind, bind_eq_error_iff, inductionHypothesis]
          constructor
          · rintro (inRest | ⟨values, _, isReturned⟩)
            · exact inRest
            · cases isReturned
          · exact Or.inl

/-- Checks of every item succeed together just when they all do. -/
theorem forM_eq_ok_iff {α : Type v} {ε : Type u} {check : α → Except ε PUnit.{u + 1}} {items : List α} :
    items.forM check = .ok ⟨⟩ ↔ ∀ item ∈ items, check item = .ok ⟨⟩ := by
  induction items with
  | nil => exact ⟨fun _ _ member => absurd member List.not_mem_nil, fun _ => rfl⟩
  | cons item items inductionHypothesis =>
      show (check item >>= fun _ => items.forM check) = .ok ⟨⟩ ↔ _
      rw [List.forall_mem_cons, ← inductionHypothesis]
      cases check item with
      | error fault => simp
      | ok => simp

/-- Checks of every item fail together with the fault of the first item that does not pass. -/
theorem forM_eq_error_iff {α : Type v} {ε : Type u} {check : α → Except ε PUnit.{u + 1}}
    {items : List α} {fault : ε} :
    items.forM check = .error fault ↔
      ∃ before item after, items = before ++ item :: after ∧
        (∀ other ∈ before, check other = .ok ⟨⟩) ∧ check item = .error fault := by
  induction items with
  | nil =>
      constructor
      · intro failed
        cases failed
      · rintro ⟨before, item, after, isWhole, _⟩
        simp at isWhole
  | cons first items inductionHypothesis =>
      show (check first >>= fun _ => items.forM check) = .error fault ↔ _
      rw [bind_eq_error_iff, inductionHypothesis]
      constructor
      · rintro (here | ⟨⟨⟩, passed, before, item, after, rfl, passes, isFault⟩)
        · exact ⟨[], first, items, rfl, List.forall_mem_nil _, here⟩
        · exact ⟨first :: before, item, after, rfl, List.forall_mem_cons.2 ⟨passed, passes⟩, isFault⟩
      · rintro ⟨_ | ⟨_, before⟩, item, after, isWhole, passes, isFault⟩
        · cases isWhole
          exact .inl isFault
        · cases isWhole
          obtain ⟨passed, passesBehind⟩ := List.forall_mem_cons.1 passes
          exact .inr ⟨⟨⟩, passed, before, item, after, rfl, passesBehind, isFault⟩

/-- Checks that do the same on every item do the same on the list. -/
theorem forM_congr {α : Type v} {ε : Type u} {check other : α → Except ε PUnit.{u + 1}}
    {items : List α} (same : ∀ item ∈ items, check item = other item) :
    items.forM check = items.forM other := by
  induction items with
  | nil => rfl
  | cons item items inductionHypothesis =>
      have rest := inductionHypothesis fun member isMember => same member (List.mem_cons_of_mem _ isMember)
      show (check item >>= fun _ => items.forM check) = other item >>= fun _ => items.forM other
      rw [same item List.mem_cons_self, rest]

theorem exists_of_forM_eq_error {α : Type v} {ε : Type u} {check : α → Except ε PUnit.{u + 1}}
    {items : List α} {fault : ε} (failed : items.forM check = .error fault) :
    ∃ item ∈ items, check item = .error fault := by
  induction items with
  | nil => cases failed
  | cons item items inductionHypothesis =>
      replace failed : (check item >>= fun _ => items.forM check) = .error fault := failed
      rcases bind_eq_error_iff.1 failed with here | ⟨_, _, behind⟩
      · exact ⟨item, List.mem_cons_self .., here⟩
      · obtain ⟨other, member, isFault⟩ := inductionHypothesis behind
        exact ⟨other, List.mem_cons_of_mem _ member, isFault⟩

/-! ## Results item by item -/

theorem exists_of_forall₂_left {α : Type u} {β : Type v} {R : α → β → Prop} {left : List α}
    {right : List β} (related : List.Forall₂ R left right) {item : α} (member : item ∈ left) :
    ∃ other ∈ right, R item other := by
  induction related with
  | nil => cases member
  | cons first _ inductionHypothesis =>
      rcases List.mem_cons.1 member with isFirst | inRest
      · exact ⟨_, List.mem_cons_self .., isFirst ▸ first⟩
      · obtain ⟨other, otherMember, isRelated⟩ := inductionHypothesis inRest
        exact ⟨other, List.mem_cons_of_mem _ otherMember, isRelated⟩

theorem exists_of_forall₂_right {α : Type u} {β : Type v} {R : α → β → Prop} {left : List α}
    {right : List β} (related : List.Forall₂ R left right) {item : β} (member : item ∈ right) :
    ∃ other ∈ left, R other item :=
  exists_of_forall₂_left related.flip member

/-- What is said alike of related items is true of some item of both lists or of none. -/
theorem exists_mem_iff_of_forall₂ {α : Type u} {β : Type v} {R : α → β → Prop} {p : α → Prop}
    {q : β → Prop} {left : List α} {right : List β} (related : List.Forall₂ R left right)
    (alike : ∀ item other, R item other → (p item ↔ q other)) :
    (∃ item ∈ left, p item) ↔ ∃ other ∈ right, q other := by
  constructor
  · rintro ⟨item, member, holds⟩
    obtain ⟨other, otherMember, isRelated⟩ := exists_of_forall₂_left related member
    exact ⟨other, otherMember, (alike item other isRelated).1 holds⟩
  · rintro ⟨other, member, holds⟩
    obtain ⟨item, itemMember, isRelated⟩ := exists_of_forall₂_right related member
    exact ⟨item, itemMember, (alike item other isRelated).2 holds⟩

theorem map_eq_map_of_forall₂ {α β : Type u} {γ : Type v} {f : α → γ} {g : β → γ} {left : List α}
    {right : List β} (related : List.Forall₂ (fun item other => f item = g other) left right) :
    left.map f = right.map g := by
  rw [← List.forall₂_eq_eq_eq, List.forall₂_map_left_iff, List.forall₂_map_right_iff]
  exact related

theorem exists_mem_zip_of_forall₂ {α : Type u} {β : Type v} {R : α → β → Prop} {left : List α}
    {right : List β} (related : List.Forall₂ R left right) {item : α} (member : item ∈ left) :
    ∃ other, (item, other) ∈ left.zip right := by
  have sameItems : (left.zip right).map Prod.fst = left :=
    List.map_fst_zip (Nat.le_of_eq related.length_eq)
  rw [← sameItems] at member
  obtain ⟨⟨_, other⟩, inZip, isItem⟩ := List.mem_map.1 member
  cases isItem
  exact ⟨other, inZip⟩

end Findings
