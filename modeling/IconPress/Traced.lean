import IconPress.Failure
import IconPress.Journal

/-!
# Traced computations

A computation that notes records on its way and ends in a value or a failure.  What was noted
before a failure stays.

Main results:

- `Traced.outcome_bind`: how a computation ends depends on how its steps end, not on their notes.
- `Traced.journal_bind`: the notes of a step follow the notes before it.
-/

namespace IconPress

/-- The records noted, in order, and the end: a value or a failure. -/
structure Traced (α : Type) where
  journal : List Record
  outcome : Except Failure α
deriving Repr

namespace Traced

/-- Go on with the value of a computation, if it has one. -/
def andThen {α β : Type} (first : Traced α) (next : α → Traced β) : Traced β :=
  match first.outcome with
  | .ok value => ⟨first.journal ++ (next value).journal, (next value).outcome⟩
  | .error failure => ⟨first.journal, .error failure⟩

instance : Monad Traced where
  pure value := ⟨[], .ok value⟩
  bind := andThen

/-- Note a record. -/
def note (level : Level) (part : Part) (message : String) : Traced Unit :=
  ⟨[⟨level, part, message⟩], .ok ()⟩

/-- End with a failure. -/
def fail {α : Type} (failure : Failure) : Traced α :=
  ⟨[], .error failure⟩

/-- A computation that notes nothing. -/
def quiet {α : Type} (outcome : Except Failure α) : Traced α :=
  ⟨[], outcome⟩

@[simp]
theorem outcome_pure {α : Type} (value : α) : (pure value : Traced α).outcome = .ok value :=
  rfl

@[simp]
theorem journal_pure {α : Type} (value : α) : (pure value : Traced α).journal = [] :=
  rfl

@[simp]
theorem outcome_note (level : Level) (part : Part) (message : String) :
    (note level part message).outcome = .ok () :=
  rfl

@[simp]
theorem outcome_fail {α : Type} (failure : Failure) :
    (fail failure : Traced α).outcome = .error failure :=
  rfl

@[simp]
theorem outcome_quiet {α : Type} (outcome : Except Failure α) :
    (quiet outcome).outcome = outcome :=
  rfl

/-- How a computation ends depends on how its steps end, not on their notes. -/
@[simp]
theorem outcome_bind {α β : Type} (first : Traced α) (next : α → Traced β) :
    (first >>= next).outcome = first.outcome >>= fun value => (next value).outcome := by
  change (andThen first next).outcome = _
  unfold andThen
  cases h : first.outcome <;> rfl

/-- The notes of a step follow the notes before it. -/
theorem journal_bind {α β : Type} {first : Traced α} {value : α} (next : α → Traced β)
    (h : first.outcome = .ok value) :
    (first >>= next).journal = first.journal ++ (next value).journal := by
  change (andThen first next).journal = _
  simp [andThen, h]

/-- A step whose value nobody changes adds nothing. -/
theorem bind_pure_self {α : Type} (traced : Traced α) : traced >>= pure = traced := by
  rcases traced with ⟨journal, value | failure⟩
  · rfl
  · change Traced.mk (journal ++ []) _ = _
    rw [List.append_nil]
    rfl

theorem bind_assoc {α β γ : Type} (first : Traced α) (second : α → Traced β)
    (third : β → Traced γ) :
    first >>= second >>= third = first >>= fun value => second value >>= third := by
  rcases first with ⟨journal, failure | value⟩
  · rfl
  · change andThen (andThen _ second) third = andThen _ fun value => andThen (second value) third
    cases h : (second value).outcome <;> simp [andThen, h]

instance : LawfulMonad Traced :=
  LawfulMonad.mk' Traced bind_pure_self (fun _ _ => rfl) bind_assoc

@[simp]
theorem outcome_map {α β : Type} (f : α → β) (traced : Traced α) :
    (f <$> traced).outcome = f <$> traced.outcome := by
  rcases traced with ⟨journal, failure | value⟩ <;> rfl

/-- Many computations one after another end as their outcomes do. -/
theorem outcome_mapM {α β : Type} (next : α → Traced β) (items : List α) :
    (items.mapM next).outcome = items.mapM fun item => (next item).outcome := by
  induction items with
  | nil => rfl
  | cons item rest ih => simp [ih]

end Traced
end IconPress
