import Mathlib.Data.List.Forall2

/-!
# Outcomes that are values

A computation of several steps ends in a value exactly when every step does, and otherwise as the
first step that fails.  This module states that for two steps and for a step for each element of a
list.

Main definitions:

- `FirstAt`: the first element of a list that may lack a property.
- `EndAlike`: two computations that end with the same failure or with related values.

Main results:

- `bind_eq_ok_iff` and `bind_eq_error_iff`: two steps.
- `mapM_eq_ok_iff` and `mapM_eq_error_iff`: a step for each element.
- `mapM_zipIdx_congr`: steps for numbered elements of two lists.
- `mapError_bind` and `mapError_mapM`: failures of which only a part is looked at.
- `EndAlike.bind` and `EndAlike.mapM`: steps that end alike make computations that do.
-/

namespace IconPress

variable {ε α β : Type}

theorem ok_bind (value : α) (next : α → Except ε β) : (Except.ok value >>= next) = next value :=
  rfl

/-- Two steps end in a value when the first one does and then the second one. -/
theorem bind_eq_ok_iff {first : Except ε α} {next : α → Except ε β} {result : β} :
    first >>= next = .ok result ↔ ∃ value, first = .ok value ∧ next value = .ok result := by
  cases first with
  | error failure => simp [bind, Except.bind]
  | ok value => simp [bind, Except.bind]

/-- Two steps fail when the first one does, or when it ends in a value and the second one fails. -/
theorem bind_eq_error_iff {first : Except ε α} {next : α → Except ε β} {failure : ε} :
    first >>= next = .error failure ↔
      first = .error failure ∨ ∃ value, first = .ok value ∧ next value = .error failure := by
  cases first with
  | error other => simp [bind, Except.bind]
  | ok value => simp [bind, Except.bind]

/-- A change of its value leaves whether a computation ends in one. -/
theorem map_eq_ok_iff {outcome : Except ε α} {change : α → β} {result : β} :
    outcome.map change = .ok result ↔ ∃ value, outcome = .ok value ∧ change value = result := by
  cases outcome <;> simp [Except.map]

/-- A change that keeps values apart leaves no doubt about the value. -/
theorem map_eq_ok_iff_of_injective {outcome : Except ε α} {change : α → β} {value : α}
    (hchange : Function.Injective change) :
    outcome.map change = .ok (change value) ↔ outcome = .ok value := by
  rw [map_eq_ok_iff]
  constructor
  · rintro ⟨other, hother, heq⟩
    rw [hother, hchange heq]
  · exact fun h => ⟨value, h, rfl⟩

theorem map_eq_error_iff {outcome : Except ε α} {change : α → β} {failure : ε} :
    outcome.map change = .error failure ↔ outcome = .error failure := by
  cases outcome <;> simp [Except.map]

/-- At a place of a list stands an element, and all elements before it have a property. -/
structure FirstAt (items : List α) (good : α → Prop) (place : Nat) (item : α) : Prop where
  here : items[place]? = some item
  before : ∀ i other, i < place → items[i]? = some other → good other

/-- Where an element lacks a property, there is a first one. -/
theorem exists_firstAt_of_not {items : List α} {good : α → Prop} {item : α} (hitem : item ∈ items)
    (hbad : ¬good item) : ∃ place first, FirstAt items good place first ∧ ¬good first := by
  induction items with
  | nil => simp at hitem
  | cons head rest ih =>
      by_cases hhead : good head
      · rcases List.mem_cons.1 hitem with rfl | hrest
        · exact absurd hhead hbad
        · rcases ih hrest with ⟨place, first, hfirst, hlacks⟩
          refine ⟨place + 1, first, ⟨hfirst.here, ?_⟩, hlacks⟩
          intro i other hi hother
          cases i with
          | zero => exact Option.some.inj hother ▸ hhead
          | succ i => exact hfirst.before i other (Nat.lt_of_succ_lt_succ hi) hother
      · exact ⟨0, head, ⟨rfl, by simp⟩, hhead⟩

/-- Among numbered elements the first one bears the number of its place. -/
theorem firstAt_zipIdx_iff {items : List α} {good : α → Prop} {place : Nat} {numbered : α × Nat} :
    FirstAt items.zipIdx (fun other => good other.1) place numbered ↔
      FirstAt items good place numbered.1 ∧ numbered.2 = place := by
  have hhere : ∀ (i : Nat) (other : α × Nat), items.zipIdx[i]? = some other ↔
      items[i]? = some other.1 ∧ other.2 = i := by
    rintro i ⟨item, number⟩
    rw [List.getElem?_zipIdx]
    cases items[i]? <;> simp [eq_comm]
  constructor
  · rintro ⟨hnumbered, hbefore⟩
    rcases (hhere _ _).1 hnumbered with ⟨hitem, hnumber⟩
    refine ⟨⟨hitem, ?_⟩, hnumber⟩
    exact fun i other hi hother => hbefore i (other, i) hi ((hhere _ _).2 ⟨hother, rfl⟩)
  · rintro ⟨⟨hitem, hbefore⟩, hnumber⟩
    refine ⟨(hhere _ _).2 ⟨hitem, hnumber⟩, ?_⟩
    exact fun i other hi hother => hbefore i other.1 hi ((hhere _ _).1 hother).1

/-- Steps for the elements of a list end in values when every step does. -/
theorem mapM_eq_ok_iff {step : α → Except ε β} {items : List α} {results : List β} :
    items.mapM step = .ok results ↔
      List.Forall₂ (fun item result => step item = .ok result) items results := by
  induction items generalizing results with
  | nil => simp [pure, Except.pure, eq_comm]
  | cons item rest ih =>
      rw [List.mapM_cons, bind_eq_ok_iff, List.forall₂_cons_left_iff]
      constructor
      · rintro ⟨value, hvalue, hrest⟩
        rcases bind_eq_ok_iff.1 hrest with ⟨values, hvalues, hresults⟩
        exact ⟨value, values, hvalue, ih.1 hvalues, (Except.ok.inj hresults).symm⟩
      · rintro ⟨value, values, hvalue, hvalues, rfl⟩
        exact ⟨value, hvalue, bind_eq_ok_iff.2 ⟨values, ih.2 hvalues, rfl⟩⟩

/-- Steps for the elements of a list fail as the first step that fails. -/
theorem mapM_eq_error_iff {step : α → Except ε β} {items : List α} {failure : ε} :
    items.mapM step = .error failure ↔ ∃ place item,
      FirstAt items (fun other => ∃ value, step other = .ok value) place item ∧
        step item = .error failure := by
  induction items with
  | nil =>
      constructor
      · simp [pure, Except.pure]
      · rintro ⟨place, item, hfirst, -⟩
        simpa using hfirst.here
  | cons head rest ih =>
      rw [List.mapM_cons, bind_eq_error_iff]
      constructor
      · rintro (herror | ⟨value, hvalue, hrest⟩)
        · exact ⟨0, head, ⟨rfl, by simp⟩, herror⟩
        · rcases bind_eq_error_iff.1 hrest with hrest | ⟨values, -, hnever⟩
          · rcases ih.1 hrest with ⟨place, item, hfirst, herror⟩
            refine ⟨place + 1, item, ⟨hfirst.here, ?_⟩, herror⟩
            intro i other hi hother
            cases i with
            | zero => exact ⟨value, Option.some.inj hother ▸ hvalue⟩
            | succ i => exact hfirst.before i other (Nat.lt_of_succ_lt_succ hi) hother
          · simp [pure, Except.pure] at hnever
      · rintro ⟨place, item, hfirst, herror⟩
        cases place with
        | zero => exact .inl (Option.some.inj hfirst.here ▸ herror)
        | succ place =>
            rcases hfirst.before 0 head (Nat.succ_pos place) rfl with ⟨value, hvalue⟩
            refine .inr ⟨value, hvalue, bind_eq_error_iff.2 (.inl (ih.2 ?_))⟩
            refine ⟨place, item, ⟨hfirst.here, ?_⟩, herror⟩
            exact fun i other hi hother => hfirst.before (i + 1) other (Nat.succ_lt_succ hi) hother

/-- Where every step ends in a value, all of them do. -/
theorem exists_mapM_eq_ok {step : α → Except ε β} {items : List α}
    (h : ∀ item ∈ items, ∃ result, step item = .ok result) :
    ∃ results, items.mapM step = .ok results := by
  cases hend : items.mapM step with
  | ok results => exact ⟨results, rfl⟩
  | error failure =>
      rcases mapM_eq_error_iff.1 hend with ⟨place, item, hfirst, herror⟩
      rcases h item (List.mem_of_getElem? hfirst.here) with ⟨result, hresult⟩
      rw [herror] at hresult
      simp at hresult

/-- Numbered elements of related lists that are dealt with alike make the same computation. -/
theorem mapM_zipIdx_congr {γ : Type} {R : α → β → Prop} {step : α × Nat → Except ε γ}
    {other : β × Nat → Except ε γ} {items : List α} {others : List β}
    (h : List.Forall₂ R items others) (hstep : ∀ a b i, R a b → step (a, i) = other (b, i)) :
    items.zipIdx.mapM step = others.zipIdx.mapM other := by
  have hfrom : ∀ first, (items.zipIdx first).mapM step = (others.zipIdx first).mapM other := by
    induction h with
    | nil => exact fun _ => rfl
    | cons hhead _ ih =>
        intro first
        rw [List.zipIdx_cons, List.zipIdx_cons, List.mapM_cons, List.mapM_cons, ih (first + 1),
          hstep _ _ first hhead]
  exact hfrom 0

/-- Two relations between lists, one after the other. -/
theorem forall₂_trans {γ : Type} {R : α → β → Prop} {S : β → γ → Prop} {T : α → γ → Prop}
    (hcompose : ∀ a b c, R a b → S b c → T a c) {first : List α} {second : List β}
    {third : List γ} (hfirst : List.Forall₂ R first second)
    (hsecond : List.Forall₂ S second third) : List.Forall₂ T first third := by
  induction hfirst generalizing third with
  | nil =>
      rw [List.forall₂_nil_left_iff] at hsecond
      exact hsecond ▸ List.Forall₂.nil
  | cons hhead _ ih =>
      rcases List.forall₂_cons_left_iff.1 hsecond with ⟨c, rest, hc, hrest, rfl⟩
      exact List.Forall₂.cons (hcompose _ _ c hhead hc) (ih hrest)

/-- Related lists are related place by place. -/
theorem getElem?_of_forall₂ {R : α → β → Prop} {left : List α} {right : List β}
    (h : List.Forall₂ R left right) {i : Nat} {a : α} (ha : left[i]? = some a) :
    ∃ b, right[i]? = some b ∧ R a b := by
  induction h generalizing i with
  | nil => simp at ha
  | cons hhead _ ih =>
      cases i with
      | zero =>
          rw [List.getElem?_cons_zero, Option.some.injEq] at ha
          exact ⟨_, List.getElem?_cons_zero, ha ▸ hhead⟩
      | succ i =>
          rw [List.getElem?_cons_succ] at ha ⊢
          exact ih ha

/-- Values that only stand across from each other are at the same places of related lists. -/
theorem getElem?_iff_of_forall₂ {R : α → β → Prop} {left : List α} {right : List β}
    (h : List.Forall₂ R left right) {a : α} {b : β}
    (hpaired : ∀ first second, R first second → (first = a ↔ second = b)) (i : Nat) :
    left[i]? = some a ↔ right[i]? = some b := by
  induction h generalizing i with
  | nil => simp
  | cons hhead _ ih =>
      cases i with
      | zero => simpa using hpaired _ _ hhead
      | succ i => simpa using ih i

/-! ## Failures seen through a function -/

section MapError

variable {δ : Type} (view : ε → δ)

/-- A view of the failures of two steps is a view of those of each. -/
theorem mapError_bind (first : Except ε α) (next : α → Except ε β) :
    (first >>= next).mapError view =
      first.mapError view >>= fun value => (next value).mapError view := by
  cases first <;> rfl

theorem mapError_mapM (step : α → Except ε β) (items : List α) :
    (items.mapM step).mapError view = items.mapM fun item => (step item).mapError view := by
  induction items with
  | nil => rfl
  | cons item rest ih =>
      rw [List.mapM_cons, List.mapM_cons, mapError_bind, ← ih]
      congr 1
      funext value
      rw [mapError_bind]
      rfl

/-- First steps that look alike, with second ones that see no difference between their values. -/
theorem mapError_bind_congr {γ : Type} {first second : Except ε α} {next : α → Except ε β}
    (seen : α → γ)
    (h : (first.map seen).mapError view = (second.map seen).mapError view)
    (hnext : ∀ a b, seen a = seen b → (next a).mapError view = (next b).mapError view) :
    (first >>= next).mapError view = (second >>= next).mapError view := by
  cases first with
  | error failure =>
      cases second with
      | error other => exact congrArg Except.error (Except.error.inj h)
      | ok value => simp [Except.map, Except.mapError] at h
  | ok value =>
      cases second with
      | error other => simp [Except.map, Except.mapError] at h
      | ok other => exact hnext value other (Except.ok.inj h)

/-- Outcomes that look alike are the same value. -/
theorem eq_ok_iff_of_mapError_eq {first second : Except ε α}
    (h : first.mapError view = second.mapError view) (value : α) :
    first = .ok value ↔ second = .ok value := by
  cases first <;> cases second <;> simp_all [Except.mapError]

/-- Outcomes that look alike are failures that do. -/
theorem exists_error_of_mapError_eq {first second : Except ε α} {failure : ε}
    (h : first.mapError view = second.mapError view) (herror : first = .error failure) :
    ∃ other, second = .error other ∧ view other = view failure := by
  subst herror
  cases second with
  | ok value => simp [Except.mapError] at h
  | error other => exact ⟨other, rfl, (Except.error.inj h).symm⟩

end MapError

/-! ## Computations that end alike -/

/-- Two computations end alike: with the same failure, or with values that are related. -/
inductive EndAlike (R : α → β → Prop) : Except ε α → Except ε β → Prop where
  | failure (cause : ε) : EndAlike R (.error cause) (.error cause)
  | value {first : α} {second : β} (h : R first second) : EndAlike R (.ok first) (.ok second)

namespace EndAlike

variable {γ δ : Type} {R : α → β → Prop} {S : γ → δ → Prop}

/-- A computation ends like itself. -/
theorem refl {R : α → α → Prop} (hR : ∀ value, R value value) (outcome : Except ε α) :
    EndAlike R outcome outcome := by
  cases outcome with
  | error cause => exact .failure cause
  | ok value => exact .value (hR value)

theorem bind {first : Except ε α} {second : Except ε β} {next : α → Except ε γ}
    {other : β → Except ε δ} (h : EndAlike R first second)
    (hnext : ∀ a b, R a b → EndAlike S (next a) (other b)) :
    EndAlike S (first >>= next) (second >>= other) := by
  cases h with
  | failure cause => exact .failure cause
  | value hvalue => exact hnext _ _ hvalue

/-- Steps that end alike, one after another. -/
theorem mapM {step : α → Except ε γ} {other : β → Except ε δ} {items : List α} {others : List β}
    (h : List.Forall₂ (fun a b => EndAlike S (step a) (other b)) items others) :
    EndAlike (List.Forall₂ S) (items.mapM step) (others.mapM other) := by
  induction h with
  | nil => exact .value .nil
  | cons hstep _ ih =>
      rw [List.mapM_cons, List.mapM_cons]
      refine hstep.bind fun a b hvalue => ih.bind fun rest more hrest => ?_
      exact .value (.cons hvalue hrest)

end EndAlike

end IconPress
