import IconPress.Settings.Resolve

/-!
# Which values count

Several sources may give a value for a choice: a keyword, the environment, the defaults.  Names are
compared without regard to case, but a keyword that is spelled like the choice counts before one
that is not.

Main definitions:

- `Settings.RawValue`: a value that may count for a choice.
- `Settings.Sources.Settled`: sources that leave no doubt which value that is.

Main results:

- `Settings.keyword?_named`: keywords that are spelled like their choices.
- `Settings.rawValue_supplied`: the value that counts is one that may.
- `Settings.RawValue.eq_supplied`: where the sources are settled, it is the only one.
-/

namespace IconPress
namespace Settings

/-! ## Names -/

/-- The names of the choices differ, whatever their case. -/
theorem foldName_name_inj {field other : Field} :
    foldName field.name = foldName other.name ↔ field = other := by
  cases field <;> cases other <;> decide

theorem name_inj {field other : Field} : field.name = other.name ↔ field = other :=
  ⟨fun heq => foldName_name_inj.1 (congrArg foldName heq), congrArg Field.name⟩

theorem lookup_named (choices : List (Field × Supplied)) (field : Field) :
    (choices.map fun choice => (choice.1.name, choice.2)).lookup field.name =
      choices.lookup field := by
  induction choices with
  | nil => rfl
  | cons choice rest ih =>
      rw [List.map_cons, List.lookup_cons, List.lookup_cons, ih]
      simp only [Bool.beq_eq_decide_eq, name_inj]

theorem head?_valuesNamed (choices : List (Field × Supplied)) (field : Field) :
    (valuesNamed (choices.map fun choice => (choice.1.name, choice.2)) field.name).head? =
      choices.lookup field := by
  induction choices with
  | nil => rfl
  | cons choice rest ih =>
      rw [List.lookup_cons, ← ih]
      simp only [valuesNamed, List.map_cons, List.filter_cons, foldName_name_inj,
        Bool.beq_eq_decide_eq, eq_comm (a := field)]
      by_cases hchoice : choice.1 = field <;> simp [hchoice]

/-- A keyword with the name of a choice is about that choice. -/
theorem keyword?_named (choices : List (Field × Supplied))
    (environment : List (String × String)) (field : Field) :
    Sources.keyword? ⟨choices.map fun choice => (choice.1.name, choice.2), environment⟩ field =
      choices.lookup field := by
  rw [Sources.keyword?, lookup_named, head?_valuesNamed]
  cases choices.lookup field <;> rfl

/-! ## Lists of named values -/

section Named

variable {α : Type} {listed : List (String × α)} {name : String} {value : α}

theorem mem_valuesNamed_iff :
    value ∈ valuesNamed listed name ↔
      ∃ spelling, (spelling, value) ∈ listed ∧ foldName spelling = foldName name := by
  simp [valuesNamed]

theorem valuesNamed_eq_nil_iff :
    valuesNamed listed name = [] ↔ ∀ item ∈ listed, foldName item.1 ≠ foldName name := by
  simp [valuesNamed]

theorem mem_of_lookup_eq_some (h : listed.lookup name = some value) : (name, value) ∈ listed := by
  rcases List.lookup_eq_some_iff.1 h with ⟨front, back, rfl, -⟩
  simp

theorem lookup_eq_none_iff_not_mem :
    listed.lookup name = none ↔ ∀ value, (name, value) ∉ listed := by
  rw [List.lookup_eq_none_iff]
  constructor
  · intro h value hmem
    simpa using h _ hmem
  · intro h item hmem
    simp only [bne_iff_ne]
    rintro rfl
    exact h item.2 hmem

/-- A list that holds a value and no other one begins and ends with it. -/
theorem valuesNamed_eq_singleton (h : value ∈ valuesNamed listed name)
    (hlength : (valuesNamed listed name).length ≤ 1) : valuesNamed listed name = [value] := by
  have hone := Nat.le_antisymm hlength (List.length_pos_of_mem h)
  rcases List.length_eq_one_iff.1 hone with ⟨single, hsingle⟩
  rw [hsingle] at h ⊢
  rw [List.mem_singleton.1 h]

end Named

/-! ## Values that count -/

/--
A value that may count for a choice: that of the keyword, else of a keyword that differs from the
name of the choice in case only, else of a variable with its name in whatever case, else the
default.
-/
inductive RawValue (sources : Sources) (field : Field) : Supplied → Prop where
  | keyword {value : Supplied} (h : (field.name, value) ∈ sources.keywords) :
      RawValue sources field value
  | respelled {spelling : String} {value : Supplied}
      (hexact : ∀ given, (field.name, given) ∉ sources.keywords)
      (h : (spelling, value) ∈ sources.keywords) (hname : foldName spelling = foldName field.name) :
      RawValue sources field value
  | environment {spelling value : String}
      (hkeyword : ∀ item ∈ sources.keywords, foldName item.1 ≠ foldName field.name)
      (h : (spelling, value) ∈ sources.environment)
      (hname : foldName spelling = foldName field.environmentName) :
      RawValue sources field (.text value)
  | standard (hkeyword : ∀ item ∈ sources.keywords, foldName item.1 ≠ foldName field.name)
      (henvironment : ∀ item ∈ sources.environment,
        foldName item.1 ≠ foldName field.environmentName) :
      RawValue sources field (.text field.standard)

/--
Sources that leave no doubt about a choice: its keyword has one value, or else at most one keyword
has its name in another case, and at most one variable has its name.
-/
structure Sources.Settled (sources : Sources) (field : Field) : Prop where
  keyword : ∀ value given, (field.name, value) ∈ sources.keywords →
    (field.name, given) ∈ sources.keywords → value = given
  respelled : (∀ given, (field.name, given) ∉ sources.keywords) →
    (valuesNamed sources.keywords field.name).length ≤ 1
  environment : (valuesNamed sources.environment field.environmentName).length ≤ 1

section Values

variable {sources : Sources} {field : Field} {value : Supplied}

theorem keyword?_of_lookup (h : sources.keywords.lookup field.name = some value) :
    sources.keyword? field = some value := by
  simp [Sources.keyword?, h]

/-- Without a keyword in the same spelling, the first one in another spelling counts. -/
theorem keyword?_of_not_mem (h : ∀ given, (field.name, given) ∉ sources.keywords) :
    sources.keyword? field = (valuesNamed sources.keywords field.name).head? := by
  simp [Sources.keyword?, lookup_eq_none_iff_not_mem.2 h]

theorem keyword?_eq_none_iff :
    sources.keyword? field = none ↔
      ∀ item ∈ sources.keywords, foldName item.1 ≠ foldName field.name := by
  constructor
  · intro h
    cases hlookup : sources.keywords.lookup field.name with
    | some value => simp [keyword?_of_lookup hlookup] at h
    | none =>
        rw [keyword?_of_not_mem (lookup_eq_none_iff_not_mem.1 hlookup), List.head?_eq_none_iff] at h
        exact valuesNamed_eq_nil_iff.1 h
  · intro h
    rw [keyword?_of_not_mem fun given hgiven => h _ hgiven rfl, valuesNamed_eq_nil_iff.2 h]
    rfl

theorem supplied_of_keyword? (h : sources.keyword? field = some value) :
    sources.supplied field = value := by
  simp [Sources.supplied, h]

theorem supplied_of_environment {text : String} (hkeyword : sources.keyword? field = none)
    (h : sources.variable? field = some text) : sources.supplied field = .text text := by
  simp [Sources.supplied, hkeyword, h]

theorem supplied_of_none (hkeyword : sources.keyword? field = none)
    (h : sources.variable? field = none) : sources.supplied field = .text field.standard := by
  simp [Sources.supplied, hkeyword, h]

/-- The value that counts is one that may. -/
theorem rawValue_supplied (sources : Sources) (field : Field) :
    RawValue sources field (sources.supplied field) := by
  cases hlookup : sources.keywords.lookup field.name with
  | some value =>
      rw [supplied_of_keyword? (keyword?_of_lookup hlookup)]
      exact .keyword (mem_of_lookup_eq_some hlookup)
  | none =>
      have hexact := lookup_eq_none_iff_not_mem.1 hlookup
      cases hkeyword : sources.keyword? field with
      | some value =>
          have hhead := keyword?_of_not_mem hexact ▸ hkeyword
          rcases mem_valuesNamed_iff.1 (List.mem_of_head? hhead) with ⟨spelling, hmem, hname⟩
          rw [supplied_of_keyword? hkeyword]
          exact .respelled hexact hmem hname
      | none =>
          have hnone := keyword?_eq_none_iff.1 hkeyword
          cases hvariable : sources.variable? field with
          | some text =>
              rcases mem_valuesNamed_iff.1 (List.mem_of_getLast? hvariable) with
                ⟨spelling, hmem, hname⟩
              rw [supplied_of_environment hkeyword hvariable]
              exact .environment hnone hmem hname
          | none =>
              rw [supplied_of_none hkeyword hvariable]
              exact .standard hnone
                (valuesNamed_eq_nil_iff.1 (List.getLast?_eq_none_iff.1 hvariable))

/-- Where the sources are settled, no other value may count. -/
theorem RawValue.eq_supplied (h : RawValue sources field value)
    (hsettled : sources.Settled field) : value = sources.supplied field := by
  cases h with
  | keyword hmem =>
      cases hlookup : sources.keywords.lookup field.name with
      | some given =>
          rw [supplied_of_keyword? (keyword?_of_lookup hlookup)]
          exact hsettled.keyword _ _ hmem (mem_of_lookup_eq_some hlookup)
      | none => exact absurd hmem (lookup_eq_none_iff_not_mem.1 hlookup value)
  | respelled hexact hmem hname =>
      have hsingle := valuesNamed_eq_singleton (mem_valuesNamed_iff.2 ⟨_, hmem, hname⟩)
        (hsettled.respelled hexact)
      have hkeyword : sources.keyword? field = some value := by
        rw [keyword?_of_not_mem hexact, hsingle]
        rfl
      rw [supplied_of_keyword? hkeyword]
  | @environment spelling text hkeyword hmem hname =>
      have hsingle := valuesNamed_eq_singleton (mem_valuesNamed_iff.2 ⟨_, hmem, hname⟩)
        hsettled.environment
      have hvariable : sources.variable? field = some text := congrArg List.getLast? hsingle
      rw [supplied_of_environment (keyword?_eq_none_iff.2 hkeyword) hvariable]
  | standard hkeyword henvironment =>
      have hvariable : sources.variable? field = none :=
        List.getLast?_eq_none_iff.2 (valuesNamed_eq_nil_iff.2 henvironment)
      rw [supplied_of_none (keyword?_eq_none_iff.2 hkeyword) hvariable]

end Values

/-- A keyword in another spelling counts, although no keyword has the name of the choice. -/
theorem resolve_lowerCase_keyword :
    let sources : Sources := ⟨[("output_dir", .text "k")], []⟩
    (∀ given, (Field.outputDir.name, given) ∉ sources.keywords) ∧
      sources.environment = [] ∧
      resolve sources = .ok { standard with outputDir := "k" } ∧
      "k" ≠ Field.outputDir.standard := by
  refine ⟨?_, rfl, rfl, by decide⟩
  simp [Field.name]

end Settings
end IconPress
