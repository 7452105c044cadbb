import IconPress.Proofs.Directories
import IconPress.Proofs.Effects
import IconPress.Proofs.Numerals
import IconPress.Proofs.Press

/-!
# Which failures of publishing are reported

Publishing asks twice whether something is there: at the path of the document, and under the name
of the archive.  Neither question has an answer where a name on the way is too long, and then
publishing ends with a bare failure of the disk.  Every other failure of a file operation is
reported under the class of file operations, as long as no null character gets into a path.

Main definitions:

- `FileTree.HasLongName`: names that lead through one that is too long.
- `Unanswered`: the question of publishing that has no answer.

Main results:

- `FileTree.find_eq_error`: what a path that leads to nothing fails with.
- `run_setAside_unanswered` and `kind?_of_run_setAside`: the first step.
- `kind?_of_run_writeText`: the second step.
- `publish_reported`: both.
-/

namespace IconPress

/-! ## Paths without a null character -/

namespace Path

theorem hasNull_eq_false_iff {path : Path} :
    path.hasNull = false ↔ ∀ part ∈ path.parts, '\x00' ∉ part.toList := by
  simp [hasNull]

/-- The parts of a path hold no other characters than its text. -/
theorem hasNull_parse {text : String} (h : '\x00' ∉ text.toList) :
    (parse text).hasNull = false := by
  rw [hasNull_eq_false_iff]
  intro part hpart hmem
  rcases List.mem_map.1 (List.mem_filter.1 hpart).1 with ⟨piece, hpiece, rfl⟩
  rw [String.toList_ofList] at hmem
  exact h (Text.mem_of_mem_pieces hpiece hmem)

/-- The characters of the halves of a name are characters of the name. -/
theorem splitName_subset (name : List Char) :
    (splitName name).1 ⊆ name ∧ (splitName name).2 ⊆ name := by
  unfold splitName
  simp only
  split
  · exact ⟨List.take_subset _ _, List.drop_subset _ _⟩
  · exact ⟨List.Subset.refl _, List.nil_subset _⟩

end Path

/-- A stamp holds its three marks and digits. -/
theorem not_mem_stamp {c : Char} (hdigit : Text.Numeral.isDigit c = false)
    (hmark : c ∉ ['-', 'T', ':']) (now : Instant) : c ∉ now.stamp.toList := by
  have hyear : c ∉ Nat.toDigits 10 now.year := by
    rw [← Nat.toList_repr]
    exact Text.Numeral.not_mem_repr hdigit now.year
  have htwo := Text.Numeral.not_mem_twoDigits hdigit
  simp only [List.mem_cons, List.not_mem_nil, or_false, not_or] at hmark
  simp [Instant.stamp, hyear, htwo, hmark]

/-- An archive name holds the characters of the name, a stamp and what stands around it. -/
theorem not_mem_stampedName {c : Char} {name : String} (hname : c ∉ name.toList)
    (hdigit : Text.Numeral.isDigit c = false) (hmark : c ∉ ['-', 'T', ':', '_', '.', 'o', 'l', 'd'])
    (now : Instant) : c ∉ (stampedName name now).toList := by
  have hhalves := Path.splitName_subset name.toList
  have hstem : c ∉ (Path.stem name).toList := fun hmem =>
    hname (hhalves.1 (by simpa [Path.stem] using hmem))
  have hsuffix : c ∉ (Path.suffix name).toList := fun hmem =>
    hname (hhalves.2 (by simpa [Path.suffix] using hmem))
  simp only [List.mem_cons, List.not_mem_nil, or_false, not_or] at hmark
  have hstamp := not_mem_stamp hdigit (by simp [hmark]) now
  simp [stampedName, hstem, hsuffix, hstamp, hmark]

/-- The archive of a path without a null character has none in its own path. -/
theorem Path.hasNull_archive {path : Path} {now : Instant} {newName : String}
    (hnull : path.hasNull = false) (hname : path.archiveName now = .ok newName) :
    (path.withName newName).hasNull = false := by
  rcases archiveName_eq_ok hname with ⟨name, hlast, rfl⟩
  rw [hasNull_eq_false_iff] at hnull ⊢
  have hplain := hnull name (List.mem_of_getLast? hlast)
  intro part hpart
  rw [withName, child, List.mem_append, List.mem_singleton] at hpart
  rcases hpart with habove | rfl
  · exact hnull part (List.dropLast_subset _ habove)
  · exact not_mem_stampedName hplain (by decide) (by decide) now

/-- The path of a document has no null character if that of its directory has none. -/
theorem hasNull_outputPath {settings : Settings} (h : '\x00' ∉ settings.outputDir.toList)
    (size : Int) : (outputPath settings size).hasNull = false := by
  rw [Path.hasNull_eq_false_iff]
  intro part hpart
  rw [outputPath, Path.child, List.mem_append, List.mem_singleton] at hpart
  rcases hpart with habove | rfl
  · exact Path.hasNull_eq_false_iff.1 (Path.hasNull_parse h) part habove
  · have hsize : '\x00' ∉ size.repr.toList :=
      Text.Numeral.not_mem_repr_int (by decide) (by decide) size
    change '\x00' ∉ ("icons" ++ toString size ++ ".rs").toList
    simp [hsize]

/-! ## Why paths lead nowhere -/

namespace FileTree

/-- A name that is too long is among some names, or among the names that a link stands for. -/
def HasLongName (tree : FileTree) (names : List String) : Prop :=
  ∃ name, nameLimit < name.utf8ByteSize ∧ (name ∈ names ∨
    ∃ location target, tree.at? location = some (.link target) ∧ name ∈ targetNames target)

variable {tree : FileTree}

theorem HasLongName.mono {some more : List String} (h : tree.HasLongName some)
    (hsubset : ∀ name ∈ some, name ∈ more) : tree.HasLongName more := by
  rcases h with ⟨name, hlong, hmem | hlink⟩
  · exact ⟨name, hlong, .inl (hsubset name hmem)⟩
  · exact ⟨name, hlong, .inr hlink⟩

/-- The names of a link that is there are among those that count anyway. -/
theorem HasLongName.of_link {location : Location} {target : String} {names : List String}
    (hlink : tree.at? location = some (.link target))
    (h : tree.HasLongName (targetNames target ++ names)) : tree.HasLongName names := by
  rcases h with ⟨name, hlong, hmem | hother⟩
  · rcases List.mem_append.1 hmem with htarget | hrest
    · exact ⟨name, hlong, .inr ⟨location, target, hlink, htarget⟩⟩
    · exact ⟨name, hlong, .inl hrest⟩
  · exact ⟨name, hlong, .inr hother⟩

/-- Why a walk gets nowhere along a name that is looked up, or how it goes on. -/
theorem walk_proper_eq_error {links : Nat} {location : Location} {name : String}
    {names : List String} {obstacle : Obstacle}
    (hdirectory : tree.at? location = some .directory) (hname : IsProper name)
    (h : tree.walk links location (name :: names) = .error obstacle) :
    obstacle.meansAbsent = true ∨ (obstacle = .nameTooLong ∧ nameLimit < name.utf8ByteSize) ∨
      (∃ next, tree.walk links next names = .error obstacle) ∨
      ∃ target left, links = left + 1 ∧ tree.at? (location ++ [name]) = some (.link target) ∧
        tree.walk left (if isRooted target then [] else location) (targetNames target ++ names) =
          .error obstacle := by
  cases hentry : tree.at? (location ++ [name]) with
  | none =>
      rw [walk_empty hdirectory links names hname hentry] at h
      split at h
      · simp at h
      · cases h
        exact .inl rfl
  | some entry =>
      by_cases hplain : ∀ target, entry ≠ .link target
      · rw [walk_entry hdirectory links names hname hentry hplain] at h
        exact .inr (.inr (.inl ⟨_, h⟩))
      · obtain ⟨target, rfl⟩ : ∃ target, entry = .link target := by simpa using hplain
        cases links with
        | zero =>
            rw [walk_link_zero hdirectory names hname hentry] at h
            cases h
            exact .inl rfl
        | succ left =>
            rw [walk_link hdirectory left names hname hentry] at h
            exact .inr (.inr (.inr ⟨target, left, rfl, rfl, h⟩))

/-- Why a walk gets nowhere along a name, or from where it goes on and gets nowhere. -/
theorem walk_cons_eq_error {links : Nat} {location : Location} {name : String}
    {names : List String} {obstacle : Obstacle}
    (h : tree.walk links location (name :: names) = .error obstacle) :
    obstacle.meansAbsent = true ∨ (obstacle = .nameTooLong ∧ nameLimit < name.utf8ByteSize) ∨
      (∃ next, tree.walk links next names = .error obstacle) ∨
      ∃ target left, links = left + 1 ∧ tree.at? (location ++ [name]) = some (.link target) ∧
        tree.walk left (if isRooted target then [] else location) (targetNames target ++ names) =
          .error obstacle := by
  by_cases hdirectory : tree.at? location = some .directory
  · by_cases hdot : name = "."
    · rw [hdot, walk_dot hdirectory] at h
      exact .inr (.inr (.inl ⟨_, h⟩))
    · by_cases hdots : name = ".."
      · rw [hdots, walk_dots hdirectory] at h
        exact .inr (.inr (.inl ⟨_, h⟩))
      · by_cases hlong : nameLimit < name.utf8ByteSize
        · rw [walk_long hdirectory links names hdot hdots hlong, Except.error.injEq] at h
          exact .inr (.inl ⟨h.symm, hlong⟩)
        · exact walk_proper_eq_error hdirectory ⟨hdot, hdots, Nat.not_lt.1 hlong⟩ h
  · rw [walk_cons_of_ne hdirectory] at h
    cases h
    exact .inl rfl

/-- A walk that gets nowhere says that nothing is there, unless a name is too long. -/
theorem walk_eq_error {links : Nat} {location : Location} {names : List String}
    {obstacle : Obstacle} (h : tree.walk links location names = .error obstacle) :
    obstacle.meansAbsent = true ∨ (obstacle = .nameTooLong ∧ tree.HasLongName names) := by
  -- Links start the names anew, so their number decreases first and then the names.
  induction links using Nat.strongRecOn generalizing location names with
  | ind links ihlinks =>
      induction names generalizing location with
      | nil => simp at h
      | cons name names ih =>
          have hlater : obstacle = .nameTooLong ∧ tree.HasLongName names →
              obstacle = .nameTooLong ∧ tree.HasLongName (name :: names) :=
            fun hnames => ⟨hnames.1, hnames.2.mono fun _ => List.mem_cons_of_mem name⟩
          rcases walk_cons_eq_error h with
            habsent | ⟨rfl, hlong⟩ | ⟨next, hrest⟩ | ⟨target, left, rfl, hlink, hrest⟩
          · exact .inl habsent
          · exact .inr ⟨rfl, name, hlong, .inl List.mem_cons_self⟩
          · exact (ih hrest).imp_right hlater
          · refine (ihlinks left (Nat.lt_succ_self left) hrest).imp_right fun hnames => ?_
            exact hlater ⟨hnames.1, .of_link hlink hnames.2⟩

/-- What is not found is not there, unless the path or a name on the way is too long. -/
theorem find_eq_error {path : Path} {obstacle : Obstacle}
    (h : tree.find path = .error obstacle) :
    obstacle.meansAbsent = true ∨ (obstacle = .nameTooLong ∧
      (pathLimit ≤ path.text.utf8ByteSize ∨ tree.HasLongName path.parts)) := by
  rcases bind_eq_error_iff.1 h with hresolve | ⟨location, -, hplace⟩
  · rcases bind_eq_error_iff.1 hresolve with hlength | ⟨-, -, hwalk⟩
    · unfold checkLength at hlength
      split at hlength
      · simp at hlength
      · rename_i hlong
        cases hlength
        exact .inr ⟨rfl, .inl (Nat.not_lt.1 hlong)⟩
    · exact (walk_eq_error hwalk).imp_right fun hlong => ⟨hlong.1, .inr hlong.2⟩
  · split at hplace
    · simp at hplace
    · cases hplace
      exact .inl rfl

/-- Whether something is there has no answer where a name is too long. -/
theorem present_eq_error_iff {path : Path} {obstacle : Obstacle} :
    tree.present path = .error obstacle ↔
      tree.find path = .error .nameTooLong ∧ obstacle = .nameTooLong := by
  unfold present
  cases hfind : tree.find path with
  | ok entry => simp
  | error other =>
      rcases find_eq_error hfind with habsent | ⟨rfl, -⟩
      · have hother : other ≠ .nameTooLong := by
          rintro rfl
          simp [Obstacle.meansAbsent] at habsent
        simp [habsent, hother]
      · simp [Obstacle.meansAbsent, eq_comm]

/-- Where a question has an answer, no name is too long. -/
theorem find_ne_of_present {path : Path} {answer : Bool} (h : tree.present path = .ok answer) :
    tree.find path ≠ .error .nameTooLong := by
  intro hfind
  rw [present_eq_error_iff.2 ⟨hfind, rfl⟩] at h
  simp at h

end FileTree

namespace Machine

variable {machine : Machine} {path : Path}

/-- Where a question has no answer. -/
theorem present_eq_error_iff {cause : DiskError} :
    machine.present path = .error cause ↔ path.hasNull = false ∧
      machine.tree.find path = .error .nameTooLong ∧ cause = .refused .nameTooLong path none := by
  unfold present observe
  by_cases hnull : path.hasNull = true
  · simp [hnull]
  · rw [if_neg hnull]
    cases hpresent : machine.tree.present path with
    | ok answer =>
        simp [Except.mapError, FileTree.find_ne_of_present hpresent]
    | error obstacle =>
        rcases FileTree.present_eq_error_iff.1 hpresent with ⟨hfind, rfl⟩
        simp [Except.mapError, hfind, hnull, eq_comm]

/-- Where something is. -/
theorem present_eq_true_iff :
    machine.present path = .ok true ↔
      path.hasNull = false ∧ ∃ entry, machine.tree.find path = .ok entry := by
  unfold present observe
  by_cases hnull : path.hasNull = true
  · simp [hnull]
  · rw [if_neg hnull, FileTree.present]
    cases hfind : machine.tree.find path with
    | ok entry => simp [Except.mapError, hnull]
    | error obstacle =>
        by_cases habsent : obstacle.meansAbsent = true <;> simp [Except.mapError, habsent]

/-- The failure that a wrapped cause becomes has the class of the wrapping. -/
theorem kind?_failureOf {wrap : DiskError → Failure} {kind : Failure.Kind} {cause : DiskError}
    (hcause : cause ≠ .nullInPath) (hwrap : ∀ cause, (wrap cause).kind? = some kind) :
    (failureOf wrap cause).kind? = some kind := by
  rw [failureOf, if_neg hcause, hwrap]

/-- Where no null character occurs, none is the reason why renaming fails. -/
theorem rename_ne_nullInPath (machine : Machine) {newName : String} (hnull : path.hasNull = false)
    (hnew : (path.withName newName).hasNull = false) :
    (machine.rename path newName).1 ≠ .error .nullInPath := by
  unfold rename
  cases machine.faults.rename with
  | some reason => simp
  | none =>
      simp only [hnull, hnew, Bool.or_self, Bool.false_eq_true, if_false, change]
      cases machine.tree.rename path newName <;> simp

/-- An operation that does not stumble over a null character. -/
def NullFree {α : Type} (operation : StateM Machine (Except DiskError α)) : Prop :=
  ∀ machine : Machine, (operation machine).1 ≠ .error .nullInPath

namespace NullFree

variable {α β : Type}

theorem pure {result : Except DiskError α} (h : result ≠ .error .nullInPath) :
    NullFree (pure result : StateM Machine _) :=
  fun _ => h

theorem bind {first : StateM Machine (Except DiskError α)}
    {next : Except DiskError α → StateM Machine (Except DiskError β)} (hfirst : NullFree first)
    (hnext : ∀ result, result ≠ .error .nullInPath → NullFree (next result)) :
    NullFree (first >>= next) := by
  intro machine
  change (next (first machine).1 (first machine).2).1 ≠ _
  exact hnext _ (hfirst machine) _

theorem isDirectory (path : Path) : NullFree (Host.isDirectory path : StateM Machine _) := by
  intro machine
  change machine.isDirectory path ≠ _
  unfold Machine.isDirectory observe
  split
  · simp
  · cases machine.tree.isDirectory path <;> simp [Except.mapError]

theorem makeDirectory {path : Path} (hnull : path.hasNull = false) :
    NullFree (Host.makeDirectory path : StateM Machine _) := by
  intro machine
  change (machine.makeDirectory path).1 ≠ _
  unfold Machine.makeDirectory change
  rw [hnull, if_neg (by simp)]
  cases machine.tree.makeDirectory path <;> simp

theorem acceptDirectory {path : Path} {cause : DiskError} (hcause : cause ≠ .nullInPath) :
    NullFree (Host.acceptDirectory path cause : StateM Machine _) := by
  unfold Host.acceptDirectory
  rw [if_neg hcause]
  refine .bind (.isDirectory path) fun answer hanswer => ?_
  rcases answer with other | answer
  · exact .pure (by simpa using hanswer)
  · cases answer
    · exact .pure (by simpa using hcause)
    · exact .pure (by simp)

theorem makeMissing {path : Path} (hnull : path.hasNull = false) :
    NullFree (Host.makeMissing path : StateM Machine _) := by
  unfold Host.makeMissing
  refine .bind (.makeDirectory hnull) fun made hmade => ?_
  rcases made with cause | _
  · simp only
    split
    · exact .pure (by simpa using hmade)
    · exact .acceptDirectory (by simpa using hmade)
  · exact .pure (by simp)

/-- Directories are made for the path and for the paths above it. -/
theorem ensureParts (anchor : Anchor) (reversed : List String)
    (hnull : ∀ part ∈ reversed, '\x00' ∉ part.toList) :
    NullFree (Host.ensureParts anchor reversed : StateM Machine _) := by
  induction reversed with
  | nil => exact .makeMissing rfl
  | cons part above ih =>
      have hself : (⟨anchor, (part :: above).reverse⟩ : Path).hasNull = false :=
        Path.hasNull_eq_false_iff.2 fun other hother => hnull other (List.mem_reverse.1 hother)
      have habove := ih fun other hother => hnull other (List.mem_cons_of_mem part hother)
      unfold Host.ensureParts
      refine .bind (.makeDirectory hself) fun made hmade => ?_
      rcases made with cause | _
      · have hcause : cause ≠ .nullInPath := by simpa using hmade
        simp only
        split
        · refine .bind habove fun ensured hensured => ?_
          rcases ensured with other | _
          · exact .pure (by simpa using hensured)
          · exact .makeMissing hself
        · exact .acceptDirectory hcause
      · exact .pure (by simp)

theorem ensureParent {path : Path} (hnull : path.hasNull = false) :
    NullFree (Host.ensureDirectory path.parent : StateM Machine _) := by
  refine ensureParts _ _ fun part hpart => ?_
  exact Path.hasNull_eq_false_iff.1 hnull part
    (List.dropLast_subset path.parts (List.mem_reverse.1 hpart))

end NullFree

/-- Where no null character occurs, none is the reason why a file cannot be made. -/
theorem writeNew_ne_nullInPath (machine : Machine) (hnull : path.hasNull = false)
    (text : String) :
    (machine.writeNew path text).1 ≠ .refused .nullInPath ∧
      (machine.writeNew path text).1 ≠ .cutShort .nullInPath := by
  unfold writeNew
  rw [hnull]
  cases machine.faults.create with
  | some reason => simp
  | none =>
      simp only [Bool.false_eq_true, if_false]
      cases machine.faults.write with
      | some reason => cases machine.tree.create path [] <;> simp
      | none => cases machine.tree.create path (Text.Utf8.encode text.toList) <;> simp

end Machine

/-! ## The two steps -/

/--
A question of publishing that has no answer: whether something is at the path of the document, or
whether something is under the archive name of what is there.
-/
inductive Unanswered (tree : FileTree) (path archive : Path) : Path → Prop where
  | target (hlong : tree.find path = .error .nameTooLong) : Unanswered tree path archive path
  | archive {entry : Entry} (hthere : tree.find path = .ok entry)
      (hlong : tree.find archive = .error .nameTooLong) : Unanswered tree path archive archive

/-- What has no answer is about a path that is too long itself or leads through a long name. -/
theorem Unanswered.tooLong {tree : FileTree} {path archive asked : Path}
    (h : Unanswered tree path archive asked) :
    FileTree.pathLimit ≤ asked.text.utf8ByteSize ∨ tree.HasLongName asked.parts := by
  have hfind : tree.find asked = .error .nameTooLong := by
    cases h with
    | target hlong => exact hlong
    | archive _ hlong => exact hlong
  rcases FileTree.find_eq_error hfind with habsent | ⟨-, hlong⟩
  · simp [Obstacle.meansAbsent] at habsent
  · exact hlong

section Steps

variable {machine : Machine} {path : Path} {now : Instant} {newName : String}

/-- The first step ends where a question has no answer. -/
theorem run_setAside_unanswered (hname : path.archiveName now = .ok newName)
    (hnull : path.hasNull = false) (hnew : (path.withName newName).hasNull = false) {asked : Path}
    (h : Unanswered machine.tree path (path.withName newName) asked) :
    machine.run (setAside path now) =
      (.error (.disk (.refused .nameTooLong asked none)), machine) := by
  unfold setAside
  simp only [Machine.run_bind, Machine.run_require, Machine.host_present]
  cases h with
  | target hlong =>
      rw [Machine.present_eq_error_iff.2 ⟨hnull, hlong, rfl⟩]
      rfl
  | archive hthere hlong =>
      rw [Machine.present_eq_true_iff.2 ⟨hnull, _, hthere⟩]
      simp only [Except.mapError, if_true, Machine.run_bind, Machine.run_liftM, hname,
        Machine.run_require, Machine.host_present]
      rw [Machine.present_eq_error_iff.2 ⟨hnew, hlong, rfl⟩]
      rfl

/-- Where every question has an answer, the failures of the first step are reported. -/
theorem kind?_of_run_setAside (hname : path.archiveName now = .ok newName)
    (hnull : path.hasNull = false) (hnew : (path.withName newName).hasNull = false)
    (hanswered : ∀ asked, ¬Unanswered machine.tree path (path.withName newName) asked)
    {failure : Failure} (h : (machine.run (setAside path now)).1 = .error failure) :
    failure.kind? = some .filesystem := by
  unfold setAside at h
  simp only [Machine.run_bind, Machine.run_require, Machine.host_present] at h
  cases hpresent : machine.present path with
  | error cause =>
      exact absurd (.target (Machine.present_eq_error_iff.1 hpresent).2.1) (hanswered path)
  | ok answer =>
      cases answer with
      | false => simp [hpresent, Except.mapError] at h
      | true =>
          rcases Machine.present_eq_true_iff.1 hpresent with ⟨-, entry, hthere⟩
          simp only [hpresent, Except.mapError, if_true, Machine.run_bind, Machine.run_liftM,
            hname, Machine.run_require, Machine.host_present] at h
          cases hfree : machine.present (path.withName newName) with
          | error cause =>
              exact absurd (.archive hthere (Machine.present_eq_error_iff.1 hfree).2.1)
                (hanswered _)
          | ok taken =>
              cases taken with
              | true =>
                  simp only [hfree, if_true] at h
                  cases h
                  rfl
              | false =>
                  simp only [hfree, Except.mapError, Bool.false_eq_true, if_false,
                    Machine.run_bind, Machine.run_announce, Machine.run_require,
                    Machine.host_rename] at h
                  rcases machine.rename_cases path newName with
                    ⟨after, hrename⟩ | ⟨cause, hrename⟩
                  · simp [hrename] at h
                  · have hcause := machine.rename_ne_nullInPath hnull hnew
                    rw [show machine.rename path newName = _ from hrename machine.journal] at hcause
                    simp only [hrename] at h
                    cases h
                    exact Machine.kind?_failureOf (by simpa using hcause) fun _ => rfl

/-- Where no null character occurs, the failures of the second step are reported. -/
theorem kind?_of_run_writeText (hnull : path.hasNull = false) {text : String}
    {archive : Option Path} {failure : Failure}
    (h : (machine.run (writeText path text archive)).1 = .error failure) :
    failure.kind? = some .filesystem := by
  have hwrapped : ∀ cause, (Failure.notWritten path cause archive).kind? = some .filesystem :=
    fun _ => rfl
  unfold writeText at h
  have hmade := Machine.NullFree.ensureParent hnull machine
  rcases GrowsOnly.ensureParent path machine with ⟨made, middle, hrun, -⟩
  rw [hrun] at hmade
  simp only [Machine.run_bind, Machine.run_require, hrun] at h
  cases made with
  | error cause =>
      cases h
      exact Machine.kind?_failureOf (by simpa using hmade) hwrapped
  | ok _ =>
      simp only [Except.mapError, Machine.run_lift, Machine.host_writeNew] at h
      have hnew := Machine.writeNew_ne_nullInPath { machine with tree := middle } hnull text
      rcases Machine.writeNew_cases { machine with tree := middle } path text with
        ⟨cause, hcreate⟩ | ⟨after, -, hcreate⟩ | ⟨after, reason, -, -, hempty, hcreate⟩
      · rw [hcreate] at hnew
        simp only [hcreate, Machine.run_giveUp] at h
        cases h
        exact Machine.kind?_failureOf (by simpa using hnew.1) hwrapped
      · simp [hcreate] at h
      · simp only [hcreate, Machine.run_bind] at h
        obtain ⟨left, journal, hdiscard, -⟩ :=
          Machine.run_discard { machine with tree := after } hnull hempty
        simp only [hdiscard, Machine.run_giveUp] at h
        cases h
        exact Machine.kind?_failureOf (by simp) hwrapped

end Steps

/-! ## Publishing -/

/-- The archive of a compiled document always has a path. -/
theorem exists_archivedAt {settings : Settings} {obstacle : Option String} {sheet : Sheet}
    {document : Document} (hdocument : (compile settings obstacle sheet).outcome = .ok document)
    (now : Instant) : ∃ newName, document.path.archiveName now = .ok newName ∧
      document.path.archivedAt now = .ok (document.path.withName newName) := by
  rw [path_of_compile hdocument, outputPath, Path.archivedAt, Path.archiveName, Path.name?_child]
  exact ⟨_, rfl, rfl⟩

/-- Where every question has an answer, the failures of publishing are reported. -/
theorem kind?_of_run_publish {machine : Machine} {document : Document} {now : Instant}
    {newName : String} (hname : document.path.archiveName now = .ok newName)
    (hnull : document.path.hasNull = false)
    (hanswered : ∀ asked,
      ¬Unanswered machine.tree document.path (document.path.withName newName) asked)
    {failure : Failure} (h : (machine.run (publish document now)).1 = .error failure) :
    failure.kind? = some .filesystem := by
  simp only [publish, Machine.run_bind] at h
  have hfirst := fun other hother => @kind?_of_run_setAside machine document.path now newName hname
    hnull (Path.hasNull_archive hnull hname) hanswered other hother
  rcases haside : machine.run (setAside document.path now) with ⟨other | archive, middle⟩
  · rw [haside] at h hfirst
    exact hfirst failure h
  · have hsecond := fun other hother => @kind?_of_run_writeText middle document.path hnull
      document.text archive other hother
    simp only [haside] at h
    rcases hwritten : middle.run (writeText document.path document.text archive) with
      ⟨other | _, after⟩
    · simp only [hwritten] at h hsecond
      exact hsecond failure (congrArg Except.error (Except.error.inj h))
    · simp [hwritten] at h

/-- Publishing ends where a question has no answer, and nothing changes. -/
theorem run_publish_unanswered {machine : Machine} {document : Document} {now : Instant}
    {newName : String} (hname : document.path.archiveName now = .ok newName)
    (hnull : document.path.hasNull = false) {asked : Path}
    (h : Unanswered machine.tree document.path (document.path.withName newName) asked) :
    machine.run (publish document now) =
      (.error (.disk (.refused .nameTooLong asked none)), machine) := by
  rw [publish, Machine.run_bind,
    run_setAside_unanswered hname hnull (Path.hasNull_archive hnull hname) h]

/--
Publishing a compiled document either returns or fails with a failure that is reported under the
class of file operations, unless a question has no answer.  Then, and only then, it fails with a
bare failure of the disk, and nothing has changed.  This takes a path that is too long or a name on
the way that is.
-/
theorem publish_reported {settings : Settings} {obstacle : Option String} {sheet : Sheet}
    {document : Document} (hdocument : (compile settings obstacle sheet).outcome = .ok document)
    (hnull : '\x00' ∉ settings.outputDir.toList) (machine : Machine) (now : Instant) :
    let run := machine.run (publish document now)
    ∃ archive, document.path.archivedAt now = .ok archive ∧
      ((∀ asked, ¬Unanswered machine.tree document.path archive asked) →
        ∀ failure, run.1 = .error failure → failure.kind? = some .filesystem) ∧
      ∀ asked, Unanswered machine.tree document.path archive asked →
        run.1 = .error (.disk (.refused .nameTooLong asked none)) ∧
        run.2.tree = machine.tree ∧
        (FileTree.pathLimit ≤ asked.text.utf8ByteSize ∨
          machine.tree.HasLongName asked.parts) := by
  intro run
  rcases exists_archivedAt hdocument now with ⟨newName, hname, harchive⟩
  have hpath : document.path.hasNull = false := by
    rw [path_of_compile hdocument]
    exact hasNull_outputPath hnull sheet.size
  refine ⟨_, harchive, ?_, ?_⟩
  · exact fun hanswered failure => kind?_of_run_publish hname hpath hanswered
  · intro asked hasked
    have hends : run = _ := run_publish_unanswered hname hpath hasked
    exact ⟨congrArg Prod.fst hends, congrArg (·.2.tree) hends, hasked.tooLong⟩

/-- A machine with an output that cannot be renamed. -/
def stuckMachine : Machine :=
  { tidyMachine with faults := { Faults.none with rename := some "read-only" } }

/-- Both questions about an output have an answer, and that it cannot be renamed is reported. -/
theorem publish_reported_stuckMachine :
    ∃ failure, (stuckMachine.run (publish tidyDocument midnight)).1 = .error failure ∧
      failure.kind? = some .filesystem := by
  have hcompile : (compile { Settings.standard with outputDir := "out" } none emptySheet).outcome =
      .ok tidyDocument := rfl
  have hends : (stuckMachine.run (publish tidyDocument midnight)).1 =
      .error (.notArchived tidyDocument.path (.reported "read-only")) := by decide +kernel
  obtain ⟨archive, harchive, hreported, -⟩ :=
    publish_reported hcompile (by decide) stuckMachine midnight
  have hwhich : tidyDocument.path.archivedAt midnight =
      .ok (tidyDocument.path.withName midnightName) := by decide +kernel
  obtain rfl : tidyDocument.path.withName midnightName = archive :=
    Except.ok.inj (hwhich.symm.trans harchive)
  refine ⟨_, hends, hreported ?_ _ hends⟩
  intro asked hasked
  cases hasked with
  | target hlong =>
      have hthere : stuckMachine.tree.present tidyDocument.path = .ok true := by decide +kernel
      exact FileTree.find_ne_of_present hthere hlong
  | archive _ hlong =>
      have hfree : stuckMachine.tree.present (tidyDocument.path.withName midnightName) =
          .ok false := by decide +kernel
      exact FileTree.find_ne_of_present hfree hlong

/-! ## A directory with a long name -/

/-- A path that begins with a name that is too long leads nowhere. -/
theorem FileTree.find_of_long {tree : FileTree} {name : String} {rest : List String}
    (hhere : tree.at? tree.here = some .directory) (hdot : name ≠ ".") (hdots : name ≠ "..")
    (hlong : nameLimit < name.utf8ByteSize) :
    tree.find ⟨.here, name :: rest⟩ = .error .nameTooLong := by
  unfold find resolve checkLength
  split
  · simp only [bind, Except.bind, startOf, walk_long hhere linkLimit rest hdot hdots hlong]
  · rfl

/-- A name of so many letters. -/
def letters (count : Nat) : String :=
  String.ofList (List.replicate count 'a')

theorem utf8ByteSize_letters (count : Nat) : (letters count).utf8ByteSize = count := by
  have hletter : 'a'.utf8Size = 1 := by decide
  rw [letters]
  induction count with
  | zero => rfl
  | succ count ih =>
      rw [List.replicate_succ, String.ofList_cons, String.utf8ByteSize_append,
        String.utf8ByteSize_singleton, ih, hletter, Nat.add_comm]

theorem not_mem_letters {c : Char} (hc : c ≠ 'a') (count : Nat) : c ∉ (letters count).toList := by
  rw [letters, String.toList_ofList]
  exact fun hmem => hc (List.eq_of_mem_replicate hmem)

theorem letters_ne {count : Nat} {other : String} (h : other.utf8ByteSize ≠ count) :
    letters count ≠ other := by
  rintro rfl
  exact h (utf8ByteSize_letters count)

/-- A name of some letters is a path of one part. -/
theorem parse_letters {count : Nat} (h : 1 < count) :
    Path.parse (letters count) = ⟨.here, [letters count]⟩ := by
  have hslash := not_mem_letters (by decide : '/' ≠ 'a') count
  have hempty : letters count ≠ "" := letters_ne fun heq => by simp at heq; omega
  have hdot : letters count ≠ "." := letters_ne fun heq => by
    have hone : ".".utf8ByteSize = 1 := rfl
    omega
  have hhead : (letters count).toList.takeWhile (· = '/') = [] := by
    cases hname : (letters count).toList with
    | nil => rfl
    | cons c rest =>
        have hc : c ≠ '/' := by
          rintro rfl
          exact hslash (hname ▸ List.mem_cons_self)
        simp [hc]
  simp only [Path.parse, Path.meaningfulParts, hhead, Text.pieces_of_not_mem hslash]
  simp [hempty, hdot, Anchor.ofSeparators]

/-- Whether an output is in a directory with such a name has no answer, and this is not reported. -/
theorem longName_unreported :
    let settings := { Settings.standard with outputDir := letters 256 }
    let document := emptyDocument (letters 256)
    let failure := Failure.disk (.refused .nameTooLong document.path none)
    (pressText settings none smallHeader unknownSource).outcome = .ok document ∧
      '\x00' ∉ settings.outputDir.toList ∧
      (tidyMachine.run (publish document midnight)).1 = .error failure ∧ failure.kind? = none := by
  intro settings document failure
  have hnull : '\x00' ∉ settings.outputDir.toList := not_mem_letters (by decide) 256
  have hcompile : (compile settings none ⟨smallHeader, 5, unknownSource⟩).outcome =
      .ok document := rfl
  have hfind : tidyMachine.tree.find document.path = .error .nameTooLong := by
    have hpath : document.path = ⟨.here, letters 256 :: ["icons5.rs"]⟩ := by
      rw [path_of_compile hcompile, outputPath, parse_letters (by decide)]
      rfl
    rw [hpath]
    refine FileTree.find_of_long rfl (letters_ne (by decide)) (letters_ne (by decide)) ?_
    rw [utf8ByteSize_letters]
    decide
  refine ⟨?_, hnull, ?_, rfl⟩
  · rw [outcome_pressText, declaredSize_smallHeader]
    exact hcompile
  · rcases exists_archivedAt hcompile midnight with ⟨newName, hname, -⟩
    have hpath : document.path.hasNull = false := by
      rw [path_of_compile hcompile]
      exact hasNull_outputPath hnull 5
    rw [run_publish_unanswered hname hpath (.target hfind)]

end IconPress
