import VarsAdvisor.Proofs.Except
import VarsAdvisor.Proofs.Workspace.Select
import VarsAdvisor.Settings.Load

/-!
# Empty variables

A variable of the environment that is empty should count as not set. For the fields of the settings it
does (`Settings.formOf_emptied`). The variable that names the file of options does not: an empty name
is read as the path of the working directory, which is there and no file, so nothing is loaded.
-/

namespace VarsAdvisor

/-! ## Changed environments -/

namespace Environment

/-- The environment with variables set to the empty text. -/
def emptied (env : Environment) (names : List String) : Environment :=
  names.foldl (fun env name => Table.put env name "") env

/-- The environment without variables. -/
def unset (env : Environment) (names : List String) : Environment :=
  names.foldl Table.erase env

theorem get?_emptied (env : Environment) (names : List String) (name : String) :
    (env.emptied names).get? name = if name ∈ names then some "" else env.get? name := by
  unfold emptied
  induction names generalizing env with
  | nil => rfl
  | cons first rest ih =>
    rw [List.foldl_cons, ih, Table.get?_put]
    grind

theorem get?_unset (env : Environment) (names : List String) (name : String) :
    (env.unset names).get? name = if name ∈ names then none else env.get? name := by
  unfold unset
  induction names generalizing env with
  | nil => rfl
  | cons first rest ih =>
    rw [List.foldl_cons, ih, Table.get?_erase]
    grind

end Environment

namespace Settings

open VarsAdvisor.Environment

variable {t : Tree} {env : Environment} {names : List String}

theorem formOf_emptied (env : Environment) (names : List String) :
    formOf (env.emptied names) = formOf (env.unset names) := by
  refine List.filterMap_congr fun ⟨field, name⟩ _ => ?_
  dsimp only
  rw [get?_emptied, get?_unset]
  by_cases h : name ∈ names
  · simp [h]
  · simp [h]

/-! ## The file of options -/

theorem optionsPath_emptied (h : optionsVariable ∈ names) :
    optionsPath (env.emptied names) none = ⟨"", []⟩ := by
  rw [optionsPath, get?_emptied, if_pos h]
  rfl

theorem optionsPath_unset (h : optionsVariable ∈ names) :
    optionsPath (env.unset names) none = ⟨"", ["copilot_options.json"]⟩ := by
  rw [optionsPath, get?_unset, if_pos h]
  rfl

theorem optionsPath_of_not_mem (h : optionsVariable ∉ names) :
    optionsPath (env.emptied names) none = optionsPath (env.unset names) none := by
  rw [optionsPath, optionsPath, get?_emptied, get?_unset, if_neg h, if_neg h]

theorem ne_directory_of_mapError {α ε : Type} {x : Except ε α} {f : ε → LoadError} {p : Path}
    (hf : ∀ e, f e ≠ .directory p) : x.mapError f ≠ .error (.directory p) := by
  intro h
  obtain ⟨e, -, he⟩ := except_mapError_error.1 h
  exact hf e he

theorem eq_of_ofFile_directory {d : Settings} {p q : Path}
    (h : d.ofFile t q = .error (.directory p)) : p = q := by
  unfold ofFile at h
  split at h
  · cases h
    rfl
  · rcases except_bind_error.1 h with h | ⟨text, -, h⟩
    · exact absurd h (ne_directory_of_mapError (by simp))
    rcases except_bind_error.1 h with h | ⟨form, -, h⟩
    · exact absurd h (ne_directory_of_mapError (by simp))
    · exact absurd h (ne_directory_of_mapError (by simp))

/-- A directory is reported only as the file of options itself. -/
theorem eq_of_load_directory {named : Option String} {p : Path}
    (h : load t env named = .error (.directory p)) : p = optionsPath env named := by
  unfold load at h
  dsimp only at h
  split at h
  · cases h
  · split at h
    · exact eq_of_ofFile_directory h
    · exact absurd h (ne_directory_of_mapError (by simp))

/-- An empty name is that of the working directory. -/
theorem load_emptied (h : t.hasDirectory t.base = true) (hnames : optionsVariable ∈ names) :
    load t (env.emptied names) none = .error (.directory ⟨"", []⟩) := by
  have hshort : t.asksLongName ⟨"", []⟩ = false := rfl
  have hdir : t.isDirectory ⟨"", []⟩ = true := Tree.isDirectory_iff.2 ⟨t.base, rfl, h⟩
  have hpath : t.hasPath ⟨"", []⟩ = true := rfl
  unfold load ofFile
  simp [optionsPath_emptied hnames, hshort, hpath, hdir]

/-- **Empty variables count as not set exactly if the one for the file of options is none of them.** -/
theorem load_emptied_eq_load_unset_iff (h : t.hasDirectory t.base = true) (env : Environment)
    (names : List String) :
    (load t (env.emptied names) none = load t (env.unset names) none ↔ optionsVariable ∉ names) ∧
      (optionsVariable ∈ names →
        load t (env.emptied names) none = .error (.directory ⟨"", []⟩)) := by
  refine ⟨⟨?_, ?_⟩, load_emptied h⟩
  · intro hload hnames
    rw [load_emptied h hnames] at hload
    have hpath := eq_of_load_directory hload.symm
    rw [optionsPath_unset hnames] at hpath
    cases hpath
  · intro hnames
    unfold load
    rw [optionsPath_of_not_mem hnames, formOf_emptied]

theorem load_emptied_eq_load_unset_of_model :
    let t := Tree.add ⟨[], ["ws"]⟩ ["ws", "v.yml"] (.file [])
    let env : Environment := [("LLM_MODEL", "m"), ("YAMALE_PATH", "y")]
    t.hasDirectory t.base = true ∧
      load t (env.emptied ["LLM_MODEL", "TOOL_TIMEOUT"]) none =
        load t (env.unset ["LLM_MODEL", "TOOL_TIMEOUT"]) none := by
  intro t env
  have hbase : t.hasDirectory t.base = true := by decide
  exact ⟨hbase, (load_emptied_eq_load_unset_iff hbase env _).1.2 (by decide)⟩

/-- With an empty name for the file of options nothing is loaded, and without one the standard
settings are. -/
theorem load_of_empty_options :
    let t := Tree.add ⟨[], ["ws"]⟩ ["ws", "v.yml"] (.file [])
    load t [(optionsVariable, "")] none = .error (.directory ⟨"", []⟩) ∧
      load t [] none = .ok (standard ⟨"/", ["ws"]⟩) :=
  ⟨rfl, rfl⟩

end Settings

end VarsAdvisor
