import VarsAdvisor.Proofs.Text.Parts
import VarsAdvisor.Proofs.Workspace.Samples
import VarsAdvisor.Service.Desk

/-!
# Workflows keep to their directories

The name of a workflow is read as part of a pattern, so it has to stand for one directory and nothing
else. An admitted name does: it has no character of a pattern and no slash, and does not lead to a
directory above (`pattern_workflow`). Hence its schemas and samples lie in directories of that very
name, wherever below the root these are (`Tree.mem_files_iff`). The single point is the exception:
it is dropped when the pattern is read, and the directory of all workflows is taken instead. A search
for an admitted name can only fail at names that are too long (`Tree.workflowDirectories_error`).
-/

namespace VarsAdvisor

open VarsAdvisor.Text

variable {workflow : String}

/-! ## The pattern of a workflow -/

theorem not_mem_workflow (h : isWorkflowName workflow = true) {c : Char}
    (hc : (isWord c || c == '.' || c == '-') = false) : c ∉ workflow.toList := by
  unfold isWorkflowName at h
  rw [Bool.and_eq_true, Bool.and_eq_true, List.all_eq_true] at h
  intro hmem
  rw [h.1.2 c hmem] at hc
  cases hc

theorem workflow_ne_empty (h : isWorkflowName workflow = true) : workflow ≠ "" := by
  rintro rfl
  cases h

theorem workflow_ne_up (h : isWorkflowName workflow = true) : workflow ≠ ".." := by
  rintro rfl
  exact absurd h (by decide)

theorem isName_workflow (h : isWorkflowName workflow = true) (hpoint : workflow ≠ ".") :
    IsName workflow :=
  ⟨workflow_ne_empty h, hpoint, not_mem_workflow h (by decide)⟩

theorem component_workflow (h : isWorkflowName workflow = true) :
    Pattern.component workflow = .ok (.name workflow) := by
  have hstar : '*' ∉ workflow.toList := not_mem_workflow h (by decide)
  have hstars : workflow ≠ "**" := by
    rintro rfl
    exact hstar (by decide)
  have hoccurs : ¬ occurs ['*', '*'] workflow.toList = true := by
    rw [occurs_iff]
    exact fun hstars => hstar (hstars.subset List.mem_cons_self)
  have hplain : ¬ (workflow.toList.any fun c => c == '*' || c == '?' || c == '[') = true := by
    rw [List.any_eq_true]
    rintro ⟨c, hc, hmark⟩
    refine not_mem_workflow h ?_ hc
    simp only [Bool.or_eq_true, beq_iff_eq, or_assoc] at hmark
    rcases hmark with rfl | rfl | rfl <;> decide
  unfold Pattern.component
  rw [if_neg hstars, if_neg (workflow_ne_up h), if_neg hoccurs, if_neg hplain]

/-- The way to a workflow from the directory in which there are workflows. A single point is dropped
from it. -/
def workflowWay (workflow : String) : List String :=
  if workflow = "." then ["workflows"] else ["workflows", workflow]

theorem workflowWay_of_ne (h : workflow ≠ ".") : workflowWay workflow = ["workflows", workflow] :=
  if_neg h

theorem toList_pattern (workflow : String) :
    (s!"**/workflows/{workflow}").toList = "**/workflows/".toList ++ workflow.toList :=
  String.toList_append

theorem partsOf_pattern (h : isWorkflowName workflow = true) (hpoint : workflow ≠ ".") :
    Path.partsOf (s!"**/workflows/{workflow}").toList = ["**", "workflows", workflow] := by
  have hstars : IsName "**" := ⟨by decide, by decide, by decide⟩
  have hworkflows : IsName "workflows" := ⟨by decide, by decide, by decide⟩
  have hnames : ∀ c ∈ ["**", "workflows", workflow], IsName c := by
    rw [List.forall_mem_cons, List.forall_mem_cons, List.forall_mem_singleton]
    exact ⟨hstars, hworkflows, isName_workflow h hpoint⟩
  rw [← Path.partsOf_join hnames, toList_pattern]
  rfl

theorem pattern_workflow (h : isWorkflowName workflow = true) :
    Pattern.ofText s!"**/workflows/{workflow}" =
      .ok ⟨.descend :: (workflowWay workflow).map .name, false⟩ := by
  by_cases hpoint : workflow = "."
  · subst hpoint
    decide
  · have hslash : ((s!"**/workflows/{workflow}").toList.getLast? == some '/') = false := by
      have hne : workflow.toList ≠ [] := fun hnil =>
        workflow_ne_empty h (String.toList_injective hnil)
      have hlast : workflow.toList.getLast hne ≠ '/' := fun heq =>
        not_mem_workflow h (by decide) (heq ▸ List.getLast_mem hne)
      rw [toList_pattern, List.getLast?_append_of_ne_nil _ hne, List.getLast?_eq_some_getLast hne]
      exact beq_eq_false_iff_ne.2 fun heq => hlast (Option.some.inj heq)
    unfold Pattern.ofText
    rw [partsOf_pattern h hpoint, hslash, workflowWay_of_ne hpoint]
    simp only [List.mapM_cons, List.mapM_nil, component_workflow h]
    rfl

/-! ## Ways below a path -/

/-- The path with further components. -/
def Path.under (p : Path) (parts : List String) : Path :=
  { p with parts := p.parts ++ parts }

theorem Path.under_nil (p : Path) : p.under [] = p := by
  rw [under, List.append_nil]

theorem Path.under_append (p : Path) (parts more : List String) :
    p.under (parts ++ more) = (p.under parts).under more := by
  rw [under, ← List.append_assoc]
  rfl

theorem Path.under_cons (p : Path) (c : String) (parts : List String) :
    p.under (c :: parts) = (p.child c).under parts :=
  p.under_append [c] parts

theorem Path.under_child_child (p : Path) (parts : List String) (kind name : String) :
    ((p.under parts).child kind).child name = p.under (parts ++ [kind, name]) := by
  simp [under, child]

namespace Tree

variable {t : Tree} {p d root : Path} {parts names : List String}

theorem locate?_under (t : Tree) (p : Path) (parts : List String) :
    t.locate? (p.under parts) = (t.locate? p).bind (parts.foldlM t.enter?) :=
  List.foldlM_append

theorem hasPath_iff : t.hasPath p = true ↔ ∃ place, t.locate? p = some place :=
  Option.isSome_iff_exists

/-- What leads on is a directory. -/
theorem isDirectory_of_under (hne : parts ≠ []) (h : t.hasPath (p.under parts) = true) :
    t.isDirectory p = true := by
  obtain ⟨c, rest, rfl⟩ := List.exists_cons_of_ne_nil hne
  obtain ⟨place, hplace⟩ := hasPath_iff.1 h
  rw [locate?_under] at hplace
  obtain ⟨start, hstart, hplace⟩ := Option.bind_eq_some_iff.1 hplace
  rw [List.foldlM_cons] at hplace
  obtain ⟨next, hnext, -⟩ := Option.bind_eq_some_iff.1 hplace
  exact isDirectory_iff.2 ⟨start, hstart, (enter?_eq_some_iff.1 hnext).1⟩

theorem hasPath_of_isDirectory (h : t.isDirectory p = true) : t.hasPath p = true := by
  obtain ⟨place, hplace, -⟩ := isDirectory_iff.1 h
  exact hasPath_iff.2 ⟨place, hplace⟩

/-- Names lead to the one path that they make up, if anything is there. -/
theorem mem_selectFrom_names : p ∈ t.selectFrom false (names.map .name) d ↔
    p = d.under names ∧ (names ≠ [] → t.hasPath p = true) := by
  induction names generalizing d with
  | nil => simp [selectFrom, Path.under_nil]
  | cons name rest ih =>
    rw [List.map_cons, selectFrom, selectOne, Path.under_cons]
    split
    · next hleads =>
      rw [List.flatMap_singleton, ih]
      refine and_congr_right ?_
      rintro rfl
      cases rest with
      | nil => simpa [leadsOn, Path.under_nil] using hleads
      | cons => simp
    · next hleads =>
      refine iff_of_false (by simp) ?_
      rintro ⟨rfl, hpath⟩
      have hpath := hpath (List.cons_ne_nil _ _)
      refine hleads ?_
      cases rest with
      | nil => simpa [leadsOn, Path.under_nil] using hpath
      | cons => simpa [leadsOn] using isDirectory_of_under (List.cons_ne_nil _ _) hpath

theorem mem_below {place above : List String} : above ∈ t.below place ↔
    above ≠ [] ∧ (place ++ above, Entry.directory) ∈ t.entries := by
  unfold below
  rw [List.mem_filterMap]
  constructor
  · rintro ⟨⟨key, e⟩, hkey, habove⟩
    dsimp only at habove
    rw [Option.ite_none_right_eq_some] at habove
    obtain ⟨⟨rfl, hprefix, hne⟩, habove⟩ := habove
    obtain ⟨rest, rfl⟩ := List.isPrefixOf_iff_prefix.1 hprefix
    rw [List.drop_left, Option.some.injEq] at habove
    subst habove
    exact ⟨fun hnil => hne (by rw [hnil, List.append_nil]), hkey⟩
  · rintro ⟨hne, hkey⟩
    refine ⟨_, hkey, ?_⟩
    have hplace : place ≠ place ++ above := fun heq => hne (List.self_eq_append_right.1 heq)
    simp [hplace]

/-- No place in the tree has a double point as a component. -/
def IsPlain (t : Tree) : Prop :=
  ∀ place ∈ t.entries.keys, ".." ∉ place

instance (t : Tree) : Decidable t.IsPlain :=
  inferInstanceAs (Decidable (∀ place ∈ _, _))

theorem exists_under_of_descend (ht : t.IsPlain) {more : Bool}
    (h : d ∈ t.selectOne root more .descend) : ∃ above, ".." ∉ above ∧ d = root.under above := by
  have hroot : ∃ above, ".." ∉ above ∧ root = root.under above :=
    ⟨[], List.not_mem_nil, root.under_nil.symm⟩
  rw [selectOne] at h
  split at h
  · next place _ =>
    rcases List.mem_cons.1 h with rfl | h
    · exact hroot
    · obtain ⟨above, habove, rfl⟩ := List.mem_map.1 h
      have hkey := ht _ (List.mem_map_of_mem (f := (·.1)) (mem_below.1 habove).2)
      exact ⟨above, fun hup => hkey (List.mem_append_right place hup), rfl⟩
  · rw [List.mem_singleton.1 h]
    exact hroot

theorem under_mem_descend {above : List String} (hplain : ".." ∉ above)
    (h : t.isDirectory (root.under above) = true) (more : Bool) :
    root.under above ∈ t.selectOne root more .descend := by
  obtain ⟨place, hplace, hdir⟩ := isDirectory_iff.1 h
  rw [locate?_under] at hplace
  obtain ⟨start, hstart, hplace⟩ := Option.bind_eq_some_iff.1 hplace
  obtain ⟨rfl, -⟩ := of_foldlM_enter? hplain hplace
  rw [selectOne, hstart, List.mem_cons]
  by_cases hnil : above = []
  · rw [hnil, Path.under_nil]
    exact .inl rfl
  · refine .inr (List.mem_map_of_mem (f := root.under) (mem_below.2 ⟨hnil, ?_⟩))
    rw [hasDirectory, beq_iff_eq, entry?,
      if_neg (List.append_ne_nil_of_right_ne_nil start hnil)] at hdir
    exact Table.mem_of_get? hdir

theorem workflowWay_ne_nil (workflow : String) : workflowWay workflow ≠ [] := by
  unfold workflowWay
  split <;> exact List.cons_ne_nil _ _

/-- The directories of a workflow are those below the root to which its way leads. -/
theorem mem_workflowDirectories (ht : t.IsPlain) (h : isWorkflowName workflow = true)
    {dirs : List Path} (hdirs : t.workflowDirectories root workflow = .ok dirs) :
    d ∈ dirs ↔ ∃ above, ".." ∉ above ∧ d = root.under (above ++ workflowWay workflow) ∧
      t.isDirectory d = true := by
  have hway := workflowWay_ne_nil workflow
  obtain ⟨pattern, hpattern, -, rfl⟩ := workflowDirectories_eq_ok_iff.1 hdirs
  rw [pattern_workflow h] at hpattern
  cases hpattern
  rw [List.mem_filter, mem_select, selectFrom, List.mem_flatMap]
  constructor
  · rintro ⟨⟨-, q, hq, hd⟩, hdir⟩
    obtain ⟨above, hplain, rfl⟩ := exists_under_of_descend ht hq
    obtain ⟨rfl, -⟩ := mem_selectFrom_names.1 hd
    exact ⟨above, hplain, (Path.under_append _ _ _).symm, hdir⟩
  · rintro ⟨above, hplain, rfl, hdir⟩
    have hpath := hasPath_of_isDirectory hdir
    refine ⟨⟨isDirectory_of_under (List.append_ne_nil_of_right_ne_nil above hway) hpath,
      root.under above, ?_, ?_⟩, hdir⟩
    · rw [Path.under_append] at hpath
      exact under_mem_descend hplain (isDirectory_of_under hway hpath) _
    · exact mem_selectFrom_names.2 ⟨Path.under_append _ _ _, fun _ => hpath⟩

/-! ## Names that are too long -/

theorem asksLongName_of_longPath? {slashed : Bool} {components : List Component}
    (h : t.longPath? slashed components d = some p) : t.asksLongName p = true := by
  induction components generalizing d with
  | nil => cases h
  | cons c rest ih =>
    rw [longPath?, Option.or_eq_some_iff] at h
    rcases h with h | ⟨-, h⟩
    · exact (Option.filter_eq_some_iff.1 h).2
    · obtain ⟨q, -, hq⟩ := List.exists_of_findSome?_eq_some h
      exact ih hq

theorem asksLongName_of_longIn? {pattern : Pattern} (h : t.longIn? root pattern = some p) :
    t.asksLongName p = true := by
  unfold longIn? at h
  split at h
  · next hroot =>
    cases h
    exact hroot
  · split at h
    · exact asksLongName_of_longPath? h
    · cases h

/-- An admitted name is a pattern, so only names that are too long end a search for it. -/
theorem workflowDirectories_error (h : isWorkflowName workflow = true) {e : PatternError}
    (he : t.workflowDirectories root workflow = .error e) :
    ∃ p, e = .nameTooLong p ∧ t.asksLongName p = true := by
  rw [workflowDirectories, pattern_workflow h, except_ok_bind] at he
  split at he
  · next p hp =>
    cases he
    exact ⟨p, rfl, asksLongName_of_longIn? hp⟩
  · cases he

/-! ## What a workflow has -/

/-- The path leads below the root: through any directories, along the way, into a directory of a
kind, and there to what has a name that ends as given. -/
def LiesAlong (t : Tree) (root : Path) (way : List String) (kind ending : String) (p : Path) :
    Prop :=
  ∃ base above name, ".." ∉ above ∧ ending.toList <:+ name.toList ∧
    p = root.under (above ++ way ++ [kind, name]) ∧
    t.locate? root = some base ∧ t.locate? p = some (base ++ (above ++ way ++ [kind, name]))

theorem up_not_mem_workflowWay (h : isWorkflowName workflow = true) :
    ".." ∉ workflowWay workflow := by
  unfold workflowWay
  split
  · decide
  · rw [List.mem_cons, List.mem_singleton, not_or]
    exact ⟨by decide, (workflow_ne_up h).symm⟩

theorem liesAlong_iff {way : List String} {kind ending : String} (hway : ".." ∉ way)
    (hkind : ".." ≠ kind) (hending : ¬ ending.toList <:+ "..".toList) :
    t.LiesAlong root way kind ending p ↔
      ∃ above name, ".." ∉ above ∧ ending.toList <:+ name.toList ∧
        p = root.under (above ++ way ++ [kind, name]) ∧ t.hasPath p = true := by
  constructor
  · rintro ⟨base, above, name, hplain, hname, hp, -, hplace⟩
    exact ⟨above, name, hplain, hname, hp, hasPath_iff.2 ⟨_, hplace⟩⟩
  · rintro ⟨above, name, hplain, hname, rfl, hpath⟩
    have hup : ".." ∉ above ++ way ++ [kind, name] := by
      simp only [List.mem_append, List.mem_cons, List.not_mem_nil, or_false, not_or]
      refine ⟨⟨hplain, hway⟩, hkind, ?_⟩
      rintro rfl
      exact hending hname
    obtain ⟨place, hplace⟩ := hasPath_iff.1 hpath
    obtain ⟨base, hbase, hwalk⟩ := Option.bind_eq_some_iff.1 (locate?_under t root _ ▸ hplace)
    obtain ⟨rfl, -⟩ := of_foldlM_enter? hup hwalk
    exact ⟨base, above, name, hplain, hname, rfl, hbase, hplace⟩

/-- The files of a kind of a workflow are all that lies along its way. -/
theorem mem_files_iff (ht : t.IsPlain) (h : isWorkflowName workflow = true) {kind ending : String}
    (hkind : ".." ≠ kind) (hending : ¬ ending.toList <:+ "..".toList) {files : List Path}
    (hfiles : (t.workflowDirectories root workflow).map
      (fun dirs => dirs.flatMap fun d => filesOf d kind ending t) = .ok files) :
    p ∈ files ↔ t.LiesAlong root (workflowWay workflow) kind ending p := by
  obtain ⟨dirs, hdirs, rfl⟩ := except_map_ok.1 hfiles
  rw [List.mem_flatMap, liesAlong_iff (up_not_mem_workflowWay h) hkind hending]
  constructor
  · rintro ⟨d, hd, hp⟩
    obtain ⟨above, hplain, rfl, -⟩ := (mem_workflowDirectories ht h hdirs).1 hd
    obtain ⟨name, hname, rfl, hpath⟩ := (mem_filesOf hending).1 hp
    exact ⟨above, name, hplain, hname, Path.under_child_child _ _ _ _, hpath⟩
  · rintro ⟨above, name, hplain, hname, rfl, hpath⟩
    refine ⟨_, (mem_workflowDirectories ht h hdirs).2 ⟨above, hplain, rfl, ?_⟩,
      (mem_filesOf hending).2 ⟨name, hname, (Path.under_child_child _ _ _ _).symm, hpath⟩⟩
    rw [Path.under_append] at hpath
    exact isDirectory_of_under (List.cons_ne_nil _ _) hpath

theorem mem_schemas_iff (ht : t.IsPlain) (h : isWorkflowName workflow = true)
    {schemas : List Path} (hschemas : t.schemas root workflow = .ok schemas) :
    p ∈ schemas ↔ t.LiesAlong root (workflowWay workflow) "schema" "_schema.yml" p :=
  mem_files_iff ht h (by decide) (by decide) hschemas

theorem mem_samples_iff (ht : t.IsPlain) (h : isWorkflowName workflow = true)
    {samples : List Path} (hsamples : t.samples root workflow = .ok samples) :
    p ∈ samples ↔ t.LiesAlong root (workflowWay workflow) "vars" ".yml" p :=
  mem_files_iff ht h (by decide) (by decide) hsamples

/-- What lies along the way of a workflow lies in a directory of its name, unless this name is the
point. -/
theorem LiesAlong.own_iff {kind ending : String}
    (h : t.LiesAlong root (workflowWay workflow) kind ending p) :
    t.LiesAlong root ["workflows", workflow] kind ending p ↔ workflow ≠ "." := by
  refine ⟨?_, fun hpoint => by rwa [workflowWay_of_ne hpoint] at h⟩
  rintro ⟨-, above, name, -, -, hp, -⟩ rfl
  obtain ⟨-, above', name', -, -, hp', -⟩ := h
  -- Third from the end stands the point by the one form, and by the other the directory of all.
  have hparts : above ++ ["workflows", ".", kind, name] = above' ++ ["workflows", kind, name'] := by
    simpa [Path.under, workflowWay] using hp.symm.trans hp'
  have hback := congrArg (fun parts => parts.reverse[2]?) hparts
  simp at hback

theorem mem_of_findSchema {playbook : String}
    (h : t.findSchema root workflow playbook = .ok (some p)) :
    ∃ schemas, t.schemas root workflow = .ok schemas ∧ p ∈ schemas := by
  obtain ⟨schemas, hschemas, hhead⟩ := except_map_ok.1 h
  have hmem : p ∈ eligible playbook schemas := List.mem_of_head? hhead
  refine ⟨schemas, hschemas, ?_⟩
  unfold eligible at hmem
  split at hmem <;> exact List.mem_of_mem_filter hmem

theorem text?_of_exampleVars {playbook text : String}
    (h : t.exampleVars root workflow playbook = .ok text) (hne : text ≠ "") :
    ∃ samples, t.samples root workflow = .ok samples ∧ ∃ p ∈ samples, t.text? p = some text := by
  obtain ⟨samples, hsamples, h⟩ := except_bind_ok.1 h
  obtain ⟨first, hfirst, h⟩ := except_bind_ok.1 h
  rw [except_mapError_ok] at hsamples
  rw [except_mapError_ok, readFirst_eq_ok_iff] at hfirst
  cases first with
  | none => exact absurd (Except.ok.inj h).symm hne
  | some text' =>
    cases h
    obtain ⟨p, hp, htext⟩ := List.exists_of_findSome?_eq_some hfirst.2.symm
    exact ⟨samples, hsamples, p, List.mem_of_mem_filter hp, htext⟩

theorem allExampleVars_eq {text : String} (h : t.allExampleVars root workflow = .ok text) :
    ∃ samples, t.samples root workflow = .ok samples ∧
      text = numberedExamples (samples.filterMap t.text?) := by
  obtain ⟨samples, hsamples, h⟩ := except_bind_ok.1 h
  obtain ⟨texts, htexts, h⟩ := except_bind_ok.1 h
  rw [except_mapError_ok] at hsamples
  rw [except_mapError_ok, readAll_eq_ok_iff] at htexts
  cases h
  exact ⟨samples, hsamples, by rw [htexts.2]⟩

/-- Of a workflow just those files are known that lie along a way: a schema that is found is one of
them, and so are the samples that are read. A search fails only at a name that is too long. -/
structure KeepsTo (t : Tree) (root : Path) (workflow : String) (way : List String) : Prop where
  searched : ∀ e, t.workflowDirectories root workflow = .error e →
    ∃ p, e = .nameTooLong p ∧ t.asksLongName p = true
  schemas : ∀ schemas, t.schemas root workflow = .ok schemas →
    ∀ p, p ∈ schemas ↔ t.LiesAlong root way "schema" "_schema.yml" p
  schema : ∀ playbook p, t.findSchema root workflow playbook = .ok (some p) →
    t.LiesAlong root way "schema" "_schema.yml" p
  samples : ∀ samples, t.samples root workflow = .ok samples →
    ∀ p, p ∈ samples ↔ t.LiesAlong root way "vars" ".yml" p
  sample : ∀ playbook text, t.exampleVars root workflow playbook = .ok text → text ≠ "" →
    ∃ p, t.LiesAlong root way "vars" ".yml" p ∧ t.text? p = some text
  allSamples : ∀ text, t.allExampleVars root workflow = .ok text →
    ∃ samples : List Path, (∀ p, p ∈ samples ↔ t.LiesAlong root way "vars" ".yml" p) ∧
      text = numberedExamples (samples.filterMap t.text?)

/-- **A workflow that is admitted keeps to its way**, which leads into a directory of its very name,
exactly unless the name is a single point. -/
theorem admitted_workflow_keeps_to_its_way (ht : t.IsPlain) (h : isWorkflowName workflow = true)
    (root : Path) : t.KeepsTo root workflow (workflowWay workflow) ∧
      ∀ kind ending p, t.LiesAlong root (workflowWay workflow) kind ending p →
        (t.LiesAlong root ["workflows", workflow] kind ending p ↔ workflow ≠ ".") := by
  refine ⟨?_, fun kind ending p => LiesAlong.own_iff⟩
  constructor
  case searched => exact fun e => workflowDirectories_error h
  case schemas => exact fun schemas hschemas p => mem_schemas_iff ht h hschemas
  case samples => exact fun samples hsamples p => mem_samples_iff ht h hsamples
  case schema =>
    intro playbook p hfind
    obtain ⟨schemas, hschemas, hp⟩ := mem_of_findSchema hfind
    exact (mem_schemas_iff ht h hschemas).1 hp
  case sample =>
    intro playbook text htext hne
    obtain ⟨samples, hsamples, p, hp, htext⟩ := text?_of_exampleVars htext hne
    exact ⟨p, (mem_samples_iff ht h hsamples).1 hp, htext⟩
  case allSamples =>
    intro text htext
    obtain ⟨samples, hsamples, htext⟩ := allExampleVars_eq htext
    exact ⟨samples, fun p => mem_samples_iff ht h hsamples, htext⟩

theorem admitted_workflow_keeps_to_its_way_below :
    let t := Tree.add (Tree.add ⟨[], ["ws"]⟩
      ["ws", "dc", "workflows", "site_1.x", "schema", "a_schema.yml"] (.file []))
      ["ws", "dc", "workflows", "site_2", "schema", "b_schema.yml"] (.file [])
    let schema : Path := ⟨"/", ["ws", "dc", "workflows", "site_1.x", "schema", "a_schema.yml"]⟩
    t.IsPlain ∧ isWorkflowName "site_1.x" = true ∧
      t.findSchema ⟨"/", ["ws"]⟩ "site_1.x" "site.yml" = .ok (some schema) ∧
      t.LiesAlong ⟨"/", ["ws"]⟩ ["workflows", "site_1.x"] "schema" "_schema.yml" schema := by
  intro t schema
  have ht : t.IsPlain := by decide +kernel
  have hname : isWorkflowName "site_1.x" = true := by decide
  have hfind : t.findSchema ⟨"/", ["ws"]⟩ "site_1.x" "site.yml" = .ok (some schema) := by
    decide +kernel
  have hkeeps := admitted_workflow_keeps_to_its_way ht hname ⟨"/", ["ws"]⟩
  have hschema := hkeeps.1.schema "site.yml" schema hfind
  exact ⟨ht, hname, hfind, (hkeeps.2 _ _ _ hschema).2 (by decide)⟩

/-- The point is admitted as a name, and with it the schema of no workflow is found: one that lies
beside the directories of the workflows. -/
theorem findSchema_of_point :
    let t := Tree.add ⟨[], ["ws"]⟩ ["ws", "workflows", "schema", "x_schema.yml"] (.file [])
    let stray : Path := ⟨"/", ["ws", "workflows", "schema", "x_schema.yml"]⟩
    isWorkflowName "." = true ∧ t.findSchema ⟨"/", ["ws"]⟩ "." "" = .ok (some stray) ∧
      ¬ t.LiesAlong ⟨"/", ["ws"]⟩ ["workflows", "."] "schema" "_schema.yml" stray := by
  intro t stray
  refine ⟨by decide, by decide +kernel, ?_⟩
  rintro ⟨-, above, name, -, -, hp, -⟩
  have hlength : 4 = above.length + 4 + 1 := by
    simpa [Path.under, stray] using congrArg (fun p : Path => p.parts.length) hp
  omega

end Tree

end VarsAdvisor
