import VarsAdvisor.Proofs.Workspace.Select

/-!
# Files that cannot be read

A sample that is not there, or is a directory, is skipped. One whose bytes are no UTF-8 is not: it
ends the search, unless a sample before it is what was searched for. Main statement:
`Tree.exampleVars_eq_ok_iff`, which says when samples and schemas are read, and what the texts are
then.
-/

namespace VarsAdvisor

open VarsAdvisor.Text

namespace Tree

variable {t : Tree} {p : Path} {ps : List Path}

/-! ## Reading one file -/

/-- The text at a path, if it can be read. -/
def text? (t : Tree) (p : Path) : Option String :=
  (t.readText p).toOption

/-- No file can have the path, or it leads to a file whose bytes are no UTF-8. -/
def Unskippable (t : Tree) (p : Path) : Prop :=
  p.isImpossible = true ∨
    ∃ bytes, t.find? p = some (.file bytes) ∧ ∀ cs, Utf8.decode bytes ≠ .ok cs

/-- How it goes to read a file. -/
inductive Reading (t : Tree) (p : Path) : Prop where
  | text (s : String) (h : t.readText p = .ok s) (hskip : ¬ t.Unskippable p)
  | absent (h : t.readText p = .error .unreadable) (hskip : ¬ t.Unskippable p)
  | refused (e : ReadError) (h : t.readText p = .error e) (hne : e ≠ .unreadable)
      (hskip : t.Unskippable p)

theorem reading (t : Tree) (p : Path) : t.Reading p := by
  by_cases himpossible : p.isImpossible = true
  · refine .refused .nullCharacter ?_ (by simp) (.inl himpossible)
    rw [readText, if_pos himpossible]
  · cases hfile : t.find? p with
    | none =>
      refine .absent ?_ ?_
      · rw [readText, if_neg himpossible, hfile]
      · simp [Unskippable, himpossible, hfile]
    | some entry =>
      cases entry with
      | directory =>
        refine .absent ?_ ?_
        · rw [readText, if_neg himpossible, hfile]
        · simp [Unskippable, himpossible, hfile]
      | file bytes =>
        cases hdecode : Utf8.decode bytes with
        | ok cs =>
          refine .text (String.ofList (unifyBreaks cs)) ?_ ?_
          · simp [readText, himpossible, hfile, hdecode]
          · simp [Unskippable, himpossible, hfile, hdecode]
        | error e =>
          refine .refused (.malformed e) ?_ (by simp) (.inr ⟨bytes, hfile, ?_⟩)
          · simp [readText, himpossible, hfile, hdecode]
          · simp [hdecode]

/-! ## Reading one file after the other -/

theorem readFirst_of_text {s : String} (h : t.readText p = .ok s) :
    t.readFirst (p :: ps) = .ok (some s) := by
  rw [readFirst, h]

theorem readFirst_of_absent (h : t.readText p = .error .unreadable) :
    t.readFirst (p :: ps) = t.readFirst ps := by
  rw [readFirst, h]

theorem readFirst_of_refused {e : ReadError} (h : t.readText p = .error e) (hne : e ≠ .unreadable) :
    t.readFirst (p :: ps) = .error e := by
  rw [readFirst, h]
  cases e <;> simp_all

theorem readAll_of_text {s : String} (h : t.readText p = .ok s) :
    t.readAll (p :: ps) = (t.readAll ps).map (s :: ·) := by
  rw [readAll, h]

theorem readAll_of_absent (h : t.readText p = .error .unreadable) :
    t.readAll (p :: ps) = t.readAll ps := by
  rw [readAll, h]

theorem readAll_of_refused {e : ReadError} (h : t.readText p = .error e) (hne : e ≠ .unreadable) :
    t.readAll (p :: ps) = .error e := by
  rw [readAll, h]
  cases e <;> simp_all

theorem text?_of_text {s : String} (h : t.readText p = .ok s) : t.text? p = some s := by
  rw [text?, h]
  rfl

theorem text?_of_error {e : ReadError} (h : t.readText p = .error e) : t.text? p = none := by
  rw [text?, h]
  rfl

/-- The first file that can be read is found, unless one before it cannot be skipped. -/
theorem readFirst_eq_ok_iff {first : Option String} :
    t.readFirst ps = .ok first ↔
      (∀ p ∈ ps.takeWhile fun p => (t.text? p).isNone, ¬ t.Unskippable p) ∧
        first = ps.findSome? t.text? := by
  induction ps with
  | nil => simp [readFirst, eq_comm]
  | cons p ps ih =>
    cases t.reading p with
    -- The search ends here, so nothing is asked of the files behind.
    | text s h hskip =>
      rw [readFirst_of_text h, List.takeWhile_cons_of_neg (by simp [text?_of_text h]),
        List.findSome?_cons, text?_of_text h]
      simp [eq_comm]
    | absent h hskip =>
      rw [readFirst_of_absent h, ih, List.takeWhile_cons_of_pos (by simp [text?_of_error h]),
        List.forall_mem_cons, and_iff_right hskip, List.findSome?_cons, text?_of_error h]
    | refused e h hne hskip =>
      rw [readFirst_of_refused h hne, List.takeWhile_cons_of_pos (by simp [text?_of_error h]),
        List.forall_mem_cons]
      simp [hskip]

/-- All files that can be read are read, unless there is one that cannot be skipped. -/
theorem readAll_eq_ok_iff {texts : List String} :
    t.readAll ps = .ok texts ↔ (∀ p ∈ ps, ¬ t.Unskippable p) ∧ texts = ps.filterMap t.text? := by
  induction ps generalizing texts with
  | nil => simp [readAll, eq_comm]
  | cons p ps ih =>
    rw [List.forall_mem_cons]
    cases t.reading p with
    | text s h hskip =>
      rw [readAll_of_text h, except_map_ok, List.filterMap_cons_some (text?_of_text h),
        and_iff_right hskip]
      constructor
      · rintro ⟨rest, hrest, rfl⟩
        rw [ih] at hrest
        exact ⟨hrest.1, by rw [hrest.2]⟩
      · rintro ⟨hrest, rfl⟩
        exact ⟨_, ih.2 ⟨hrest, rfl⟩, rfl⟩
    | absent h hskip =>
      rw [readAll_of_absent h, ih, List.filterMap_cons_none (text?_of_error h),
        and_iff_right hskip]
    | refused e h hne hskip =>
      rw [readAll_of_refused h hne]
      simp [hskip]

/-! ## Reading samples and schemas -/

variable {root : Path} {workflow : String}

theorem numberedExamples_eq (texts : List String) : numberedExamples texts =
    joined "\n" (texts.mapIdx fun n text => s!"Example {n + 1}: {text}") := by
  rw [numberedExamples, List.mapIdx_eq_zipIdx_map, List.zipIdx_succ, List.map_map]
  rfl

theorem readSchema_eq_ok_iff {schema : Option String} :
    t.readSchema p = .ok schema ↔ ¬ t.Unskippable p ∧ schema = t.text? p := by
  rw [readSchema]
  cases t.reading p with
  | text s h hskip =>
    rw [readFirst_of_text h, text?_of_text h, and_iff_right hskip, Except.ok.injEq, eq_comm]
  | absent h hskip =>
    rw [readFirst_of_absent h, text?_of_error h, and_iff_right hskip, readFirst, Except.ok.injEq,
      eq_comm]
  | refused e h hne hskip =>
    rw [readFirst_of_refused h hne]
    simp [hskip]

theorem samples_bind_eq_ok_iff {f : List Path → Except WorkflowError String} {text : String} :
    (t.samples root workflow).mapError .pattern >>= f = .ok text ↔
      ∃ samples, t.Gathers root workflow "vars" ".yml" samples ∧ f samples = .ok text := by
  rw [except_bind_ok]
  simp only [except_mapError_ok, samples_eq_ok_iff]

/-- **What is read, and when.** A file that cannot be skipped must not stand before the first text,
nor anywhere among the samples if all of them are wanted. -/
theorem exampleVars_eq_ok_iff (t : Tree) (root : Path) (workflow playbook text : String) :
    (t.exampleVars root workflow playbook = .ok text ↔
      ∃ samples, t.Gathers root workflow "vars" ".yml" samples ∧
        (∀ p ∈ (samples.filter (suits playbook)).takeWhile fun p => (t.text? p).isNone,
          ¬ t.Unskippable p) ∧
        text = ((samples.filter (suits playbook)).findSome? t.text?).getD "") ∧
    (t.allExampleVars root workflow = .ok text ↔
      ∃ samples, t.Gathers root workflow "vars" ".yml" samples ∧
        (∀ p ∈ samples, ¬ t.Unskippable p) ∧
        text = joined "\n" ((samples.filterMap t.text?).mapIdx
          fun n text => s!"Example {n + 1}: {text}")) ∧
    ∀ p schema, t.readSchema p = .ok schema ↔ ¬ t.Unskippable p ∧ schema = t.text? p := by
  refine ⟨?_, ?_, fun p schema => readSchema_eq_ok_iff⟩
  · rw [exampleVars, samples_bind_eq_ok_iff]
    refine exists_congr fun samples => and_congr_right fun _ => except_bind_pure_ok_iff ?_
    intro first
    rw [except_mapError_ok, readFirst_eq_ok_iff]
  · rw [allExampleVars, samples_bind_eq_ok_iff]
    simp only [← numberedExamples_eq]
    refine exists_congr fun samples => and_congr_right fun _ => except_bind_pure_ok_iff ?_
    intro texts
    rw [except_mapError_ok, readAll_eq_ok_iff]

/-- A first sample that is no UTF-8 keeps the second one from being found. -/
theorem exampleVars_of_undecodable :
    let t := Tree.add (Tree.add ⟨[], ["ws"]⟩ ["ws", "workflows", "w", "vars", "a.yml"]
      (.file [0xFF])) ["ws", "workflows", "w", "vars", "b.yml"] (.file [0x62])
    let samples : List Path := [⟨"/", ["ws", "workflows", "w", "vars", "a.yml"]⟩,
      ⟨"/", ["ws", "workflows", "w", "vars", "b.yml"]⟩]
    t.Gathers ⟨"/", ["ws"]⟩ "w" "vars" ".yml" samples ∧
      (samples.filter (suits "w.yml")).findSome? t.text? = some "b" ∧
      ∃ e, t.exampleVars ⟨"/", ["ws"]⟩ "w" "w.yml" = .error (.read e) := by
  intro t samples
  have hsamples : t.Gathers ⟨"/", ["ws"]⟩ "w" "vars" ".yml" samples := by
    apply gathers_of_directory (d := ⟨"/", ["ws", "workflows", "w"]⟩) (by decide) <;>
      decide +kernel
  have hrefused : t.readText ⟨"/", ["ws", "workflows", "w", "vars", "a.yml"]⟩ =
      .error (.malformed ⟨0, [0xFF], .startByte⟩) := by
    decide +kernel
  have hfirst : t.readFirst (samples.filter (suits "w.yml")) =
      .error (.malformed ⟨0, [0xFF], .startByte⟩) :=
    readFirst_of_refused hrefused (by simp)
  refine ⟨hsamples, by decide +kernel, .malformed ⟨0, [0xFF], .startByte⟩, ?_⟩
  rw [exampleVars, samples_eq_ok_iff.2 hsamples, except_ok_mapError, except_ok_bind, hfirst]
  rfl

end Tree

end VarsAdvisor
