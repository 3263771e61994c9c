import Mathlib.Data.String.Basic
import VarsAdvisor.Proofs.Except
import VarsAdvisor.Proofs.Workspace.Places
import VarsAdvisor.Workspace.Workflow

/-!
# The files of a workflow

What a workflow's schemas and samples are, without patterns and sorting: the directories of the
workflow one after the other, and of each the files whose names end as they should, strictly in the
order of their components (`Tree.Gathers`). This says which files there are and which one comes
first, so it determines them (`Tree.gathers_iff`).
-/

namespace VarsAdvisor

/-! ## The order of paths -/

theorem nodup_eraseDups {α : Type} [DecidableEq α] (xs : List α) : xs.eraseDups.Nodup := by
  cases xs with
  | nil => exact List.nodup_nil
  | cons x xs =>
    rw [List.eraseDups_cons, List.nodup_cons]
    refine ⟨?_, nodup_eraseDups (xs.filter fun y => !y == x)⟩
    simp [List.mem_eraseDups]
termination_by xs.length
decreasing_by exact Nat.lt_succ_of_le (List.length_filter_le _ _)

theorem componentsLe_cons {x y : String} {xs ys : List String} :
    componentsLe (x :: xs) (y :: ys) = true ↔ x < y ∨ x = y ∧ componentsLe xs ys = true := by
  rw [componentsLe]
  split
  · next heq => simp [heq]
  · next hne => simp [hne]

theorem componentsLe_total (a b : List String) :
    (componentsLe a b || componentsLe b a) = true := by
  induction a generalizing b with
  | nil => rfl
  | cons x xs ih =>
    cases b with
    | nil => rfl
    | cons y ys =>
      rw [Bool.or_eq_true, componentsLe_cons, componentsLe_cons]
      rcases lt_trichotomy x y with hlt | rfl | hlt
      · exact .inl (.inl hlt)
      · exact (Bool.or_eq_true_iff.1 (ih ys)).imp (fun h => .inr ⟨rfl, h⟩) fun h => .inr ⟨rfl, h⟩
      · exact .inr (.inl hlt)

theorem componentsLe_trans {a b c : List String} (hab : componentsLe a b = true)
    (hbc : componentsLe b c = true) : componentsLe a c = true := by
  induction a generalizing b c with
  | nil => rfl
  | cons x xs ih =>
    cases b with
    | nil => cases hab
    | cons y ys =>
      cases c with
      | nil => cases hbc
      | cons z zs =>
        rw [componentsLe_cons] at hab hbc ⊢
        rcases hab with hxy | ⟨rfl, hab⟩
        · rcases hbc with hyz | ⟨rfl, -⟩
          · exact .inl (hxy.trans hyz)
          · exact .inl hxy
        · exact hbc.imp id fun hbc => ⟨hbc.1, ih hab hbc.2⟩

theorem componentsLe_antisymm {a b : List String} (hab : componentsLe a b = true)
    (hba : componentsLe b a = true) : a = b := by
  induction a generalizing b with
  | nil =>
    cases b with
    | nil => rfl
    | cons y ys => cases hba
  | cons x xs ih =>
    cases b with
    | nil => cases hab
    | cons y ys =>
      rw [componentsLe_cons] at hab hba
      rcases hab with hxy | ⟨rfl, hab⟩
      · rcases hba with hyx | ⟨rfl, -⟩
        · exact absurd hxy hyx.not_gt
        · exact absurd hxy (lt_irrefl _)
      · rcases hba with hxx | ⟨-, hba⟩
        · exact absurd hxx (lt_irrefl _)
        · rw [ih hab hba]

namespace Path

/-- In the order of their components, each once. -/
def Ascending (ps : List Path) : Prop :=
  ps.Pairwise fun p q => componentsLe p.parts q.parts = true ∧ p ≠ q

instance (ps : List Path) : Decidable (Ascending ps) :=
  inferInstanceAs (Decidable (List.Pairwise _ _))

theorem Ascending.sort_eq {ps : List Path} (h : Ascending ps) : sort ps = ps :=
  List.mergeSort_of_pairwise (h.imp And.left)

theorem ascending_sort {ps : List Path} (h : ps.Nodup) : Ascending (sort ps) := by
  have hsorted : (sort ps).Pairwise fun p q => componentsLe p.parts q.parts = true := by
    apply List.pairwise_mergeSort
    · exact fun p q r => componentsLe_trans
    · exact fun p q => componentsLe_total p.parts q.parts
  have hnodup : (sort ps).Nodup := (List.mergeSort_perm ps _).nodup_iff.2 h
  exact hsorted.and hnodup

theorem mem_sort {ps : List Path} {p : Path} : p ∈ sort ps ↔ p ∈ ps :=
  List.mem_mergeSort

/-- Paths with one root and in order are determined by which ones they are. -/
theorem Ascending.eq_of_mem_iff {ps qs : List Path} (root : String) (hps : Ascending ps)
    (hqs : Ascending qs) (hroot : ∀ p ∈ ps, p.root = root) (h : ∀ p, p ∈ ps ↔ p ∈ qs) :
    ps = qs := by
  have hperm : ps.Perm qs :=
    (List.perm_ext_iff_of_nodup (hps.imp And.right) (hqs.imp And.right)).2 h
  refine hperm.eq_of_pairwise ?_ hps hqs
  intro p q hp hq hpq hqp
  have hparts : p.parts = q.parts := componentsLe_antisymm hpq.1 hqp.1
  have hroots : p.root = q.root := (hroot p hp).trans (hroot q ((h q).2 hq)).symm
  cases p
  cases q
  simp_all

end Path

/-! ## Names with an ending -/

namespace Glob

theorem mem_endings {α : Type} {xs ys : List α} : ys ∈ endings xs ↔ ys <:+ xs := by
  induction xs with
  | nil => rw [endings, List.mem_singleton, List.suffix_nil]
  | cons x xs ih => rw [endings, List.mem_cons, ih, List.suffix_cons_iff]

theorem fitsChars_literals {text cs : List Char} :
    fitsChars (text.map .literal) cs = true ↔ text = cs := by
  induction text generalizing cs with
  | nil => rw [List.map_nil, fitsChars, List.isEmpty_iff, eq_comm]
  | cons x text ih =>
    rw [List.map_cons]
    cases cs with
    | nil => simp [fitsChars]
    | cons c cs =>
      rw [fitsChars, Bool.and_eq_true, beq_iff_eq, ih, List.cons.injEq]
      exact and_congr_left' eq_comm

theorem fits_ending {ending name : String} :
    fits (.star :: ending.toList.map .literal) name = true ↔ ending.toList <:+ name.toList := by
  unfold fits fitsChars
  rw [List.any_eq_true]
  constructor
  · rintro ⟨back, hback, hfits⟩
    rw [fitsChars_literals.1 hfits]
    exact mem_endings.1 hback
  · intro hsuffix
    exact ⟨ending.toList, mem_endings.2 hsuffix, fitsChars_literals.2 rfl⟩

end Glob

/-! ## The files of a kind in a directory -/

namespace Tree

variable {t : Tree} {p d root : Path} {kind ending workflow : String}

theorem locate?_child (t : Tree) (p : Path) (name : String) :
    t.locate? (p.child name) = (t.locate? p).bind (t.enter? · name) :=
  foldlM_enter?_concat t _ p.parts name

theorem isDirectory_iff :
    t.isDirectory p = true ↔ ∃ place, t.locate? p = some place ∧ t.hasDirectory place = true := by
  rw [isDirectory, beq_iff_eq, find?, Option.bind_eq_some_iff]
  simp only [hasDirectory, beq_iff_eq]

theorem mem_namesIn {place : List String} {name : String} :
    name ∈ t.namesIn place ↔ (t.entry? (place ++ [name])).isSome = true := by
  have hne : place ++ [name] ≠ [] := List.append_ne_nil_of_right_ne_nil _ (List.cons_ne_nil _ _)
  unfold entry? namesIn
  rw [if_neg hne, ← Table.mem_keys_iff, List.mem_filterMap]
  constructor
  · rintro ⟨key, hkey, hname⟩
    split at hname
    · next hplace =>
      rw [← hplace.2, List.dropLast_append_getLast? name hname]
      exact hkey
    · cases hname
  · intro hkey
    refine ⟨_, hkey, ?_⟩
    rw [if_pos ⟨hne, List.dropLast_concat⟩, List.getLast?_concat]

theorem mem_select {pattern : Pattern} :
    p ∈ t.select d pattern ↔
      t.isDirectory d = true ∧ p ∈ t.selectFrom pattern.slashed pattern.components d := by
  unfold select
  split
  · next hdir => rw [Path.mem_sort, List.mem_eraseDups, and_iff_right hdir]
  · next hdir => simp [hdir]

theorem ascending_select (t : Tree) (d : Path) (pattern : Pattern) :
    Path.Ascending (t.select d pattern) := by
  unfold select
  split
  · exact Path.ascending_sort (nodup_eraseDups _)
  · exact List.Pairwise.nil

theorem select_eq_of_ascending {pattern : Pattern} {ps : List Path}
    (hdir : t.isDirectory d = true)
    (hps : (t.selectFrom pattern.slashed pattern.components d).eraseDups = ps)
    (h : Path.Ascending ps) : t.select d pattern = ps := by
  rw [select, if_pos hdir, hps, h.sort_eq]

/-- The files of a kind in a directory, in order: what is there under names that end as given. -/
structure Lists (t : Tree) (kind ending : String) (d : Path) (files : List Path) : Prop where
  ascending : Path.Ascending files
  mem_iff : ∀ p, p ∈ files ↔
    ∃ name, ending.toList <:+ name.toList ∧ p = (d.child kind).child name ∧ t.hasPath p = true

theorem mem_select_wildcard {parts : List Glob} :
    p ∈ t.select d ⟨[.wildcard parts], false⟩ ↔ t.isDirectory d = true ∧
      ∃ place, t.locate? d = some place ∧ ∃ name ∈ t.namesIn place,
        Glob.fits parts name = true ∧ d.child name = p ∧ t.hasPath p = true := by
  rw [mem_select]
  refine and_congr_right fun _ => ?_
  have hone : t.selectFrom false [.wildcard parts] d = t.selectOne d false (.wildcard parts) :=
    List.flatMap_singleton' _
  rw [hone, selectOne]
  split
  · next place hplace =>
    simp only [hplace, Option.some.injEq, exists_eq_left', List.mem_filter, List.mem_map, leadsOn]
    grind
  · next hnone => simp [hnone]

theorem mem_filesOf (hup : ¬ ending.toList <:+ "..".toList) :
    p ∈ filesOf d kind ending t ↔
      ∃ name, ending.toList <:+ name.toList ∧ p = (d.child kind).child name ∧
        t.hasPath p = true := by
  rw [filesOf, mem_select_wildcard]
  constructor
  · rintro ⟨-, place, -, name, -, hfits, rfl, hpath⟩
    exact ⟨name, Glob.fits_ending.1 hfits, rfl, hpath⟩
  · rintro ⟨name, hending, rfl, hpath⟩
    have hname : name ≠ ".." := by
      rintro rfl
      exact hup hending
    -- What is there is in a directory, under a name that this directory knows.
    obtain ⟨next, hnext⟩ := Option.isSome_iff_exists.1 hpath
    rw [locate?_child] at hnext
    obtain ⟨place, hplace, henter⟩ := Option.bind_eq_some_iff.1 hnext
    obtain ⟨hdir, ⟨hup, -⟩ | ⟨-, rfl, hsome⟩⟩ := enter?_eq_some_iff.1 henter
    · exact absurd hup hname
    · exact ⟨isDirectory_iff.2 ⟨place, hplace, hdir⟩, place, hplace, name, mem_namesIn.2 hsome,
        Glob.fits_ending.2 hending, rfl, hpath⟩

theorem lists_filesOf (t : Tree) (kind : String) (hup : ¬ ending.toList <:+ "..".toList)
    (d : Path) : t.Lists kind ending d (filesOf d kind ending t) where
  ascending := ascending_select t _ _
  mem_iff _ := mem_filesOf hup

theorem Lists.unique {files files' : List Path} (h : t.Lists kind ending d files)
    (h' : t.Lists kind ending d files') : files = files' := by
  refine Path.Ascending.eq_of_mem_iff d.root h.ascending h'.ascending ?_ ?_
  · intro p hp
    obtain ⟨name, -, rfl, -⟩ := (h.mem_iff p).1 hp
    rfl
  · intro p
    rw [h.mem_iff, h'.mem_iff]

/-! ## The files of a workflow -/

/-- The files of a kind of a workflow: directory by directory, both in order. -/
def Gathers (t : Tree) (root : Path) (workflow kind ending : String) (files : List Path) : Prop :=
  ∃ (dirs : List Path) (blocks : List (List Path)),
    t.workflowDirectories root workflow = .ok dirs ∧ Path.Ascending dirs ∧
      List.Forall₂ (t.Lists kind ending) dirs blocks ∧ files = blocks.flatten

theorem workflowDirectories_eq_ok_iff {dirs : List Path} :
    t.workflowDirectories root workflow = .ok dirs ↔
      ∃ pattern, Pattern.ofText s!"**/workflows/{workflow}" = .ok pattern ∧
        t.longIn? root pattern = none ∧ dirs = (t.select root pattern).filter t.isDirectory := by
  refine except_bind_ok.trans (exists_congr fun pattern => and_congr_right fun _ => ?_)
  cases hlong : t.longIn? root pattern with
  | none => simp [pure, Except.pure, eq_comm]
  | some p => simp [throw, throwThe, MonadExceptOf.throw]

theorem ascending_workflowDirectories {dirs : List Path}
    (h : t.workflowDirectories root workflow = .ok dirs) : Path.Ascending dirs := by
  obtain ⟨pattern, -, -, rfl⟩ := workflowDirectories_eq_ok_iff.1 h
  exact (ascending_select t root pattern).filter _

theorem gathers_iff (hup : ¬ ending.toList <:+ "..".toList) {files : List Path} :
    t.Gathers root workflow kind ending files ↔
      (t.workflowDirectories root workflow).map
        (fun dirs => dirs.flatMap fun d => filesOf d kind ending t) = .ok files := by
  rw [except_map_ok]
  constructor
  · rintro ⟨dirs, blocks, hdirs, -, hblocks, rfl⟩
    refine ⟨dirs, hdirs, ?_⟩
    rw [List.flatMap_def]
    congr 1
    clear hdirs
    -- What a directory lists is unique, so the blocks are those that the patterns select.
    induction hblocks with
    | nil => rfl
    | cons hblock _ ih => rw [List.map_cons, ih, (lists_filesOf t kind hup _).unique hblock]
  · rintro ⟨dirs, hdirs, rfl⟩
    refine ⟨dirs, dirs.map fun d => filesOf d kind ending t, hdirs,
      ascending_workflowDirectories hdirs, ?_, List.flatMap_def⟩
    rw [List.forall₂_map_right_iff, List.forall₂_same]
    exact fun d _ => lists_filesOf t kind hup d

/-- A workflow with one directory has the files of this one. -/
theorem gathers_of_directory (hup : ¬ ending.toList <:+ "..".toList) {files : List Path}
    (hdirs : t.workflowDirectories root workflow = .ok [d])
    (hdir : t.isDirectory (d.child kind) = true)
    (hfiles : (t.selectFrom false [.wildcard (.star :: ending.toList.map .literal)]
      (d.child kind)).eraseDups = files)
    (h : Path.Ascending files) : t.Gathers root workflow kind ending files := by
  have hblock : filesOf d kind ending t = files := select_eq_of_ascending hdir hfiles h
  refine ⟨[d], [files], hdirs, List.pairwise_singleton _ _, .cons ?_ .nil, ?_⟩
  · rw [← hblock]
    exact lists_filesOf t kind hup d
  · rw [List.flatten_singleton]

theorem schemas_eq_ok_iff {files : List Path} :
    t.schemas root workflow = .ok files ↔
      t.Gathers root workflow "schema" "_schema.yml" files :=
  (gathers_iff (by decide)).symm

theorem samples_eq_ok_iff {files : List Path} :
    t.samples root workflow = .ok files ↔ t.Gathers root workflow "vars" ".yml" files :=
  (gathers_iff (by decide)).symm

end Tree

end VarsAdvisor
