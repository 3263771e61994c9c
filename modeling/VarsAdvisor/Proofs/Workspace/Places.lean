import Mathlib.Data.List.Induction
import VarsAdvisor.Proofs.Path.Names
import VarsAdvisor.Proofs.Table
import VarsAdvisor.Workspace.Tree

/-!
# Places in trees

A plain path to a file leads to the place of its components, and there is a directory at every place
on the way (`Tree.HasWay`). What is put beside the file adds one entry and changes no other, so
removing it again gives back the very tree (`Tree.remove_add`).
-/

namespace VarsAdvisor

namespace Tree

variable {t : Tree} {dir : List String} {name : String}

/-! ## Ways to places -/

/-- There is a directory at a place and at each one on the way to it. -/
def HasWay (t : Tree) (dir : List String) : Prop :=
  ∀ before, before <+: dir → t.hasDirectory before = true

theorem isSome_of_hasDirectory {place : List String} (h : t.hasDirectory place = true) :
    (t.entry? place).isSome = true := by
  rw [hasDirectory, beq_iff_eq] at h
  rw [h]
  rfl

theorem enter?_eq_some_iff {place next : List String} {c : String} :
    t.enter? place c = some next ↔ t.hasDirectory place = true ∧
      (c = ".." ∧ next = place.dropLast ∨
        c ≠ ".." ∧ next = place ++ [c] ∧ (t.entry? next).isSome = true) := by
  unfold enter?
  split
  · next hdir => grind
  · next hdir => simp [hdir]

/-- Without double points, components lead to their place, through directories only. -/
theorem of_foldlM_enter? {parts start place : List String} (hplain : ".." ∉ parts)
    (h : parts.foldlM t.enter? start = some place) : place = start ++ parts ∧
      ∀ before, before <+: parts → before ≠ parts → t.hasDirectory (start ++ before) = true := by
  induction parts generalizing start with
  | nil =>
    refine ⟨by simpa using h.symm, fun before hbefore hne => ?_⟩
    exact absurd (List.prefix_nil.1 hbefore) hne
  | cons c rest ih =>
    rw [List.mem_cons, not_or] at hplain
    rw [List.foldlM_cons] at h
    obtain ⟨next, hnext, hrest⟩ := Option.bind_eq_some_iff.1 h
    obtain ⟨hdir, ⟨hup, -⟩ | ⟨-, rfl, -⟩⟩ := enter?_eq_some_iff.1 hnext
    · exact absurd hup.symm hplain.1
    -- The first step needs a directory at the start, the others need those further on.
    obtain ⟨rfl, hways⟩ := ih hplain.2 hrest
    refine ⟨by simp, fun before hbefore hne => ?_⟩
    rcases List.prefix_cons_iff.1 hbefore with rfl | ⟨before', rfl, hbefore'⟩
    · rwa [List.append_nil]
    · have hway := hways before' hbefore' fun heq => hne (by rw [heq])
      rwa [List.append_assoc, List.singleton_append] at hway

theorem foldlM_enter?_concat (t : Tree) (start dir : List String) (c : String) :
    (dir ++ [c]).foldlM t.enter? start = (dir.foldlM t.enter? start).bind (t.enter? · c) := by
  rw [List.foldlM_append]
  cases dir.foldlM t.enter? start <;> simp

theorem foldlM_enter?_of_hasWay (hplain : ".." ∉ dir) (h : t.HasWay dir) :
    dir.foldlM t.enter? [] = some dir := by
  induction dir using List.reverseRecOn with
  | nil => rfl
  | append_singleton dir c ih =>
    rw [List.mem_append, List.mem_singleton, not_or] at hplain
    have hway : t.HasWay dir := fun before hbefore =>
      h before (hbefore.trans (List.prefix_append _ _))
    have hhere : (t.entry? (dir ++ [c])).isSome = true :=
      isSome_of_hasDirectory (h _ List.prefix_rfl)
    rw [foldlM_enter?_concat, ih hplain.1 hway, Option.bind_some]
    exact enter?_eq_some_iff.2 ⟨hway _ List.prefix_rfl, .inr ⟨Ne.symm hplain.2, rfl, hhere⟩⟩

theorem find?_child {p : Path} (hp : p.IsPlain) (hparts : p.parts = dir ++ [name])
    (h : t.HasWay dir) : t.find? p = t.entry? p.parts := by
  obtain ⟨hroot, hplain⟩ := hp
  rw [hparts, List.mem_append, List.mem_singleton, not_or] at hplain
  have hlocate : t.locate? p = t.enter? dir name := by
    unfold locate? Path.isAbsolute
    rw [hroot, hparts, if_pos (by decide), foldlM_enter?_concat,
      foldlM_enter?_of_hasWay hplain.1 h, Option.bind_some]
  unfold find?
  rw [hlocate, hparts]
  unfold enter?
  rw [if_pos (h dir List.prefix_rfl), if_neg (Ne.symm hplain.2)]
  split
  · rfl
  · next hnone => exact (Option.not_isSome_iff_eq_none.1 hnone).symm

/-- A plain path to a file leads by name to the file's place in a directory. -/
theorem exists_hasWay {p : Path} (hp : p.IsPlain) (h : t.isFile p = true) :
    ∃ dir name bytes, p.parts = dir ++ [name] ∧ t.HasWay dir ∧
      t.entry? p.parts = some (.file bytes) := by
  unfold isFile at h
  split at h
  · next bytes hfind =>
    obtain ⟨place, hplace, hentry⟩ := Option.bind_eq_some_iff.1 hfind
    unfold locate? Path.isAbsolute at hplace
    rw [hp.root, if_pos (by decide)] at hplace
    obtain ⟨rfl, hways⟩ := of_foldlM_enter? hp.plain hplace
    rw [List.nil_append] at hentry
    rcases List.eq_nil_or_concat p.parts with hnil | ⟨dir, name, hparts⟩
    · rw [hnil] at hentry
      cases hentry
    · rw [List.concat_eq_append] at hparts
      refine ⟨dir, name, bytes, hparts, fun before hbefore => ?_, hentry⟩
      refine hways before ?_ ?_
      · rw [hparts]
        exact hbefore.trans (List.prefix_append _ _)
      · rintro rfl
        have hlength := hbefore.length_le
        rw [hparts, List.length_append, List.length_singleton] at hlength
        omega
  · cases h

/-! ## A further file -/

theorem add_of_hasWay (h : t.HasWay dir) (e : Entry) :
    t.add (dir ++ [name]) e = { t with entries := t.entries.put (dir ++ [name]) e } := by
  -- The directories on the way are there already, so none is made.
  have hways : ∀ places : List (List String), (∀ place ∈ places, (t.entry? place).isSome = true) →
      places.foldl addDirectory t = t := by
    intro places hplaces
    induction places with
    | nil => rfl
    | cons place rest ih =>
      rw [List.forall_mem_cons] at hplaces
      rw [List.foldl_cons, addDirectory, if_pos hplaces.1, ih hplaces.2]
  unfold add
  rw [hways]
  intro place hplace
  obtain ⟨n, hn, rfl⟩ := List.mem_map.1 hplace
  rw [List.mem_range, List.length_append, List.length_singleton] at hn
  rw [List.take_append_of_le_length (Nat.le_of_lt_succ hn)]
  exact isSome_of_hasDirectory (h _ (List.take_prefix _ _))

theorem entry?_add (h : t.HasWay dir) (name : String) (e : Entry) (place : List String) :
    entry? (t.add (dir ++ [name]) e) place =
      if dir ++ [name] = place then some e else t.entry? place := by
  rw [add_of_hasWay h]
  unfold entry?
  by_cases hroot : place = []
  · rw [if_pos hroot, if_pos hroot, if_neg]
    rw [hroot]
    exact List.append_ne_nil_of_right_ne_nil _ (List.cons_ne_nil _ _)
  · rw [if_neg hroot, if_neg hroot]
    exact Table.get?_put _ _ _ _

theorem HasWay.add (h : t.HasWay dir) (name : String) (e : Entry) :
    (t.add (dir ++ [name]) e).HasWay dir := by
  intro before hbefore
  have hne : dir ++ [name] ≠ before := by
    rintro rfl
    have := hbefore.length_le
    rw [List.length_append, List.length_singleton] at this
    omega
  unfold hasDirectory
  rw [entry?_add h, if_neg hne]
  exact h before hbefore

/-- **A file that was put where nothing was leaves no trace** when it is removed. -/
theorem remove_add (h : t.HasWay dir) (hnew : t.entry? (dir ++ [name]) = none) (e : Entry) :
    (t.add (dir ++ [name]) e).remove (dir ++ [name]) = t := by
  have hkey : dir ++ [name] ∉ t.entries.keys := by
    rw [← Table.get?_eq_none_iff]
    unfold entry? at hnew
    rwa [if_neg (List.append_ne_nil_of_right_ne_nil _ (List.cons_ne_nil _ _))] at hnew
  rw [add_of_hasWay h]
  unfold remove
  rw [Table.erase_put hkey]

end Tree

end VarsAdvisor
