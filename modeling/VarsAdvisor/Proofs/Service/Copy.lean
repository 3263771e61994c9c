import VarsAdvisor.Proofs.Text.Joined
import VarsAdvisor.Proofs.Workspace.Places
import VarsAdvisor.Service.Desk

/-!
# Copies of texts that are not saved

The copy that is laid beside a document is a new file in its directory and holds the text in UTF-8
(`Tree.HoldsCopy`). It has the document's ending, if the document has one; else it ends with its
mark (`suffix_copyPath`). When the copy is removed, the files are as they were.
-/

namespace VarsAdvisor

open VarsAdvisor.Text

/-! ## Marks -/

namespace Mark

variable (mark : Mark)

theorem length_toList : mark.text.toList.length = 8 := mark.length

theorem toList_ne_nil : mark.text.toList ≠ [] :=
  List.ne_nil_of_length_pos (mark.length_toList ▸ Nat.zero_lt_succ 7)

theorem not_mem_toList {c : Char} (h : (c.isAlphanum || c == '_') = false) :
    c ∉ mark.text.toList := by
  intro hc
  rw [List.all_eq_true.1 mark.plain c hc] at h
  cases h

end Mark

/-! ## Names of copies -/

section Names

variable {document : Path} (mark : Mark)

theorem copyName_eq (document : Path) :
    copyName document mark = "." ++ document.stem ++ "." ++ mark.text ++ document.suffix := rfl

/-- A copy's name is ten characters longer than that of the document. -/
theorem length_copyName (document : Path) :
    (copyName document mark).length = document.name.length + 10 := by
  have hparts : document.stem ++ document.suffix = document.name := Path.splitName_eq _
  have hmark := mark.length
  have hpoint : ".".length = 1 := rfl
  rw [copyName_eq, ← hparts]
  simp only [String.length_append]
  omega

theorem parts_copyPath {dir : List String} {name : String} (h : document.parts = dir ++ [name]) :
    (copyPath document mark).parts = dir ++ [copyName document mark] := by
  unfold copyPath Path.child Path.parent
  rw [h, List.dropLast_concat]

theorem name_copyPath (document : Path) :
    (copyPath document mark).name = copyName document mark := by
  unfold Path.name copyPath Path.child
  rw [List.getLast?_concat]
  rfl

theorem parent_copyPath (document : Path) : (copyPath document mark).parent = document.parent := by
  unfold copyPath Path.child Path.parent
  rw [List.dropLast_concat]

theorem plain_copyPath (h : document.IsPlain) : (copyPath document mark).IsPlain := by
  refine ⟨h.root, fun hmem => ?_⟩
  unfold copyPath Path.child Path.parent at hmem
  rcases List.mem_append.1 hmem with hdir | hname
  · exact h.plain (List.dropLast_subset _ hdir)
  · have hlength := length_copyName mark document
    have hup : "..".length = 2 := rfl
    rw [← List.mem_singleton.1 hname, hup] at hlength
    omega

theorem point_append_ne_empty (s : String) : "." ++ s ≠ "" := by
  intro hempty
  have hlength := congrArg String.length hempty
  simp [String.length_append] at hlength

/-- The copy of a document with an ending has the same ending; that of any other document ends with
its mark. -/
theorem suffix_copyPath (document : Path) :
    (copyPath document mark).suffix =
      if document.suffix = "" then "." ++ mark.text else document.suffix := by
  have hcopy : (copyPath document mark).suffix = (Path.splitName (copyName document mark)).2 := by
    rw [Path.suffix, name_copyPath]
  rw [hcopy, copyName_eq]
  split
  · next hnone =>
    have hending : "." ++ mark.text = String.ofList ('.' :: mark.text.toList) :=
      String.toList_injective (by simp [String.toList_append])
    rw [hnone, String.append_empty, String.append_assoc, hending,
      Path.splitName_concat (point_append_ne_empty _) mark.toList_ne_nil (mark.not_mem_toList rfl)]
  · next hsome =>
    have hfront : "." ++ document.stem ++ "." ++ mark.text ≠ "" := by
      rw [String.append_assoc, String.append_assoc]
      exact point_append_ne_empty _
    rw [Path.suffix, Path.splitName_append hsome hfront]

theorem suffix_copyPath_eq_iff (document : Path) :
    (copyPath document mark).suffix = document.suffix ↔ document.suffix ≠ "" := by
  rw [suffix_copyPath]
  split
  · next hnone =>
    rw [hnone]
    exact iff_of_false (point_append_ne_empty _) (not_not_intro rfl)
  · next hsome => exact iff_of_true rfl hsome

theorem isName_copyName (h : IsName document.name) : IsName (copyName document mark) := by
  have hlength := length_copyName mark document
  refine ⟨?_, ?_, ?_⟩
  · intro hempty
    rw [hempty] at hlength
    exact absurd hlength (Nat.succ_ne_zero _).symm
  · intro hpoint
    rw [hpoint] at hlength
    exact absurd (Nat.succ.inj hlength) (Nat.succ_ne_zero _).symm
  · have hparts : document.stem ++ document.suffix = document.name := Path.splitName_eq _
    have hslash := h.noSlash
    rw [← hparts, String.toList_append, List.mem_append, not_or] at hslash
    have hmark : '/' ∉ mark.text.toList := mark.not_mem_toList rfl
    rw [copyName_eq]
    simp [String.toList_append, hmark, hslash.1, hslash.2]

end Names

/-! ## Places for copies -/

namespace Tree

variable {t : Tree} {document copy : Path} {marks : List Mark}

/-- A place for a copy is one at which there is nothing. -/
theorem freshCopy?_eq_some (h : t.freshCopy? document marks = some copy) :
    ∃ mark ∈ marks, copy = copyPath document mark ∧ t.hasPath copy = false := by
  unfold freshCopy? at h
  have hfresh := List.find?_some h
  obtain ⟨mark, hmark, rfl⟩ := List.mem_map.1 (List.mem_of_find?_eq_some h)
  exact ⟨mark, hmark, rfl, by simpa using hfresh⟩

/-- There is no place for a copy exactly if all that are offered are taken. -/
theorem freshCopy?_eq_none_iff :
    t.freshCopy? document marks = none ↔
      ∀ mark ∈ marks, t.hasPath (copyPath document mark) = true := by
  unfold freshCopy?
  rw [List.find?_eq_none, List.forall_mem_map]
  simp

theorem find?_of_not_hasPath {p : Path} (h : t.hasPath p = false) : t.find? p = none := by
  unfold hasPath at h
  unfold find?
  rw [Option.isSome_eq_false_iff, Option.isNone_iff_eq_none] at h
  rw [h]
  rfl

/-- A tree with a copy of a document: a new file in the document's directory that holds a text in
UTF-8. It has the document's ending exactly if the document has one; else it ends with its mark. All
else is as in the tree without the copy. -/
structure HoldsCopy (t : Tree) (document : Path) (text : String) (copy : Path) (t' : Tree) :
    Prop where
  beside : copy.parent = document.parent
  name : ∃ mark : Mark, copy.name = s!".{document.stem}.{mark.text}{document.suffix}" ∧
    copy.suffix = if document.suffix = "" then "." ++ mark.text else document.suffix
  suffix : copy.suffix = document.suffix ↔ document.suffix ≠ ""
  names : (∀ c ∈ document.parts, IsName c) → ∀ c ∈ copy.parts, IsName c
  ne : copy ≠ document
  new : t.find? copy = none
  content : t'.find? copy = some (.file text.toUTF8.data.toList)
  document : t'.find? document = t.find? document
  others : ∀ place, place ≠ copy.parts → t'.entry? place = t.entry? place
  base : t'.base = t.base

theorem holdsCopy_add (hp : document.IsPlain) (hfile : t.isFile document = true)
    (hcopy : t.freshCopy? document marks = some copy) (text : String) :
    t.HoldsCopy document text copy (t.add copy.parts (.file (Utf8.bytesOf text))) := by
  obtain ⟨dir, name, bytes, hparts, hway, hentry⟩ := exists_hasWay hp hfile
  obtain ⟨mark, -, rfl, hfree⟩ := freshCopy?_eq_some hcopy
  have hplain := plain_copyPath mark hp
  have hcopyParts := parts_copyPath mark hparts
  have hnew := find?_of_not_hasPath hfree
  have hentries := entry?_add hway (copyName document mark) (.file (Utf8.bytesOf text))
  have hway' := hway.add (copyName document mark) (.file (Utf8.bytesOf text))
  rw [← hcopyParts] at hentries hway'
  have hne : (copyPath document mark).parts ≠ document.parts := by
    intro heq
    rw [find?_child hplain hcopyParts hway, heq, hentry] at hnew
    cases hnew
  refine ⟨parent_copyPath mark document,
    ⟨mark, name_copyPath mark document, suffix_copyPath mark document⟩,
    suffix_copyPath_eq_iff mark document, ?_, fun heq => hne (congrArg Path.parts heq), hnew,
    ?_, ?_, ?_, ?_⟩
  · intro hnames c hc
    rw [hparts, List.forall_mem_append] at hnames
    rw [hcopyParts] at hc
    rcases List.mem_append.1 hc with hdir | hlast
    · exact hnames.1 c hdir
    · rw [List.mem_singleton.1 hlast]
      refine isName_copyName mark ?_
      have hname : document.name = name := by
        unfold Path.name
        rw [hparts, List.getLast?_concat]
        rfl
      rw [hname]
      exact hnames.2 name (List.mem_singleton_self name)
  · rw [find?_child hplain hcopyParts hway', hentries, if_pos rfl, Utf8.bytesOf_eq]
  · rw [find?_child hp hparts hway', find?_child hp hparts hway, hentries, if_neg hne]
  · intro place hplace
    rw [hentries, if_neg (Ne.symm hplace)]
  · rw [hcopyParts, add_of_hasWay hway]

theorem remove_freshCopy (hp : document.IsPlain) (hfile : t.isFile document = true)
    (hcopy : t.freshCopy? document marks = some copy) (e : Entry) :
    (t.add copy.parts e).remove copy.parts = t := by
  obtain ⟨dir, name, bytes, hparts, hway, hentry⟩ := exists_hasWay hp hfile
  obtain ⟨mark, -, rfl, hfree⟩ := freshCopy?_eq_some hcopy
  have hcopyParts := parts_copyPath mark hparts
  have hnew := find?_of_not_hasPath hfree
  rw [find?_child (plain_copyPath mark hp) hcopyParts hway, hcopyParts] at hnew
  rw [hcopyParts]
  exact remove_add hway hnew e

end Tree

end VarsAdvisor
