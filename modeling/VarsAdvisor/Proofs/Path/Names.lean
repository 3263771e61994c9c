import VarsAdvisor.Path.Basic
import VarsAdvisor.Proofs.Text.Joined

/-!
# Names in paths

A path whose components are names comes back when its text is read (`Path.ofText_text`); the
components of a path that was read are names, and resolving keeps that. A resolved path is plain: it
has no double points left, and resolving it again changes nothing (`Path.resolve_of_plain`). A name
keeps its ending when what stands before the ending is replaced (`Path.splitName_append`).
-/

namespace VarsAdvisor

open VarsAdvisor.Text

/-- A component that a text of a path can hold: it is not empty, no single point, and without
slashes. -/
structure IsName (c : String) : Prop where
  ne_empty : c ≠ ""
  ne_point : c ≠ "."
  noSlash : '/' ∉ c.toList

namespace Path

/-! ## Reading the text of a path -/

theorem isName_of_mem_partsOf {cs : List Char} {c : String} (h : c ∈ partsOf cs) : IsName c := by
  obtain ⟨piece, hmem, rfl⟩ := List.mem_map.1 h
  rw [List.mem_filter, Bool.and_eq_true, bne_iff_ne, bne_iff_ne] at hmem
  obtain ⟨hpiece, hempty, hpoint⟩ := hmem
  refine ⟨?_, ?_, ?_⟩
  · intro h
    exact hempty (String.ofList_injective h)
  · intro h
    exact hpoint (String.ofList_injective h)
  · rw [String.toList_ofList]
    exact not_mem_of_mem_splitOn hpiece

theorem partsOf_join {parts : List String} (h : ∀ c ∈ parts, IsName c) :
    partsOf (join ['/'] (parts.map String.toList)) = parts := by
  cases parts with
  | nil => rfl
  | cons first rest =>
    have hsplit : splitOn '/' (join ['/'] ((first :: rest).map String.toList)) =
        (first :: rest).map String.toList := by
      refine splitOn_join (List.cons_ne_nil _ _) ?_
      rw [List.forall_mem_map]
      exact fun c hc => (h c hc).noSlash
    have hkeep : ((first :: rest).map String.toList).filter (fun p => p != [] && p != ['.']) =
        (first :: rest).map String.toList := by
      refine List.filter_eq_self.2 ?_
      rw [List.forall_mem_map]
      intro c hc
      rw [Bool.and_eq_true, bne_iff_ne, bne_iff_ne]
      refine ⟨fun hnil => (h c hc).ne_empty ?_, fun hpoint => (h c hc).ne_point ?_⟩
      · exact String.toList_injective hnil
      · exact String.toList_injective hpoint
    unfold partsOf
    rw [hsplit, hkeep, List.map_map]
    exact List.map_id'' (fun c => String.ofList_toList) _

theorem rootOf_join {parts : List String} (h : ∀ c ∈ parts, IsName c) :
    rootOf ('/' :: join ['/'] (parts.map String.toList)) = "/" := by
  cases parts with
  | nil => rfl
  | cons first rest =>
    have hfirst := h first List.mem_cons_self
    obtain ⟨c, r, hcons⟩ : ∃ c r, first.toList = c :: r :=
      List.exists_cons_of_ne_nil fun hnil => hfirst.ne_empty (String.toList_injective hnil)
    have hc : c ≠ '/' := by
      rintro rfl
      exact hfirst.noSlash (hcons ▸ List.mem_cons_self)
    -- A second slash at the start would make the root another one, but the first name has none.
    obtain ⟨r', hjoin⟩ : ∃ r', join ['/'] ((first :: rest).map String.toList) = c :: r' := by
      cases rest with
      | nil => exact ⟨r, hcons⟩
      | cons second rest =>
        rw [List.map_cons, List.map_cons, join, hcons]
        · exact ⟨_, rfl⟩
        · exact List.cons_ne_nil _ _
    rw [hjoin]
    unfold rootOf
    split <;> simp_all

/-- An absolute path of names is what its text says. -/
theorem ofText_text {p : Path} (hroot : p.root = "/") (h : ∀ c ∈ p.parts, IsName c) :
    ofText p.text = p := by
  obtain ⟨root, parts⟩ := p
  cases hroot
  have htext : (Path.mk "/" parts).text.toList = '/' :: join ['/'] (parts.map String.toList) := by
    have hne : "/" ++ joined "/" parts ≠ "" := by
      intro hempty
      have := congrArg String.toList hempty
      rw [String.toList_append] at this
      cases this
    unfold text
    dsimp only
    rw [if_neg hne, String.toList_append, joined, String.toList_ofList, String.toList_ofList]
    rfl
  have hparts : partsOf ('/' :: join ['/'] (parts.map String.toList)) = parts := by
    have hjoin := partsOf_join h
    unfold partsOf at hjoin ⊢
    rw [splitOn, if_pos rfl]
    exact hjoin
  unfold ofText
  rw [htext, rootOf_join h, hparts]

/-! ## Resolved paths -/

/-- An absolute path without double points. -/
structure IsPlain (p : Path) : Prop where
  root : p.root = "/"
  plain : ".." ∉ p.parts

theorem mem_collapse {parts : List String} {c : String} (h : c ∈ collapse parts) :
    c ∈ parts ∧ c ≠ ".." := by
  -- By induction on what is still to be read: what was kept before is only ever dropped.
  suffices ∀ (parts acc : List String),
      c ∈ parts.foldl (fun acc p => if p = ".." then acc.drop 1 else p :: acc) acc →
        c ∈ acc ∨ c ∈ parts ∧ c ≠ ".." by
    refine (this parts [] (List.mem_reverse.1 h)).resolve_left List.not_mem_nil
  intro parts
  induction parts with
  | nil => exact fun acc hc => .inl hc
  | cons p rest ih =>
    intro acc hc
    rw [List.foldl_cons] at hc
    rcases ih _ hc with hacc | ⟨hrest, hne⟩
    · split at hacc
      · exact .inl (List.mem_of_mem_drop hacc)
      · next hp =>
        rcases List.mem_cons.1 hacc with rfl | hacc
        · exact .inr ⟨List.mem_cons_self, hp⟩
        · exact .inl hacc
    · exact .inr ⟨List.mem_cons_of_mem _ hrest, hne⟩

theorem plain_resolve (workingDirectory p : Path) : (resolve workingDirectory p).IsPlain :=
  ⟨rfl, fun h => (mem_collapse h).2 rfl⟩

theorem collapse_of_plain {parts : List String} (h : ".." ∉ parts) : collapse parts = parts := by
  -- By induction on what is still to be read, which is put before what was kept.
  suffices ∀ (parts acc : List String), ".." ∉ parts →
      parts.foldl (fun acc p => if p = ".." then acc.drop 1 else p :: acc) acc =
        parts.reverse ++ acc by
    unfold collapse
    rw [this parts [] h, List.append_nil, List.reverse_reverse]
  intro parts
  induction parts with
  | nil => exact fun acc _ => rfl
  | cons p rest ih =>
    intro acc h
    rw [List.mem_cons, not_or] at h
    rw [List.foldl_cons, if_neg (Ne.symm h.1), ih _ h.2, List.reverse_cons, List.append_assoc]
    rfl

/-- A resolved path means the same in every directory. -/
theorem resolve_of_plain (workingDirectory : Path) {p : Path} (h : p.IsPlain) :
    resolve workingDirectory p = p := by
  obtain ⟨root, parts⟩ := p
  obtain ⟨rfl, hplain⟩ := h
  exact congrArg (Path.mk "/") (collapse_of_plain hplain)

theorem isName_append {p q : Path} (hp : ∀ c ∈ p.parts, IsName c) (hq : ∀ c ∈ q.parts, IsName c) :
    ∀ c ∈ (p.append q).parts, IsName c := by
  unfold append
  split
  · exact hq
  · intro c hc
    rcases List.mem_append.1 hc with hc | hc
    · exact hp c hc
    · exact hq c hc

theorem isName_resolve {workingDirectory p : Path} (hw : ∀ c ∈ workingDirectory.parts, IsName c)
    (hp : ∀ c ∈ p.parts, IsName c) : ∀ c ∈ (resolve workingDirectory p).parts, IsName c :=
  fun c hc => isName_append hw hp c (mem_collapse hc).1

/-! ## Endings of names -/

theorem splitName_eq (s : String) : (splitName s).1 ++ (splitName s).2 = s := by
  unfold splitName
  split
  · next stem extension hcut =>
    split
    · exact String.append_empty
    · rw [← String.ofList_append, ← (cutAtLast_eq_some_iff.1 hcut).1, String.ofList_toList]
  · exact String.append_empty

/-- A name with an ending is its front, a point, and something behind it that is not empty. -/
theorem splitName_of_ne {s : String} (h : (splitName s).2 ≠ "") :
    ∃ extension, extension ≠ [] ∧ '.' ∉ extension ∧
      (splitName s).2 = String.ofList ('.' :: extension) := by
  unfold splitName at h ⊢
  split at h
  · next stem extension hcut =>
    split at h
    · exact absurd rfl h
    · next hparts =>
      rw [Bool.or_eq_true, not_or, List.isEmpty_iff, List.isEmpty_iff] at hparts
      rw [if_neg (by simpa using hparts)]
      exact ⟨extension, hparts.2, (cutAtLast_eq_some_iff.1 hcut).2, rfl⟩
  · exact absurd rfl h

theorem splitName_concat {front : String} {extension : List Char} (hfront : front ≠ "")
    (hne : extension ≠ []) (hpoint : '.' ∉ extension) :
    splitName (front ++ String.ofList ('.' :: extension)) =
      (front, String.ofList ('.' :: extension)) := by
  have hfront' : front.toList ≠ [] := fun hnil => hfront (String.toList_injective hnil)
  unfold splitName
  rw [String.toList_append, String.toList_ofList, cutAtLast_append hpoint]
  simp [hfront', hne]

/-- With another front a name has the same ending, if it has any. -/
theorem splitName_append {s front : String} (h : (splitName s).2 ≠ "") (hfront : front ≠ "") :
    splitName (front ++ (splitName s).2) = (front, (splitName s).2) := by
  obtain ⟨extension, hne, hpoint, heq⟩ := splitName_of_ne h
  rw [heq]
  exact splitName_concat hfront hne hpoint

end Path

end VarsAdvisor
