import VarsAdvisor.Proofs.Workspace.Select

/-!
# The schema for a playbook

A deleting playbook should have the first schema for deletion, and the first schema at all if none is
for deletion. Any other playbook should have the first schema that is not for deletion
(`preferred`). `Tree.findSchema` finds this schema exactly if the playbook is not `Stranded`: it does
not look whether a workflow's only schema is for deletion, and of several schemas it leaves none to a
deleting playbook if none is for deletion.
-/

namespace VarsAdvisor

variable {playbook : String} {candidates : List Path}

/-! ## What a playbook should have -/

/-- The schema among those of the workflow that a playbook should have. -/
def preferred (playbook : String) (candidates : List Path) : Option Path :=
  if deletes playbook then (candidates.find? isForDeletion).or candidates.head?
  else candidates.find? fun p => !isForDeletion p

theorem preferred_of_deletes (h : deletes playbook = true) :
    preferred playbook candidates = (candidates.find? isForDeletion).or candidates.head? :=
  if_pos h

theorem preferred_of_not_deletes (h : ¬ deletes playbook = true) :
    preferred playbook candidates = candidates.find? fun p => !isForDeletion p :=
  if_neg h

theorem preferred_eq_none_iff (h : deletes playbook = true) :
    preferred playbook candidates = none ↔ candidates = [] := by
  rw [preferred_of_deletes h, Option.or_eq_none_iff, List.head?_eq_none_iff, and_iff_right_iff_imp]
  rintro rfl
  rfl

/-- The playbook deletes, and the workflow's only schema is for deletion, or of several none is. -/
def Stranded (playbook : String) (candidates : List Path) : Prop :=
  deletes playbook = true ∧
    ((∃ p, candidates = [p] ∧ isForDeletion p = true) ∨
      1 < candidates.length ∧ ∀ p ∈ candidates, isForDeletion p = false)

theorem Stranded.preferred_ne_none (h : Stranded playbook candidates) :
    preferred playbook candidates ≠ none := by
  rw [Ne, preferred_eq_none_iff h.1]
  rintro rfl
  rcases h.2 with ⟨p, hp, -⟩ | ⟨hlength, -⟩
  · cases hp
  · cases hlength

/-! ## What is left of the schemas -/

namespace Tree

theorem eligible_of_several (h : deletes playbook = true) (hseveral : 1 < candidates.length) :
    eligible playbook candidates = candidates.filter isForDeletion :=
  if_pos ⟨hseveral, h⟩

theorem eligible_of_not_several (h : ¬ (1 < candidates.length ∧ deletes playbook = true)) :
    eligible playbook candidates = candidates.filter fun p => !isForDeletion p :=
  if_neg h

theorem eligible_of_stranded (h : Stranded playbook candidates) :
    eligible playbook candidates = [] := by
  obtain ⟨hdeletes, ⟨p, rfl, hp⟩ | ⟨hseveral, hnone⟩⟩ := h
  · rw [eligible_of_not_several (by simp)]
    simp [hp]
  · rw [eligible_of_several hdeletes hseveral, List.filter_eq_nil_iff]
    simpa using hnone

theorem head?_eligible (h : ¬ Stranded playbook candidates) :
    (eligible playbook candidates).head? = preferred playbook candidates := by
  by_cases hdeletes : deletes playbook = true
  · rw [preferred_of_deletes hdeletes]
    -- The candidates are counted: a single one must not be for deletion, of several one must.
    rcases candidates with _ | ⟨p, _ | ⟨q, rest⟩⟩
    · rfl
    · have hp : isForDeletion p = false := by
        rw [← Bool.not_eq_true]
        exact fun hp => h ⟨hdeletes, .inl ⟨p, rfl, hp⟩⟩
      rw [eligible_of_not_several (by simp)]
      simp [hp]
    · have hseveral : 1 < (p :: q :: rest).length := by simp
      have hsome : ((p :: q :: rest).find? isForDeletion).isSome = true := by
        rw [List.find?_isSome]
        by_contra hnone
        refine h ⟨hdeletes, .inr ⟨hseveral, fun r hr => ?_⟩⟩
        rw [← Bool.not_eq_true]
        exact fun hdeletion => hnone ⟨r, hr, hdeletion⟩
      rw [eligible_of_several hdeletes hseveral, List.head?_filter, Option.or_of_isSome hsome]
  · rw [preferred_of_not_deletes hdeletes, eligible_of_not_several fun h => hdeletes h.2,
      List.head?_filter]

/-! ## What is found -/

variable {t : Tree} {root : Path} {workflow : String}

/-- **The preferred schema is found, unless the playbook is stranded**: then none is, though there
are schemas. -/
theorem findSchema_eq_preferred_iff
    (h : t.Gathers root workflow "schema" "_schema.yml" candidates) (playbook : String) :
    (t.findSchema root workflow playbook = .ok (preferred playbook candidates) ↔
        ¬ Stranded playbook candidates) ∧
      (Stranded playbook candidates → t.findSchema root workflow playbook = .ok none) := by
  have hfind : t.findSchema root workflow playbook =
      .ok (eligible playbook candidates).head? := by
    rw [findSchema, schemas_eq_ok_iff.2 h]
    rfl
  have hstranded (hs : Stranded playbook candidates) :
      t.findSchema root workflow playbook = .ok none := by
    rw [hfind, eligible_of_stranded hs, List.head?_nil]
  refine ⟨⟨?_, ?_⟩, hstranded⟩
  · intro hpreferred hs
    rw [hstranded hs, Except.ok.injEq] at hpreferred
    exact hs.preferred_ne_none hpreferred.symm
  · intro hs
    rw [hfind, head?_eligible hs]

theorem findSchema_eq_preferred_iff_of_two :
    let t := Tree.add (Tree.add ⟨[], ["ws"]⟩ ["ws", "workflows", "w", "schema", "a_schema.yml"]
      (.file [])) ["ws", "workflows", "w", "schema", "delete_a_schema.yml"] (.file [])
    let schemas : List Path := [⟨"/", ["ws", "workflows", "w", "schema", "a_schema.yml"]⟩,
      ⟨"/", ["ws", "workflows", "w", "schema", "delete_a_schema.yml"]⟩]
    t.Gathers ⟨"/", ["ws"]⟩ "w" "schema" "_schema.yml" schemas ∧
      t.findSchema ⟨"/", ["ws"]⟩ "w" "delete_a.yml" = .ok (preferred "delete_a.yml" schemas) := by
  intro t schemas
  have hschemas : t.Gathers ⟨"/", ["ws"]⟩ "w" "schema" "_schema.yml" schemas := by
    apply gathers_of_directory (d := ⟨"/", ["ws", "workflows", "w"]⟩) (by decide) <;>
      decide +kernel
  refine ⟨hschemas, (findSchema_eq_preferred_iff hschemas "delete_a.yml").1.2 ?_⟩
  rintro ⟨-, ⟨p, hp, -⟩ | ⟨-, hnone⟩⟩
  · have hlength : 2 = 1 := congrArg List.length hp
    cases hlength
  · exact absurd (hnone _ (List.mem_of_getLast? rfl)) (by decide)

/-- The only schema of a workflow is for deletion, and the playbook that deletes does not find it. -/
theorem findSchema_of_sole_schema :
    let t := Tree.add ⟨[], ["ws"]⟩ ["ws", "workflows", "w", "schema", "delete_w_schema.yml"] (.file [])
    let sole : Path := ⟨"/", ["ws", "workflows", "w", "schema", "delete_w_schema.yml"]⟩
    t.Gathers ⟨"/", ["ws"]⟩ "w" "schema" "_schema.yml" [sole] ∧
      preferred "delete_w.yml" [sole] = some sole ∧
      t.findSchema ⟨"/", ["ws"]⟩ "w" "delete_w.yml" = .ok none :=
  ⟨schemas_eq_ok_iff.1 (by decide +kernel), by decide, by decide +kernel⟩

end Tree

end VarsAdvisor
