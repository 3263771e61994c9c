import VarsAdvisor.Proofs.Document.Locality

/-!
# Documents behind a start marker

A line `---` may stand in front of a document. A path that starts with a field name does not notice
it and leads one line further down. A path that starts with a position does: the scan takes the
marker for an item without indentation, the first one of all (`listItems_withMarker`). So behind the
marker a position selects an item that stands one place ahead among the unindented ones, or none,
and the path leads one line further down only if it leads from there to the right line all the same
(`resolve_withMarker_iff`).
-/

namespace VarsAdvisor.Document

open VarsAdvisor.Text

variable {d : Document} {s : Segment} {rest : KeyPath} {n : Nat}

/-- The document with a start marker in front of it. -/
def withMarker (d : Document) : Document :=
  ⟨"---" :: d.lines⟩

/-- The item of a document that a position selects behind a start marker: the marker itself takes
the first place, ahead of the unindented items. -/
def itemBehindMarker? (d : Document) : Nat → Option Nat
  | 0 => none
  | n + 1 => (itemsBehind [] 1 d.lines)[n]?

theorem listItems_withMarker (lines : List String) :
    listItems 1 ("---" :: lines) = 1 :: (itemsBehind [] 1 lines).map (· + 1) := by
  have hitem : isItem "---".toList = true := by decide
  have hindent : indentation "---".toList = [] := by decide
  rw [listItems_cons_of_item hitem, hindent, itemsBehind_add]

/-- Behind the marker, a position leads from the top to the item that it selects there, and to the
marker if there is none. -/
theorem advance_withMarker (hposition : s.position = .ok (n : Int)) :
    d.withMarker.advance 1 s = .ok (((d.itemBehindMarker? n).map (· + 1)).getD 1) := by
  have hlines : d.withMarker.linesFrom 1 = "---" :: d.lines := rfl
  rw [advance_position hposition, hlines, listItems_withMarker]
  cases n with
  | zero => rfl
  | succ n =>
    rw [List.getElem?_cons_succ, List.getElem?_map]
    rfl

theorem resolve_withMarker (hrest : rest ≠ []) (hposition : s.position = .ok (n : Int)) :
    d.withMarker.resolve (s :: rest) =
      match d.itemBehindMarker? n with
      | some item => (rest.foldlM d.advance item).map (· + 1)
      | none => d.withMarker.follow rest := by
  rw [resolve_cons s hrest, List.foldlM_cons, advance_withMarker hposition, except_ok_bind]
  cases hitem : d.itemBehindMarker? n with
  | none => exact (follow_eq _ rest).symm
  | some item =>
    have hpos : 1 ≤ item := by
      cases n with
      | zero => cases hitem
      | succ n => exact (mem_itemsBehind (List.mem_of_getElem? hitem)).1
    exact foldlM_behind hpos ["---"] rest

/-- From the top, a position leads to the item at this place in the first list. -/
theorem resolve_of_listItems {right : Nat} (hrest : rest ≠ [])
    (hposition : s.position = .ok (n : Int))
    (hright : (listItems 1 d.lines)[n]? = some right) :
    d.resolve (s :: rest) = rest.foldlM d.advance right := by
  have hlines : d.linesFrom 1 = d.lines := rfl
  rw [resolve_cons s hrest, List.foldlM_cons, advance_position hposition, hlines, hright]
  rfl

/-- A path of two or more segments whose first one is found in a document leads one line further
down behind a start marker, if this first one is a field name that the marker does not show. If it
is a position, that is so just if the rest of the path leads from the item that is selected behind
the marker to the same line as from the right one; where none is selected, the rest is looked for
from the top. -/
theorem resolve_withMarker_iff (d : Document) (s : Segment) (rest : KeyPath) (hrest : rest ≠ []) :
    (∀ key, s = ⟨.key, key⟩ → (∃ l ∈ d.lines, shows key l = true) → shows key "---" = false →
      d.withMarker.resolve (s :: rest) = (d.resolve (s :: rest)).map (· + 1)) ∧
    ∀ n right : Nat, s.position = .ok (n : Int) → (listItems 1 d.lines)[n]? = some right →
      (d.withMarker.resolve (s :: rest) = (d.resolve (s :: rest)).map (· + 1) ↔
        match d.itemBehindMarker? n with
        | some item => rest.foldlM d.advance item = rest.foldlM d.advance right
        | none => d.withMarker.follow rest = (rest.foldlM d.advance right).map (· + 1)) := by
  constructor
  · rintro key rfl hshown hmarker
    have hmarkers : ∀ l ∈ ["---"], shows key l = false := List.forall_mem_singleton.2 hmarker
    have hbehind := resolve_behind hrest hmarkers hshown
    exact hbehind
  · intro n right hposition hright
    rw [resolve_withMarker hrest hposition, resolve_of_listItems hrest hposition hright]
    cases d.itemBehindMarker? n with
    | none => exact Iff.rfl
    | some item => exact except_map_inj fun _ _ => Nat.succ.inj

theorem resolve_withMarker_iff_names :
    let d : Document := ⟨["- name: a", "- name: b"]⟩
    let byName : KeyPath := [⟨.key, "name"⟩, ⟨.index, "1"⟩]
    let byPosition : KeyPath := [⟨.index, "1"⟩, ⟨.key, "name"⟩]
    (∃ l ∈ d.lines, shows "name" l = true) ∧ shows "name" "---" = false ∧
      d.withMarker.resolve byName = (d.resolve byName).map (· + 1) ∧
      (listItems 1 d.lines)[1]? = some 2 ∧ d.itemBehindMarker? 1 = some 1 ∧
      d.withMarker.resolve byPosition ≠ (d.resolve byPosition).map (· + 1) := by
  intro d byName byPosition
  have hshown : ∃ l ∈ d.lines, shows "name" l = true := ⟨"- name: a", by decide, by decide⟩
  have hmarker : shows "name" "---" = false := by decide
  have hright : (listItems 1 d.lines)[1]? = some 2 := by decide
  have hitem : d.itemBehindMarker? 1 = some 1 := by decide
  have hname := (resolve_withMarker_iff d ⟨.key, "name"⟩ [⟨.index, "1"⟩] (by decide)).1
    "name" rfl hshown hmarker
  have hposition := (resolve_withMarker_iff d ⟨.index, "1"⟩ [⟨.key, "name"⟩] (by decide)).2
    1 2 (by decide) hright
  have hbehind : [⟨.key, "name"⟩].foldlM d.advance 1 = .ok 1 := by decide
  have hat : [⟨.key, "name"⟩].foldlM d.advance 2 = .ok 2 := by decide
  rw [hitem] at hposition
  dsimp only at hposition
  rw [hbehind, hat] at hposition
  exact ⟨hshown, hmarker, hname, hright, hitem, fun h => nomatch hposition.1 h⟩

/-- The second of two items, and the first one in its place once a marker stands in front. -/
theorem marker_counts_as_item :
    let d : Document := ⟨["- name: a", "- name: b"]⟩
    let path : KeyPath := [⟨.index, "1"⟩, ⟨.key, "name"⟩]
    "---" ∉ d.lines ∧ 1 < (listItems 1 d.lines).length ∧ d.resolve path = .ok 2 ∧
      d.withMarker.resolve path = .ok 2 := by
  decide

end VarsAdvisor.Document
