import Mathlib.Data.List.Infix
import VarsAdvisor.Text.Search
import VarsAdvisor.Text.WideText

/-!
# Strings among texts of code points

A string is got back from the wide text that it is (`string?_eq_some_iff`), and a wide text made of
two is a string if both are. To a string it makes no difference whether it is searched, cut or
trimmed as characters or as code points.
-/

namespace VarsAdvisor.Text

variable {cs sep needle : List Char} {c : Char}

/-! ## Code points of characters -/

@[simp] theorem pointsOf_nil : pointsOf [] = [] := rfl

@[simp] theorem pointsOf_cons (c : Char) (cs : List Char) :
    pointsOf (c :: cs) = .char c :: pointsOf cs := rfl

@[simp] theorem pointsOf_append (front back : List Char) :
    pointsOf (front ++ back) = pointsOf front ++ pointsOf back :=
  List.map_append

@[simp] theorem length_pointsOf (cs : List Char) : (pointsOf cs).length = cs.length :=
  List.length_map _

theorem char_injective : Function.Injective CodePoint.char := fun _ _ => CodePoint.char.inj

theorem pointsOf_injective : Function.Injective pointsOf :=
  List.map_injective_iff.2 char_injective

@[simp] theorem pointsOf_inj {a b : List Char} : pointsOf a = pointsOf b ↔ a = b :=
  pointsOf_injective.eq_iff

@[simp] theorem char_mem_pointsOf : CodePoint.char c ∈ pointsOf cs ↔ c ∈ cs :=
  List.mem_map_of_injective char_injective

theorem mapM_char?_pointsOf (cs : List Char) : (pointsOf cs).mapM CodePoint.char? = some cs := by
  induction cs with
  | nil => rfl
  | cons c r ih => simp [CodePoint.char?, ih]

/-- Code points that are characters throughout. -/
theorem mapM_char?_eq_some_iff {points : List CodePoint} :
    points.mapM CodePoint.char? = some cs ↔ points = pointsOf cs := by
  refine ⟨fun h => ?_, fun h => h ▸ mapM_char?_pointsOf cs⟩
  induction points generalizing cs with
  | nil => cases h; rfl
  | cons p r ih =>
    cases p with
    | char c =>
      cases hr : r.mapM CodePoint.char? with
      | none => simp [CodePoint.char?, hr] at h
      | some rest =>
        simp only [List.mapM_cons, CodePoint.char?, hr] at h
        cases h
        rw [pointsOf_cons, ih hr]
    | surrogate d => simp [CodePoint.char?] at h

/-! ## Searching, cutting and trimming -/

theorem pointsOf_prefix_iff : pointsOf needle <+: pointsOf cs ↔ needle <+: cs :=
  List.prefix_map_iff_of_injective char_injective

theorem pointsOf_infix_iff : pointsOf needle <:+: pointsOf cs ↔ needle <:+: cs := by
  refine ⟨?_, fun h => h.map CodePoint.char⟩
  rintro ⟨front, back, h⟩
  obtain ⟨start, rest, rfl, hstart, -⟩ := List.map_eq_append_iff.1 h.symm
  obtain ⟨before, found, rfl, -, hfound⟩ := List.map_eq_append_iff.1 hstart
  rw [← pointsOf_injective hfound]
  exact ⟨before, rest, rfl⟩

theorem cutAt_pointsOf (sep cs : List Char) :
    cutAt (pointsOf sep) (pointsOf cs) =
      (cutAt sep cs).map fun (before, after) => (pointsOf before, pointsOf after) := by
  induction cs with
  | nil => cases sep <;> rfl
  | cons c r ih =>
    have hhere : (pointsOf sep).isPrefixOf (pointsOf (c :: r)) = sep.isPrefixOf (c :: r) := by
      rw [Bool.eq_iff_iff, List.isPrefixOf_iff_prefix, List.isPrefixOf_iff_prefix,
        pointsOf_prefix_iff]
    rw [pointsOf_cons] at hhere ⊢
    rw [cutAt, cutAt, hhere, ih]
    split
    · simp [pointsOf]
    · cases cutAt sep r <;> rfl

theorem dropTrailing_pointsOf (p : CodePoint → Bool) (cs : List Char) :
    dropTrailing p (pointsOf cs) = pointsOf (dropTrailing (fun c => p (.char c)) cs) := by
  unfold dropTrailing pointsOf
  rw [← List.map_reverse, List.dropWhile_map, List.map_reverse]
  rfl

theorem trimPoints_pointsOf (cs : List Char) : trimPoints (pointsOf cs) = pointsOf (trim cs) := by
  have hstart : (pointsOf cs).dropWhile CodePoint.isBlank = pointsOf (trimStart cs) :=
    List.dropWhile_map
  unfold trimPoints
  rw [hstart, dropTrailing_pointsOf]
  rfl

/-! ## Strings -/

namespace WideText

@[simp] theorem points_ofString (s : String) : (ofString s).points = pointsOf s.toList := rfl

@[simp] theorem points_append (a b : WideText) : (a ++ b).points = a.points ++ b.points := rfl

theorem string?_eq_some_iff {t : WideText} {s : String} :
    t.string? = some s ↔ t = ofString s := by
  obtain ⟨points⟩ := t
  simp only [string?, Option.map_eq_some_iff, mapM_char?_eq_some_iff, ofString, mk.injEq]
  constructor
  · rintro ⟨cs, hpoints, rfl⟩
    rw [hpoints, String.toList_ofList]
  · exact fun h => ⟨s.toList, h, String.ofList_toList⟩

@[simp] theorem string?_ofString (s : String) : (ofString s).string? = some s :=
  string?_eq_some_iff.2 rfl

@[simp] theorem isString_ofString (s : String) : (ofString s).isString = true := by
  simp [isString]

theorem isString_iff {t : WideText} : t.isString = true ↔ ∃ s : String, t = ofString s := by
  simp [isString, Option.isSome_iff_exists, string?_eq_some_iff]

theorem ofString_append (a b : String) : ofString a ++ ofString b = ofString (a ++ b) := by
  show mk (pointsOf a.toList ++ pointsOf b.toList) = mk (pointsOf (a ++ b).toList)
  rw [String.toList_append, pointsOf_append]

theorem isString_append {a b : WideText} (ha : a.isString = true) (hb : b.isString = true) :
    (a ++ b).isString = true := by
  obtain ⟨a, rfl⟩ := isString_iff.1 ha
  obtain ⟨b, rfl⟩ := isString_iff.1 hb
  rw [ofString_append, isString_ofString]

@[simp] theorem ofString_inj {a b : String} : ofString a = ofString b ↔ a = b := by
  simp [ofString, String.toList_inj]

@[simp] theorem shape_ofString (s : String) : (ofString s).shape = s := by
  have hfaces : (ofString s).faces = s.toList := by
    simp [faces, pointsOf, Function.comp_def, CodePoint.face]
  rw [shape, hfaces, String.ofList_toList]

end WideText

end VarsAdvisor.Text
