import VarsAdvisor.Document.Resolve
import VarsAdvisor.Proofs.Except
import VarsAdvisor.Proofs.Schema.Report
import VarsAdvisor.Proofs.Text.Parts
import VarsAdvisor.Schema.Validator

/-!
# Positions in key paths

A segment of an error line that selects by position is a row of digits of the line
(`digits_of_mem_segments`). So looking up the line of an error fails only if the error line holds a
row of digits that is too long (`resolveErrors_error`).
-/

namespace VarsAdvisor

open VarsAdvisor.Text

theorem ErrorLine.digits_of_mem_segments {path : List Char} {segment : Segment}
    (h : segment ∈ segments path) (hkind : segment.kind = .index) :
    ∃ cs, segment.value = String.ofList cs ∧ cs ≠ [] ∧ (∀ c ∈ cs, isAsciiDigit c = true) ∧
      cs <:+: path := by
  obtain ⟨piece, hpiece, rfl⟩ := List.mem_map.1 h
  have hdigits : Segment.isDigits (trim piece) = true := by
    unfold Segment.ofChars at hkind
    dsimp only at hkind
    split at hkind
    · next hdigits => exact hdigits
    · cases hkind
  unfold Segment.isDigits at hdigits
  rw [Bool.and_eq_true, Bool.not_eq_true', List.isEmpty_eq_false_iff, List.all_eq_true] at hdigits
  refine ⟨trim piece, rfl, hdigits.1, hdigits.2, ?_⟩
  exact (trim_part piece).trans (((pieces_splitOn '.' _).mem piece hpiece).trans (trim_part path))

theorem ErrorLine.overlong_of_mem_path {raw : String} {segment : Segment}
    (h : segment ∈ (parse raw).path) (hkind : segment.kind = .index)
    {e : Segment.PositionError} (he : segment.position = .error e) :
    ∃ numeral, e = .numeral numeral ∧ Overlong raw.toList numeral := by
  unfold parse at h
  split at h
  · cases h
  · next path message hcut =>
    obtain ⟨cs, hvalue, hne, hdigits, hpart⟩ := digits_of_mem_segments h hkind
    unfold Segment.position at he
    rw [hkind, hvalue] at he
    obtain ⟨numeral, hparse, rfl⟩ := except_mapError_error.1 he
    exact ⟨numeral, rfl, (overlong_of_parseInt hne hdigits hparse).mono
      (hpart.trans (cutAt_part hcut))⟩

namespace Document

theorem find?_error {d : Document} {segment : Segment} {cursor : Nat} {e : Segment.PositionError}
    (h : d.find? segment cursor = .error e) :
    segment.kind = .index ∧ segment.position = .error e := by
  unfold find? at h
  split at h
  · cases h
  · next hkind =>
    rcases except_bind_error.1 h with hposition | ⟨position, -, h⟩
    · exact ⟨hkind, hposition⟩
    · cases h

theorem follow_error {d : Document} {path : KeyPath} {e : Segment.PositionError}
    (h : d.follow path = .error e) :
    ∃ segment ∈ path, segment.kind = .index ∧ segment.position = .error e := by
  rcases except_bind_error.1 h with hfold | ⟨cursor, -, h⟩
  · obtain ⟨cursor, segment, hmem, hadvance⟩ := except_foldlM_error hfold
    rcases except_bind_error.1 hadvance with hfind | ⟨found, -, h⟩
    · exact ⟨segment, hmem, find?_error hfind⟩
    · cases h
  · cases h

theorem mem_path_of_mem_target {line : ErrorLine} {segment : Segment}
    (h : segment ∈ line.target) : segment ∈ line.path := by
  unfold ErrorLine.target at h
  split at h
  · exact List.mem_of_mem_dropLast h
  · exact h

theorem resolveErrors_error {d : Document} {raws : List String} {e : Segment.PositionError}
    (h : d.resolveErrors raws = .error e) :
    ∃ raw ∈ raws, ∃ numeral, e = .numeral numeral ∧ Overlong raw.toList numeral := by
  obtain ⟨raw, hraw, hresolve⟩ := except_mapM_error h
  refine ⟨raw, hraw, ?_⟩
  unfold resolveError at hresolve
  split at hresolve
  · cases hresolve
  · obtain ⟨segment, hmem, hkind, hposition⟩ := follow_error hresolve
    exact ErrorLine.overlong_of_mem_path (mem_path_of_mem_target hmem) hkind hposition

end Document

/-! ## Error lines of the validator -/

namespace Outcome

theorem part_of_mem_contentLines {text line : String} (h : line ∈ contentLines text) :
    line.toList <:+: text.toList := by
  unfold contentLines at h
  obtain ⟨cs, hcs, rfl⟩ := List.mem_map.1 h
  obtain ⟨raw, hraw, rfl⟩ := List.mem_map.1 (List.mem_of_mem_filter hcs)
  rw [String.toList_ofList]
  exact (trim_part raw).trans ((pieces_splitLines _).mem raw hraw)

theorem part_of_mem_extractErrors {stdout line : String} (h : line ∈ extractErrors stdout) :
    line.toList <:+: stdout.toList :=
  part_of_mem_contentLines ((afterMarker_suffix _).subset (List.mem_of_mem_filter h))

/-- Errors come from the output of a validator that ran. -/
theorem part_of_mem_errors {reply : Except ToolFailure ToolRun} {line : String}
    (h : line ∈ (ofReply reply).errors) :
    ∃ run, reply = .ok run ∧ line.toList <:+: run.stdout.toList := by
  cases reply with
  | error failure => cases h
  | ok run =>
    refine ⟨run, rfl, ?_⟩
    unfold ofReply ofRun at h
    dsimp only at h
    split at h
    · exact part_of_mem_extractErrors h
    · split at h
      · cases h
      · split at h <;> cases h

end Outcome

end VarsAdvisor
