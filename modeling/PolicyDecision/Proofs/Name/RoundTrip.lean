import PolicyDecision.Name
import PolicyDecision.Proofs.Text.Split

/-! Names are read back from the text that they are written as. -/

namespace PolicyDecision

open Text

namespace Rfc822Name

variable {text : String} {name : Rfc822Name} {before after : List Char}

lemma ofParts?_eq_some (h : ofParts? before after = some name) :
    name.written.toList = before ++ '@' :: after := by
  rw [ofParts?] at h
  split at h
  case isTrue => cases h
  case isFalse =>
    cases h
    simp [written]

/-- A mail address is written as the text between the white space around it. -/
lemma written_of_read (h : read text = .ok name) : name.written = trim text := by
  rw [read] at h
  split at h
  case h_2 => cases h
  case h_1 n hparts =>
    cases h
    obtain ⟨⟨before, after⟩, hsplit, hof⟩ := Option.bind_eq_some_iff.mp hparts
    rw [← String.toList_inj, ofParts?_eq_some hof, trim, String.toList_ofList,
      splitLast_eq_some hsplit]

theorem read_written (h : read text = .ok name) : read name.written = .ok name := by
  rw [written_of_read h, read, trimmed_trim, ← read, h]

end Rfc822Name

namespace X500Name

variable {text : String} {name : X500Name} {cs before after : List Char}

lemma readPart_blanks_append (h : ∀ c ∈ before, isBlank c = true) :
    readPart (before ++ cs) = readPart cs := by
  rw [readPart, readPart, splitFirst_append (not_mem_blanks (by decide) h)]
  cases splitFirst '=' cs with
  | none => rfl
  | some parts =>
    obtain ⟨type, value⟩ := parts
    simp only [Option.map_some, trimmed_blanks_append h]

lemma readPart_append_blanks (h : ∀ c ∈ after, isBlank c = true) :
    readPart (cs ++ after) = readPart cs := by
  rw [readPart, readPart, splitFirst_append_right (not_mem_blanks (by decide) h)]
  cases splitFirst '=' cs with
  | none => rfl
  | some parts =>
    obtain ⟨type, value⟩ := parts
    simp only [Option.map_some, trimmed_append_blanks h]

/-- White space around a name is in its first and its last part, where it does not count. -/
lemma mapM_readPart_trimmed (cs : List Char) :
    (splitAll ',' (trimmed cs)).mapM readPart = (splitAll ',' cs).mapM readPart := by
  obtain ⟨before, after, hbefore, hafter, hcs⟩ := exists_blanks cs
  have hcommas : ',' ∉ before ∧ ',' ∉ after :=
    ⟨not_mem_blanks (by decide) hbefore, not_mem_blanks (by decide) hafter⟩
  obtain ⟨first, rest, hinner, houter⟩ := splitAll_append (trimmed cs ++ after) hcommas.1
  obtain ⟨init, last, htrimmed, hright⟩ := splitAll_append_right (trimmed cs) hcommas.2
  have hfront : (splitAll ',' cs).mapM readPart =
      (splitAll ',' (trimmed cs ++ after)).mapM readPart := by
    conv_lhs => rw [hcs, houter]
    rw [hinner, List.mapM_cons, List.mapM_cons, readPart_blanks_append hbefore]
  have hback : (splitAll ',' (trimmed cs ++ after)).mapM readPart =
      (splitAll ',' (trimmed cs)).mapM readPart := by
    rw [hright, htrimmed, List.mapM_append, List.mapM_append, List.mapM_cons, List.mapM_cons,
      readPart_append_blanks hafter]
  rw [hfront, hback]

/-- The white space around a distinguished name is left out of the text that is kept; the parts do
not change with it. -/
theorem read_text (h : read text = .ok name) : read name.text = .ok name := by
  rw [read] at h
  split at h
  case h_2 => cases h
  case h_1 parts hparts =>
    cases h
    have htrimmed : (splitAll ',' (trim text).toList).mapM readPart = .ok parts := by
      rw [trim, String.toList_ofList, mapM_readPart_trimmed, hparts]
    rw [read, htrimmed, trim_trim]

end X500Name

end PolicyDecision
