import TenantAccess.Proofs.Format.Fields
import TenantAccess.Proofs.Json.Document
import TenantAccess.Proofs.Settings

/-!
# Typed identifiers

A person may type an identifier with white space around it, and usernames in the settings are looked
up verbatim. Both come to the same text: what `Identifier.parse` makes of a typed text has no white
space at its ends, is read again as it is, and is written and shown as it is; and accepted settings
have a trimmed username, so a typed text stands for the supervisor when it is the username with
white space around it and in no other case (`exists_parse_owns_iff`). The main statement is
`parse_normalizes`.
-/

namespace TenantAccess

open Json

namespace Identifier

variable {kind : IdKind} {s : String}

/-- What an identifier is written as is read back as the identifier. -/
theorem ofText_compact (id : Identifier kind) :
    Identifier.codec.read.ofText (Identifier.codec.write id).compact = .ok id := by
  have hrestores : Identifier.codec.Restores (fun _ _ => False) fun id : Identifier kind => id :=
    Identifier.restores
  exact Reader.ofText_eq_ok (Doc.ofText_compact _) (hrestores id _ (.refl _))

/-- White space around a text does not change the identifier that it stands for. -/
theorem parse_of_isPaddingOf {core : String} (h : Text.IsPaddingOf s core) :
    (parse s : Except StoreFault (Identifier kind)) = parse core :=
  parse_congr h.trim_eq

/-- A trimmed text that is not empty stands for the identifier with this text. -/
theorem parse_eq_self (htrimmed : Text.IsTrimmed s) (hne : s ≠ "") :
    parse s = .ok (⟨s⟩ : Identifier kind) := by
  have htrim := Text.trim_eq_self_iff.2 htrimmed
  refine parse_eq_ok_iff.2 ⟨fun hblank => hne ?_, by rw [htrim]⟩
  rw [← htrim, Text.trim_eq_empty_iff.2 hblank]

/-- When the settings are accepted, a text stands for the supervisor's id if it is the supervisor's
username with white space around it. -/
theorem exists_parse_owns_iff {settings : AdminSettings} (h : settings.validate = .ok ()) :
    (∃ id : AccountId, parse s = .ok id ∧ settings.supervisor.owns id) ↔
      Text.IsPaddingOf s settings.supervisor.username := by
  obtain ⟨⟨hblank, htrimmed⟩, -⟩ := AdminSettings.validate_eq_ok_iff.1 h
  rw [← Text.trim_eq_iff_isPaddingOf htrimmed]
  constructor
  · rintro ⟨id, hid, howns⟩
    obtain ⟨-, rfl⟩ := parse_eq_ok_iff.1 hid
    exact (of_decide_eq_true howns).symm
  · intro htrim
    have hother : ¬ Text.isBlank s := by
      rw [← Text.trim_eq_empty_iff, htrim]
      exact fun hempty => hblank (hempty ▸ rfl)
    exact ⟨⟨Text.trim s⟩, parse_eq_ok_iff.2 ⟨hother, rfl⟩, decide_eq_true htrim.symm⟩

/-- For every kind of identifier

* a text is refused if it holds white space only;
* any other text stands for an identifier whose text is not empty, has no white space at its ends,
  and is the typed text but for white space around it; this text stands for the identifier itself,
  is shown of it, is written of it and is read back as it;
* white space around a text makes no difference.

So when settings are accepted, the texts that stand for the supervisor are the supervisor's username
with white space around it. -/
theorem parse_normalizes (s : String) :
    (∀ kind : IdKind,
      (∀ fault, (parse s : Except StoreFault (Identifier kind)) = .error fault ↔
        (∀ c ∈ s.toList, Text.isWhite c) ∧ fault = .invalidId s!"{kind.name}: blank") ∧
      ((∃ c ∈ s.toList, ¬ Text.isWhite c) → ∃ id : Identifier kind, parse s = .ok id ∧
        id.text ≠ "" ∧ Text.IsTrimmed id.text ∧ Text.IsPaddingOf s id.text ∧
        parse id.text = .ok id ∧ toString id = id.text ∧
        Identifier.codec.write id = .text id.text ∧
        Identifier.codec.read.ofText (Identifier.codec.write id).compact = .ok id) ∧
      ∀ before behind, Text.isBlank before → Text.isBlank behind →
        (parse (before ++ s ++ behind) : Except StoreFault (Identifier kind)) = parse s) ∧
    ∀ settings : AdminSettings, settings.validate = .ok () →
      ((∃ id : AccountId, parse s = .ok id ∧ settings.supervisor.owns id) ↔
        Text.IsPaddingOf s settings.supervisor.username) := by
  have hwhite : Text.isBlank s ↔ ∀ c ∈ s.toList, Text.isWhite c := List.all_eq_true
  refine ⟨fun kind => ⟨fun fault => ?_, fun hother => ?_, fun before behind hbefore hbehind => ?_⟩,
    fun settings h => exists_parse_owns_iff h⟩
  · rw [parse_eq_error_iff, hwhite]
  · have hblank : ¬ Text.isBlank s := by
      simpa [hwhite] using hother
    have hne : Text.trim s ≠ "" := fun hempty => hblank (Text.trim_eq_empty_iff.1 hempty)
    have htrimmed : Text.IsTrimmed (Text.trim s) := Text.trim_eq_self_iff.1 (Text.trim_trim s)
    exact ⟨⟨Text.trim s⟩, parse_eq_ok_iff.2 ⟨hblank, rfl⟩, hne, htrimmed, Text.isPaddingOf_trim s,
      parse_eq_self htrimmed hne, rfl, rfl, ofText_compact _⟩
  · exact parse_of_isPaddingOf ⟨before, behind, hbefore, hbehind, rfl⟩

/-- The supervisor is reached with a tab and a line break around the username, and a text of
ideographic space reaches nobody. -/
theorem parse_normalizes_padded :
    ({} : AdminSettings).validate = .ok () ∧
      (∃ id : AccountId, parse "\tsyssa\n" = .ok id ∧ ({} : AdminSettings).supervisor.owns id) ∧
      (parse "\u3000" : Except StoreFault AccountId) = .error (.invalidId "AccountId: blank") := by
  have hvalid : ({} : AdminSettings).validate = .ok () := rfl
  have hblank : Text.isBlank "\u3000" := rfl
  refine ⟨hvalid, ?_, ?_⟩
  · exact ((parse_normalizes "\tsyssa\n").2 {} hvalid).2 ⟨"\t", "\n", rfl, rfl, rfl⟩
  · exact (((parse_normalizes "\u3000").1 .account).1 _).2 ⟨List.all_eq_true.1 hblank, rfl⟩

end Identifier

end TenantAccess
