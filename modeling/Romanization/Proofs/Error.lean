import Romanization.Error
import Romanization.Proofs.Json.Whole

namespace Romanization

theorem Diagnostic.whole_of_text? {d : Diagnostic} {t : Text} (h : d.text? = some t)
    (hm : ∀ m, d.message = .string m → m.Whole) (hc : ∀ c, d.code = .string c → c.Whole) : t.Whole := by
  unfold text? at h
  split at h
  · cases hd : d.message with
    | string m =>
      rw [hd] at h
      cases h
      exact hm _ hd
    | _ =>
      rw [hd] at h
      cases h
  · cases h
    exact Text.whole_append.2 ⟨Text.whole_append.2 ⟨Text.whole_cons.2 ⟨rfl, Json.whole_shown hc⟩,
      Text.whole_codePoints _⟩, Json.whole_shown hm⟩

namespace Error

def plainTexts : Error → List Text
  | duplicatePattern _ table => [table]
  | unknownName name => name.toList
  | folderNotFound path | unreadable path _ | notAnObject path | scriptNotText path
  | languagesNotTexts path | rulesNotList path | badFileRule path _ => [path]
  | _ => []

variable {e : Error}

theorem whole_text (h : ∀ t ∈ e.plainTexts, t.Whole) : e.text.Whole := by
  refine Diagnostic.whole_of_text? e.text?_diagnostic (fun m hm => ?_) (fun c hc => ?_)
  · cases e with
    | duplicatePattern pattern table =>
      cases hm
      refine Text.whole_append.2
        ⟨Text.whole_append.2 ⟨Text.whole_codePoints _, Json.whole_quoted _⟩, ?_⟩
      split
      · exact Text.whole_nil
      · simpa [plainTexts, Json.shown] using h
    | unknownName name =>
      cases hm
      refine Text.whole_append.2 ⟨Text.whole_codePoints _, Json.whole_shown fun t ht => ?_⟩
      cases name with
      | none => cases ht
      | some name =>
        cases ht
        exact h t (by simp [plainTexts])
    | _ =>
      cases hm
      simp_all [plainTexts, Json.whole_quoted, Json.whole_kind]
  · cases e <;> cases hc <;> exact Text.whole_codePoints _

end Error

end Romanization
