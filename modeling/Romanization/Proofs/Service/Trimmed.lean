import Romanization.Proofs.Service.Routing
import Romanization.Proofs.Service.Words
import Romanization.Proofs.Text.Trimmed

namespace Romanization

open Text (IsTrimmed isTrimmed_trim)

theorem CaseChoice.isTrimmed_apply {t : Text} (h : t.IsTrimmed) (usualMode : CaseMode) (choice : CaseChoice) :
    (choice.apply usualMode t).IsTrimmed := by
  cases choice with
  | usual => exact h.cased usualMode
  | mode m => exact h.cased m
  | unknown => exact h

namespace Romanizer

theorem isTrimmed_outcome (r : Romanizer) (choice : CaseChoice) (clusters : List Cluster) :
    (r.outcome choice clusters).IsTrimmed :=
  CaseChoice.isTrimmed_apply (isTrimmed_trim _) r.case choice

theorem isTrimmed_transliterate (r : Romanizer) (text : Option Text) (choice : CaseChoice) :
    (r.transliterate text choice).IsTrimmed := by
  rw [transliterate_eq_outcome]
  exact r.isTrimmed_outcome choice _

theorem Unchecked.isTrimmed_transliterate {r : Unchecked} {text : Option Text} {choice : CaseChoice}
    {output : Text} (h : r.transliterate text choice = .ok output) : output.IsTrimmed := by
  obtain ⟨clusters, -, hc⟩ := bind_eq_ok_iff.1 h
  cases hc
  rw [render_eq_outcome]
  exact isTrimmed_outcome _ choice clusters

end Romanizer

theorem isTrimmed_of_transliterate {text : Option Text} {table : RuleTable.Handed} {case : Json}
    {output : Text} (h : transliterate text table case = .ok output) : output.IsTrimmed := by
  obtain ⟨r | r, -, hr⟩ := bind_eq_ok_iff.1 h
  · cases hr
    exact r.isTrimmed_transliterate text .usual
  · exact Romanizer.Unchecked.isTrimmed_transliterate hr

namespace Service

theorem isTrimmed_of_answer {service : Service} {c : Catalog} {request : Request} {answer : Answer}
    (h : service.answer c request = .ok answer) : answer.output.IsTrimmed := by
  rcases plain_or_romanized rfl h with rfl | ⟨t, mode, -, -, rfl⟩
  · exact (Text.isTidy_tidy _ _).isTrimmed
  · exact Romanizer.isTrimmed_outcome ⟨t, mode⟩ .usual _

/-- Fragments may be blank or have blanks around them: neither a romanizer nor a service puts out a text that
starts or ends with one, and casing brings none back. -/
theorem outputs_trimmed :
    (∀ (r : Romanizer) (text : Option Text) (choice : CaseChoice),
      (r.transliterate text choice).IsTrimmed ∧ (r.transliterateWithClusters text choice).1.IsTrimmed) ∧
    (∀ (text : Option Text) (table : RuleTable.Handed) (case : Json) (output : Text),
      transliterate text table case = .ok output → output.IsTrimmed) ∧
    ∀ (service : Service) (c : Catalog) (request : Request) (answer : Answer),
      service.answer c request = .ok answer → answer.output.IsTrimmed := by
  refine ⟨fun r text choice => ?_, fun _ _ _ _ => isTrimmed_of_transliterate,
    fun _ _ _ _ => isTrimmed_of_answer⟩
  rw [Romanizer.transliterateWithClusters_eq]
  exact ⟨r.isTrimmed_transliterate text choice, r.isTrimmed_transliterate text choice⟩

theorem outputs_trimmed_sigma :
    ∃ (t : RuleTable) (c : Catalog) (a : Answer) (output : Text),
      RuleTable.ofRules "x".codePoints
        [("д".codePoints, [0x2003]), ("ж".codePoints, [0xDF, 0x3A3, 0xA0])] = .ok t ∧
      c.table (some "x".codePoints) = .ok t ∧
      answer ⟨true, .string CaseMode.lower.name⟩ c
        ⟨some " джд\n".codePoints, some "x".codePoints, none, .null, false⟩ = .ok a ∧
      a.output = [0xDF, 0x3C2] ∧ a.output.IsTrimmed ∧
      transliterate (some " джд\n".codePoints) (.table t) (.string CaseMode.upper.name) = .ok output ∧
      output = "SSΣ".codePoints ∧ output.IsTrimmed := by
  have built := @RuleTable.ofRules_eq_ok "x".codePoints
    [("д".codePoints, [0x2003]), ("ж".codePoints, [0xDF, 0x3A3, 0xA0])] (by decide) (by decide)
  obtain ⟨-, one_call, of_service⟩ := outputs_trimmed
  let t : RuleTable := ⟨"x".codePoints, [("д".codePoints, [0x2003]), ("ж".codePoints, [0xDF, 0x3A3, 0xA0])],
    by decide⟩
  let c : Catalog := ⟨[("x".codePoints, ⟨t, .builtIn⟩)], [], none⟩
  have found : c.table (some "x".codePoints) = .ok t :=
    Catalog.table_eq_ok_iff.2 (@Catalog.Names.listed c (some "x".codePoints) ⟨t, .builtIn⟩ (by decide) rfl)
  have answered : answer ⟨true, .string CaseMode.lower.name⟩ c
      ⟨some " джд\n".codePoints, some "x".codePoints, none, .null, false⟩ = .ok _ :=
    answer_of_table rfl (tableFor_named (by decide) found _ _) rfl
  have called : transliterate (some " джд\n".codePoints) (.table t) (.string CaseMode.upper.name) =
      .ok (Romanizer.transliterate ⟨t, .upper⟩ (some " джд\n".codePoints) .usual) := rfl
  exact ⟨t, c, _, _, built, found, answered, by decide +kernel, of_service _ _ _ _ answered, called,
    by decide +kernel, one_call _ _ _ _ called⟩

end Service

end Romanization
