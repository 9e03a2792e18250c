import Romanization.Proofs.RuleTable.Built
import Romanization.Proofs.RuleTable.Cut
import Romanization.Proofs.Text.Buffer

namespace Romanization

theorem CaseChoice.apply_nil (usualMode : CaseMode) (choice : CaseChoice) :
    choice.apply usualMode [] = [] := by
  cases choice with
  | usual => cases usualMode <;> rfl
  | mode m => cases m <;> rfl
  | unknown => rfl

namespace Romanizer

variable (r : Romanizer) (choice : CaseChoice) (text : Option Text)

def outcome (clusters : List Cluster) : Text :=
  choice.apply r.case (Text.trim (clusters.flatMap Cluster.output))

theorem render_eq_outcome (text : Text) (clusters : List Cluster) :
    r.render choice text clusters = r.outcome choice clusters := by
  rw [render, text_joined, outcome]

theorem outcome_nil : r.outcome choice [] = [] := CaseChoice.apply_nil r.case choice

theorem transliterate_eq_outcome :
    r.transliterate text choice = r.outcome choice (r.clusters text) := by
  cases text with
  | none => exact (r.outcome_nil choice).symm
  | some text =>
    cases text with
    | nil => exact (r.outcome_nil choice).symm
    | cons c text => exact r.render_eq_outcome choice _ _

def untrimmed (t : RuleTable) (text : Text) : Text := (joined t text.length (t.clusters text)).text

theorem untrimmed_eq (t : RuleTable) (text : Text) :
    untrimmed t text = (t.clusters text).flatMap Cluster.output :=
  text_joined t text.length _

theorem transliterate_eq_untrimmed :
    r.transliterate text choice = choice.apply r.case (untrimmed r.table (text.getD [])).trim := by
  rw [transliterate_eq_outcome, untrimmed_eq]
  rfl

theorem transliterateWithClusters_eq :
    r.transliterateWithClusters text choice = (r.transliterate text choice, r.clusters text) := by
  rw [transliterate_eq_outcome, transliterateWithClusters]
  cases h : r.clusters text with
  | nil => rw [outcome_nil]
  | cons c cs => simp only [render_eq_outcome]

end Romanizer

namespace CaseMode

theorem ofName?_eq_some_iff {name : Text} {m : CaseMode} : ofName? name = some m ↔ name = m.name := by
  constructor
  · intro h
    have := List.find?_some h
    exact (eq_of_beq this).symm
  · rintro rfl
    cases m <;> rfl

theorem string?_bind_ofName?_eq_some_iff {case : Json} {m : CaseMode} :
    case.string?.bind ofName? = some m ↔ case = .string m.name := by
  cases case with
  | string t => simp [Json.string?, ofName?_eq_some_iff]
  | _ => simp [Json.string?]

theorem string?_bind_ofName?_eq_none_iff {case : Json} :
    case.string?.bind ofName? = none ↔ ∀ m : CaseMode, case ≠ .string m.name := by
  simp only [Option.eq_none_iff_forall_ne_some, ne_eq, string?_bind_ofName?_eq_some_iff]

theorem ofJson_name (m : CaseMode) : ofJson (.string m.name) = .ok m := by
  rw [ofJson, string?_bind_ofName?_eq_some_iff.2 rfl]

theorem ofJson_of_ne {case : Json} (h : ∀ m : CaseMode, case ≠ .string m.name) :
    ofJson case = .error (.unknownCase case) := by
  rw [ofJson, string?_bind_ofName?_eq_none_iff.2 h]

end CaseMode

def casing (usual : CaseMode) (case : Json) : Text → Text :=
  let name := (if case.isVoid then .string usual.name else case).string?
  if name = some "lower".codePoints then Text.lower
  else if name = some "upper".codePoints then Text.upper
  else id

theorem casing_name (usual m : CaseMode) : casing usual (.string m.name) = m.apply := by
  cases m <;> rfl

theorem casing_of_isVoid {usual : CaseMode} {case : Json} (h : case.isVoid) :
    casing usual case = usual.apply := by
  rw [← casing_name usual usual, casing, casing, if_pos h, ite_self]

theorem casing_of_ne {usual : CaseMode} {case : Json} (hv : ¬ case.isVoid)
    (h : ∀ m : CaseMode, case ≠ .string m.name) : casing usual case = id := by
  have name_ne : ∀ m : CaseMode, case.string? ≠ some m.name := by
    intro m hn
    cases case with
    | string t =>
      cases hn
      exact h m rfl
    | _ => cases hn
  rw [casing, if_neg hv]
  exact (if_neg (name_ne .lower)).trans (if_neg (name_ne .upper))

theorem CaseChoice.apply_ofJson (usual : CaseMode) (case : Json) :
    (CaseChoice.ofJson case).apply usual = casing usual case := by
  unfold CaseChoice.ofJson
  split
  · next hv => exact (casing_of_isVoid hv).symm
  · next hv =>
    split
    · next m hm =>
      rw [CaseMode.string?_bind_ofName?_eq_some_iff.1 hm]
      exact (casing_name usual m).symm
    · next hn => exact (casing_of_ne hv (CaseMode.string?_bind_ofName?_eq_none_iff.1 hn)).symm

/-- Whether the clusters are wanted or not, a call with a table puts their outputs together and trims and
cases the whole once. A call without a romanizer has no usual mode, so that it needs one of the three
names. -/
theorem transliterate_calls_agree (t : RuleTable) (usual : CaseMode) (text : Option Text) (case : Json) :
    let r : Romanizer := ⟨t, usual⟩
    let outcome := r.transliterate text (.ofJson case)
    outcome = casing usual case (Text.trim ((r.clusters text).flatMap Cluster.output)) ∧
      r.transliterateWithClusters text (.ofJson case) = (outcome, r.clusters text) ∧
      (∀ m : CaseMode, case = .string m.name → transliterate text (.table t) case = .ok outcome) ∧
      ((∀ m : CaseMode, case ≠ .string m.name) →
        transliterate text (.table t) case = .error (.unknownCase case)) ∧
      ((∀ p ∈ t.patterns, ¬ p <:+: text.getD []) → outcome = casing usual case (text.getD []).trim) := by
  intro r outcome
  have houtcome : outcome = casing usual case (Text.trim ((r.clusters text).flatMap Cluster.output)) := by
    rw [← CaseChoice.apply_ofJson]
    exact r.transliterate_eq_outcome _ text
  refine ⟨houtcome, r.transliterateWithClusters_eq _ text, ?_, fun h => ?_, fun h => ?_⟩
  · rintro m rfl
    rw [houtcome, casing_name, transliterate, Romanizer.ofParts, CaseMode.ofJson_name]
    exact congrArg Except.ok (Romanizer.transliterate_eq_outcome ⟨t, m⟩ .usual text)
  · rw [transliterate, Romanizer.ofParts, CaseMode.ofJson_of_ne h]
    rfl
  · rw [houtcome, Romanizer.clusters, RuleTable.flatMap_output_clusters_of_no_pattern h]

theorem transliterate_calls_agree_capitals :
    ∃ t, RuleTable.ofRules [] [("ab".codePoints, "x".codePoints)] = .ok t ∧
      (∀ p ∈ t.patterns, ¬ p <:+: " aß ".codePoints) ∧
      Romanizer.transliterate ⟨t, .lower⟩ (some " aß ".codePoints) (.ofJson (.string CaseMode.upper.name)) =
        "ASS".codePoints ∧
      transliterate (some " aß ".codePoints) (.table t) (.string CaseMode.upper.name) =
        .ok "ASS".codePoints := by
  have built := @RuleTable.ofRules_eq_ok [] [("ab".codePoints, "x".codePoints)] (by decide) (by decide)
  obtain ⟨-, -, one_call, -, no_pattern⟩ := transliterate_calls_agree
    ⟨[], [("ab".codePoints, "x".codePoints)], by decide⟩ .lower (some " aß ".codePoints)
    (.string CaseMode.upper.name)
  have absent : ∀ p ∈ ["ab".codePoints], ¬ p <:+: " aß ".codePoints := by decide
  have cased : casing .lower (.string CaseMode.upper.name) (Text.trim " aß ".codePoints) =
      "ASS".codePoints := by decide
  refine ⟨_, built, absent, (no_pattern absent).trans cased, ?_⟩
  rw [one_call .upper rfl]
  exact congrArg Except.ok ((no_pattern absent).trans cased)

theorem transliterate_calls_differ_title :
    ∃ t, RuleTable.ofRules [] [("a".codePoints, "b".codePoints)] = .ok t ∧
      Romanizer.transliterate ⟨t, .preserve⟩ (some "abc".codePoints) (.ofJson (.string "title".codePoints)) =
        "bbc".codePoints ∧
      transliterate (some "abc".codePoints) (.table t) (.string "title".codePoints) =
        .error (.unknownCase (.string "title".codePoints)) :=
  ⟨_, RuleTable.ofRules_eq_ok (by decide) (by decide), by decide, rfl⟩

end Romanization
