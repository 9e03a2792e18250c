import Romanization.Proofs.Service
import Romanization.Proofs.Text.Words
import Romanization.Proofs.Unicode.NormalForm

namespace Romanization

namespace Text

variable {t w : Text} {compose : Bool}

theorem IsWord.composed (h : IsWord w) : IsWord (Unicode.composed w) where
  nonempty := fun hnil => h.nonempty (Unicode.composed_eq_nil_iff.1 hnil)
  solid := Unicode.isBlank_of_mem_composed h.solid

theorem words_composed (t : Text) : (Unicode.composed t).words = t.words.map Unicode.composed := by
  induction t using blank_induction with
  | solid t ht =>
    by_cases hne : t = []
    · rw [hne]
      rfl
    · have hw : IsWord t := ⟨hne, ht⟩
      rw [hw.words_eq, hw.composed.words_eq, List.map_singleton]
  | parted u c v hc hu hv =>
    obtain ⟨b, hb, h⟩ := Unicode.exists_composed_append_blank hc u v
    rw [h, words_append_blank hb, words_append_blank hc, hu, hv, List.map_append]

theorem tidy_eq_unwords (t : Text) (compose : Bool) :
    t.tidy compose = unwords (t.words.map fun w => if compose then Unicode.composed w else w) := by
  unfold tidy
  cases compose with
  | true => simp [words_composed, words_trim]
  | false => simp [words_trim]

theorem isWord_of_mem_prepared (h : w ∈ t.words.map fun w => if compose then Unicode.composed w else w) :
    IsWord w := by
  obtain ⟨v, hv, rfl⟩ := List.mem_map.1 h
  have hw := isWord_of_mem_words hv
  split
  · exact hw.composed
  · exact hw

theorem words_tidy (t : Text) (compose : Bool) :
    (t.tidy compose).words = t.words.map fun w => if compose then Unicode.composed w else w := by
  rw [tidy_eq_unwords, words_unwords fun _ => isWord_of_mem_prepared]

theorem isTidy_tidy (t : Text) (compose : Bool) : (t.tidy compose).IsTidy := by
  rw [tidy_eq_unwords]
  exact isTidy_unwords fun _ => isWord_of_mem_prepared

theorem tidy_tidy (t : Text) (compose : Bool) : (t.tidy compose).tidy compose = t.tidy compose := by
  rw [tidy_eq_unwords, words_tidy, List.map_map, tidy_eq_unwords t]
  cases compose <;> simp [Function.comp_def]

theorem tidy_congr {u : Text} (h : t.words = u.words) (compose : Bool) :
    t.tidy compose = u.tidy compose := by
  rw [tidy_eq_unwords, tidy_eq_unwords, h]

end Text

namespace Service

theorem answer_of_tidy_eq {service : Service} {request : Request} {text : Option Text}
    (h : Text.tidy (text.getD []) service.composes = Text.tidy (request.text.getD []) service.composes)
    (c : Catalog) :
    service.answer c { request with text := text } =
      (service.answer c request).map fun a => { a with input := text } := by
  unfold answer
  simp only [h]
  rcases tableFor c _ request.script request.language with e | table
  · rfl
  cases table with
  | none => rfl
  | some table =>
    rcases CaseMode.ofJson (if request.case.isVoid then service.case else request.case) with e | mode
    · rfl
    · cases request.clusters <;> rfl

theorem tidy_word_by_word (service : Service) :
    (∀ t, Text.tidy t service.composes =
      Text.unwords (t.words.map fun w => if service.composes then Unicode.composed w else w)) ∧
    (∀ t, Text.tidy (Text.tidy t service.composes) service.composes = Text.tidy t service.composes) ∧
    (∀ t, (Text.tidy t service.composes).IsTidy) ∧
    ∀ (c : Catalog) (request : Request) (text : Option Text),
      (text.getD []).words = (request.text.getD []).words →
      service.answer c { request with text := text } =
        (service.answer c request).map fun a => { a with input := text } :=
  ⟨fun t => Text.tidy_eq_unwords t _, fun t => Text.tidy_tidy t _, fun t => Text.isTidy_tidy t _,
    fun c _ _ h => answer_of_tidy_eq (Text.tidy_congr h _) c⟩

theorem tidy_word_by_word_spaced :
    Text.words "  Мой\u00A0 маи\u0306\n".codePoints = Text.words "Мой\tмаи\u0306".codePoints ∧
      ∃ c a, Catalog.standard = .ok c ∧
        answer ⟨true, .string CaseMode.lower.name⟩ c
          ⟨some "Мой\tмаи\u0306".codePoints, some Script.cyrillic.name, none, .null, true⟩ = .ok a ∧
        answer ⟨true, .string CaseMode.lower.name⟩ c
          ⟨some "  Мой\u00A0 маи\u0306\n".codePoints, some Script.cyrillic.name, none, .null, true⟩ =
            .ok { a with input := some "  Мой\u00A0 маи\u0306\n".codePoints } := by
  have hwords : Text.words "  Мой\u00A0 маи\u0306\n".codePoints = Text.words "Мой\tмаи\u0306".codePoints := by
    decide
  obtain ⟨c, hc, hl, -⟩ := Catalog.standard_eq_ok
  obtain ⟨a, ha⟩ : ∃ a, answer ⟨true, .string CaseMode.lower.name⟩ c
      ⟨some "Мой\tмаи\u0306".codePoints, some Script.cyrillic.name, none, .null, true⟩ = .ok a :=
    ⟨_, answer_of_table rfl (tableFor_named (by decide) (Catalog.table_name hl (by decide)) _ _) rfl⟩
  have hb := (tidy_word_by_word ⟨true, .string CaseMode.lower.name⟩).2.2.2 c
    ⟨some "Мой\tмаи\u0306".codePoints, some Script.cyrillic.name, none, .null, true⟩
    (some "  Мой\u00A0 маи\u0306\n".codePoints) hwords
  rw [ha] at hb
  exact ⟨hwords, c, a, hc, ha, hb⟩

end Service

end Romanization
