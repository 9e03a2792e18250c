import Mathlib.Data.List.Chain
import Romanization.Proofs.RuleTable.Folding
import Romanization.Proofs.RuleTable.Thorough
import Romanization.Proofs.Scheme.BuiltIn
import Romanization.Proofs.Text.Recasing

/-! Cyrillic in capitals reads as it does in small letters: whatever is raised of a text, as long as no capital
follows a small letter, it is cut at the same places, and what is put out differs in case only. -/

namespace Romanization.Scheme.Cyrillic

open Romanizer (untrimmed)
open Text (Recased CapitalsLead)
open Unicode (lowered upperCase IsRecased Reverts Caseless)

def small : List Rule := (letters ++ pairs).map fun (pattern, fragment) => (pattern.codePoints, fragment.codePoints)

def IsLetter (c : CodePoint) : Prop := [c] ∈ letters.map fun (letter, _) => letter.codePoints

instance (c : CodePoint) : Decidable (IsLetter c) := inferInstanceAs (Decidable (_ ∈ _))

theorem mem_rules_iff {s : Rule} : s ∈ rules ↔ ∃ r ∈ small, s ∈ casings r := by
  have hrules : rules = small.flatMap casings := by
    rw [small, List.flatMap_map]
    rfl
  rw [hrules, List.mem_flatMap]

theorem small_reverts : ∀ r ∈ small, r.1.length ≤ 2 ∧ ∀ c ∈ r.1 ++ r.2, Reverts c := by
  decide +kernel

theorem reverts_of_isLetter {c : CodePoint} (h : IsLetter c) : Reverts c := by
  obtain ⟨l, hl, hc⟩ := List.mem_map.1 h
  have hr : ([c], l.2.codePoints) ∈ small :=
    List.mem_map.2 ⟨l, List.mem_append_left pairs hl, Prod.ext hc rfl⟩
  exact (small_reverts _ hr).2 c List.mem_cons_self

theorem recased_capitalized (t : Text) : Recased t (capitalized t) := by
  cases t with
  | nil => exact .nil
  | cons c t =>
    have hc : capitalized (c :: t) = upperCase c ++ t := by simp [capitalized, Text.upper]
    rw [hc]
    exact .raise c (.refl t)

theorem mem_casings {r s : Rule} : s ∈ casings r ↔
    s = r ∨ s = (capitalized r.1, capitalized r.2) ∨ 1 < r.1.length ∧ s = (r.1.upper, r.2.upper) := by
  obtain ⟨p, f⟩ := r
  by_cases h : 1 < p.length <;> simp [casings, h]

theorem recased_of_mem_casings {r s : Rule} (h : s ∈ casings r) : Recased r.1 s.1 ∧ Recased r.2 s.2 := by
  rcases mem_casings.1 h with rfl | rfl | ⟨-, rfl⟩
  · exact ⟨.refl _, .refl _⟩
  · exact ⟨recased_capitalized _, recased_capitalized _⟩
  · exact ⟨.upper _, .upper _⟩

theorem exists_small {s : Rule} (hs : s ∈ rules) :
    ∃ r ∈ small, s ∈ casings r ∧ (s.1.map lowered, s.2.map lowered) = r ∧ ∀ d ∈ s.2, IsRecased d := by
  obtain ⟨r, hr, hc⟩ := mem_rules_iff.1 hs
  obtain ⟨hp, hf⟩ := List.forall_mem_append.1 (small_reverts r hr).2
  obtain ⟨hrp, hrf⟩ := recased_of_mem_casings hc
  obtain ⟨hpm, -⟩ := hrp.units hp
  obtain ⟨hfm, hfu⟩ := hrf.units hf
  exact ⟨r, hr, hc, Prod.ext hpm hfm, hfu⟩

structure Raised (q : Text) : Prop where
  units : ∀ d ∈ q, IsRecased d
  lead : q.CapitalsLead

/-- A letter or two are raised in one of the ways that there are rules for, since the second is not a capital
after the first. -/
theorem Raised.casing {q : Text} (h : Raised q) (hl : q.length ≤ 2) {p : Text} (hp : q.map lowered = p) :
    q = p ∨ q = capitalized p ∨ 1 < p.length ∧ q = p.upper := by
  subst hp
  match q with
  | [] => exact .inl rfl
  | [d] =>
    refine (h.units d List.mem_cons_self).cased.imp (fun hd => ?_) fun hd => .inl ?_
    · rw [List.map_singleton, ← hd]
    · simp [capitalized, Text.upper, hd]
  | [d, e] =>
    have hsecond := (h.units e (by simp)).cased
    have hlead := (List.isChain_cons_cons.1 h.lead).1
    rcases (h.units d List.mem_cons_self).cased with hd | hd
    -- the first is small, so a second with case is small, too, unless the first has no capital
    · have hlow : e = lowered e → [d, e] = [d, e].map lowered := fun he => by
        rw [List.map_cons, List.map_singleton, ← hd, ← he]
      rcases hsecond with he | he
      · exact .inl (hlow he)
      · rcases hlead with hu | hu
        · refine .inr (.inr ⟨by simp, ?_⟩)
          simp [Text.upper, ← hd, hu, he]
        · exact .inl (hlow (Unicode.lowered_eq hu).1.symm)
    · rcases hsecond with he | he
      · refine .inr (.inl ?_)
        simp [capitalized, Text.upper, hd, ← he]
      · refine .inr (.inr ⟨by simp, ?_⟩)
        simp [Text.upper, hd, he]
  | _ :: _ :: _ :: _ => simp at hl

theorem Raised.exists_mem_casings {q : Text} (h : Raised q) {r : Rule} (hr : q.map lowered = r.1)
    (hl : r.1.length ≤ 2) : ∃ f, (q, f) ∈ casings r := by
  have hlength : q.length ≤ 2 := by rwa [← List.length_map lowered, hr]
  rcases h.casing hlength hr with hq | hq | ⟨hlong, hq⟩
  · exact ⟨_, mem_casings.2 (.inl (Prod.ext hq rfl))⟩
  · exact ⟨_, mem_casings.2 (.inr (.inl (Prod.ext hq rfl)))⟩
  · exact ⟨_, mem_casings.2 (.inr (.inr ⟨hlong, Prod.ext hq rfl⟩))⟩

theorem table_folds : (tableFor .cyrillic).Folds lowered Raised where
  proper := nil_notMem_rulesFor .cyrillic
  mapped s hs := by
    obtain ⟨r, hr, -, rfl, -⟩ := exists_small hs
    exact mem_rules_iff.2 ⟨_, hr, mem_casings.2 (.inl rfl)⟩
  lifted q hq hp := by
    obtain ⟨f, hf⟩ := Dictionary.mem_keys.1 hp
    obtain ⟨r, hr, -, hs, -⟩ := exists_small hf
    have hpattern : q.map lowered = r.1 := by
      rw [← hs]
      simp
    obtain ⟨g, hg⟩ := hq.exists_mem_casings hpattern (small_reverts r hr).1
    exact Dictionary.mem_keys.2 ⟨g, mem_rules_iff.2 ⟨r, hr, hg⟩⟩
  part q text hq ht := ⟨fun d hd => ht.units d (hq.subset hd), ht.lead.infix hq⟩

theorem isRecased_of_mem_untrimmed {text : Text} (h : Raised text) {d : CodePoint}
    (hd : d ∈ untrimmed (tableFor .cyrillic) text) : IsRecased d := by
  rw [Romanizer.untrimmed_eq] at hd
  rcases table_folds.proper.of_mem_outputs hd with ⟨s, hs, hds⟩ | ⟨hm, -⟩
  · obtain ⟨-, -, -, -, hf⟩ := exists_small hs
    exact hf d hds
  · exact h.units d hm

theorem table_eq : cyrillic.table = .ok (tableFor .cyrillic) :=
  RuleTable.ofRules_eq_ok nodup_rules (nil_notMem_rulesFor .cyrillic)

/-- A text of small letters and of units without case reads the same when some of its letters are capitals, as
long as none of these follows a small letter: it is cut at the same places, and what is put out for it is, in
lower case, what is put out for the text. -/
theorem capitals_read_alike :
    ∃ t, cyrillic.table = .ok t ∧
      ∀ text capitals : Text, (∀ c ∈ text, IsLetter c ∨ Caseless c) → Recased text capitals →
        capitals.CapitalsLead →
        (t.clusters capitals).map (fun c => (c.start, c.length)) =
            (t.clusters text).map (fun c => (c.start, c.length)) ∧
          ∀ (mode : CaseMode) (choice : CaseChoice), choice.apply mode = id →
            Text.lower (Romanizer.transliterate ⟨t, mode⟩ (some capitals) choice) =
              Romanizer.transliterate ⟨t, mode⟩ (some text) choice := by
  refine ⟨_, table_eq, fun text capitals ht hr hlead => ?_⟩
  obtain ⟨rfl, hunits⟩ := hr.units fun c hc => (ht c hc).elim reverts_of_isLetter Caseless.reverts
  have hraised : Raised capitals := ⟨hunits, hlead⟩
  refine ⟨?_, fun mode choice hid => ?_⟩
  · rw [table_folds.clusters_map hraised, List.map_map]
    rfl
  · have hplain : ∀ d ∈ Text.trim (untrimmed (tableFor .cyrillic) capitals),
        d ≠ 0x3A3 ∧ d ≠ 0x130 :=
      fun d hd => (isRecased_of_mem_untrimmed hraised (Text.trim_subset _ hd)).plain
    rw [Romanizer.transliterate_eq_untrimmed, Romanizer.transliterate_eq_untrimmed, hid]
    calc Text.lower (Text.trim (untrimmed (tableFor .cyrillic) capitals))
      _ = (Text.trim (untrimmed (tableFor .cyrillic) capitals)).map lowered :=
        Text.lower_eq_map hplain
      _ = Text.trim ((untrimmed (tableFor .cyrillic) capitals).map lowered) :=
        (Text.trim_map Unicode.isBlank_lowered _).symm
      _ = Text.trim (untrimmed (tableFor .cyrillic) (capitals.map lowered)) := by
        rw [table_folds.untrimmed_map hraised]

theorem capitals_read_alike_pairs :
    ∃ t, cyrillic.table = .ok t ∧
      (∀ c ∈ "новый съезд 7".codePoints, IsLetter c ∨ Caseless c) ∧
      Recased "новый съезд 7".codePoints "НОВЫй СЪЕЗД 7".codePoints ∧
      CapitalsLead "НОВЫй СЪЕЗД 7".codePoints ∧
      (t.clusters "НОВЫй СЪЕЗД 7".codePoints).map (fun c => (c.start, c.length)) =
        (t.clusters "новый съезд 7".codePoints).map (fun c => (c.start, c.length)) ∧
      Romanizer.transliterate ⟨t, .preserve⟩ (some "НОВЫй СЪЕЗД 7".codePoints) .usual =
        "NOVY SYEZD 7".codePoints ∧
      Text.lower (Romanizer.transliterate ⟨t, .preserve⟩ (some "НОВЫй СЪЕЗД 7".codePoints) .usual) =
        Romanizer.transliterate ⟨t, .preserve⟩ (some "новый съезд 7".codePoints) .usual := by
  have units : ∀ c ∈ "новый съезд 7".codePoints, IsLetter c ∨ Caseless c := by decide +kernel
  have recased : Recased "новый съезд 7".codePoints "НОВЫй СЪЕЗД 7".codePoints :=
    .raise 0x43D (.raise 0x43E (.raise 0x432 (.raise 0x44B (.keep 0x439 (.keep 0x20
      (.upper "съезд 7".codePoints))))))
  have lead : CapitalsLead "НОВЫй СЪЕЗД 7".codePoints := by decide +kernel
  obtain ⟨t, ht, h⟩ := capitals_read_alike
  obtain ⟨spans, outputs⟩ := h _ _ units recased lead
  have hknown : tableFor .cyrillic = t := Except.ok.inj (table_eq.symm.trans ht)
  refine ⟨t, ht, units, recased, lead, spans, ?_, outputs .preserve .usual rfl⟩
  rw [← hknown]
  decide +kernel

end Romanization.Scheme.Cyrillic
