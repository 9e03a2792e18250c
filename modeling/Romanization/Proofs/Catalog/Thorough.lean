import Romanization.Proofs.Catalog.Standard
import Romanization.Proofs.RuleTable.Thorough
import Romanization.Proofs.Scheme.Brahmic.Respelling

namespace Romanization

namespace Dictionary

variable {α : Type}

theorem of_mem_foldl_putNew {f : Text → Text} {entries d : Dictionary α} {e : Text × α}
    (h : e ∈ entries.foldl (fun d e => d.putNew (f e.1) e.2) d) :
    e ∈ d ∨ ∃ k, (k, e.2) ∈ entries := by
  induction entries generalizing d with
  | nil => exact .inl h
  | cons first entries ih =>
    rcases ih h with h | ⟨k, hk⟩
    · change e ∈ d.putNew (f first.1) first.2 at h
      unfold putNew at h
      split at h
      · exact .inl h
      · rcases List.mem_append.1 h with h | h
        · exact .inl h
        · obtain rfl := List.mem_singleton.1 h
          exact .inr ⟨first.1, List.mem_cons_self⟩
    · exact .inr ⟨k, List.mem_cons_of_mem _ hk⟩

end Dictionary

namespace Scheme

def PlainFragments (rules : Dictionary Text) : Prop := ∀ r ∈ rules, ∀ c ∈ r.2, c < 0x80

namespace Brahmic.Block

variable {b : Block} {c : CodePoint} {p : Text}

theorem plain_sounds : ∀ b ∈ blocks, ∀ e ∈ b.letterSounds ++ nuktaConsonants ++ b.otherSounds,
    ∀ c ∈ e.2.codePoints, c < 0x80 := by
  decide +kernel

theorem plainFragments_letters {sounds : Sounds} (h : ∀ e ∈ sounds, ∀ c ∈ e.2.codePoints, c < 0x80) :
    PlainFragments (b.letters sounds) := by
  rintro r hr
  obtain ⟨e, he, rfl⟩ := List.mem_map.1 hr
  exact h e he

theorem plainFragments_consonantSounds (hb : b ∈ blocks) : PlainFragments b.consonantSounds := by
  have hsounds := plain_sounds b hb
  simp only [List.forall_mem_append, letterSounds] at hsounds
  obtain ⟨⟨⟨hconsonants, hextra⟩, hnukta⟩, -⟩ := hsounds
  have hlisted : PlainFragments b.listedConsonants := by
    rw [listedConsonants_eq]
    refine List.forall_mem_append.2 ⟨List.forall_mem_append.2 ⟨?_, ?_⟩, ?_⟩
    · exact plainFragments_letters hconsonants
    · rintro r hr
      obtain ⟨e, he, rfl⟩ := List.mem_map.1 hr
      exact plainFragments_letters hnukta e he
    · exact plainFragments_letters hextra
  intro r hr
  rw [consonantSounds_eq] at hr
  rcases Dictionary.of_mem_foldl_putNew hr with hr | ⟨k, hk⟩
  · exact hlisted r hr
  · exact hlisted (k, r.2) hk

theorem plainFragments_rules (hb : b ∈ blocks) : PlainFragments b.rules := by
  have hsounds := plain_sounds b hb
  obtain ⟨-, hother⟩ := List.forall_mem_append.1 hsounds
  have hsigns : PlainFragments b.signRules := by
    refine plainFragments_letters fun e he => hother e ?_
    simp only [otherSounds, List.mem_append, he, true_or, or_true]
  have hendings : PlainFragments b.endings := by
    refine List.forall_mem_cons.2 ⟨by decide, List.forall_mem_cons.2 ⟨?_, hsigns⟩⟩
    exact fun c hc => absurd hc List.not_mem_nil
  intro r hr
  rcases List.mem_append.1 ((rules_perm b).mem_iff.1 hr) with hr | hr
  · obtain ⟨l, s, e, v, hl, he, -, hf⟩ := mem_spelledRules_iff.1 hr
    rw [hf]
    exact List.forall_mem_append.2 ⟨plainFragments_consonantSounds hb _ hl, hendings _ he⟩
  · exact plainFragments_letters hother r hr

theorem mem_keys_of_other? (hb : b ∈ blocks) (h : (b.other? c).isSome) :
    [c] ∈ Dictionary.keys b.rules := by
  obtain ⟨f, hf⟩ := Option.isSome_iff_exists.1 h
  exact Dictionary.mem_keys.2 ⟨f, (mem_rules_iff hb).2 (.inr ⟨c, rfl, hf⟩)⟩

theorem unit_mem_keys (hb : b ∈ blocks) (hp : p ∈ Dictionary.keys b.rules) (hc : c ∈ p) :
    [c] ∈ Dictionary.keys b.rules := by
  obtain ⟨f, hf⟩ := Dictionary.mem_keys.1 hp
  rcases (mem_rules_iff hb).1 hf with ⟨l, s, e, v, hl, he, rfl, -⟩ | ⟨d, rfl, -⟩
  · rcases List.mem_append.1 hc with hc | hc
    · obtain ⟨d, hd, rfl | rfl⟩ := isSpelling_of_mem_keys hb (Dictionary.mem_keys.2 ⟨s, hl⟩)
      · obtain rfl := List.mem_singleton.1 hc
        exact single_mem_patterns hb hd
      · simp only [List.mem_cons, List.not_mem_nil, or_false] at hc
        rcases hc with rfl | rfl
        · exact single_mem_patterns hb hd
        · exact mem_keys_of_other? hb (by rw [other?_nukta hb]; rfl)
    · rcases mem_endings_iff.1 he with ⟨rfl, -⟩ | ⟨m, rfl, hm⟩
      · cases hc
      · obtain rfl := List.mem_singleton.1 hc
        exact mem_keys_of_other? hb (by rw [other?_of_vowel? hb hm]; rfl)
  · obtain rfl := List.mem_singleton.1 hc
    exact hp

end Brahmic.Block

theorem Cyrillic.plainFragments_rules : PlainFragments Cyrillic.rules := by
  unfold PlainFragments
  decide +kernel

theorem Cyrillic.unit_mem_keys :
    ∀ p ∈ Dictionary.keys Cyrillic.rules, ∀ c ∈ p, [c] ∈ Dictionary.keys Cyrillic.rules := by
  decide +kernel

theorem plainFragments_rulesFor (s : Script) : PlainFragments (rulesFor s) := by
  apply rulesFor_cases (motive := fun _ rules => PlainFragments rules)
  · exact fun b hb => Brahmic.Block.plainFragments_rules hb
  · exact Cyrillic.plainFragments_rules
  · exact nofun

theorem unit_mem_keys_rulesFor (s : Script) :
    ∀ p ∈ (rulesFor s).keys, ∀ c ∈ p, [c] ∈ (rulesFor s).keys := by
  apply rulesFor_cases (motive := fun _ rules => ∀ p ∈ rules.keys, ∀ c ∈ p, [c] ∈ rules.keys)
  · exact fun b hb p hp c hc => Brahmic.Block.unit_mem_keys hb hp hc
  · exact Cyrillic.unit_mem_keys
  · exact nofun

theorem not_isAscii_of_contains {s : Script} (hs : s ≠ .latin) {c : CodePoint} (h : s.contains c) :
    ¬ c < 0x80 := by
  obtain ⟨x, hx, hle, -⟩ := CodePoint.within_iff.1 h
  have hspans : ∀ x ∈ s.spans, 0x80 ≤ x.1 := by
    revert hs
    cases s <;> decide
  exact Nat.not_lt.2 (Nat.le_trans (hspans x hx) hle)

theorem thorough_of_rules {t : RuleTable} {P : Script → Prop} (proper : t.Proper)
    (h : ∀ r, r ∈ t.rules ↔ ∃ s, P s ∧ r ∈ rulesFor s) : t.Thorough := by
  have mem_patterns : ∀ p, p ∈ t.patterns ↔ ∃ s, P s ∧ p ∈ (rulesFor s).keys := by
    intro p
    simp only [RuleTable.patterns, Dictionary.mem_keys, h]
    constructor
    · rintro ⟨f, s, hs, hr⟩
      exact ⟨s, hs, f, hr⟩
    · rintro ⟨s, hs, f, hr⟩
      exact ⟨f, s, hs, hr⟩
  refine ⟨proper, fun p hp c hc => ?_, fun r hr c hc hm => ?_⟩
  · obtain ⟨s, hs, hp⟩ := (mem_patterns p).1 hp
    exact (mem_patterns [c]).2 ⟨s, hs, unit_mem_keys_rulesFor s p hp c hc⟩
  · obtain ⟨s, -, hr⟩ := (h r).1 hr
    obtain ⟨u, -, hm⟩ := (mem_patterns [c]).1 hm
    have hne : u ≠ .latin := by
      rintro rfl
      cases hm
    exact not_isAscii_of_contains hne (contains_of_mem_rulesFor u _ hm c List.mem_cons_self)
      (plainFragments_rulesFor s r hr c hc)

theorem thorough_tableFor (s : Script) : (tableFor s).Thorough :=
  thorough_of_rules (P := (· = s)) (nil_notMem_rulesFor s)
    fun _ => ⟨fun hr => ⟨s, rfl, hr⟩, fun ⟨_, hs, hr⟩ => hs ▸ hr⟩

theorem thorough_allTable (name : Text) : (allTable name).Thorough :=
  thorough_of_rules (P := fun _ => True) nil_notMem_allRules fun r => by
    simpa only [true_and] using mem_allRules_iff name

end Scheme

namespace Catalog

/-- Of a text that was romanized with a built-in table, or with all of them, no unit is left that the table
knows, and romanizing the outcome again leaves it as it is. -/
theorem builtIn_settles :
    (∀ s ∈ Scheme.builtIn, ∃ t, s.table = .ok t ∧ t.Settles) ∧
      ∃ c t, standard = .ok c ∧ c.table (some combinedName) = .ok t ∧ t.Settles := by
  constructor
  · intro s hs
    obtain ⟨u, hu⟩ := Scheme.exists_table_eq hs
    exact ⟨_, hu, (Scheme.thorough_tableFor u).settles⟩
  · obtain ⟨c, hc, -, hu⟩ := standard_eq_ok
    exact ⟨c, _, hc, table_combinedName hu, (Scheme.thorough_allTable combinedName).settles⟩

theorem builtIn_settles_hardSign : ∃ t, Scheme.cyrillic.table = .ok t ∧
    let output := Romanizer.transliterate ⟨t, .preserve⟩ (some "подъезд".codePoints) .usual
    0x44A ∉ output ∧ Romanizer.transliterate ⟨t, .preserve⟩ (some output) .usual = output := by
  obtain ⟨t, ht, settles⟩ := builtIn_settles.1 Scheme.cyrillic (by simp [Scheme.builtIn])
  have hm : [0x44A] ∈ t.patterns := by
    rw [RuleTable.patterns, (RuleTable.rules_of_ofRules ht).2]
    decide +kernel
  exact ⟨t, ht, settles.unmapped .preserve .usual rfl _ _ hm _ List.mem_cons_self,
    settles.again .preserve .usual rfl _⟩

end Catalog

end Romanization
