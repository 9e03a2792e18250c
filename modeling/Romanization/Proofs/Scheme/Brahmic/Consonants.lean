import Romanization.Proofs.Scheme.Brahmic.Places

namespace Romanization.Scheme.Brahmic.Block

variable {b : Block} {c : CodePoint} {l s : Text}

def IsSpelling (b : Block) (l : Text) : Prop :=
  ∃ c, (b.letter? c).isSome ∧ (l = [c] ∨ l = [c, b.nukta])

def nuktaLetters (b : Block) : Dictionary Text :=
  (b.letters nuktaConsonants).map fun (letter, sound) => (letter ++ [b.nukta], sound)

theorem listedConsonants_eq (b : Block) :
    b.listedConsonants = b.letters consonants ++ b.nuktaLetters ++ b.letters b.extraConsonants := rfl

theorem keys_nuktaLetters (b : Block) :
    b.nuktaLetters.keys = (nuktaConsonants.map Prod.fst).map fun o => [b.start + o, b.nukta] := by
  simp [nuktaLetters, letters, Dictionary.keys, Function.comp_def]

theorem mem_keys_nuktaLetters : l ∈ b.nuktaLetters.keys ↔
    ∃ o ∈ nuktaConsonants.map Prod.fst, l = [b.start + o, b.nukta] := by
  simp [keys_nuktaLetters, eq_comm]

theorem find?_nuktaLetters (b : Block) (c : CodePoint) :
    b.nuktaLetters.find? [c, b.nukta] = b.sound? nuktaConsonants c :=
  Dictionary.find?_map_append (b.letters nuktaConsonants) [c] [b.nukta]

theorem find?_listed_single (b : Block) (c : CodePoint) :
    b.listedConsonants.find? [c] = b.letter? c := by
  have hn : b.nuktaLetters.find? [c] = none := by
    rw [Dictionary.find?_eq_none_iff, mem_keys_nuktaLetters]
    simp
  rw [listedConsonants_eq, Dictionary.find?_append, Dictionary.find?_append, hn, Option.or_none,
    ← Dictionary.find?_append, ← letters_append]
  rfl

theorem find?_listed_nukta (b : Block) (c : CodePoint) :
    b.listedConsonants.find? [c, b.nukta] = b.sound? nuktaConsonants c := by
  have hl : ∀ sounds, Dictionary.find? (b.letters sounds) [c, b.nukta] = none :=
    fun _ => find?_letters_eq_none (by simp)
  rw [listedConsonants_eq, Dictionary.find?_append, Dictionary.find?_append, hl, hl, Option.none_or,
    Option.or_none, find?_nuktaLetters]

theorem mem_keys_listed : l ∈ b.listedConsonants.keys ↔
    (∃ o ∈ b.letterSounds.map Prod.fst, l = [b.start + o]) ∨
      ∃ o ∈ nuktaConsonants.map Prod.fst, l = [b.start + o, b.nukta] := by
  rw [listedConsonants_eq, Dictionary.keys_append, Dictionary.keys_append, List.mem_append,
    List.mem_append, or_right_comm, ← List.mem_append, ← Dictionary.keys_append, ← letters_append,
    mem_keys_nuktaLetters]
  exact or_congr_left mem_keys_letters

theorem nodup_listed (hb : b ∈ blocks) : b.listedConsonants.keys.Nodup := by
  have hl : (Dictionary.keys (b.letters consonants ++ b.letters b.extraConsonants)).Nodup := by
    rw [← letters_append]
    exact nodup_letters (nodup_letterPlaces hb)
  have hn : b.nuktaLetters.keys.Nodup := by
    rw [keys_nuktaLetters]
    refine nodup_nuktaPlaces.map fun m n he => ?_
    simpa using he
  rw [listedConsonants_eq, Dictionary.keys_append, Dictionary.keys_append, List.append_assoc]
  refine (List.perm_append_comm_assoc _ _ _).nodup_iff.2 (List.nodup_append'.2 ⟨hn, ?_, ?_⟩)
  · rwa [← Dictionary.keys_append]
  · intro l hl hm
    obtain ⟨o, -, rfl⟩ := mem_keys_nuktaLetters.1 hl
    rcases List.mem_append.1 hm with hm | hm
    · obtain ⟨o, -, he⟩ := mem_keys_letters.1 hm
      simp at he
    · obtain ⟨o, -, he⟩ := mem_keys_letters.1 hm
      simp at he

theorem letter?_isSome_iff : (b.letter? c).isSome ↔ ∃ o ∈ b.letterSounds.map Prod.fst, c = b.start + o :=
  sound?_isSome_iff

theorem letter?_nukta_place {o : Nat} (h : o ∈ nuktaConsonants.map Prod.fst) :
    (b.letter? (b.start + o)).isSome := by
  refine letter?_isSome_iff.2 ⟨o, ?_, rfl⟩
  rw [letterSounds, List.map_append]
  exact List.mem_append_left _ (nuktaPlaces_subset h)

theorem isSpelling_of_listed (h : l ∈ b.listedConsonants.keys) : b.IsSpelling l := by
  rcases mem_keys_listed.1 h with ⟨o, ho, rfl⟩ | ⟨o, ho, rfl⟩
  · exact ⟨_, letter?_isSome_iff.2 ⟨o, ho, rfl⟩, .inl rfl⟩
  · exact ⟨_, letter?_nukta_place ho, .inr rfl⟩

theorem decomposed_listed (hb : b ∈ blocks) (h : l ∈ b.listedConsonants.keys) :
    Unicode.decomposed l = l ∨
      ∃ c d, l = [c] ∧ Unicode.decomposed l = [d, b.nukta] ∧ (b.letter? d).isSome := by
  rcases mem_keys_listed.1 h with ⟨o, ho, rfl⟩ | ⟨o, ho, rfl⟩
  · rcases decomposed_letter b hb o ho with h | ⟨base, hbase, h⟩
    · exact .inl h
    · exact .inr ⟨_, _, rfl, h, letter?_isSome_iff.2 ⟨base, hbase, rfl⟩⟩
  · exact .inl (decomposed_nukta b hb o ho)

theorem consonantSounds_eq (b : Block) : b.consonantSounds =
    b.listedConsonants.foldl (fun d e => d.putNew (Unicode.decomposed e.1) e.2) b.listedConsonants :=
  rfl

theorem nodup_consonantSounds (hb : b ∈ blocks) : b.consonantSounds.keys.Nodup :=
  Dictionary.nodup_foldl_putNew _ _ (nodup_listed hb)

theorem isSpelling_of_mem_keys (hb : b ∈ blocks) (h : l ∈ b.consonantSounds.keys) :
    b.IsSpelling l := by
  rw [consonantSounds_eq, Dictionary.mem_keys_foldl_putNew] at h
  rcases h with h | ⟨k, hk, rfl⟩
  · exact isSpelling_of_listed h
  · rcases decomposed_listed hb hk with h | ⟨c, d, -, h, hd⟩
    · rw [h]
      exact isSpelling_of_listed hk
    · exact ⟨d, hd, .inr h⟩

theorem find?_consonantSounds_single (hb : b ∈ blocks) (c : CodePoint) :
    b.consonantSounds.find? [c] = b.letter? c := by
  rw [consonantSounds_eq, Dictionary.find?_foldl_putNew, find?_listed_single]
  cases h : b.letter? c with
  | some sound => rw [Option.some_or]
  | none =>
    rw [Option.none_or, Option.map_eq_none_iff, List.find?_eq_none]
    intro r hr he
    have hk : r.1 ∈ b.listedConsonants.keys := List.mem_map_of_mem hr
    rw [beq_iff_eq] at he
    rcases decomposed_listed hb hk with hd | ⟨_, _, -, hd, -⟩
    · have hc : [c] ∈ b.listedConsonants.keys := by rwa [← he, hd]
      exact Dictionary.find?_eq_none_iff.1 (h ▸ find?_listed_single b c) hc
    · rw [he] at hd
      simp at hd

theorem find?_consonantSounds_nukta (hb : b ∈ blocks) (c : CodePoint) :
    b.consonantSounds.find? [c, b.nukta] = b.nuktaSound? c := by
  rw [consonantSounds_eq, Dictionary.find?_foldl_putNew, find?_listed_nukta, nuktaSound?]
  cases h : b.sound? nuktaConsonants c with
  | some sound => rw [Option.some_or, Option.some_or]
  | none =>
    have hn : List.find? (fun r => Unicode.decomposed r.1 == [c, b.nukta]) b.nuktaLetters = none := by
      rw [List.find?_eq_none]
      intro r hr he
      obtain ⟨o, ho, hk⟩ := mem_keys_nuktaLetters.1 (List.mem_map_of_mem hr)
      rw [hk, beq_iff_eq, decomposed_nukta b hb o ho] at he
      exact sound?_eq_none_iff.1 h o ho (by simpa using he.symm)
    rw [listedConsonants_eq, letterSounds, letters_append]
    simp only [List.find?_append, hn, Option.or_none]

theorem mem_consonantSounds_iff (hb : b ∈ blocks) : (l, s) ∈ b.consonantSounds ↔
    ∃ c, (l = [c] ∧ b.letter? c = some s) ∨ (l = [c, b.nukta] ∧ b.nuktaSound? c = some s) := by
  rw [← Dictionary.find?_eq_some_iff (nodup_consonantSounds hb)]
  constructor
  · intro h
    have hk : l ∈ b.consonantSounds.keys :=
      Dictionary.mem_keys.2 ⟨s, (Dictionary.find?_eq_some_iff (nodup_consonantSounds hb)).1 h⟩
    obtain ⟨c, -, rfl | rfl⟩ := isSpelling_of_mem_keys hb hk
    · rw [find?_consonantSounds_single hb] at h
      exact ⟨c, .inl ⟨rfl, h⟩⟩
    · rw [find?_consonantSounds_nukta hb] at h
      exact ⟨c, .inr ⟨rfl, h⟩⟩
  · rintro ⟨c, ⟨rfl, h⟩ | ⟨rfl, h⟩⟩
    · rw [find?_consonantSounds_single hb, h]
    · rw [find?_consonantSounds_nukta hb, h]

theorem letter?_of_nuktaSound? (hb : b ∈ blocks) (h : b.nuktaSound? c = some s) :
    (b.letter? c).isSome := by
  have hm : ([c, b.nukta], s) ∈ b.consonantSounds :=
    (mem_consonantSounds_iff hb).2 ⟨c, .inr ⟨rfl, h⟩⟩
  obtain ⟨d, hd, he | he⟩ := isSpelling_of_mem_keys hb (Dictionary.mem_keys.2 ⟨s, hm⟩)
  · simp at he
  · obtain rfl : c = d := by simpa using he
    exact hd

end Romanization.Scheme.Brahmic.Block
