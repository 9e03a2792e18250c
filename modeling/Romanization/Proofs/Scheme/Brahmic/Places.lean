import Mathlib.Data.List.Nodup
import Romanization.Proofs.Dictionary
import Romanization.Scheme.BuiltIn

namespace Romanization.Scheme.Brahmic

def blocks : List Block := [devanagari, bengali, gurmukhi, gujarati]

namespace Block

def letterSounds (b : Block) : Sounds := consonants ++ b.extraConsonants

def otherSounds (b : Block) : Sounds := vowels ++ vowelSigns ++ signs ++ b.extraSigns ++ digits

def sound? (b : Block) (sounds : Sounds) (c : CodePoint) : Option Text :=
  Dictionary.find? (b.letters sounds) [c]

def letter? (b : Block) (c : CodePoint) : Option Text := b.sound? b.letterSounds c

def other? (b : Block) (c : CodePoint) : Option Text := b.sound? b.otherSounds c

def vowel? (b : Block) (c : CodePoint) : Option Text :=
  if c = b.virama then some [] else b.sound? vowelSigns c

/-- The sound of a letter with the nukta, if it is listed or another letter is composed of the two. -/
def nuktaSound? (b : Block) (c : CodePoint) : Option Text :=
  (b.sound? nuktaConsonants c).or
    (((b.letters b.letterSounds).find? fun r => Unicode.decomposed r.1 == [c, b.nukta]).map Prod.snd)

theorem nodup_places : ∀ b ∈ blocks, ((b.letterSounds ++ b.otherSounds).map Prod.fst).Nodup := by
  decide +kernel

theorem contains_place : ∀ b ∈ blocks, ∀ o ∈ (b.letterSounds ++ b.otherSounds).map Prod.fst,
    b.script.contains (b.start + o) := by
  decide

theorem nodup_nuktaPlaces : (nuktaConsonants.map Prod.fst).Nodup := by decide

theorem nuktaPlaces_subset : nuktaConsonants.map Prod.fst ⊆ consonants.map Prod.fst := by
  decide

theorem nodup_endingPlaces : (viramaOffset :: vowelSigns.map Prod.fst).Nodup := by decide

theorem nuktaOffset_notMem : nuktaOffset ∉ viramaOffset :: vowelSigns.map Prod.fst := by decide

theorem markPlaces_subset :
    nuktaOffset :: viramaOffset :: vowelSigns.map Prod.fst ⊆ (vowelSigns ++ signs).map Prod.fst := by
  decide

theorem spellings_letter : ∀ b ∈ blocks, ∀ o ∈ b.letterSounds.map Prod.fst,
    Unicode.decomposed [b.start + o] = [b.start + o] ∨
      ∃ base ∈ b.letterSounds.map Prod.fst,
        Unicode.decomposed [b.start + o] = [b.start + base, b.nukta] ∧
          b.nuktaSound? (b.start + base) = b.letter? (b.start + o) ∧
          b.nuktaSound? (b.start + o) = none := by
  decide +kernel

theorem decomposed_letter : ∀ b ∈ blocks, ∀ o ∈ b.letterSounds.map Prod.fst,
    Unicode.decomposed [b.start + o] = [b.start + o] ∨
      ∃ base ∈ b.letterSounds.map Prod.fst,
        Unicode.decomposed [b.start + o] = [b.start + base, b.nukta] := by
  intro b hb o ho
  exact (spellings_letter b hb o ho).imp_right fun ⟨base, hbase, hd, _⟩ => ⟨base, hbase, hd⟩

theorem decomposed_nukta : ∀ b ∈ blocks, ∀ o ∈ nuktaConsonants.map Prod.fst,
    Unicode.decomposed [b.start + o, b.nukta] = [b.start + o, b.nukta] := by
  decide +kernel

variable {b : Block} {sounds : Sounds} {c : CodePoint} {p f : Text}

theorem keys_letters (b : Block) (sounds : Sounds) :
    Dictionary.keys (b.letters sounds) = (sounds.map Prod.fst).map fun o => [b.start + o] := by
  simp [letters, Dictionary.keys, Function.comp_def]

theorem nodup_letters (h : (sounds.map Prod.fst).Nodup) :
    (Dictionary.keys (b.letters sounds)).Nodup := by
  rw [keys_letters]
  refine h.map fun m n he => ?_
  simpa using he

theorem mem_keys_letters : p ∈ Dictionary.keys (b.letters sounds) ↔
    ∃ o ∈ sounds.map Prod.fst, p = [b.start + o] := by
  simp [keys_letters, eq_comm]

theorem letters_append (b : Block) (s t : Sounds) : b.letters (s ++ t) = b.letters s ++ b.letters t :=
  List.map_append

theorem sound?_eq_none_iff : b.sound? sounds c = none ↔ ∀ o ∈ sounds.map Prod.fst, c ≠ b.start + o := by
  simp [sound?, Dictionary.find?_eq_none_iff, mem_keys_letters]

theorem exists_place_of_sound? (h : b.sound? sounds c = some f) :
    ∃ o ∈ sounds.map Prod.fst, c = b.start + o := by
  by_contra hn
  simp only [not_exists, not_and] at hn
  rw [sound?_eq_none_iff.2 hn] at h
  cases h

theorem sound?_isSome_iff : (b.sound? sounds c).isSome ↔ ∃ o ∈ sounds.map Prod.fst, c = b.start + o := by
  constructor
  · intro h
    obtain ⟨f, hf⟩ := Option.isSome_iff_exists.1 h
    exact exists_place_of_sound? hf
  · rintro ⟨o, ho, he⟩
    rw [Option.isSome_iff_ne_none]
    exact fun hn => sound?_eq_none_iff.1 hn o ho he

theorem find?_letters_eq_none (h : ∀ c, p ≠ [c]) : Dictionary.find? (b.letters sounds) p = none := by
  rw [Dictionary.find?_eq_none_iff, mem_keys_letters]
  rintro ⟨o, -, he⟩
  exact h _ he

theorem mem_letters_iff (h : (sounds.map Prod.fst).Nodup) :
    (p, f) ∈ b.letters sounds ↔ ∃ c, p = [c] ∧ b.sound? sounds c = some f := by
  rw [← Dictionary.find?_eq_some_iff (nodup_letters h)]
  constructor
  · intro hf
    by_cases hp : ∃ c, p = [c]
    · obtain ⟨c, rfl⟩ := hp
      exact ⟨c, rfl, hf⟩
    · rw [find?_letters_eq_none fun c hc => hp ⟨c, hc⟩] at hf
      cases hf
  · rintro ⟨c, rfl, hf⟩
    exact hf

theorem nodup_letterPlaces (hb : b ∈ blocks) : (b.letterSounds.map Prod.fst).Nodup := by
  have := nodup_places b hb
  rw [List.map_append] at this
  exact this.of_append_left

theorem nodup_otherPlaces (hb : b ∈ blocks) : (b.otherSounds.map Prod.fst).Nodup := by
  have := nodup_places b hb
  rw [List.map_append] at this
  exact this.of_append_right

theorem other?_of_letter? (hb : b ∈ blocks) (h : b.letter? c = some f) : b.other? c = none := by
  obtain ⟨o, ho, rfl⟩ := exists_place_of_sound? h
  refine sound?_eq_none_iff.2 fun other hother he => ?_
  have hd := nodup_places b hb
  rw [List.map_append] at hd
  obtain rfl := Nat.add_left_cancel he
  exact List.disjoint_of_nodup_append hd ho hother

theorem mark_mem_otherPlaces {o : Nat} (h : o ∈ nuktaOffset :: viramaOffset :: vowelSigns.map Prod.fst) :
    o ∈ b.otherSounds.map Prod.fst := by
  have := markPlaces_subset h
  simp only [otherSounds, List.map_append, List.mem_append] at this ⊢
  tauto

theorem letter?_of_mark (hb : b ∈ blocks) {o : Nat}
    (h : o ∈ nuktaOffset :: viramaOffset :: vowelSigns.map Prod.fst) :
    b.letter? (b.start + o) = none := by
  have hm : o ∈ b.otherSounds.map Prod.fst := mark_mem_otherPlaces h
  cases hl : b.letter? (b.start + o) with
  | none => rfl
  | some f => exact absurd rfl (sound?_eq_none_iff.1 (other?_of_letter? hb hl) o hm)

end Romanization.Scheme.Brahmic.Block
