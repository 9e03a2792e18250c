import Mathlib.Data.List.Chain
import Romanization.Proofs.Text.Blank

namespace Romanization.Text

variable {c : CodePoint} {t u v w : Text} {ws : List Text}

theorem pieces_eq_splitOnP (t : Text) : t.pieces = t.splitOnP isBlank := by
  induction t with
  | nil => rfl
  | cons c t ih =>
    obtain ⟨p, ps, hp⟩ := List.exists_cons_of_ne_nil (List.splitOnP_ne_nil isBlank t)
    rw [pieces, List.splitOnP_cons_eq_if_modifyHead, ih, hp]
    rfl

theorem blank_induction {motive : Text → Prop} (solid : ∀ t, (∀ c ∈ t, isBlank c = false) → motive t)
    (parted : ∀ u c v, isBlank c = true → motive u → motive v → motive (u ++ c :: v)) (t : Text) :
    motive t := by
  have hafter : ∀ u : Text, (∀ c ∈ u, isBlank c = false) → motive (u ++ t) := by
    induction t with
    | nil => exact fun u hu => solid _ (by simpa using hu)
    | cons c t ih =>
      intro u hu
      cases hc : isBlank c with
      | true => exact parted u c t hc (solid u hu) (ih [] nofun)
      | false => simpa using ih (u ++ [c]) (by simpa [or_imp, forall_and, hc] using hu)
  exact hafter [] nofun

structure IsWord (w : Text) : Prop where
  nonempty : w ≠ []
  solid : ∀ c ∈ w, isBlank c = false

@[simp] theorem words_nil : words [] = [] := rfl

theorem words_append_blank (h : isBlank c = true) (u v : Text) :
    words (u ++ c :: v) = u.words ++ v.words := by
  simp only [words, pieces_eq_splitOnP]
  rw [List.splitOnP_append_cons u v h, List.filter_append]

theorem words_cons_blank (h : isBlank c = true) (t : Text) : words (c :: t) = t.words :=
  words_append_blank h [] t

theorem IsWord.words_eq (h : IsWord w) : w.words = [w] := by
  have hs : w.splitOnP isBlank = [w] := List.splitOnP_eq_singleton h.solid
  rw [words, pieces_eq_splitOnP, hs]
  simp [h.nonempty]

theorem isWord_of_mem_words (h : w ∈ t.words) : IsWord w := by
  induction t using blank_induction with
  | solid t ht =>
    by_cases hne : t = []
    · rw [hne] at h
      cases h
    · have hword : IsWord t := ⟨hne, ht⟩
      rw [hword.words_eq] at h
      exact List.mem_singleton.1 h ▸ hword
  | parted u c v hc hu hv =>
    rw [words_append_blank hc] at h
    exact (List.mem_append.1 h).elim hu hv

theorem words_trim (t : Text) : t.trim.words = t.words := by
  have hstart : ∀ t : Text, t.trimStart.words = t.words := by
    intro t
    induction t with
    | nil => rfl
    | cons c t ih =>
      cases hc : isBlank c with
      | true => rw [trimStart, List.dropWhile_cons_of_pos hc, words_cons_blank hc, ← ih, trimStart]
      | false => rw [trimStart, List.dropWhile_cons_of_neg (by simp [hc])]
  have hend : ∀ t : Text, t.trimEnd.words = t.words := by
    intro t
    induction t using List.reverseRecOn with
    | nil => rfl
    | append_singleton t c ih =>
      rw [trimEnd_eq_rdropWhile] at *
      cases hc : isBlank c with
      | true =>
        rw [List.rdropWhile_concat_pos _ _ _ hc, ih, words_append_blank hc, words_nil, List.append_nil]
      | false => rw [List.rdropWhile_concat_neg _ _ _ (by simp [hc])]
  rw [trim, hend, hstart]

theorem unwords_cons_cons (w v : Text) (ws : List Text) :
    unwords (w :: v :: ws) = w ++ 0x20 :: unwords (v :: ws) := by
  rw [unwords, List.intercalate_cons_cons, List.append_assoc]
  rfl

@[simp] theorem unwords_singleton (w : Text) : unwords [w] = w := List.intercalate_singleton

theorem words_unwords (h : ∀ w ∈ ws, IsWord w) : (unwords ws).words = ws := by
  induction ws with
  | nil => rfl
  | cons w ws ih =>
    obtain ⟨hw, hws⟩ := List.forall_mem_cons.1 h
    cases ws with
    | nil => rw [unwords_singleton, hw.words_eq]
    | cons v ws => rw [unwords_cons_cons, words_append_blank rfl, hw.words_eq, ih hws, List.singleton_append]

structure IsTidy (t : Text) : Prop where
  space : ∀ c ∈ t, isBlank c = true → c = 0x20
  single : t.IsChain fun c d => isBlank c = true → isBlank d = false
  first : ∀ c ∈ t.head?, isBlank c = false
  last : ∀ c ∈ t.getLast?, isBlank c = false

theorem isTidy_nil : IsTidy [] := ⟨nofun, List.isChain_nil, nofun, nofun⟩

theorem IsWord.isTidy (h : IsWord w) : IsTidy w where
  space := fun c hc hb => by
    rw [h.solid c hc] at hb
    cases hb
  single := by
    refine List.Pairwise.isChain (List.pairwise_of_forall_mem_list fun _ _ d hd => ?_)
    exact fun _ => h.solid d hd
  first := fun c hc => h.solid c (List.mem_of_mem_head? hc)
  last := fun c hc => h.solid c (List.mem_of_mem_getLast? hc)

theorem IsTidy.append (hu : IsTidy u) (hv : IsTidy v) (hne : u ≠ []) (hne' : v ≠ []) :
    IsTidy (u ++ 0x20 :: v) where
  space := fun c hc hb => by
    rcases List.mem_append.1 hc with hc | hc
    · exact hu.space c hc hb
    · exact (List.mem_cons.1 hc).elim id fun hc => hv.space c hc hb
  single := by
    refine List.isChain_append.2 ⟨hu.single, List.isChain_cons.2 ⟨fun d hd _ => hv.first d hd, hv.single⟩, ?_⟩
    intro c hc _ _ hb
    rw [hu.last c hc] at hb
    cases hb
  first := fun c hc => hu.first c (by rwa [List.head?_append_of_ne_nil _ hne] at hc)
  last := fun c hc => hv.last c (by
    rwa [List.getLast?_append_of_ne_nil _ (List.cons_ne_nil _ _), List.getLast?_cons_of_ne_nil hne'] at hc)

theorem isTidy_unwords (h : ∀ w ∈ ws, IsWord w) : IsTidy (unwords ws) := by
  induction ws with
  | nil => exact isTidy_nil
  | cons w ws ih =>
    obtain ⟨hw, hws⟩ := List.forall_mem_cons.1 h
    cases ws with
    | nil => simpa using hw.isTidy
    | cons v ws =>
      have hne : unwords (v :: ws) ≠ [] := by
        intro hnil
        have hwords := words_unwords hws
        rw [hnil] at hwords
        cases hwords
      rw [unwords_cons_cons]
      exact hw.isTidy.append (ih hws) hw.nonempty hne

end Romanization.Text
