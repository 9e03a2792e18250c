import Mathlib.Data.List.Chain
import Romanization.Proofs.Unicode.Canonical

/-! The canonical forms of texts. Composing loses nothing that decomposing finds, so that to compose twice is
to compose once, and a blank keeps what stands before it from what stands after it. -/

namespace Romanization.Unicode

variable {c d starter : CodePoint} {t u v done marks : Text}

def placed (done t : Text) : Text := t.foldl (fun done c => place c done) done

@[simp] theorem placed_nil : placed done [] = done := rfl

@[simp] theorem placed_cons : placed done (c :: t) = placed (place c done) t := rfl

@[simp] theorem placed_append : placed done (u ++ v) = placed (placed done u) v := List.foldl_append

theorem ordered_eq_placed (t : Text) : ordered t = (placed [] t).reverse := rfl

def Stays (d c : CodePoint) : Prop := combiningClass c = 0 ∨ combiningClass d ≤ combiningClass c

theorem place_eq_cons (h : ∀ d ∈ t.head?, Stays d c) : place c t = c :: t := by
  cases t with
  | nil => rfl
  | cons d ds =>
    refine if_neg fun hc => ?_
    rcases h d rfl with h | h <;> omega

theorem place_cons (hc : 0 < combiningClass c) (hd : combiningClass c < combiningClass d) (t : Text) :
    place c (d :: t) = d :: place c t :=
  if_pos ⟨hc, hd⟩

theorem place_of_starter (h : combiningClass c = 0) (t : Text) : place c t = c :: t :=
  place_eq_cons fun _ _ => .inl h

def IsOrdered (t : Text) : Prop := t.IsChain Stays

theorem placed_eq_of_isOrdered (h : IsOrdered (done.reverse ++ t)) : placed done t = t.reverse ++ done := by
  induction t generalizing done with
  | nil => rfl
  | cons c t ih =>
    have hc : place c done = c :: done := by
      refine place_eq_cons fun d hd => ?_
      obtain ⟨ds, rfl⟩ := List.head?_eq_some_iff.1 hd
      rw [List.reverse_cons, List.append_assoc] at h
      exact (List.isChain_cons_cons.1 (List.isChain_append.1 h).2.1).1
    rw [placed_cons, hc, ih (by simpa using h)]
    simp

theorem ordered_of_isOrdered (h : IsOrdered t) : ordered t = t := by
  rw [ordered_eq_placed, placed_eq_of_isOrdered (by simpa using h)]
  simp

theorem head?_place (h : d ∈ (place c t).head?) : d = c ∨ d ∈ t.head? := by
  cases t with
  | nil => simpa [place, eq_comm] using h
  | cons e ds =>
    rw [place] at h
    split at h
    · exact .inr h
    · exact .inl (by simpa [eq_comm] using h)

theorem isChain_place (h : done.IsChain fun c d => Stays d c) :
    (place c done).IsChain fun c d => Stays d c := by
  induction done with
  | nil => exact List.isChain_singleton c
  | cons d ds ih =>
    obtain ⟨hd, hds⟩ := List.isChain_cons.1 h
    unfold place
    split
    · next hlt =>
      refine List.isChain_cons.2 ⟨fun e he => ?_, ih hds⟩
      rcases head?_place he with rfl | he
      · exact .inr (Nat.le_of_lt hlt.2)
      · exact hd e he
    · next hlt =>
      refine List.isChain_cons_cons.2 ⟨?_, h⟩
      unfold Stays
      omega

theorem isChain_placed (h : done.IsChain fun c d => Stays d c) (t : Text) :
    (placed done t).IsChain fun c d => Stays d c := by
  induction t generalizing done with
  | nil => exact h
  | cons c t ih => exact ih (isChain_place h)

theorem isOrdered_ordered (t : Text) : IsOrdered (ordered t) := by
  rw [ordered_eq_placed, IsOrdered, List.isChain_reverse]
  exact isChain_placed List.isChain_nil t

theorem place_comm (hc : 0 < combiningClass c) (hd : combiningClass c < combiningClass d) (t : Text) :
    place c (place d t) = place d (place c t) := by
  -- where `d` goes no further, `c` passes it, or it is put after `c`
  have hstay : ∀ t : Text, (∀ e ∈ t.head?, Stays e d) → place c (place d t) = place d (place c t) := by
    intro t ht
    have hplace : ∀ e ∈ (place c t).head?, Stays e d := by
      intro e he
      rcases head?_place he with rfl | he
      · exact .inr (Nat.le_of_lt hd)
      · exact ht e he
    rw [place_eq_cons ht, place_eq_cons hplace, place_cons hc hd]
  induction t with
  | nil => exact hstay [] nofun
  | cons e ds ih =>
    by_cases he : combiningClass d < combiningClass e
    · have hce := Nat.lt_trans hd he
      have hd' := Nat.lt_trans hc hd
      rw [place_cons hd' he, place_cons hc hce, place_cons hc hce, place_cons hd' he, ih]
    · refine hstay _ fun x hx => ?_
      cases hx
      exact .inr (Nat.le_of_not_lt he)

def Alike (u v : Text) : Prop := ∀ done, placed done u = placed done v

theorem Alike.refl (t : Text) : Alike t t := fun _ => rfl

theorem Alike.trans (h : Alike t u) (h' : Alike u v) : Alike t v := fun done => (h done).trans (h' done)

theorem Alike.append {u' v' : Text} (h : Alike u u') (h' : Alike v v') : Alike (u ++ v) (u' ++ v') := by
  intro done
  rw [placed_append, placed_append, h done, h']

theorem Alike.ordered_eq (h : Alike u v) : ordered u = ordered v := congrArg List.reverse (h [])

/-- A mark passes marks of lower classes. -/
theorem alike_cons_marks (h : ∀ m ∈ marks, 0 < combiningClass m ∧ combiningClass m < combiningClass c) :
    Alike (c :: marks) (marks ++ [c]) := by
  intro done
  induction marks generalizing done with
  | nil => rfl
  | cons m marks ih =>
    obtain ⟨hm, hmarks⟩ := List.forall_mem_cons.1 h
    rw [placed_cons, placed_cons, place_comm hm.1 hm.2]
    exact ih hmarks (place m done)

/-- What the starter and `c` are composed to, where the marks between them do not keep `c` from it. -/
def onto? (starter : CodePoint) (marks : Text) (c : CodePoint) : Option CodePoint :=
  if ∀ m ∈ marks.head?, combiningClass m < combiningClass c then compose? starter c else none

theorem onto?_eq_some_iff : onto? starter marks c = some d ↔
    (∀ m ∈ marks.head?, combiningClass m < combiningClass c) ∧ compose? starter c = some d :=
  Option.ite_none_right_eq_some

theorem composeFrom_of_onto (h : onto? starter marks c = some d) (t : Text) :
    composeFrom starter marks (c :: t) = composeFrom d marks t := by
  rw [onto?] at h
  cases marks with
  | nil => simp_all [composeFrom]
  | cons m marks =>
    simp only [List.head?_cons, Option.mem_some_iff, forall_eq'] at h
    simp [composeFrom, h]

theorem composeFrom_of_kept (h : onto? starter marks c = none) (t : Text) :
    composeFrom starter marks (c :: t) =
      if combiningClass c = 0 then starter :: marks.reverse ++ composeFrom c [] t
      else composeFrom starter (c :: marks) t := by
  rw [onto?] at h
  cases marks with
  | nil => simp_all [composeFrom]
  | cons m marks =>
    simp only [List.head?_cons, Option.mem_some_iff, forall_eq'] at h
    simp [composeFrom, h]

theorem flatMap_decompose (h : ∀ d ∈ t, decompose d = [d]) : t.flatMap decompose = t := by
  rw [List.flatMap_congr h, List.flatMap_singleton']

theorem class_le_of_isOrdered {m : CodePoint} (hpos : ∀ d ∈ m :: marks, 0 < combiningClass d)
    (h : IsOrdered (m :: marks).reverse) : ∀ d ∈ m :: marks, combiningClass d ≤ combiningClass m := by
  rw [IsOrdered, List.isChain_reverse] at h
  induction marks generalizing m with
  | nil => simp
  | cons e marks ih =>
    obtain ⟨hm, hmarks⟩ := List.forall_mem_cons.1 hpos
    obtain ⟨hstays, h⟩ := List.isChain_cons_cons.1 h
    have he : combiningClass e ≤ combiningClass m := hstays.resolve_left (Nat.pos_iff_ne_zero.1 hm)
    refine List.forall_mem_cons.2 ⟨Nat.le_refl _, fun d hd => ?_⟩
    exact Nat.le_trans (ih hmarks h d hd) he

/-- Texts that may be composed onto a starter: in order, and with nothing that comes apart. `marks`, given
from their end, have been passed over. -/
structure Composes (marks t : Text) : Prop where
  positive : ∀ m ∈ marks, 0 < combiningClass m
  ordered : IsOrdered (marks.reverse ++ t)
  full : ∀ d ∈ marks.reverse ++ t, decompose d = [d]

namespace Composes

theorem passes (h : Composes marks (c :: t))
    (hfree : ∀ m ∈ marks.head?, combiningClass m < combiningClass c) :
    ∀ m ∈ marks, 0 < combiningClass m ∧ combiningClass m < combiningClass c := by
  cases marks with
  | nil => nofun
  | cons m marks =>
    have hle := class_le_of_isOrdered h.positive (List.isChain_append.1 h.ordered).1
    exact fun d hd => ⟨h.positive d hd, Nat.lt_of_le_of_lt (hle d hd) (hfree m rfl)⟩

theorem compose (h : Composes marks (c :: t))
    (hfree : ∀ m ∈ marks.head?, combiningClass m < combiningClass c) :
    Composes marks t where
  positive := h.positive
  ordered := by
    obtain ⟨hmarks, ht, hends⟩ := List.isChain_append.1 h.ordered
    obtain ⟨hc, ht⟩ := List.isChain_cons.1 ht
    refine List.isChain_append.2 ⟨hmarks, ht, fun m hm d hd => ?_⟩
    rw [List.getLast?_reverse] at hm
    exact (hc d hd).imp_right fun hle => Nat.le_trans (Nat.le_of_lt (hfree m hm)) hle
  full := fun d hd => h.full d (((List.sublist_cons_self c t).append_left _).subset hd)

theorem keep (h : Composes marks (c :: t)) (hc : combiningClass c ≠ 0) : Composes (c :: marks) t where
  positive := List.forall_mem_cons.2 ⟨Nat.pos_iff_ne_zero.2 hc, h.positive⟩
  ordered := by simpa using h.ordered
  full := by simpa using h.full

theorem next (h : Composes marks (c :: t)) : Composes [] t where
  positive := nofun
  ordered := (List.isChain_append.1 h.ordered).2.1.tail
  full := fun d hd => h.full d (List.mem_append_right _ (List.mem_cons_of_mem c hd))

end Composes

theorem alike_composeFrom (starter : CodePoint) (h : Composes marks t) :
    Alike ((composeFrom starter marks t).flatMap decompose) (decompose starter ++ (marks.reverse ++ t)) := by
  have hmarks : marks.reverse.flatMap decompose = marks.reverse :=
    flatMap_decompose fun d hd => h.full d (List.mem_append_left _ hd)
  induction t generalizing starter marks with
  | nil =>
    rw [composeFrom, List.flatMap_cons, hmarks, List.append_nil]
    exact Alike.refl _
  | cons c t ih =>
    have hc : decompose c = [c] := h.full c (by simp)
    cases ho : onto? starter marks c with
    | some whole =>
      obtain ⟨hfree, hwhole⟩ := onto?_eq_some_iff.1 ho
      have hpass := alike_cons_marks fun m hm => h.passes hfree m (List.mem_reverse.1 hm)
      rw [composeFrom_of_onto ho]
      refine (ih whole (h.compose hfree) hmarks).trans ?_
      rw [decompose_of_compose? hwhole, List.append_assoc]
      simpa using (Alike.refl (decompose starter)).append (hpass.append (Alike.refl t))
    | none =>
      rw [composeFrom_of_kept ho]
      split
      · have ih := ih c h.next rfl
        rw [hc] at ih
        simpa [hmarks] using (Alike.refl (decompose starter ++ marks.reverse)).append ih
      · next hne => simpa using ih starter (h.keep hne) (by simp [hmarks, hc])

theorem mem_place : d ∈ place c t ↔ d = c ∨ d ∈ t := by
  induction t with
  | nil => simp [place]
  | cons e t ih =>
    unfold place
    split
    · simp [ih, or_left_comm]
    · simp

theorem mem_placed : d ∈ placed done t ↔ d ∈ done ∨ d ∈ t := by
  induction t generalizing done with
  | nil => simp
  | cons c t ih =>
    rw [placed_cons, ih, mem_place, List.mem_cons]
    tauto

theorem mem_ordered : d ∈ ordered t ↔ d ∈ t := by
  rw [ordered_eq_placed, List.mem_reverse, mem_placed]
  simp

theorem decompose_of_mem_decomposed (h : d ∈ decomposed t) : decompose d = [d] := by
  obtain ⟨c, -, hd⟩ := List.mem_flatMap.1 (mem_ordered.1 h)
  exact decompose_of_mem_decompose hd

def joined : Text → Text
  | [] => []
  | c :: t => composeFrom c [] t

theorem composed_eq_joined (t : Text) : composed t = joined (decomposed t) := by
  unfold composed joined
  rfl

theorem decomposed_composed (t : Text) : decomposed (composed t) = decomposed t := by
  have hfull : ∀ d ∈ decomposed t, decompose d = [d] := fun d hd => decompose_of_mem_decomposed hd
  have hordered : IsOrdered (decomposed t) := isOrdered_ordered _
  rw [composed_eq_joined]
  generalize decomposed t = u at hfull hordered
  cases u with
  | nil => rfl
  | cons c u =>
    obtain ⟨hc, hu⟩ := List.forall_mem_cons.1 hfull
    have hcomposes : Composes [] u := ⟨nofun, hordered.tail, hu⟩
    have halike := alike_composeFrom c hcomposes
    rw [hc] at halike
    rw [decomposed, joined, halike.ordered_eq]
    exact ordered_of_isOrdered hordered

@[simp] theorem composed_composed (t : Text) : composed (composed t) = composed t := by
  rw [composed_eq_joined, decomposed_composed, ← composed_eq_joined]

theorem composed_eq_nil_iff : composed t = [] ↔ t = [] := by
  refine ⟨fun h => ?_, fun h => by rw [h]; rfl⟩
  have hnil : decomposed t = [] := by
    rw [← decomposed_composed, h]
    rfl
  have hparts : ∀ c ∈ t, decompose c = [] := by
    rw [← List.flatMap_eq_nil_iff, List.eq_nil_iff_forall_not_mem]
    intro d hd
    have hm : d ∈ decomposed t := mem_ordered.2 hd
    rw [hnil] at hm
    cases hm
  exact List.eq_nil_iff_forall_not_mem.2 fun c hc => decompose_ne_nil c (hparts c hc)

theorem forall_composeFrom {P : CodePoint → Prop} (hwhole : ∀ a b c, compose? a b = some c → P c)
    (hstarter : P starter) (hmarks : ∀ m ∈ marks, P m) (ht : ∀ c ∈ t, P c) :
    ∀ d ∈ composeFrom starter marks t, P d := by
  induction t generalizing starter marks with
  | nil => simpa [composeFrom, hstarter] using hmarks
  | cons c t ih =>
    obtain ⟨hc, ht⟩ := List.forall_mem_cons.1 ht
    cases ho : onto? starter marks c with
    | some whole =>
      rw [composeFrom_of_onto ho]
      exact ih (hwhole _ _ _ (onto?_eq_some_iff.1 ho).2) hmarks ht
    | none =>
      rw [composeFrom_of_kept ho]
      split
      · have hkept : ∀ d ∈ starter :: marks.reverse, P d :=
          List.forall_mem_cons.2 ⟨hstarter, by simpa using hmarks⟩
        exact List.forall_mem_append.2 ⟨hkept, ih hc (List.forall_mem_nil _) ht⟩
      · exact ih hstarter (List.forall_mem_cons.2 ⟨hc, hmarks⟩) ht

theorem forall_composed {P : CodePoint → Prop} (hparts : ∀ c, P c → ∀ d ∈ decompose c, P d)
    (hwhole : ∀ a b c, compose? a b = some c → P c) (h : ∀ c ∈ t, P c) : ∀ c ∈ composed t, P c := by
  have hdecomposed : ∀ d ∈ decomposed t, P d := by
    intro d hd
    obtain ⟨c, hc, hd⟩ := List.mem_flatMap.1 (mem_ordered.1 hd)
    exact hparts c (h c hc) d hd
  rw [composed_eq_joined]
  cases hd : decomposed t with
  | nil => exact List.forall_mem_nil _
  | cons c u =>
    rw [hd] at hdecomposed
    obtain ⟨hc, hu⟩ := List.forall_mem_cons.1 hdecomposed
    exact forall_composeFrom hwhole hc (List.forall_mem_nil _) hu

theorem place_append_starter (hd : combiningClass d = 0) (c : CodePoint) (u done : Text) :
    place c (u ++ d :: done) = place c u ++ d :: done := by
  induction u with
  | nil =>
    refine if_neg fun h => ?_
    omega
  | cons e u ih =>
    rw [List.cons_append, place, place, ih]
    split <;> rfl

theorem placed_append_starter (hd : combiningClass d = 0) (u done t : Text) :
    placed (u ++ d :: done) t = placed u t ++ d :: done := by
  induction t generalizing u with
  | nil => rfl
  | cons c t ih => rw [placed_cons, placed_cons, place_append_starter hd, ih]

theorem ordered_append_starter (hc : combiningClass c = 0) (u v : Text) :
    ordered (u ++ c :: v) = ordered u ++ c :: ordered v := by
  rw [ordered_eq_placed, placed_append, placed_cons, place_of_starter hc,
    ← List.nil_append (c :: placed [] u), placed_append_starter hc]
  simp [ordered_eq_placed]

theorem onto?_eq_none (h : compose? starter c = none) (marks : Text) : onto? starter marks c = none := by
  rw [onto?, h, ite_self]

theorem composeFrom_of_inert (h : ∀ d, compose? starter d = none) (marks t : Text) :
    composeFrom starter marks t = starter :: (marks.reverse ++ joined t) := by
  induction t generalizing starter marks with
  | nil => simp [composeFrom, joined]
  | cons c t ih =>
    rw [composeFrom_of_kept (onto?_eq_none (h c) marks)]
    split
    · rfl
    · next hc =>
      -- nothing is composed onto the mark either
      have hmark : ∀ d, compose? c d = none := fun d =>
        Option.eq_none_iff_forall_ne_some.2 fun e he => hc (combiningClass_of_compose? he)
      rw [ih h, joined, ih hmark]
      simp

theorem compose?_blank (h : isBlank c = true) (d : CodePoint) :
    compose? c d = none ∧ compose? d c = none := by
  constructor
  · refine Option.eq_none_iff_forall_ne_some.2 fun e he => ?_
    rw [(isBlank_of_compose? he).1] at h
    cases h
  · refine Option.eq_none_iff_forall_ne_some.2 fun e he => ?_
    rw [(isBlank_of_compose? he).2.1] at h
    cases h

theorem joined_cons_blank (h : isBlank c = true) (t : Text) : joined (c :: t) = c :: joined t :=
  composeFrom_of_inert (fun d => (compose?_blank h d).1) [] t

theorem composeFrom_append_blank (h : isBlank c = true) (starter : CodePoint) (marks u v : Text) :
    composeFrom starter marks (u ++ c :: v) = composeFrom starter marks u ++ c :: joined v := by
  induction u generalizing starter marks with
  | nil =>
    rw [List.nil_append, composeFrom_of_kept (onto?_eq_none (compose?_blank h starter).2 marks), composeFrom,
      if_pos (combiningClass_of_isBlank h), ← joined_cons_blank h]
    rfl
  | cons d u ih =>
    rw [List.cons_append]
    cases ho : onto? starter marks d with
    | some whole =>
      rw [composeFrom_of_onto ho, composeFrom_of_onto ho]
      exact ih whole marks
    | none =>
      rw [composeFrom_of_kept ho, composeFrom_of_kept ho]
      split
      · rw [ih, List.append_assoc]
      · exact ih starter (d :: marks)

theorem joined_append_blank (h : isBlank c = true) (u v : Text) :
    joined (u ++ c :: v) = joined u ++ c :: joined v := by
  cases u with
  | nil => exact joined_cons_blank h v
  | cons d u => exact composeFrom_append_blank h d [] u v

/-- A blank is composed to a blank, and what stands on its sides each for itself. -/
theorem exists_composed_append_blank (hc : isBlank c = true) (u v : Text) :
    ∃ b, isBlank b = true ∧ composed (u ++ c :: v) = composed u ++ b :: composed v := by
  obtain ⟨b, hb, hd⟩ := exists_decompose_of_isBlank hc
  have hdecomposed : decomposed (u ++ c :: v) = decomposed u ++ b :: decomposed v := by
    rw [decomposed, List.flatMap_append, List.flatMap_cons, hd]
    exact ordered_append_starter (combiningClass_of_isBlank hb) _ _
  refine ⟨b, hb, ?_⟩
  rw [composed_eq_joined, hdecomposed, joined_append_blank hb, ← composed_eq_joined, ← composed_eq_joined]

theorem isBlank_of_mem_composed (h : ∀ c ∈ t, isBlank c = false) : ∀ c ∈ composed t, isBlank c = false :=
  forall_composed (fun _ => isBlank_of_mem_decompose) (fun _ _ _ h => (isBlank_of_compose? h).2.2) h

end Romanization.Unicode
