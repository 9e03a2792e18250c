import Romanization.Proofs.Text.Blank
import Romanization.Proofs.Text.Case

namespace Romanization

namespace Unicode

variable {c d : CodePoint}

def lowered (c : CodePoint) : CodePoint := (mappedBy? c lowerSpans).getD c

theorem lowerCase_eq_lowered (h : c ≠ 0x130) : lowerCase c = [lowered c] := if_neg h

theorem lowered_eq (h : lowerCase c = [d]) : lowered c = d ∧ c ≠ 0x130 := by
  have hc : c ≠ 0x130 := by
    rintro rfl
    cases h
  rw [lowerCase_eq_lowered hc] at h
  exact ⟨List.singleton_inj.1 h, hc⟩

@[simp] theorem lowered_lowered (c : CodePoint) : lowered (lowered c) = lowered c := by
  by_cases hsigma : c = 0x3A3
  · subst hsigma
    decide +kernel
  · by_cases hdot : c = 0x130
    · subst hdot
      decide +kernel
    · have hm : lowered c ∈ lowerCase c := lowerCase_eq_lowered hdot ▸ List.mem_singleton_self _
      rw [lowered, (isLow_of_mem_lowerCase hsigma hm).2.2]
      rfl

def CaseSpan.skipsBlanks (s : CaseSpan) : Bool :=
  blankSpans.all fun (first, last) =>
    (s.last.blt first || last.blt s.first) &&
      ((s.target + (s.last - s.first)).blt first || last.blt s.target)

theorem skipsBlanks_lowerSpans : ∀ s ∈ lowerSpans, s.skipsBlanks := by
  have h : lowerSpans.all CaseSpan.skipsBlanks = true := by decide +kernel
  exact List.all_eq_true.1 h

theorem CaseSpan.isBlank_of_hits {s : CaseSpan} (hs : s.skipsBlanks) (hc : s.Hits c) :
    isBlank c = false ∧ isBlank (s.target + (c - s.first)) = false := by
  obtain ⟨hfirst, hlast, -⟩ := hc
  simp only [skipsBlanks, List.all_eq_true, Bool.and_eq_true, Bool.or_eq_true, Nat.blt_eq] at hs
  simp only [isBlank, CodePoint.within, List.any_eq_false, Bool.and_eq_true, decide_eq_true_eq, CodePoint] at *
  constructor
  · intro b hb
    have := (hs b hb).1
    omega
  · intro b hb
    have := (hs b hb).2
    omega

@[simp] theorem isBlank_lowered (c : CodePoint) : isBlank (lowered c) = isBlank c := by
  unfold lowered
  cases h : mappedBy? c lowerSpans with
  | none => rfl
  | some d =>
    obtain ⟨s, hs, hc, rfl⟩ := exists_span_of_mappedBy? h
    obtain ⟨hfrom, hto⟩ := CaseSpan.isBlank_of_hits (skipsBlanks_lowerSpans s hs) hc
    rw [Option.getD_some, hfrom, hto]

/-- It is the lower case of itself and of its upper case, which is a single code point. The capital sigma is
left out, for which lower case looks at its neighbours. -/
def Reverts (c : CodePoint) : Prop :=
  (upperCase c).length = 1 ∧ ∀ d ∈ c :: upperCase c, lowerCase d = [c] ∧ d ≠ 0x3A3

instance (c : CodePoint) : Decidable (Reverts c) := inferInstanceAs (Decidable (_ ∧ _))

def Caseless (c : CodePoint) : Prop := lowerCase c = [c] ∧ upperCase c = [c]

instance (c : CodePoint) : Decidable (Caseless c) := inferInstanceAs (Decidable (_ ∧ _))

theorem Caseless.reverts (h : Caseless c) : Reverts c := by
  have hsigma : c ≠ 0x3A3 := by
    rintro rfl
    exact absurd h.1 (by decide +kernel)
  rw [Reverts, h.2]
  refine ⟨rfl, fun d hd => ?_⟩
  obtain rfl : d = c := by simpa using hd
  exact ⟨h.1, hsigma⟩

structure IsRecased (d : CodePoint) : Prop where
  plain : d ≠ 0x3A3 ∧ d ≠ 0x130
  cased : d = lowered d ∨ upperCase (lowered d) = [d]

theorem Reverts.isRecased (h : Reverts c) (hd : d ∈ c :: upperCase c) : lowered d = c ∧ IsRecased d := by
  obtain ⟨hlower, hsigma⟩ := h.2 d hd
  obtain ⟨hl, hdot⟩ := lowered_eq hlower
  refine ⟨hl, ⟨hsigma, hdot⟩, ?_⟩
  rw [hl]
  refine (List.mem_cons.1 hd).imp_right fun hu => ?_
  obtain ⟨e, he⟩ := List.length_eq_one_iff.1 h.1
  rw [he] at hu ⊢
  rw [List.mem_singleton.1 hu]

end Unicode

namespace Text

open Unicode (lowered IsRecased Reverts)

theorem lower_eq_map {t : Text} (h : ∀ c ∈ t, c ≠ 0x3A3 ∧ c ≠ 0x130) : t.lower = t.map lowered := by
  suffices ∀ before, lowerAfter before t = t.map lowered from this []
  induction t with
  | nil => exact fun _ => rfl
  | cons c t ih =>
    intro before
    obtain ⟨⟨hsigma, hdot⟩, ht⟩ := List.forall_mem_cons.1 h
    rw [lowerAfter, if_neg hsigma, Unicode.lowerCase_eq_lowered hdot, ih ht, List.map_cons,
      List.singleton_append]

inductive Recased : Text → Text → Prop
  | nil : Recased [] []
  | keep {t u : Text} (c : CodePoint) : Recased t u → Recased (c :: t) (c :: u)
  | raise {t u : Text} (c : CodePoint) : Recased t u → Recased (c :: t) (Unicode.upperCase c ++ u)

namespace Recased

variable {t u : Text}

theorem refl (t : Text) : Recased t t := by
  induction t with
  | nil => exact .nil
  | cons c t ih => exact .keep c ih

theorem upper (t : Text) : Recased t t.upper := by
  induction t with
  | nil => exact .nil
  | cons c t ih => exact .raise c ih

theorem units (h : Recased t u) (ht : ∀ c ∈ t, Reverts c) : u.map lowered = t ∧ ∀ d ∈ u, IsRecased d := by
  induction h with
  | nil => exact ⟨rfl, nofun⟩
  | keep c _ ih =>
    obtain ⟨hc, ht⟩ := List.forall_mem_cons.1 ht
    obtain ⟨hmap, hunits⟩ := ih ht
    obtain ⟨hl, hr⟩ := hc.isRecased List.mem_cons_self
    exact ⟨by rw [List.map_cons, hl, hmap], List.forall_mem_cons.2 ⟨hr, hunits⟩⟩
  | raise c _ ih =>
    obtain ⟨hc, ht⟩ := List.forall_mem_cons.1 ht
    obtain ⟨hmap, hunits⟩ := ih ht
    obtain ⟨d, hd⟩ := List.length_eq_one_iff.1 hc.1
    obtain ⟨hl, hr⟩ := hc.isRecased (d := d) (by simp [hd])
    rw [hd, List.singleton_append]
    exact ⟨by rw [List.map_cons, hl, hmap], List.forall_mem_cons.2 ⟨hr, hunits⟩⟩

end Recased

def CapitalsLead (t : Text) : Prop :=
  t.IsChain fun c d => Unicode.upperCase c = [c] ∨ Unicode.lowerCase d = [d]

instance (t : Text) : Decidable t.CapitalsLead := inferInstanceAs (Decidable (List.IsChain _ _))

end Text

end Romanization
