import Mathlib.Data.List.Forall2
import Romanization.Proofs.Text.Recasing
import Romanization.Proofs.Text.Words
import Romanization.Proofs.Unicode.Canonical

namespace Romanization

open Text (IsWord)

theorem Text.isWord_singleton {c : CodePoint} (h : isBlank c = false) : IsWord [c] :=
  ⟨List.cons_ne_nil c [], by simpa using h⟩

namespace Unicode

variable {c d : CodePoint}

theorem skipsBlanks_upperSpans : ∀ s ∈ upperSpans, s.skipsBlanks := by
  have h : upperSpans.all CaseSpan.skipsBlanks = true := by decide +kernel
  exact List.all_eq_true.1 h

theorem isBlank_of_mappedBy? {spans : List CaseSpan} (hs : ∀ s ∈ spans, s.skipsBlanks)
    (h : mappedBy? c spans = some d) : isBlank d = false := by
  obtain ⟨s, hm, hc, rfl⟩ := exists_span_of_mappedBy? h
  exact (CaseSpan.isBlank_of_hits (hs s hm) hc).2

theorem isWord_upperExpansions : ∀ e ∈ upperExpansions, IsWord e.2 := by
  have h : ∀ e ∈ upperExpansions, e.2 ≠ [] ∧ ∀ c ∈ e.2, isBlank c = false := by decide +kernel
  exact fun e he => ⟨(h e he).1, (h e he).2⟩

theorem isWord_lowerCase (h : isBlank c = false) : IsWord (lowerCase c) := by
  unfold lowerCase
  split
  · exact ⟨by decide, by decide⟩
  · cases hm : mappedBy? c lowerSpans with
    | none => exact Text.isWord_singleton h
    | some d => exact Text.isWord_singleton (isBlank_of_mappedBy? skipsBlanks_lowerSpans hm)

theorem isWord_upperCase (h : isBlank c = false) : IsWord (upperCase c) := by
  unfold upperCase
  split
  · next d hm => exact Text.isWord_singleton (isBlank_of_mappedBy? skipsBlanks_upperSpans hm)
  · cases hl : upperExpansions.lookup c with
    | none => exact Text.isWord_singleton h
    | some w => exact isWord_upperExpansions _ (mem_of_lookup_eq_some hl)

end Unicode

namespace Text

variable {t : Text} {parts : List Text}

structure IsTrimmed (t : Text) : Prop where
  first : ∀ c ∈ t.head?, isBlank c = false
  last : ∀ c ∈ t.getLast?, isBlank c = false

theorem IsTidy.isTrimmed (h : IsTidy t) : IsTrimmed t := ⟨h.first, h.last⟩

theorem isTrimmed_trim (t : Text) : t.trim.IsTrimmed where
  first := by
    have h : t.trim.dropWhile isBlank = t.trim := trimStart_trimEnd t
    intro c hc
    have hlength : 0 < t.trim.length := List.length_pos_of_mem (List.mem_of_mem_head? hc)
    have hfirst := List.dropWhile_eq_self_iff.1 h hlength
    rw [List.head?_eq_getElem?, List.getElem?_eq_getElem hlength] at hc
    rw [← Option.mem_some_iff.1 hc]
    exact Bool.eq_false_iff.2 hfirst
  last := by
    have h : t.trim.rdropWhile isBlank = t.trim := List.rdropWhile_idempotent isBlank _
    intro c hc
    have hne : t.trim ≠ [] := List.ne_nil_of_mem (List.mem_of_mem_getLast? hc)
    have hlast := List.rdropWhile_eq_self_iff.1 h hne
    rw [List.getLast?_eq_getLast_of_ne_nil hne] at hc
    rw [← Option.mem_some_iff.1 hc]
    exact Bool.eq_false_iff.2 hlast

theorem IsWord.reverse {w : Text} (h : IsWord w) : IsWord w.reverse :=
  ⟨by simpa using h.nonempty, by simpa using h.solid⟩

/-- A text put in other words, unit by unit. What becomes of a blank does not count. -/
abbrev Reworded (t : Text) (parts : List Text) : Prop :=
  List.Forall₂ (fun c w => isBlank c = false → IsWord w) t parts

theorem Reworded.first (h : Reworded t parts) (ht : ∀ c ∈ t.head?, isBlank c = false) :
    ∀ d ∈ parts.flatten.head?, isBlank d = false := by
  cases h with
  | nil => exact nofun
  | @cons c w t parts hw _ =>
    have hword := hw (ht c rfl)
    intro d hd
    rw [List.flatten_cons, List.head?_append_of_ne_nil _ hword.nonempty] at hd
    exact hword.solid d (List.mem_of_mem_head? hd)

theorem Reworded.reverse (h : Reworded t parts) : Reworded t.reverse (parts.reverse.map List.reverse) := by
  rw [Reworded, List.forall₂_map_right_iff, List.forall₂_reverse_iff]
  exact h.imp fun _ _ hw hc => (hw hc).reverse

theorem IsTrimmed.flatten (h : t.IsTrimmed) (hp : Reworded t parts) : IsTrimmed parts.flatten where
  first := hp.first h.first
  last := by
    have hreverse : parts.flatten.reverse = (parts.reverse.map List.reverse).flatten := by
      rw [List.reverse_flatten, List.map_reverse]
    rw [List.getLast?_eq_head?_reverse, hreverse]
    refine hp.reverse.first ?_
    rw [← List.getLast?_eq_head?_reverse]
    exact h.last

/-- How a capital sigma is lowered depends on its neighbours, but a word it is in any case. -/
theorem exists_reworded_lowerAfter (before t : Text) :
    ∃ parts, lowerAfter before t = parts.flatten ∧ Reworded t parts := by
  induction t generalizing before with
  | nil => exact ⟨[], rfl, .nil⟩
  | cons c t ih =>
    obtain ⟨parts, hparts, hwords⟩ := ih (c :: before)
    have hsigma : ∀ final : Bool, IsWord [if final then 0x3C2 else 0x3C3] := by
      intro final
      cases final <;> exact isWord_singleton (by decide)
    rw [lowerAfter, hparts]
    refine ⟨_ :: parts, rfl, .cons (fun hc => ?_) hwords⟩
    split
    · exact hsigma _
    · exact Unicode.isWord_lowerCase hc

theorem IsTrimmed.lower (h : t.IsTrimmed) : t.lower.IsTrimmed := by
  obtain ⟨parts, hparts, hwords⟩ := exists_reworded_lowerAfter [] t
  rw [Text.lower, hparts]
  exact h.flatten hwords

theorem IsTrimmed.upper (h : t.IsTrimmed) : t.upper.IsTrimmed := by
  rw [Text.upper, List.flatMap_def]
  refine h.flatten ?_
  rw [Reworded, List.forall₂_map_right_iff, List.forall₂_same]
  exact fun c _ => Unicode.isWord_upperCase

theorem IsTrimmed.cased (h : t.IsTrimmed) (mode : CaseMode) : (mode.apply t).IsTrimmed := by
  cases mode with
  | preserve => exact h
  | lower => exact h.lower
  | upper => exact h.upper

end Text

end Romanization
