import Romanization.Json.Writable
import Romanization.Json.Quoted
import Romanization.Proofs.Text.Words
import Romanization.Text.Blank

namespace Romanization

theorem CodePoint.isSurrogate_eq_false_iff {c : Nat} :
    CodePoint.isSurrogate c = false ↔ c < 0xD800 ∨ 0xDFFF < c := by
  rw [isSurrogate, Bool.and_eq_false_iff, decide_eq_false_iff_not, decide_eq_false_iff_not, Nat.not_le,
    Nat.not_le]

namespace Text

def Whole (t : Text) : Prop := ∀ c ∈ t, CodePoint.isSurrogate c = false

variable {s t : Text} {c : CodePoint}

theorem isWhole_iff : Json.isWhole t = true ↔ t.Whole := by
  simp [Json.isWhole, Whole]

instance (t : Text) : Decidable t.Whole := decidable_of_iff _ isWhole_iff

@[simp] theorem whole_nil : Whole [] := nofun

@[simp] theorem whole_cons : Whole (c :: t) ↔ CodePoint.isSurrogate c = false ∧ t.Whole := List.forall_mem_cons

@[simp] theorem whole_append : Whole (s ++ t) ↔ s.Whole ∧ t.Whole := List.forall_mem_append

theorem Whole.subset (h : t.Whole) (hs : s ⊆ t) : s.Whole := fun c hc => h c (hs hc)

theorem whole_flatMap {α : Type} {f : α → Text} {xs : List α} :
    Whole (xs.flatMap f) ↔ ∀ x ∈ xs, (f x).Whole := by
  simp only [Whole, List.mem_flatMap]
  exact ⟨fun h x hx c hc => h c ⟨x, hx, hc⟩, fun h c ⟨x, hx, hc⟩ => h x hx c hc⟩

theorem whole_replicate {n : Nat} (h : c.isSurrogate = false) : Whole (List.replicate n c) :=
  fun _ hd => List.eq_of_mem_replicate hd ▸ h

theorem whole_map_toNat (cs : List Char) : Whole (cs.map Char.toNat) := by
  intro c hc
  obtain ⟨d, -, rfl⟩ := List.mem_map.1 hc
  rw [CodePoint.isSurrogate_eq_false_iff]
  exact d.valid.imp_right And.left

@[simp] theorem whole_codePoints (s : String) : s.codePoints.Whole := whole_map_toNat s.toList

@[simp] theorem whole_ofNat (n : Nat) : (ofNat n).Whole := whole_map_toNat _

@[simp] theorem whole_ofInt (n : Int) : (ofInt n).Whole := by
  cases n with
  | ofNat n => exact whole_ofNat n
  | negSucc n => exact whole_cons.2 ⟨rfl, whole_ofNat _⟩

theorem mem_of_mem_splitOnP {stops : CodePoint → Bool} {p : Text} (hp : p ∈ t.splitOnP stops)
    (hc : c ∈ p) : c ∈ t := by
  induction t generalizing p with
  | nil =>
    rw [List.splitOnP_nil, List.mem_singleton] at hp
    subst hp
    cases hc
  | cons d t ih =>
    rw [List.splitOnP_cons_eq_if_modifyHead] at hp
    split at hp
    · rcases List.mem_cons.1 hp with rfl | hp
      · cases hc
      · exact List.mem_cons_of_mem _ (ih hp hc)
    · cases hs : t.splitOnP stops with
      | nil => exact absurd hs (List.splitOnP_ne_nil stops t)
      | cons q qs =>
        rw [hs] at hp ih
        rcases List.mem_cons.1 hp with rfl | hp
        · exact (List.mem_cons.1 hc).elim (fun h => h ▸ List.mem_cons_self)
            fun h => List.mem_cons_of_mem _ (ih List.mem_cons_self h)
        · exact List.mem_cons_of_mem _ (ih (List.mem_cons_of_mem _ hp) hc)

theorem split_eq_splitOnP (separator : CodePoint) (t : Text) :
    t.split separator = t.splitOnP (· == separator) := by
  induction t with
  | nil => rfl
  | cons c t ih =>
    obtain ⟨p, ps, hp⟩ := List.exists_cons_of_ne_nil (List.splitOnP_ne_nil (· == separator) t)
    rw [split, List.splitOnP_cons_eq_if_modifyHead, ih, hp]
    simp only [beq_iff_eq]
    rfl

theorem whole_intercalate {separator : Text} {ps : List Text} (hs : separator.Whole)
    (hp : ∀ p ∈ ps, p.Whole) : Whole (separator.intercalate ps) := by
  induction ps with
  | nil => exact whole_nil
  | cons p ps ih =>
    obtain ⟨hfirst, hps⟩ := List.forall_mem_cons.1 hp
    cases ps with
    | nil => simpa using hfirst
    | cons q ps =>
      rw [List.intercalate_cons_cons]
      exact whole_append.2 ⟨whole_append.2 ⟨hfirst, hs⟩, ih hps⟩

theorem Whole.trim (h : t.Whole) : t.trim.Whole := h.subset (trim_subset t)

theorem Whole.unwords_words (h : t.Whole) : (unwords t.words).Whole := by
  refine whole_intercalate (by decide) fun p hp c hc => ?_
  have hm := (List.mem_filter.1 hp).1
  rw [pieces_eq_splitOnP] at hm
  exact h c (mem_of_mem_splitOnP hm hc)

theorem whole_hex (width n : Nat) : (hex width n).Whole := by
  induction width generalizing n with
  | zero => exact whole_nil
  | succ width ih =>
    refine whole_append.2 ⟨ih _, whole_cons.2 ⟨?_, whole_nil⟩⟩
    have hlt : n % 16 < 16 := Nat.mod_lt _ (by decide)
    rw [CodePoint.isSurrogate_eq_false_iff]
    simp only [hexDigit, CodePoint]
    split <;> omega

theorem isSurrogate_of_isPrintable (h : Unicode.isPrintable c) : c.isSurrogate = false := by
  have hidden : ∃ s ∈ Unicode.hiddenSpans, s.1 ≤ 0xD800 ∧ 0xDFFF ≤ s.2 := by decide +kernel
  obtain ⟨s, hs, hfirst, hlast⟩ := hidden
  rw [CodePoint.isSurrogate_eq_false_iff]
  by_contra hc
  rw [Unicode.isPrintable, Bool.not_eq_true', CodePoint.within, List.any_eq_false] at h
  refine h s hs ?_
  simp only [Bool.and_eq_true, decide_eq_true_eq, CodePoint] at *
  omega

theorem whole_escaped {quote : CodePoint} (hq : quote.isSurrogate = false) (c : CodePoint) :
    (escaped quote c).Whole := by
  unfold escaped
  split
  · next h =>
    have hc : c.isSurrogate = false := by
      rcases h with rfl | rfl
      · exact hq
      · rfl
    exact whole_cons.2 ⟨rfl, whole_cons.2 ⟨hc, whole_nil⟩⟩
  · have printed : Unicode.isPrintable c → Whole [c] :=
      fun h => whole_cons.2 ⟨isSurrogate_of_isPrintable h, whole_nil⟩
    split_ifs <;> simp_all [whole_hex]

@[simp] theorem whole_quoted (t : Text) : t.quoted.Whole := by
  unfold quoted
  have hquote : ∀ b : Bool, CodePoint.isSurrogate (if b then 0x22 else 0x27) = false := by decide
  exact whole_append.2 ⟨whole_cons.2 ⟨hquote _, whole_flatMap.2 fun c _ => whole_escaped (hquote _) c⟩,
    whole_cons.2 ⟨hquote _, whole_nil⟩⟩

end Text

end Romanization
