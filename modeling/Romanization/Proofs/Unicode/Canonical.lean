import Mathlib.Data.List.Basic
import Romanization.Text.Blank
import Romanization.Unicode.NormalForm

namespace Romanization

theorem mem_of_lookup_eq_some {α β : Type} [BEq α] [LawfulBEq α] {a : α} {b : β} {rows : List (α × β)}
    (h : rows.lookup a = some b) : (a, b) ∈ rows := by
  obtain ⟨before, after, rfl, -⟩ := List.lookup_eq_some_iff.1 h
  simp

namespace Unicode

variable {a b c d : CodePoint} {t : Text} {depth : Nat}

theorem forall_decomposeTo {P : CodePoint → Prop}
    (hrows : ∀ page ∈ decompositionPages, ∀ row ∈ page.2, P row.1 → ∀ d ∈ row.2, P d) (depth : Nat)
    (hc : P c) : ∀ d ∈ decomposeTo depth c, P d := by
  induction depth generalizing c with
  | zero => simpa [decomposeTo] using hc
  | succ depth ih =>
    unfold decomposeTo
    split
    · next a marks ho =>
      obtain ⟨page, hp, hr⟩ := Option.bind_eq_some_iff.1 ho
      have hparts := hrows _ (mem_of_lookup_eq_some hp) _ (mem_of_lookup_eq_some hr) hc
      obtain ⟨ha, hmarks⟩ := List.forall_mem_cons.1 hparts
      exact List.forall_mem_append.2 ⟨ih ha, hmarks⟩
    · simpa using hc

namespace Hangul

def IsJamo (c : CodePoint) : Prop :=
  leadBase ≤ c ∧ c < leadBase + 19 ∨ vowelBase ≤ c ∧ c < vowelBase + 21 ∨ tailBase < c ∧ c < tailBase + 28

theorem isJamo_parts {n : Nat} (h : n < 11172) : IsJamo (leadBase + n / 588) ∧
    IsJamo (vowelBase + n % 588 / 28) ∧ (n % 28 ≠ 0 → IsJamo (tailBase + n % 28)) := by
  simp only [IsJamo, leadBase, vowelBase, tailBase, CodePoint]
  omega

theorem isJamo_of_mem_decompose? (h : decompose? c = some t) : ∀ d ∈ t, IsJamo d := by
  unfold decompose? at h
  split at h
  · next hc =>
    have hn : c - syllableBase < 11172 := by
      simp only [CodePoint] at *
      omega
    obtain ⟨hlead, hvowel, htail⟩ := isJamo_parts hn
    obtain rfl := Option.some.inj h
    split
    · simp [hlead, hvowel]
    · next hne => simp [hlead, hvowel, htail hne]
  · cases h

end Hangul

theorem forall_decompose {P : CodePoint → Prop}
    (hrows : ∀ page ∈ decompositionPages, ∀ row ∈ page.2, P row.1 → ∀ d ∈ row.2, P d)
    (hjamo : ∀ d, Hangul.IsJamo d → P d) (hc : P c) : ∀ d ∈ decompose c, P d := by
  unfold decompose
  split
  · simpa using hc
  · cases ho : Hangul.decompose? c with
    | some t => exact fun d hd => hjamo d (Hangul.isJamo_of_mem_decompose? ho d hd)
    | none => exact forall_decomposeTo hrows 3 hc

/-! Decompositions come to an end. -/

def rowOf? {β : Type} (c : CodePoint) (rows : List (CodePoint × β)) : Option β :=
  rows.foldr (fun row rest => bif Nat.beq c row.1 then some row.2 else rest) none

theorem lookup_eq_rowOf? {β : Type} (rows : List (CodePoint × β)) : rows.lookup c = rowOf? c rows := by
  induction rows with
  | nil => rfl
  | cons row rows ih =>
    have hcons : rowOf? c (row :: rows) = bif Nat.beq c row.1 then some row.2 else rowOf? c rows := rfl
    have hbeq : (c == row.1) = Nat.beq c row.1 := by
      rw [Bool.eq_iff_iff, beq_iff_eq, Nat.beq_eq]
    rw [List.lookup_cons, ih, hcons, hbeq]
    cases Nat.beq c row.1 <;> rfl

def partsOf? (c : CodePoint) : Option Text := (rowOf? (c / 0x100) decompositionPages).bind (rowOf? c)

theorem decomposeOnce?_eq_partsOf? (c : CodePoint) : decomposeOnce? c = partsOf? c := by
  have hrows : List.lookup c = rowOf? (β := Text) c := funext lookup_eq_rowOf?
  rw [decomposeOnce?, lookup_eq_rowOf?, hrows, partsOf?]

/-- Of the parts only the first one may come apart, and then in at most `depth` steps. -/
def settle : (depth : Nat) → (parts : Text) → Bool
  | _, [] => false
  | 0, a :: marks => (a :: marks).all fun d => (partsOf? d).isNone
  | depth + 1, a :: marks =>
    (match partsOf? a with
    | none => true
    | some parts => settle depth parts) && marks.all fun d => (partsOf? d).isNone

theorem parts_settle : ∀ page ∈ decompositionPages, ∀ row ∈ page.2, settle 2 row.2 = true := by
  decide +kernel

theorem isNone_partsOf?_iff : (partsOf? c).isNone = true ↔ decomposeOnce? c = none := by
  rw [decomposeOnce?_eq_partsOf?, Option.isNone_iff_eq_none]

theorem decomposeTo_of_none (h : decomposeOnce? c = none) (depth : Nat) : decomposeTo depth c = [c] := by
  cases depth with
  | zero => rfl
  | succ depth =>
    rw [decomposeTo]
    simp [h]

theorem decomposeTo_of_settle {marks : Text} (h : settle depth (a :: marks) = true) :
    decomposeTo (depth + 1) a = decomposeTo depth a ∧
      ∀ d ∈ decomposeTo depth a ++ marks, decomposeOnce? d = none := by
  induction depth generalizing a marks with
  | zero =>
    have hnone : ∀ d ∈ a :: marks, decomposeOnce? d = none := fun d hd =>
      isNone_partsOf?_iff.1 (List.all_eq_true.1 h d hd)
    exact ⟨decomposeTo_of_none (hnone a List.mem_cons_self) 1, hnone⟩
  | succ depth ih =>
    obtain ⟨hfirst, hmarks⟩ := Bool.and_eq_true_iff.1 h
    have hmarks : ∀ d ∈ marks, decomposeOnce? d = none := fun d hd =>
      isNone_partsOf?_iff.1 (List.all_eq_true.1 hmarks d hd)
    rw [← decomposeOnce?_eq_partsOf?] at hfirst
    cases ho : decomposeOnce? a with
    | none =>
      rw [decomposeTo_of_none ho, decomposeTo_of_none ho]
      exact ⟨rfl, List.forall_mem_cons.2 ⟨ho, hmarks⟩⟩
    | some parts =>
      rw [ho] at hfirst
      cases parts with
      | nil => cases depth <;> cases hfirst
      | cons a' marks' =>
        obtain ⟨hsucc, hnone⟩ := ih hfirst
        have hstep : ∀ n, decomposeTo (n + 1) a = decomposeTo n a' ++ marks' := fun n => by
          rw [decomposeTo, ho]
        rw [hstep, hstep, hsucc]
        exact ⟨rfl, List.forall_mem_append.2 ⟨hnone, hmarks⟩⟩

/-! Decompositions are full. -/

def isPlain (c : CodePoint) : Bool := Nat.blt c 0xAC00 || Nat.blt 0xD7A3 c

theorem isPlain_iff : isPlain c = true ↔ Hangul.decompose? c = none := by
  rw [isPlain, Bool.or_eq_true, Nat.blt_eq, Nat.blt_eq]
  unfold Hangul.decompose? Hangul.syllableBase
  split
  · simp only [reduceCtorEq, iff_false, CodePoint] at *
    omega
  · simp only [iff_true, CodePoint] at *
    omega

theorem rows_plain : ∀ page ∈ decompositionPages, ∀ row ∈ page.2,
    (Nat.ble 0xC0 row.1 && (row.1 :: row.2).all isPlain) = true := by
  decide +kernel

structure IsRow (c : CodePoint) (parts : Text) : Prop where
  large : 0xC0 ≤ c
  plain : ∀ d ∈ c :: parts, Hangul.decompose? d = none
  settled : settle 2 parts = true

theorem isRow_of_mem {page : Nat × List (CodePoint × Text)} (hp : page ∈ decompositionPages)
    (hr : (c, t) ∈ page.2) : IsRow c t := by
  obtain ⟨hlarge, hplain⟩ := Bool.and_eq_true_iff.1 (rows_plain page hp _ hr)
  exact ⟨Nat.le_of_ble_eq_true hlarge, fun d hd => isPlain_iff.1 (List.all_eq_true.1 hplain d hd),
    parts_settle page hp _ hr⟩

theorem isRow_of_decomposeOnce? (h : decomposeOnce? c = some t) : IsRow c t := by
  obtain ⟨page, hp, hr⟩ := Option.bind_eq_some_iff.1 h
  exact isRow_of_mem (mem_of_lookup_eq_some hp) (mem_of_lookup_eq_some hr)

theorem decompose_eq_decomposeTo (h : Hangul.decompose? c = none) : decompose c = decomposeTo 3 c := by
  unfold decompose
  split
  · next hc =>
    cases ho : decomposeOnce? c with
    | none => rw [decomposeTo_of_none ho]
    | some t => exact absurd hc (Nat.not_lt.2 (isRow_of_decomposeOnce? ho).large)
  · rw [h, Option.getD_none]

theorem decompose_of_none (h : Hangul.decompose? c = none) (ho : decomposeOnce? c = none) :
    decompose c = [c] := by
  rw [decompose_eq_decomposeTo h, decomposeTo_of_none ho]

theorem decomposeOnce?_of_mem_decomposeTo (h : d ∈ decomposeTo 3 c) : decomposeOnce? d = none := by
  cases ho : decomposeOnce? c with
  | none =>
    rw [decomposeTo_of_none ho, List.mem_singleton] at h
    rwa [h]
  | some parts =>
    have hsettled := (isRow_of_decomposeOnce? ho).settled
    cases parts with
    | nil => cases hsettled
    | cons a marks =>
      rw [decomposeTo, ho] at h
      exact (decomposeTo_of_settle hsettled).2 d h

namespace Hangul

theorem decompose_of_isJamo (h : IsJamo c) : Unicode.decompose c = [c] := by
  have hpage : c / 0x100 = 0x11 := by
    simp only [IsJamo, leadBase, vowelBase, tailBase, CodePoint] at *
    omega
  have hnone : decomposeOnce? c = none := by
    rw [decomposeOnce?, hpage]
    rfl
  refine decompose_of_none (isPlain_iff.1 ?_) hnone
  rw [isPlain, Bool.or_eq_true, Nat.blt_eq]
  simp only [CodePoint] at *
  omega

theorem decompose_of_decompose? (h : decompose? c = some t) : Unicode.decompose c = t := by
  have hlarge : ¬ c < 0xC0 := by
    intro hc
    have hplain : isPlain c = true := by
      simp only [isPlain, Bool.or_eq_true, Nat.blt_eq, CodePoint] at *
      omega
    rw [isPlain_iff.1 hplain] at h
    cases h
  rw [Unicode.decompose, if_neg hlarge, h, Option.getD_some]

end Hangul

theorem decompose_of_mem_decompose (h : d ∈ decompose c) : decompose d = [d] := by
  cases hh : Hangul.decompose? c with
  | some t =>
    rw [Hangul.decompose_of_decompose? hh] at h
    exact Hangul.decompose_of_isJamo (Hangul.isJamo_of_mem_decompose? hh d h)
  | none =>
    rw [decompose_eq_decomposeTo hh] at h
    refine decompose_of_none ?_ (decomposeOnce?_of_mem_decomposeTo h)
    exact forall_decomposeTo (P := fun c => Hangul.decompose? c = none)
      (fun page hp row hr _ d hd => (isRow_of_mem hp hr).plain d (List.mem_cons_of_mem _ hd)) 3 hh d h

theorem decomposeTo_ne_nil (depth : Nat) (c : CodePoint) : decomposeTo depth c ≠ [] := by
  induction depth generalizing c with
  | zero => exact List.cons_ne_nil _ _
  | succ depth ih =>
    unfold decomposeTo
    split
    · exact List.append_ne_nil_of_left_ne_nil (ih _) _
    · exact List.cons_ne_nil _ _

theorem decompose_ne_nil (c : CodePoint) : decompose c ≠ [] := by
  cases hh : Hangul.decompose? c with
  | none =>
    rw [decompose_eq_decomposeTo hh]
    exact decomposeTo_ne_nil 3 c
  | some t =>
    rw [Hangul.decompose_of_decompose? hh]
    rintro rfl
    rw [Hangul.decompose?] at hh
    split at hh
    · have hnil := Option.some.inj hh
      split at hnil <;> cases hnil
    · cases hh

/-! A composition undoes a decomposition. -/

theorem partsOf?_whole : ∀ e ∈ compositions, ∀ row ∈ e.2, partsOf? row.2 = some [row.1, e.1] := by
  decide +kernel

theorem decompose_of_composePair? (h : composePair? a b = some c) : decompose c = decompose a ++ [b] := by
  obtain ⟨rows, hs, hr⟩ := Option.bind_eq_some_iff.1 h
  have ho := partsOf?_whole _ (mem_of_lookup_eq_some hs) _ (mem_of_lookup_eq_some hr)
  rw [← decomposeOnce?_eq_partsOf?] at ho
  have hrow := isRow_of_decomposeOnce? ho
  obtain ⟨hc, ha, -⟩ := by simpa only [List.forall_mem_cons] using hrow.plain
  rw [decompose_eq_decomposeTo hc, decompose_eq_decomposeTo ha, (decomposeTo_of_settle hrow.settled).1,
    decomposeTo, ho]

namespace Hangul

theorem decompose_syllable {n : Nat} (h : n < 11172) : Unicode.decompose (syllableBase + n) =
    [leadBase + n / 588, vowelBase + n % 588 / 28] ++ if n % 28 = 0 then [] else [tailBase + n % 28] := by
  have hsyllable : syllableBase ≤ syllableBase + n ∧ syllableBase + n < syllableBase + 11172 :=
    ⟨Nat.le_add_right _ _, Nat.add_lt_add_left h _⟩
  refine decompose_of_decompose? ?_
  rw [decompose?, if_pos hsyllable, Nat.add_sub_cancel_left]
  by_cases htail : n % 28 = 0 <;> simp [htail]

theorem decompose_lead_vowel {l v : Nat} (hl : l < 19) (hv : v < 21) :
    Unicode.decompose (syllableBase + l * 588 + v * 28) = [leadBase + l, vowelBase + v] := by
  have hparts : (l * 588 + v * 28) / 588 = l ∧ (l * 588 + v * 28) % 588 / 28 = v ∧
      (l * 588 + v * 28) % 28 = 0 := by
    omega
  rw [Nat.add_assoc, decompose_syllable (by omega), hparts.1, hparts.2.1, if_pos hparts.2.2, List.append_nil]

theorem decompose_tail {n k : Nat} (hn : n < 11172) (hvowel : n % 28 = 0) (hpos : 0 < k) (hk : k < 28) :
    Unicode.decompose (syllableBase + n + k) = Unicode.decompose (syllableBase + n) ++ [tailBase + k] := by
  have hparts : (n + k) / 588 = n / 588 ∧ (n + k) % 588 / 28 = n % 588 / 28 ∧ (n + k) % 28 = k := by
    omega
  rw [Nat.add_assoc, decompose_syllable (by omega), decompose_syllable hn, hparts.1, hparts.2.1, hparts.2.2,
    if_pos hvowel, if_neg (Nat.pos_iff_ne_zero.1 hpos), List.append_nil]

theorem decompose_of_compose? (h : compose? a b = some c) :
    Unicode.decompose c = Unicode.decompose a ++ [b] := by
  unfold compose? at h
  split at h
  · next hab =>
    obtain ⟨hlead, hlead', hvowel, hvowel'⟩ := hab
    obtain ⟨l, rfl⟩ := Nat.exists_eq_add_of_le hlead
    obtain ⟨v, rfl⟩ := Nat.exists_eq_add_of_le hvowel
    obtain rfl := Option.some.inj h
    rw [Nat.add_sub_cancel_left, Nat.add_sub_cancel_left, decompose_of_isJamo (.inl ⟨hlead, hlead'⟩)]
    exact decompose_lead_vowel (Nat.lt_of_add_lt_add_left hlead') (Nat.lt_of_add_lt_add_left hvowel')
  · split at h
    · next hab =>
      obtain ⟨hbase, hbase', hvowel, htail, htail'⟩ := hab
      obtain ⟨n, rfl⟩ := Nat.exists_eq_add_of_le hbase
      obtain ⟨k, rfl⟩ := Nat.exists_eq_add_of_le (Nat.le_of_lt htail)
      obtain rfl := Option.some.inj h
      rw [Nat.add_sub_cancel_left] at hvowel
      rw [Nat.add_sub_cancel_left]
      exact decompose_tail (Nat.lt_of_add_lt_add_left hbase') hvowel (Nat.pos_of_lt_add_right htail)
        (Nat.lt_of_add_lt_add_left htail')
    · cases h

end Hangul

theorem decompose_of_compose? (h : compose? a b = some c) : decompose c = decompose a ++ [b] := by
  rcases Option.or_eq_some_iff.1 h with h | ⟨-, h⟩
  · exact Hangul.decompose_of_compose? h
  · exact decompose_of_composePair? h

def skip (first last : CodePoint) (spans : List (CodePoint × CodePoint × Nat)) : Bool :=
  spans.foldr (fun s rest => bif Nat.blt s.2.1 first then rest else Nat.blt last s.1) true

theorem classIn_of_skip {first last : CodePoint} {spans : List (CodePoint × CodePoint × Nat)}
    (h : skip first last spans = true) (hfirst : first ≤ c) (hlast : c ≤ last) : classIn c spans = 0 := by
  induction spans with
  | nil => rfl
  | cons s spans ih =>
    obtain ⟨low, high, k⟩ := s
    have hcons : skip first last ((low, high, k) :: spans) =
      bif Nat.blt high first then skip first last spans else Nat.blt last low := rfl
    rw [hcons] at h
    unfold classIn
    split
    · rfl
    · next hlow =>
      cases hb : Nat.blt high first with
      | true =>
        rw [hb, cond_true] at h
        have hhigh : ¬ c ≤ high := by
          rw [Nat.blt_eq] at hb
          simp only [CodePoint] at *
          omega
        rw [if_neg hhigh, ih h]
      | false =>
        rw [hb, cond_false, Nat.blt_eq] at h
        exact absurd (Nat.lt_of_le_of_lt hlast h) hlow

def skipsMarks (first last : CodePoint) : Bool :=
  skip first last markClasses && skip first last supplementaryMarkClasses

theorem combiningClass_of_skipsMarks {first last : CodePoint} (h : skipsMarks first last = true)
    (hfirst : first ≤ c) (hlast : c ≤ last) : combiningClass c = 0 := by
  obtain ⟨hbasic, hsupplementary⟩ := Bool.and_eq_true_iff.1 h
  unfold combiningClass
  split_ifs
  · rfl
  · exact classIn_of_skip hbasic hfirst hlast
  · exact classIn_of_skip hsupplementary hfirst hlast

theorem skipsMarks_compositions : ∀ e ∈ compositions, ∀ row ∈ e.2, skipsMarks row.1 row.1 = true := by
  decide +kernel

theorem Hangul.combiningClass_of_compose? (h : compose? a b = some c) : combiningClass a = 0 := by
  have hleads : skipsMarks 0x1100 0x1112 = true := by decide +kernel
  have hsyllables : skipsMarks 0xAC00 0xD7A3 = true := by decide +kernel
  unfold compose? leadBase syllableBase at h
  split at h
  · next hab => exact combiningClass_of_skipsMarks hleads hab.1 (Nat.le_of_lt_succ hab.2.1)
  · split at h
    · next hab => exact combiningClass_of_skipsMarks hsyllables hab.1 (Nat.le_of_lt_succ hab.2.1)
    · cases h

theorem combiningClass_of_compose? (h : compose? a b = some c) : combiningClass a = 0 := by
  rcases Option.or_eq_some_iff.1 h with h | ⟨-, h⟩
  · exact Hangul.combiningClass_of_compose? h
  · obtain ⟨rows, hs, hr⟩ := Option.bind_eq_some_iff.1 h
    have hskips := skipsMarks_compositions _ (mem_of_lookup_eq_some hs) _ (mem_of_lookup_eq_some hr)
    exact combiningClass_of_skipsMarks hskips (Nat.le_refl _) (Nat.le_refl _)

def blanks : List CodePoint := blankSpans.flatMap fun (first, last) => List.range' first (last - first + 1)

theorem mem_blanks_iff : c ∈ blanks ↔ isBlank c = true := by
  simp only [blanks, isBlank, CodePoint.within, List.mem_flatMap, List.any_eq_true, List.mem_range'_1,
    Bool.and_eq_true, decide_eq_true_eq]
  refine exists_congr fun s => and_congr_right fun hs => ?_
  have hspan : s.1 ≤ s.2 := by
    have h : ∀ s ∈ blankSpans, s.1 ≤ s.2 := by decide
    exact h s hs
  simp only [CodePoint] at *
  omega

theorem decompose_blanks : ∀ b ∈ blanks, combiningClass b = 0 ∧ (decompose b).length = 1 ∧
    ∀ d ∈ decompose b, d ∈ blanks := by
  decide +kernel

theorem combiningClass_of_isBlank (h : isBlank c = true) : combiningClass c = 0 :=
  (decompose_blanks c (mem_blanks_iff.2 h)).1

theorem exists_decompose_of_isBlank (h : isBlank c = true) :
    ∃ b, isBlank b = true ∧ decompose c = [b] := by
  obtain ⟨-, hlength, hblanks⟩ := decompose_blanks c (mem_blanks_iff.2 h)
  obtain ⟨b, hb⟩ := List.length_eq_one_iff.1 hlength
  exact ⟨b, mem_blanks_iff.1 (hblanks b (hb ▸ List.mem_singleton_self b)), hb⟩

def isClear (c : CodePoint) : Bool :=
  Nat.blt 0x3000 c || Nat.blt 0x205F c && Nat.blt c 0x3000 || Nat.blt 0x1680 c && Nat.blt c 0x2000 ||
    Nat.blt 0xA0 c && Nat.blt c 0x1680 || Nat.blt 0x20 c && Nat.blt c 0x85

theorem isBlank_of_isClear (h : isClear c = true) : isBlank c = false := by
  have hblanks : ∀ b ∈ blanks, isClear b = false := by decide
  refine Bool.eq_false_iff.2 fun hb => ?_
  rw [hblanks c (mem_blanks_iff.2 hb)] at h
  cases h

theorem isClear_parts : ∀ page ∈ decompositionPages, ∀ row ∈ page.2,
    (row.2.all isClear || Nat.beq row.1 0x2000 || Nat.beq row.1 0x2001) = true := by
  decide +kernel

theorem isBlank_of_mem_decompose (h : isBlank c = false) : ∀ d ∈ decompose c, isBlank d = false := by
  refine forall_decompose (P := fun c => isBlank c = false) ?_ ?_ h
  · intro page hp row hr hrow d hd
    have hclear := isClear_parts page hp row hr
    rw [Bool.or_eq_true, Bool.or_eq_true, Nat.beq_eq, Nat.beq_eq, List.all_eq_true] at hclear
    rcases hclear with (hclear | hkey) | hkey
    · exact isBlank_of_isClear (hclear d hd)
    · rw [hkey] at hrow
      cases hrow
    · rw [hkey] at hrow
      cases hrow
  · intro d hd
    apply isBlank_of_isClear
    simp only [isClear, Bool.or_eq_true, Bool.and_eq_true, Nat.blt_eq, Hangul.IsJamo, Hangul.leadBase,
      Hangul.vowelBase, Hangul.tailBase, CodePoint] at *
    omega

theorem isBlank_of_compose? (h : compose? a b = some c) :
    isBlank a = false ∧ isBlank b = false ∧ isBlank c = false := by
  have hc := decompose_of_compose? h
  have hwhole : isBlank c = false := by
    rw [Bool.eq_false_iff]
    intro hblank
    obtain ⟨d, -, hd⟩ := exists_decompose_of_isBlank hblank
    rw [hc] at hd
    have hlength := congrArg List.length hd
    simp [decompose_ne_nil] at hlength
  have hparts := isBlank_of_mem_decompose hwhole
  rw [hc, List.forall_mem_append, List.forall_mem_singleton] at hparts
  refine ⟨Bool.eq_false_iff.2 fun hblank => ?_, hparts.2, hwhole⟩
  obtain ⟨d, hd, ha⟩ := exists_decompose_of_isBlank hblank
  rw [ha, List.forall_mem_singleton, hd] at hparts
  cases hparts.1

end Unicode

end Romanization
