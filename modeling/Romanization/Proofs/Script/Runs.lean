import Mathlib.Data.List.Chain
import Mathlib.Data.List.Forall2
import Romanization.Proofs.Script.Tokens
import Romanization.Proofs.Text.Blank

namespace Romanization

section EraseDups

variable {α : Type} [BEq α] [LawfulBEq α]

theorem eraseDups_filter (p : α → Bool) (xs : List α) : (xs.filter p).eraseDups = xs.eraseDups.filter p := by
  match xs with
  | [] => rfl
  | x :: xs =>
    rw [List.eraseDups_cons, List.filter_cons, List.filter_cons, ← eraseDups_filter p (xs.filter _)]
    cases hx : p x with
    | true =>
      rw [if_pos rfl, if_pos rfl, List.eraseDups_cons, List.filter_comm]
    | false =>
      have hne : ∀ y, p y = true → (!y == x) = true := by
        intro y hy
        simp only [Bool.not_eq_true', beq_eq_false_iff_ne]
        rintro rfl
        rw [hx] at hy
        cases hy
      simp only [Bool.false_eq_true, if_false, List.filter_filter]
      congr 1
      refine List.filter_congr fun y _ => ?_
      cases hy : p y with
      | true => rw [hne y hy]; rfl
      | false => rfl
termination_by xs.length
decreasing_by exact Nat.lt_succ_of_le (List.length_filter_le _ _)

theorem eraseDups_cons_congr {xs ys : List α} (h : xs.eraseDups = ys.eraseDups) (a : α) :
    (a :: xs).eraseDups = (a :: ys).eraseDups := by
  rw [List.eraseDups_cons, List.eraseDups_cons, eraseDups_filter, eraseDups_filter, h]

theorem eraseDups_append_of_same {a : α} {xs : List α} (hne : xs ≠ []) (h : ∀ x ∈ xs, x = a) (ys : List α) :
    (xs ++ ys).eraseDups = (a :: ys).eraseDups := by
  induction xs with
  | nil => exact absurd rfl hne
  | cons x xs ih =>
    obtain ⟨rfl, h⟩ := List.forall_mem_cons.1 h
    cases xs with
    | nil => rfl
    | cons y xs =>
      rw [List.cons_append, eraseDups_cons_congr (ih (by simp) h) x]
      simp [List.eraseDups_cons]

end EraseDups

namespace Script

variable {s u : Script} {c : CodePoint}

def keeps (s : Script) (c : CodePoint) : Bool := (ofCodePoint? c).all (· == s)

theorem keeps_iff : s.keeps c ↔ ∀ u : Script, u.contains c → u = s := by
  unfold keeps
  cases h : ofCodePoint? c with
  | none =>
    refine iff_of_true rfl fun u hu => ?_
    cases h.symm.trans (ofCodePoint?_eq_some_iff.2 hu)
  | some v =>
    have hv := ofCodePoint?_eq_some_iff.1 h
    rw [Option.all_some, beq_iff_eq]
    constructor
    · rintro rfl u hu
      exact eq_of_contains hu hv
    · exact fun h => h v hv

theorem ofCodePoint?_eq_none_iff : ofCodePoint? c = none ↔ ∀ s : Script, ¬ s.contains c := by
  rw [Option.eq_none_iff_forall_ne_some]
  exact forall_congr' fun s => not_congr ofCodePoint?_eq_some_iff

theorem spans_not_blank (s : Script) :
    ∀ x ∈ s.spans, ∀ y ∈ blankSpans, x.2 < y.1 ∨ y.2 < x.1 := by
  cases s <;> decide

theorem not_isBlank {s : Script} {c : CodePoint} (h : s.contains c) : isBlank c = false :=
  Bool.eq_false_iff.2 (CodePoint.not_within s.spans_not_blank h)

end Script

namespace Run

structure Shows (p : Text) (r : Run) : Prop where
  text_eq : r.text = p.trim
  visible : r.text ≠ []

structure Spells (p : Text) (r : Run) : Prop where
  letter : ∃ c ∈ p, ∃ s : Script, r.script = some s ∧ s.contains c
  only : ∀ c ∈ p, ∀ s : Script, s.contains c → r.script = some s

def Begins (p : Text) (r : Run) : Prop :=
  ∃ c rest, p = c :: rest ∧ ∃ s : Script, r.script = some s ∧ s.contains c

end Run

namespace Text

def Lettered (t : Text) : Prop := ∃ c ∈ t, ∃ s : Script, s.contains c

/-- A cutting of a text into stretches that runs show. A text without letters is one run; otherwise every
stretch has its script, which the next one does not have, and all but the first begin with a letter. -/
structure IsCutting (t : Text) (pieces : List Text) (runs : List Run) : Prop where
  flatten_eq : pieces.flatten = t
  shows : List.Forall₂ Run.Shows pieces runs
  neutral : ¬ t.Lettered → runs.map Run.script = [none]
  spells : t.Lettered → List.Forall₂ Run.Spells pieces runs
  begins : t.Lettered → List.Forall₂ Run.Begins pieces.tail runs.tail
  changes : t.Lettered → (runs.map Run.script).IsChain (· ≠ ·)

end Text

namespace Run

variable {s u : Script} {c : CodePoint} {script : Option Script} {taken t p q : Text} {ps qs : List Text}
  {rs ss : List Run}

/-- What follows a stretch of the script `s`: stretches begun by a letter of another script than the one before
them, and without letters of a third. -/
inductive Follow : Script → List Text → List Run → Prop
  | nil {s : Script} : Follow s [] []
  | cons {s u : Script} {c : CodePoint} {p : Text} {ps : List Text} {rs : List Run} : u ≠ s → u.contains c →
      (∀ d ∈ p, u.keeps d) → Follow u ps rs → Follow s ((c :: p) :: ps) (⟨Text.trim (c :: p), some u⟩ :: rs)

structure Opens (s : Script) (p : Text) : Prop where
  letter : ∃ c ∈ p, s.contains c
  keeps : ∀ d ∈ p, s.keeps d

theorem close_of_visible (h : ∃ c ∈ taken, isBlank c = false) :
    close script taken = [⟨Text.trim taken.reverse, script⟩] := by
  obtain ⟨c, hc, hb⟩ := h
  have hm := Text.mem_trim (List.mem_reverse.2 hc) hb
  unfold close
  cases ht : Text.trim taken.reverse with
  | nil => rw [ht] at hm; cases hm
  | cons d t => rfl

theorem cut_cons_neutral (h : Script.ofCodePoint? c = none) :
    cut script taken (c :: t) = cut script (c :: taken) t := by
  rw [cut, h]

theorem cut_cons_letter (h : s.contains c) :
    cut script taken (c :: t) =
      if script = none ∨ script = some s then cut (some s) (c :: taken) t
      else close script taken ++ cut (some s) [c] t := by
  rw [cut, Script.ofCodePoint?_eq_some_iff.2 h]

theorem cut_cons_first (h : s.contains c) : cut none taken (c :: t) = cut (some s) (c :: taken) t := by
  rw [cut_cons_letter h, if_pos (.inl rfl)]

theorem cut_cons_keeps (h : s.keeps c) : cut (some s) taken (c :: t) = cut (some s) (c :: taken) t := by
  cases hu : Script.ofCodePoint? c with
  | none => exact cut_cons_neutral hu
  | some u =>
    have hc := Script.ofCodePoint?_eq_some_iff.1 hu
    obtain rfl := Script.keeps_iff.1 h u hc
    rw [cut_cons_letter hc, if_pos (.inr rfl)]

theorem cut_cons_change (h : u.contains c) (hne : u ≠ s) :
    cut (some s) taken (c :: t) = close (some s) taken ++ cut (some u) [c] t := by
  rw [cut_cons_letter h, if_neg]
  rintro (hs | hs)
  · cases hs
  · exact hne (Option.some.inj hs).symm

theorem cut_append_keeps (h : ∀ d ∈ p, s.keeps d) (taken t : Text) :
    cut (some s) taken (p ++ t) = cut (some s) (p.reverse ++ taken) t := by
  induction p generalizing taken with
  | nil => rfl
  | cons d p ih =>
    obtain ⟨hd, hp⟩ := List.forall_mem_cons.1 h
    rw [List.cons_append, cut_cons_keeps hd, ih hp, List.reverse_cons, List.append_assoc]
    rfl

theorem cut_append_neutral (h : ∀ d ∈ p, Script.ofCodePoint? d = none) (script : Option Script)
    (taken t : Text) : cut script taken (p ++ t) = cut script (p.reverse ++ taken) t := by
  induction p generalizing taken with
  | nil => rfl
  | cons d p ih =>
    obtain ⟨hd, hp⟩ := List.forall_mem_cons.1 h
    rw [List.cons_append, cut_cons_neutral hd, ih hp, List.reverse_cons, List.append_assoc]
    rfl

def ofTokens (script : Option Script) (taken : Text) : List Text → List Run
  | [] => close script taken
  | token :: tokens =>
    match Script.ofText? token with
    | none => ofTokens script (token.reverse ++ taken) tokens
    | some s =>
      if script = none ∨ script = some s then ofTokens (some s) (token.reverse ++ taken) tokens
      else close script taken ++ ofTokens (some s) token.reverse tokens

theorem cut_eq_ofTokens (script : Option Script) (taken t : Text) :
    cut script taken t = ofTokens script taken t.tokens := by
  fun_induction Text.tokens t generalizing script taken with
  | case1 => rfl
  | case2 c t ih =>
    have same : ∀ d ∈ t.takeWhile (Script.joins c), Script.ofCodePoint? d = Script.ofCodePoint? c :=
      fun d hd => Script.joins_iff.1 (List.mem_takeWhile_imp hd)
    conv => lhs; rw [← List.takeWhile_append_dropWhile (p := Script.joins c) (l := t)]
    rw [ofTokens, Text.ofText?_token]
    cases hc : Script.ofCodePoint? c with
    | none =>
      rw [cut_cons_neutral hc, cut_append_neutral (fun d hd => (same d hd).trans hc), ih]
      simp
    | some s =>
      have hk : ∀ d ∈ t.takeWhile (Script.joins c), s.keeps d := by
        intro d hd
        rw [Script.keeps, same d hd, hc]
        simp
      rw [cut_cons_letter (Script.ofCodePoint?_eq_some_iff.1 hc)]
      simp only [cut_append_keeps hk, ih, List.reverse_cons, List.append_assoc, List.singleton_append]

theorem exists_cut_eq (s : Script) (t : Text) :
    ∃ p ps rs, t = p ++ ps.flatten ∧ (∀ d ∈ p, s.keeps d) ∧ Follow s ps rs ∧
      ∀ taken, cut (some s) taken t = close (some s) (p.reverse ++ taken) ++ rs := by
  induction t generalizing s with
  | nil => exact ⟨[], [], [], rfl, nofun, .nil, fun taken => (List.append_nil _).symm⟩
  | cons d t ih =>
    by_cases hd : s.keeps d
    · obtain ⟨p, ps, rs, ht, hp, hf, hcut⟩ := ih s
      refine ⟨d :: p, ps, rs, by rw [ht]; rfl, List.forall_mem_cons.2 ⟨hd, hp⟩, hf, fun taken => ?_⟩
      rw [cut_cons_keeps hd, hcut, List.reverse_cons, List.append_assoc]
      rfl
    · rw [Script.keeps_iff, not_forall] at hd
      obtain ⟨u, hu⟩ := hd
      obtain ⟨hu, hne⟩ := Classical.not_imp.1 hu
      obtain ⟨p, ps, rs, ht, hp, hf, hcut⟩ := ih u
      have hclose : close (some u) (p.reverse ++ [d]) = [⟨Text.trim (d :: p), some u⟩] := by
        rw [← List.reverse_cons, close_of_visible ⟨d, by simp, Script.not_isBlank hu⟩, List.reverse_reverse]
      refine ⟨[], (d :: p) :: ps, ⟨Text.trim (d :: p), some u⟩ :: rs, by rw [ht]; rfl, nofun,
        .cons hne hu hp hf, fun taken => ?_⟩
      rw [cut_cons_change hu hne, hcut, hclose]
      rfl

theorem exists_cut_none_eq (h : t.Lettered) :
    ∃ s p ps rs, t = p ++ ps.flatten ∧ Opens s p ∧ Follow s ps rs ∧
      ∀ taken, cut none taken t = close (some s) (p.reverse ++ taken) ++ rs := by
  induction t with
  | nil =>
    obtain ⟨c, hc, -⟩ := h
    cases hc
  | cons d t ih =>
    cases hd : Script.ofCodePoint? d with
    | none =>
      have hn := Script.ofCodePoint?_eq_none_iff.1 hd
      have ht : Text.Lettered t := by
        obtain ⟨c, hc, s, hs⟩ := h
        rcases List.mem_cons.1 hc with rfl | hc
        · exact absurd hs (hn s)
        · exact ⟨c, hc, s, hs⟩
      obtain ⟨s, p, ps, rs, rfl, ⟨⟨c, hc, hs⟩, hk⟩, hf, hcut⟩ := ih ht
      refine ⟨s, d :: p, ps, rs, rfl, ⟨⟨c, List.mem_cons_of_mem d hc, hs⟩, ?_⟩, hf, fun taken => ?_⟩
      · exact List.forall_mem_cons.2 ⟨Script.keeps_iff.2 fun u hu => absurd hu (hn u), hk⟩
      · rw [cut_cons_neutral hd, hcut, List.reverse_cons, List.append_assoc]
        rfl
    | some s =>
      have hs := Script.ofCodePoint?_eq_some_iff.1 hd
      obtain ⟨p, ps, rs, rfl, hk, hf, hcut⟩ := exists_cut_eq s t
      refine ⟨s, d :: p, ps, rs, rfl, ⟨⟨d, List.mem_cons_self, hs⟩, ?_⟩, hf, fun taken => ?_⟩
      · exact List.forall_mem_cons.2 ⟨Script.keeps_iff.2 fun u hu => Script.eq_of_contains hu hs, hk⟩
      · rw [cut_cons_first hs, hcut, List.reverse_cons, List.append_assoc]
        rfl

theorem shows_of_letter (hc : c ∈ p) (hs : s.contains c) : Shows p ⟨p.trim, some s⟩ := by
  refine ⟨rfl, fun h => ?_⟩
  have hb := Text.trim_eq_nil_iff.1 h c hc
  rw [Script.not_isBlank hs] at hb
  cases hb

theorem spells_of_keeps (hc : c ∈ p) (hs : s.contains c) (hk : ∀ d ∈ p, s.keeps d) (text : Text) :
    Spells p ⟨text, some s⟩ :=
  ⟨⟨c, hc, s, rfl, hs⟩, fun d hd u hu => congrArg some (Script.keeps_iff.1 (hk d hd) u hu).symm⟩

theorem follow_iff :
    Follow s ps rs ↔ List.Forall₂ Shows ps rs ∧ List.Forall₂ Spells ps rs ∧ List.Forall₂ Begins ps rs ∧
      (some s :: rs.map Run.script).IsChain (· ≠ ·) := by
  constructor
  · intro h
    induction h with
    | nil => simp
    | @cons s u c p ps rs hne hu hp hf ih =>
      obtain ⟨hshown, hspelled, hbegun, hchain⟩ := ih
      have hk : ∀ d ∈ c :: p, u.keeps d :=
        List.forall_mem_cons.2 ⟨Script.keeps_iff.2 fun v hv => Script.eq_of_contains hv hu, hp⟩
      refine ⟨.cons (shows_of_letter List.mem_cons_self hu) hshown,
        .cons (spells_of_keeps List.mem_cons_self hu hk _) hspelled,
        .cons ⟨c, p, rfl, u, rfl, hu⟩ hbegun, List.isChain_cons_cons.2 ⟨?_, hchain⟩⟩
      exact fun h => hne (Option.some.inj h).symm
  · rintro ⟨hshown, hspelled, hbegun, hchain⟩
    induction hshown generalizing s with
    | nil => exact .nil
    | @cons p r ps rs hshows hshown ih =>
      obtain ⟨hspells, hspells'⟩ := List.forall₂_cons.1 hspelled
      obtain ⟨⟨c, rest, rfl, u, hr, hu⟩, hbegun'⟩ := List.forall₂_cons.1 hbegun
      obtain ⟨text, script⟩ := r
      obtain rfl : text = Text.trim (c :: rest) := hshows.text_eq
      obtain rfl : script = some u := hr
      obtain ⟨hne, hchain⟩ := List.isChain_cons_cons.1 hchain
      refine .cons (fun h => hne (congrArg some h.symm)) hu (fun d hd => ?_) (ih hspells' hbegun' hchain)
      refine Script.keeps_iff.2 fun v hv => ?_
      exact (Option.some.inj (hspells.only d (List.mem_cons_of_mem c hd) v hv)).symm

namespace Follow

theorem not_keeps_head (h : Follow s ps rs) (hc : ps.flatten.head? = some c) : s.keeps c = false := by
  cases h with
  | nil => cases hc
  | cons hne hu =>
    cases hc
    exact Bool.eq_false_iff.2 fun hk => hne (Script.keeps_iff.1 hk _ hu)

theorem append_inj (h : Follow s ps rs) (h' : Follow s qs ss) (hp : ∀ d ∈ p, s.keeps d)
    (hq : ∀ d ∈ q, s.keeps d) (he : p ++ ps.flatten = q ++ qs.flatten) :
    p = q ∧ ps.flatten = qs.flatten := by
  have stops : ∀ {ps : List Text} {rs : List Run}, Follow s ps rs → ps.flatten.takeWhile s.keeps = [] := by
    intro ps rs h
    cases hf : ps.flatten with
    | nil => rfl
    | cons c rest => simp [h.not_keeps_head (c := c) (by rw [hf]; rfl)]
  have hpq : p = q := by
    have := congrArg (List.takeWhile s.keeps) he
    rwa [List.takeWhile_append_of_pos hp, List.takeWhile_append_of_pos hq, stops h, stops h',
      List.append_nil, List.append_nil] at this
  subst hpq
  exact ⟨rfl, List.append_cancel_left he⟩

theorem unique (h : Follow s ps rs) (h' : Follow s qs ss) (he : ps.flatten = qs.flatten) :
    ps = qs ∧ rs = ss := by
  induction h generalizing qs ss with
  | nil =>
    cases h' with
    | nil => exact ⟨rfl, rfl⟩
    | cons => cases he
  | cons hne hu hp hf ih =>
    cases h' with
    | nil => cases he
    | cons hne' hu' hp' hf' =>
      obtain ⟨rfl, htail⟩ := List.cons.inj he
      obtain rfl := Script.eq_of_contains hu hu'
      obtain ⟨rfl, hrest⟩ := hf.append_inj hf' hp hp' htail
      obtain ⟨rfl, rfl⟩ := ih hf' hrest
      exact ⟨rfl, rfl⟩

end Follow

theorem Opens.script_eq (hp : Opens s p) (hq : Opens u q) {ptail qtail : Text}
    (he : p ++ ptail = q ++ qtail) : s = u := by
  obtain ⟨c, hc, hs⟩ := hp.letter
  obtain ⟨d, hd, hu⟩ := hq.letter
  rcases List.append_eq_append_iff.1 he with ⟨more, rfl, -⟩ | ⟨more, rfl, -⟩
  · exact Script.keeps_iff.1 (hq.keeps c (List.mem_append_left _ hc)) s hs
  · exact (Script.keeps_iff.1 (hp.keeps d (List.mem_append_left _ hd)) u hu).symm

end Run

namespace Text

variable {s : Script} {t p : Text} {ps pieces : List Text} {rs runs : List Run}

inductive Arranged (t : Text) : List Text → List Run → Prop
  | intro {s : Script} {p : Text} {ps : List Text} {rs : List Run} : p ++ ps.flatten = t → Run.Opens s p →
      Run.Follow s ps rs → Arranged t (p :: ps) (⟨p.trim, some s⟩ :: rs)

theorem Arranged.unique {qs : List Text} {ss : List Run} (h : Arranged t ps rs) (h' : Arranged t qs ss) :
    ps = qs ∧ rs = ss := by
  obtain ⟨rfl, hp, hf⟩ := h
  obtain ⟨he, hq, hf'⟩ := h'
  obtain rfl := hp.script_eq hq he.symm
  obtain ⟨rfl, hrest⟩ := hf.append_inj hf' hp.keeps hq.keeps he.symm
  obtain ⟨rfl, rfl⟩ := hf.unique hf' hrest
  exact ⟨rfl, rfl⟩

theorem exists_arranged (h : t.Lettered) : ∃ pieces, Arranged t pieces t.runs := by
  obtain ⟨s, p, ps, rs, rfl, hp, hf, hcut⟩ := Run.exists_cut_none_eq h
  obtain ⟨c, hc, hs⟩ := hp.letter
  refine ⟨p :: ps, ?_⟩
  rw [runs, hcut, List.append_nil, Run.close_of_visible ⟨c, List.mem_reverse.2 hc, Script.not_isBlank hs⟩,
    List.reverse_reverse]
  exact .intro rfl hp hf

theorem isCutting_iff_arranged (h : t.Lettered) : t.IsCutting pieces runs ↔ Arranged t pieces runs := by
  constructor
  · intro hcut
    cases hcut.spells h with
    | nil =>
      obtain ⟨c, hc, -⟩ := h
      rw [← hcut.flatten_eq] at hc
      cases hc
    | @cons p r ps rs hspells hrest =>
      obtain ⟨hshows, hshown⟩ := List.forall₂_cons.1 hcut.shows
      obtain ⟨d, hd, s, hr, hs⟩ := hspells.letter
      obtain ⟨text, script⟩ := r
      obtain rfl : text = p.trim := hshows.text_eq
      obtain rfl : script = some s := hr
      refine .intro hcut.flatten_eq ⟨⟨d, hd, hs⟩, fun e he => ?_⟩
        (Run.follow_iff.2 ⟨hshown, hrest, hcut.begins h, hcut.changes h⟩)
      exact Script.keeps_iff.2 fun v hv => (Option.some.inj (hspells.only e he v hv)).symm
  · rintro ⟨hflat, hp, hf⟩
    obtain ⟨hshown, hspelled, hbegun, hchain⟩ := Run.follow_iff.1 hf
    obtain ⟨c, hc, hs⟩ := hp.letter
    exact
      { flatten_eq := hflat
        shows := .cons (Run.shows_of_letter hc hs) hshown
        neutral := fun hn => absurd h hn
        spells := fun _ => .cons (Run.spells_of_keeps hc hs hp.keeps _) hspelled
        begins := fun _ => hbegun
        changes := fun _ => hchain }

theorem isCutting_of_neutral (h : ¬ t.Lettered) :
    t.IsCutting pieces runs ↔ pieces = [t] ∧ runs = [⟨t.trim, none⟩] ∧ t.trim ≠ [] := by
  constructor
  · intro hcut
    obtain ⟨r, rfl, hr⟩ := List.map_eq_singleton_iff.1 (hcut.neutral h)
    obtain ⟨p, rest, hshows, hrest, rfl⟩ := List.forall₂_cons_right_iff.1 hcut.shows
    obtain rfl := List.forall₂_nil_right_iff.1 hrest
    obtain rfl : p = t := by simpa using hcut.flatten_eq
    obtain ⟨text, script⟩ := r
    obtain rfl : text = p.trim := hshows.text_eq
    obtain rfl : script = none := hr
    exact ⟨rfl, rfl, hshows.visible⟩
  · rintro ⟨rfl, rfl, hne⟩
    exact
      { flatten_eq := by simp
        shows := .cons ⟨rfl, hne⟩ .nil
        neutral := fun _ => rfl
        spells := fun hl => absurd hl h
        begins := fun hl => absurd hl h
        changes := fun hl => absurd hl h }

theorem not_lettered_iff : ¬ t.Lettered ↔ ∀ c ∈ t, Script.ofCodePoint? c = none := by
  simp only [Lettered, not_exists, not_and, Script.ofCodePoint?_eq_none_iff]

theorem runs_of_neutral (h : ¬ t.Lettered) : t.runs = Run.close none t.reverse := by
  have hn := Run.cut_append_neutral (not_lettered_iff.1 h) none [] []
  rwa [List.append_nil, List.append_nil] at hn

theorem exists_isCutting_runs (h : ∃ c ∈ t, isBlank c = false) : ∃ pieces, t.IsCutting pieces t.runs := by
  by_cases hl : t.Lettered
  · obtain ⟨pieces, ha⟩ := exists_arranged hl
    exact ⟨pieces, (isCutting_iff_arranged hl).2 ha⟩
  · have hclose : t.runs = [⟨t.trim, none⟩] := by
      obtain ⟨c, hc, hb⟩ := h
      rw [runs_of_neutral hl, Run.close_of_visible ⟨c, List.mem_reverse.2 hc, hb⟩, List.reverse_reverse]
    refine ⟨[t], (isCutting_of_neutral hl).2 ⟨rfl, hclose, fun ht => ?_⟩⟩
    obtain ⟨c, hc, hb⟩ := h
    rw [trim_eq_nil_iff.1 ht c hc] at hb
    cases hb

theorem runs_eq_nil_iff : t.runs = [] ↔ ∀ c ∈ t, isBlank c = true := by
  constructor
  · intro h
    by_contra hb
    simp only [not_forall, Bool.not_eq_true] at hb
    obtain ⟨c, hc, hb⟩ := hb
    obtain ⟨pieces, hcut⟩ := exists_isCutting_runs ⟨c, hc, hb⟩
    have hshows := hcut.shows
    rw [h, List.forall₂_nil_right_iff] at hshows
    rw [← hcut.flatten_eq, hshows] at hc
    cases hc
  · intro h
    have hl : ¬ t.Lettered := by
      rintro ⟨c, hc, s, hs⟩
      have hb := Script.not_isBlank hs
      rw [h c hc] at hb
      cases hb
    rw [runs_of_neutral hl, Run.close, List.reverse_reverse, trim_eq_nil_iff.2 h]
    rfl

theorem eraseDups_scripts (h : List.Forall₂ Run.Spells pieces runs) :
    (runs.filterMap Run.script).eraseDups = (pieces.flatten.filterMap Script.ofCodePoint?).eraseDups := by
  induction h with
  | nil => rfl
  | @cons p r pieces runs hspells hrest ih =>
    obtain ⟨c, hc, s, hr, hs⟩ := hspells.letter
    have hne : p.filterMap Script.ofCodePoint? ≠ [] :=
      List.ne_nil_of_mem (List.mem_filterMap.2 ⟨c, hc, Script.ofCodePoint?_eq_some_iff.2 hs⟩)
    have hsame : ∀ u ∈ p.filterMap Script.ofCodePoint?, u = s := by
      intro u hu
      obtain ⟨d, hd, hu⟩ := List.mem_filterMap.1 hu
      have := hspells.only d hd u (Script.ofCodePoint?_eq_some_iff.1 hu)
      exact Option.some.inj (this.symm.trans hr)
    rw [List.filterMap_cons_some hr, List.flatten_cons, List.filterMap_append,
      eraseDups_append_of_same hne hsame, eraseDups_cons_congr ih]

theorem scripts_eq_eraseDups (t : Text) : t.scripts = (t.filterMap Script.ofCodePoint?).eraseDups := by
  by_cases hl : t.Lettered
  · obtain ⟨pieces, ha⟩ := exists_arranged hl
    have hcut := (isCutting_iff_arranged hl).2 ha
    rw [scripts, eraseDups_scripts (hcut.spells hl), hcut.flatten_eq]
  · have hnone : t.filterMap Script.ofCodePoint? = [] := List.filterMap_eq_nil_iff.2 (not_lettered_iff.1 hl)
    rw [scripts, runs_of_neutral hl, hnone, Run.close]
    split <;> rfl

theorem IsCutting.unique {qs : List Text} {ss : List Run} (h : t.IsCutting pieces runs)
    (h' : t.IsCutting qs ss) : pieces = qs ∧ runs = ss := by
  by_cases hl : t.Lettered
  · exact ((isCutting_iff_arranged hl).1 h).unique ((isCutting_iff_arranged hl).1 h')
  · obtain ⟨rfl, rfl, -⟩ := (isCutting_of_neutral hl).1 h
    obtain ⟨rfl, rfl, -⟩ := (isCutting_of_neutral hl).1 h'
    exact ⟨rfl, rfl⟩

theorem mem_scripts_iff : s ∈ t.scripts ↔ ∃ c ∈ t, s.contains c := by
  simp only [scripts_eq_eraseDups, List.mem_eraseDups, List.mem_filterMap, Script.ofCodePoint?_eq_some_iff]

theorem mem_scripts {c : CodePoint} (h : c ∈ t) (hs : s.contains c) : s ∈ t.scripts :=
  mem_scripts_iff.2 ⟨c, h, hs⟩

/-- The runs of a text show the stretches of its only cutting, and its scripts are those of its code points
in the order of their first occurrence. -/
theorem runs_cut_once (t : Text) :
    t.runs = Run.ofTokens none [] t.tokens ∧ (t.runs = [] ↔ ∀ c ∈ t, isBlank c = true) ∧
      ((∃ c ∈ t, isBlank c = false) → ∃ pieces, t.IsCutting pieces t.runs ∧
        ∀ others runs, t.IsCutting others runs → others = pieces ∧ runs = t.runs) ∧
      t.scripts = (t.filterMap Script.ofCodePoint?).eraseDups := by
  refine ⟨Run.cut_eq_ofTokens none [] t, runs_eq_nil_iff, fun h => ?_, scripts_eq_eraseDups t⟩
  obtain ⟨pieces, hcut⟩ := exists_isCutting_runs h
  exact ⟨pieces, hcut, fun others runs hother => hother.unique hcut⟩

theorem runs_cut_once_mixed :
    ∃ pieces, IsCutting " 7 да, ok! б".codePoints pieces
        [⟨"7 да,".codePoints, some .cyrillic⟩, ⟨"ok!".codePoints, some .latin⟩,
          ⟨"б".codePoints, some .cyrillic⟩] ∧
      ∀ others runs, IsCutting " 7 да, ok! б".codePoints others runs → others = pieces := by
  have hruns : runs " 7 да, ok! б".codePoints = [⟨"7 да,".codePoints, some .cyrillic⟩,
    ⟨"ok!".codePoints, some .latin⟩, ⟨"б".codePoints, some .cyrillic⟩] := by decide
  obtain ⟨-, -, cut, -⟩ := runs_cut_once " 7 да, ok! б".codePoints
  obtain ⟨pieces, hcut, unique⟩ := cut ⟨0x37, by decide, by decide⟩
  exact ⟨pieces, hruns ▸ hcut, fun others runs h => (unique others runs h).1⟩

end Text

end Romanization
