import Mathlib.Data.List.Pairwise
import Romanization.Catalog.Registry
import Romanization.Proofs.Catalog.Contents
import Romanization.Proofs.Catalog.RuleFile
import Romanization.Proofs.Scheme.BuiltIn

namespace Romanization

namespace Scheme

def lastFor (schemes : List Scheme) (script : Text) : Option Scheme :=
  schemes.reverse.find? (·.script == script)

def patterns (s : Scheme) : List Text := Dictionary.keys s.rules

/-- The schemes that count for two scripts which texts can be told by have no pattern in common. -/
def Apart (schemes : List Scheme) : Prop :=
  ∀ (s u : Script) (a b : Scheme), s ≠ u → lastFor schemes s.name = some a →
    lastFor schemes u.name = some b → a.patterns.Disjoint b.patterns

end Scheme

namespace RulesFolder

def Gives (folder : RulesFolder) (given : List Scheme) : Prop :=
  ∃ entries es, folder.place = .folder entries ∧ InOrder entries es ∧
    List.Forall₂ (fun e s => e.2.Gives e.1 s) es given

def GivesAll : Option RulesFolder → List Scheme → Prop
  | none, given => given = []
  | some folder, given => folder.Gives given

def additions : Option RulesFolder → Except Error (List Catalog.Addition)
  | none => .ok []
  | some folder => folder.ruleFiles >>= List.mapM folder.addition

end RulesFolder

namespace Catalog

/-- How building fails: there is no folder under the path; or a rule file is bad, and none before it; or all
are good, and two schemes that count share a pattern. -/
inductive Fails (builtIn : Bool) (folder : Option RulesFolder) : Error → Prop
  | no_folder {f} : folder = some f → (∀ entries, f.place ≠ .folder entries) →
      Fails builtIn folder (.folderNotFound f.path)
  | bad_file {f entries before bad after e} : folder = some f → f.place = .folder entries →
      RulesFolder.InOrder entries (before ++ bad :: after) →
      (∀ b ∈ before, ∃ s, b.2.Gives b.1 s) → (∀ s, ¬ bad.2.Gives bad.1 s) →
      f.addition bad = .error e → Fails builtIn folder e
  | clash {given s u a b p} : RulesFolder.GivesAll folder given → s ≠ u →
      Scheme.lastFor (schemes builtIn ++ given) (Script.name s) = some a →
      Scheme.lastFor (schemes builtIn ++ given) (Script.name u) = some b →
      p ∈ a.patterns → p ∈ b.patterns → Fails builtIn folder (.duplicatePattern p combinedName)

end Catalog

namespace RulesFolder

variable {folder : RulesFolder} {e : Text × Entry} {a : Catalog.Addition}

theorem addition_eq_error_iff :
    (∃ err, folder.addition e = .error err) ↔ ∀ s, ¬ e.2.Gives e.1 s := by
  constructor
  · rintro ⟨err, herr⟩ s hs
    obtain ⟨a, ha, -⟩ := addition_of_gives folder hs
    rw [ha] at herr
    cases herr
  · intro hn
    cases ha : folder.addition e with
    | error err => exact ⟨err, rfl⟩
    | ok a => exact absurd (gives_of_addition ha) (hn _)

theorem mapM_addition_iff (folder : RulesFolder) {es : List (Text × Entry)} {given : List Scheme} :
    List.Forall₂ (fun e s => e.2.Gives e.1 s) es given ↔
      ∃ as, es.mapM folder.addition = .ok as ∧ as.map Catalog.Addition.scheme = given := by
  induction es generalizing given with
  | nil =>
    rw [List.forall₂_nil_left_iff]
    constructor
    · rintro rfl
      exact ⟨[], rfl, rfl⟩
    · rintro ⟨as, ha, rfl⟩
      cases ha
      rfl
  | cons e es ih =>
    rw [List.forall₂_cons_left_iff, mapM_cons_eq]
    simp only [bind_eq_ok_iff, map_eq_ok_iff, ih]
    constructor
    · rintro ⟨s, given, hs, ⟨as, ha, rfl⟩, rfl⟩
      obtain ⟨a, hadd, rfl⟩ := addition_of_gives folder hs
      exact ⟨a :: as, ⟨a, hadd, as, ha, rfl⟩, rfl⟩
    · rintro ⟨_, ⟨a, hadd, as, ha, rfl⟩, rfl⟩
      exact ⟨a.scheme, _, gives_of_addition hadd, ⟨as, ha, rfl⟩, rfl⟩

theorem proper_of_mem_additions {folder : Option RulesFolder} {as : List Catalog.Addition}
    (h : additions folder = .ok as) (ha : a ∈ as) : a.table.Proper := by
  cases folder with
  | none =>
    cases h
    cases ha
  | some folder =>
    obtain ⟨es, -, hm⟩ := bind_eq_ok_iff.1 h
    obtain ⟨e, -, he⟩ := exists_of_map_eq_ok (mapM_eq_ok_iff.1 hm) ha
    obtain ⟨file, -, ht, -⟩ := addition_eq_ok_iff_load.1 he
    exact RuleTable.proper_of_ofParts ht

theorem givesAll_iff {folder : Option RulesFolder} {given : List Scheme} :
    GivesAll folder given ↔ ∃ as, additions folder = .ok as ∧ as.map Catalog.Addition.scheme = given := by
  cases folder with
  | none =>
    constructor
    · rintro rfl
      exact ⟨[], rfl, rfl⟩
    · rintro ⟨as, ha, rfl⟩
      cases ha
      rfl
  | some folder =>
    simp only [GivesAll, Gives, additions, bind_eq_ok_iff, ruleFiles_eq_ok_iff, inOrder_iff,
      mapM_addition_iff folder]
    constructor
    · rintro ⟨entries, es, hp, he, as, ha, hs⟩
      exact ⟨as, ⟨es, ⟨entries, hp, he⟩, ha⟩, hs⟩
    · rintro ⟨as, ⟨es, ⟨entries, hp, he⟩, ha⟩, hs⟩
      exact ⟨entries, es, hp, he, as, ha, hs⟩

end RulesFolder

namespace Catalog

variable {c : Catalog} {builtIn : Bool} {folder : Option RulesFolder} {all : List Addition} {e : Error}

section Combining

theorem name_of_find? {script : Text} {a : Addition}
    (h : all.reverse.find? (·.table.name == script) = some a) : a.table.name = script := by
  simpa using List.find?_some h

theorem lastFor_eq_some_iff {script : Text} {x : Scheme} :
    Scheme.lastFor (all.map Addition.scheme) script = some x ↔
      ∃ a, all.reverse.find? (·.table.name == script) = some a ∧ a.scheme = x := by
  rw [Scheme.lastFor, ← List.map_reverse, List.find?_map, Option.map_eq_some_iff]
  rfl

theorem mem_detectable_addAll {t : RuleTable} :
    t ∈ (empty.addAll all).detectable ↔ ∃ (s : Script) (a : Addition),
      all.reverse.find? (·.table.name == s.name) = some a ∧ a.table = t := by
  rw [mem_detectable (nodup_listings_addAll (c := empty) List.nodup_nil)]
  simp only [find?_listings rfl, Option.map_eq_some_iff]
  constructor
  · rintro ⟨s, _, ⟨a, ha, rfl⟩, rfl⟩
    exact ⟨s, a, ha, rfl⟩
  · rintro ⟨s, a, ha, rfl⟩
    exact ⟨s, _, ⟨a, ha, rfl⟩, rfl⟩

theorem pairwise_name_detectable :
    (empty.addAll all).detectable.Pairwise fun t u => t.name ≠ u.name := by
  have hn : (empty.addAll all).listings.keys.Nodup := nodup_listings_addAll List.nodup_nil
  have hname : ∀ e ∈ (empty.addAll all).listings, e.2.table.name = e.1 := by
    intro e he
    have hf := (Dictionary.find?_eq_some_iff hn).2 he
    rw [find?_listings rfl, Option.map_eq_some_iff] at hf
    obtain ⟨a, ha, hl⟩ := hf
    rw [← hl]
    exact name_of_find? ha
  refine List.pairwise_filterMap.2 ((List.pairwise_map.1 hn).imp_of_mem ?_)
  intro e e' he he' hne t ht t' ht'
  simp only [Option.ite_none_right_eq_some, Option.some.injEq] at ht ht'
  rw [← ht.2, ← ht'.2, hname e he, hname e' he']
  exact hne

theorem combine_eq_error_iff :
    c.combine = .error e ↔ RuleTable.merge combinedName c.detectable = .error e := by
  unfold combine
  cases c.detectable with
  | nil => exact ⟨nofun, nofun⟩
  | cons t tables =>
    cases hm : RuleTable.merge combinedName (t :: tables) <;>
      simp [hm, bind, Except.bind, pure, Except.pure]

variable (hp : ∀ a ∈ all, a.table.Proper)
include hp

theorem proper_detectable : ∀ t ∈ (empty.addAll all).detectable, t.Proper := by
  intro t ht
  obtain ⟨s, a, ha, rfl⟩ := mem_detectable_addAll.1 ht
  exact hp a (List.mem_reverse.1 (List.mem_of_find?_eq_some ha))

/-- If tables do not go together, two of them share the pattern that is told. -/
theorem exists_clash (h : (empty.addAll all).combine = .error e) :
    ∃ (s u : Script) (a b : Scheme) (p : Text), s ≠ u ∧
      Scheme.lastFor (all.map Addition.scheme) s.name = some a ∧
      Scheme.lastFor (all.map Addition.scheme) u.name = some b ∧
      p ∈ a.patterns ∧ p ∈ b.patterns ∧ e = .duplicatePattern p combinedName := by
  obtain ⟨p, t, t', hs, ht, ht', he⟩ :=
    RuleTable.merge_eq_error (proper_detectable hp) (combine_eq_error_iff.1 h)
  have hpair := pairwise_name_detectable.sublist hs
  have hne := List.pairwise_pair.1 hpair
  obtain ⟨s, a, ha, rfl⟩ := mem_detectable_addAll.1 (hs.subset (by simp : t ∈ [t, t']))
  obtain ⟨u, b, hb, rfl⟩ := mem_detectable_addAll.1 (hs.subset (by simp : t' ∈ [a.table, t']))
  refine ⟨s, u, a.scheme, b.scheme, p, ?_, lastFor_eq_some_iff.2 ⟨a, ha, rfl⟩,
    lastFor_eq_some_iff.2 ⟨b, hb, rfl⟩, ht, ht', he⟩
  rintro rfl
  exact hne ((name_of_find? ha).trans (name_of_find? hb).symm)

theorem combine_succeeds_iff :
    (∃ d, (empty.addAll all).combine = .ok d) ↔ Scheme.Apart (all.map Addition.scheme) := by
  constructor
  · rintro ⟨d, hd⟩ s u x y hne hx hy
    have hm : ∃ t, RuleTable.merge combinedName (empty.addAll all).detectable = .ok t := by
      cases hm : RuleTable.merge combinedName (empty.addAll all).detectable with
      | ok t => exact ⟨t, rfl⟩
      | error e =>
        rw [combine_eq_error_iff.2 hm] at hd
        cases hd
    obtain ⟨a, ha, rfl⟩ := lastFor_eq_some_iff.1 hx
    obtain ⟨b, hb, rfl⟩ := lastFor_eq_some_iff.1 hy
    have hdisjoint := (RuleTable.merge_succeeds_iff (proper_detectable hp)).1 hm
    have : Std.Symm fun t u : RuleTable => t.patterns.Disjoint u.patterns := ⟨fun _ _ => List.disjoint_symm⟩
    refine hdisjoint.forall (mem_detectable_addAll.2 ⟨s, a, ha, rfl⟩)
      (mem_detectable_addAll.2 ⟨u, b, hb, rfl⟩) ?_
    intro he
    have hname : s.name = u.name := by
      rw [← name_of_find? ha, ← name_of_find? hb, he]
    exact hne (Script.name_injective hname)
  · intro h
    cases hc : (empty.addAll all).combine with
    | ok d => exact ⟨d, rfl⟩
    | error e =>
      obtain ⟨s, u, a, b, p, hne, ha, hb, hpa, hpb, -⟩ := exists_clash hp hc
      exact absurd hpb (h s u a b hne ha hb hpa)

end Combining

theorem fails_of_additions_eq_error (h : RulesFolder.additions folder = .error e) :
    Fails builtIn folder e := by
  cases folder with
  | none => cases h
  | some f =>
    rcases bind_eq_error_iff.1 h with h | ⟨es, hes, h⟩
    · unfold RulesFolder.ruleFiles at h
      split at h
      · cases h
      · next hplace =>
        cases h
        exact .no_folder rfl hplace
    · obtain ⟨entries, hplace, hentries⟩ := RulesFolder.ruleFiles_eq_ok_iff.1 hes
      obtain ⟨before, bad, after, rfl, hb, he⟩ := exists_of_mapM_eq_error h
      refine .bad_file rfl hplace (RulesFolder.inOrder_iff.2 hentries) (fun b hbm => ?_)
        (RulesFolder.addition_eq_error_iff.1 ⟨e, he⟩) he
      obtain ⟨a, ha⟩ := hb b hbm
      exact ⟨a.scheme, RulesFolder.gives_of_addition ha⟩

theorem exists_additions_schemes (builtIn : Bool) :
    ∃ first : List Addition, (schemes builtIn).map Scheme.addition = first.map .ok ∧
      first.map Addition.scheme = schemes builtIn ∧ ∀ a ∈ first, a.table.Proper := by
  cases hm : (schemes builtIn).mapM Scheme.addition with
  | error e =>
    obtain ⟨before, s, after, hs, -, he⟩ := exists_of_mapM_eq_error hm
    have hmem : s ∈ Scheme.builtIn := by
      cases builtIn with
      | true =>
        rw [show Scheme.builtIn = _ from hs]
        simp
      | false => simp [schemes] at hs
    obtain ⟨u, hu⟩ := Scheme.exists_table_eq hmem
    rw [Scheme.addition, hu] at he
    cases he
  | ok first =>
    have hfirst := mapM_eq_ok_iff.1 hm
    refine ⟨first, hfirst, (eq_map_of_map_eq_ok (fun _ _ h => (eq_scheme_of_addition h).1) hfirst).symm, ?_⟩
    intro a ha
    obtain ⟨s, -, hs⟩ := exists_of_map_eq_ok hfirst ha
    obtain ⟨t, ht, rfl⟩ := map_eq_ok_iff.1 hs
    exact (RuleTable.Built.ofRules ht).proper

theorem addFolder_eq (c : Catalog) (folder : RulesFolder) :
    c.addFolder folder = (RulesFolder.additions (some folder)).map c.addAll := by
  change (folder.ruleFiles >>= fun es => es.foldlM (addFile folder) c) =
    (folder.ruleFiles >>= List.mapM folder.addition).map c.addAll
  cases folder.ruleFiles with
  | error e => rfl
  | ok es => exact foldlM_eq_map_mapM (addFile_eq folder) es c

theorem build_eq_of_schemes {first : List Addition}
    (h : (schemes builtIn).map Scheme.addition = first.map .ok) :
    build builtIn folder =
      RulesFolder.additions folder >>= fun more => (empty.addAll (first ++ more)).combine := by
  have hstart : (if builtIn then ofSchemes else .ok empty) = .ok (empty.addAll first) :=
    start_eq_ok_iff.2 ⟨first, h, rfl⟩
  rw [build_eq, hstart]
  cases folder with
  | none => simp [RulesFolder.additions, bind, Except.bind]
  | some folder =>
    change (empty.addAll first).addFolder folder >>= combine = _
    rw [addFolder_eq]
    cases RulesFolder.additions (some folder) with
    | error e => rfl
    | ok more =>
      change ((empty.addAll first).addAll more).combine = (empty.addAll (first ++ more)).combine
      rw [addAll_append]

theorem proper_append {first more : List Addition} (hp : ∀ a ∈ first, a.table.Proper)
    (hm : RulesFolder.additions folder = .ok more) : ∀ a ∈ first ++ more, a.table.Proper := by
  intro a ha
  rcases List.mem_append.1 ha with ha | ha
  · exact hp a ha
  · exact RulesFolder.proper_of_mem_additions hm ha

theorem build_succeeds_iff :
    (∃ c, build builtIn folder = .ok c) ↔
      ∃ given, RulesFolder.GivesAll folder given ∧ Scheme.Apart (schemes builtIn ++ given) := by
  obtain ⟨first, hfirst, hschemes, hp⟩ := exists_additions_schemes builtIn
  simp only [build_eq_of_schemes hfirst, bind_eq_ok_iff, RulesFolder.givesAll_iff]
  have happ : ∀ more : List Addition,
      schemes builtIn ++ more.map Addition.scheme = (first ++ more).map Addition.scheme := by
    intro more
    rw [List.map_append, hschemes]
  constructor
  · rintro ⟨c, more, hm, hc⟩
    refine ⟨_, ⟨more, hm, rfl⟩, ?_⟩
    rw [happ]
    exact (combine_succeeds_iff (proper_append hp hm)).1 ⟨c, hc⟩
  · rintro ⟨_, ⟨more, hm, rfl⟩, ha⟩
    rw [happ] at ha
    obtain ⟨c, hc⟩ := (combine_succeeds_iff (proper_append hp hm)).2 ha
    exact ⟨c, more, hm, hc⟩

theorem fails_of_build_eq_error (h : build builtIn folder = .error e) : Fails builtIn folder e := by
  obtain ⟨first, hfirst, hschemes, hp⟩ := exists_additions_schemes builtIn
  rw [build_eq_of_schemes hfirst, bind_eq_error_iff] at h
  rcases h with h | ⟨more, hm, h⟩
  · exact fails_of_additions_eq_error h
  · obtain ⟨s, u, a, b, p, hne, ha, hb, hpa, hpb, rfl⟩ := exists_clash (proper_append hp hm) h
    rw [List.map_append, hschemes] at ha hb
    exact .clash (RulesFolder.givesAll_iff.2 ⟨more, hm, rfl⟩) hne ha hb hpa hpb

theorem code?_of_build_eq_error (hf : ∀ f, folder = some f → f.FailsPlainly)
    (h : build builtIn folder = .error e) : e.code?.isSome := by
  cases fails_of_build_eq_error h with
  | no_folder => rfl
  | bad_file hfolder hplace hes _ _ he =>
    exact RulesFolder.code?_of_addition_eq_error
      (hf _ hfolder _ _ (hes.hasFile hplace (List.mem_append_right _ List.mem_cons_self))) he
  | clash => rfl

end Catalog

namespace Registry

theorem reload_fst (r : Registry) : r.reload.1 = Catalog.build r.builtIn r.folder := by
  unfold reload
  cases Catalog.build r.builtIn r.folder <;> rfl

theorem reload_snd_of_error {r : Registry} {e : Error} (h : r.reload.1 = .error e) : r.reload.2 = r := by
  rw [reload_fst] at h
  rw [reload, h]

/-- Loading succeeds exactly if all rule files are good and the schemes that count go together. If it fails
the registry stays, and the error, which has a code unless a file was too big to be read, tells the cause. -/
theorem reload_outcome (r : Registry) :
    ((∃ c, r.reload.1 = .ok c) ↔ ∃ given, RulesFolder.GivesAll r.folder given ∧
      Scheme.Apart (Catalog.schemes r.builtIn ++ given)) ∧
    (∀ e, r.reload.1 = .error e → Catalog.Fails r.builtIn r.folder e ∧ r.reload.2 = r) ∧
    ((∀ f, r.folder = some f → f.FailsPlainly) → ∀ e, r.reload.1 = .error e → e.code?.isSome) := by
  refine ⟨?_, fun e he => ⟨?_, reload_snd_of_error he⟩, fun hf e he => ?_⟩
  · rw [reload_fst]
    exact Catalog.build_succeeds_iff
  · exact Catalog.fails_of_build_eq_error (r.reload_fst.symm.trans he)
  · exact Catalog.code?_of_build_eq_error hf (r.reload_fst.symm.trans he)

def sharing (others : List (Text × Entry)) : Registry := .ofFolder false (some ⟨"d".codePoints, .folder (others ++ [
  ("b.json".codePoints, .file
    "\x7b\"script\": \"cyrillic\", \"rules\": [[\"q\", \"x\"]]\x7d".codePoints),
  ("README.txt".codePoints, .file "q is k, or x".codePoints),
  ("a.json".codePoints, .file "\x7b\"script\": \"latin\", \"rules\": [[\"q\", \"k\"]]\x7d".codePoints)])⟩)

theorem reload_outcome_sharing :
    (∃ e, (sharing []).reload.1 = .error e ∧ Catalog.Fails false (sharing []).folder e ∧ e.code?.isSome) ∧
    (∃ given, RulesFolder.GivesAll (sharing [("c.json".codePoints, .file
        "\x7b\"script\": \"LATIN\", \"rules\": []\x7d".codePoints)]).folder given ∧
      Scheme.Apart given) ∧
    Catalog.Fails false (sharing [("d.json".codePoints, .file "[]".codePoints),
        ("A.json".codePoints, .file "\x7b\x7d".codePoints)]).folder
      (.rulesNotList "d/A.json".codePoints) := by
  refine ⟨?_, ?_, ?_⟩
  · obtain ⟨e, he⟩ := exists_eq_error (x := (sharing []).reload.1) (by decide +kernel)
    obtain ⟨-, hfails, hcode⟩ := reload_outcome (sharing [])
    refine ⟨e, he, (hfails e he).1, hcode ?_ e he⟩
    rintro f ⟨⟩
    exact RulesFolder.failsPlainly_of_decode rfl (by decide +kernel)
  · refine (reload_outcome _).1.1 (exists_eq_ok ?_)
    decide +kernel
  · refine ((reload_outcome (sharing _)).2.1 (.rulesNotList _) ?_).1
    rfl

end Registry

end Romanization
