import Mathlib.Algebra.GroupWithZero.Nat
import Romanization.Proofs.Catalog.Legible
import Romanization.Proofs.Http.Gate
import Romanization.Proofs.Http.Response
import Romanization.Proofs.Run

namespace Romanization.Http

inductive Reloaded : Except Error Catalog → Response → Prop
  | done {c : Catalog} {scripts : List Text} {response : Response} :
      scripts.Perm c.listings.keys → scripts.Pairwise (·.before ·) → response.status = 200 →
      response.body = Response.object [("scripts", .array (scripts.map .string)),
        ("rules", .int ((c.listings.map fun e => e.2.table.rules.length).sum : Nat))] →
      Reloaded (.ok c) response
  | rejected (e : Error) : Reloaded (.error e) (.fail 422 e.text)

namespace App

def Event.change? : Event → Option RulesFolder.Change
  | .write name entry => some (.write name entry)
  | .remove name => some (.remove name)
  | .request _ => none

variable {a b : App} {r : Request} {e : Endpoint} {events before after : List Event}

inductive Handled (a : App) : App → Prop
  | same : Handled a a
  | loaded {c : Catalog} : Catalog.build a.registry.builtIn a.registry.folder = .ok c →
      Handled a { a with registry := { a.registry with catalog := c } }

theorem reload_eq_ok {c : Catalog} (h : Catalog.build a.registry.builtIn a.registry.folder = .ok c) :
    a.reload = (⟨200, .reloaded c⟩, { a with registry := { a.registry with catalog := c } }) := by
  rw [reload, Registry.reload, h]

theorem reload_eq_error {error : Error}
    (h : Catalog.build a.registry.builtIn a.registry.folder = .error error) :
    a.reload = (if error.code?.isSome then .fail 422 error.text else .failure, a) := by
  rw [reload, Registry.reload, h]

theorem handled_reload (a : App) : Handled a a.reload.2 := by
  cases hb : Catalog.build a.registry.builtIn a.registry.folder with
  | ok c =>
    rw [reload_eq_ok hb]
    exact .loaded hb
  | error error =>
    rw [reload_eq_error hb]
    exact .same

theorem serve_snd_of_ne (a : App) (r : Request) (hne : e ≠ .reload) : (a.serve e r).2 = a := by
  cases e with
  | transliterate =>
    unfold serve
    cases payload r with
    | ok p => rfl
    | error refusal => cases refusal <;> rfl
  | scripts => rfl
  | reload => exact absurd rfl hne

theorem handled_serve (a : App) (e : Endpoint) (r : Request) : Handled a (a.serve e r).2 := by
  by_cases he : e = .reload
  · subst he
    unfold serve
    cases a.refusal? r.headers with
    | some response => exact .same
    | none => exact a.handled_reload
  · rw [serve_snd_of_ne a r he]
    exact .same

theorem handled_handle (a : App) (r : Request) : Handled a (a.handle r).2 := by
  change Handled a (a.route r.method.upper r).2
  unfold route
  dsimp only
  split
  · split
    · exact a.handled_serve _ r
    · exact .same
  · exact .same
  · exact .same

theorem handle_snd_of_ne (h : r.To e) (hne : e ≠ .reload) : (a.handle r).2 = a := by
  rw [handle_of_to h]
  exact a.serve_snd_of_ne r hne

theorem status_sent (r : Response) : r.sent.status = r.status ∨ r.sent.status = 500 := by
  unfold Response.sent
  split
  · exact .inl rfl
  · exact .inr rfl

theorem handle_snd_of_status (h : r.To .reload) (hs : (a.handle r).1.status = 422) :
    (a.handle r).2 = a := by
  rw [handle_of_to h] at hs ⊢
  unfold serve at hs ⊢
  cases hr : a.refusal? r.headers with
  | some response => rfl
  | none =>
    simp only [hr] at hs ⊢
    cases hb : Catalog.build a.registry.builtIn a.registry.folder with
    | error error => rw [reload_eq_error hb]
    | ok c =>
      have hstatus : a.reload.1.status = 200 := by rw [reload_eq_ok hb]
      rcases status_sent a.reload.1 with h200 | h500 <;> omega

theorem sum_sizes (d : Dictionary Listing) (n : Nat) :
    d.foldl (fun n e => n + e.2.table.size) n = n + (d.map fun e => e.2.table.rules.length).sum := by
  induction d generalizing n with
  | nil => rfl
  | cons e d ih =>
    rw [List.foldl_cons, ih, List.map_cons, List.sum_cons, RuleTable.size]
    omega

theorem refusal?_of_not_locked (h : ¬ a.Locked r) : a.refusal? r.headers = none := by
  unfold refusal?
  by_cases asks : a.settings.requireAuth
  · have carries : r.Carries a.settings.apiKey := by
      by_contra keyless
      exact h ⟨asks, keyless⟩
    obtain ⟨hstart, hkey⟩ := Request.carries_iff.1 carries
    simp [asks, hstart, hkey]
  · simp [asks]

section Reload

variable (hfolder : ∀ f, a.registry.folder = some f → f.Legible)
  (hplain : ∀ f, a.registry.folder = some f → f.FailsPlainly)
include hfolder hplain

theorem reloaded_handle (h : r.To .reload) (hr : ¬ a.Locked r) :
    Reloaded (Catalog.build a.registry.builtIn a.registry.folder) (a.handle r).1 := by
  have hserve : (a.handle r).1 = a.reload.1.sent := by
    rw [handle_of_to h]
    simp [serve, refusal?_of_not_locked hr]
  rw [hserve]
  cases hb : Catalog.build a.registry.builtIn a.registry.folder with
  | ok c =>
    rw [reload_eq_ok hb, Response.sent_reloaded fun _ => Catalog.whole_of_mem_scripts hfolder hb]
    obtain ⟨files, first, more, -, -, hc⟩ := Catalog.exists_added hb
    have hn : c.listings.keys.Nodup := by
      rw [(Catalog.combine_eq_ok_iff.1 hc).1]
      exact Catalog.nodup_listings_addAll List.nodup_nil
    refine .done (Text.sort_perm _) (Text.pairwise_sort hn) rfl ?_
    simp only [Response.body, sum_sizes, Nat.zero_add]
    rfl
  | error error =>
    have hcode := Catalog.code?_of_build_eq_error hplain hb
    rw [reload_eq_error hb, if_pos hcode, Response.sent_fail (Catalog.whole_text_of_build_eq_error hfolder hb)]
    exact .rejected error

end Reload

structure Follows (a : App) (events : List Event) (b : App) : Prop where
  settings : b.settings = a.settings
  builtIn : b.registry.builtIn = a.registry.builtIn
  folder : b.registry.folder = folderAfter Event.change? a.registry.folder events

theorem follows_step (a : App) (event : Event) : Follows a [event] (a.step event).2 := by
  cases event with
  | write name entry => exact ⟨rfl, rfl, rfl⟩
  | remove name => exact ⟨rfl, rfl, rfl⟩
  | request r =>
    have h := a.handled_handle r
    change Follows a _ (a.handle r).2
    generalize (a.handle r).2 = b at h
    cases h with
    | same => exact ⟨rfl, rfl, rfl⟩
    | loaded _ => exact ⟨rfl, rfl, rfl⟩

theorem follows_run (a : App) (events : List Event) : Follows a events (a.run events).2 := by
  induction events generalizing a with
  | nil => exact ⟨rfl, rfl, rfl⟩
  | cons event events ih =>
    obtain ⟨hsettings, hbuiltIn, hfolder⟩ := a.follows_step event
    obtain ⟨ihsettings, ihbuiltIn, ihfolder⟩ := ih (a.step event).2
    rw [run_cons]
    refine ⟨ihsettings.trans hsettings, ihbuiltIn.trans hbuiltIn, ihfolder.trans ?_⟩
    rw [hfolder, ← folderAfter_append, List.singleton_append]

theorem run_eq (a : App) (events : List Event) : a.run events = Machine.run App.step a events := by
  induction events generalizing a with
  | nil => rfl
  | cons event events ih => rw [run_cons, ih, Machine.run]

theorem run_getElem? (a : App) (before after : List Event) (r : Request) :
    (a.run (before ++ .request r :: after)).1[before.length]? =
      some (some ((a.run before).2.handle r).1) := by
  rw [run_eq, run_eq, Machine.run_getElem?]
  rfl

theorem run_eraseIdx (h : ((a.run before).2.handle r).2 = (a.run before).2) :
    (a.run (before ++ after)).1 = (a.run (before ++ .request r :: after)).1.eraseIdx before.length := by
  rw [run_eq] at h
  rw [run_eq, run_eq, @Machine.run_eraseIdx _ _ _ App.step a before (.request r) h]

/-- A reload with the key is answered with what can be built of the folder at the moment. Where it is
rejected it can be left out of the run, and so can every request of another endpoint: no other response
changes. -/
theorem rejected_reload_invisible (a : App) (before after : List Event) (r : Request) :
    let responses := (a.run (before ++ .request r :: after)).1
    let folder := folderAfter Event.change? a.registry.folder before
    (r.To .reload → ¬ a.Locked r → (∀ f, folder = some f → f.Legible) →
      (∀ f, folder = some f → f.FailsPlainly) →
      ∃ response, responses[before.length]? = some (some response) ∧
        Reloaded (Catalog.build a.registry.builtIn folder) response) ∧
    (∀ response, r.To .reload → responses[before.length]? = some (some response) →
      response.status = 422 → (a.run (before ++ after)).1 = responses.eraseIdx before.length) ∧
    (r.To .transliterate ∨ r.To .scripts →
      (a.run (before ++ after)).1 = responses.eraseIdx before.length) := by
  obtain ⟨hsettings, hbuiltIn, hfolder⟩ := a.follows_run before
  have hresponse := run_getElem? a before after r
  refine ⟨fun hto hkey hlegible hplain => ⟨_, hresponse, ?_⟩, fun response hto hat hs => ?_, fun hto => ?_⟩
  · have hlocked : ¬ (a.run before).2.Locked r := by
      rintro ⟨asks, keyless⟩
      rw [hsettings] at asks keyless
      exact hkey ⟨asks, keyless⟩
    rw [← hfolder] at hlegible hplain ⊢
    rw [← hbuiltIn]
    exact reloaded_handle hlegible hplain hto hlocked
  · cases hat.symm.trans hresponse
    exact run_eraseIdx (handle_snd_of_status hto hs)
  · refine run_eraseIdx ?_
    rcases hto with hto | hto
    · exact handle_snd_of_ne hto nofun
    · exact handle_snd_of_ne hto nofun

theorem registry_of_start {settings : Settings} {place : Place} (h : start settings place = .ok a) :
    a.registry.builtIn = settings.builtInTables ∧
      a.registry.folder = RulesFolder.ofPath? settings.rulesDir place ∧
      Catalog.build a.registry.builtIn a.registry.folder = .ok a.registry.catalog := by
  unfold start Registry.reload at h
  dsimp only at h
  cases hb : Catalog.build settings.builtInTables (RulesFolder.ofPath? settings.rulesDir place) with
  | ok c =>
    simp only [Registry.ofFolder, hb, Except.ok.injEq] at h
    subst h
    exact ⟨rfl, rfl, hb⟩
  | error e => simp [Registry.ofFolder, hb] at h

def withKey (e : Endpoint) : Request :=
  ⟨e.method, e.path, [("Authorization".codePoints, "Bearer k".codePoints)], []⟩

def broken : RulesFolder := ⟨"/r".codePoints, .folder [("a.json".codePoints, .file [])]⟩

theorem read_nil : Json.read RuleFile.maxDepth [] = .error .malformed := rfl

theorem forall_broken {P : Text → Entry → Prop} (h : P "a.json".codePoints (.file [])) :
    ∀ name entry, broken.HasFile name entry → P name entry := by
  rintro name entry ⟨entries, hplace, hfile⟩
  cases hplace
  have he : (name, entry) ∈ RulesFolder.ruleEntries [("a.json".codePoints, .file [])] :=
    RulesFolder.mem_ruleEntries.2 hfile
  obtain ⟨rfl, rfl⟩ := Prod.mk.inj (List.mem_singleton.1 he)
  exact h

theorem legible_broken : broken.Legible := by
  refine ⟨by decide, forall_broken ⟨by decide, fun bytes t v hb ht hv => ?_⟩⟩
  cases hb
  cases ht
  cases read_nil.symm.trans hv

theorem failsPlainly_broken : broken.FailsPlainly := by
  refine forall_broken fun bytes t o hb ht ho => ?_
  cases hb
  cases ht
  cases read_nil.symm.trans ho
  rfl

theorem rejected_reload_invisible_broken :
    ∃ a, start (guarded "k".codePoints (some "/r".codePoints) 4096) (.folder []) = .ok a ∧
      ∃ response, (a.run [.write "a.json".codePoints (.file []), .request (withKey .reload),
          .request (withKey .scripts)]).1[1]? = some (some response) ∧ response.status = 422 ∧
        (a.run [.write "a.json".codePoints (.file []), .request (withKey .scripts)]).1 =
          (a.run [.write "a.json".codePoints (.file []), .request (withKey .reload),
            .request (withKey .scripts)]).1.eraseIdx 1 := by
  obtain ⟨a, ha⟩ := exists_eq_ok
    (x := start (guarded "k".codePoints (some "/r".codePoints) 4096) (.folder [])) (by decide +kernel)
  obtain ⟨hbuiltIn, hfolder, -⟩ := registry_of_start ha
  have hsettings := settings_of_start ha
  have written : folderAfter Event.change? a.registry.folder
      [.write "a.json".codePoints (.file [])] = some broken := by
    rw [hfolder]
    rfl
  have keyed : (withKey .reload).Carries "k".codePoints := by decide +kernel
  obtain ⟨told, invisible, -⟩ := rejected_reload_invisible a [.write "a.json".codePoints (.file [])]
    [.request (withKey .scripts)] (withKey .reload)
  rw [written] at told
  obtain ⟨response, hat, hreloaded⟩ := told (by decide +kernel) (fun h => h.keyless (hsettings ▸ keyed))
    (by rintro f ⟨⟩; exact legible_broken) (by rintro f ⟨⟩; exact failsPlainly_broken)
  have rejected : ∃ e, Catalog.build a.registry.builtIn (some broken) = .error e := by
    rw [hbuiltIn]
    exact exists_eq_error (by decide +kernel)
  obtain ⟨e, he⟩ := rejected
  rw [he] at hreloaded
  cases hreloaded
  exact ⟨a, ha, _, hat, rfl, invisible _ (by decide +kernel) hat rfl⟩

end App

end Romanization.Http
