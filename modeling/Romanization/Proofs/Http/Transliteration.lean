import Mathlib.Data.List.Infix
import Romanization.Proofs.Catalog.Reachable
import Romanization.Proofs.Http.Reload
import Romanization.Proofs.Service.Whole

namespace Romanization.Http

namespace Payload

def request (p : Payload) : Service.Request :=
  ⟨some p.input, p.script, p.language, (p.case.map fun mode => .string mode.name).getD .null, p.clusters⟩

theorem also_eq_ok_iff {α β : Type} {f : Check (α → β)} {x : Check α} {b : β} :
    f.also x = .ok b ↔ ∃ g a, f = .ok g ∧ x = .ok a ∧ g a = b := by
  cases f <;> cases x <;> simp [Check.also]

theorem whole_of_toNonemptyText {v : Json} {t : Text} (h : v.toNonemptyText = .ok t) : t.Whole := by
  obtain ⟨u, -, h⟩ := bind_eq_ok_iff.1 h
  obtain ⟨w, hw, h⟩ := bind_eq_ok_iff.1 h
  unfold Json.whole at hw
  split at hw
  · next hu =>
    cases hw
    split at h <;> cases h
    exact Text.isWhole_iff.1 hu
  · cases hw

theorem whole_input {isJson : Bool} {body : Utf8.Bytes} {p : Payload} (h : ofBytes isJson body = .ok p) :
    p.input.Whole := by
  have of_json : ∀ {v : Json}, ofJson v = .ok p → p.input.Whole := by
    intro v hv
    cases v with
    | object members =>
      simp only [ofJson, ofMembers, also_eq_ok_iff] at hv
      obtain ⟨_, clusters, ⟨_, case, ⟨_, language, ⟨_, script, ⟨_, input, hmk, hi, rfl⟩, -, rfl⟩,
        -, rfl⟩, -, rfl⟩, -, rfl⟩ := hv
      cases hmk
      unfold required Check.placed at hi
      split at hi
      · cases hi
      · split at hi <;> cases hi
        next hread => exact whole_of_toNonemptyText hread
    | _ => cases hv
  unfold ofBytes at h
  split at h
  · cases h
  · split at h
    · next t _ =>
      unfold ofText at h
      split at h
      · next v _ =>
        cases hv : ofJson v with
        | error faults =>
          rw [hv] at h
          cases h
        | ok q =>
          rw [hv] at h
          cases h
          exact of_json hv
      · cases h
      · cases h
    · cases h
    · cases h

end Payload

/-- How a transliteration with a valid body ends. The key comes before the length of the input, and that
before the look-up of a table. -/
inductive Ends (a : App) (r : Request) (p : Payload) : Response → Prop
  | denied : a.Locked r → Ends a r p (App.denial r.headers)
  | long : ¬ a.Locked r → a.settings.maxInputChars < p.input.length →
      Ends a r p (.fail 422 ("input is longer than ".codePoints ++ Text.ofInt a.settings.maxInputChars ++
        " characters".codePoints))
  | unknown {name : Option Text} : ¬ a.Locked r → p.input.length ≤ a.settings.maxInputChars →
      a.service.answer a.registry.catalog p.request = .error (.unknownName name) →
      Ends a r p (.fail 404 (Error.unknownName name).text)
  | done {answer : Service.Answer} {response : Response} :
      ¬ a.Locked r → p.input.length ≤ a.settings.maxInputChars →
      a.service.answer a.registry.catalog p.request = .ok answer → response.status = 200 →
      response.body = Response.object [("input", .string p.input), ("output", .string answer.output),
        ("scripts", .array (answer.scripts.map fun s => .string s.name)),
        ("vernacular", .bool answer.vernacular), ("table", (answer.table.map Json.string).getD .null),
        ("clusters", if p.clusters then .array (answer.clusters.map fun k => Response.object
          [("start", .int k.start), ("length", .int k.length), ("output", .string k.output),
            ("matched", .bool k.matched)]) else .null)] →
      Ends a r p response

namespace App

variable {a : App} {r : Request} {p : Payload}

theorem ofJson_case (a : App) (p : Payload) :
    CaseMode.ofJson (if p.request.case.isVoid then a.service.case else p.request.case) =
      .ok (p.case.getD a.settings.defaultCase) := by
  cases hc : p.case with
  | none => simp [Payload.request, hc, Json.isVoid, service, CaseMode.ofJson_name]
  | some mode =>
    have hvoid : Json.isVoid (.string mode.name) = false := by cases mode <;> rfl
    simp [Payload.request, hc, hvoid, CaseMode.ofJson_name]

theorem transliterate_eq (a : App) (p : Payload) :
    a.transliterate p =
      if a.settings.maxInputChars < p.input.length then
        .fail 422 ("input is longer than ".codePoints ++ Text.ofInt a.settings.maxInputChars ++
          " characters".codePoints)
      else match a.service.answer a.registry.catalog p.request with
        | .ok answer => ⟨200, .transliteration answer p.clusters⟩
        | .error (.unknownName name) => .fail 404 (Error.unknownName name).text
        | .error _ => .failure := by
  unfold transliterate Payload.request
  cases p.case <;> rfl

theorem input_of_answer {answer : Service.Answer}
    (h : a.service.answer a.registry.catalog p.request = .ok answer) : answer.input = some p.input := by
  rcases Service.answer_eq_ok (a.ofJson_case p) h with rfl | ⟨t, -, rfl⟩ <;> rfl

theorem body_transliteration {answer : Service.Answer} (status : Nat)
    (h : a.service.answer a.registry.catalog p.request = .ok answer) :
    Response.body ⟨status, .transliteration answer p.clusters⟩ =
      Response.object [("input", .string p.input), ("output", .string answer.output),
        ("scripts", .array (answer.scripts.map fun s => .string s.name)),
        ("vernacular", .bool answer.vernacular), ("table", (answer.table.map Json.string).getD .null),
        ("clusters", if p.clusters then .array (answer.clusters.map fun k => Response.object
          [("start", .int k.start), ("length", .int k.length), ("output", .string k.output),
            ("matched", .bool k.matched)]) else .null)] := by
  have hinput := input_of_answer h
  obtain ⟨input, output, scripts, vernacular, table, clusters⟩ := answer
  subst hinput
  rfl

theorem ends_serve (hp : payload r = .ok p) : Ends a r p (a.serve .transliterate r).1 := by
  unfold serve
  simp only [hp]
  by_cases hl : a.Locked r
  · rw [hl.refusal?_eq]
    exact .denied hl
  rw [refusal?_of_not_locked hl, Option.getD_none, transliterate_eq]
  split
  · next hlong => exact .long hl hlong
  · next hshort =>
    have hle := Int.not_lt.1 hshort
    cases ha : a.service.answer a.registry.catalog p.request with
    | ok answer => exact .done hl hle ha rfl (body_transliteration 200 ha)
    | error e =>
      obtain ⟨name, rfl, -⟩ := Service.asks_of_answer_eq_error (a.ofJson_case p) ha
      exact .unknown hl hle ha

structure Legible (a : App) (p : Payload) : Prop where
  tables : ∀ t, a.registry.catalog.Has t → t.Proper ∧ t.Legible
  languages : ∀ language script, a.registry.catalog.languages.find? language = some script → script.Whole
  script : ∀ t, p.script = some t → t.Whole
  language : ∀ t, p.language = some t → t.Whole

theorem Legible.whole_name (h : a.Legible p) {name : Option Text}
    (hn : Service.Asks a.registry.catalog p.request name) : ∀ t ∈ name, t.Whole := by
  intro t ht
  cases hn with
  | script => exact h.script t ht
  | language => exact h.language t ht
  | script_of_language hf =>
    cases ht
    exact h.languages _ _ hf
  | combined =>
    cases ht
    exact Text.whole_codePoints _

theorem sent_of_ends {response : Response} (hp : payload r = .ok p) (hl : a.Legible p)
    (h : Ends a r p response) : response.sent = response := by
  cases h with
  | denied _ => exact sent_denial r.headers
  | long _ _ => exact Response.sent_fail (by simp)
  | @unknown name _ _ ha =>
    obtain ⟨_, he, hasks⟩ := Service.asks_of_answer_eq_error (a.ofJson_case p) ha
    cases he
    refine Response.sent_fail (Error.whole_text fun t ht => hl.whole_name hasks t ?_)
    simpa [Error.plainTexts] using ht
  | @done answer response _ _ ha _ hbody =>
    refine Response.sent_eq_self ?_
    rw [hbody, ← body_transliteration 200 ha]
    exact Response.isWritable_transliteration
      (Service.whole_answer (a.ofJson_case p) hl.tables (Payload.whole_input hp) ha) _

/-- The catalog in use was built of the folder of some moment, when it had a property. -/
def BuiltWhen (P : Option RulesFolder → Prop) (a : App) : Prop :=
  ∃ folder, P folder ∧ Catalog.build a.registry.builtIn folder = .ok a.registry.catalog

section Run

variable {P : Option RulesFolder → Prop}

theorem builtWhen_step (h : BuiltWhen P a) (hP : P a.registry.folder) (event : Event) :
    BuiltWhen P (a.step event).2 := by
  cases event with
  | write name entry => exact h
  | remove name => exact h
  | request r =>
    have hr := a.handled_handle r
    change BuiltWhen P (a.handle r).2
    generalize (a.handle r).2 = b at hr
    cases hr with
    | same => exact h
    | loaded hb => exact ⟨_, hP, hb⟩

theorem builtWhen_run (h : BuiltWhen P a) (events : List Event)
    (hP : ∀ before, before <+: events → P (folderAfter Event.change? a.registry.folder before)) :
    BuiltWhen P (a.run events).2 := by
  induction events generalizing a with
  | nil => exact h
  | cons event events ih =>
    rw [run_cons]
    refine ih (builtWhen_step h (hP [] List.nil_prefix) event) fun before hb => ?_
    have hfolder : folderAfter Event.change? (a.step event).2.registry.folder before =
        folderAfter Event.change? a.registry.folder (event :: before) := by
      rw [(a.follows_step event).folder, ← folderAfter_append, List.singleton_append]
    rw [hfolder]
    exact hP _ (List.cons_prefix_cons.2 ⟨rfl, hb⟩)

end Run

theorem start_of_create {sources : Settings.Sources} {place : Place} (h : create sources place = .ok a) :
    ∃ settings, Settings.ofSources sources = .ok settings ∧ start settings place = .ok a := by
  unfold create at h
  split at h
  · next settings hs => exact ⟨settings, hs, h⟩
  · cases h

theorem builtWhen_create {sources : Settings.Sources} {place : Place} {P : Option RulesFolder → Prop}
    (h : create sources place = .ok a) (hP : P a.registry.folder) : BuiltWhen P a := by
  obtain ⟨settings, -, hstart⟩ := start_of_create h
  exact ⟨_, hP, (registry_of_start hstart).2.2⟩

theorem legible_of_builtWhen (h : BuiltWhen (fun folder => ∀ f, folder = some f → f.Legible) a)
    (hscript : ∀ t, p.script = some t → t.Whole) (hlanguage : ∀ t, p.language = some t → t.Whole) :
    a.Legible p := by
  obtain ⟨folder, hfolder, hb⟩ := h
  refine ⟨fun t ht => ⟨(Catalog.built_of_build hb t ht).proper, Catalog.legible_of_build hfolder hb t ht⟩,
    fun language script hf => ?_, hscript, hlanguage⟩
  exact Catalog.whole_of_mem_scripts hfolder hb (Catalog.script_of_language hb hf)

/-- An app that was created has tables that were built of checked rules, whatever happened to it, so that no
romanizer is refused and the service fails only for want of a table. A request with a valid body ends, and it
changes nothing. What the handler ends in is what is sent, unless some text has a surrogate in it. -/
theorem transliterate_ends {sources : Settings.Sources} {place : Place}
    (h : create sources place = .ok a) (events : List Event) (hto : r.To .transliterate)
    (hp : payload r = .ok p) :
    let b := (a.run events).2
    (∀ t, b.registry.catalog.Has t → t.Built ∧
      Romanizer.ofParts (.table t) (if p.request.case.isVoid then b.service.case else p.request.case) =
        .ok (.inl ⟨t, p.case.getD b.settings.defaultCase⟩)) ∧
    (∀ e, b.service.answer b.registry.catalog p.request = .error e → ∃ name, e = .unknownName name) ∧
    Ends b r p (b.serve .transliterate r).1 ∧
    (b.handle r).2 = b ∧
    ((∀ before, before <+: events →
        ∀ f, folderAfter Event.change? a.registry.folder before = some f → f.Legible) →
      (∀ t, p.script = some t → t.Whole) → (∀ t, p.language = some t → t.Whole) →
      Ends b r p (b.handle r).1) := by
  intro b
  have hends := ends_serve (a := b) hp
  refine ⟨fun t ht => ⟨?_, ?_⟩, fun e he => ?_, hends, handle_snd_of_ne hto nofun,
    fun hfolder hscript hlanguage => ?_⟩
  · obtain ⟨folder, -, hb⟩ := builtWhen_run (P := fun _ => True) (builtWhen_create h trivial) events
      fun _ _ => trivial
    exact Catalog.built_of_build hb t ht
  · rw [Romanizer.ofParts, b.ofJson_case p]
    rfl
  · obtain ⟨name, rfl, -⟩ := Service.asks_of_answer_eq_error (b.ofJson_case p) he
    exact ⟨name, rfl⟩
  · have hbuilt := builtWhen_run (P := fun folder => ∀ f, folder = some f → f.Legible)
      (builtWhen_create h (hfolder [] List.nil_prefix)) events hfolder
    rw [handle_of_to hto, sent_of_ends hp (legible_of_builtWhen hbuilt hscript hlanguage) hends]
    exact hends

def foldered : Settings.Sources :=
  ⟨[("builtin_tables".codePoints, .bool false), ("rules_dir".codePoints, .string "/r".codePoints)], [], []⟩

theorem create_foldered :
    ∃ a, create foldered (.folder []) = .ok a ∧ a.registry.folder = some ⟨"/r".codePoints, .folder []⟩ := by
  obtain ⟨a, ha⟩ := exists_eq_ok (x := create foldered (.folder [])) (by decide +kernel)
  obtain ⟨settings, hs, hstart⟩ := start_of_create ha
  have hdir : (Settings.ofSources foldered).toOption.map Settings.rulesDir = some (some "/r".codePoints) := by
    decide +kernel
  rw [hs] at hdir
  refine ⟨a, ha, ?_⟩
  rw [(registry_of_start hstart).2.1, Option.some.inj hdir]
  rfl

def letter : Request := posting "\x7b\"input\": \"д\", \"clusters\": true\x7d".codePoints

theorem transliterate_ends_broken :
    ∃ a p, create foldered (.folder []) = .ok a ∧ payload letter = .ok p ∧
      let b := (a.run [.write "a.json".codePoints (.file []), .request (withKey .reload)]).2
      Ends b letter p (b.handle letter).1 := by
  obtain ⟨a, ha, hfolder⟩ := create_foldered
  have names : (payload letter).toOption.map (fun p => (p.script, p.language)) = some (none, none) := by
    decide +kernel
  obtain ⟨p, hp, hnames⟩ := exists_of_toOption_map_eq names
  obtain ⟨hscript, hlanguage⟩ := Prod.mk.inj hnames
  have empty : RulesFolder.Legible ⟨"/r".codePoints, .folder []⟩ := by
    refine ⟨by decide, ?_⟩
    rintro name entry ⟨entries, ⟨⟩, -, hf⟩
    cases hf
  obtain ⟨-, -, -, -, ends⟩ := transliterate_ends ha
    [.write "a.json".codePoints (.file []), .request (withKey .reload)] (by decide +kernel) hp
  refine ⟨a, p, ha, hp, ends (fun before hbefore f hf => ?_) ?_ ?_⟩
  · rw [hfolder] at hf
    rw [← List.mem_inits] at hbefore
    simp only [List.inits, List.map, List.mem_cons, List.not_mem_nil, or_false] at hbefore
    rcases hbefore with rfl | rfl | rfl
    · cases hf
      exact empty
    · cases hf
      exact legible_broken
    · cases hf
      exact legible_broken
  · rw [hscript]
    exact nofun
  · rw [hlanguage]
    exact nofun

end App

end Romanization.Http
