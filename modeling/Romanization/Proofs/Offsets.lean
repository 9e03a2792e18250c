import Romanization.Proofs.Catalog.Custom
import Romanization.Proofs.Catalog.Shape
import Romanization.Proofs.Catalog.Standard
import Romanization.Proofs.Http.Transliteration
import Romanization.Proofs.Session

/-! Where clusters stand. They cover the text that was prepared for the table, and not the text as it was
given, which is told along with them. -/

namespace Romanization

theorem Contiguous.stop_unique {start stop other : Nat} {cs : List Cluster} (h : Contiguous start stop cs)
    (h' : Contiguous start other cs) : stop = other := by
  rw [h.stop_eq, h'.stop_eq]

theorem Json.string?_eq_some_iff {v : Json} {t : Text} : v.string? = some t ↔ v = .string t := by
  cases v <;> simp [string?]

namespace RuleTable

/-- Clusters that cover a text: each tells which part of it is a pattern of the table, or is put out as it
is. -/
structure Locates (t : RuleTable) (text : Text) (cs : List Cluster) : Prop where
  contiguous : Contiguous 0 text.length cs
  matched : ∀ c ∈ cs, c.matched = true → (text.slice c.start c.stop, c.output) ∈ t.rules
  passed : ∀ c ∈ cs, c.matched = false → text.slice c.start c.stop = c.output

variable {t u : RuleTable} {text other : Text} {c : Cluster} {cs : List Cluster}

theorem Reads.slice_of_passed (h : t.Reads text c) (hm : c.matched = false) :
    text.slice c.start c.stop = c.output := by
  obtain ⟨hl, unit, hu, ho⟩ := h.passed hm
  rw [Cluster.stop, hl, ho, Text.slice_eq_take, List.take_one, List.head?_drop, hu]
  rfl

theorem Built.locates (h : t.Built) (text : Text) : t.Locates text (t.clusters text) := by
  obtain ⟨hc, hr⟩ := h.proper.isTiling text
  refine ⟨hc, fun c hcs hm => ?_, fun c hcs => (hr c hcs).slice_of_passed⟩
  obtain ⟨-, -, hf⟩ := (hr c hcs).longest hm
  exact (Dictionary.find?_eq_some_iff t.distinct).1 hf

theorem Locates.length_eq (h : t.Locates text cs) (h' : u.Locates other cs) : text.length = other.length :=
  h.contiguous.stop_unique h'.contiguous

end RuleTable

namespace Service

variable {service : Service} {c : Catalog} {request : Request} {answer : Answer} {name : Text}

/-- Clusters that are told with the name of a table: a request calls for a table of this name, and they cover
what the text of the request is prepared to. -/
def LocatesPrepared (service : Service) (c : Catalog) (request : Request) (name : Text) (cs : List Cluster) :
    Prop :=
  let text := Text.tidy (request.text.getD []) service.composes
  ∃ t, Selects c request text t ∧ t.name = name ∧ t.Locates text cs

theorem locatesPrepared_of_answer (hbuilt : ∀ t, c.Has t → t.Built) (hclusters : request.clusters)
    (h : service.answer c request = .ok answer) (hname : answer.table = some name) :
    answer.input = request.text ∧ LocatesPrepared service c request name answer.clusters := by
  rcases plain_or_romanized rfl h with rfl | ⟨t, mode, ht, -, rfl⟩
  · cases hname
  · cases hname
    refine ⟨rfl, t, ht, rfl, ?_⟩
    simp only [romanized, hclusters, if_true]
    exact (hbuilt t ht.has).locates _

end Service

theorem Session.built_of_has (service : Service) (builtIn : Bool) (folder : Option RulesFolder)
    (events : List Event) :
    ∀ t, ((start service builtIn folder).run events).2.registry.catalog.Has t → t.Built := by
  have follows := (follows_start service builtIn folder).run events
  rcases inUse_iff.1 follows.in_use with ⟨-, hc⟩ | ⟨before, after, -, hb, -⟩
  · rw [hc]
    rintro t (⟨script, listing, hf, -⟩ | hcombined)
    · cases hf
    · cases hcombined
  · exact Catalog.built_of_build hb

theorem Session.run_reload_ok {service : Service} {builtIn : Bool} {folder : Option RulesFolder} {c : Catalog}
    (h : Catalog.build builtIn folder = .ok c) :
    ((start service builtIn folder).run [.reload]).2 = ⟨service, ⟨builtIn, folder, c⟩⟩ := by
  rw [run_cons, step_reload_ok h]
  rfl

namespace Http

theorem Response.sent_of_status {r : Response} (h : r.sent.status ≠ 500) : r.sent = r := by
  unfold sent at h ⊢
  split at h
  · next hw => rw [if_pos hw]
  · exact absurd rfl h

theorem Response.field_input (status : Nat) (answer : Service.Answer) (clusters : Bool) :
    (Response.body ⟨status, .transliteration answer clusters⟩).field "input" =
      .string (answer.input.getD []) := rfl

theorem Response.field_table (status : Nat) (answer : Service.Answer) (clusters : Bool) :
    (Response.body ⟨status, .transliteration answer clusters⟩).field "table" =
      (answer.table.map Json.string).getD .null := rfl

theorem Response.field_clusters (status : Nat) (answer : Service.Answer) (clusters : Bool) :
    (Response.body ⟨status, .transliteration answer clusters⟩).field "clusters" =
      if clusters then .array (answer.clusters.map cluster) else .null := rfl

end Http

namespace Http.App

variable {a : App} {r : Request} {p : Payload} {name : Text}

theorem built_of_create {sources : Settings.Sources} {place : Place} (h : create sources place = .ok a)
    (events : List Event) : ∀ t, (a.run events).2.registry.catalog.Has t → t.Built := by
  obtain ⟨folder, -, hb⟩ := builtWhen_run (P := fun _ => True) (builtWhen_create h trivial) events
    fun _ _ => trivial
  exact Catalog.built_of_build hb

theorem answer_of_handle (hto : r.To .transliterate) (hp : payload r = .ok p)
    (h : (a.handle r).1.status = 200) :
    ∃ answer, a.service.answer a.registry.catalog p.request = .ok answer ∧
      (a.handle r).1.body = Response.body ⟨200, .transliteration answer p.clusters⟩ := by
  have handled : (a.handle r).1 = (a.serve .transliterate r).1.sent := by rw [handle_of_to hto]
  rw [handled] at h ⊢
  have sent := Response.sent_of_status (h.trans_ne (by decide))
  rw [sent] at h ⊢
  have ends := ends_serve (a := a) hp
  generalize (a.serve .transliterate r).1 = response at ends h
  cases ends with
  | done _ _ ha _ hbody => exact ⟨_, ha, hbody.trans (body_transliteration 200 ha).symm⟩
  | _ => cases h

theorem locatesPrepared_of_handle (hbuilt : ∀ t, a.registry.catalog.Has t → t.Built)
    (hto : r.To .transliterate) (hp : payload r = .ok p) (hclusters : p.clusters)
    (h : (a.handle r).1.status = 200) (hname : (a.handle r).1.body.field "table" = .string name) :
    (a.handle r).1.body.field "input" = .string p.input ∧
      ∃ cs : List Cluster, (a.handle r).1.body.field "clusters" = .array (cs.map Response.cluster) ∧
        Service.LocatesPrepared a.service a.registry.catalog p.request name cs := by
  obtain ⟨answer, ha, hbody⟩ := answer_of_handle hto hp h
  rw [hbody, Response.field_table] at hname
  rw [hbody, Response.field_input, Response.field_clusters, if_pos hclusters]
  cases htable : answer.table with
  | none =>
    rw [htable] at hname
    cases hname
  | some told =>
    rw [htable] at hname
    cases hname
    obtain ⟨hi, hl⟩ := Service.locatesPrepared_of_answer hbuilt hclusters ha htable
    exact ⟨by rw [hi]; rfl, answer.clusters, rfl, hl⟩

end Http.App

open Service (LocatesPrepared)

/-- Clusters are told along with the text as it was given, but what they cover is what was made of it for the
table. -/
theorem clusters_locate_prepared :
    (∀ (service : Service) (builtIn : Bool) (folder : Option RulesFolder) (events : List Session.Event)
        (request : Service.Request) (answer : Service.Answer) (name : Text),
      let s := ((Session.start service builtIn folder).run events).2
      request.clusters → s.service.answer s.registry.catalog request = .ok answer → answer.table = some name →
        answer.input = request.text ∧
          LocatesPrepared s.service s.registry.catalog request name answer.clusters) ∧
    ∀ (sources : Settings.Sources) (place : Place) (a : Http.App) (events : List Http.App.Event)
        (r : Http.Request) (p : Http.Payload) (name : Text),
      Http.App.create sources place = .ok a → r.To .transliterate → Http.App.payload r = .ok p → p.clusters →
        let b := (a.run events).2
        (b.handle r).1.status = 200 → (b.handle r).1.body.field "table" = .string name →
          (b.handle r).1.body.field "input" = .string p.input ∧
            ∃ cs : List Cluster,
              (b.handle r).1.body.field "clusters" = .array (cs.map Http.Response.cluster) ∧
                LocatesPrepared b.service b.registry.catalog p.request name cs := by
  constructor
  · intro service builtIn folder events request answer name s hclusters ha hname
    have built := Session.built_of_has service builtIn folder events
    exact Service.locatesPrepared_of_answer built hclusters ha hname
  · intro sources place a events r p name ha hto hp hclusters b h hname
    exact Http.App.locatesPrepared_of_handle (Http.App.built_of_create ha events) hto hp hclusters h hname

def spaced : Text := " д\n".codePoints

def postingSpaced : Http.Request :=
  Http.App.posting "\x7b\"input\": \" д\\n\", \"clusters\": true\x7d".codePoints

theorem clusters_locate_prepared_spaced :
    let service : Service := ⟨true, .string CaseMode.preserve.name⟩
    let request : Service.Request := ⟨some spaced, none, none, .null, true⟩
    (∃ c answer, Catalog.build false (some ⟨"/r".codePoints, .folder Service.cyrillicEntries⟩) = .ok c ∧
      service.answer c request = .ok answer ∧
      LocatesPrepared service c request Catalog.combinedName answer.clusters) ∧
    ∃ a p cs, Http.App.create Http.App.foldered (.folder Service.cyrillicEntries) = .ok a ∧
      Http.App.payload postingSpaced = .ok p ∧ p.input = spaced ∧
      (a.handle postingSpaced).1.body.field "clusters" = .array (cs.map Http.Response.cluster) ∧
      LocatesPrepared a.service a.registry.catalog p.request Catalog.combinedName cs := by
  intro service request
  obtain ⟨of_service, of_app⟩ := clusters_locate_prepared
  constructor
  · obtain ⟨answer, h, hname⟩ := exists_of_toOption_map_eq (f := Service.Answer.table)
      (x := Catalog.build false (some ⟨"/r".codePoints, .folder Service.cyrillicEntries⟩) >>= fun c =>
        service.answer c request) (b := some Catalog.combinedName) (by decide +kernel)
    obtain ⟨c, hc, ha⟩ := bind_eq_ok_iff.1 h
    have located := of_service service false (some ⟨"/r".codePoints, .folder Service.cyrillicEntries⟩)
      [.reload] request answer Catalog.combinedName rfl
    rw [Session.run_reload_ok hc] at located
    obtain ⟨-, located⟩ := located ha hname
    exact ⟨c, answer, hc, ha, located⟩
  · obtain ⟨a, ha, hsent⟩ := exists_of_toOption_map_eq
      (x := Http.App.create Http.App.foldered (.folder Service.cyrillicEntries))
      (f := fun a => ((a.handle postingSpaced).1.status,
        ((a.handle postingSpaced).1.body.field "table").string?))
      (b := (200, some Catalog.combinedName)) (by decide +kernel)
    obtain ⟨p, hp, hgiven⟩ := exists_of_toOption_map_eq (x := Http.App.payload postingSpaced)
      (f := fun p => (p.clusters, p.input)) (b := (true, spaced)) (by decide +kernel)
    obtain ⟨hstatus, htable⟩ := Prod.mk.inj hsent
    obtain ⟨hclusters, hinput⟩ := Prod.mk.inj hgiven
    have told := of_app _ _ a [] postingSpaced p Catalog.combinedName ha (by decide +kernel) hp hclusters
    -- now the responses are the same to the letter, and nothing has to be computed to see it
    dsimp only [Http.App.run] at told
    obtain ⟨-, cs, hcs, located⟩ := told hstatus (Json.string?_eq_some_iff.1 htable)
    exact ⟨a, p, cs, ha, hp, hinput, hcs, located⟩

theorem clusters_miss_input :
    let s := ((Session.start ⟨true, .string CaseMode.preserve.name⟩ true none).run [.reload]).2
    let request : Service.Request := ⟨some " क".codePoints, none, none, .null, true⟩
    ∃ answer, s.service.answer s.registry.catalog request = .ok answer ∧
      answer.input = some " क".codePoints ∧ answer.table = some Catalog.combinedName ∧
      ∀ t : RuleTable, ¬ t.Locates " क".codePoints answer.clusters := by
  intro s request
  obtain ⟨c, hc, -, hu⟩ := Catalog.standard_eq_ok
  have hb : Catalog.build true none = .ok c := by rw [← hc, Catalog.standard]
  have hs : s = ⟨⟨true, .string CaseMode.preserve.name⟩, ⟨true, none, c⟩⟩ := Session.run_reload_ok hb
  clear_value s
  subst hs
  have ha := @Service.answer_of_table ⟨true, .string CaseMode.preserve.name⟩ c request _ .preserve
    "क".codePoints (by decide +kernel)
    (Service.tableFor_unnamed rfl rfl (by decide : Script.devanagari ∈ _) (by decide) hu) rfl
  obtain ⟨-, t, -, -, ht⟩ := Service.locatesPrepared_of_answer (Catalog.built_of_build hb) rfl ha rfl
  exact ⟨_, ha, rfl, rfl, fun u hu => absurd (hu.length_eq ht) (by decide +kernel)⟩

end Romanization
