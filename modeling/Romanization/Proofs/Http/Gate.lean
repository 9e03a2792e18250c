import Mathlib.Data.List.Forall2
import Romanization.Http.App
import Romanization.Proofs.Outcome

/-! The gate of an app that asks for a key. A request without the key gets a response that the request alone
decides, and it leaves the app as it is. -/

namespace Romanization.Http

namespace Request

/-- The first header for it holds a bearer token, which is the key when trimmed. -/
def Carries (r : Request) (apiKey : Text) : Prop :=
  ∃ token, App.header r.headers "authorization" = "Bearer ".codePoints ++ token ∧ Text.trim token = apiKey

theorem carries_iff {r : Request} {apiKey : Text} :
    r.Carries apiKey ↔
      Text.startsWith (App.header r.headers "authorization") "Bearer ".codePoints ∧
        Text.trim ((App.header r.headers "authorization").drop "Bearer ".codePoints.length) = apiKey := by
  rw [Text.startsWith, List.isPrefixOf_iff_prefix]
  constructor
  · rintro ⟨token, hh, hk⟩
    rw [hh, List.drop_left]
    exact ⟨List.prefix_append _ _, hk⟩
  · rintro ⟨⟨token, hh⟩, hk⟩
    rw [← hh, List.drop_left] at hk
    exact ⟨token, hh.symm, hk⟩

instance (r : Request) (apiKey : Text) : Decidable (r.Carries apiKey) :=
  decidable_of_iff _ carries_iff.symm

def To (r : Request) (e : Endpoint) : Prop := Endpoint.ofPath? r.path = some e ∧ r.method.upper = e.method

instance (r : Request) (e : Endpoint) : Decidable (r.To e) := inferInstanceAs (Decidable (_ ∧ _))

end Request

/-- What an endpoint tells without the key. The body of a transliteration is looked at before that, and the
faults in it are told with the values that have them, which may be none that can be written. -/
inductive TurnedAway (r : Request) : Endpoint → Response → Prop
  | denied {e : Endpoint} (detail : Text) : TurnedAway r e (.fail 401 detail)
  | faulty {faults : List Fault} : App.payload r = .error (.faults faults) →
      TurnedAway r .transliterate (Response.sent ⟨422, .faults faults⟩)
  | unreadable : App.payload r = .error .unreadable →
      TurnedAway r .transliterate (.fail 400 "There was an error parsing the body".codePoints)

namespace App

variable {a b : App} {r : Request} {e : Endpoint}

structure Locked (a : App) (r : Request) : Prop where
  asks : a.settings.requireAuth
  keyless : ¬ r.Carries a.settings.apiKey

def denial (headers : List (Text × Text)) : Response :=
  .fail 401 (if Text.startsWith (header headers "authorization") "Bearer ".codePoints
    then "Invalid API key".codePoints else "Missing Authorization Bearer token".codePoints)

theorem sent_denial (headers : List (Text × Text)) : (denial headers).sent = denial headers := by
  unfold denial
  split <;> rfl

theorem Locked.refusal?_eq (h : a.Locked r) : a.refusal? r.headers = some (denial r.headers) := by
  have hk := h.keyless
  rw [Request.carries_iff, not_and] at hk
  unfold refusal? denial
  simp only [h.asks, Bool.not_true, Bool.false_eq_true, if_false]
  cases hs : Text.startsWith (header r.headers "authorization") "Bearer ".codePoints with
  | false => rfl
  | true => simp [hk hs]

/-- Of two apps that lack the key of a request, neither tells more than the other. -/
theorem Locked.serve_eq (ha : a.Locked r) (hb : b.Locked r) (e : Endpoint) :
    a.serve e r = ((b.serve e r).1, a) := by
  cases e with
  | transliterate =>
    unfold serve
    cases payload r with
    | ok p => simp [ha.refusal?_eq, hb.refusal?_eq]
    | error refusal => cases refusal <;> rfl
  | scripts => simp [serve, ha.refusal?_eq, hb.refusal?_eq]
  | reload => simp [serve, ha.refusal?_eq, hb.refusal?_eq]

theorem Locked.route_eq (ha : a.Locked r) (hb : b.Locked r) (method : Text) :
    a.route method r = ((b.route method r).1, a) := by
  unfold route
  dsimp only
  split
  · split
    · exact ha.serve_eq hb _
    · rfl
  · rfl
  · rfl

theorem Locked.handle_eq (ha : a.Locked r) (hb : b.Locked r) : a.handle r = ((b.handle r).1, a) := by
  unfold handle
  dsimp only
  rw [ha.route_eq hb]

theorem Locked.response_eq (ha : a.Locked r) (hb : b.Locked r) : (a.handle r).1 = (b.handle r).1 := by
  rw [ha.handle_eq hb]

theorem handle_of_to (h : r.To e) : a.handle r = ((a.serve e r).1.sent, (a.serve e r).2) := by
  obtain ⟨hpath, hmethod⟩ := h
  have hroute : a.route r.method.upper r = a.serve e r := by
    unfold route
    simp [hpath, hmethod]
  have hbody : (r.method.upper == "HEAD".codePoints) = false := by
    rw [hmethod]
    cases e <;> rfl
  unfold handle
  simp only [hroute, hbody, Bool.false_eq_true, if_false]

theorem Locked.turnedAway (h : a.Locked r) (hto : r.To e) : TurnedAway r e (a.handle r).1 := by
  have denied : ∀ e, TurnedAway r e (denial r.headers).sent := by
    intro e
    rw [sent_denial]
    exact .denied _
  rw [handle_of_to hto]
  cases e with
  | transliterate =>
    unfold serve
    cases hp : payload r with
    | ok p => simpa [h.refusal?_eq] using denied _
    | error refusal =>
      cases refusal with
      | faults faults => exact .faulty hp
      | unreadable => exact .unreadable hp
  | scripts => simpa [serve, h.refusal?_eq] using denied _
  | reload => simpa [serve, h.refusal?_eq] using denied _

def requests (events : List Event) : List Request :=
  events.filterMap fun
    | .request r => some r
    | _ => none

def responses (outcomes : List (Option Response)) : List Response := outcomes.filterMap id

variable {events others : List Event}

structure Keeps (a b : App) : Prop where
  settings : b.settings = a.settings
  builtIn : b.registry.builtIn = a.registry.builtIn
  catalog : b.registry.catalog = a.registry.catalog

theorem Keeps.locked (h : Keeps a b) (ha : a.Locked r) : b.Locked r := by
  obtain ⟨asks, keyless⟩ := ha
  rw [← h.settings] at asks keyless
  exact ⟨asks, keyless⟩

theorem Keeps.trans {c : App} (h : Keeps a b) (hc : Keeps b c) : Keeps a c :=
  ⟨hc.settings.trans h.settings, hc.builtIn.trans h.builtIn, hc.catalog.trans h.catalog⟩

theorem keeps_step (event : Event) (h : ∀ r ∈ requests [event], a.Locked r) : Keeps a (a.step event).2 := by
  cases event with
  | write name entry => exact ⟨rfl, rfl, rfl⟩
  | remove name => exact ⟨rfl, rfl, rfl⟩
  | request r =>
    have ha := h r List.mem_cons_self
    rw [step, ha.handle_eq ha]
    exact ⟨rfl, rfl, rfl⟩

theorem requests_cons (event : Event) (events : List Event) :
    requests (event :: events) = requests [event] ++ requests events :=
  @List.filterMap_append _ _ [event] events _

theorem run_cons (a : App) (event : Event) (events : List Event) :
    a.run (event :: events) =
      ((a.step event).1 :: ((a.step event).2.run events).1, ((a.step event).2.run events).2) := rfl

theorem responses_step (a : App) (event : Event) (outcomes : List (Option Response)) :
    responses ((a.step event).1 :: outcomes) =
      (requests [event]).map (fun r => (a.handle r).1) ++ responses outcomes := by
  cases event <;> rfl

/-- A whole run keeps what each event keeps, and the responses in it are those of the app as it was at
first. -/
theorem run_of_locked (h : ∀ r ∈ requests events, a.Locked r) :
    Keeps a (a.run events).2 ∧
      responses (a.run events).1 = (requests events).map fun r => (a.handle r).1 := by
  induction events generalizing a with
  | nil => exact ⟨⟨rfl, rfl, rfl⟩, rfl⟩
  | cons event events ih =>
    rw [requests_cons] at h
    have hstep := keeps_step event fun r hr => h r (List.mem_append_left _ hr)
    have hrest : ∀ r ∈ requests events, a.Locked r := fun r hr => h r (List.mem_append_right _ hr)
    obtain ⟨hkeeps, hresponses⟩ := ih fun r hr => hstep.locked (hrest r hr)
    -- rule files that came in with the event do not show in the responses
    have same : ∀ r ∈ requests events, ((a.step event).2.handle r).1 = (a.handle r).1 :=
      fun r hr => (hstep.locked (hrest r hr)).response_eq (hrest r hr)
    rw [requests_cons event events, List.map_append, run_cons, responses_step, hresponses,
      List.map_congr_left same]
    exact ⟨hstep.trans hkeeps, rfl⟩

/-- Without their keys, apps answer the same requests alike, whatever happens to their rule files meanwhile:
with a denial, or with what the body of a transliteration alone brings about. The catalog in use is the first
one throughout. -/
theorem run_without_key (ha : ∀ r ∈ requests events, a.Locked r) (hb : ∀ r ∈ requests others, b.Locked r)
    (same : requests events = requests others) :
    (∀ before, before <+: events → (a.run before).2.registry.catalog = a.registry.catalog) ∧
      responses (a.run events).1 = responses (b.run others).1 ∧
      List.Forall₂ (fun r response => ∀ e, r.To e → TurnedAway r e response) (requests events)
        (responses (a.run events).1) := by
  have hresponses := (run_of_locked ha).2
  refine ⟨fun before hbefore => ?_, ?_, ?_⟩
  · have hm : ∀ r ∈ requests before, a.Locked r := fun r hr =>
      ha r ((hbefore.filterMap _).subset hr)
    exact (run_of_locked hm).1.catalog
  · rw [hresponses, (run_of_locked hb).2, ← same]
    exact List.map_congr_left fun r hr => (ha r hr).response_eq (hb r (same ▸ hr))
  · rw [hresponses, List.forall₂_map_right_iff, List.forall₂_same]
    exact fun r hr e hto => (ha r hr).turnedAway hto

theorem settings_of_start {settings : Settings} {place : Place} (h : start settings place = .ok a) :
    a.settings = settings := by
  unfold start at h
  dsimp only at h
  split at h <;> cases h
  rfl

def guarded (apiKey : Text) (rulesDir : Option Text) (maxInputChars : Int) : Settings :=
  ⟨"0.0.0.0".codePoints, 8000, true, apiKey, false, rulesDir, .preserve, true, maxInputChars,
    "INFO".codePoints⟩

theorem locked_of_start {apiKey : Text} {rulesDir : Option Text} {maxInputChars : Int} {place : Place}
    (h : start (guarded apiKey rulesDir maxInputChars) place = .ok a) (hr : ¬ r.Carries apiKey) :
    a.Locked r := by
  have hs := settings_of_start h
  exact ⟨by rw [hs]; rfl, by rw [hs]; exact hr⟩

def knocks : List Request :=
  [⟨"POST".codePoints, Endpoint.reload.path, [("Authorization".codePoints, "Bearer  k ".codePoints)], []⟩,
    ⟨"GET".codePoints, Endpoint.scripts.path, [], []⟩,
    ⟨"POST".codePoints, Endpoint.transliterate.path, [], []⟩]

theorem run_without_key_knocks :
    ∃ a b, start (guarded "l".codePoints (some "/r".codePoints) 0) (.folder []) = .ok a ∧
      start (guarded [] none 4096) .nothing = .ok b ∧
      ((a.run (.write "a.json".codePoints (.file []) :: knocks.map .request)).2.registry.catalog =
        a.registry.catalog) ∧
      responses (a.run (.write "a.json".codePoints (.file []) :: knocks.map .request)).1 =
        responses (b.run (knocks.map .request)).1 := by
  obtain ⟨a, ha⟩ := exists_eq_ok
    (x := start (guarded "l".codePoints (some "/r".codePoints) 0) (.folder [])) (by decide +kernel)
  obtain ⟨b, hb⟩ := exists_eq_ok (x := start (guarded [] none 4096) .nothing) (by decide +kernel)
  have keyless : ∀ r ∈ knocks, ¬ r.Carries "l".codePoints ∧ ¬ r.Carries [] := by decide +kernel
  have h := @run_without_key a b (.write "a.json".codePoints (.file []) :: knocks.map .request)
    (knocks.map .request) (fun r hr => locked_of_start ha (keyless r hr).1)
    (fun r hr => locked_of_start hb (keyless r hr).2) rfl
  exact ⟨a, b, ha, hb, h.1 _ (List.prefix_refl _), h.2.1⟩

def posting (body : Text) : Request :=
  ⟨"POST".codePoints, Endpoint.transliterate.path,
    [("content-type".codePoints, "application/json".codePoints)], Utf8.encode body⟩

def unwelcome : List Request := [posting "\x7b\"input\":NaN\x7d".codePoints, posting [0, 0x7B, 0, 0x7D, 0]]

theorem status_without_key_unwelcome :
    ∃ a, start (guarded "k".codePoints none 4096) .nothing = .ok a ∧
      (∀ r ∈ unwelcome, a.Locked r ∧ r.To .transliterate) ∧
      unwelcome.map (fun r => (a.handle r).1.status) = [500, 400] := by
  obtain ⟨a, ha⟩ := exists_eq_ok (x := start (guarded "k".codePoints none 4096) .nothing)
    (by decide +kernel)
  have keyless : ∀ r ∈ unwelcome, ¬ r.Carries "k".codePoints ∧ r.To .transliterate := by decide +kernel
  have statuses : (start (guarded "k".codePoints none 4096) .nothing).toOption.map
      (fun a => unwelcome.map fun r => (a.handle r).1.status) = some [500, 400] := by decide +kernel
  rw [ha] at statuses
  exact ⟨a, ha, fun r hr => ⟨locked_of_start ha (keyless r hr).1, (keyless r hr).2⟩,
    Option.some.inj statuses⟩

end App

end Romanization.Http
