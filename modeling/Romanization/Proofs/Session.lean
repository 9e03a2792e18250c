import Romanization.Proofs.Catalog.Contents
import Romanization.Proofs.Run
import Romanization.Session

/-! Reloading in long sessions. After any events the catalog in use is the one that the last successful
reload built of the folder as it then was; what fails, and what changes in the folder meanwhile, leaves no
trace in it. -/

namespace Romanization.Session

def start (service : Service) (builtIn : Bool) (folder : Option RulesFolder) : Session :=
  ⟨service, .ofFolder builtIn folder⟩

def Event.change? : Event → Option RulesFolder.Change
  | .write name entry => some (.write name entry)
  | .remove name => some (.remove name)
  | .reload | .request _ => none

def NoneBuilt (builtIn : Bool) (folder : Option RulesFolder) (events : List Event) : Prop :=
  ∀ before after, events = before ++ .reload :: after →
    ∃ e, Catalog.build builtIn (folderAfter Event.change? folder before) = .error e

/-- The catalog in use after some events, as a history tells it: nothing was built yet, or this was at a
reload after which none succeeded. -/
inductive InUse (builtIn : Bool) (folder : Option RulesFolder) : List Event → Catalog → Prop
  | initial {events} : NoneBuilt builtIn folder events → InUse builtIn folder events .empty
  | built {before after c} : Catalog.build builtIn (folderAfter Event.change? folder before) = .ok c →
      NoneBuilt builtIn (folderAfter Event.change? folder before) after →
      InUse builtIn folder (before ++ .reload :: after) c

variable {builtIn : Bool} {folder : Option RulesFolder} {events more : List Event} {event : Event}
  {c d : Catalog} {e : Error}

section History

theorem NoneBuilt.nil : NoneBuilt builtIn folder [] :=
  fun before _ h => absurd h.symm (by simp)

theorem NoneBuilt.append_singleton (h : NoneBuilt builtIn folder events)
    (he : event = .reload →
      ∃ e, Catalog.build builtIn (folderAfter Event.change? folder events) = .error e) :
    NoneBuilt builtIn folder (events ++ [event]) := by
  intro before after heq
  -- the reload is the event itself or stands before it
  rcases List.eq_nil_or_concat after with rfl | ⟨after, last, rfl⟩
  · obtain ⟨rfl, hevent⟩ := List.append_inj' heq rfl
    exact he (List.cons.inj hevent).1
  · rw [List.concat_eq_append, ← List.cons_append, ← List.append_assoc] at heq
    exact h before after (List.append_inj' heq rfl).1

theorem NoneBuilt.start (h : NoneBuilt builtIn folder (events ++ more)) :
    NoneBuilt builtIn folder events := by
  intro before after heq
  exact h before (after ++ more) (by rw [heq, List.append_assoc, List.cons_append])

theorem NoneBuilt.tail (h : NoneBuilt builtIn folder (event :: events)) :
    NoneBuilt builtIn (folderAfter Event.change? folder [event]) events := by
  intro before after heq
  rw [← folderAfter_append]
  exact h (event :: before) after (by rw [heq, List.cons_append])

theorem InUse.append_singleton (h : InUse builtIn folder events c)
    (he : event = .reload →
      ∃ e, Catalog.build builtIn (folderAfter Event.change? folder events) = .error e) :
    InUse builtIn folder (events ++ [event]) c := by
  cases h with
  | initial hn => exact .initial (hn.append_singleton he)
  | @built before after c hb hn =>
    rw [List.append_assoc, List.cons_append]
    refine .built hb (hn.append_singleton ?_)
    rwa [folderAfter_append] at he

theorem InUse.append_reload (h : Catalog.build builtIn (folderAfter Event.change? folder events) = .ok c) :
    InUse builtIn folder (events ++ [.reload]) c :=
  .built h .nil

theorem inUse_iff :
    InUse builtIn folder events c ↔ (NoneBuilt builtIn folder events ∧ c = .empty) ∨
      ∃ before after, events = before ++ .reload :: after ∧
        Catalog.build builtIn (folderAfter Event.change? folder before) = .ok c ∧
        NoneBuilt builtIn (folderAfter Event.change? folder before) after := by
  constructor
  · rintro (hn | ⟨hb, hn⟩)
    · exact .inl ⟨hn, rfl⟩
    · exact .inr ⟨_, _, rfl, hb, hn⟩
  · rintro (⟨hn, rfl⟩ | ⟨before, after, rfl, hb, hn⟩)
    · exact .initial hn
    · exact .built hb hn

/-- No reload that succeeds comes after one that none succeeds after. -/
theorem NoneBuilt.length_le {before after before' after' : List Event}
    (hn : NoneBuilt builtIn (folderAfter Event.change? folder before) after)
    (heq : before ++ .reload :: after = before' ++ .reload :: after')
    (hb : Catalog.build builtIn (folderAfter Event.change? folder before') = .ok c) :
    before'.length ≤ before.length := by
  rcases List.append_eq_append_iff.1 heq with ⟨between, rfl, hrest⟩ | ⟨between, rfl, -⟩
  · cases between with
    | nil => simp
    | cons event between =>
      -- then the later reload is among those that fail
      obtain ⟨rfl, rfl⟩ := List.cons.inj hrest
      obtain ⟨e, he⟩ := hn between after' rfl
      rw [folderAfter_append] at hb
      exact nomatch he.symm.trans hb
  · simp

theorem InUse.unique (hc : InUse builtIn folder events c) (hd : InUse builtIn folder events d) : c = d := by
  have clash : ∀ {before after c}, events = before ++ .reload :: after →
      Catalog.build builtIn (folderAfter Event.change? folder before) = .ok c →
      ¬ NoneBuilt builtIn folder events := by
    intro before after c heq hb hn
    obtain ⟨e, he⟩ := hn before after heq
    exact nomatch he.symm.trans hb
  rcases inUse_iff.1 hc with ⟨hn, rfl⟩ | ⟨before, after, heq, hb, hn⟩
  · rcases inUse_iff.1 hd with ⟨-, rfl⟩ | ⟨before', after', heq', hb', -⟩
    · rfl
    · exact absurd hn (clash heq' hb')
  · rcases inUse_iff.1 hd with ⟨hn', -⟩ | ⟨before', after', heq', hb', hn'⟩
    · exact absurd hn' (clash heq hb)
    · have h := heq.symm.trans heq'
      have hlength := Nat.le_antisymm (hn'.length_le h.symm hb) (hn.length_le h hb')
      obtain ⟨rfl, -⟩ := List.append_inj h hlength
      exact Except.ok.inj (hb.symm.trans hb')

end History

section Steps

variable {s : Session}

theorem step_reload_ok (h : Catalog.build s.registry.builtIn s.registry.folder = .ok c) :
    s.step .reload = (.reloaded (.ok c), ⟨s.service, { s.registry with catalog := c }⟩) := by
  rw [step, Registry.reload, h]

theorem step_reload_error (h : Catalog.build s.registry.builtIn s.registry.folder = .error e) :
    s.step .reload = (.reloaded (.error e), s) := by
  rw [step, Registry.reload, h]

theorem reply_reload (s : Session) :
    (s.step .reload).1 = .reloaded (Catalog.build s.registry.builtIn s.registry.folder) := by
  rw [step, Registry.reload]
  cases Catalog.build s.registry.builtIn s.registry.folder <;> rfl

structure Follows (service : Service) (builtIn : Bool) (folder : Option RulesFolder)
    (events : List Event) (s : Session) : Prop where
  service_eq : s.service = service
  builtIn_eq : s.registry.builtIn = builtIn
  folder_eq : s.registry.folder = folderAfter Event.change? folder events
  in_use : InUse builtIn folder events s.registry.catalog

variable {service : Service}

theorem follows_start (service : Service) (builtIn : Bool) (folder : Option RulesFolder) :
    Follows service builtIn folder [] (start service builtIn folder) :=
  ⟨rfl, rfl, rfl, .initial .nil⟩

theorem Follows.step (h : Follows service builtIn folder events s) (event : Event) :
    Follows service builtIn folder (events ++ [event]) (s.step event).2 := by
  have hfolder : folderAfter Event.change? folder (events ++ [event]) =
      folderAfter Event.change? s.registry.folder [event] := by
    rw [folderAfter_append, h.folder_eq]
  cases event with
  | write name entry => exact ⟨h.service_eq, h.builtIn_eq, hfolder.symm, h.in_use.append_singleton nofun⟩
  | remove name => exact ⟨h.service_eq, h.builtIn_eq, hfolder.symm, h.in_use.append_singleton nofun⟩
  | request r => exact ⟨h.service_eq, h.builtIn_eq, hfolder.symm, h.in_use.append_singleton nofun⟩
  | reload =>
    cases hb : Catalog.build s.registry.builtIn s.registry.folder with
    | ok c =>
      rw [step_reload_ok hb]
      rw [h.builtIn_eq, h.folder_eq] at hb
      exact ⟨h.service_eq, h.builtIn_eq, hfolder.symm, .append_reload hb⟩
    | error e =>
      rw [step_reload_error hb]
      rw [h.builtIn_eq, h.folder_eq] at hb
      exact ⟨h.service_eq, h.builtIn_eq, hfolder.symm, h.in_use.append_singleton fun _ => ⟨e, hb⟩⟩

end Steps

section Runs

variable {s : Session} {service : Service}

theorem run_cons (s : Session) (event : Event) (events : List Event) :
    s.run (event :: events) =
      ((s.step event).1 :: ((s.step event).2.run events).1, ((s.step event).2.run events).2) := rfl

theorem run_eq (s : Session) (events : List Event) : s.run events = Machine.run Session.step s events := by
  induction events generalizing s with
  | nil => rfl
  | cons event events ih => rw [run_cons, ih, Machine.run]

theorem run_getElem? (s : Session) (before : List Event) (event : Event) (after : List Event) :
    (s.run (before ++ event :: after)).1[before.length]? = some ((s.run before).2.step event).1 := by
  rw [run_eq, run_eq, Machine.run_getElem?]

theorem Follows.run (h : Follows service builtIn folder events s) (more : List Event) :
    Follows service builtIn folder (events ++ more) (s.run more).2 := by
  induction more generalizing events s with
  | nil => rwa [List.append_nil]
  | cons event more ih =>
    have := ih (h.step event)
    rwa [List.append_assoc, List.singleton_append] at this

theorem catalog_run (h : NoneBuilt s.registry.builtIn s.registry.folder events) :
    (s.run events).2.registry.catalog = s.registry.catalog := by
  induction events generalizing s with
  | nil => rfl
  | cons event events ih =>
    rw [run_cons]
    cases event with
    | write name entry => exact ih h.tail
    | remove name => exact ih h.tail
    | request r => exact ih h.tail
    | reload =>
      obtain ⟨e, he⟩ := h [] events rfl
      rw [step_reload_error he]
      exact ih h.tail

end Runs

structure KeepsCatalog (service : Service) (builtIn : Bool) (folder : Option RulesFolder)
    (events : List Event) (s : Session) : Prop where
  in_use : ∀ c, InUse builtIn folder events c ↔ c = s.registry.catalog
  failed : ∀ e, Catalog.build builtIn (folderAfter Event.change? folder events) = .error e →
    s.step .reload = (.reloaded (.error e), s)
  unseen : ∀ more, NoneBuilt builtIn (folderAfter Event.change? folder events) more →
    (s.run more).2.registry.catalog = s.registry.catalog ∧
    ∀ before r after, more = before ++ .request r :: after →
      (s.run more).1[before.length]? = some (.answered (service.answer s.registry.catalog r))
  handed_out : ∀ before after, events = before ++ .reload :: after → ∀ more,
    ((start service builtIn folder).run (events ++ more)).1[before.length]? =
      some (.reloaded (Catalog.build builtIn (folderAfter Event.change? folder before)))

theorem keepsCatalog_run (service : Service) (builtIn : Bool) (folder : Option RulesFolder)
    (events : List Event) :
    KeepsCatalog service builtIn folder events ((start service builtIn folder).run events).2 := by
  have follows := (follows_start service builtIn folder).run
  have h := follows events
  rw [List.nil_append] at h
  refine ⟨fun c => ⟨fun hc => hc.unique h.in_use, ?_⟩, fun e he => ?_, fun more hn => ?_, fun before after heq more => ?_⟩
  · rintro rfl
    exact h.in_use
  · rw [← h.builtIn_eq, ← h.folder_eq] at he
    exact step_reload_error he
  · rw [← h.builtIn_eq, ← h.folder_eq] at hn
    refine ⟨catalog_run hn, fun before r after heq => ?_⟩
    subst heq
    rw [run_getElem?, step, catalog_run hn.start, (h.run before).service_eq]
  · subst heq
    have hb := follows before
    rw [List.nil_append] at hb
    rw [List.append_assoc, List.cons_append, run_getElem?, reply_reload, hb.builtIn_eq, hb.folder_eq]

def emptied : List Event := [.reload, .write "a.json".codePoints (.file []), .reload]

theorem noneBuilt_emptied : NoneBuilt false (some Catalog.twoFiles) emptied.tail := by
  have hbroken : ∃ e, Catalog.build false
      (folderAfter Event.change? (some Catalog.twoFiles) [.write "a.json".codePoints (.file [])]) = .error e :=
    exists_eq_error (by decide +kernel)
  have hwrite : NoneBuilt false (some Catalog.twoFiles) [.write "a.json".codePoints (.file [])] := by
    refine NoneBuilt.nil.append_singleton fun h => ?_
    cases h
  exact hwrite.append_singleton fun _ => hbroken

theorem keepsCatalog_run_emptied :
    ∃ c, Catalog.build false (some Catalog.twoFiles) = .ok c ∧
      ((start ⟨true, .null⟩ false (some Catalog.twoFiles)).run emptied).2.registry.catalog = c := by
  obtain ⟨c, hc⟩ := exists_eq_ok (x := Catalog.build false (some Catalog.twoFiles)) (by decide +kernel)
  have hu : InUse false (some Catalog.twoFiles) emptied c :=
    inUse_iff.2 (.inr ⟨[], emptied.tail, rfl, hc, noneBuilt_emptied⟩)
  have h := keepsCatalog_run ⟨true, .null⟩ false (some Catalog.twoFiles) emptied
  exact ⟨c, hc, ((h.in_use c).1 hu).symm⟩

end Romanization.Session
