namespace Romanization

variable {ε α β σ : Type}

theorem bind_eq_ok_iff {x : Except ε α} {f : α → Except ε β} {b : β} :
    (x >>= f) = .ok b ↔ ∃ a, x = .ok a ∧ f a = .ok b := by
  cases x with
  | error e => exact ⟨nofun, fun ⟨_, h, _⟩ => nomatch h⟩
  | ok a => exact ⟨fun h => ⟨a, rfl, h⟩, fun ⟨_, h, hf⟩ => Except.ok.inj h ▸ hf⟩

theorem map_eq_ok_iff {x : Except ε α} {f : α → β} {b : β} :
    x.map f = .ok b ↔ ∃ a, x = .ok a ∧ f a = b := by
  cases x with
  | error e => exact ⟨nofun, fun ⟨_, h, _⟩ => nomatch h⟩
  | ok a => exact ⟨fun h => ⟨a, rfl, Except.ok.inj h⟩, fun ⟨_, h, hf⟩ => by cases h; rw [← hf]; rfl⟩

theorem bind_eq_error_iff {x : Except ε α} {f : α → Except ε β} {e : ε} :
    (x >>= f) = .error e ↔ x = .error e ∨ ∃ a, x = .ok a ∧ f a = .error e := by
  cases x with
  | error d =>
    change Except.error d = Except.error e ↔ _
    simp
  | ok a =>
    change f a = .error e ↔ _
    simp

theorem map_eq_error_iff {x : Except ε α} {f : α → β} {e : ε} : x.map f = .error e ↔ x = .error e := by
  cases x <;> simp [Except.map]

theorem exists_eq_ok {x : Except ε α} (h : x.toBool) : ∃ a, x = .ok a := by
  cases x with
  | error e => cases h
  | ok a => exact ⟨a, rfl⟩

theorem exists_eq_error {x : Except ε α} (h : !x.toBool) : ∃ e, x = .error e := by
  cases x with
  | error e => exact ⟨e, rfl⟩
  | ok a => cases h

theorem exists_of_toOption_map_eq {x : Except ε α} {f : α → β} {b : β}
    (h : x.toOption.map f = some b) : ∃ a, x = .ok a ∧ f a = b := by
  cases x with
  | error e => cases h
  | ok a => exact ⟨a, rfl, Option.some.inj h⟩

theorem exists_of_map_eq_ok {f : α → Except ε β} {xs : List α} {ys : List β}
    (h : xs.map f = ys.map .ok) {y : β} (hy : y ∈ ys) : ∃ x ∈ xs, f x = .ok y := by
  have hm : Except.ok y ∈ xs.map f := by
    rw [h]
    exact List.mem_map_of_mem hy
  exact List.mem_map.1 hm

theorem eq_map_of_map_eq_ok {f : α → Except ε β} {g : β → α} (h : ∀ x y, f x = .ok y → x = g y)
    {xs : List α} {ys : List β} (hm : xs.map f = ys.map .ok) : xs = ys.map g := by
  induction xs generalizing ys with
  | nil =>
    cases ys with
    | nil => rfl
    | cons y ys => cases hm
  | cons x xs ih =>
    cases ys with
    | nil => cases hm
    | cons y ys =>
      obtain ⟨hy, hys⟩ := List.cons.inj hm
      rw [List.map_cons, ← h x y hy, ← ih hys]

theorem map_bind_eq_ok_iff {γ : Type} {f : α → Except ε β} {g : β → Except ε γ} {xs : List α}
    {zs : List γ} :
    xs.map (fun x => f x >>= g) = zs.map .ok ↔
      ∃ ys : List β, xs.map f = ys.map .ok ∧ ys.map g = zs.map .ok := by
  induction xs generalizing zs with
  | nil =>
    constructor
    · intro h
      exact ⟨[], rfl, h⟩
    · rintro ⟨ys, hys, h⟩
      cases ys with
      | nil => exact h
      | cons y ys => cases hys
  | cons x xs ih =>
    constructor
    · intro h
      cases zs with
      | nil => cases h
      | cons z zs =>
        obtain ⟨hz, hzs⟩ := List.cons.inj h
        obtain ⟨y, hy, hg⟩ := bind_eq_ok_iff.1 hz
        obtain ⟨ys, hys, hgs⟩ := ih.1 hzs
        exact ⟨y :: ys, by rw [List.map_cons, List.map_cons, hy, hys],
          by rw [List.map_cons, List.map_cons, hg, hgs]⟩
    · rintro ⟨ys, hys, hzs⟩
      cases ys with
      | nil => cases hys
      | cons y ys =>
        cases zs with
        | nil => cases hzs
        | cons z zs =>
          obtain ⟨hy, hys⟩ := List.cons.inj hys
          obtain ⟨hz, hzs⟩ := List.cons.inj hzs
          rw [List.map_cons, List.map_cons, ih.2 ⟨ys, hys, hzs⟩, bind_eq_ok_iff.2 ⟨y, hy, hz⟩]

theorem mapM_cons_eq (f : α → Except ε β) (x : α) (xs : List α) :
    (x :: xs).mapM f = f x >>= fun y => (xs.mapM f).map (y :: ·) := by
  rw [List.mapM_cons]
  cases f x with
  | error e => rfl
  | ok y => cases xs.mapM f <;> rfl

theorem mapM_eq_ok_iff {f : α → Except ε β} {xs : List α} {ys : List β} :
    xs.mapM f = .ok ys ↔ xs.map f = ys.map .ok := by
  induction xs generalizing ys with
  | nil => cases ys <;> simp [pure, Except.pure]
  | cons x xs ih =>
    rw [mapM_cons_eq]
    simp only [bind_eq_ok_iff, map_eq_ok_iff, ih, List.map_cons]
    constructor
    · rintro ⟨y, hy, ys, hys, rfl⟩
      rw [hy, hys, List.map_cons]
    · intro h
      cases ys with
      | nil => cases h
      | cons y ys =>
        obtain ⟨hy, hys⟩ := List.cons.inj h
        exact ⟨y, hy, ys, hys, rfl⟩

theorem exists_of_mapM_eq_error {f : α → Except ε β} {xs : List α} {e : ε} (h : xs.mapM f = .error e) :
    ∃ before x after, xs = before ++ x :: after ∧ (∀ b ∈ before, ∃ y, f b = .ok y) ∧
      f x = .error e := by
  induction xs with
  | nil => cases h
  | cons x xs ih =>
    rw [mapM_cons_eq] at h
    cases hx : f x with
    | error d =>
      rw [hx] at h
      cases h
      exact ⟨[], x, xs, rfl, by simp, hx⟩
    | ok y =>
      rw [hx] at h
      cases hm : xs.mapM f with
      | ok ys =>
        simp [hm, bind, Except.bind, Except.map] at h
      | error d =>
        simp only [hm, bind, Except.bind, Except.map] at h
        obtain ⟨before, x', after, rfl, hb, hx'⟩ := ih (hm.trans h)
        exact ⟨x :: before, x', after, rfl, List.forall_mem_cons.2 ⟨⟨y, hx⟩, hb⟩, hx'⟩

theorem foldlM_eq_map_mapM {step : σ → α → Except ε σ} {f : α → Except ε β} {add : σ → β → σ}
    (hstep : ∀ s a, step s a = (f a).map (add s)) (xs : List α) (s : σ) :
    xs.foldlM step s = (xs.mapM f).map (List.foldl add s) := by
  induction xs generalizing s with
  | nil => rfl
  | cons x xs ih =>
    rw [List.foldlM_cons, hstep, mapM_cons_eq]
    cases f x with
    | error e => rfl
    | ok y =>
      change xs.foldlM step (add s y) = ((xs.mapM f).map (y :: ·)).map _
      rw [ih]
      cases xs.mapM f <;> rfl

theorem foldlM_eq_ok_iff {step : σ → α → Except ε σ} {f : α → Except ε β} {add : σ → β → σ}
    (hstep : ∀ s a, step s a = (f a).map (add s)) {xs : List α} {s t : σ} :
    xs.foldlM step s = .ok t ↔ ∃ ys : List β, xs.map f = ys.map .ok ∧ ys.foldl add s = t := by
  simp only [foldlM_eq_map_mapM hstep, map_eq_ok_iff, mapM_eq_ok_iff]

end Romanization
