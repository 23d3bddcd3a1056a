import Mathlib.Data.List.Forall2
import SchemaCompiler.Error.Basic

namespace SchemaCompiler

/-! # Results of steps in a row

A list of steps that may fail succeeds if every step does, and fails with the error of the first one
that does not. -/

variable {ε α β γ : Type}

@[simp] theorem ok_bind (x : α) (f : α → Except ε β) : (.ok x : Except ε α) >>= f = f x := rfl

theorem error_bind (e : ε) (f : α → Except ε β) : (.error e : Except ε α) >>= f = .error e := rfl

/-- Steps in a row succeed only if the first one does, and the others on what it gives. -/
theorem exists_of_bind_eq_ok {x : Except ε α} {f : α → Except ε β} {z : β}
    (h : x >>= f = .ok z) : ∃ y, x = .ok y ∧ f y = .ok z := by
  cases x with
  | error e => cases h
  | ok y => exact ⟨y, rfl, h⟩

theorem exists_of_map_eq_ok {x : Except ε α} {f : α → β} {z : β} (h : x.map f = .ok z) :
    ∃ y, x = .ok y ∧ f y = z := by
  cases x with
  | error e => cases h
  | ok y =>
      cases h
      exact ⟨y, rfl, rfl⟩

/-- Steps in a row fail where the first one does, or else where the others do. -/
theorem bind_eq_error_iff {x : Except ε α} {f : α → Except ε β} {e : ε} :
    x >>= f = .error e ↔ x = .error e ∨ ∃ y, x = .ok y ∧ f y = .error e := by
  cases x with
  | error e' =>
      constructor
      · rintro ⟨rfl⟩
        exact .inl rfl
      · rintro (h | ⟨y, hy, -⟩)
        · cases h
          rfl
        · cases hy
  | ok y =>
      constructor
      · intro h
        exact .inr ⟨y, rfl, h⟩
      · rintro (h | ⟨_, ⟨rfl⟩, h⟩)
        · cases h
        · exact h

theorem bind_ok (x : Except ε α) : (x >>= fun y => .ok y) = x := by
  cases x <;> rfl

theorem map_bind (g : α → β) (x : Except ε α) (f : β → Except ε γ) :
    x.map g >>= f = x >>= fun a => f (g a) := by
  cases x <;> rfl

theorem map_of_bind (x : Except ε α) (f : α → Except ε β) (g : β → γ) :
    (x >>= f).map g = x >>= fun a => (f a).map g := by
  cases x <;> rfl

theorem map_eq_error_iff {f : α → β} {x : Except ε α} {e : ε} :
    x.map f = .error e ↔ x = .error e := by
  cases x with
  | error e' =>
      constructor
      · rintro ⟨rfl⟩
        rfl
      · rintro ⟨rfl⟩
        rfl
  | ok y =>
      constructor
      · intro h
        cases h
      · intro h
        cases h

/-- A last step that never fails adds no failure. -/
theorem bind_pure_eq_error_iff {x : Except ε α} {f : α → β} {e : ε} :
    (x >>= fun y => pure (f y)) = .error e ↔ x = .error e :=
  map_eq_error_iff

/-- Reading what was written for each element gives the elements back, if each comes back alone. -/
theorem mapM_map_eq_ok {f : β → Except ε α} {g : α → β} {xs : List α}
    (h : ∀ x ∈ xs, f (g x) = .ok x) : (xs.map g).mapM f = .ok xs := by
  induction xs with
  | nil => rfl
  | cons x xs ih =>
      have hx : f (g x) = .ok x := h x List.mem_cons_self
      have hxs := ih fun y hy => h y (List.mem_cons_of_mem _ hy)
      rw [List.map_cons, List.mapM_cons, hx, hxs]
      rfl

/-- A list of steps fails with the error of the first one that does. -/
theorem mapM_eq_error_iff {f : α → Except ε β} {xs : List α} {e : ε} :
    xs.mapM f = .error e ↔ ∃ before x after, xs = before ++ x :: after ∧
      (∀ y ∈ before, ∀ e', f y ≠ .error e') ∧ f x = .error e := by
  constructor
  · intro h
    induction xs with
    | nil => cases h
    | cons x xs ih =>
        rw [List.mapM_cons] at h
        rcases bind_eq_error_iff.1 h with hx | ⟨y, hx, h⟩
        · exact ⟨[], x, xs, rfl, by simp, hx⟩
        · -- the head succeeds, so the first failure is one of the rest
          rcases bind_eq_error_iff.1 h with hxs | ⟨ys, -, hpure⟩
          · obtain ⟨before, z, after, rfl, hbefore, hz⟩ := ih hxs
            refine ⟨x :: before, z, after, rfl, ?_, hz⟩
            intro w hw e' he'
            rcases List.mem_cons.1 hw with rfl | hw
            · rw [hx] at he'
              cases he'
            · exact hbefore w hw e' he'
          · cases hpure
  · rintro ⟨before, x, after, rfl, hbefore, hx⟩
    induction before with
    | nil =>
        rw [List.nil_append, List.mapM_cons, hx]
        rfl
    | cons y before ih =>
        rw [List.cons_append, List.mapM_cons, ih fun z hz => hbefore z (List.mem_cons_of_mem _ hz)]
        cases hy : f y with
        | error e' => exact absurd hy (hbefore y List.mem_cons_self e')
        | ok _ => rfl

/-- Steps that do not fail succeed one by one. -/
theorem exists_mapM_eq_ok {f : α → Except ε β} {xs : List α}
    (h : ∀ x ∈ xs, ∀ e, f x ≠ .error e) :
    ∃ ys, xs.mapM f = .ok ys ∧ List.Forall₂ (fun x y => f x = .ok y) xs ys := by
  induction xs with
  | nil => exact ⟨[], rfl, .nil⟩
  | cons x xs ih =>
      obtain ⟨ys, hys, hall⟩ := ih fun y hy => h y (List.mem_cons_of_mem _ hy)
      cases hx : f x with
      | error e => exact absurd hx (h x List.mem_cons_self e)
      | ok y =>
          refine ⟨y :: ys, ?_, .cons hx hall⟩
          rw [List.mapM_cons, hx, hys]
          rfl

/-- A list of steps succeeds exactly if none of them fails. -/
theorem exists_mapM_eq_ok_iff {f : α → Except ε β} {xs : List α} :
    (∃ ys, xs.mapM f = .ok ys) ↔ ∀ x ∈ xs, ∀ e, f x ≠ .error e := by
  constructor
  · rintro ⟨ys, h⟩
    induction xs generalizing ys with
    | nil => exact nofun
    | cons x xs ih =>
        rw [List.mapM_cons] at h
        obtain ⟨y, hx, h⟩ := exists_of_bind_eq_ok h
        obtain ⟨zs, hxs, -⟩ := exists_of_bind_eq_ok h
        refine List.forall_mem_cons.2 ⟨fun e he => ?_, ih zs hxs⟩
        rw [hx] at he
        cases he
  · intro h
    obtain ⟨ys, hys, -⟩ := exists_mapM_eq_ok h
    exact ⟨ys, hys⟩

/-- A list of steps gives the results of the steps. -/
theorem forall₂_of_mapM_eq_ok {f : α → Except ε β} {xs : List α} {ys : List β}
    (h : xs.mapM f = .ok ys) : List.Forall₂ (fun x y => f x = .ok y) xs ys := by
  obtain ⟨zs, hzs, hall⟩ := exists_mapM_eq_ok (exists_mapM_eq_ok_iff.1 ⟨ys, h⟩)
  rwa [Except.ok.inj (h.symm.trans hzs)]

/-- What each step keeps of its element, the list of results keeps of the list. -/
theorem map_eq_of_mapM_eq_ok {f : α → Except ε β} {g : β → γ} {k : α → γ}
    (h : ∀ x y, f x = .ok y → g y = k x) {xs : List α} {ys : List β}
    (hys : xs.mapM f = .ok ys) : ys.map g = xs.map k := by
  induction xs generalizing ys with
  | nil =>
      cases hys
      rfl
  | cons x xs ih =>
      rw [List.mapM_cons] at hys
      obtain ⟨y, hx, hys⟩ := exists_of_bind_eq_ok hys
      obtain ⟨zs, hxs, hzs⟩ := exists_of_bind_eq_ok hys
      cases hzs
      rw [List.map_cons, List.map_cons, h x y hx, ih hxs]

theorem eq_nil_iff_of_mapM_eq_ok {f : α → Except ε β} {xs : List α} {ys : List β}
    (h : xs.mapM f = .ok ys) : ys = [] ↔ xs = [] := by
  have hlength : ys.map (fun _ => ()) = xs.map fun _ => () := map_eq_of_mapM_eq_ok (fun _ _ _ => rfl) h
  rw [← List.map_eq_nil_iff, hlength, List.map_eq_nil_iff]

/-- What a reading finds in the first element of a list comes first. -/
theorem filterMap_cons_toList (reading : α → Option β) (x : α) (xs : List α) :
    (x :: xs).filterMap reading = (reading x).toList ++ xs.filterMap reading := by
  rw [List.filterMap_cons]
  cases reading x <;> rfl

/-- Readings that commute with `f` find the images of what they find without it. -/
theorem filterMap_map_comm {δ : Type} {f : α → γ} {reading : α → Option β}
    {reading' : γ → Option δ} {g : β → δ} (h : ∀ x, reading' (f x) = (reading x).map g)
    (xs : List α) : (xs.map f).filterMap reading' = (xs.filterMap reading).map g := by
  have hcomp : reading' ∘ f = fun x => (reading x).map g := funext h
  rw [List.filterMap_map, hcomp, List.map_filterMap]

/-! ## Activities -/

theorem during_ok (activity : Activity) (x : α) : during activity (.ok x) = .ok x := rfl

/-- Another error is no success. -/
theorem eq_ok_of_mapError_eq_ok {f : ε → γ} {result : Except ε α} {x : α}
    (h : result.mapError f = .ok x) : result = .ok x := by
  cases result with
  | error e => cases h
  | ok y => exact congrArg Except.ok (Except.ok.inj h)

/-- An activity makes no error a success. -/
theorem eq_ok_of_during_eq_ok {activity : Activity} {result : Except Error α} {x : α}
    (h : during activity result = .ok x) : result = .ok x :=
  eq_ok_of_mapError_eq_ok h

/-- An activity is noted on every error, and changes nothing else about it. -/
theorem during_eq_error_iff {activity : Activity} {result : Except Error α} {e : Error} :
    during activity result = .error e ↔ ∃ e', result = .error e' ∧ e'.within activity = e := by
  cases result with
  | error e' =>
      constructor
      · rintro ⟨rfl⟩
        exact ⟨e', rfl, rfl⟩
      · rintro ⟨_, ⟨rfl⟩, rfl⟩
        rfl
  | ok x => exact iff_of_false nofun nofun

/-- Lines written for some elements are read as these, if every line is. -/
theorem readingLines_eq_ok {line : α → Text} {parse : Text → Except Error α} {xs : List α}
    (h : ∀ x ∈ xs, parse (line x) = .ok x) :
    (xs.map line).mapM (fun l => during (.readingLine l) (parse l)) = .ok xs := by
  refine mapM_map_eq_ok fun x hx => ?_
  rw [h x hx, during_ok]

end SchemaCompiler
