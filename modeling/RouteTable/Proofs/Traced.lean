import Mathlib.Data.List.Forall2
import RouteTable.Module.Inquiry

/-!
# What traced computations answer and report

The value of a computation depends on the values of its parts only.  `collect` answers what `mapM` answers over the
values of its steps (`Traced.value_collect`).  A run of steps succeeds when all of them do, item by item
(`mapM_eq_ok_iff`), and else it fails as the first step that fails (`fault?_mapM`).  It reports what its steps report,
up to the one that fails (`Traced.events_collect_of_ok`, `Traced.events_collect_of_error`).
-/

namespace RouteTable

variable {ε α β γ : Type}

/-! ### Outcomes -/

/-- The error of an outcome, if it is one. -/
def fault? : Except ε α → Option ε
  | .error e => some e
  | .ok _ => none

theorem fault?_eq_some_iff {r : Except ε α} {e : ε} : fault? r = some e ↔ r = .error e := by
  cases r <;> simp [fault?]

theorem fault?_eq_none_iff {r : Except ε α} : fault? r = none ↔ ∃ a, r = .ok a := by
  cases r <;> simp [fault?]

theorem fault?_map (f : α → β) (r : Except ε α) : fault? (r.map f) = fault? r := by
  cases r <;> rfl

theorem map_eq_ok_iff {f : α → β} {r : Except ε α} {b : β} : r.map f = .ok b ↔ ∃ a, r = .ok a ∧ f a = b := by
  cases r with
  | error e => exact ⟨fun h => (nomatch h), fun ⟨_, h, _⟩ => (nomatch h)⟩
  | ok a =>
    constructor
    · intro h
      exact ⟨a, rfl, Except.ok.inj h⟩
    · rintro ⟨_, h, rfl⟩
      rw [Except.ok.inj h]
      rfl

theorem map_eq_error_iff {f : α → β} {r : Except ε α} {e : ε} : r.map f = .error e ↔ r = .error e := by
  rw [← fault?_eq_some_iff, fault?_map, fault?_eq_some_iff]

theorem mapError_eq_ok_iff {f : ε → γ} {r : Except ε α} {a : α} : r.mapError f = .ok a ↔ r = .ok a := by
  cases r <;> simp [Except.mapError]

theorem bind_eq_ok_iff {r : Except ε α} {f : α → Except ε β} {b : β} :
    r >>= f = .ok b ↔ ∃ a, r = .ok a ∧ f a = .ok b := by
  cases r with
  | error e => exact ⟨fun h => (nomatch h), fun ⟨_, h, _⟩ => (nomatch h)⟩
  | ok a => exact ⟨fun h => ⟨a, rfl, h⟩, fun ⟨_, h, hf⟩ => Except.ok.inj h ▸ hf⟩

theorem bind_eq_error_iff {r : Except ε α} {f : α → Except ε β} {e : ε} :
    r >>= f = .error e ↔ r = .error e ∨ ∃ a, r = .ok a ∧ f a = .error e := by
  cases r <;> simp [bind, Except.bind]

theorem fault?_mapM (f : α → Except ε β) (xs : List α) :
    fault? (xs.mapM f) = xs.findSome? fun x => fault? (f x) := by
  induction xs with
  | nil => rfl
  | cons x xs ih =>
    rw [List.mapM_cons, List.findSome?_cons, ← ih]
    cases hx : f x with
    | error e => rfl
    | ok y => cases xs.mapM f <;> rfl

theorem mapM_eq_ok_iff {f : α → Except ε β} {xs : List α} {ys : List β} :
    xs.mapM f = .ok ys ↔ List.Forall₂ (fun x y => f x = .ok y) xs ys := by
  induction xs generalizing ys with
  | nil =>
    rw [List.forall₂_nil_left_iff]
    exact ⟨fun h => (Except.ok.inj h).symm, fun h => h ▸ rfl⟩
  | cons x xs ih =>
    rw [List.mapM_cons, List.forall₂_cons_left_iff]
    constructor
    · intro h
      cases hx : f x with
      | error e => rw [hx] at h; cases h
      | ok y =>
        cases hxs : xs.mapM f with
        | error e => rw [hx, hxs] at h; cases h
        | ok rest =>
          rw [hx, hxs] at h
          exact ⟨y, rest, rfl, ih.1 hxs, (Except.ok.inj h).symm⟩
    · rintro ⟨y, rest, hx, hxs, rfl⟩
      rw [hx, ih.2 hxs]
      rfl

theorem mapM_eq_some_iff {f : α → Option β} {xs : List α} {ys : List β} :
    xs.mapM f = some ys ↔ List.Forall₂ (fun x y => f x = some y) xs ys := by
  induction xs generalizing ys with
  | nil =>
    rw [List.forall₂_nil_left_iff]
    exact ⟨fun h => (Option.some.inj h).symm, fun h => h ▸ rfl⟩
  | cons x xs ih =>
    rw [List.mapM_cons, List.forall₂_cons_left_iff]
    simp only [Option.bind_eq_bind, Option.bind_eq_some_iff, Option.pure_def, Option.some.injEq, ih]
    constructor
    · rintro ⟨y, hx, rest, hxs, rfl⟩
      exact ⟨y, rest, hx, hxs, rfl⟩
    · rintro ⟨y, rest, hx, hxs, rfl⟩
      exact ⟨y, hx, rest, hxs, rfl⟩

theorem exists_of_forall₂ {R : α → β → Prop} {l : List α} {m : List β} (h : List.Forall₂ R l m) :
    ∀ b ∈ m, ∃ a ∈ l, R a b := by
  induction h with
  | nil => exact fun b hb => nomatch hb
  | @cons a b l m head _ ih =>
    intro b' hb
    rcases List.mem_cons.1 hb with rfl | hb
    · exact ⟨a, List.mem_cons_self, head⟩
    · obtain ⟨a', mem, related⟩ := ih b' hb
      exact ⟨a', List.mem_cons_of_mem _ mem, related⟩

/-! ### Values -/

namespace Traced

@[simp] theorem value_pure (a : α) : (pure a : Traced α).value = a := rfl

@[simp] theorem value_bind (t : Traced α) (f : α → Traced β) : (t >>= f).value = (f t.value).value := rfl

@[simp] theorem events_pure (a : α) : (pure a : Traced α).events = [] := rfl

@[simp] theorem events_bind (t : Traced α) (f : α → Traced β) :
    (t >>= f).events = t.events ++ (f t.value).events := rfl

@[simp] theorem events_report (e : Event) : (report e).events = [e] := rfl

theorem pure_bind (a : α) (f : α → Traced β) : pure a >>= f = f a := rfl

theorem bind_assoc (t : Traced α) (f : α → Traced β) (g : β → Traced γ) :
    t >>= f >>= g = t >>= fun a => f a >>= g :=
  congrArg (Traced.mk _) (List.append_assoc ..)

theorem value_mapM (step : α → Traced β) (xs : List α) :
    (xs.mapM step).value = xs.map fun x => (step x).value := by
  suffices loop : ∀ done, (List.mapM.loop step xs done).value = done.reverse ++ xs.map fun x => (step x).value from
    loop []
  induction xs with
  | nil => exact fun done => (List.append_nil _).symm
  | cons x xs ih =>
    intro done
    rw [List.mapM.loop, value_bind, ih]
    simp

theorem value_collect (step : α → Traced (Except ε β)) (xs : List α) :
    (collect step xs).value = xs.mapM fun x => (step x).value := by
  induction xs with
  | nil => rfl
  | cons x xs ih =>
    rw [List.mapM_cons, ← ih, collect, value_bind]
    cases (step x).value with
    | error e => rfl
    | ok y =>
      rw [value_bind]
      cases (collect step xs).value <;> rfl

theorem events_collect_of_ok {step : α → Traced (Except ε β)} {xs : List α} {ys : List β}
    (ok : (collect step xs).value = .ok ys) : (collect step xs).events = xs.flatMap fun x => (step x).events := by
  induction xs generalizing ys with
  | nil => rfl
  | cons x xs ih =>
    rw [value_collect, mapM_eq_ok_iff, List.forall₂_cons_left_iff] at ok
    obtain ⟨y, rest, hx, hxs, rfl⟩ := ok
    have hrest : (collect step xs).value = .ok rest := by rw [value_collect, mapM_eq_ok_iff]; exact hxs
    rw [List.flatMap_cons, ← ih hrest, collect, events_bind, hx]
    dsimp only
    rw [events_bind, hrest, events_pure, List.append_nil]

/-- A run that fails reports what its steps do, up to the one that fails. -/
theorem events_collect_of_error {step : α → Traced (Except ε β)} {xs : List α} {e : ε}
    (failed : (collect step xs).value = .error e) :
    ∃ before x after ys, xs = before ++ x :: after ∧ List.Forall₂ (fun b y => (step b).value = .ok y) before ys ∧
      (step x).value = .error e ∧
      (collect step xs).events = (before.flatMap fun b => (step b).events) ++ (step x).events := by
  induction xs with
  | nil => nomatch failed
  | cons x xs ih =>
    rw [collect, value_bind] at failed
    rw [collect, events_bind]
    cases hx : (step x).value with
    | error e' =>
      rw [hx] at failed
      obtain rfl := Except.error.inj failed
      exact ⟨[], x, xs, [], rfl, .nil, hx, List.append_nil _⟩
    | ok y =>
      rw [hx] at failed
      dsimp only at failed ⊢
      rw [value_bind] at failed
      rw [events_bind]
      cases hxs : (collect step xs).value with
      | error e' =>
        rw [hxs] at failed
        obtain rfl := Except.error.inj failed
        obtain ⟨before, z, after, ys, rfl, passed, hz, events⟩ := ih hxs
        refine ⟨x :: before, z, after, y :: ys, rfl, .cons hx passed, hz, ?_⟩
        rw [events_pure, List.append_nil, events, List.flatMap_cons, List.append_assoc]
      | ok rest => rw [hxs] at failed; cases failed

theorem mem_events_collect {step : α → Traced (Except ε β)} {xs : List α} {e : Event}
    (mem : e ∈ (collect step xs).events) : ∃ x ∈ xs, e ∈ (step x).events := by
  cases value : (collect step xs).value with
  | ok ys =>
    rw [events_collect_of_ok value] at mem
    exact List.mem_flatMap.1 mem
  | error err =>
    obtain ⟨before, x, after, ys, rfl, -, -, events⟩ := events_collect_of_error value
    rw [events, List.mem_append, List.mem_flatMap] at mem
    rcases mem with ⟨b, hb, mem⟩ | mem
    · exact ⟨b, List.mem_append_left _ hb, mem⟩
    · exact ⟨x, List.mem_append_right _ List.mem_cons_self, mem⟩

theorem collect_congr {step other : α → Traced (Except ε β)} {xs : List α} (h : ∀ x ∈ xs, step x = other x) :
    collect step xs = collect other xs := by
  induction xs with
  | nil => rfl
  | cons x xs ih =>
    rw [List.forall_mem_cons] at h
    rw [collect, collect, h.1, ih h.2]

theorem collect_map (step : β → Traced (Except ε γ)) (f : α → β) (xs : List α) :
    collect step (xs.map f) = collect (fun x => step (f x)) xs := by
  induction xs with
  | nil => rfl
  | cons x xs ih => simp only [List.map_cons, collect, ih]

end Traced

end RouteTable
