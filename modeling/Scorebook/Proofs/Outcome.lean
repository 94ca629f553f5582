import Mathlib.Data.List.Forall2

/-!
# Good results

A computation that may fail has a good result exactly if each of its parts has one.
-/

namespace Scorebook

variable {ε α β : Type}

/-- A result that is mapped is good exactly if it was good before. -/
theorem map_eq_ok_iff {x : Except ε α} {f : α → β} {b : β} :
    x.map f = .ok b ↔ ∃ a, x = .ok a ∧ f a = b := by
  cases x <;> simp [Except.map]

/-- A result that is mapped fails exactly if it failed before. -/
theorem map_eq_error_iff {x : Except ε α} {f : α → β} {e : ε} :
    x.map f = .error e ↔ x = .error e := by
  cases x <;> simp [Except.map]

/-- Two steps have a good result exactly if the first has one, and the second has it from there. -/
theorem bind_eq_ok_iff {x : Except ε α} {f : α → Except ε β} {b : β} :
    x >>= f = .ok b ↔ ∃ a, x = .ok a ∧ f a = .ok b := by
  cases x <;> simp [bind, Except.bind]

/-- What is returned is the good result. -/
theorem pure_eq_ok_iff {a b : α} : (pure a : Except ε α) = .ok b ↔ a = b := by
  simp [pure, Except.pure]

/-- What is there is a good result. -/
theorem exists_of_toOption_isSome {x : Except ε α} (h : x.toOption.isSome = true) :
    ∃ a, x = .ok a := by
  cases x with
  | error e => cases h
  | ok a => exact ⟨a, rfl⟩

/-- What a part is known of is a good result with that part. -/
theorem exists_of_toOption_map {x : Except ε α} {f : α → β} {b : β}
    (h : x.toOption.map f = some b) : ∃ a, x = .ok a ∧ f a = b := by
  cases x with
  | error e => cases h
  | ok a => exact ⟨a, rfl, Option.some.inj h⟩

/-- All items have a good result exactly if each has one, and these are the results in order. -/
theorem mapM_eq_ok_iff {f : α → Except ε β} {as : List α} {bs : List β} :
    as.mapM f = .ok bs ↔ List.Forall₂ (fun a b => f a = .ok b) as bs := by
  induction as generalizing bs with
  | nil => rw [List.mapM_nil, pure_eq_ok_iff, List.forall₂_nil_left_iff, eq_comm]
  | cons a as ih =>
    simp only [List.mapM_cons, bind_eq_ok_iff, pure_eq_ok_iff, ih, List.forall₂_cons_left_iff]
    constructor
    · rintro ⟨b, hb, rest, hrest, rfl⟩
      exact ⟨b, rest, hb, hrest, rfl⟩
    · rintro ⟨b, rest, hb, hrest, rfl⟩
      exact ⟨b, hb, rest, hrest, rfl⟩

/-- If the good results of each item are those that it is written for, so are those of all items. -/
theorem mapM_eq_ok_iff_map {f : α → Except ε β} {write : β → α} {valid : β → Prop}
    (h : ∀ {a b}, f a = .ok b ↔ a = write b ∧ valid b) {as : List α} {bs : List β} :
    as.mapM f = .ok bs ↔ as = bs.map write ∧ ∀ b ∈ bs, valid b := by
  simp only [mapM_eq_ok_iff, h]
  constructor
  · intro hall
    induction hall with
    | nil => exact ⟨rfl, nofun⟩
    | cons hhead _ ih =>
      obtain ⟨rfl, hvalid⟩ := hhead
      obtain ⟨rfl, hrest⟩ := ih
      exact ⟨rfl, List.forall_mem_cons.2 ⟨hvalid, hrest⟩⟩
  · rintro ⟨rfl, hvalid⟩
    rw [List.forall₂_map_left_iff, List.forall₂_same]
    exact fun b hb => ⟨rfl, hvalid b hb⟩

/-- All items have a good result together exactly if each has one. -/
theorem exists_mapM_eq_ok_iff {f : α → Except ε β} {as : List α} :
    (∃ bs, as.mapM f = .ok bs) ↔ ∀ a ∈ as, ∃ b, f a = .ok b := by
  induction as with
  | nil => simp [pure, Except.pure]
  | cons a as ih =>
    simp only [List.mapM_cons, bind_eq_ok_iff, pure_eq_ok_iff, List.forall_mem_cons, ← ih]
    constructor
    · rintro ⟨-, b, hb, bs, hbs, -⟩
      exact ⟨⟨b, hb⟩, bs, hbs⟩
    · rintro ⟨⟨b, hb⟩, bs, hbs⟩
      exact ⟨b :: bs, b, hb, bs, hbs, rfl⟩

/-- Where items fail, the error is that of the first item that fails. -/
theorem mapM_eq_error_iff {f : α → Except ε β} {as : List α} {e : ε} :
    as.mapM f = .error e ↔ ∃ before a after, as = before ++ a :: after ∧
      (∀ b ∈ before, ∃ result, f b = .ok result) ∧ f a = .error e := by
  induction as with
  | nil => simp [pure, Except.pure]
  | cons a as ih =>
    rw [List.mapM_cons]
    simp only [List.cons_eq_append_iff]
    cases ha : f a with
    | error e' =>
      constructor
      · rintro ⟨⟩
        exact ⟨[], a, as, .inl ⟨rfl, rfl⟩, nofun, ha⟩
      · rintro ⟨before, x, after, ⟨rfl, hx⟩ | ⟨tail, rfl, -⟩, hbefore, hfails⟩
        · cases hx
          exact congrArg _ (Except.error.inj (ha.symm.trans hfails))
        · obtain ⟨result, hok⟩ := hbefore a List.mem_cons_self
          cases ha.symm.trans hok
    | ok b =>
      have hrest : (Except.ok b >>= fun b => as.mapM f >>= fun bs => pure (b :: bs)) =
          .error e ↔ as.mapM f = .error e := by
        cases as.mapM f <;> simp [bind, Except.bind, pure, Except.pure]
      rw [hrest, ih]
      constructor
      · rintro ⟨before, x, after, rfl, hbefore, hfails⟩
        exact ⟨a :: before, x, after, .inr ⟨before, rfl, rfl⟩,
          List.forall_mem_cons.2 ⟨⟨b, ha⟩, hbefore⟩, hfails⟩
      · rintro ⟨before, x, after, ⟨rfl, hx⟩ | ⟨tail, rfl, rfl⟩, hbefore, hfails⟩
        · cases hx
          cases ha.symm.trans hfails
        · exact ⟨tail, x, after, rfl, (List.forall_mem_cons.1 hbefore).2, hfails⟩

/-- Two steps have a value exactly if the first has one, and the second has it from there. -/
theorem bind_eq_some_iff {x : Option α} {f : α → Option β} {b : β} :
    x >>= f = some b ↔ ∃ a, x = some a ∧ f a = some b :=
  Option.bind_eq_some_iff

/-- All items have a value exactly if each has one, and these are the values in order. -/
theorem mapM_eq_some_iff {f : α → Option β} {as : List α} {bs : List β} :
    as.mapM f = some bs ↔ List.Forall₂ (fun a b => f a = some b) as bs := by
  induction as generalizing bs with
  | nil =>
    rw [List.mapM_nil, Option.pure_def, Option.some.injEq, List.forall₂_nil_left_iff, eq_comm]
  | cons a as ih =>
    simp only [List.mapM_cons, bind_eq_some_iff, Option.pure_def, Option.some.injEq, ih,
      List.forall₂_cons_left_iff]
    constructor
    · rintro ⟨b, hb, rest, hrest, rfl⟩
      exact ⟨b, rest, hb, hrest, rfl⟩
    · rintro ⟨b, rest, hb, hrest, rfl⟩
      exact ⟨b, hb, rest, hrest, rfl⟩

/-- What is read item by item from what was written item by item are the items. -/
theorem mapM_map_eq_some {read : β → Option α} {write : α → β}
    (h : ∀ a, read (write a) = some a) (as : List α) : (as.map write).mapM read = some as := by
  rw [mapM_eq_some_iff, List.forall₂_map_left_iff, List.forall₂_same]
  exact fun a _ => h a

end Scorebook
