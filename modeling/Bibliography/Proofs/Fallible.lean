/-!
# Results that may fail

When a computation that may fail gives a result: its steps give theirs
(`bind_eq_ok_iff`), and on a list every element gives one (`mapM_eq_ok_iff`).
-/

namespace Bibliography

variable {ε ε' α β γ : Type} {x : Except ε α} {a : α} {b : β}

theorem bind_eq_ok_iff {f : α → Except ε β} : x >>= f = .ok b ↔ ∃ a, x = .ok a ∧ f a = .ok b := by
  cases x <;> simp [bind, Except.bind]

theorem bind_eq_error_iff {f : α → Except ε β} {e : ε} :
    x >>= f = .error e ↔ x = .error e ∨ ∃ a, x = .ok a ∧ f a = .error e := by
  cases x <;> simp [bind, Except.bind]

theorem mapError_error {f : ε → ε'} {e : ε} :
    (Except.error e : Except ε α).mapError f = .error (f e) := rfl

theorem mapError_ok {f : ε → ε'} : (Except.ok a : Except ε α).mapError f = .ok a := rfl

theorem mapError_eq_error_iff {f : ε → ε'} {e : ε'} :
    x.mapError f = .error e ↔ ∃ e', x = .error e' ∧ f e' = e := by
  cases x <;> simp [mapError_error, mapError_ok]

theorem map_eq_ok_iff {f : α → β} : x.map f = .ok b ↔ ∃ a, x = .ok a ∧ f a = b := by
  cases x <;> simp [Except.map]

@[simp] theorem mapError_eq_ok_iff {f : ε → ε'} : x.mapError f = .ok a ↔ x = .ok a := by
  cases x <;> simp [mapError_error, mapError_ok]

/-- **Working through a list gives a result when every element does**, and
then the list of these. -/
theorem mapM_eq_ok_iff {f : α → Except ε β} {l : List α} {bs : List β} :
    l.mapM f = .ok bs ↔ l.map f = bs.map .ok := by
  induction l generalizing bs with
  | nil => cases bs <;> simp [pure, Except.pure]
  | cons y l ih =>
    rw [List.mapM_cons, bind_eq_ok_iff]
    simp only [bind_eq_ok_iff, ih, pure, Except.pure, Except.ok.injEq]
    constructor
    · rintro ⟨b, hb, bs, hbs, rfl⟩
      rw [List.map_cons, List.map_cons, hb, hbs]
    · intro h
      cases bs with
      | nil => simp at h
      | cons b bs =>
        obtain ⟨hb, hbs⟩ := List.cons.inj h
        exact ⟨b, hb, bs, hbs, rfl⟩

/-- Only what is done with the elements matters. -/
theorem mapM_congr {f g : α → Except ε β} {l : List α} (h : ∀ x ∈ l, f x = g x) :
    l.mapM f = l.mapM g := by
  induction l with
  | nil => rfl
  | cons y l ih =>
    obtain ⟨hy, hl⟩ := List.forall_mem_cons.1 h
    rw [List.mapM_cons, List.mapM_cons, hy, ih hl]

/-- What is done with each result may be done as it is given. -/
theorem map_mapM {f : α → Except ε β} {g : β → γ} {l : List α} :
    (l.mapM f).map (·.map g) = l.mapM fun x => (f x).map g := by
  induction l with
  | nil => rfl
  | cons y l ih =>
    rw [List.mapM_cons, List.mapM_cons, ← ih]
    cases f y with
    | error => rfl
    | ok b => cases l.mapM f <;> rfl

/-- Where every element gives a result, the list does. -/
theorem exists_mapM_eq_ok {f : α → Except ε β} {l : List α} (h : ∀ x ∈ l, ∃ b, f x = .ok b) :
    ∃ bs, l.mapM f = .ok bs := by
  induction l with
  | nil => exact ⟨[], rfl⟩
  | cons y l ih =>
    obtain ⟨hy, hl⟩ := List.forall_mem_cons.1 h
    obtain ⟨b, hb⟩ := hy
    obtain ⟨bs, hbs⟩ := ih hl
    rw [mapM_eq_ok_iff] at hbs
    exact ⟨b :: bs, mapM_eq_ok_iff.2 (by rw [List.map_cons, List.map_cons, hb, hbs])⟩

theorem exists_mapM_iff {f : α → Except ε β} {l : List α} :
    (∃ bs, l.mapM f = .ok bs) ↔ ∀ x ∈ l, ∃ b, f x = .ok b := by
  refine ⟨?_, exists_mapM_eq_ok⟩
  rintro ⟨bs, hbs⟩ x hx
  rw [mapM_eq_ok_iff] at hbs
  have hmem : f x ∈ bs.map .ok := hbs ▸ List.mem_map_of_mem hx
  obtain ⟨b, -, hb⟩ := List.mem_map.1 hmem
  exact ⟨b, hb.symm⟩

/-- Elements with what they give beside them are the elements still. -/
theorem mapM_pair_eq_ok {f : α → Except ε β} {l : List α} {pairs : List (β × α)}
    (h : (l.mapM fun x => return (← f x, x)) = .ok pairs) :
    pairs.map (·.2) = l ∧ ∀ p ∈ pairs, f p.2 = .ok p.1 := by
  rw [mapM_eq_ok_iff] at h
  induction l generalizing pairs with
  | nil =>
    obtain rfl : pairs = [] := by simpa using h
    simp
  | cons y l ih =>
    cases pairs with
    | nil => simp at h
    | cons p pairs =>
      obtain ⟨hp, hpairs⟩ := List.cons.inj h
      obtain ⟨hsnd, hall⟩ := ih hpairs
      obtain ⟨b, hb, hpair⟩ := bind_eq_ok_iff.1 hp
      cases hpair
      exact ⟨by rw [List.map_cons, hsnd], List.forall_mem_cons.2 ⟨hb, hall⟩⟩

/-- A loop that only checks its elements goes through when every check does. -/
theorem forIn_check_eq_ok_iff {check : α → Except ε Unit} {l : List α} {u : Unit} :
    (forIn l () fun x _ => do
      check x
      return .yield ()) = .ok u ↔ ∀ x ∈ l, check x = .ok () := by
  induction l with
  | nil => simp [pure, Except.pure]
  | cons y l ih =>
    rw [List.forall_mem_cons, ← ih, List.forIn_cons]
    cases check y <;> simp [bind, Except.bind, pure, Except.pure]

/-- What stands beside the elements is what they give. -/
theorem mem_of_mapM_pair {f : α → Except ε β} {l : List α} {pairs : List (β × α)}
    (h : (l.mapM fun x => return (← f x, x)) = .ok pairs) :
    (b, a) ∈ pairs ↔ a ∈ l ∧ f a = .ok b := by
  obtain ⟨rfl, hall⟩ := mapM_pair_eq_ok h
  constructor
  · exact fun hp => ⟨List.mem_map_of_mem hp, hall _ hp⟩
  · rintro ⟨ha, hb⟩
    obtain ⟨⟨b', a'⟩, hp, rfl⟩ := List.mem_map.1 ha
    obtain rfl : b' = b := Except.ok.inj ((hall _ hp).symm.trans hb)
    exact hp

theorem exists_mapM_pair_iff {f : α → Except ε β} {l : List α} :
    (∃ pairs, (l.mapM fun x => return (← f x, x)) = .ok pairs) ↔ ∀ x ∈ l, ∃ b, f x = .ok b := by
  constructor
  · rintro ⟨pairs, hpairs⟩ x hx
    obtain ⟨rfl, hall⟩ := mapM_pair_eq_ok hpairs
    obtain ⟨p, hp, rfl⟩ := List.mem_map.1 hx
    exact ⟨p.1, hall p hp⟩
  · refine fun h => exists_mapM_eq_ok fun x hx => ?_
    obtain ⟨b, hb⟩ := h x hx
    exact ⟨(b, x), bind_eq_ok_iff.2 ⟨b, hb, rfl⟩⟩

/-- Elements that stand with what they give come to that again. -/
theorem mapM_pair_map_snd {f : α → Except ε β} {pairs : List (β × α)}
    (h : ∀ p ∈ pairs, f p.2 = .ok p.1) :
    ((pairs.map (·.2)).mapM fun x => return (← f x, x)) = .ok pairs := by
  rw [mapM_eq_ok_iff, List.map_map]
  refine List.map_congr_left fun p hp => ?_
  exact bind_eq_ok_iff.2 ⟨p.1, h p hp, rfl⟩

end Bibliography
