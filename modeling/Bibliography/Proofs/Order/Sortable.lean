import Bibliography.Proofs.Order.Lexicographic
/-!
# What can be sorted

Sorting by a field fails where a record has no key, or where the moments that
are compared are of zones that do not go together (`Alike`). `Comparable` asks
for neither, and `Sortable` for it of the field as well as of the time of creation,
which is sorted by in any case: `exists_sortByField_iff`. It asks for something of
each record and of any two of them, so what can be sorted can be sorted in part
(`Sortable.mono`).
-/

namespace Bibliography.Order

open Calendar

/-- Moments that can be compared: they are in one zone, or all their zones
have clocks. -/
def Alike (P : Moment → Prop) : Prop :=
  (∀ m n, P m → P n → m.zone = n.zone) ∨ ∀ m, P m → m.zone.hasClock = true

/-- Records that can be compared by a field: each has a key, and the moments
among the keys are alike. -/
structure Comparable [Reader] {α : Type} (record : α → Record) (field : SortField) (l : List α) :
    Prop where
  key : ∀ x ∈ l, ∃ k, Key.of field (record x) = .ok k
  moments : Alike fun m => ∃ x ∈ l, Key.of field (record x) = .ok (.moment m)

/-- **Records that can be sorted by a field**: they can be compared by it, and by
the time of their creation. -/
structure Sortable [Reader] {α : Type} (record : α → Record) (field : SortField) (l : List α) :
    Prop where
  created : Comparable record .created l
  field : Comparable record field l

section Moments

variable {P Q : Moment → Prop} {moments : List Moment} {u : Unit}

theorem Alike.mono (h : Alike P) (hQ : ∀ m, Q m → P m) : Alike Q :=
  h.imp (fun hzone m n hm hn => hzone m n (hQ m hm) (hQ n hn))
    fun hclock m hm => hclock m (hQ m hm)

theorem alike_congr (h : ∀ m, P m ↔ Q m) : Alike P ↔ Alike Q :=
  ⟨fun hP => hP.mono fun m => (h m).2, fun hQ => hQ.mono fun m => (h m).1⟩

theorem checkComparable_eq_ok_iff : checkComparable moments = .ok u ↔ Alike (· ∈ moments) := by
  have hcomparable : Moment.comparable moments = true ↔ Alike (· ∈ moments) := by
    cases moments with
    | nil => simp [Moment.comparable, Alike]
    | cons m rest =>
      simp only [Moment.comparable, Bool.or_eq_true, List.all_eq_true, beq_iff_eq, Alike]
      refine or_congr_left ⟨fun hzone => ?_, fun hzone n hn => ?_⟩
      · have hfirst : ∀ n ∈ m :: rest, n.zone = m.zone := List.forall_mem_cons.2 ⟨rfl, hzone⟩
        exact fun n n' hn hn' => (hfirst n hn).trans (hfirst n' hn').symm
      · exact hzone n m (List.mem_cons_of_mem m hn) List.mem_cons_self
  rw [checkComparable, ← hcomparable]
  split
  · next h => simp [h]
  · next h => simp [h]

end Moments

section Sorting

theorem mem_sortKeyed_map {α κ : Type} {c : κ → κ → Ordering} {key : α → κ} {l : List α} {x : α} :
    x ∈ sortKeyed c (l.map fun x => (key x, x)) ↔ x ∈ l := by
  rw [sortKeyed_perm.mem_iff]
  simp

variable [Reader]
variable {α : Type} {record : α → Record} {field : SortField} {direction : Direction}
variable {l l' out : List α} {x : α}

theorem sortOnce_perm (h : sortOnce record field direction l = .ok out) : out.Perm l :=
  (arrangedBy_sortOnce arrangedBy_self h).perm

/-- The moments among the keys are those of the records. -/
theorem mem_moments_iff {keyed : List (Key × α)} {m : Moment}
    (h : (l.mapM fun x => return (← Key.of field (record x), x)) = .ok keyed) :
    m ∈ keyed.filterMap (·.1.moment?) ↔ ∃ x ∈ l, Key.of field (record x) = .ok (.moment m) := by
  simp only [List.mem_filterMap, Prod.exists, mem_of_mapM_pair h]
  constructor
  · rintro ⟨k, x, ⟨hx, hk⟩, hm⟩
    cases k with
    | moment n =>
      cases hm
      exact ⟨x, hx, hk⟩
    | text s => cases hm
  · rintro ⟨x, hx, hk⟩
    exact ⟨.moment m, x, ⟨hx, hk⟩, rfl⟩

/-- **Records are sorted once just when they can be compared.** -/
theorem exists_sortOnce_iff :
    (∃ out, sortOnce record field direction l = .ok out) ↔ Comparable record field l := by
  simp only [sortOnce, bind_eq_ok_iff, checkComparable_eq_ok_iff]
  have hkeys : (∃ keyed, (l.mapM fun x => return (← Key.of field (record x), x)) = .ok keyed) ↔
      ∀ x ∈ l, ∃ k, Key.of field (record x) = .ok k := exists_mapM_pair_iff
  have hmoments : ∀ keyed,
      (l.mapM fun x => return (← Key.of field (record x), x)) = .ok keyed →
      (Alike (· ∈ keyed.filterMap (·.1.moment?)) ↔
        Alike fun m => ∃ x ∈ l, Key.of field (record x) = .ok (.moment m)) :=
    fun keyed hkeyed => alike_congr fun m => mem_moments_iff hkeyed
  constructor
  · rintro ⟨out, keyed, hkeyed, _, hzones, -⟩
    exact ⟨hkeys.1 ⟨keyed, hkeyed⟩, (hmoments keyed hkeyed).1 hzones⟩
  · rintro ⟨hkey, hzones⟩
    obtain ⟨keyed, hkeyed⟩ := hkeys.2 hkey
    exact ⟨_, keyed, hkeyed, (), (hmoments keyed hkeyed).2 hzones, rfl⟩

/-- Whether something can be compared is seen from its records alone. -/
theorem Comparable.ofRecords {β : Type} {record' : β → Record} {l' : List β}
    (h : Comparable record field l) (hsub : ∀ y ∈ l', ∃ x ∈ l, record x = record' y) :
    Comparable record' field l' where
  key y hy := by
    obtain ⟨x, hx, hxy⟩ := hsub y hy
    rw [← hxy]
    exact h.key x hx
  moments := h.moments.mono fun m ⟨y, hy, hm⟩ => by
    obtain ⟨x, hx, hxy⟩ := hsub y hy
    exact ⟨x, hx, hxy ▸ hm⟩

theorem comparable_congr (h : ∀ x, x ∈ l ↔ x ∈ l') :
    Comparable record field l ↔ Comparable record field l' :=
  ⟨fun hl => hl.ofRecords fun x hx => ⟨x, (h x).2 hx, rfl⟩,
    fun hl => hl.ofRecords fun x hx => ⟨x, (h x).1 hx, rfl⟩⟩

/-- **Records are sorted just when they can be.** -/
theorem exists_sortByField_iff :
    (∃ out, sortByField record field direction l = .ok out) ↔ Sortable record field l := by
  simp only [sortByField, bind_eq_ok_iff]
  have hid : ∀ x, x ∈ sortKeyed compare (l.map fun x => ((record x).idText, x)) ↔ x ∈ l :=
    fun _ => mem_sortKeyed_map
  constructor
  · rintro ⟨out, byCreation, hcreation, hout⟩
    have hmem : ∀ x, x ∈ byCreation ↔ x ∈ l :=
      fun x => (sortOnce_perm hcreation).mem_iff.trans (hid x)
    exact ⟨(comparable_congr hid).1 (exists_sortOnce_iff.1 ⟨_, hcreation⟩),
      (comparable_congr hmem).1 (exists_sortOnce_iff.1 ⟨out, hout⟩)⟩
  · rintro ⟨hcreated, hfield⟩
    obtain ⟨byCreation, hcreation⟩ := exists_sortOnce_iff.2 ((comparable_congr hid).2 hcreated)
    have hmem : ∀ x, x ∈ byCreation ↔ x ∈ l :=
      fun x => (sortOnce_perm hcreation).mem_iff.trans (hid x)
    obtain ⟨out, hout⟩ := exists_sortOnce_iff.2 ((comparable_congr hmem).2 hfield)
    exact ⟨out, byCreation, hcreation, hout⟩

/-- Whether something can be sorted is seen from its records alone. -/
theorem Sortable.ofRecords {β : Type} {record' : β → Record} {l' : List β}
    (h : Sortable record field l) (hsub : ∀ y ∈ l', ∃ x ∈ l, record x = record' y) :
    Sortable record' field l' :=
  ⟨h.created.ofRecords hsub, h.field.ofRecords hsub⟩

/-- **What can be sorted can be sorted in part.** -/
theorem Sortable.mono (h : Sortable record field l) (hsub : ∀ x ∈ l', x ∈ l) :
    Sortable record field l' :=
  h.ofRecords fun x hx => ⟨x, hsub x hx, rfl⟩

/-- Moments of one zone can be compared. -/
theorem comparable_of_zone {z : Zone} (hkey : ∀ x ∈ l, ∃ k, Key.of field (record x) = .ok k)
    (hmoments : ∀ x ∈ l, ∀ m, Key.of field (record x) = .ok (.moment m) → m.zone = z) :
    Comparable record field l := by
  refine ⟨hkey, .inl ?_⟩
  rintro m n ⟨x, hx, hm⟩ ⟨y, hy, hn⟩
  rw [hmoments x hx m hm, hmoments y hy n hn]

/-- Names can always be compared, and so can titles. -/
theorem comparable_author : Comparable record .author l :=
  ⟨fun _ _ => ⟨_, rfl⟩, .inl (by simp [Key.of])⟩

theorem comparable_title : Comparable record .title l :=
  ⟨fun _ _ => ⟨_, rfl⟩, .inl (by simp [Key.of])⟩

/-- A record that has a key can be compared with itself. -/
theorem comparable_singleton (h : ∃ k, Key.of field (record x) = .ok k) :
    Comparable record field [x] where
  key := by simpa using h
  moments := .inl fun m n hm hn => by
    obtain ⟨_, hx, hm⟩ := hm
    obtain ⟨_, hx', hn⟩ := hn
    rw [List.mem_singleton.1 hx] at hm
    rw [List.mem_singleton.1 hx', hm] at hn
    cases hn
    rfl

end Sorting

end Bibliography.Order
