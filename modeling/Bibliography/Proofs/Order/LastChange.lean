import Bibliography.Calendar.Notations
import Bibliography.Proofs.Order.Unique
import Mathlib.Tactic.Choose
/-!
# Records that do not tell when they were last changed

A record is sorted by its last change as by its making where it says nothing of the
change (`updated_of_omitsChange`). What is no text, or a blank one, tells no time either,
but unless it `IsVoid` it stands for one, and the record counts as changed at the epoch
(`updated_of_not_omitsChange`). So the keys of the two fields agree, as keys are compared
(`Key.Agrees`), just where nothing is said or the record was made at the epoch
(`sortByField_updated_eq_created`).
-/

namespace Bibliography

open Calendar

/-- **A value that says nothing**: null, false, zero, or empty. -/
inductive Json.IsVoid : Json → Prop
  | null : IsVoid .null
  | no : IsVoid (.bool false)
  | zero : IsVoid (.int 0)
  | realZero (negative : Bool) (exponent : Int) : IsVoid (.real (.finite negative 0 exponent))
  | emptyText : IsVoid (.str "")
  | emptyArray : IsVoid (.arr [])
  | emptyObject : IsVoid (.obj [])

/-- The values that count as absent are those that say nothing. -/
theorem Json.isTruthy_eq_false_iff {j : Json} : j.isTruthy = false ↔ j.IsVoid := by
  constructor
  · intro h
    cases j with
    | null => exact .null
    | bool b =>
      obtain rfl : b = false := h
      exact .no
    | int n =>
      obtain rfl : n = 0 := by simpa [isTruthy] using h
      exact .zero
    | real x =>
      have hzero : x.isZero = true := by simpa [isTruthy] using h
      unfold Binary64.isZero at hzero
      split at hzero
      · exact .realZero _ _
      · cases hzero
    | str s =>
      obtain rfl : s = "" := by simpa [isTruthy] using h
      exact .emptyText
    | arr items =>
      obtain rfl : items = [] := by simpa [isTruthy] using h
      exact .emptyArray
    | obj members =>
      obtain rfl : members = [] := by simpa [isTruthy] using h
      exact .emptyObject
  · intro h
    cases h <;> rfl

namespace Record

/-- **A record that tells when it was last changed**, in a text that is not blank. -/
def TellsChange (r : Record) : Prop :=
  ∃ s, r.custom? "timestamp" = some (.str s) ∧ isBlankText s = false

/-- A record that says nothing of a change. -/
def OmitsChange (r : Record) : Prop :=
  ∀ value, r.custom? "timestamp" = some value → value.IsVoid

/-- A moment that is compared with the epoch as the same point in time. -/
def AtEpoch (m : Moment) : Prop :=
  m.zone.hasClock = true ∧ m.instant = Moment.epoch.instant

section Change

variable [Reader] {r : Record}

/-- **What says nothing of a change is as it was made.** -/
theorem updated_of_omitsChange (h : r.OmitsChange) : r.updated = r.created := by
  rw [updated]
  split
  · next value hvalue =>
    have hvoid : value.isTruthy = false := Json.isTruthy_eq_false_iff.2 (h value hvalue)
    rw [hvoid, if_neg Bool.false_ne_true]
  · rfl

/-- **What says something that tells no time counts as changed at the epoch.** -/
theorem updated_of_not_omitsChange (htells : ¬ r.TellsChange) (h : ¬ r.OmitsChange) :
    r.updated = .ok .epoch := by
  simp only [OmitsChange, Classical.not_forall] at h
  obtain ⟨value, hvalue, hvoid⟩ := h
  have htruthy : value.isTruthy = true := by
    rw [← Json.isTruthy_eq_false_iff] at hvoid
    exact Bool.eq_true_of_not_eq_false hvoid
  have hnone : NoTimestamp (some value) := by
    cases value with
    | str s =>
      refine .inl ?_
      by_contra hblank
      exact htells ⟨s, hvalue, Bool.eq_false_of_not_eq_true hblank⟩
    | null | bool _ | int _ | real _ | arr _ | obj _ => trivial
  rw [updated, hvalue]
  dsimp only
  rw [if_pos htruthy, ofTimestamp_of_noTimestamp hnone]

end Change

end Record

namespace Order

/-- **Two keys agree**, as keys are compared: they can be, and neither comes first. -/
def Key.Agrees (k k' : Key) : Prop :=
  checkComparable ([k, k'].filterMap Key.moment?) = .ok () ∧ k.compareTo k' = .eq

section Agreement

variable {k : Key} {m n : Moment} {P Q : Moment → Prop}

theorem Key.agrees_self : k.Agrees k := by
  refine ⟨?_, Std.ReflCmp.compare_self⟩
  cases k with
  | moment m => exact checkComparable_eq_ok_iff.2 (.inl (by simp [Key.moment?]))
  | text s => rfl

/-- Moments that agree are in one zone, or their zones have clocks. -/
theorem agrees_moment_iff : (Key.moment m).Agrees (.moment n) ↔
    (m.zone = n.zone ∨ m.zone.hasClock = true ∧ n.zone.hasClock = true) ∧
      m.instant = n.instant := by
  refine and_congr ?_ Int.compare_eq_eq
  have hmoments : [Key.moment m, .moment n].filterMap Key.moment? = [m, n] := rfl
  rw [hmoments, checkComparable_eq_ok_iff]
  simp only [Alike, List.mem_pair]
  constructor
  · rintro (hzone | hclock)
    · exact .inl (hzone m n (.inl rfl) (.inr rfl))
    · exact .inr ⟨hclock m (.inl rfl), hclock n (.inr rfl)⟩
  · rintro (hzone | hclock)
    · refine .inl ?_
      rintro _ _ (rfl | rfl) (rfl | rfl) <;> simp [hzone]
    · refine .inr ?_
      rintro _ (rfl | rfl)
      · exact hclock.1
      · exact hclock.2

theorem epoch_agrees_iff : (Key.moment .epoch).Agrees (.moment m) ↔ Record.AtEpoch m := by
  rw [agrees_moment_iff, Record.AtEpoch, eq_comm (a := m.instant)]
  refine and_congr_left fun _ => ⟨?_, fun hclock => .inr ⟨rfl, hclock⟩⟩
  rintro (hzone | ⟨-, hclock⟩)
  · rw [← hzone]
    rfl
  · exact hclock

theorem Key.Agrees.exists_moment (h : (Key.moment m).Agrees k) : ∃ n, k = .moment n := by
  cases k with
  | moment n => exact ⟨n, rfl⟩
  | text s => cases h.2

/-- What agrees with moments that are alike is alike. -/
theorem Alike.of_agrees (hP : Alike P)
    (h : ∀ m, Q m → ∃ n, P n ∧ (Key.moment m).Agrees (.moment n)) : Alike Q := by
  by_cases hclock : ∀ n, P n → n.zone.hasClock = true
  · refine .inr fun m hm => ?_
    obtain ⟨n, hn, hagrees⟩ := h m hm
    rcases (agrees_moment_iff.1 hagrees).1 with hzone | ⟨hm, -⟩
    · rw [hzone]
      exact hclock n hn
    · exact hm
  · -- the zone without a clock is that of all
    have hzone := hP.resolve_right hclock
    simp only [Classical.not_forall] at hclock
    obtain ⟨n, hn, hfar⟩ := hclock
    have hall : ∀ m, Q m → m.zone = n.zone := by
      intro m hm
      obtain ⟨n', hn', hagrees⟩ := h m hm
      rw [hzone n n' hn hn'] at hfar ⊢
      exact (agrees_moment_iff.1 hagrees).1.resolve_right fun hboth => hfar hboth.2
    exact .inl fun m m' hm hm' => (hall m hm).trans (hall m' hm').symm

/-- Keys that compare alike sort alike. -/
theorem sortKeyed_congr {α κ : Type} {c : κ → κ → Ordering} {l : List α} {key key' : α → κ}
    (h : ∀ x ∈ l, ∀ y ∈ l, c (key x) (key y) = c (key' x) (key' y)) :
    sortKeyed c (l.map fun x => (key x, x)) = sortKeyed c (l.map fun x => (key' x, x)) := by
  have hsorted : ∀ key'' : α → κ,
      (∀ x ∈ l, ∀ y ∈ l, c (key x) (key y) = c (key'' x) (key'' y)) →
      (sortBy (fun x y => c (key x) (key y)) l).map (fun x => (key'' x, x)) =
        sortBy (fun p q => c p.1 q.1) (l.map fun x => (key'' x, x)) :=
    fun _ hsame => List.map_mergeSort fun x hx y hy => congrArg Ordering.isLE (hsame x hx y hy)
  rw [sortKeyed, sortKeyed, ← hsorted key fun _ _ _ _ => rfl, ← hsorted key' h, List.map_map,
    List.map_map]
  rfl

end Agreement

section Sorting

variable [Reader] {α : Type} {record : α → Record} {field field' : SortField}
variable {direction : Direction} {l : List α}

/-- **Fields whose keys agree sort alike**, once. -/
theorem sortOnce_eq_of_agrees (hcomparable : Comparable record field' l)
    (h : ∀ x ∈ l, ∃ k k', Key.of field (record x) = .ok k ∧ Key.of field' (record x) = .ok k' ∧
      k.Agrees k') :
    sortOnce record field direction l = sortOnce record field' direction l := by
  have : Nonempty Key := ⟨.text ""⟩
  choose! key key' hkey hkey' hagrees using h
  have hkeyed : ∀ {field : SortField} {key : α → Key},
      (∀ x ∈ l, Key.of field (record x) = .ok (key x)) →
      (l.mapM fun x => return (← Key.of field (record x), x)) =
        .ok (l.map fun x => (key x, x)) := by
    intro field key hkey
    rw [mapM_eq_ok_iff, List.map_map]
    exact List.map_congr_left fun x hx => bind_eq_ok_iff.2 ⟨key x, hkey x hx, rfl⟩
  have hmoments : Alike fun m => ∃ x ∈ l, Key.of field (record x) = .ok (.moment m) := by
    refine hcomparable.moments.of_agrees ?_
    rintro m ⟨x, hx, hm⟩
    have hagree : (Key.moment m).Agrees (key' x) := by
      rw [← Except.ok.inj ((hkey x hx).symm.trans hm)]
      exact hagrees x hx
    obtain ⟨n, hn⟩ := hagree.exists_moment
    exact ⟨n, ⟨x, hx, hn ▸ hkey' x hx⟩, hn ▸ hagree⟩
  have hcheck : ∀ {field : SortField} {key : α → Key},
      (∀ x ∈ l, Key.of field (record x) = .ok (key x)) →
      (Alike fun m => ∃ x ∈ l, Key.of field (record x) = .ok (.moment m)) →
      checkComparable ((l.map fun x => (key x, x)).filterMap fun p => p.1.moment?) = .ok () := by
    intro field key hkey hmoments
    exact checkComparable_eq_ok_iff.2
      ((alike_congr fun m => mem_moments_iff (hkeyed hkey)).2 hmoments)
  have hcompare : ∀ x ∈ l, ∀ y ∈ l, (key x).compareTo (key y) = (key' x).compareTo (key' y) :=
    fun x hx y hy => (Std.TransCmp.congr_left (hagrees x hx).2).trans
      (Std.TransCmp.congr_right (hagrees y hy).2)
  have hdirected : ∀ x ∈ l, ∀ y ∈ l, direction.directed Key.compareTo (key x) (key y) =
      direction.directed Key.compareTo (key' x) (key' y) := by
    intro x hx y hy
    cases direction with
    | ascending => exact hcompare x hx y hy
    | descending => exact hcompare y hy x hx
  rw [sortOnce, sortOnce, hkeyed hkey, hkeyed hkey']
  simp only [bind, Except.bind, hcheck hkey hmoments, hcheck hkey' hcomparable.moments,
    sortKeyed_congr hdirected]

/-- **A field whose keys agree with the times of creation sorts as these do.** Where a
time of creation is not read, neither sorts. -/
theorem sortByField_eq_created (h : ∀ x ∈ l, ∀ m, (record x).created = .ok m →
    ∃ k, Key.of field (record x) = .ok k ∧ k.Agrees (.moment m)) :
    sortByField record field direction l = sortByField record .created direction l := by
  unfold sortByField
  dsimp only
  generalize hbyId : sortKeyed compare (l.map fun x => ((record x).idText, x)) = byId
  cases hcreation : sortOnce record .created .descending byId with
  | error => rfl
  | ok byCreation =>
    have hmem : ∀ x ∈ byCreation, x ∈ l := by
      intro x hx
      rw [(sortOnce_perm hcreation).mem_iff, ← hbyId] at hx
      exact mem_sortKeyed_map.1 hx
    have hcomparable : Comparable record .created byCreation :=
      (comparable_congr fun x => (sortOnce_perm hcreation).mem_iff).2
        (exists_sortOnce_iff.1 ⟨_, hcreation⟩)
    refine sortOnce_eq_of_agrees hcomparable fun x hx => ?_
    obtain ⟨k', hk'⟩ := hcomparable.key x hx
    obtain ⟨m, hm, rfl⟩ := map_eq_ok_iff.1 hk'
    obtain ⟨k, hk, hagrees⟩ := h x (hmem x hx) m (mapError_eq_ok_iff.1 hm)
    exact ⟨k, _, hk, hk', hagrees⟩

/-- **When records that do not tell their last change are sorted by their making.** Such a
record has one key for the two fields if it says nothing of a change, and otherwise counts
as changed at the epoch. So the keys agree just where it says nothing or was made at the
epoch, and where all of them do, the two fields sort them alike, in either direction. -/
theorem sortByField_updated_eq_created (h : ∀ x ∈ l, ¬ (record x).TellsChange) :
    (∀ x ∈ l,
      ((record x).OmitsChange → Key.of .updated (record x) = Key.of .created (record x)) ∧
      (¬ (record x).OmitsChange → Key.of .updated (record x) = .ok (.moment .epoch)) ∧
      ∀ m, (record x).created = .ok m →
        ((∃ k, Key.of .updated (record x) = .ok k ∧ k.Agrees (.moment m)) ↔
          (record x).OmitsChange ∨ Record.AtEpoch m)) ∧
      ((∀ x ∈ l, ∀ m, (record x).created = .ok m →
          (record x).OmitsChange ∨ Record.AtEpoch m) →
        ∀ direction, sortByField record .updated direction l =
          sortByField record .created direction l) := by
  have homits : ∀ x ∈ l, (record x).OmitsChange →
      Key.of .updated (record x) = Key.of .created (record x) := fun x _ homits => by
    rw [Key.of, Key.of, Record.updated_of_omitsChange homits]
  have hepoch : ∀ x ∈ l, ¬ (record x).OmitsChange →
      Key.of .updated (record x) = .ok (.moment .epoch) := fun x hx homits => by
    rw [Key.of, Record.updated_of_not_omitsChange (h x hx) homits]
    rfl
  have hcreated : ∀ x m, (record x).created = .ok m →
      Key.of .created (record x) = .ok (.moment m) := fun x m hm => by
    rw [Key.of, hm]
    rfl
  have hagrees : ∀ x ∈ l, ∀ m, (record x).created = .ok m →
      ((∃ k, Key.of .updated (record x) = .ok k ∧ k.Agrees (.moment m)) ↔
        (record x).OmitsChange ∨ Record.AtEpoch m) := by
    intro x hx m hm
    by_cases hx' : (record x).OmitsChange
    · exact iff_of_true ⟨_, (homits x hx hx').trans (hcreated x m hm), Key.agrees_self⟩ (.inl hx')
    · rw [hepoch x hx hx', ← epoch_agrees_iff]
      simp [hx']
  refine ⟨fun x hx => ⟨homits x hx, hepoch x hx, hagrees x hx⟩, fun hall direction => ?_⟩
  exact sortByField_eq_created fun x hx m hm => (hagrees x hx m hm).2 (hall x hx m hm)

end Sorting

/-- A record that was made in 2000 and says nothing of a change. -/
def unchanged : Record :=
  ⟨[("id", .str "b"), ("custom", .obj [("created_at", .str "2000-01-01T00:00:00Z")])]⟩

/-- A record that was made in 2020, with an empty list for its change. -/
def listedChange : Record :=
  ⟨[("id", .str "a"),
    ("custom", .obj [("created_at", .str "2020-01-01T00:00:00Z"), ("timestamp", .arr [])])]⟩

/-- A record with a number for its change that does not say when it was made. -/
def unmade : Record :=
  ⟨[("id", .str "c"), ("custom", .obj [("timestamp", .int 5)])]⟩

/-- A record that was made in 2020, with a number for its change. -/
def numberedChange : Record :=
  ⟨[("id", .str "a"),
    ("custom", .obj [("created_at", .str "2020-01-01T00:00:00Z"), ("timestamp", .int 5)])]⟩

theorem sortByField_updated_eq_created_listedChange :
    letI := Reader.onDay ⟨2024, 2, 29⟩
    (∀ r ∈ [unchanged, listedChange, unmade], ¬ r.TellsChange) ∧
      (∀ r ∈ [unchanged, listedChange, unmade], ∀ m, r.created = .ok m →
        r.OmitsChange ∨ Record.AtEpoch m) ∧
      Key.of .updated listedChange = Key.of .created listedChange ∧
      Key.of .updated unmade = .ok (.moment .epoch) ∧
      ∀ direction, sortByField id .updated direction [unchanged, listedChange, unmade] =
        sortByField id .created direction [unchanged, listedChange, unmade] := by
  let := Reader.onDay ⟨2024, 2, 29⟩
  have htells : ∀ r ∈ [unchanged, listedChange, unmade], ¬ r.TellsChange := by
    simp only [List.forall_mem_cons]
    refine ⟨?_, ?_, ?_, List.forall_mem_nil _⟩ <;> rintro ⟨s, hs, -⟩ <;> cases hs
  have homits : listedChange.OmitsChange := fun value hvalue => by
    cases hvalue
    exact .emptyArray
  have hall : ∀ r ∈ [unchanged, listedChange, unmade], ∀ m, r.created = .ok m →
      r.OmitsChange ∨ Record.AtEpoch m := by
    simp only [List.forall_mem_cons]
    refine ⟨fun m _ => .inl fun value hvalue => ?_, fun m _ => .inl homits, fun m hm => .inr ?_,
      List.forall_mem_nil _⟩
    · cases hvalue
    · rw [Record.created_of_unstamped rfl] at hm
      cases hm
      exact ⟨rfl, rfl⟩
  have hmade : ¬ unmade.OmitsChange := fun h => by
    cases h (.int 5) rfl
  obtain ⟨hkeys, hsort⟩ := @sortByField_updated_eq_created _ Record id _ htells
  exact ⟨htells, hall, (hkeys listedChange (by simp)).1 homits, (hkeys unmade (by simp)).2.1 hmade,
    hsort hall⟩

/-- **A number for the change takes a record to the epoch**, whenever it was made. -/
theorem sortByField_numberedChange :
    letI := Reader.onDay ⟨2024, 2, 29⟩
    ¬ numberedChange.TellsChange ∧ ¬ unchanged.TellsChange ∧
      (∃ m, numberedChange.created = .ok m ∧
        ∀ k, Key.of .updated numberedChange = .ok k → ¬ k.Agrees (.moment m)) ∧
      sortByField id .created .ascending [numberedChange, unchanged] =
        .ok [unchanged, numberedChange] ∧
      sortByField id .updated .ascending [numberedChange, unchanged] =
        .ok [numberedChange, unchanged] := by
  let := Reader.onDay ⟨2024, 2, 29⟩
  have hcreated : Key.of .created numberedChange =
      .ok (.moment ⟨⟨2020, 1, 1⟩, .midnight, .utc⟩) := by
    have hread : numberedChange.created = .ok ⟨⟨2020, 1, 1⟩, .midnight, .utc⟩ := by decide +kernel
    rw [Key.of, hread]
    rfl
  have hcreated' : Key.of .created unchanged = .ok (.moment ⟨⟨2000, 1, 1⟩, .midnight, .utc⟩) := by
    have hread : unchanged.created = .ok ⟨⟨2000, 1, 1⟩, .midnight, .utc⟩ := by decide +kernel
    rw [Key.of, hread]
    rfl
  have hupdated : Key.of .updated numberedChange = .ok (.moment .epoch) := rfl
  have hupdated' : Key.of .updated unchanged = Key.of .created unchanged := rfl
  rw [hcreated'] at hupdated'
  have hids : ([numberedChange, unchanged].map Record.idText).Nodup := by decide
  have hcomparable : Comparable id .created [numberedChange, unchanged] := by
    refine comparable_of_zone (z := .utc) ?_ ?_ <;> simp [hcreated, hcreated']
  have hcomparable' : Comparable id .updated [numberedChange, unchanged] := by
    refine comparable_of_zone (z := .utc) ?_ ?_ <;> simp [hupdated, hupdated', Moment.epoch]
  refine ⟨?_, ?_, ⟨⟨⟨2020, 1, 1⟩, .midnight, .utc⟩, ?_, fun k hk => ?_⟩, ?_, ?_⟩
  · rintro ⟨s, hs, -⟩
    cases hs
  · rintro ⟨s, hs, -⟩
    cases hs
  · simpa [Key.of, map_eq_ok_iff] using hcreated
  · obtain rfl := Except.ok.inj (hupdated.symm.trans hk)
    rw [epoch_agrees_iff]
    rintro ⟨-, hinstant⟩
    exact absurd hinstant (by decide)
  · refine sortByField_eq_of_pairwise ⟨hcomparable, hcomparable⟩ hids (.swap _ _ _)
      (List.pairwise_pair.2 ⟨_, _, hcreated', hcreated, .inl (by decide)⟩)
  · refine sortByField_eq_of_pairwise ⟨hcomparable, hcomparable'⟩ hids (.refl _)
      (List.pairwise_pair.2 ⟨_, _, hupdated, hupdated', .inl (by decide)⟩)

end Order

end Bibliography
