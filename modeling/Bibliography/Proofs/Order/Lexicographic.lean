import Mathlib.Data.String.Basic
import Bibliography.Calendar.Notations
import Bibliography.Order.Sorting
import Bibliography.Proofs.Fallible
import Bibliography.Proofs.Order.Stable
import Bibliography.Proofs.Record.Dates
/-!
# Sorting by a field is sorting once

Records are sorted three times, by identifier, by time of creation and by the
field. `arrangedBy_sortByField` says what comes of it: one order, in which
the field decides first (`Before`) and what decides between equals
(`TieBefore`) knows nothing of the direction. Whatever timestamps mean to the
reader, it is their points in time that are compared.
-/

namespace Bibliography.Order

open Calendar

/-! ## The order that is meant -/

/-- **One record comes before another in a field**: by the point in time, or
by the text in lower case. -/
inductive Before [Reader] : SortField → Record → Record → Prop
  | created {a b : Record} {m n : Moment} :
      a.created = .ok m → b.created = .ok n → m.instant < n.instant → Before .created a b
  | updated {a b : Record} {m n : Moment} :
      a.updated = .ok m → b.updated = .ok n → m.instant < n.instant → Before .updated a b
  | published {a b : Record} {m n : Moment} :
      a.published = .ok m → b.published = .ok n → m.instant < n.instant → Before .published a b
  | author {a b : Record} : lowered a.sortAuthor < lowered b.sortAuthor → Before .author a b
  | title {a b : Record} :
      lowered ((a.str? "title").getD "") < lowered ((b.str? "title").getD "") →
      Before .title a b

/-- Two records are level in a field when neither comes before the other. -/
def Level [Reader] (field : SortField) (a b : Record) : Prop :=
  ¬ Before field a b ∧ ¬ Before field b a

/-- A relation taken in a direction. -/
def Direction.along {α : Type} (R : α → α → Prop) : Direction → α → α → Prop
  | ascending, a, b => R a b
  | descending, a, b => R b a

/-- What decides between records that are level: the later created comes
first, then the one with the smaller identifier, then the one with the
smaller place. -/
def TieBefore [Reader] (x y : Record × Nat) : Prop :=
  Before .created y.1 x.1 ∨ Level .created x.1 y.1 ∧
    (x.1.idText < y.1.idText ∨ x.1.idText = y.1.idText ∧ x.2 < y.2)

/-- **The order of records, each with its place**: by the field in the given
direction, and between level records by what decides there. -/
def Precedes [Reader] (field : SortField) (direction : Direction) (x y : Record × Nat) : Prop :=
  direction.along (Before field) x.1 y.1 ∨ Level field x.1 y.1 ∧ TieBefore x y

/-! ## The comparisons -/

section Comparisons

variable {κ : Type} {c : κ → κ → Ordering} {field : SortField} {direction : Direction}
variable {a b : Record} {k k' : Key}

instance transCmp_directed [Std.TransCmp c] : Std.TransCmp (direction.directed c) := by
  cases direction with
  | ascending => exact inferInstanceAs (Std.TransCmp c)
  | descending =>
    exact
      { eq_swap := fun {a b} => (Std.OrientedCmp.eq_swap : c b a = (c a b).swap)
        isLE_trans := fun {a _ b} h h' => (Std.TransCmp.isLE_trans h' h : (c b a).isLE = true) }

instance transCmp_compareTo : Std.TransCmp Key.compareTo where
  eq_swap {k k'} :=
    match k, k' with
    | .moment m, .moment n =>
      (Std.OrientedCmp.eq_swap : compare m.instant n.instant = (compare n.instant m.instant).swap)
    | .text s, .text t => (Std.OrientedCmp.eq_swap : compare s t = (compare t s).swap)
    | .moment _, .text _ => rfl
    | .text _, .moment _ => rfl
  isLE_trans {k k' k''} h h' :=
    match k, k', k'' with
    | .moment m, .moment _, .moment n =>
      (Std.TransCmp.isLE_trans h h' : (compare m.instant n.instant).isLE = true)
    | .text s, .text _, .text t => (Std.TransCmp.isLE_trans h h' : (compare s t).isLE = true)
    | .moment _, _, .text _ => rfl
    | .text _, .moment _, _ => absurd h (by simp [Key.compareTo])
    | _, .text _, .moment _ => absurd h' (by simp [Key.compareTo])

/-- Keys that are moments are compared by the points in time. -/
theorem compareTo_moment_eq_lt_iff {ε : Type} {x y : Except ε Moment} {reason : ε → SortError}
    (hx : (x.mapError reason).map .moment = .ok k) (hy : (y.mapError reason).map .moment = .ok k') :
    k.compareTo k' = .lt ↔ ∃ m n, x = .ok m ∧ y = .ok n ∧ m.instant < n.instant := by
  simp only [map_eq_ok_iff, mapError_eq_ok_iff] at hx hy
  obtain ⟨m, rfl, rfl⟩ := hx
  obtain ⟨n, rfl, rfl⟩ := hy
  simp [Key.compareTo, Int.compare_eq_lt]

variable [Reader]

/-- **The keys of a field are compared as its records are.** -/
theorem compareTo_eq_lt_iff (ha : Key.of field a = .ok k) (hb : Key.of field b = .ok k') :
    k.compareTo k' = .lt ↔ Before field a b := by
  cases field with
  | created =>
    rw [compareTo_moment_eq_lt_iff ha hb]
    constructor
    · rintro ⟨m, n, hm, hn, h⟩
      exact .created hm hn h
    · intro h
      cases h with
      | created hm hn h => exact ⟨_, _, hm, hn, h⟩
  | updated =>
    rw [compareTo_moment_eq_lt_iff ha hb]
    constructor
    · rintro ⟨m, n, hm, hn, h⟩
      exact .updated hm hn h
    · intro h
      cases h with
      | updated hm hn h => exact ⟨_, _, hm, hn, h⟩
  | published =>
    rw [compareTo_moment_eq_lt_iff ha hb]
    constructor
    · rintro ⟨m, n, hm, hn, h⟩
      exact .published hm hn h
    · intro h
      cases h with
      | published hm hn h => exact ⟨_, _, hm, hn, h⟩
  | author =>
    cases ha
    cases hb
    rw [Key.compareTo, compare_lt_iff_lt]
    refine ⟨.author, fun h => ?_⟩
    cases h with
    | author h => exact h
  | title =>
    cases ha
    cases hb
    rw [Key.compareTo, compare_lt_iff_lt]
    refine ⟨.title, fun h => ?_⟩
    cases h with
    | title h => exact h

theorem level_of_compareTo_eq (ha : Key.of field a = .ok k) (hb : Key.of field b = .ok k')
    (h : k.compareTo k' = .eq) : Level field a b := by
  have h' := Std.OrientedCmp.eq_symm h
  refine ⟨fun hlt => ?_, fun hlt => ?_⟩
  · rw [← compareTo_eq_lt_iff ha hb, h] at hlt
    cases hlt
  · rw [← compareTo_eq_lt_iff hb ha, h'] at hlt
    cases hlt

theorem along_of_directed_eq_lt (ha : Key.of field a = .ok k) (hb : Key.of field b = .ok k')
    (h : direction.directed Key.compareTo k k' = .lt) : direction.along (Before field) a b := by
  cases direction with
  | ascending => exact (compareTo_eq_lt_iff ha hb).1 h
  | descending => exact (compareTo_eq_lt_iff hb ha).1 h

theorem level_of_directed_eq (ha : Key.of field a = .ok k) (hb : Key.of field b = .ok k')
    (h : direction.directed Key.compareTo k k' = .eq) : Level field a b := by
  cases direction with
  | ascending => exact level_of_compareTo_eq ha hb h
  | descending => exact level_of_compareTo_eq ha hb (Std.OrientedCmp.eq_symm h)

end Comparisons

/-! ## The order that comes out -/

/-- **One record comes before another by their keys for a field** in a direction or,
where these are equal, by what decides else. -/
def ByKey [Reader] (field : SortField) (direction : Direction) (a b : Record) (tie : Prop) :
    Prop :=
  ∃ k k', Key.of field a = .ok k ∧ Key.of field b = .ok k' ∧
    (direction.directed Key.compareTo k k' = .lt ∨
      direction.directed Key.compareTo k k' = .eq ∧ tie)

section Sorting

variable [Reader]
variable {α : Type} {record : α → Record} {field : SortField} {direction : Direction}
variable {l mid out : List α} {a b : Record} {x y : α × Nat} {tie tie' : Prop}

theorem ByKey.imp (h : ByKey field direction a b tie) (htie : tie → tie') :
    ByKey field direction a b tie' := by
  obtain ⟨k, k', hk, hk', h⟩ := h
  exact ⟨k, k', hk, hk', h.imp id fun ⟨heq, h⟩ => ⟨heq, htie h⟩⟩

theorem ByKey.along_or_level (h : ByKey field direction a b tie) :
    direction.along (Before field) a b ∨ Level field a b ∧ tie := by
  obtain ⟨k, k', hk, hk', hlt | ⟨heq, h⟩⟩ := h
  · exact .inl (along_of_directed_eq_lt hk hk' hlt)
  · exact .inr ⟨level_of_directed_eq hk hk' heq, h⟩

/-- What the sorts by identifier and by time of creation leave behind. -/
def ByCreation (record : α → Record) (x y : α × Nat) : Prop :=
  ByKey .created .descending (record x.1) (record y.1)
    (ThenBy (fun x y => compare (record x.1).idText (record y.1).idText) (fun x y => x.2 < y.2) x y)

theorem tieBefore_of_byCreation (h : ByCreation record x y) :
    TieBefore (record x.1, x.2) (record y.1, y.2) := by
  refine h.along_or_level.imp id fun ⟨hlevel, hid⟩ => ⟨hlevel, ?_⟩
  simpa only [ThenBy, compare_lt_iff_lt, compare_eq_iff_eq] using hid

/-- **One more key to sort by.** Every record has its key, and the keys refine the order
that there was. -/
theorem arrangedBy_sortOnce {R : α × Nat → α × Nat → Prop} (hmid : ArrangedBy R l mid)
    (h : sortOnce record field direction mid = .ok out) :
    ArrangedBy (fun x y => ByKey field direction (record x.1) (record y.1) (R x y)) l out := by
  simp only [sortOnce, bind_eq_ok_iff] at h
  obtain ⟨keyed, hkeyed, _, -, hout⟩ := h
  cases hout
  obtain ⟨hsnd, hkey⟩ := mapM_pair_eq_ok hkeyed
  rw [← hsnd] at hmid
  exact hmid.sortKeyed (K := fun x k => Key.of field (record x) = .ok k) hkey

/-- Two records with keys for a field that can be compared are sorted by them. -/
theorem sortOnce_pair {u v : α} {k k' : Key} (hk : Key.of field (record u) = .ok k)
    (hk' : Key.of field (record v) = .ok k')
    (hcheck : checkComparable ([k, k'].filterMap Key.moment?) = .ok ()) :
    sortOnce record field direction [u, v] =
      .ok (if (direction.directed Key.compareTo k k').isLE then [u, v] else [v, u]) := by
  have hkeyed : ([u, v].mapM fun x => return (← Key.of field (record x), x)) =
      .ok [(k, u), (k', v)] := by
    rw [List.mapM_cons, List.mapM_cons, hk, hk']
    rfl
  simp only [sortOnce, bind_eq_ok_iff]
  refine ⟨_, hkeyed, (), ?_, ?_⟩
  · simpa [List.filterMap_cons] using hcheck
  · rw [sortKeyed_pair]
    rfl

/-- **The three sorts, one after the other.** -/
theorem arrangedBy_keys (h : sortByField record field direction l = .ok out) :
    ArrangedBy
      (fun x y => ByKey field direction (record x.1) (record y.1) (ByCreation record x y)) l out := by
  obtain ⟨byCreation, hcreation, hout⟩ := bind_eq_ok_iff.1 h
  have hid := arrangedBy_self.sortKeyed_map (l := l) (c := compare) fun x => (record x).idText
  exact arrangedBy_sortOnce (arrangedBy_sortOnce hid hcreation) hout

/-- Sorting neither loses nor adds anything. -/
theorem sortByField_perm (h : sortByField record field direction l = .ok out) : out.Perm l :=
  (arrangedBy_keys h).perm

/-- **Sorting by a field puts records in one order.** Whatever comes out, it
is the records that went in, each before all that it precedes: by the field in
the direction asked for, then, in either direction, by what decides between
level records. -/
theorem arrangedBy_sortByField (h : sortByField record field direction l = .ok out) :
    ArrangedBy (fun x y => Precedes field direction (record x.1, x.2) (record y.1, y.2)) l out :=
  (arrangedBy_keys h).imp fun _ _ hxy =>
    hxy.along_or_level.imp id fun ⟨hlevel, htie⟩ => ⟨hlevel, tieBefore_of_byCreation htie⟩

/-- Two records at one address whose titles differ in case alone. The first has
the greater identifier. -/
def levelTitles : List Record :=
  [⟨[("id", .str "b"), ("URL", .str "u:v"), ("title", .str "Lean")]⟩,
    ⟨[("id", .str "a"), ("URL", .str "u:v"), ("title", .str "lean")]⟩]

/-- Descending too, the smaller identifier comes first. -/
theorem sortByField_levelTitles {u v : α} (h : [record u, record v] = levelTitles) :
    sortByField record .title .descending [u, v] = .ok [v, u] := by
  simp only [levelTitles, List.cons.injEq, and_true] at h
  obtain ⟨hu, hv⟩ := h
  have hid : sortKeyed compare [((record u).idText, u), ((record v).idText, v)] = [v, u] := by
    rw [sortKeyed_pair, hu, hv]
    rfl
  have hcreated : Key.of .created (record u) = .ok (.moment .epoch) ∧
      Key.of .created (record v) = .ok (.moment .epoch) := by
    rw [hu, hv, Key.of, Key.of, Record.created_of_unstamped rfl, Record.created_of_unstamped rfl]
    exact ⟨rfl, rfl⟩
  simp only [sortByField, List.map_cons, List.map_nil, hid]
  refine bind_eq_ok_iff.2 ⟨[v, u], sortOnce_pair hcreated.2 hcreated.1 rfl, ?_⟩
  refine (sortOnce_pair rfl rfl rfl).trans ?_
  rw [hu, hv]
  rfl

end Sorting

theorem arrangedBy_sortByField_levelTitles :
    letI := Reader.onDay ⟨2024, 2, 29⟩
    sortByField id .title .descending levelTitles = .ok levelTitles.reverse ∧
      ArrangedBy (fun x y => Precedes .title .descending (id x.1, x.2) (id y.1, y.2)) levelTitles
        levelTitles.reverse :=
  letI := Reader.onDay ⟨2024, 2, 29⟩
  ⟨sortByField_levelTitles rfl, arrangedBy_sortByField (sortByField_levelTitles rfl)⟩

end Bibliography.Order
