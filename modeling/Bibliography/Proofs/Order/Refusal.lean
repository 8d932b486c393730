import Bibliography.Calendar.Notations
import Bibliography.Library
import Bibliography.Proofs.Order.Sortable
/-!
# Which records are not sorted

What `Sortable` asks of keys, said of what stands in the records. By author and by
title there is always a key, and by publication there is one for `Datable` records.
All else is up to the timestamps: reading none of them may crash, and if any means a
moment in a zone without a clock, they must all be in that zone (`GoTogether`). The
latest created stand first among equals, so the timestamps of creation count whatever
is sorted by.
-/

namespace Bibliography.Order

open Calendar

/-- **Timestamps that can be compared**: reading none crashes, and the moments that they
mean are in one zone, or none is in a zone without a clock. -/
structure GoTogether [Reader] (stamps : List (Option Json)) : Prop where
  read : ∀ s ∈ stamps, ∀ c, ¬ Breaks s c
  zones : (∀ s ∈ stamps, ∀ s' ∈ stamps, ∀ m m', Means s m → Means s' m' → m.zone = m'.zone) ∨
    ∀ s ∈ stamps, ∀ m, Means s m → m.zone.hasClock = true

section Refusal

variable [Reader]
variable {α : Type} {record : α → Record} {field : SortField} {direction : Direction} {l : List α}

/-- Keys that are the moments of timestamps can be compared just where these can. -/
theorem comparable_iff_goTogether (stamp : Record → Option Json)
    (hkey : ∀ r, Key.of field r =
      ((Moment.ofTimestamp (stamp r)).mapError .timestamp).map .moment) :
    Comparable record field l ↔ GoTogether (l.map fun x => stamp (record x)) := by
  have hmoment : ∀ r m, Key.of field r = .ok (.moment m) ↔ Means (stamp r) m := by
    intro r m
    simp [hkey, map_eq_ok_iff, ofTimestamp_eq_ok_iff]
  have hread : ∀ r, (∃ k, Key.of field r = .ok k) ↔ ∀ c, ¬ Breaks (stamp r) c := by
    intro r
    constructor
    · rintro ⟨k, hk⟩ c hc
      rw [hkey, ofTimestamp_of_breaks hc] at hk
      cases hk
    · intro hbreaks
      rcases means_or_breaks (stamp r) with ⟨m, hm⟩ | ⟨c, hc⟩
      · exact ⟨_, (hmoment r m).2 hm⟩
      · exact absurd hc (hbreaks c)
  constructor
  · rintro ⟨hall, hzones⟩
    refine ⟨?_, hzones.imp ?_ ?_⟩ <;> simp only [List.forall_mem_map]
    · exact fun x hx => (hread _).1 (hall x hx)
    · exact fun h x hx y hy m n hm hn =>
        h m n ⟨x, hx, (hmoment _ m).2 hm⟩ ⟨y, hy, (hmoment _ n).2 hn⟩
    · exact fun h x hx m hm => h m ⟨x, hx, (hmoment _ m).2 hm⟩
  · rintro ⟨hall, hzones⟩
    simp only [List.forall_mem_map] at hall hzones
    refine ⟨fun x hx => (hread _).2 (hall x hx), hzones.imp ?_ ?_⟩
    · rintro h m n ⟨x, hx, hm⟩ ⟨y, hy, hn⟩
      exact h x hx y hy m n ((hmoment _ m).1 hm) ((hmoment _ n).1 hn)
    · rintro h m ⟨x, hx, hm⟩
      exact h x hx m ((hmoment _ m).1 hm)

theorem comparable_created_iff :
    Comparable record .created l ↔ GoTogether (l.map fun x => (record x).custom? "created_at") :=
  comparable_iff_goTogether (·.custom? "created_at") fun _ => rfl

theorem comparable_updated_iff :
    Comparable record .updated l ↔ GoTogether (l.map fun x => (record x).changeStamp) :=
  comparable_iff_goTogether Record.changeStamp fun _ => by rw [Key.of, Record.updated_eq_ofTimestamp]

/-- Of the other fields, publication alone may be without a key, and it is in universal
time. -/
theorem comparable_published_iff :
    Comparable record .published l ↔ ∀ x ∈ l, (record x).Datable := by
  have hkey : ∀ r : Record, (∃ k, Key.of .published r = .ok k) ↔ r.Datable := by
    intro r
    simp [Key.of, map_eq_ok_iff, ← Record.exists_published_iff]
  refine ⟨fun h x hx => (hkey _).1 (h.key x hx), fun h => ?_⟩
  refine comparable_of_zone (z := .utc) (fun x hx => (hkey _).2 (h x hx)) fun x _ m hm => ?_
  simp only [Key.of, map_eq_ok_iff, mapError_eq_ok_iff, Key.moment.injEq, exists_eq_right] at hm
  exact Record.zone_of_published hm

/-- **When records are sorted, by whatever field and in either direction.** By
publication they must be datable, and what they say about the time of their making
must go together, and by the last change what they say about that. Otherwise
nothing is refused: a day that the calendar does not have, and what is no
timestamp, count as the epoch. -/
theorem exists_sortByField_iff_datable :
    ((∃ out, sortByField record field direction l = .ok out) ↔
      (field = .published → ∀ x ∈ l, (record x).Datable) ∧
        GoTogether (l.map fun x => (record x).custom? "created_at") ∧
        (field = .updated → GoTogether (l.map fun x => (record x).changeStamp))) ∧
      (∀ x ∈ l, ∀ ns, (record x).dateParts = .ok ns → (∀ n ∈ ns.take 3, Fits n) →
        Record.namedDay? ns = none → Key.of .published (record x) = .ok (.moment .epoch)) ∧
      (∀ x ∈ l, NoTimestamp ((record x).custom? "created_at") →
        Key.of .created (record x) = .ok (.moment .epoch)) ∧
      (∀ x ∈ l, NoTimestamp (record x).changeStamp →
        Key.of .updated (record x) = .ok (.moment .epoch)) := by
  refine ⟨?_, fun x _ ns hns hfits hday => ?_, fun x _ h => ?_, fun x _ h => ?_⟩
  · have hfield : Comparable record .created l →
        (Comparable record field l ↔ (field = .published → ∀ x ∈ l, (record x).Datable) ∧
          (field = .updated → GoTogether (l.map fun x => (record x).changeStamp))) := by
      intro hcreated
      cases field with
      | created => simpa using hcreated
      | updated => simp [comparable_updated_iff]
      | published => simp [comparable_published_iff]
      | author => simpa using comparable_author
      | title => simpa using comparable_title
    rw [exists_sortByField_iff, ← comparable_created_iff]
    constructor
    · rintro ⟨hcreated, hcomparable⟩
      obtain ⟨hdatable, hchanged⟩ := (hfield hcreated).1 hcomparable
      exact ⟨hdatable, hcreated, hchanged⟩
    · rintro ⟨hdatable, hcreated, hchanged⟩
      exact ⟨hcreated, (hfield hcreated).2 ⟨hdatable, hchanged⟩⟩
  · have hpublished : (record x).published = .ok .epoch :=
      Record.published_eq_ok_iff.2 ⟨ns, hns, hfits, by rw [hday]; rfl⟩
    rw [Key.of, hpublished]
    rfl
  · rw [Key.of, Record.created, ofTimestamp_of_noTimestamp h]
    rfl
  · rw [Key.of, Record.updated_eq_ofTimestamp, ofTimestamp_of_noTimestamp h]
    rfl

/-- One record has nothing to be compared with. -/
theorem sortOnce_singleton {x : α} :
    sortOnce record field direction [x] = (Key.of field (record x)).map fun _ => [x] := by
  cases hkey : Key.of field (record x) with
  | error e =>
    rw [sortOnce, List.mapM_cons, hkey]
    rfl
  | ok k =>
    have hkeyed : ([x].mapM fun x => return (← Key.of field (record x), x)) = .ok [(k, x)] := by
      rw [List.mapM_cons, hkey]
      rfl
    have hsorted : sortKeyed (direction.directed Key.compareTo) [(k, x)] = [x] := by
      simp [sortKeyed, sortBy]
    rw [sortOnce, hkeyed]
    cases k <;> exact congrArg Except.ok hsorted

theorem sortByField_singleton {x : α} :
    sortByField record field direction [x] =
      Key.of .created (record x) >>= fun _ => (Key.of field (record x)).map fun _ => [x] := by
  have hid : sortKeyed compare [((record x).idText, x)] = [x] := by simp [sortKeyed, sortBy]
  simp only [sortByField, List.map_cons, List.map_nil, hid, sortOnce_singleton]
  cases Key.of .created (record x) with
  | error e => rfl
  | ok k => exact sortOnce_singleton

end Refusal

/-- A record of a year beyond thirty-two bits. -/
def farYear : Record :=
  ⟨[("id", .str "a"), ("issued", .obj [("date-parts", .arr [.arr [.int 2147483648]])])]⟩

/-- A record that was made in a zone more than a day ahead. -/
def farZone : Record :=
  ⟨[("id", .str "b"), ("custom", .obj [("created_at", .str "2020-01-01 00:00 +25:00")])]⟩

/-- A record that does not say when it was made. -/
def unstamped : Record :=
  ⟨[("id", .str "c")]⟩

/-- A record with more hours for its making than decimals can be split at. -/
def longAgo : Record :=
  ⟨[("id", .str "d"), ("custom", .obj [("created_at", .str "10000000000000000000000000000h")])]⟩

/-- **Libraries that are accepted and not sorted**: a record of such a year by
publication, whatever the reader, and one of such a zone beside any other, or one of such
hours, by each field. -/
theorem sortByField_refuses :
    (Library.ofJson "library.json" (Library.toJson [farYear]) = .ok [farYear] ∧
      ∀ (_ : Reader) (direction : Direction), sortByField id .published direction [farYear] =
        .error (.published (.part .tooLarge))) ∧
      (Library.ofJson "library.json" (Library.toJson [farZone, unstamped]) =
          .ok [farZone, unstamped] ∧
        letI := Reader.onDay ⟨2024, 2, 29⟩
        ∀ field direction, sortByField id field direction [farZone, unstamped] =
          .error .zoneWithoutClock) ∧
      Library.ofJson "library.json" (Library.toJson [longAgo]) = .ok [longAgo] ∧
        letI := Reader.onDay ⟨2024, 2, 29⟩
        ∀ field direction, sortByField id field direction [longAgo] = .error
          (.timestamp ⟨"InvalidOperation", "[<class 'decimal.DivisionImpossible'>]"⟩) := by
  let := Reader.onDay ⟨2024, 2, 29⟩
  refine ⟨⟨rfl, fun _ direction => ?_⟩, ⟨rfl, fun field direction => ?_⟩, rfl,
    fun field direction => ?_⟩
  · -- the moment of creation passes, and the key is refused
    rw [sortByField_singleton, Key.of, Record.created_of_unstamped rfl]
    rfl
  · -- the moments of creation are refused, before the field is looked at
    have hids : sortKeyed compare [(farZone.idText, farZone), (unstamped.idText, unstamped)] =
        [farZone, unstamped] := by
      rw [sortKeyed_pair]
      rfl
    have hfar : farZone.created = .ok ⟨⟨2020, 1, 1⟩, .midnight, .fixed none 90000⟩ := by
      decide +kernel
    have hrefused : sortOnce id .created .descending [farZone, unstamped] =
        .error .zoneWithoutClock := by
      rw [sortOnce, List.mapM_cons, List.mapM_cons, id, id, Key.of, Key.of, hfar,
        Record.created_of_unstamped (r := unstamped) rfl]
      rfl
    simp only [sortByField, List.map_cons, List.map_nil, id, hids]
    rw [hrefused]
    rfl
  · have hbroken : longAgo.created =
        .error ⟨"InvalidOperation", "[<class 'decimal.DivisionImpossible'>]"⟩ := by
      decide +kernel
    rw [sortByField_singleton, Key.of, id, hbroken]
    rfl

end Bibliography.Order
