import Bibliography.Proofs.Calendar.Timestamp
import Bibliography.Proofs.Record.Year
import Bibliography.Record.Dates
/-!
# When the moments of a record can be told

The parts of a date of issue are numbers of any size. Year, month and day must be
of thirty-two bits before the calendar is asked whether it has the day, so the
moment of publication is refused where one is not, and counts as the epoch where
only the calendar says no (`published_eq_ok_iff`). A record has such a moment just
when it is `Datable`. The other two moments are those that timestamps mean
(`updated_eq_ofTimestamp`).
-/

namespace Bibliography

open Calendar

/-- A number of thirty-two bits. -/
def Fits (n : Int) : Prop :=
  -2147483648 ≤ n ∧ n ≤ 2147483647

namespace Record

/-- The day that date parts name, if the calendar has it. A month or a day that
is missing is the first. -/
def namedDay? : List Int → Option Date
  | [] => none
  | year :: rest => Date.ofParts? year (rest.head?.getD 1) ((rest.drop 1).head?.getD 1)

/-- **A record whose date of issue is of a kind that the calendar can be asked
for**: no part is illegible, and year, month and day fit. -/
structure Datable (r : Record) : Prop where
  legible : ¬ MeetsIllegible r.rawDateParts
  fits : ∀ ns, r.dateParts = .ok ns → ∀ n ∈ ns.take 3, Fits n

/-- The timestamp of the last change: that of its making, unless there is another
one. -/
def changeStamp (r : Record) : Option Json :=
  ((r.custom? "timestamp").filter Json.isTruthy).or (r.custom? "created_at")

section Publication

variable {r : Record} {m : Moment} {n year : Int} {ns rest : List Int} {u : Unit}

theorem checkDatePart_eq_ok_iff : checkDatePart n = .ok u ↔ Fits n := by
  unfold checkDatePart Fits
  grind

/-- Parts that are missing fit. -/
theorem fits_take_three_iff :
    (∀ n ∈ [year, rest.head?.getD 1, (rest.drop 1).head?.getD 1], Fits n) ↔
      ∀ n ∈ (year :: rest).take 3, Fits n := by
  have hone : Fits 1 := ⟨by decide, by decide⟩
  match rest with
  | [] => simp [hone]
  | [month] => simp [hone]
  | month :: day :: _ => simp

/-- The day that is named lies in the year that is the first of the parts. -/
theorem year_of_namedDay? {day : Date} (h : namedDay? ns = some day) :
    (day.year : Int) = ns.headD 0 := by
  cases ns with
  | nil => cases h
  | cons year rest =>
    rw [namedDay?, Date.ofParts?] at h
    split at h
    · next hparts =>
      obtain ⟨-, hday⟩ := Option.ite_none_right_eq_some.1 h
      obtain rfl := Option.some.inj hday
      simp only [Bool.and_eq_true, decide_eq_true_eq] at hparts
      exact Int.toNat_of_nonneg hparts.1.1
    · cases h

/-- **The moment of publication** is the start of the day that is named, and the
epoch if the calendar does not have it. -/
theorem published_eq_ok_iff :
    r.published = .ok m ↔ ∃ ns, r.dateParts = .ok ns ∧ (∀ n ∈ ns.take 3, Fits n) ∧
      m = (namedDay? ns).elim .epoch fun d => ⟨d, .midnight, .utc⟩ := by
  rw [published, bind_eq_ok_iff]
  refine exists_congr fun ns => ?_
  rw [mapError_eq_ok_iff]
  refine and_congr_right fun _ => ?_
  match ns with
  | [] => simp [namedDay?, pure, Except.pure, eq_comm]
  | year :: rest =>
    simp only [bind_eq_ok_iff, forIn_check_eq_ok_iff, mapError_eq_ok_iff, checkDatePart_eq_ok_iff,
      fits_take_three_iff, exists_and_left, exists_const, namedDay?]
    refine and_congr_right fun _ => ?_
    cases Date.ofParts? year (rest.head?.getD 1) ((rest.drop 1).head?.getD 1) <;>
      simp [pure, Except.pure, eq_comm]

/-- **A record has a moment of publication just when it is datable.** -/
theorem exists_published_iff : (∃ m, r.published = .ok m) ↔ r.Datable := by
  simp only [published_eq_ok_iff]
  constructor
  · rintro ⟨m, ns, hns, hfits, -⟩
    refine ⟨exists_dateParts_iff.1 ⟨ns, hns⟩, fun ns' hns' => ?_⟩
    obtain rfl : ns = ns' := Except.ok.inj (hns.symm.trans hns')
    exact hfits
  · intro h
    obtain ⟨ns, hns⟩ := exists_dateParts_iff.2 h.legible
    exact ⟨_, ns, hns, h.fits ns hns, rfl⟩

/-- Publication is in universal time. -/
theorem zone_of_published (h : r.published = .ok m) : m.zone = .utc := by
  obtain ⟨ns, -, -, rfl⟩ := published_eq_ok_iff.1 h
  cases namedDay? ns <;> rfl

end Publication

section Stamps

variable [Reader] {r : Record} {m : Moment}

/-- **The moment of the last change is that of a timestamp.** -/
theorem updated_eq_ofTimestamp : r.updated = Moment.ofTimestamp r.changeStamp := by
  rw [updated, changeStamp]
  cases r.custom? "timestamp" with
  | none => rfl
  | some value =>
    cases h : value.isTruthy <;> simp [Option.filter, h, created]

/-- A record that does not say when it was made counts as made at the epoch. -/
theorem created_of_unstamped (h : r.custom? "created_at" = none) : r.created = .ok .epoch := by
  rw [created, h]
  rfl

end Stamps

/-- Two readers read alike what a record has for timestamps. -/
def StampedAlike (R R' : Reader) (r : Record) : Prop :=
  ∀ s, r.custom? "created_at" = some (.str s) ∨ r.custom? "timestamp" = some (.str s) →
    ReadAlike R R' s

section Readers

variable {R R' : Reader} {r : Record}

theorem created_congr (h : StampedAlike R R' r) : @created R r = @created R' r :=
  ofTimestamp_congr fun s hs => h s (.inl hs)

theorem updated_congr (h : StampedAlike R R' r) : @updated R r = @updated R' r := by
  unfold updated
  split
  · next value hvalue =>
    have hstamp : @Moment.ofTimestamp R (some value) = @Moment.ofTimestamp R' (some value) :=
      ofTimestamp_congr fun s hs => h s (.inr (hvalue.trans hs))
    rw [hstamp, created_congr h]
  · exact created_congr h

end Readers

end Record

end Bibliography
