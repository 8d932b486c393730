import Bibliography.Proofs.Order.Relevance
import Bibliography.Proofs.Record.Dates
import Bibliography.View.Basic
/-!
# One year for all

The year of a record is asked for in four places: a query compares its text, ranking
reads the text back as a number, sorting by publication takes the date parts, and a view
shows the text or nothing. Where the date parts can be told, all four are told the first
of them, or zero where there is none: `SameYear`, `exists_year_of_dateParts`.
-/

namespace Bibliography

namespace Record

/-- **A record of which every place is told one year**: the text of it, and the number
that is the first of the date parts. -/
structure SameYear (r : Record) (ns : List Int) (y : String) : Prop where
  /-- A query for a year finds the record just when it is for that text. -/
  queried : ∀ value, Match.Rule.find value r .year =
    .ok (if y = value then some ⟨"year", .exact, y⟩ else none)
  /-- The record is ranked with the number. -/
  ranked : ∀ strength, ∃ k, Order.Relevance.of strength r = .ok k ∧ k.year = ns.headD 0
  /-- It is published in the year of that number, unless the calendar does not have the
  day. -/
  published : ∀ m, r.published = .ok m →
    (m.date.year : Int) = ns.headD 0 ∨ namedDay? ns = none ∧ m = .epoch
  /-- The text is shown, but none for the number zero. -/
  shown : ∀ fields, ∃ v, View.ofRecord r fields = .ok v ∧
    v.year = if ns.headD 0 = 0 then none else some y

section SameYear

variable {r : Record} {ns : List Int} {y : String}

/-- The year of publication is that of the date parts. -/
theorem year_of_published {m : Calendar.Moment} (h : r.dateParts = .ok ns)
    (hm : r.published = .ok m) :
    (m.date.year : Int) = ns.headD 0 ∨ namedDay? ns = none ∧ m = .epoch := by
  obtain ⟨ns', hns', -, rfl⟩ := published_eq_ok_iff.1 hm
  obtain rfl : ns = ns' := Except.ok.inj (h.symm.trans hns')
  cases hday : namedDay? ns with
  | none => exact .inr ⟨rfl, rfl⟩
  | some day => exact .inl (year_of_namedDay? hday)

/-- A year that can be told is told to all alike. -/
theorem sameYear_of_year (h : r.dateParts = .ok ns) (hy : r.year = .ok y)
    (hread : Text.readIntIn 10 y.toList = .ok (ns.headD 0)) : r.SameYear ns y where
  queried value := by rw [Match.Rule.find, hy, Except.map]
  ranked _ := ⟨_, Order.key_eq_ok_iff.2 ⟨y, ns.headD 0, hy, hread, rfl⟩, rfl⟩
  published _ := year_of_published h
  shown fields := by
    refine ⟨_, map_eq_ok_iff.2 ⟨y, hy, rfl⟩, ?_⟩
    exact if_congr (year_eq_missingYear_iff hy (yearNumber_of_dateParts h)) rfl rfl

/-- **The year is the same everywhere.** Where the date parts can be told, the year can. It
is the numeral of the first part, if there is one that is not zero, and otherwise the text
that stands for an unknown year; it reads back as that number, or as zero. Queries, ranking,
publication and views are all told that year. -/
theorem exists_year_of_dateParts (h : r.dateParts = .ok ns)
    (hwritable : ∀ part ∈ r.rawDateParts.head?, part.Writable) :
    ∃ y, r.year = .ok y ∧
      y = (if ns.headD 0 = 0 then missingYear else Number.intText (ns.headD 0)) ∧
      (y = missingYear ↔ ns.headD 0 = 0) ∧
      Text.readIntIn 10 y.toList = .ok (ns.headD 0) ∧
      r.SameYear ns y := by
  have hnumber : r.yearNumber = .ok (ns.headD 0) := yearNumber_of_dateParts h
  have hyear := year_of_yearNumber hwritable hnumber
  obtain ⟨n, hn, hread⟩ := readIntIn_year hyear
  obtain rfl : ns.headD 0 = n := Except.ok.inj (hnumber.symm.trans hn)
  exact ⟨_, hyear, rfl, year_eq_missingYear_iff hyear hnumber, hread,
    sameYear_of_year h hyear hread⟩

/-- A record of the year 44, written with digits of another script, a leading zero and
blanks, and with a month. -/
def otherScript : Record :=
  ⟨[("issued", .obj [("date-parts", .arr [.arr [.str " ٠٤٤ ", .int 3]])])]⟩

theorem exists_year_of_dateParts_otherScript :
    otherScript.dateParts = .ok [44, 3] ∧
      (∀ part ∈ otherScript.rawDateParts.head?, part.Writable) ∧
      ∃ y, otherScript.year = .ok y ∧ y = Number.intText 44 ∧
        Text.readIntIn 10 y.toList = .ok 44 ∧ otherScript.SameYear [44, 3] y := by
  have hparts : otherScript.dateParts = .ok [44, 3] := by decide +kernel
  have hwritable : ∀ part ∈ otherScript.rawDateParts.head?, part.Writable := by
    rintro _ ⟨⟩ n hn
    cases hn
  obtain ⟨y, hy, htext, -, hread, hsame⟩ := exists_year_of_dateParts hparts hwritable
  exact ⟨hparts, hwritable, y, hy, htext, hread, hsame⟩

end SameYear

end Record

end Bibliography
