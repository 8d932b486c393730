import Bibliography.Calendar.Timestamp
/-!
# What timestamps mean

A timestamp is read in the standard notation, or else in free form, and is no
timestamp where both refuse it (`NoTimestamp`). So it means a moment (`Means`) or
reading it crashes (`Breaks`), and never both: `ofTimestamp_eq_ok_iff` and
`ofTimestamp_eq_error_iff`. All of this is up to the reader, and two readers that
read a text alike give it one meaning (`ofTimestamp_congr`).
-/

namespace Bibliography.Calendar

section Meaning

variable [Reader]

/-- **What is no timestamp**: anything but a text, a blank one, and one that is
refused in either notation. -/
def NoTimestamp : Option Json → Prop
  | some (.str s) =>
    isBlankText s = true ∨ Reader.standard s = .error .refused ∧ Reader.free s = .error .refused
  | _ => True

/-- **A timestamp means a moment.** The free form counts only for what the
standard notation refuses, and what is no timestamp means the epoch. -/
inductive Means : Option Json → Moment → Prop
  | standard {s : String} {m : LocalMoment} :
      isBlankText s = false → Reader.standard s = .ok m → Means (some (.str s)) m.moment
  | free {s : String} {m : LocalMoment} :
      isBlankText s = false → Reader.standard s = .error .refused → Reader.free s = .ok m →
      Means (some (.str s)) m.moment
  | none {stamp : Option Json} : NoTimestamp stamp → Means stamp .epoch

/-- **Reading a timestamp crashes.** -/
inductive Breaks : Option Json → Crash → Prop
  | standard {s : String} {c : Crash} :
      isBlankText s = false → Reader.standard s = .error (.crashed c) → Breaks (some (.str s)) c
  | free {s : String} {c : Crash} :
      isBlankText s = false → Reader.standard s = .error .refused →
      Reader.free s = .error (.crashed c) → Breaks (some (.str s)) c

variable {stamp : Option Json} {s : String} {m : Moment} {c : Crash}

theorem ofTimestamp_of_noTimestamp (h : NoTimestamp stamp) :
    Moment.ofTimestamp stamp = .ok .epoch := by
  unfold Moment.ofTimestamp
  split
  · next s =>
    split
    · rfl
    · next hblank =>
      obtain ⟨hstandard, hfree⟩ := h.resolve_left hblank
      rw [Moment.ofText, hstandard, hfree]
  · rfl

theorem ofTimestamp_of_means (h : Means stamp m) : Moment.ofTimestamp stamp = .ok m := by
  cases h with
  | standard hblank hm => rw [Moment.ofTimestamp, if_neg (by simp [hblank]), Moment.ofText, hm]
  | free hblank hrefused hm =>
    rw [Moment.ofTimestamp, if_neg (by simp [hblank]), Moment.ofText, hrefused, hm]
  | none hnone => exact ofTimestamp_of_noTimestamp hnone

theorem ofTimestamp_of_breaks (h : Breaks stamp c) : Moment.ofTimestamp stamp = .error c := by
  cases h with
  | standard hblank hc => rw [Moment.ofTimestamp, if_neg (by simp [hblank]), Moment.ofText, hc]
  | free hblank hrefused hc =>
    rw [Moment.ofTimestamp, if_neg (by simp [hblank]), Moment.ofText, hrefused, hc]

/-- **A timestamp means a moment, or else reading it crashes.** -/
theorem means_or_breaks (stamp : Option Json) : (∃ m, Means stamp m) ∨ ∃ c, Breaks stamp c := by
  by_cases hnone : NoTimestamp stamp
  · exact .inl ⟨_, .none hnone⟩
  · match stamp with
    | some (.str s) =>
      obtain ⟨hblank, hread⟩ := not_or.1 hnone
      have hblank : isBlankText s = false := by simpa using hblank
      cases hstandard : Reader.standard s with
      | ok m => exact .inl ⟨_, .standard hblank hstandard⟩
      | error fault =>
        cases fault with
        | crashed c => exact .inr ⟨c, .standard hblank hstandard⟩
        | refused =>
          cases hfree : Reader.free s with
          | ok m => exact .inl ⟨_, .free hblank hstandard hfree⟩
          | error fault =>
            cases fault with
            | crashed c => exact .inr ⟨c, .free hblank hstandard hfree⟩
            | refused => exact absurd ⟨hstandard, hfree⟩ hread
    | none | some .null | some (.bool _) | some (.int _) | some (.real _) | some (.arr _)
    | some (.obj _) => exact absurd trivial hnone

theorem ofTimestamp_eq_ok_iff : Moment.ofTimestamp stamp = .ok m ↔ Means stamp m := by
  refine ⟨fun h => ?_, ofTimestamp_of_means⟩
  rcases means_or_breaks stamp with ⟨n, hn⟩ | ⟨c, hc⟩
  · rw [ofTimestamp_of_means hn] at h
    cases h
    exact hn
  · rw [ofTimestamp_of_breaks hc] at h
    cases h

theorem ofTimestamp_eq_error_iff : Moment.ofTimestamp stamp = .error c ↔ Breaks stamp c := by
  refine ⟨fun h => ?_, ofTimestamp_of_breaks⟩
  rcases means_or_breaks stamp with ⟨n, hn⟩ | ⟨c', hc⟩
  · rw [ofTimestamp_of_means hn] at h
    cases h
  · rw [ofTimestamp_of_breaks hc] at h
    cases h
    exact hc

end Meaning

/-- Two readers read a text alike. -/
def ReadAlike (R R' : Reader) (s : String) : Prop :=
  R.standard s = R'.standard s ∧ R.free s = R'.free s

/-- **What two readers read alike means one thing to them.** -/
theorem ofTimestamp_congr {R R' : Reader} {stamp : Option Json}
    (h : ∀ s, stamp = some (.str s) → ReadAlike R R' s) :
    @Moment.ofTimestamp R stamp = @Moment.ofTimestamp R' stamp := by
  unfold Moment.ofTimestamp
  split
  · next s =>
    obtain ⟨hstandard, hfree⟩ := h s rfl
    simp only [Moment.ofText, hstandard, hfree]
  · rfl

end Bibliography.Calendar
