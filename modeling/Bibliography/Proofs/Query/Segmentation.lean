import Bibliography.Proofs.Query.Reading
/-!
# Nothing of a query is lost

The tokens of a query come from stretches of it that stand one after the
other and do not meet. What lies between them is a `Gap`: blanks, fields
without a value and quotes around nothing. `exists_spans_tokenize` puts it
together, and `Covers.pass` and `Covers.take` are the two steps of it.
-/

namespace Bibliography.Query

open Text (isBlank blank)

/-- A piece of a query that gives no token, where `after` follows it. -/
inductive Passed : List Char → List Char → Prop
  /-- A single blank. -/
  | blank {c : Char} {after : List Char} : isBlank c = true → Passed [c] after
  /-- A field's name and colon, right before a blank or the end. -/
  | emptyField (f : Field) {after : List Char} : Stops (!isBlank ·) after → Passed f.lead after
  /-- Quotes around nothing but blanks. -/
  | blankQuotes {v after : List Char} : blank v = true → Passed (inQuotes v) after

/-- A stretch of a query that is made of such pieces. -/
inductive Gap : List Char → List Char → Prop
  | nil {after : List Char} : Gap [] after
  | cons {piece gap after : List Char} :
      Passed piece (gap ++ after) → Gap gap after → Gap (piece ++ gap) after

/-- The place of a token: from one position up to another, and never
empty. -/
structure Span where
  start : Nat
  stop : Nat
  start_lt_stop : start < stop

/-- What stands at that place. -/
def Span.text (q : List Char) (s : Span) : List Char :=
  q.extract s.start s.stop

/-- The spans stand one after the other from position `i` on, and from
there to the end of the query all that is outside them is a gap. -/
def Covers (q : List Char) : Nat → List Span → Prop
  | i, [] => i ≤ q.length ∧ Gap (q.drop i) []
  | i, s :: spans =>
    i ≤ s.start ∧ Gap (q.extract i s.start) (q.drop s.start) ∧ s.stop ≤ q.length ∧
      Covers q s.stop spans

section Covers

variable {q cs piece after rest : List Char} {i : Nat} {spans : List Span}

theorem drop_add_of_drop_eq (hq : q.drop i = piece ++ after) : q.drop (i + piece.length) = after := by
  rw [← List.drop_drop, hq, List.drop_left]

theorem length_of_drop_eq (hi : i ≤ q.length) (hq : q.drop i = piece ++ after) :
    i + piece.length ≤ q.length := by
  have h := congrArg List.length hq
  rw [List.length_drop, List.length_append] at h
  omega

/-- A piece that is passed over makes the first gap longer. -/
theorem Covers.pass (hi : i ≤ q.length) (hq : q.drop i = piece ++ after) (hp : Passed piece after)
    (h : Covers q (i + piece.length) spans) : Covers q i spans := by
  have hafter := drop_add_of_drop_eq hq
  cases spans with
  | nil =>
    obtain ⟨-, hgap⟩ := h
    rw [hafter] at hgap
    refine ⟨hi, ?_⟩
    rw [hq]
    exact .cons (by rwa [List.append_nil]) hgap
  | cons s spans =>
    obtain ⟨hle, hgap, hstop, hrest⟩ := h
    refine ⟨by omega, ?_, hstop, hrest⟩
    -- the first gap ends where it did, so the piece comes in front of it
    have hsplit : q.extract i s.start = piece ++ q.extract (i + piece.length) s.start := by
      simp only [List.extract_eq_take_drop, hafter, hq]
      rw [List.take_append, List.take_of_length_le (by omega), Nat.sub_sub]
    rw [hsplit]
    refine .cons ?_ hgap
    -- what follows the piece is the old gap and all that was behind that
    have hjoin : q.extract (i + piece.length) s.start ++ q.drop s.start = after := by
      simp only [List.extract_eq_take_drop, hafter]
      rw [show q.drop s.start = after.drop (s.start - (i + piece.length)) by
        rw [← hafter, List.drop_drop, Nat.add_sub_cancel' hle]]
      exact List.take_append_drop _ _
    rwa [hjoin]

/-- A piece that becomes a token is a span of its own. -/
theorem Covers.take (hi : i ≤ q.length) (hq : q.drop i = piece ++ after) (hne : piece ≠ [])
    (h : Covers q (i + piece.length) spans) :
    ∃ s : Span, s.start = i ∧ s.stop = i + piece.length ∧ s.text q = piece ∧
      Covers q i (s :: spans) := by
  have hpos : 0 < piece.length := List.length_pos_iff.2 hne
  refine ⟨⟨i, i + piece.length, by omega⟩, rfl, rfl, ?_, Nat.le_refl i, ?_,
    length_of_drop_eq hi hq, h⟩
  · simp [Span.text, List.extract_eq_take_drop, hq]
  · simpa [List.extract_eq_take_drop] using Gap.nil

end Covers

section Tokens

variable {q cs rest : List Char} {t : Token} {ts : List Token}

/-- **What a reading takes without giving a token is passed over.** -/
theorem Reads.passed (h : Reads cs none rest) : ∃ piece, cs = piece ++ rest ∧ Passed piece rest := by
  cases h with
  | emptyField f hrest => exact ⟨f.lead, rfl, .emptyField f hrest⟩
  | blankQuotes hv => exact ⟨_, rfl, .blankQuotes hv⟩

/-- **And a token's source is all that its reading takes**, which is
something. -/
theorem Reads.source (h : Reads cs (some t) rest) :
    cs = t.raw.toList ++ rest ∧ t.raw.toList ≠ [] := by
  cases h with
  | fieldWord f _ _ => simp [lead_ne_nil]
  | fieldPhrase f _ => simp [lead_ne_nil]
  | phrase _ => simp [inQuotes]
  | word hw _ _ => simpa using hw.1
  | strayField f _ => simp [lead_ne_nil]
  | strayQuote _ _ _ => simp

/-- **Each token is read at a place of its own.** The induction runs over the
readings and for every position at which the rest of the query is the text that
they read. -/
theorem ReadsAll.exists_places (h : ReadsAll cs ts) :
    ∀ i, i ≤ q.length → q.drop i = cs →
      ∃ places : List (Token × Span),
        places.map (·.1) = ts ∧ Covers q i (places.map (·.2)) ∧
        ∀ p ∈ places, p.1.raw.toList = p.2.text q ∧
          Reads (q.drop p.2.start) (some p.1) (q.drop p.2.stop) := by
  induction h with
  | done =>
    intro i hi hq
    exact ⟨[], rfl, ⟨hi, hq ▸ .nil⟩, by simp⟩
  | @skip c cs ts hc _ ih =>
    intro i hi hq
    have hpiece : q.drop i = [c] ++ cs := hq
    obtain ⟨places, htokens, hcovers, hplaces⟩ :=
      ih (i + 1) (length_of_drop_eq hi hpiece) (drop_add_of_drop_eq hpiece)
    exact ⟨places, htokens, hcovers.pass hi hpiece (.blank hc), hplaces⟩
  | @read t cs rest ts hreads _ ih =>
    intro i hi hq
    cases t with
    | none =>
      obtain ⟨piece, rfl, hpassed⟩ := hreads.passed
      obtain ⟨places, htokens, hcovers, hplaces⟩ :=
        ih (i + piece.length) (length_of_drop_eq hi hq) (drop_add_of_drop_eq hq)
      exact ⟨places, htokens, hcovers.pass hi hq hpassed, hplaces⟩
    | some t =>
      obtain ⟨hsource, hne⟩ := hreads.source
      have hpiece : q.drop i = t.raw.toList ++ rest := hq.trans hsource
      obtain ⟨places, htokens, hcovers, hplaces⟩ :=
        ih (i + t.raw.toList.length) (length_of_drop_eq hi hpiece) (drop_add_of_drop_eq hpiece)
      obtain ⟨s, hstart, hstop, htext, hcovers⟩ := hcovers.take hi hpiece hne
      refine ⟨(t, s) :: places, by simp [htokens], hcovers, List.forall_mem_cons.2 ⟨?_, hplaces⟩⟩
      rw [hstart, hstop, hq, drop_add_of_drop_eq hpiece]
      exact ⟨htext.symm, hreads⟩

theorem ReadsAll.exists_spans (h : ReadsAll cs ts) (i : Nat) (hi : i ≤ q.length)
    (hq : q.drop i = cs) :
    ∃ spans : List Span,
      ts.map (·.raw.toList) = spans.map (·.text q) ∧ Covers q i spans := by
  obtain ⟨places, rfl, hcovers, hplaces⟩ := h.exists_places i hi hq
  refine ⟨places.map (·.2), ?_, hcovers⟩
  rw [List.map_map, List.map_map]
  exact List.map_congr_left fun p hp => (hplaces p hp).1

/-- **A query is cut up without loss.** Its tokens are read, in their order,
from stretches of it that are not empty and do not overlap, and whatever
lies outside of these is a blank, a field without a value, or quotes around
blanks. -/
theorem exists_spans_tokenize (q : String) :
    ∃ spans : List Span,
      (tokenize q).map (·.raw.toList) = spans.map (·.text q.toList) ∧ Covers q.toList 0 spans :=
  (readsAll_tokens q.toList).exists_spans 0 (Nat.zero_le _) rfl

end Tokens

end Bibliography.Query
