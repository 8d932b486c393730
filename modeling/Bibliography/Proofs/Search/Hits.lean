import Bibliography.Proofs.Fallible
import Bibliography.Search.Basic
/-!
# The hits among the records

The records of a library are told apart by their positions
(`eq_of_position_eq`), and what a query hits among records is what it hits in
each of them (`hits_eq_ok_iff`).
-/

namespace Bibliography

theorem mem_entries_iff {library : List Record} {e : Entry} :
    e ∈ entries library ↔ library[e.position]? = some e.record := by
  simp only [entries, List.mem_map, Prod.exists, List.mem_zipIdx_iff_getElem?]
  constructor
  · rintro ⟨_, _, hget, rfl⟩
    exact hget
  · exact fun hget => ⟨_, _, hget, rfl⟩

theorem eq_of_position_eq {library : List Record} {e e' : Entry} (he : e ∈ entries library)
    (he' : e' ∈ entries library) (h : e.position = e'.position) : e = e' := by
  rw [mem_entries_iff] at he he'
  rw [h, he'] at he
  cases e
  cases e'
  cases h
  cases he
  rfl

namespace Match

/-- The hit of a record; nothing if it is none, or where that cannot be told. -/
def hitOf? (tokens : List Query.Token) (e : Entry) : Option Hit :=
  (hit? tokens e).toOption.join

section Hits

variable {tokens : List Query.Token} {es : List Entry} {e : Entry} {hs : List Hit} {h : Hit}

theorem hitOf?_eq_some_iff : hitOf? tokens e = some h ↔ hit? tokens e = .ok (some h) := by
  unfold hitOf?
  cases hit? tokens e <;> simp [Except.toOption]

theorem entry_of_hit? (hhit : hit? tokens e = .ok (some h)) : h.entry = e := by
  unfold hit? at hhit
  split at hhit
  · simp at hhit
  · obtain ⟨found, -, hfound⟩ := map_eq_ok_iff.1 hhit
    obtain ⟨ms, -, rfl⟩ := Option.map_eq_some_iff.1 hfound
    rfl

theorem entry_of_hitOf? (h' : hitOf? tokens e = some h) : h.entry = e :=
  entry_of_hit? (hitOf?_eq_some_iff.1 h')

/-- Where each record gives a hit of itself or none, the records that are hit
are those that give one. -/
theorem map_entry_filterMap {f : Entry → Option Hit} (hf : ∀ e h, f e = some h → h.entry = e) :
    (es.filterMap f).map (·.entry) = es.filter fun e => (f e).isSome := by
  induction es with
  | nil => rfl
  | cons e es ih =>
    cases he : f e with
    | none => simpa [he] using ih
    | some h => simpa [he, hf e h he] using ih

/-- **The hits are found when each record can be judged**, and they are those
of the records one by one. -/
theorem hits_eq_ok_iff :
    hits tokens es = .ok hs ↔
      (∀ e ∈ es, ∃ found, hit? tokens e = .ok found) ∧ hs = es.filterMap (hitOf? tokens) := by
  simp only [hits, bind_eq_ok_iff, mapM_eq_ok_iff, pure, Except.pure, Except.ok.injEq]
  constructor
  · rintro ⟨found, hfound, rfl⟩
    have hjudged : es.map (hitOf? tokens) = found := by
      calc es.map (hitOf? tokens)
          = (es.map (hit? tokens)).map (·.toOption.join) := by rw [List.map_map]; rfl
        _ = found := by simp [hfound, Function.comp_def, Except.toOption]
    refine ⟨fun e he => ?_, ?_⟩
    · have hmem : hit? tokens e ∈ found.map .ok := hfound ▸ List.mem_map_of_mem he
      obtain ⟨o, -, ho⟩ := List.mem_map.1 hmem
      exact ⟨o, ho.symm⟩
    · rw [← hjudged, List.filterMap_map]
      rfl
  · rintro ⟨hall, rfl⟩
    refine ⟨es.map (hitOf? tokens), ?_, ?_⟩
    · rw [List.map_map]
      refine List.map_congr_left fun e he => ?_
      obtain ⟨o, ho⟩ := hall e he
      simp [hitOf?, ho, Except.toOption]
    · rw [List.filterMap_map]
      rfl

theorem hit?_of_mem (hhits : hits tokens es = .ok hs) (hmem : h ∈ hs) :
    h.entry ∈ es ∧ hit? tokens h.entry = .ok (some h) := by
  obtain ⟨-, rfl⟩ := hits_eq_ok_iff.1 hhits
  obtain ⟨e, he, hfound⟩ := List.mem_filterMap.1 hmem
  rw [hitOf?_eq_some_iff] at hfound
  rw [entry_of_hit? hfound]
  exact ⟨he, hfound⟩

end Hits

end Match

end Bibliography
