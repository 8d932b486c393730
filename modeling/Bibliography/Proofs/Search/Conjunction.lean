import Mathlib.Data.List.Basic
import Bibliography.Proofs.Query.Concatenation
import Bibliography.Proofs.Search.Hits
/-!
# Two queries at once

A query behind another one asks for both: it hits the records that both hit
(`hits_append`), and each hit is the two hits put together (`Hit.both`), the
stronger of which gives the strength (`rank_strength_both`). For the texts of
queries this is `exists_hits_both`.
-/

namespace Bibliography.Match

open Query (Token tokenize)

/-- Two hits of a record taken as one. -/
def Hit.both (h h' : Hit) : Hit :=
  ⟨h.entry, h.tokens ++ h'.tokens⟩

/-- The positions of the records that are hit. -/
def positions (hs : List Hit) : List Nat :=
  hs.map (·.entry.position)

section Tokens

variable {r : Record} {t : Token} {ts us : List Token} {found : List Found}
variable {x y : Option (List TokenMatch)} {e : Entry} {o o' : Option Hit}

theorem ofTokens_cons (ht : ofToken t r = .ok found) :
    ofTokens r (t :: ts) =
      if found.isEmpty then .ok none
      else (ofTokens r ts).map (·.map (⟨t, found⟩ :: ·)) := by
  rw [ofTokens, ht]
  rfl

/-- **Tokens are looked for one after the other**, so those of two lists are
found when both are. -/
theorem ofTokens_append (hx : ofTokens r ts = .ok x) (hy : ofTokens r us = .ok y) :
    ofTokens r (ts ++ us) = .ok (x.bind fun ms => y.map (ms ++ ·)) := by
  induction ts generalizing x with
  | nil =>
    obtain rfl : x = some [] := by simpa [ofTokens] using hx.symm
    simp [hy]
  | cons t ts ih =>
    obtain ⟨found, hfound, -⟩ := bind_eq_ok_iff.1 hx
    rw [ofTokens_cons hfound] at hx
    rw [List.cons_append, ofTokens_cons hfound]
    split at hx
    · next hempty =>
      cases hx
      rw [if_pos hempty]
      rfl
    · next hfull =>
      obtain ⟨rest, hrest, rfl⟩ := map_eq_ok_iff.1 hx
      rw [if_neg hfull, ih hrest]
      cases rest <;> cases y <;> rfl

theorem hit?_of_ne_nil (hts : ts ≠ []) :
    hit? ts e = (ofTokens e.record ts).map (·.map fun ms => ⟨e, ms⟩) := by
  rw [hit?, if_neg (by simpa using hts)]

/-- A record is a hit of both queries when it is one of each. -/
theorem hit?_append (hts : ts ≠ []) (hus : us ≠ []) (ho : hit? ts e = .ok o)
    (ho' : hit? us e = .ok o') : hit? (ts ++ us) e = .ok (o.bind fun h => o'.map h.both) := by
  rw [hit?_of_ne_nil hts, map_eq_ok_iff] at ho
  rw [hit?_of_ne_nil hus, map_eq_ok_iff] at ho'
  obtain ⟨x, hx, rfl⟩ := ho
  obtain ⟨y, hy, rfl⟩ := ho'
  rw [hit?_of_ne_nil (by simp [hts]), ofTokens_append hx hy]
  cases x <;> cases y <;> rfl

end Tokens

section Strength

variable {s : Strength} {m : TokenMatch} {ms : List TokenMatch} {h h' : Hit}

theorem rank_raise : (Hit.raise s m).rank = max s.rank m.strength.rank := by
  unfold Hit.raise TokenMatch.strength
  split <;> cases s <;> simp_all [Strength.rank]

/-- Tokens that go on from a strength reach the higher of that and their own. -/
theorem rank_foldl_raise :
    (ms.foldl Hit.raise s).rank = max s.rank (ms.foldl Hit.raise .none).rank := by
  induction ms generalizing s with
  | nil => simp [Strength.rank]
  | cons m ms ih =>
    rw [List.foldl_cons, List.foldl_cons, ih, ih (s := Hit.raise .none m), rank_raise, rank_raise]
    simp only [Strength.rank]
    omega

/-- **Of two hits taken as one the stronger counts.** -/
theorem rank_strength_both : (h.both h').strength.rank = max h.strength.rank h'.strength.rank := by
  simp only [Hit.strength, Hit.both, List.foldl_append]
  exact rank_foldl_raise

end Strength

section Lists

variable {ts us : List Token} {es : List Entry} {xs ys : List Hit} {e : Entry} {h : Hit}

/-- The hits of two queries for one record, taken as one. -/
def bothOf? (ts us : List Token) (e : Entry) : Option Hit :=
  (hitOf? ts e).bind fun h => (hitOf? us e).map h.both

theorem bothOf?_eq_some_iff :
    bothOf? ts us e = some h ↔
      ∃ x, hitOf? ts e = some x ∧ ∃ y, hitOf? us e = some y ∧ x.both y = h := by
  simp only [bothOf?, Option.bind_eq_some_iff, Option.map_eq_some_iff]

theorem isSome_bothOf? :
    (bothOf? ts us e).isSome = ((hitOf? ts e).isSome && (hitOf? us e).isSome) := by
  unfold bothOf?
  cases hitOf? ts e <;> simp

/-- **Two queries at once hit what both hit.** -/
theorem hits_append (hts : ts ≠ []) (hus : us ≠ []) (hxs : hits ts es = .ok xs)
    (hys : hits us es = .ok ys) : hits (ts ++ us) es = .ok (es.filterMap (bothOf? ts us)) := by
  obtain ⟨hjudged, -⟩ := hits_eq_ok_iff.1 hxs
  obtain ⟨hjudged', -⟩ := hits_eq_ok_iff.1 hys
  have happend : ∀ e ∈ es, hit? (ts ++ us) e = .ok (bothOf? ts us e) := by
    intro e he
    obtain ⟨o, ho⟩ := hjudged e he
    obtain ⟨o', ho'⟩ := hjudged' e he
    rw [hit?_append hts hus ho ho']
    simp [bothOf?, hitOf?, ho, ho', Except.toOption]
  rw [hits_eq_ok_iff]
  refine ⟨fun e he => ⟨_, happend e he⟩, List.filterMap_congr fun e he => ?_⟩
  simp [hitOf?, happend e he, Except.toOption]

variable {library : List Record}

theorem mem_positions_iff (hxs : hits ts (entries library) = .ok xs) (he : e ∈ entries library) :
    e.position ∈ positions xs ↔ (hitOf? ts e).isSome := by
  obtain ⟨-, rfl⟩ := hits_eq_ok_iff.1 hxs
  simp only [positions, List.mem_map, List.mem_filterMap, Option.isSome_iff_exists]
  constructor
  · rintro ⟨h, ⟨e', he', hfound⟩, hposition⟩
    rw [entry_of_hitOf? hfound] at hposition
    exact ⟨h, eq_of_position_eq he' he hposition ▸ hfound⟩
  · rintro ⟨h, hfound⟩
    exact ⟨h, ⟨e, he, hfound⟩, by rw [entry_of_hitOf? hfound]⟩

/-- **Two queries in one ask for both.** Let `a` and `b` hold tokens, and let
`a` have its quotes in pairs or `b` none. Where records can be searched for
each of them, they can be searched for `a` and `b` with a blank between. That
hits, in the order of the library, the records that both hit; each hit has
found what the hits of `a` and then of `b` have, and is as strong as the
stronger one. -/
theorem exists_hits_both {a b : String}
    (hquotes : a.toList.count '"' % 2 = 0 ∨ '"' ∉ b.toList)
    (ha : tokenize a ≠ []) (hb : tokenize b ≠ [])
    (hxs : hits (tokenize a) (entries library) = .ok xs)
    (hys : hits (tokenize b) (entries library) = .ok ys) :
    ∃ hs, hits (tokenize (a ++ " " ++ b)) (entries library) = .ok hs ∧
      hs.map (·.entry) = (entries library).filter
        (fun e => e.position ∈ positions xs ∧ e.position ∈ positions ys) ∧
      ∀ h ∈ hs, ∃ x ∈ xs, ∃ y ∈ ys, x.entry = h.entry ∧ y.entry = h.entry ∧
        h.tokens = x.tokens ++ y.tokens ∧
        h.strength.rank = max x.strength.rank y.strength.rank := by
  have htokens : tokenize (a ++ " " ++ b) = tokenize a ++ tokenize b := by
    have hlist : (a ++ " " ++ b).toList = a.toList ++ ' ' :: b.toList := by simp
    rw [tokenize, hlist]
    exact Query.tokens_append_blank (by decide) hquotes
  rw [htokens, hits_append ha hb hxs hys]
  refine ⟨_, rfl, ?_, fun h hmem => ?_⟩
  · have hentry : ∀ e h, bothOf? (tokenize a) (tokenize b) e = some h → h.entry = e := by
      intro e h hboth
      obtain ⟨x, hx, y, -, rfl⟩ := bothOf?_eq_some_iff.1 hboth
      have hentry : x.entry = e := entry_of_hitOf? hx
      exact hentry
    rw [map_entry_filterMap hentry]
    refine List.filter_congr fun e he => ?_
    simp only [isSome_bothOf?, mem_positions_iff hxs he, mem_positions_iff hys he,
      Bool.decide_and, Bool.decide_eq_true]
  · obtain ⟨e, he, hboth⟩ := List.mem_filterMap.1 hmem
    obtain ⟨x, hx, y, hy, rfl⟩ := bothOf?_eq_some_iff.1 hboth
    obtain ⟨-, rfl⟩ := hits_eq_ok_iff.1 hxs
    obtain ⟨-, rfl⟩ := hits_eq_ok_iff.1 hys
    refine ⟨x, List.mem_filterMap.2 ⟨e, he, hx⟩, y, List.mem_filterMap.2 ⟨e, he, hy⟩, rfl, ?_, rfl,
      rank_strength_both⟩
    exact (entry_of_hitOf? hy).trans (entry_of_hitOf? hx).symm

/-- One address at two years, and one of the years at another address. -/
def twoYears : List Record :=
  [⟨[("URL", .str "u:v"), ("issued", .obj [("date-parts", .arr [.arr [.int 2019]])])]⟩,
    ⟨[("URL", .str "u:v"), ("issued", .obj [("date-parts", .arr [.arr [.int 2020]])])]⟩,
    ⟨[("issued", .obj [("date-parts", .arr [.arr [.str "2020"]])])]⟩]

theorem exists_hits_both_twoYears :
    ("url:u:v".toList.count '"' % 2 = 0 ∨ '"' ∉ "year:2020".toList) ∧
      tokenize "url:u:v" ≠ [] ∧ tokenize "year:2020" ≠ [] ∧
      ∃ xs ys, hits (tokenize "url:u:v") (entries twoYears) = .ok xs ∧
        hits (tokenize "year:2020") (entries twoYears) = .ok ys ∧
        positions xs = [0, 1] ∧ positions ys = [1, 2] ∧
        ∃ hs, hits (tokenize ("url:u:v" ++ " " ++ "year:2020")) (entries twoYears) = .ok hs ∧
          hs.map (·.entry) = (entries twoYears).filter
            (fun e => e.position ∈ positions xs ∧ e.position ∈ positions ys) ∧
          ∀ h ∈ hs, ∃ x ∈ xs, ∃ y ∈ ys, x.entry = h.entry ∧ y.entry = h.entry ∧
            h.tokens = x.tokens ++ y.tokens ∧
            h.strength.rank = max x.strength.rank y.strength.rank := by
  have ha : tokenize "url:u:v" = [⟨"url:u:v", "u:v", some .url, false⟩] := by decide +kernel
  have hb : tokenize "year:2020" = [⟨"year:2020", "2020", some .year, false⟩] := by decide +kernel
  have hxs : ∃ xs, hits (tokenize "url:u:v") (entries twoYears) = .ok xs ∧ positions xs = [0, 1] := by
    rw [ha]
    exact ⟨_, rfl, rfl⟩
  have hys : ∃ ys, hits (tokenize "year:2020") (entries twoYears) = .ok ys ∧
      positions ys = [1, 2] := by
    rw [hb]
    exact ⟨_, rfl, rfl⟩
  obtain ⟨xs, hxs, hx⟩ := hxs
  obtain ⟨ys, hys, hy⟩ := hys
  have hne : tokenize "url:u:v" ≠ [] := by simp [ha]
  have hne' : tokenize "year:2020" ≠ [] := by simp [hb]
  exact ⟨by decide, hne, hne', xs, ys, hxs, hys, hx, hy,
    exists_hits_both (by decide) hne hne' hxs hys⟩

end Lists

end Bibliography.Match
