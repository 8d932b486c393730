import Bibliography.Proofs.Order.Sortable
/-!
# One order of records with different identifiers

Records that a field does not tell apart, nor the time of their creation, are
told apart by their identifiers. So where identifiers differ, places play no part
(`ahead_of_keys`) and of two records only one can go ahead (`Ahead.asymm`): what
comes out of sorting is determined by which records went in
(`map_sortByField_eq`). Nor does it depend on the reader, where what the records say
is read alike (`sortByField_congr`).
-/

namespace Bibliography.Order

section Records

theorem not_lt_of_lt {κ : Type} {c : κ → κ → Ordering} [Std.TransCmp c] {k k' : κ}
    (h : c k k' = .lt) : c k' k ≠ .lt := by
  rw [Std.OrientedCmp.gt_of_lt h]
  decide

variable [Calendar.Reader] {field : SortField} {direction : Direction} {a b : Record}
variable {tie tie' : Prop}

/-- **One record goes ahead of another**, wherever the two stand: by their keys
in the direction asked for, between equal keys as the later created, and then by the
identifier. -/
def Ahead (field : SortField) (direction : Direction) (a b : Record) : Prop :=
  ByKey field direction a b (ByKey .created .descending a b (a.idText < b.idText))

theorem ByKey.asymm (h : ByKey field direction a b tie) (htie : tie → ¬ tie') :
    ¬ ByKey field direction b a tie' := by
  rintro ⟨k', k, hb', ha', hback⟩
  obtain ⟨l, l', ha, hb, hforth⟩ := h
  obtain rfl := Except.ok.inj (ha'.symm.trans ha)
  obtain rfl := Except.ok.inj (hb'.symm.trans hb)
  rcases hforth with hlt | ⟨heq, htied⟩
  · rcases hback with hlt' | ⟨heq', -⟩
    · exact not_lt_of_lt hlt hlt'
    · rw [Std.OrientedCmp.eq_symm heq'] at hlt
      cases hlt
  · rcases hback with hlt' | ⟨-, htied'⟩
    · rw [Std.OrientedCmp.eq_symm heq] at hlt'
      cases hlt'
    · exact htie htied htied'

/-- **Only one of two records goes ahead of the other.** -/
theorem Ahead.asymm (h : Ahead field direction a b) : ¬ Ahead field direction b a :=
  ByKey.asymm h fun hcreation => hcreation.asymm fun hid => lt_asymm hid

end Records

section Sorting

variable [Calendar.Reader]
variable {α β : Type} {record : α → Record} {record' : β → Record} {field : SortField}
variable {direction : Direction} {l out : List α} {l' out' : List β} {x y : α × Nat}

/-- **Between records with different identifiers places play no part.** -/
theorem ahead_of_keys (hne : (record x.1).idText ≠ (record y.1).idText)
    (h : ByKey field direction (record x.1) (record y.1) (ByCreation record x y)) :
    Ahead field direction (record x.1) (record y.1) := by
  refine h.imp fun hcreation => hcreation.imp ?_
  rintro (hid | ⟨hid, -⟩)
  · exact compare_lt_iff_lt.1 hid
  · exact absurd (compare_eq_iff_eq.1 hid) hne

/-- So each record that comes out of sorting goes ahead of those behind it. -/
theorem pairwise_ahead_sortByField (h : sortByField record field direction l = .ok out)
    (hids : (l.map fun x => (record x).idText).Nodup) :
    (out.map record).Pairwise (Ahead field direction) := by
  have hapart : out.Pairwise fun x y => (record x).idText ≠ (record y).idText :=
    List.pairwise_map.1 (((sortByField_perm h).map _).nodup_iff.2 hids)
  obtain ⟨placed, rfl, -, hpair⟩ := arrangedBy_keys h
  rw [List.pairwise_map] at hapart
  rw [List.map_map, List.pairwise_map]
  exact (hpair.and hapart).imp fun ⟨hxy, hne⟩ => ahead_of_keys hne hxy

/-- **What comes out of sorting does not depend on how it went in.** Records with
different identifiers, however they come, are put in the same order. -/
theorem map_sortByField_eq (hrecords : (l'.map record').Perm (l.map record))
    (hids : (l.map fun x => (record x).idText).Nodup)
    (h : sortByField record field direction l = .ok out)
    (h' : sortByField record' field direction l' = .ok out') :
    out'.map record' = out.map record := by
  have hids' : (l'.map fun x => (record' x).idText).Nodup := by
    have hperm := (hrecords.map Record.idText).nodup_iff
    rw [List.map_map, List.map_map] at hperm
    exact hperm.2 hids
  have hperm : (out'.map record').Perm (out.map record) :=
    (((sortByField_perm h').map _).trans hrecords).trans ((sortByField_perm h).map _).symm
  refine hperm.eq_of_pairwise (fun a b _ _ hab hba => absurd hba hab.asymm)
    (pairwise_ahead_sortByField h' hids') (pairwise_ahead_sortByField h hids)

/-- **A list whose records go ahead of those behind them is what comes out** of sorting
the same records. -/
theorem sortByField_eq_of_pairwise {l out : List Record} (hsortable : Sortable id field l)
    (hids : (l.map Record.idText).Nodup) (hperm : out.Perm l)
    (hpair : out.Pairwise (Ahead field direction)) :
    sortByField id field direction l = .ok out := by
  obtain ⟨sorted, hsorted⟩ : ∃ sorted, sortByField id field direction l = .ok sorted :=
    exists_sortByField_iff.2 hsortable
  have hahead : sorted.Pairwise (Ahead field direction) := by
    simpa using pairwise_ahead_sortByField hsorted hids
  have hsame : sorted = out :=
    ((sortByField_perm hsorted).trans hperm.symm).eq_of_pairwise
      (fun a b _ _ hab hba => absurd hba hab.asymm) hahead hpair
  rw [hsorted, hsame]

end Sorting

/-! ## Two readers -/

section Readers

variable {R R' : Calendar.Reader} {α : Type} {record : α → Record} {field field' : SortField}
variable {direction : Direction} {l : List α}

theorem sortOnce_congr
    (h : ∀ x ∈ l, @Key.of R field (record x) = @Key.of R' field' (record x)) :
    @sortOnce R α record field direction l = @sortOnce R' α record field' direction l := by
  unfold sortOnce
  rw [mapM_congr fun x hx => by rw [h x hx]]

theorem keyOf_congr {r : Record} (h : Record.StampedAlike R R' r) :
    @Key.of R field r = @Key.of R' field r := by
  cases field with
  | created => simp only [Key.of, Record.created_congr h]
  | updated => simp only [Key.of, Record.updated_congr h]
  | published | author | title => rfl

/-- **What has the same keys is sorted alike.** -/
theorem sortByField_congr
    (hcreated : ∀ x ∈ l, @Key.of R .created (record x) = @Key.of R' .created (record x))
    (hfield : ∀ x ∈ l, @Key.of R field (record x) = @Key.of R' field' (record x)) :
    @sortByField R α record field direction l = @sortByField R' α record field' direction l := by
  unfold sortByField
  have hid : ∀ x ∈ sortKeyed compare (l.map fun x => ((record x).idText, x)), x ∈ l :=
    fun _ => mem_sortKeyed_map.1
  generalize sortKeyed compare (l.map fun x => ((record x).idText, x)) = byId at hid ⊢
  have hcreation : @sortOnce R α record .created .descending byId =
      @sortOnce R' α record .created .descending byId :=
    sortOnce_congr fun x hx => hcreated x (hid x hx)
  dsimp only
  rw [hcreation]
  cases hsorted : @sortOnce R' α record .created .descending byId with
  | error => rfl
  | ok byCreation =>
    exact sortOnce_congr fun x hx => hfield x (hid x ((sortOnce_perm hsorted).mem_iff.1 hx))

end Readers

end Bibliography.Order
