import Bibliography.Library
import Bibliography.Proofs.Json.Parser
/-!
# When a library is loaded

A library is loaded from a file just where its bytes are the text of an array
of objects, each with an identifier that is a text; its records are then the
items of the array, in order and unchanged. Where it is not loaded, it is
refused as no library, with three exceptions: bytes that are no text, an integer
of too many digits that is met before anything else is wrong, and a file that
something keeps from being looked at.
-/

namespace Bibliography

theorem fromUTF8?_eq_some_iff {data : ByteArray} {text : String} :
    String.fromUTF8? data = some text ↔ data = text.toUTF8 := by
  unfold String.fromUTF8?
  constructor
  · intro h
    split at h
    · exact congrArg String.toByteArray (Option.some.inj h)
    · cases h
  · rintro rfl
    rw [String.toUTF8_eq_toByteArray, dif_pos text.isValidUTF8]
    rfl

namespace Place

theorem text_eq_ok_iff {place : Place} {text : String} :
    place.text = .ok text ↔ place = .file text.toUTF8 := by
  cases place with
  | missing => exact ⟨nofun, nofun⟩
  | directory => exact ⟨nofun, nofun⟩
  | barred e => exact ⟨nofun, nofun⟩
  | file data =>
    rw [Place.text, Place.file.injEq, ← fromUTF8?_eq_some_iff]
    cases String.fromUTF8? data <;> simp

theorem text_eq_notText_iff {place : Place} :
    place.text = .error .notText ↔
      ∃ data, place = .file data ∧ ¬ ∃ text : String, data = text.toUTF8 := by
  cases place with
  | missing => exact ⟨nofun, nofun⟩
  | directory => exact ⟨nofun, nofun⟩
  | barred e => exact ⟨nofun, nofun⟩
  | file data =>
    simp only [Place.text, Place.file.injEq, ← fromUTF8?_eq_some_iff, exists_eq_left']
    cases String.fromUTF8? data <;> simp

theorem text_eq_barred_iff {place : Place} {e : FileError} :
    place.text = .error (.barred e) ↔ place = .barred e := by
  cases place with
  | missing => exact ⟨nofun, nofun⟩
  | directory => exact ⟨nofun, nofun⟩
  | barred e' => simp [Place.text]
  | file data =>
    rw [Place.text]
    cases String.fromUTF8? data <;> simp

end Place

namespace Library

variable {source path : String} {records : List Record}

/-- An identifier that is a text. -/
def HasId (r : Record) : Prop :=
  ∃ id, r.str? "id" = some id

theorem record_eq_ok_iff {index : Nat} {v : Json} {r : Record} :
    record source index v = .ok r ↔ v = .obj r.members ∧ HasId r := by
  cases v with
  | obj members =>
    rw [record]
    constructor
    · intro h
      split at h
      · next id hid =>
        obtain rfl := Except.ok.inj h
        exact ⟨rfl, id, hid⟩
      · cases h
    · rintro ⟨hmembers, id, hid⟩
      obtain rfl := Json.obj.inj hmembers
      rw [show (Json.Members.get? "id" r.members).bind Json.str? = some id from hid]
  | _ => exact ⟨nofun, fun h => nomatch h.1⟩

/-- Items are read as the records that they are the objects of, whatever the index
of the first one is. -/
theorem mapM_record_eq_ok_iff {items : List Json} {start : Nat} :
    ((items.zipIdx start).mapM fun (item, index) => record source index item) = .ok records ↔
      items = (records.map fun r => .obj r.members) ∧ ∀ r ∈ records, HasId r := by
  induction items generalizing start records with
  | nil =>
    rw [mapM_eq_ok_iff]
    cases records <;> simp
  | cons item items ih =>
    rw [mapM_eq_ok_iff]
    cases records with
    | nil => simp
    | cons r records =>
      have hrest := @ih records (start + 1)
      rw [mapM_eq_ok_iff] at hrest
      simp only [List.zipIdx_cons, List.map_cons, List.cons.injEq, record_eq_ok_iff, hrest,
        List.forall_mem_cons]
      tauto

theorem ofJson_eq_ok_iff {v : Json} :
    ofJson source v = .ok records ↔ v = toJson records ∧ ∀ r ∈ records, HasId r := by
  cases v with
  | arr items => rw [ofJson, mapM_record_eq_ok_iff, toJson, Json.arr.injEq]
  | _ => exact ⟨fun h => (by cases h), fun h => (by cases h.1)⟩

/-- **The bytes of a library**: the text of an array of objects that have
identifiers. -/
def IsLibrary (data : ByteArray) (records : List Record) : Prop :=
  ∃ text : String, data = text.toUTF8 ∧
    Json.IsText text.toList (.arr (records.map fun r => .obj r.members)) ∧
    ∀ r ∈ records, HasId r

theorem ofText_eq_ok_iff {text : String} :
    ofText path text = .ok records ↔
      Json.IsText text.toList (toJson records) ∧ ∀ r ∈ records, HasId r := by
  rw [← Json.parse_eq_ok_iff, ofText]
  split
  · next v hv => rw [mapError_eq_ok_iff, ofJson_eq_ok_iff, hv, Except.ok.injEq]
  · next hv => simp [hv]
  · next count hv => simp [hv]

/-- A value that is read is refused as no library, if it is. -/
theorem mapError_library_ne {x : Except LibraryError (List Record)} {e : LoadError}
    (h : x.mapError .library = .error e) : ∃ l, e = .library l := by
  cases x with
  | error l => exact ⟨l, (Except.error.inj h).symm⟩
  | ok => cases h

theorem ofText_eq_tooManyDigits_iff {text : String} {n : Nat} :
    ofText path text = .error (.tooManyDigits n) ↔
      Json.Overlong (Json.Token.ofText text.toList) n := by
  rw [← Json.parse_eq_tooManyDigits_iff, ofText]
  split
  · next v hv =>
    rw [hv]
    refine ⟨fun h => ?_, nofun⟩
    obtain ⟨l, hl⟩ := mapError_library_ne h
    cases hl
  · next hv => simp [hv]
  · next count hv => simp [hv]

theorem ofText_ne_notText {text : String} : ofText path text ≠ .error .notText := by
  rw [ofText]
  split
  · intro h
    obtain ⟨l, hl⟩ := mapError_library_ne h
    cases hl
  · exact nofun
  · exact nofun

theorem ofText_ne_file {text : String} {e : FileError} :
    ofText path text ≠ .error (.file e) := by
  rw [ofText]
  split
  · intro h
    obtain ⟨l, hl⟩ := mapError_library_ne h
    cases hl
  · exact nofun
  · exact nofun

theorem load_eq_iff (place : Place) (outcome : Except LoadError (List Record))
    (hnot : outcome ≠ .error .notText) (hfound : outcome ≠ .error (.library (.notFound path)))
    (hfile : ∀ e, outcome ≠ .error (.file e)) :
    load path place = outcome ↔
      ∃ text : String, place = .file text.toUTF8 ∧ ofText path text = outcome := by
  simp only [← Place.text_eq_ok_iff, load]
  cases place.text with
  | ok text => simp
  | error e => cases e <;> simp [hnot.symm, hfound.symm, (hfile _).symm]

theorem load_eq_ok_iff {place : Place} :
    load path place = .ok records ↔
      ∃ text : String, place = .file text.toUTF8 ∧ Json.IsText text.toList (toJson records) ∧
        ∀ r ∈ records, HasId r := by
  rw [load_eq_iff place (.ok records) nofun nofun nofun]
  simp only [ofText_eq_ok_iff]

/-- **When a library is loaded, and when it is refused for something else than
being no library**: its bytes are no text, or they are a text in which an
integer of too many digits is met, or something keeps from looking at the file. -/
theorem load_iff (path : String) (place : Place) :
    (∀ records, load path place = .ok records ↔
      ∃ data, place = .file data ∧ IsLibrary data records) ∧
    (load path place = .error .notText ↔
      ∃ data, place = .file data ∧ ¬ ∃ text : String, data = text.toUTF8) ∧
    (∀ n, load path place = .error (.tooManyDigits n) ↔
      ∃ text : String, place = .file text.toUTF8 ∧
        Json.Overlong (Json.Token.ofText text.toList) n) ∧
    ∀ e, load path place = .error (.file e) ↔ place = .barred e := by
  refine ⟨fun records => ?_, ?_, fun n => ?_, fun e => ?_⟩
  · rw [load_eq_ok_iff]
    constructor
    · rintro ⟨text, rfl, htext, hid⟩
      exact ⟨_, rfl, text, rfl, htext, hid⟩
    · rintro ⟨_, rfl, text, rfl, htext, hid⟩
      exact ⟨text, rfl, htext, hid⟩
  · rw [← Place.text_eq_notText_iff, load]
    cases place.text with
    | ok text => simp [ofText_ne_notText]
    | error e => cases e <;> simp
  · rw [load_eq_iff place (.error (.tooManyDigits n)) nofun nofun nofun]
    simp only [ofText_eq_tooManyDigits_iff]
  · rw [← Place.text_eq_barred_iff, load]
    cases place.text with
    | ok text => simp [ofText_ne_file]
    | error e' => cases e' <;> simp

/-- Not every file is loaded or refused as no library: one byte that is no text
is enough. -/
theorem not_loaded_or_refused :
    ¬ ∀ (path : String) (place : Place), (∃ records, load path place = .ok records) ∨
      ∃ e, load path place = .error (.library e) := by
  have hbyte : String.fromUTF8? ⟨#[0xff]⟩ = none := by decide +kernel
  have hload : load "library.json" (.file ⟨#[0xff]⟩) = .error .notText := by
    rw [load, Place.text, hbyte]
  intro h
  rcases h "library.json" (.file ⟨#[0xff]⟩) with ⟨records, hrecords⟩ | ⟨e, he⟩
  · rw [hload] at hrecords
    cases hrecords
  · rw [hload] at he
    cases he

end Library

end Bibliography
