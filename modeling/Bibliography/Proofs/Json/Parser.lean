import Bibliography.Proofs.Fallible
import Bibliography.Proofs.Json.Lexer
/-!
# Reading JSON values

The reader of values and the grammar agree (`parse_eq_ok_iff`): a value is
read from a text just where the text is JSON for it.
-/

namespace Bibliography.Json

variable {ts us : List Token} {t : Token} {v : Json} {stack : List Frame}
  {s s' : List Frame × Await}

/-- Takes one token after another. -/
def Token.run (s : List Frame × Await) (ts : List Token) : Except ReadError (List Frame × Await) :=
  ts.foldlM Token.step s

theorem run_cons : Token.run s (t :: ts) = (Token.step s t >>= fun s => Token.run s ts) :=
  List.foldlM_cons

theorem run_append : Token.run s (ts ++ us) = (Token.run s ts >>= fun s => Token.run s us) :=
  List.foldlM_append

theorem run_of_step (h : Token.step s t = .ok s') : Token.run s (t :: ts) = Token.run s' ts := by
  rw [run_cons, h]
  rfl

/-! ## Values are read from their tokens -/

theorem separated_cons (part part' : List Token) (parts : List (List Token)) :
    separated (part :: part' :: parts) = part ++ .comma :: separated (part' :: parts) := by
  simp [separated, List.intercalate_cons_cons]

theorem separated_singleton (part : List Token) : separated [part] = part := by
  simp [separated]

/-- That a value is read from tokens wherever a value may stand. -/
def Reads (ts : List Token) (v : Json) : Prop :=
  ∀ stack rest, Token.run (stack, .value) (ts ++ rest) = Token.run (stack, .after v) rest

/-- A first item is read like any other value, unless it is missing. -/
theorem step_firstItem (h : t ≠ .closeArr) :
    Token.step (stack, .firstItem) t = t.startValue stack := by
  rw [Token.step]
  exact fun _ hclose _ => h hclose

theorem Phrase.exists_cons (h : Phrase ts v) : ∃ t tail, ts = t :: tail ∧ t ≠ .closeArr := by
  cases h with
  | scalar => exact ⟨_, _, rfl, nofun⟩
  | str => exact ⟨_, _, rfl, nofun⟩
  | integer => exact ⟨_, _, rfl, nofun⟩
  | arr => exact ⟨_, _, rfl, nofun⟩
  | obj => exact ⟨_, _, rfl, nofun⟩

theorem exists_separated_cons {item : List Token × Json} {items : List (List Token × Json)}
    (h : ∀ i ∈ item :: items, Phrase i.1 i.2) :
    ∃ t tail, separated ((item :: items).map (·.1)) = t :: tail ∧ t ≠ .closeArr := by
  obtain ⟨t, tail, htokens, hclose⟩ := (h item List.mem_cons_self).exists_cons
  cases items with
  | nil => exact ⟨t, tail, by rw [List.map_singleton, separated_singleton, htokens], hclose⟩
  | cons next items =>
    rw [List.map_cons, List.map_cons, separated_cons, htokens]
    exact ⟨t, _, rfl, hclose⟩

/-- The items of an array are read one after the other. -/
theorem run_items {item : List Token × Json} {items : List (List Token × Json)}
    (h : ∀ i ∈ item :: items, Reads i.1 i.2) (finished : List Json) (rest : List Token) :
    Token.run (.arr finished :: stack, .value)
        (separated ((item :: items).map (·.1)) ++ .closeArr :: rest) =
      Token.run (stack, .after (.arr (finished.reverse ++ (item :: items).map (·.2)))) rest := by
  induction items generalizing item finished with
  | nil =>
    rw [List.map_singleton, separated_singleton, h item List.mem_cons_self, run_of_step rfl]
    simp
  | cons next items ih =>
    obtain ⟨hitem, hrest⟩ := List.forall_mem_cons.1 h
    rw [List.map_cons, List.map_cons, separated_cons, List.append_assoc, hitem, List.cons_append,
      run_of_step rfl, ← List.map_cons, ih hrest]
    simp

/-- The members of an object are read one after the other. -/
theorem run_members {m : Member} {members : List Member}
    (h : ∀ n ∈ m :: members, Reads n.tokens n.value) (finished : List (String × Json)) (b : Bool)
    (rest : List Token) :
    Token.run (stack, .key finished b)
        (separated ((m :: members).map Member.phrase) ++ .closeObj :: rest) =
      Token.run (stack, .after
        (.obj (Members.ofList (finished.reverse ++ (m :: members).map Member.entry)))) rest := by
  induction members generalizing m finished b with
  | nil =>
    rw [List.map_singleton, separated_singleton, Member.phrase, List.cons_append, List.cons_append,
      run_of_step rfl, run_of_step rfl, h m List.mem_cons_self, run_of_step rfl]
    simp [Member.entry]
  | cons next members ih =>
    obtain ⟨hm, hrest⟩ := List.forall_mem_cons.1 h
    rw [List.map_cons, List.map_cons, separated_cons, List.append_assoc, Member.phrase,
      List.cons_append, List.cons_append, run_of_step rfl, run_of_step rfl, hm, List.cons_append,
      run_of_step rfl, ← List.map_cons, ih hrest]
    simp [Member.entry]

/-- **The value that tokens make up is read from them.** -/
theorem Phrase.reads (h : Phrase ts v) : Reads ts v := by
  induction h with
  | scalar => exact fun stack rest => run_of_step rfl
  | str => exact fun stack rest => run_of_step rfl
  | @integer negative ds hlength =>
    intro stack rest
    have hstep : Token.step (stack, .value) (.integer negative ds) =
        .ok (stack, .after (.int (integerOf negative ds))) := by
      rw [Token.step, Token.startValue, if_neg (Nat.not_lt.2 hlength)]
      rfl
    exact run_of_step hstep
  | arr items hitems ih =>
    intro stack rest
    rw [arrPhrase, List.cons_append, run_of_step rfl, List.append_assoc, List.singleton_append]
    cases items with
    | nil => exact run_of_step rfl
    | cons item items =>
      -- the reader still allows the end there, but the first item is none
      have hfirst : Token.run (.arr [] :: stack, .firstItem)
            (separated ((item :: items).map (·.1)) ++ .closeArr :: rest) =
          Token.run (.arr [] :: stack, .value)
            (separated ((item :: items).map (·.1)) ++ .closeArr :: rest) := by
        obtain ⟨t, tail, htokens, hclose⟩ := exists_separated_cons hitems
        rw [htokens, List.cons_append, run_cons, run_cons, step_firstItem hclose]
        rfl
      rw [hfirst, run_items ih]
      rfl
  | obj members hmembers ih =>
    intro stack rest
    rw [objPhrase, List.cons_append, run_of_step rfl, List.append_assoc, List.singleton_append]
    cases members with
    | nil => exact run_of_step rfl
    | cons m members =>
      rw [run_members ih]
      rfl

/-! ## What has been read makes up a value -/

/-- Tokens of things with a comma behind each. -/
def ended (parts : List (List Token)) : List Token :=
  parts.flatMap (· ++ [.comma])

theorem separated_concat (parts : List (List Token)) (last : List Token) :
    separated (parts ++ [last]) = ended parts ++ last := by
  induction parts with
  | nil => exact separated_singleton last
  | cons part parts ih =>
    obtain ⟨next, rest, hrest⟩ : ∃ next rest, parts ++ [last] = next :: rest :=
      List.exists_cons_of_ne_nil (by simp)
    rw [List.cons_append, hrest, separated_cons, ← hrest, ih]
    simp [ended]

/-- The tokens of an object up to the key of its next member. -/
def objStart (members : List Member) : List Token :=
  .openObj :: ended (members.map Member.phrase)

/-- **The tokens that have opened what is open.** -/
inductive Opened : List Frame → List Token → Prop
  | nil : Opened [] []
  | arr {stack : List Frame} {ts : List Token} (items : List (List Token × Json))
      (h : Opened stack ts) (hitems : ∀ i ∈ items, Phrase i.1 i.2) :
      Opened (.arr (items.map (·.2)).reverse :: stack)
        (ts ++ .openArr :: ended (items.map (·.1)))
  | obj {stack : List Frame} {ts : List Token} (members : List Member) (key : String)
      (h : Opened stack ts) (hmembers : ∀ m ∈ members, Phrase m.tokens m.value) :
      Opened (.obj (members.map Member.entry).reverse key :: stack)
        (ts ++ (objStart members ++ [.str key, .colon]))

/-- **The tokens that have led to a state of the reader.** -/
inductive Begun : List Frame × Await → List Token → Prop
  | value {stack : List Frame} {ts : List Token} (h : Opened stack ts) : Begun (stack, .value) ts
  | firstItem {stack : List Frame} {ts : List Token} (h : Opened stack ts) :
      Begun (.arr [] :: stack, .firstItem) (ts ++ [.openArr])
  | after {stack : List Frame} {ts us : List Token} {v : Json} (h : Opened stack ts)
      (hv : Phrase us v) : Begun (stack, .after v) (ts ++ us)
  | key {stack : List Frame} {ts : List Token} (members : List Member) (h : Opened stack ts)
      (hmembers : ∀ m ∈ members, Phrase m.tokens m.value) :
      Begun (stack, .key (members.map Member.entry).reverse members.isEmpty)
        (ts ++ objStart members)
  | colon {stack : List Frame} {ts : List Token} (members : List Member) (key : String)
      (h : Opened stack ts) (hmembers : ∀ m ∈ members, Phrase m.tokens m.value) :
      Begun (stack, .colon (members.map Member.entry).reverse key)
        (ts ++ (objStart members ++ [.str key]))

theorem begun_startValue (h : Opened stack ts) (hstep : t.startValue stack = .ok s') :
    Begun s' (ts ++ [t]) := by
  cases t with
  | scalar v =>
    obtain rfl := Except.ok.inj hstep
    exact .after h (.scalar v)
  | str x =>
    obtain rfl := Except.ok.inj hstep
    exact .after h (.str x)
  | integer negative ds =>
    rw [Token.startValue] at hstep
    split at hstep
    · cases hstep
    · next hlength =>
      obtain rfl := Except.ok.inj hstep
      exact .after h (.integer negative (Nat.not_lt.1 hlength))
  | openArr =>
    obtain rfl := Except.ok.inj hstep
    exact .firstItem h
  | openObj =>
    obtain rfl := Except.ok.inj hstep
    exact .key [] h nofun
  | closeArr => cases hstep
  | closeObj => cases hstep
  | comma => cases hstep
  | colon => cases hstep
  | junk => cases hstep

theorem ended_concat (parts : List (List Token)) (last : List Token) :
    ended (parts ++ [last]) = ended parts ++ (last ++ [.comma]) := by
  simp [ended]

/-- What follows a complete value ends what is open, or goes on with it. -/
theorem begun_after (h : Opened stack ts) (hv : Phrase us v)
    (hstep : Token.step (stack, .after v) t = .ok s') : Begun s' (ts ++ us ++ [t]) := by
  -- the value is the last item or member of what was opened last
  cases h with
  | nil => cases t <;> cases hstep
  | @arr stack ts items h hitems =>
    have hall : ∀ i ∈ items ++ [(us, v)], Phrase i.1 i.2 :=
      List.forall_mem_append.2 ⟨hitems, List.forall_mem_singleton.2 hv⟩
    cases t with
    | comma =>
      obtain rfl := Except.ok.inj hstep
      have hnext := Begun.value (.arr _ h hall)
      simpa [ended_concat] using hnext
    | closeArr =>
      obtain rfl := Except.ok.inj hstep
      have hnext := Begun.after h (.arr _ hall)
      simpa [arrPhrase, separated_concat] using hnext
    | _ => cases hstep
  | @obj stack ts members key h hmembers =>
    have hall : ∀ m ∈ members ++ [Member.mk key us v], Phrase m.tokens m.value :=
      List.forall_mem_append.2 ⟨hmembers, List.forall_mem_singleton.2 hv⟩
    cases t with
    | comma =>
      obtain rfl := Except.ok.inj hstep
      have hnext := Begun.key _ h hall
      have hmore : (members ++ [Member.mk key us v]).isEmpty = false := by simp
      rw [hmore] at hnext
      simpa [objStart, ended_concat, Member.entry, Member.phrase] using hnext
    | closeObj =>
      obtain rfl := Except.ok.inj hstep
      have hnext := Begun.after h (.obj _ hall)
      simpa [objStart, objPhrase, separated_concat, Member.entry, Member.phrase] using hnext
    | _ => cases hstep

/-- **One more token leads on.** -/
theorem Begun.step (h : Begun s ts) (hstep : Token.step s t = .ok s') : Begun s' (ts ++ [t]) := by
  cases h with
  | value h => exact begun_startValue h hstep
  | firstItem h =>
    by_cases hclose : t = .closeArr
    · subst hclose
      obtain rfl := Except.ok.inj hstep
      have hnext := Begun.after h (.arr [] nofun)
      simpa [arrPhrase, separated] using hnext
    · rw [step_firstItem hclose] at hstep
      exact begun_startValue (.arr [] h nofun) hstep
  | after h hv => exact begun_after h hv hstep
  | key members h hmembers =>
    cases t with
    | str key =>
      obtain rfl := Except.ok.inj hstep
      have hnext := Begun.colon members key h hmembers
      simpa using hnext
    | closeObj =>
      cases members with
      | nil =>
        obtain rfl := Except.ok.inj hstep
        have hnext := Begun.after h (.obj [] nofun)
        simpa [objStart, objPhrase, separated, ended, Members.ofList] using hnext
      | cons => cases hstep
    | _ => cases hstep
  | colon members key h hmembers =>
    cases t with
    | colon =>
      obtain rfl := Except.ok.inj hstep
      have hnext := Begun.value (.obj members key h hmembers)
      simpa using hnext
    | _ => cases hstep

theorem Begun.run (h : Begun s ts) (hrun : Token.run s us = .ok s') : Begun s' (ts ++ us) := by
  -- what has been read so far grows by one token at a time
  induction us generalizing s ts with
  | nil =>
    obtain rfl := Except.ok.inj hrun
    rwa [List.append_nil]
  | cons t us ih =>
    rw [run_cons, bind_eq_ok_iff] at hrun
    obtain ⟨next, hstep, hrest⟩ := hrun
    have hnext := ih (h.step hstep) hrest
    rwa [List.append_assoc, List.singleton_append] at hnext

/-- **The tokens that a value is read from make it up.** -/
theorem phrase_of_run (h : Token.run ([], .value) ts = .ok ([], .after v)) : Phrase ts v := by
  have hbegun := Begun.run (.value .nil) h
  rw [List.nil_append] at hbegun
  cases hbegun with
  | after hopen hv =>
    cases hopen
    exact hv

theorem run_eq_ok_iff : Token.run ([], .value) ts = .ok ([], .after v) ↔ Phrase ts v := by
  refine ⟨phrase_of_run, fun h => ?_⟩
  have hread := h.reads [] []
  rwa [List.append_nil] at hread

/-! ## Texts -/

theorem ofTokens_eq_ok_iff : ofTokens ts = .ok v ↔ Phrase ts v := by
  rw [← run_eq_ok_iff, ofTokens, Token.run]
  split
  · next w hrun => simp [hrun]
  · next hother hrun =>
    simp only [hrun, reduceCtorEq, false_iff, Except.ok.injEq]
    intro heq
    exact hother v heq
  · next e hrun => simp [hrun]

/-- Whether a value may start. -/
def Await.startsValue : Await → Bool
  | value | firstItem => true
  | _ => false

/-- A number or a literal is taken only where a value may start. -/
theorem step_atom {state : Await} (ht : t.isAtom = true) :
    Token.step (stack, state) t =
      if state.startsValue then t.startValue stack else .error .malformed := by
  cases state with
  | value => rfl
  | firstItem =>
    refine step_firstItem ?_
    rintro rfl
    cases ht
  | after v =>
    cases t with
    | scalar | integer => rcases stack with _ | ⟨_ | _, _⟩ <;> rfl
    | _ => cases ht
  | key members mayClose =>
    cases t with
    | scalar | integer => cases mayClose <;> rfl
    | _ => cases ht
  | colon members key =>
    cases t with
    | scalar | integer => rfl
    | _ => cases ht

theorem exists_after_of_step (ht : t.isAtom = true) (h : Token.step s t = .ok s') :
    ∃ stack v, s' = (stack, .after v) := by
  rw [step_atom ht] at h
  split at h
  · cases t with
    | scalar v => exact ⟨_, _, (Except.ok.inj h).symm⟩
    | integer negative ds =>
      rw [Token.startValue] at h
      split at h
      · cases h
      · exact ⟨_, _, (Except.ok.inj h).symm⟩
    | _ => cases ht
  · cases h

theorem step_junk : Token.step s .junk = .error .malformed := by
  obtain ⟨stack, state⟩ := s
  cases state with
  | value => rfl
  | firstItem => exact step_firstItem nofun
  | after => rcases stack with _ | ⟨_ | _, _⟩ <;> rfl
  | key _ mayClose => cases mayClose <;> rfl
  | colon => rfl

/-- A value is not followed by another value. -/
theorem apart_of_run (h : Token.run s ts = .ok s') : ts.IsChain Token.Apart := by
  induction ts generalizing s with
  | nil => exact .nil
  | cons t ts ih =>
    rw [run_cons, bind_eq_ok_iff] at h
    obtain ⟨next, hstep, hrest⟩ := h
    cases ts with
    | nil => exact .singleton t
    | cons u ts =>
      refine .cons_cons ?_ (ih hrest)
      rw [run_cons, bind_eq_ok_iff] at hrest
      obtain ⟨_, hstep', -⟩ := hrest
      cases ht : t.isAtom with
      | false => exact .inl ht
      | true =>
        obtain ⟨stack, v, rfl⟩ := exists_after_of_step ht hstep
        refine .inr (Bool.eq_false_iff.2 fun hu => ?_)
        rw [step_atom hu] at hstep'
        cases hstep'

/-- Reading stops at what is no token. -/
theorem junk_not_mem_of_run (h : Token.run s ts = .ok s') : .junk ∉ ts := by
  induction ts generalizing s with
  | nil => exact List.not_mem_nil
  | cons t ts ih =>
    rw [run_cons, bind_eq_ok_iff] at h
    obtain ⟨next, hstep, hrest⟩ := h
    refine List.not_mem_cons_of_ne_of_not_mem ?_ (ih hrest)
    rintro rfl
    rw [step_junk] at hstep
    cases hstep

/-- **A value is read from a text just where the text is JSON for it.** -/
theorem parse_eq_ok_iff {text : String} : parse text = .ok v ↔ IsText text.toList v := by
  rw [parse, ofTokens_eq_ok_iff]
  constructor
  · intro h
    exact ⟨_, Token.writes_ofText (junk_not_mem_of_run (run_eq_ok_iff.2 h)), h⟩
  · rintro ⟨ts, hwrites, h⟩
    rwa [Token.ofText_of_writes hwrites (apart_of_run (run_eq_ok_iff.2 h))]

/-! ## Integers of too many digits -/

/-- Whatever is open can be closed behind a value. -/
theorem Opened.exists_phrase (h : Opened stack ts) (hv : Phrase us v) :
    ∃ more w, Phrase (ts ++ us ++ more) w := by
  induction h generalizing us v with
  | nil => exact ⟨[], v, by simpa using hv⟩
  | @arr stack ts items h hitems ih =>
    have hall : ∀ i ∈ items ++ [(us, v)], Phrase i.1 i.2 :=
      List.forall_mem_append.2 ⟨hitems, List.forall_mem_singleton.2 hv⟩
    obtain ⟨more, w, hw⟩ := ih (.arr _ hall)
    refine ⟨.closeArr :: more, w, ?_⟩
    simpa [arrPhrase, separated_concat] using hw
  | @obj stack ts members key h hmembers ih =>
    have hall : ∀ m ∈ members ++ [Member.mk key us v], Phrase m.tokens m.value :=
      List.forall_mem_append.2 ⟨hmembers, List.forall_mem_singleton.2 hv⟩
    obtain ⟨more, w, hw⟩ := ih (.obj _ hall)
    refine ⟨.closeObj :: more, w, ?_⟩
    simpa [objStart, objPhrase, separated_concat, Member.phrase] using hw

/-- **Tokens that lead to where a value may start**: they begin those of a value
that goes on with another one. -/
theorem exists_phrase_null_iff :
    (∃ more v, Phrase (ts ++ .scalar .null :: more) v) ↔
      ∃ stack state, Token.run ([], .value) ts = .ok (stack, state) ∧ state.startsValue = true := by
  constructor
  · rintro ⟨more, v, h⟩
    -- a null is taken where a value may start, and nowhere else
    have hrun := run_eq_ok_iff.2 h
    rw [run_append, bind_eq_ok_iff] at hrun
    obtain ⟨⟨stack, state⟩, hbefore, hrest⟩ := hrun
    rw [run_cons, bind_eq_ok_iff] at hrest
    obtain ⟨_, hstep, -⟩ := hrest
    rw [step_atom rfl] at hstep
    refine ⟨stack, state, hbefore, ?_⟩
    by_contra hstart
    rw [if_neg hstart] at hstep
    cases hstep
  · rintro ⟨stack, state, hrun, hstart⟩
    have hbegun := Begun.run (.value .nil) hrun
    rw [List.nil_append] at hbegun
    have hopen : Opened stack ts := by
      cases hbegun with
      | value h => exact h
      | firstItem h => exact .arr [] h nofun
      | after | key | colon => cases hstart
    obtain ⟨more, w, hw⟩ := hopen.exists_phrase (.scalar .null)
    exact ⟨more, w, by simpa using hw⟩

/-- Tokens that are read up to an integer of too many digits: its place is one
where a value may start. -/
def Overlong (ts : List Token) (n : Nat) : Prop :=
  ∃ before negative ds after, ts = before ++ .integer negative ds :: after ∧ ds.length = n ∧
    Number.maxDigits < n ∧ ∃ more v, Phrase (before ++ .scalar .null :: more) v

theorem exists_step_of_run_error {e : ReadError} (h : Token.run s ts = .error e) :
    ∃ before t after s', ts = before ++ t :: after ∧ Token.run s before = .ok s' ∧
      Token.step s' t = .error e := by
  induction ts generalizing s with
  | nil => cases h
  | cons t ts ih =>
    cases hstep : Token.step s t with
    | error e' =>
      rw [run_cons, hstep] at h
      obtain rfl := Except.error.inj h
      exact ⟨[], t, ts, s, rfl, rfl, hstep⟩
    | ok next =>
      rw [run_of_step hstep] at h
      obtain ⟨before, u, after, last, rfl, hbefore, hlast⟩ := ih h
      exact ⟨t :: before, u, after, last, rfl, by rw [run_of_step hstep, hbefore], hlast⟩

theorem startValue_eq_tooManyDigits_iff {n : Nat} :
    t.startValue stack = .error (.tooManyDigits n) ↔
      ∃ negative ds, t = .integer negative ds ∧ ds.length = n ∧ Number.maxDigits < n := by
  constructor
  · intro h
    cases t with
    | integer negative ds =>
      rw [Token.startValue] at h
      split at h
      · next hlong =>
        obtain rfl := ReadError.tooManyDigits.inj (Except.error.inj h)
        exact ⟨negative, ds, rfl, rfl, hlong⟩
      · cases h
    | _ => cases h
  · rintro ⟨negative, ds, rfl, rfl, hlong⟩
    rw [Token.startValue, if_pos hlong]

theorem step_eq_tooManyDigits_iff {state : Await} {n : Nat} :
    Token.step (stack, state) t = .error (.tooManyDigits n) ↔
      state.startsValue = true ∧ t.startValue stack = .error (.tooManyDigits n) := by
  constructor
  · intro h
    generalize hs : (stack, state) = s at h
    unfold Token.step at h
    split at h
    case h_1 | h_3 =>
      obtain ⟨rfl, rfl⟩ := Prod.mk.inj hs
      exact ⟨rfl, h⟩
    all_goals cases h
  · rintro ⟨hstart, h⟩
    obtain ⟨negative, ds, rfl, -⟩ := startValue_eq_tooManyDigits_iff.1 h
    rw [step_atom rfl, if_pos hstart, h]

/-- **When an integer stops the reading.** -/
theorem parse_eq_tooManyDigits_iff {text : String} {n : Nat} :
    parse text = .error (.tooManyDigits n) ↔ Overlong (Token.ofText text.toList) n := by
  rw [parse, ofTokens]
  constructor
  · intro h
    split at h
    · cases h
    · cases h
    · next e hrun =>
      obtain rfl := Except.error.inj h
      obtain ⟨before, t, after, ⟨stack, state⟩, hsplit, hbefore, hstep⟩ :=
        exists_step_of_run_error hrun
      obtain ⟨hstart, hvalue⟩ := step_eq_tooManyDigits_iff.1 hstep
      obtain ⟨negative, ds, rfl, hlength, hlong⟩ := startValue_eq_tooManyDigits_iff.1 hvalue
      exact ⟨before, negative, ds, after, hsplit, hlength, hlong,
        exists_phrase_null_iff.2 ⟨stack, state, hbefore, hstart⟩⟩
  · rintro ⟨before, negative, ds, after, hsplit, hlength, hlong, hphrase⟩
    obtain ⟨stack, state, hbefore, hstart⟩ := exists_phrase_null_iff.1 hphrase
    have hvalue : (Token.integer negative ds).startValue stack = .error (.tooManyDigits n) :=
      startValue_eq_tooManyDigits_iff.2 ⟨negative, ds, rfl, hlength, hlong⟩
    have hstep := step_eq_tooManyDigits_iff.2 ⟨hstart, hvalue⟩
    have hrun : Token.run ([], .value) (Token.ofText text.toList) = .error (.tooManyDigits n) := by
      rw [hsplit, run_append, hbefore]
      show Token.run (stack, state) _ = _
      rw [run_cons, hstep]
      rfl
    rw [Token.run] at hrun
    rw [hrun]

end Bibliography.Json
