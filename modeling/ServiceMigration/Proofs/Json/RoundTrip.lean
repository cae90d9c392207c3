import ServiceMigration.Proofs.Json.Number
import ServiceMigration.Proofs.Value.Document
/-!
# A document that was written is read back

Reading goes over the written text once: `readPieces` undoes the escapes, and each of the readers
stops where what was written ends, whatever comes after it.  The fuel is counted in characters, as
in `parse`.  Main statements: `parse_layout`, and `layout_injective` for documents with numbers of
any length.
-/

namespace ServiceMigration

/-- What JSON has a form for, with at most `limit` digits in a whole number. -/
def Scalar.FitsJson (limit : Nat) : Scalar → Prop
  | .int i => (Decimal.digits i.natAbs).length ≤ limit
  | .moment _ => False
  | _ => True

namespace Json

open Value

variable {limit fuel level : Nat} {rest : List Char}

/-! ### Strings -/

theorem hex_control : ∀ n < 0x20,
    Text.hex 4 n = ['0', '0', Nat.digitChar (n / 16), Nat.digitChar (n % 16)] := by decide

theorem hex4?_control : ∀ n < 0x20,
    hex4? '0' '0' (Nat.digitChar (n / 16)) (Nat.digitChar (n % 16)) = some n := by decide

/-- An escape is read as the character that it stands for; its four digits only if the text goes
on. -/
theorem readPieces_escapeChar (start : List Char) (c : Char) (hrest : rest ≠ []) :
    readPieces start (escapeChar c ++ rest) = push (.char c) (readPieces start rest) := by
  unfold escapeChar
  split
  · next h =>
    rcases Bool.or_eq_true_iff.mp h with h | h <;> (obtain rfl := eq_of_beq h; rfl)
  split
  · next h => obtain rfl := eq_of_beq h; rfl
  split
  · next h => obtain rfl := eq_of_beq h; rfl
  split
  · next h => obtain rfl := eq_of_beq h; rfl
  split
  · next h => obtain rfl := eq_of_beq h; rfl
  split
  · next h => obtain rfl := eq_of_beq h; rfl
  split
  · next h =>
    obtain ⟨x, xs, rfl⟩ := List.exists_cons_of_ne_nil hrest
    have hpiece : Piece.ofNumber c.toNat = .char c := by
      have hhigh : isHighHalf c.toNat = false := by simp [isHighHalf]; omega
      have hlow : isLowHalf c.toNat = false := by simp [isLowHalf]; omega
      simp [Piece.ofNumber, hhigh, hlow]
    simp only [hex_control _ h, List.cons_append, List.nil_append]
    rw [readPieces.eq_def]
    simp only [hex4?_control _ h, hpiece]
  · next hspecial _ _ _ _ _ hcontrol =>
    have hquote : c ≠ '"' := by rintro rfl; exact hspecial rfl
    have hslash : c ≠ '\\' := by rintro rfl; exact hspecial rfl
    simp [readPieces, hslash, hcontrol]

theorem readPieces_append_quote (start cs : List Char) :
    readPieces start (cs.flatMap escapeChar ++ '"' :: rest) = .ok (cs.map .char, rest) := by
  induction cs with
  | nil => rfl
  | cons c cs ih =>
    rw [List.flatMap_cons, List.append_assoc, readPieces_escapeChar start c (by simp), ih]
    rfl

theorem joinPieces_map_char (cs : List Char) : joinPieces (cs.map .char) = cs := by
  induction cs with
  | nil => rfl
  | cons c cs ih => rw [List.map_cons, joinPieces, ih]

theorem readString_writeString (start : List Char) (s : String) :
    readString start (s.toList.flatMap escapeChar ++ '"' :: rest) = .ok (s, rest) := by
  rw [readString, readPieces_append_quote]
  simp only
  rw [joinPieces_map_char, String.ofList_toList]

/-! ### Between the tokens -/

theorem skip_cons {c : Char} (h : isSpace c = false) : skip (c :: rest) = c :: rest := by
  rw [skip, List.dropWhile_cons_of_neg (by simp [h])]

theorem skip_blank : skip (' ' :: rest) = skip rest := rfl

theorem skip_newline (level : Nat) : skip (newline level ++ rest) = skip rest := by
  have hspaces : ∀ c ∈ newline level, isSpace c = true := by
    intro c hc
    rcases List.mem_cons.mp hc with rfl | hblank
    · rfl
    · rw [List.eq_of_mem_replicate hblank]
      rfl
  rw [skip, List.dropWhile_append_of_pos hspaces, skip]

def OpensValue (c : Char) : Prop := BeginsScalar c ∨ c ∈ ['"', '[', '{']

instance : DecidablePred OpensValue := fun _ => inferInstanceAs (Decidable (_ ∨ _))

theorem OpensValue.ne {c d : Char} (h : OpensValue c) (hd : ¬ OpensValue d) : c ≠ d := by
  rintro rfl
  exact hd h

theorem OpensValue.isSpace_eq {c : Char} (h : OpensValue c) : isSpace c = false := by
  have hne : c ≠ ' ' ∧ c ≠ '\t' ∧ c ≠ '\n' ∧ c ≠ '\r' :=
    ⟨h.ne (by decide), h.ne (by decide), h.ne (by decide), h.ne (by decide)⟩
  simp [isSpace, hne]

def BeginsValue (cs : List Char) : Prop := ∃ c t, cs = c :: t ∧ OpensValue c

theorem BeginsValue.skip_eq {cs : List Char} (h : BeginsValue cs) :
    skip (cs ++ rest) = cs ++ rest := by
  obtain ⟨c, t, rfl, hc⟩ := h
  exact skip_cons hc.isSpace_eq

theorem BeginsValue.append {cs : List Char} (h : BeginsValue cs) : BeginsValue (cs ++ rest) := by
  obtain ⟨c, t, rfl, hc⟩ := h
  exact ⟨c, t ++ rest, rfl, hc⟩

theorem BeginsValue.length_pos {cs : List Char} (h : BeginsValue cs) : 0 < cs.length := by
  obtain ⟨c, t, rfl, -⟩ := h
  exact Nat.succ_pos _

/-! ### Scalars -/

/-- A value that begins as a scalar is none of the other kinds. -/
theorem readValue_of_beginsScalar {c : Char} (hc : BeginsScalar c) (cs : List Char) :
    readValue limit (fuel + 1) (c :: cs) = (readScalar limit (c :: cs)).map fun r =>
      (.scalar r.1, r.2) := by
  unfold readValue
  split
  case h_4 => cases readScalar limit (c :: cs) <;> rfl
  all_goals
    next heq =>
    obtain ⟨rfl, -⟩ := List.cons.inj heq
    exact absurd hc (by decide)

theorem readValue_of_readScalar {s : Scalar} {cs : List Char}
    (h : readScalar limit cs = .ok (s, rest)) :
    readValue limit (fuel + 1) cs = .ok (.scalar s, rest) := by
  obtain ⟨c, t, rfl, hc⟩ := beginsScalar_of_readScalar h
  rw [readValue_of_beginsScalar hc, h]
  rfl

theorem readValue_of_isDigit {c : Char} (hc : c.isDigit = true) (cs : List Char) :
    readValue limit (fuel + 1) (c :: cs) = (readNumber limit (c :: cs)).map fun r =>
      (.scalar r.1, r.2) := by
  rw [readValue_of_beginsScalar (.inl hc), readScalar_of_isDigit hc]

theorem readValue_writeString (s : String) :
    readValue limit (fuel + 1) (writeString s ++ rest) = .ok (.str s, rest) := by
  have htext : writeString s ++ rest = '"' :: (s.toList.flatMap escapeChar ++ '"' :: rest) := by
    simp [writeString]
  rw [htext, readValue, readString_writeString]

theorem readScalar_writeScalar {s : Scalar} (hs : s.FitsJson limit) (htext : ∀ t, s ≠ .str t)
    (hrest : EndsNumber rest) : readScalar limit (writeScalar s ++ rest) = .ok (s, rest) := by
  cases s with
  | null => rfl
  | bool b => cases b <;> rfl
  | int i => exact readScalar_writeInt hs hrest
  | float d => exact readScalar_ofDouble d hrest
  | str t => exact absurd rfl (htext t)
  | moment m => exact absurd hs id

/-! ### Values -/

/-- The written form of a value is read as the value, with fuel for two calls a character, and its
beginning is not mistaken for something else. -/
structure ReadsBack (limit : Nat) (v : Value) : Prop where
  begins : ∀ level, BeginsValue (write level v)
  reads : ∀ level fuel rest, EndsNumber rest → 2 * (write level v).length ≤ fuel →
    readValue limit fuel (write level v ++ rest) = .ok (v, rest)

theorem readsBack_scalar {s : Scalar} (hs : s.FitsJson limit) : ReadsBack limit (.scalar s) := by
  by_cases htext : ∃ t, s = .str t
  · obtain ⟨t, rfl⟩ := htext
    have hbegins : ∀ level, BeginsValue (write level (.scalar (.str t))) := fun _ =>
      ⟨'"', _, rfl, by decide⟩
    refine ⟨hbegins, ?_⟩
    intro level fuel rest _ hfuel
    obtain ⟨fuel, rfl⟩ : ∃ n, fuel = n + 1 :=
      ⟨fuel - 1, by have := (hbegins level).length_pos; omega⟩
    exact readValue_writeString t
  · have hread : ∀ rest, EndsNumber rest → readScalar limit (writeScalar s ++ rest) =
        .ok (s, rest) :=
      fun _ => readScalar_writeScalar hs fun t ht => htext ⟨t, ht⟩
    have hbegins : ∀ level, BeginsValue (write level (.scalar s)) := by
      intro level
      obtain ⟨c, t, hcs, hc⟩ := beginsScalar_of_readScalar (hread [] endsNumber_nil)
      rw [List.append_nil] at hcs
      exact ⟨c, t, by rw [write, hcs], .inl hc⟩
    refine ⟨hbegins, ?_⟩
    intro level fuel rest hrest hfuel
    obtain ⟨fuel, rfl⟩ : ∃ n, fuel = n + 1 :=
      ⟨fuel - 1, by have := (hbegins level).length_pos; omega⟩
    rw [write]
    exact readValue_of_readScalar (hread rest hrest)

theorem endsNumber_newline (level : Nat) : EndsNumber (newline level ++ rest) :=
  endsNumber_cons (by decide)

theorem writeItems_cons (level : Nat) (v : Value) {items : List Value} (h : items ≠ []) :
    writeItems level (v :: items) = write level v ++
      ',' :: (newline level ++ writeItems level items) := by
  rw [writeItems]
  exact h

theorem writeEntries_cons (level : Nat) (e : Scalar × Value) {entries : List (Scalar × Value)}
    (h : entries ≠ []) :
    writeEntries level (e :: entries) = writeKey e.1 ++ ':' :: ' ' ::
      (write level e.2 ++ ',' :: (newline level ++ writeEntries level entries)) := by
  rw [writeEntries]
  exact h

theorem beginsValue_writeItems {v : Value} (hv : ReadsBack limit v) (items : List Value)
    (level : Nat) : BeginsValue (writeItems level (v :: items)) := by
  cases items with
  | nil =>
    rw [writeItems]
    exact hv.begins level
  | cons w items =>
    rw [writeItems_cons level v (List.cons_ne_nil _ _)]
    exact (hv.begins level).append

theorem readItems_writeItems {items : List Value} (hne : items ≠ [])
    (hitems : ∀ v ∈ items, ReadsBack limit v) (level before : Nat)
    (hfuel : 2 * (writeItems level items).length + 1 ≤ fuel) :
    readItems limit fuel (writeItems level items ++ (newline before ++ ']' :: rest)) =
      .ok (items, rest) := by
  induction items generalizing fuel with
  | nil => exact absurd rfl hne
  | cons v items ih =>
    obtain ⟨hv, hrest⟩ := List.forall_mem_cons.mp hitems
    obtain ⟨fuel, rfl⟩ : ∃ n, fuel = n + 1 := ⟨fuel - 1, by omega⟩
    cases items with
    | nil =>
      rw [writeItems] at hfuel ⊢
      rw [readItems, hv.reads level fuel _ (endsNumber_newline before) (by omega)]
      simp only [skip_newline]
      rw [skip_cons (by decide)]
      rfl
    | cons w items =>
      have hw := beginsValue_writeItems (hrest w (List.mem_cons_self ..)) items level
      rw [writeItems_cons level v (List.cons_ne_nil _ _)] at hfuel ⊢
      simp only [List.length_append, List.length_cons] at hfuel
      rw [List.append_assoc, List.cons_append, List.append_assoc, readItems,
        hv.reads level fuel _ (endsNumber_cons (by decide)) (by omega)]
      simp only
      rw [skip_cons (by decide)]
      simp only [skip_newline]
      rw [hw.skip_eq, ih (List.cons_ne_nil _ _) hrest (by omega)]

/-- An entry up to the text of its value. -/
theorem readEntries_key {k : String} {v : Value} {text more : List Char}
    (hbegins : BeginsValue text) (hread : readValue limit fuel (text ++ more) = .ok (v, more)) :
    readEntries limit (fuel + 1) (writeKey (.str k) ++ ':' :: ' ' :: (text ++ more)) =
      match skip more with
      | '}' :: rest => .ok ([(.str k, v)], rest)
      | ',' :: rest =>
        match readEntries limit fuel (skip rest) with
        | .ok (entries, rest) => .ok ((.str k, v) :: entries, rest)
        | .error f => .error f
      | rest => .error (.malformed .comma rest) := by
  have htext : writeKey (.str k) ++ ':' :: ' ' :: (text ++ more) =
      '"' :: (k.toList.flatMap escapeChar ++ '"' :: (':' :: ' ' :: (text ++ more))) := by
    simp [writeKey, writeString]
  generalize hr : readEntries limit (fuel + 1) _ = r
  rw [htext, readEntries, readString_writeString] at hr
  simp only at hr
  rw [skip_cons (by decide)] at hr
  simp only [skip_blank, hbegins.skip_eq, hread] at hr
  exact hr.symm

theorem beginsValue_writeEntries {e : Scalar × Value} (htext : ∃ k, e.1 = .str k)
    (entries : List (Scalar × Value)) (level : Nat) :
      BeginsValue (writeEntries level (e :: entries)) := by
  obtain ⟨k, v⟩ := e
  obtain ⟨k, rfl⟩ := htext
  have hkey : BeginsValue (writeKey (.str k)) := ⟨'"', _, rfl, by decide⟩
  cases entries with
  | nil =>
    rw [writeEntries]
    exact hkey.append
  | cons f entries =>
    rw [writeEntries_cons level _ (List.cons_ne_nil _ _)]
    exact hkey.append

theorem readEntries_writeEntries {entries : List (Scalar × Value)} (hne : entries ≠ [])
    (htext : ∀ e ∈ entries, ∃ k, e.1 = .str k) (hentries : ∀ e ∈ entries, ReadsBack limit e.2)
    (level before : Nat) (hfuel : 2 * (writeEntries level entries).length + 1 ≤ fuel) :
    readEntries limit fuel (writeEntries level entries ++ (newline before ++ '}' :: rest)) =
      .ok (entries, rest) := by
  induction entries generalizing fuel with
  | nil => exact absurd rfl hne
  | cons e entries ih =>
    obtain ⟨hv, hrest⟩ := List.forall_mem_cons.mp hentries
    obtain ⟨⟨k, hk⟩, htexts⟩ := List.forall_mem_cons.mp htext
    obtain ⟨key, v⟩ := e
    obtain rfl : key = .str k := hk
    have hv : ReadsBack limit v := hv
    obtain ⟨fuel, rfl⟩ : ∃ n, fuel = n + 1 := ⟨fuel - 1, by omega⟩
    cases entries with
    | nil =>
      rw [writeEntries] at hfuel ⊢
      simp only [List.length_append, List.length_cons] at hfuel
      rw [List.append_assoc, List.cons_append, List.cons_append, readEntries_key (hv.begins level)
        (hv.reads level fuel _ (endsNumber_newline before) (by omega)), skip_newline,
          skip_cons (by decide)]
      rfl
    | cons f entries =>
      have hf := beginsValue_writeEntries (htexts f (List.mem_cons_self ..)) entries level
      rw [writeEntries_cons level _ (List.cons_ne_nil _ _)] at hfuel ⊢
      simp only [List.length_append, List.length_cons] at hfuel
      rw [List.append_assoc, List.cons_append, List.cons_append, List.append_assoc,
        List.cons_append, List.append_assoc, readEntries_key (hv.begins level)
        (hv.reads level fuel _ (endsNumber_cons (by decide)) (by omega)), skip_cons (by decide)]
      simp only [skip_newline]
      rw [hf.skip_eq, ih (List.cons_ne_nil _ _) htexts hrest (by omega)]

theorem readValue_list {items : List Value} {text more : List Char} (hbegins : BeginsValue text)
    (hread : readItems limit fuel (text ++ more) = .ok (items, rest)) (level : Nat) :
    readValue limit (fuel + 1) ('[' :: (newline level ++ (text ++ more))) =
      .ok (.list items, rest) := by
  obtain ⟨c, t, rfl, hc⟩ := hbegins
  have hclose : c ≠ ']' := hc.ne (by decide)
  rw [readValue, skip_newline, List.cons_append, skip_cons hc.isSpace_eq]
  rw [List.cons_append] at hread
  simp [hread, hclose]

theorem readValue_dict {entries : List (Scalar × Value)} {text more : List Char}
    (hbegins : BeginsValue text)
    (hread : readEntries limit fuel (text ++ more) = .ok (entries, rest)) (level : Nat) :
    readValue limit (fuel + 1) ('{' :: (newline level ++ (text ++ more))) =
      .ok (.ofEntries entries, rest) := by
  obtain ⟨c, t, rfl, hc⟩ := hbegins
  have hclose : c ≠ '}' := hc.ne (by decide)
  rw [readValue, skip_newline, List.cons_append, skip_cons hc.isSpace_eq]
  rw [List.cons_append] at hread
  simp [hread, hclose]

theorem readsBack_list {items : List Value} (hitems : ∀ v ∈ items, ReadsBack limit v) :
    ReadsBack limit (.list items) := by
  cases items with
  | nil =>
    refine ⟨fun level => ⟨'[', [']'], by rw [write], by decide⟩, ?_⟩
    intro level fuel rest _ hfuel
    rw [write] at hfuel ⊢
    obtain ⟨fuel, rfl⟩ : ∃ n, fuel = n + 1 := ⟨fuel - 1, by simp at hfuel; omega⟩
    rw [List.cons_append, readValue]
    rfl
  | cons v items =>
    refine ⟨fun level => ⟨'[', _, by rw [write], by decide⟩, ?_⟩
    intro level fuel rest _ hfuel
    rw [write] at hfuel ⊢
    simp only [List.length_append, List.length_cons] at hfuel
    obtain ⟨fuel, rfl⟩ : ∃ n, fuel = n + 1 := ⟨fuel - 1, by omega⟩
    have hbegins := beginsValue_writeItems (hitems v (List.mem_cons_self ..)) items (level + 1)
    have hread : readItems limit fuel
        (writeItems (level + 1) (v :: items) ++ (newline level ++ ']' :: rest)) =
          .ok (v :: items, rest) :=
      readItems_writeItems (List.cons_ne_nil _ _) hitems _ _ (by omega)
    simpa using readValue_list hbegins hread (level + 1)

theorem readsBack_dict {entries : List (Scalar × Value)} (htext : ∀ e ∈ entries, ∃ k, e.1 = .str k)
    (hkeys : (entries.map Prod.fst).Nodup) (hentries : ∀ e ∈ entries, ReadsBack limit e.2) :
    ReadsBack limit (.dict entries) := by
  cases entries with
  | nil =>
    refine ⟨fun level => ⟨'{', ['}'], by rw [write], by decide⟩, ?_⟩
    intro level fuel rest _ hfuel
    rw [write] at hfuel ⊢
    obtain ⟨fuel, rfl⟩ : ∃ n, fuel = n + 1 := ⟨fuel - 1, by simp at hfuel; omega⟩
    rw [List.cons_append, readValue]
    rfl
  | cons e entries =>
    refine ⟨fun level => ⟨'{', _, by rw [write], by decide⟩, ?_⟩
    intro level fuel rest _ hfuel
    rw [write] at hfuel ⊢
    simp only [List.length_append, List.length_cons] at hfuel
    obtain ⟨fuel, rfl⟩ : ∃ n, fuel = n + 1 := ⟨fuel - 1, by omega⟩
    have hbegins := beginsValue_writeEntries (htext e (List.mem_cons_self ..)) entries (level + 1)
    have hread : readEntries limit fuel
        (writeEntries (level + 1) (e :: entries) ++ (newline level ++ '}' :: rest)) =
          .ok (e :: entries, rest) :=
      readEntries_writeEntries (List.cons_ne_nil _ _) htext hentries _ _ (by omega)
    rw [← ofEntries_eq htext hkeys]
    simpa using readValue_dict hbegins hread (level + 1)

theorem readsBack_of_isDocument {v : Value} (h : IsDocument (Scalar.FitsJson limit) v) :
    ReadsBack limit v := by
  induction h with
  | scalar hs => exact readsBack_scalar hs
  | list _ ih => exact readsBack_list ih
  | dict htext hkeys _ ih => exact readsBack_dict htext hkeys ih

/-! ### Whole texts -/

theorem toList_layout (v : Value) : (layout v).toList = write 0 v := String.toList_ofList

theorem parse_layout {v : Value} (h : IsDocument (Scalar.FitsJson maxDigits) v) :
    parse (layout v) = .ok v := by
  have hback := readsBack_of_isDocument h
  have hbegins := hback.begins 0
  have hread := hback.reads 0 (2 * (write 0 v).length + 2) [] endsNumber_nil (by omega)
  obtain ⟨c, t, hcs, hc⟩ := hbegins
  have hmark : c ≠ '\uFEFF' := hc.ne (by decide)
  rw [List.append_nil, hcs] at hread
  have hchars : parseChars (c :: t) = .ok v := by
    rw [parseChars, skip_cons hc.isSpace_eq, hread]
    simp [hmark, skip]
  rw [parse, toList_layout, hcs, hchars]
  rfl

/-- A whole number of too many digits is read as nothing. -/
theorem parse_tooManyDigits {ds : List Char} (hds : IsWhole ds) (hlimit : maxDigits < ds.length) :
    parse (String.ofList ds) = .error (.tooManyDigits ds.length) := by
  have hread : readNumber maxDigits ds = .error (.tooManyDigits ds.length) := by
    have h := readNumber_tooManyDigits hds hlimit endsNumber_nil
    rwa [List.append_nil] at h
  obtain ⟨c, cs, rfl⟩ := List.exists_cons_of_ne_nil hds.ne_nil
  have hc : c.isDigit = true := hds.isDigit c (List.mem_cons_self ..)
  have hopens : OpensValue c := .inl (.inl hc)
  have hmark : c ≠ '\uFEFF' := hopens.ne (by decide)
  have hchars : parseChars (c :: cs) = .error (.tooManyDigits (c :: cs).length) := by
    rw [parseChars, skip_cons hopens.isSpace_eq, readValue_of_isDigit hc, hread]
    simp [hmark, Except.map]
  rw [parse, String.toList_ofList, hchars]
  rfl

theorem fitsJson_mono {limit' : Nat} (hle : limit ≤ limit') (s : Scalar) (h : s.FitsJson limit) :
    s.FitsJson limit' := by
  cases s with
  | int i => exact Nat.le_trans h hle
  | moment m => exact h
  | _ => trivial

theorem exists_limit_of_forall {vs : List Value}
    (h : ∀ v ∈ vs, ∃ limit, IsDocument (Scalar.FitsJson limit) v) :
    ∃ limit, ∀ v ∈ vs, IsDocument (Scalar.FitsJson limit) v := by
  induction vs with
  | nil => exact ⟨0, by simp⟩
  | cons v vs ih =>
    obtain ⟨⟨l, hl⟩, hrest⟩ := List.forall_mem_cons.mp h
    obtain ⟨k, hk⟩ := ih hrest
    refine ⟨max l k, List.forall_mem_cons.mpr ⟨?_, fun w hw => ?_⟩⟩
    · exact hl.mono (fitsJson_mono (Nat.le_max_left l k))
    · exact (hk w hw).mono (fitsJson_mono (Nat.le_max_right l k))

/-- A document fits if the limit is high enough. -/
theorem exists_isDocument_fitsJson {v : Value} (h : IsDocument Scalar.IsJson v) :
    ∃ limit, IsDocument (Scalar.FitsJson limit) v := by
  induction h with
  | @scalar s hs =>
    cases s with
    | int i => exact ⟨(Decimal.digits i.natAbs).length, .scalar (Nat.le_refl _)⟩
    | moment m => exact absurd hs id
    | _ => exact ⟨0, .scalar trivial⟩
  | list _ ih =>
    obtain ⟨limit, hlimit⟩ := exists_limit_of_forall ih
    exact ⟨limit, .list hlimit⟩
  | @dict entries htext hkeys _ ih =>
    have hvalues : ∀ v ∈ entries.map Prod.snd, ∃ limit, IsDocument (Scalar.FitsJson limit) v :=
      List.forall_mem_map.mpr ih
    obtain ⟨limit, hlimit⟩ := exists_limit_of_forall hvalues
    refine ⟨limit, .dict htext hkeys fun e he => hlimit e.2 ?_⟩
    exact List.mem_map_of_mem he

/-- Different documents look differently, whatever the length of their numbers. -/
theorem layout_injective {v w : Value} (hv : IsDocument Scalar.IsJson v)
    (hw : IsDocument Scalar.IsJson w) (h : layout v = layout w) : v = w := by
  obtain ⟨l, hl⟩ := exists_isDocument_fitsJson hv
  obtain ⟨k, hk⟩ := exists_isDocument_fitsJson hw
  have hback := readsBack_of_isDocument (hl.mono (fitsJson_mono (Nat.le_max_left l k)))
  have hback' := readsBack_of_isDocument (hk.mono (fitsJson_mono (Nat.le_max_right l k)))
  have htext : write 0 v = write 0 w := by rw [← toList_layout, ← toList_layout, h]
  have hread := hback.reads 0 (2 * (write 0 v).length) [] endsNumber_nil (Nat.le_refl _)
  have hread' := hback'.reads 0 (2 * (write 0 w).length) [] endsNumber_nil (Nat.le_refl _)
  rw [htext, hread'] at hread
  exact (Prod.mk.inj (Except.ok.inj hread)).1.symm

end Json

end ServiceMigration
