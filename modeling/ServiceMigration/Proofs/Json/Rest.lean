import Mathlib.Data.List.TakeWhile
import ServiceMigration.Json.Reader
/-!
# What a reader leaves of its text

Every reader takes characters from the front and leaves the rest as it is.  A mapping is taken from
its opening brace to its closing one, so a text that is read as a mapping has both, in this order.
-/

namespace ServiceMigration.Json

variable {limit fuel : Nat} {cs rest : List Char}

theorem skip_suffix (cs : List Char) : skip cs <:+ cs := List.dropWhile_suffix _

/-! ### Scalars -/

theorem wholePart_suffix (cs : List Char) : (wholePart cs).2 <:+ cs := by
  unfold wholePart
  split
  · exact List.suffix_cons _ _
  · exact List.dropWhile_suffix _

theorem fractionPart_suffix (cs : List Char) : (fractionPart cs).2 <:+ cs := by
  unfold fractionPart
  split
  · dsimp only
    split
    · exact List.suffix_rfl
    · exact (List.dropWhile_suffix _).trans (List.suffix_cons _ _)
  · exact List.suffix_rfl

theorem exponentPart_suffix {x : Int} (h : exponentPart cs = some (x, rest)) : rest <:+ cs := by
  unfold exponentPart at h
  split at h
  · exact absurd h (by simp)
  · next mark tail =>
    split at h
    · split at h
      next negative body hbody =>
      have htail : body <:+ tail := by
        split at hbody <;> obtain ⟨-, rfl⟩ := Prod.mk.inj hbody
        · exact List.suffix_cons _ _
        · exact List.suffix_cons _ _
        · exact List.suffix_rfl
      dsimp only at h
      split at h
      · exact absurd h (by simp)
      · obtain ⟨-, rfl⟩ := Prod.mk.inj (Option.some.inj h)
        exact ((List.dropWhile_suffix _).trans htail).trans (List.suffix_cons _ _)
    · exact absurd h (by simp)

theorem readNumber_suffix {s : Scalar} (h : readNumber limit cs = .ok (s, rest)) : rest <:+ cs := by
  unfold readNumber at h
  split at h
  next negative body hbody =>
  have hcs : body <:+ cs := by
    split at hbody <;> obtain ⟨-, rfl⟩ := Prod.mk.inj hbody
    · exact List.suffix_cons _ _
    · exact List.suffix_rfl
  have hpoint : (fractionPart (wholePart body).2).2 <:+ cs :=
    ((fractionPart_suffix _).trans (wholePart_suffix body)).trans hcs
  dsimp only at h
  split at h
  · exact absurd h (by simp)
  · split at h
    · next hexponent =>
      obtain ⟨-, rfl⟩ := Prod.mk.inj (Except.ok.inj h)
      exact (exponentPart_suffix hexponent).trans hpoint
    · split at h
      · split at h
        · exact absurd h (by simp)
        · obtain ⟨-, rfl⟩ := Prod.mk.inj (Except.ok.inj h)
          exact hpoint
      · obtain ⟨-, rfl⟩ := Prod.mk.inj (Except.ok.inj h)
        exact hpoint

theorem readScalar_suffix {s : Scalar} (h : readScalar limit cs = .ok (s, rest)) : rest <:+ cs := by
  unfold readScalar at h
  split at h
  case h_7 => exact readNumber_suffix h
  all_goals
    obtain ⟨-, rfl⟩ := Prod.mk.inj (Except.ok.inj h)
    simp [List.suffix_cons_iff]

theorem push_eq_ok {p : Piece} {qs : List Piece} {r : Result (List Piece)}
    (h : push p r = .ok (qs, rest)) : ∃ ps, r = .ok (ps, rest) := by
  unfold push at h
  split at h
  · next ps tail =>
    obtain ⟨-, rfl⟩ := Prod.mk.inj (Except.ok.inj h)
    exact ⟨ps, rfl⟩
  · exact absurd h (by simp)

theorem readPieces_suffix {start : List Char} {ps : List Piece}
    (h : readPieces start cs = .ok (ps, rest)) : rest <:+ cs := by
  fun_induction readPieces start cs generalizing ps with
  | case2 tail =>
    obtain ⟨-, rfl⟩ := Prod.mk.inj (Except.ok.inj h)
    exact List.suffix_cons _ _
  | case4 a b c d n head tail _ ih =>
    obtain ⟨qs, hqs⟩ := push_eq_ok h
    exact (ih hqs).trans ⟨['\\', 'u', a, b, c, d], rfl⟩
  | case7 c tail _ _ _ _ ih =>
    obtain ⟨qs, hqs⟩ := push_eq_ok h
    exact (ih hqs).trans ⟨['\\', c], rfl⟩
  | case10 c tail _ _ _ _ _ _ ih =>
    obtain ⟨qs, hqs⟩ := push_eq_ok h
    exact (ih hqs).trans (List.suffix_cons _ _)
  | _ => exact absurd h (by simp)

theorem readString_suffix {start : List Char} {s : String}
    (h : readString start cs = .ok (s, rest)) :
    rest <:+ cs := by
  unfold readString at h
  split at h
  · next hpieces =>
    obtain ⟨-, rfl⟩ := Prod.mk.inj (Except.ok.inj h)
    exact readPieces_suffix hpieces
  · exact absurd h (by simp)

/-! ### What readers do -/

/-- How the reader of values comes to a value, by the first character. -/
inductive ReadsValue (limit fuel : Nat) (cs : List Char) : Value → List Char → Prop where
  | string {t rest : List Char} {s : String} (hcs : cs = '"' :: t)
      (hstring : readString cs t = .ok (s, rest)) : ReadsValue limit fuel cs (.str s) rest
  | noItems {t rest : List Char} (hcs : cs = '[' :: t) (hclose : skip t = ']' :: rest) :
      ReadsValue limit fuel cs (.list []) rest
  | items {t rest : List Char} {vs : List Value} (hcs : cs = '[' :: t)
      (hitems : readItems limit fuel (skip t) = .ok (vs, rest)) :
      ReadsValue limit fuel cs (.list vs) rest
  | noEntries {t rest : List Char} (hcs : cs = '{' :: t) (hclose : skip t = '}' :: rest) :
      ReadsValue limit fuel cs (.dict []) rest
  | entries {t rest : List Char} {es : List (Scalar × Value)} (hcs : cs = '{' :: t)
      (hentries : readEntries limit fuel (skip t) = .ok (es, rest)) :
      ReadsValue limit fuel cs (.ofEntries es) rest
  | scalar {rest : List Char} {s : Scalar} (hscalar : readScalar limit cs = .ok (s, rest)) :
      ReadsValue limit fuel cs (.scalar s) rest

/-- An item, and then the closing bracket or a comma and more items. -/
inductive ReadsItems (limit fuel : Nat) (cs : List Char) : List Value → List Char → Prop where
  | last {v : Value} {more rest : List Char} (hvalue : readValue limit fuel cs = .ok (v, more))
      (hclose : skip more = ']' :: rest) : ReadsItems limit fuel cs [v] rest
  | next {v : Value} {vs : List Value} {more tail rest : List Char}
      (hvalue : readValue limit fuel cs = .ok (v, more)) (hcomma : skip more = ',' :: tail)
      (hitems : readItems limit fuel (skip tail) = .ok (vs, rest)) :
      ReadsItems limit fuel cs (v :: vs) rest

/-- A key in quotes, a colon and a value. -/
inductive ReadsEntry (limit fuel : Nat) : List Char → Scalar × Value → List Char → Prop where
  | mk {t afterKey afterColon more : List Char} {key : String} {v : Value}
      (hkey : readString ('"' :: t) t = .ok (key, afterKey))
      (hcolon : skip afterKey = ':' :: afterColon)
      (hvalue : readValue limit fuel (skip afterColon) = .ok (v, more)) :
      ReadsEntry limit fuel ('"' :: t) (.str key, v) more

/-- An entry, and then the closing brace or a comma and more entries. -/
inductive ReadsEntries (limit fuel : Nat) (cs : List Char) :
    List (Scalar × Value) → List Char → Prop where
  | last {e : Scalar × Value} {more rest : List Char} (hentry : ReadsEntry limit fuel cs e more)
      (hclose : skip more = '}' :: rest) : ReadsEntries limit fuel cs [e] rest
  | next {e : Scalar × Value} {es : List (Scalar × Value)} {more tail rest : List Char}
      (hentry : ReadsEntry limit fuel cs e more) (hcomma : skip more = ',' :: tail)
      (hentries : readEntries limit fuel (skip tail) = .ok (es, rest)) :
      ReadsEntries limit fuel cs (e :: es) rest

theorem readsValue {v : Value} (h : readValue limit (fuel + 1) cs = .ok (v, rest)) :
    ReadsValue limit fuel cs v rest := by
  unfold readValue at h
  split at h
  · split at h
    · next hstring =>
      obtain ⟨rfl, rfl⟩ := Prod.mk.inj (Except.ok.inj h)
      exact .string rfl hstring
    · exact absurd h (by simp)
  · split at h
    · next hclose =>
      obtain ⟨rfl, rfl⟩ := Prod.mk.inj (Except.ok.inj h)
      exact .noItems rfl hclose
    · split at h
      · next hitems =>
        obtain ⟨rfl, rfl⟩ := Prod.mk.inj (Except.ok.inj h)
        exact .items rfl hitems
      · exact absurd h (by simp)
  · split at h
    · next hclose =>
      obtain ⟨rfl, rfl⟩ := Prod.mk.inj (Except.ok.inj h)
      exact .noEntries rfl hclose
    · split at h
      · next hentries =>
        obtain ⟨rfl, rfl⟩ := Prod.mk.inj (Except.ok.inj h)
        exact .entries rfl hentries
      · exact absurd h (by simp)
  · split at h
    · next hscalar =>
      obtain ⟨rfl, rfl⟩ := Prod.mk.inj (Except.ok.inj h)
      exact .scalar hscalar
    · exact absurd h (by simp)

theorem readsItems {vs : List Value} (h : readItems limit (fuel + 1) cs = .ok (vs, rest)) :
    ReadsItems limit fuel cs vs rest := by
  unfold readItems at h
  split at h
  · exact absurd h (by simp)
  · next hvalue =>
    split at h
    · next hclose =>
      obtain ⟨rfl, rfl⟩ := Prod.mk.inj (Except.ok.inj h)
      exact .last hvalue hclose
    · next hcomma =>
      split at h
      · next hitems =>
        obtain ⟨rfl, rfl⟩ := Prod.mk.inj (Except.ok.inj h)
        exact .next hvalue hcomma hitems
      · exact absurd h (by simp)
    · exact absurd h (by simp)

theorem readsEntries {es : List (Scalar × Value)}
    (h : readEntries limit (fuel + 1) cs = .ok (es, rest)) :
    ReadsEntries limit fuel cs es rest := by
  unfold readEntries at h
  split at h
  · split at h
    · exact absurd h (by simp)
    · next hkey =>
      split at h
      · next hcolon =>
        split at h
        · exact absurd h (by simp)
        · next hvalue =>
          have hentry := ReadsEntry.mk hkey hcolon hvalue
          split at h
          · next hclose =>
            obtain ⟨rfl, rfl⟩ := Prod.mk.inj (Except.ok.inj h)
            exact .last hentry hclose
          · next hcomma =>
            split at h
            · next hentries =>
              obtain ⟨rfl, rfl⟩ := Prod.mk.inj (Except.ok.inj h)
              exact .next hentry hcomma hentries
            · exact absurd h (by simp)
          · exact absurd h (by simp)
      · exact absurd h (by simp)
  · exact absurd h (by simp)

/-! ### Values -/

/-- What the three readers of one fuel leave. -/
structure LeavesRest (limit fuel : Nat) : Prop where
  value : ∀ cs v rest, readValue limit fuel cs = .ok (v, rest) → rest <:+ cs
  items : ∀ cs vs rest, readItems limit fuel cs = .ok (vs, rest) → rest <:+ cs
  entries : ∀ cs es rest, readEntries limit fuel cs = .ok (es, rest) → '}' :: rest <:+ cs

theorem skip_cons_suffix {c : Char} {more : List Char} (h : skip more = c :: rest) :
    c :: rest <:+ more := h ▸ skip_suffix more

theorem suffix_of_skip {c : Char} {more : List Char} (h : skip more = c :: rest) :
    rest <:+ more := (List.suffix_cons c rest).trans (skip_cons_suffix h)

/-- A value leaves a rest, and one that is a mapping stands between braces. -/
theorem readValue_suffix (ih : LeavesRest limit fuel) {v : Value}
    (h : readValue limit (fuel + 1) cs = .ok (v, rest)) :
    rest <:+ cs ∧ ∀ es, v = .dict es → ∃ t, cs = '{' :: t ∧ '}' :: rest <:+ t := by
  have hdict : ∀ t, cs = '{' :: t → '}' :: rest <:+ t →
      rest <:+ cs ∧ ∀ es, v = .dict es → ∃ t, cs = '{' :: t ∧ '}' :: rest <:+ t := by
    rintro t rfl hclosed
    exact ⟨((List.suffix_cons _ _).trans hclosed).trans (List.suffix_cons _ _),
      fun _ _ => ⟨t, rfl, hclosed⟩⟩
  cases readsValue h with
  | string hcs hstring =>
    refine ⟨?_, nofun⟩
    rw [hcs]
    exact (readString_suffix hstring).trans (List.suffix_cons _ _)
  | noItems hcs hclose =>
    refine ⟨?_, nofun⟩
    rw [hcs]
    exact (suffix_of_skip hclose).trans (List.suffix_cons _ _)
  | @items t _ _ hcs hitems =>
    refine ⟨?_, nofun⟩
    rw [hcs]
    exact ((ih.items _ _ _ hitems).trans (skip_suffix t)).trans (List.suffix_cons _ _)
  | noEntries hcs hclose => exact hdict _ hcs (skip_cons_suffix hclose)
  | entries hcs hentries => exact hdict _ hcs ((ih.entries _ _ _ hentries).trans (skip_suffix _))
  | scalar hscalar => exact ⟨readScalar_suffix hscalar, nofun⟩

theorem readItems_suffix (ih : LeavesRest limit fuel) {vs : List Value}
    (h : readItems limit (fuel + 1) cs = .ok (vs, rest)) : rest <:+ cs := by
  cases readsItems h with
  | last hvalue hclose => exact (suffix_of_skip hclose).trans (ih.value _ _ _ hvalue)
  | next hvalue hcomma hitems =>
    have htail := (suffix_of_skip hcomma).trans (ih.value _ _ _ hvalue)
    exact ((ih.items _ _ _ hitems).trans (skip_suffix _)).trans htail

theorem ReadsEntry.suffix (ih : LeavesRest limit fuel) {e : Scalar × Value}
    (h : ReadsEntry limit fuel cs e rest) : rest <:+ cs := by
  cases h with
  | mk hkey hcolon hvalue =>
    have hkey := (readString_suffix hkey).trans (List.suffix_cons '"' _)
    exact ((ih.value _ _ _ hvalue).trans (skip_suffix _)).trans ((suffix_of_skip hcolon).trans hkey)

theorem readEntries_suffix (ih : LeavesRest limit fuel) {es : List (Scalar × Value)}
    (h : readEntries limit (fuel + 1) cs = .ok (es, rest)) : '}' :: rest <:+ cs := by
  cases readsEntries h with
  | last hentry hclose => exact (skip_cons_suffix hclose).trans (hentry.suffix ih)
  | next hentry hcomma hentries =>
    have htail := (suffix_of_skip hcomma).trans (hentry.suffix ih)
    exact ((ih.entries _ _ _ hentries).trans (skip_suffix _)).trans htail

theorem leavesRest (limit fuel : Nat) : LeavesRest limit fuel := by
  induction fuel with
  | zero =>
    refine ⟨?_, ?_, ?_⟩
    · intro cs v rest h
      exact absurd h (by simp [readValue])
    · intro cs vs rest h
      exact absurd h (by simp [readItems])
    · intro cs es rest h
      exact absurd h (by simp [readEntries])
  | succ fuel ih =>
    exact ⟨fun _ _ _ h => (readValue_suffix ih h).1, fun _ _ _ h => readItems_suffix ih h,
      fun _ _ _ h => readEntries_suffix ih h⟩

/-! ### Whole texts -/

theorem exists_readValue_of_parse {text : String} {v : Value} (h : parse text = .ok v) :
    ∃ rest,
      readValue maxDigits (2 * text.toList.length + 2) (skip text.toList) = .ok (v, rest) := by
  have hchars : parseChars text.toList = .ok v := by
    unfold parse at h
    cases hchars : parseChars text.toList with
    | error f => rw [hchars] at h; exact absurd h (by simp [Except.mapError])
    | ok w => rw [hchars] at h; exact congrArg _ (Except.ok.inj h)
  unfold parseChars at hchars
  split at hchars
  · exact absurd hchars (by simp)
  · split at hchars
    · exact absurd hchars (by simp)
    · next rest hvalue =>
      split at hchars
      · obtain rfl := Except.ok.inj hchars
        exact ⟨rest, hvalue⟩
      · exact absurd hchars (by simp)

/-- A text that is read as a mapping has an opening brace and a closing one after it. -/
theorem exists_braces_of_parse {text : String} {es : List (Scalar × Value)}
    (h : parse text = .ok (.dict es)) :
    ∃ before rest, text.toList = before ++ '{' :: rest ∧ '}' ∈ rest := by
  obtain ⟨tail, hvalue⟩ := exists_readValue_of_parse h
  obtain ⟨before, hbefore⟩ := skip_suffix text.toList
  obtain ⟨t, ht, hclosed⟩ := (readValue_suffix (leavesRest _ _) hvalue).2 es rfl
  exact ⟨before, t, by rw [← ht, hbefore], hclosed.subset (by simp)⟩

end ServiceMigration.Json
