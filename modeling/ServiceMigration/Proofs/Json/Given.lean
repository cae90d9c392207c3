import ServiceMigration.Proofs.Json.Rest
import ServiceMigration.Proofs.Json.Written
/-!
# What a reader gives

Whatever text is read: the value is a document, with texts for keys and no key twice, and its whole
numbers have no more digits than the reader takes (`isDocument_of_parse`).  So everything that was
read can be written, and is read back from what is written (`exists_render_of_parse`).
-/

namespace ServiceMigration.Json

open Value

variable {limit fuel : Nat} {cs rest : List Char}

/-! ### Numbers -/

theorem isDigit_of_mem_wholePart {c : Char} (h : c ∈ (wholePart cs).1) : c.isDigit = true := by
  unfold wholePart at h
  split at h
  · obtain rfl := List.mem_singleton.mp h
    rfl
  · exact List.mem_takeWhile_imp h

theorem fitsJson_of_readNumber {s : Scalar} (h : readNumber limit cs = .ok (s, rest)) :
    s.FitsJson limit := by
  unfold readNumber at h
  split at h
  next negative body _ =>
  dsimp only at h
  split at h
  · exact absurd h (by simp)
  · next hsome =>
    split at h
    · obtain ⟨rfl, -⟩ := Prod.mk.inj (Except.ok.inj h)
      trivial
    · split at h
      · split at h
        · exact absurd h (by simp)
        · next hshort =>
          obtain ⟨rfl, -⟩ := Prod.mk.inj (Except.ok.inj h)
          have hne : (wholePart body).1 ≠ [] := by simpa using hsome
          have hdigits :=
            Decimal.length_digits_ofDigits_le (fun _ => isDigit_of_mem_wholePart) hne
          rw [Scalar.FitsJson, Decimal.natAbs_signed]
          exact hdigits.trans (Nat.not_lt.mp hshort)
      · obtain ⟨rfl, -⟩ := Prod.mk.inj (Except.ok.inj h)
        trivial

theorem fitsJson_of_readScalar {s : Scalar} (h : readScalar limit cs = .ok (s, rest)) :
    s.FitsJson limit := by
  unfold readScalar at h
  split at h
  case h_7 => exact fitsJson_of_readNumber h
  all_goals
    obtain ⟨rfl, -⟩ := Prod.mk.inj (Except.ok.inj h)
    trivial

/-! ### Values -/

/-- What the three readers of one fuel give: documents whose numbers have no more digits than the
readers take. -/
structure GivesDocument (limit fuel : Nat) : Prop where
  value : ∀ cs v rest, readValue limit fuel cs = .ok (v, rest) →
    IsDocument (Scalar.FitsJson limit) v
  items : ∀ cs vs rest, readItems limit fuel cs = .ok (vs, rest) →
    ∀ v ∈ vs, IsDocument (Scalar.FitsJson limit) v
  entries : ∀ cs es rest, readEntries limit fuel cs = .ok (es, rest) →
    ∀ e ∈ es, (∃ k, e.1 = .str k) ∧ IsDocument (Scalar.FitsJson limit) e.2

theorem isDocument_of_readValue (ih : GivesDocument limit fuel) {v : Value}
    (h : readValue limit (fuel + 1) cs = .ok (v, rest)) : IsDocument (Scalar.FitsJson limit) v := by
  cases readsValue h with
  | string => exact .scalar trivial
  | noItems => exact .list (List.forall_mem_nil _)
  | items _ hitems => exact .list (ih.items _ _ _ hitems)
  | noEntries => exact .dict (List.forall_mem_nil _) .nil (List.forall_mem_nil _)
  | entries _ hentries =>
    have hgives := ih.entries _ _ _ hentries
    exact isDocument_ofEntries (fun e he => (hgives e he).1) fun e he => (hgives e he).2
  | scalar hscalar => exact .scalar (fitsJson_of_readScalar hscalar)

theorem isDocument_of_readItems (ih : GivesDocument limit fuel) {vs : List Value}
    (h : readItems limit (fuel + 1) cs = .ok (vs, rest)) :
    ∀ v ∈ vs, IsDocument (Scalar.FitsJson limit) v := by
  cases readsItems h with
  | last hvalue => exact List.forall_mem_singleton.mpr (ih.value _ _ _ hvalue)
  | next hvalue _ hitems =>
    exact List.forall_mem_cons.mpr ⟨ih.value _ _ _ hvalue, ih.items _ _ _ hitems⟩

theorem ReadsEntry.isDocument (ih : GivesDocument limit fuel) {e : Scalar × Value}
    (h : ReadsEntry limit fuel cs e rest) :
    (∃ k, e.1 = .str k) ∧ IsDocument (Scalar.FitsJson limit) e.2 := by
  cases h with
  | mk _ _ hvalue => exact ⟨⟨_, rfl⟩, ih.value _ _ _ hvalue⟩

theorem isDocument_of_readEntries (ih : GivesDocument limit fuel) {es : List (Scalar × Value)}
    (h : readEntries limit (fuel + 1) cs = .ok (es, rest)) :
    ∀ e ∈ es, (∃ k, e.1 = .str k) ∧ IsDocument (Scalar.FitsJson limit) e.2 := by
  cases readsEntries h with
  | last hentry => exact List.forall_mem_singleton.mpr (hentry.isDocument ih)
  | next hentry _ hentries =>
    exact List.forall_mem_cons.mpr ⟨hentry.isDocument ih, ih.entries _ _ _ hentries⟩

theorem givesDocument (limit fuel : Nat) : GivesDocument limit fuel := by
  induction fuel with
  | zero =>
    refine ⟨?_, ?_, ?_⟩
    · intro cs v rest h
      exact absurd h (by simp [readValue])
    · intro cs vs rest h
      exact absurd h (by simp [readItems])
    · intro cs es rest h
      exact absurd h (by simp [readEntries])
  | succ fuel ih =>
    exact ⟨fun _ _ _ => isDocument_of_readValue ih, fun _ _ _ => isDocument_of_readItems ih,
      fun _ _ _ => isDocument_of_readEntries ih⟩

/-! ### Whole texts -/

/-- What is read of a text is a document, and its whole numbers are not too long. -/
theorem isDocument_of_parse {text : String} {v : Value} (h : parse text = .ok v) :
    IsDocument (Scalar.FitsJson maxDigits) v := by
  obtain ⟨rest, hvalue⟩ := exists_readValue_of_parse h
  exact (givesDocument _ _).value _ _ _ hvalue

/-- What was read of one text can be written, and the text that is written says the same. -/
theorem exists_render_of_parse {text : String} {v : Value} (h : parse text = .ok v) :
    ∃ text', render v = some text' ∧ parse text' = .ok v :=
  exists_render (isDocument_of_parse h)

end ServiceMigration.Json
