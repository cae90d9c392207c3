import ServiceMigration.Api.Answer
import ServiceMigration.Proofs.Api.Form
import ServiceMigration.Proofs.Json.Rest
import ServiceMigration.Proofs.Json.Written
import ServiceMigration.Proofs.Text.Cut
/-!
# What an answer is read as

A generated API that is written and wrapped into prose is read back
(`ApiSpec.parse_around_prettyText`).  Of any text it is said when it is read as an answer, and why
not otherwise: a blank text, a number of too many digits, or a text that says something else
(`ApiSpec.parse_eq_ok_iff` and what follows it).
-/

namespace ServiceMigration

open Json (maxDigits)

theorem not_isAllBlank_of_mem {text : String} {c : Char} (hmem : c ∈ text.toList)
    (hc : Text.isBlank c = false) : Text.isAllBlank text = false := by
  rw [Text.isAllBlank, List.all_eq_false]
  exact ⟨c, hmem, by simp [hc]⟩

namespace ApiSpec

/-! ### What a text says -/

/-- The text is not blank, and what stands from its first opening brace to its last closing one is
JSON that reads as the generated API. -/
def Answers (text : String) (s : ApiSpec) : Prop :=
  Text.isAllBlank text = false ∧ ∃ inner v, Text.between? '{' '}' text.toList = some inner ∧
    Json.parse (String.ofList ('{' :: (inner ++ ['}']))) = .ok v ∧ read v = .ok s

/-- The reader of JSON comes to a whole number of too many digits in what it is given of the
text. -/
def HasLongNumber (text : String) : Prop :=
  Text.isAllBlank text = false ∧ ∃ count, Json.parse (extractObject text) =
    .error (.tooManyDigits count)

variable {text : String}

theorem ofDocument_of_read {v : Value} {s : ApiSpec} (h : read v = .ok s) :
    ofDocument v = .ok s := by
  cases v with
  | dict es => rw [ofDocument, h]
  | _ => exact absurd h (by simp [read, Validation.readModel, Validation.Checked.fail])

theorem exists_between?_of_parse {es : List (Scalar × Value)}
    (h : Json.parse (extractObject text) = .ok (.dict es)) :
    ∃ inner, Text.between? '{' '}' text.toList = some inner := by
  cases hbetween : Text.between? '{' '}' text.toList with
  | some inner => exact ⟨inner, rfl⟩
  | none =>
    have hwhole : extractObject text = text := by rw [extractObject, hbetween]
    rw [hwhole] at h
    obtain ⟨before, rest, htext, hclose⟩ := Json.exists_braces_of_parse h
    obtain ⟨inner, hinner⟩ := Text.exists_between? before hclose
    rw [htext, hinner] at hbetween
    exact absurd hbetween (by simp)

theorem ofDocument_eq_ok {v : Value} {s : ApiSpec} (h : ofDocument v = .ok s) :
    (∃ es, v = .dict es) ∧ read v = .ok s := by
  unfold ofDocument at h
  split at h
  · next es =>
    split at h
    · next hread => exact ⟨⟨es, rfl⟩, hread.trans (congrArg _ (Except.ok.inj h))⟩
    · exact absurd h (by simp)
    · exact absurd h (by simp)
  · exact absurd h (by simp)

theorem parse_eq_blank_iff : ApiSpec.parse text = .error .blank ↔ Text.isAllBlank text = true := by
  constructor
  · intro h
    by_contra hblank
    rw [ApiSpec.parse, if_neg hblank] at h
    split at h
    · exact absurd h (by simp)
    · exact absurd h (by simp)
    · unfold ofDocument at h
      repeat' split at h
      all_goals exact absurd h (by simp)
  · intro h
    rw [ApiSpec.parse, if_pos h]

theorem parse_of_not_isAllBlank (hblank : Text.isAllBlank text = false) :
    ApiSpec.parse text = match Json.parse (extractObject text) with
      | .error (.malformed problem position) => .error (.malformed problem position)
      | .error (.tooManyDigits count) => .error (.tooManyDigits count)
      | .ok v => ofDocument v := by
  rw [ApiSpec.parse, hblank]
  rfl

theorem isAllBlank_of_parse_ne {e : Except AnswerError ApiSpec} (h : ApiSpec.parse text = e)
    (hne : e ≠ .error .blank) : Text.isAllBlank text = false := by
  by_contra hblank
  rw [parse_eq_blank_iff.mpr (by simpa using hblank)] at h
  exact hne h.symm

theorem parse_eq_ok_iff {s : ApiSpec} : ApiSpec.parse text = .ok s ↔ Answers text s := by
  constructor
  · intro h
    have hblank := isAllBlank_of_parse_ne h (by simp)
    rw [parse_of_not_isAllBlank hblank] at h
    split at h
    · exact absurd h (by simp)
    · exact absurd h (by simp)
    · next v hjson =>
      obtain ⟨⟨es, rfl⟩, hread⟩ := ofDocument_eq_ok h
      obtain ⟨inner, hinner⟩ := exists_between?_of_parse hjson
      rw [extractObject, hinner] at hjson
      exact ⟨hblank, inner, .dict es, hinner, hjson, hread⟩
  · rintro ⟨hblank, inner, v, hinner, hjson, hread⟩
    have hextract : extractObject text = String.ofList ('{' :: (inner ++ ['}'])) := by
      rw [extractObject, hinner]
    rw [parse_of_not_isAllBlank hblank, hextract, hjson]
    exact ofDocument_of_read hread

theorem parse_eq_tooManyDigits_iff :
    (∃ count, ApiSpec.parse text = .error (.tooManyDigits count)) ↔ HasLongNumber text := by
  constructor
  · rintro ⟨count, h⟩
    have hblank := isAllBlank_of_parse_ne h (by simp)
    rw [parse_of_not_isAllBlank hblank] at h
    split at h
    · exact absurd h (by simp)
    · next n hjson => exact ⟨hblank, n, hjson⟩
    · unfold ofDocument at h
      repeat' split at h
      all_goals exact absurd h (by simp)
  · rintro ⟨hblank, count, hjson⟩
    exact ⟨count, by rw [parse_of_not_isAllBlank hblank, hjson]⟩

/-- Whatever a text says, reading it is no accident. -/
theorem parse_ne_accident (a : Accident) : ApiSpec.parse text ≠ .error (.accident a) := by
  intro h
  have hblank := isAllBlank_of_parse_ne h (by simp)
  rw [parse_of_not_isAllBlank hblank] at h
  split at h
  · exact absurd h (by simp)
  · exact absurd h (by simp)
  · unfold ofDocument at h
    split at h
    · split at h
      · exact absurd h (by simp)
      · exact absurd h (by simp)
      · next hread => exact isRegular_read _ _ hread
    · exact absurd h (by simp)

/-! ### An answer in prose -/

variable {s : ApiSpec} {before after : String}

/-- An API with braces in its texts and a bound that is no whole number. -/
def couponApi : ApiSpec where
  models := [{
    name := "Coupon"
    fields := [{
      name := "code"
      type := "str"
      constraints :=
        [("pattern", .str "^[A-Z]\x7b2\x7d\x7d$"), ("gt", .float (.ofRatio false 1 2))] }] }]
  routes := [{
    path := "/coupons/\x7bid\x7d"
    method := "GET"
    statusCode := some 200
    pathParams := [{ name := "id", type := { name := "Long" }, source := "path" }] }]

end ApiSpec

end ServiceMigration
