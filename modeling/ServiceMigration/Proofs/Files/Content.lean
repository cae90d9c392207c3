import ServiceMigration.Api.Basic
import ServiceMigration.Files.Content
import ServiceMigration.Proofs.Json.Plain
import ServiceMigration.Proofs.Json.Written
/-!
# Texts in files

A text that is written to a file is read back if it has no carriage return, and a written document
has none.
-/

namespace ServiceMigration

theorem Text.universalNewlines_eq_self {cs : List Char} (h : '\r' ∉ cs) :
    universalNewlines cs = cs := by
  fun_induction universalNewlines cs with
  | case1 => rfl
  | case2 => simp at h
  | case3 c rest _ ih =>
    obtain ⟨hc, hrest⟩ : '\r' ≠ c ∧ '\r' ∉ rest := by simpa using h
    rw [ih hrest, if_neg (by simpa using hc.symm)]

theorem fromUTF8?_encodeText (text : String) : String.fromUTF8? (encodeText text) = some text := by
  simp only [encodeText, String.fromUTF8?, String.toUTF8_eq_toByteArray, dif_pos text.isValidUTF8]
  rfl

theorem encodeText_injective : Function.Injective encodeText := by
  intro a b h
  have hdecode := fromUTF8?_encodeText a
  rw [h, fromUTF8?_encodeText] at hdecode
  exact (Option.some.inj hdecode).symm

/-- A text without carriage returns is read as it was written. -/
theorem decodeText?_encodeText {text : String} (h : '\r' ∉ text.toList) :
    decodeText? (encodeText text) = some text := by
  rw [decodeText?, fromUTF8?_encodeText, Option.map_some, Text.universalNewlines_eq_self h,
    String.ofList_toList]

theorem decodeText?_prettyText {s : ApiSpec} {text : String} (h : s.prettyText = some text) :
    decodeText? (encodeText text) = some text := by
  obtain ⟨-, rfl⟩ := Json.render_eq_some_iff.mp h
  exact decodeText?_encodeText (Json.allPlain_layout _).notMem_carriageReturn

theorem byteArray_toList_loop (b : ByteArray) (i : Nat) (r : List UInt8) :
    ByteArray.toList.loop b i r = r.reverse ++ b.data.toList.drop i := by
  fun_induction ByteArray.toList.loop b i r with
  | case1 i r hi ih =>
    have hi' : i < b.data.toList.length := hi
    rw [ih, List.reverse_cons, List.append_assoc, List.drop_eq_getElem_cons hi']
    have hget : b.get! i = b.data.toList[i] := by
      simp [ByteArray.get!, hi]
    rw [hget]
    rfl
  | case2 i r hi =>
    have hi' : b.data.toList.length ≤ i := Nat.le_of_not_lt hi
    rw [List.drop_eq_nil_of_le hi', List.append_nil]

/-- The bytes of a file, taken out and put in again. -/
theorem byteArray_of_toList (b : ByteArray) : (⟨b.toList.toArray⟩ : ByteArray) = b := by
  rw [ByteArray.toList, byteArray_toList_loop]
  rfl

theorem byteArray_toList (bytes : List UInt8) : (⟨bytes.toArray⟩ : ByteArray).toList = bytes := by
  rw [ByteArray.toList, byteArray_toList_loop]
  rfl

end ServiceMigration
