import ServiceMigration.Completion.Generator
import ServiceMigration.Proofs.Api.Answer
/-!
# What comes of a request

A generator turns a fault of its service and nearly every text into an outcome.  One kind of text it
does not get over: one in which a whole number has more digits than the reader of JSON takes
(`ApiSpec.HasLongNumber`); and there is no prompt about a chunk that has such a number itself.  Main
statement: `generate_outcome`.
-/

namespace ServiceMigration.Completion

/-- What a text comes to: an answer, one of two failures, or the end of the run. -/
structure ComesOf (text : String) (r : Except Failure Generation) : Prop where
  success : ∀ a, r = .ok (.success a) ↔ ApiSpec.Answers text a
  emptyResponse : (∃ explanation, r = .ok (.failed .emptyResponse explanation)) ↔
    Text.isAllBlank text = true
  raises : (∃ e, r = .error e) ↔ ApiSpec.HasLongNumber text
  parseError : (∃ explanation, r = .ok (.failed .parseError explanation)) ↔
    Text.isAllBlank text = false ∧ ¬ ApiSpec.HasLongNumber text ∧ ∀ a, ¬ ApiSpec.Answers text a

namespace Generator

theorem comesOf_generationOfText (text : String) : ComesOf text (generationOfText text) := by
  have hpresent : Text.isAllBlank text = false ↔ ApiSpec.parse text ≠ .error .blank := by
    rw [Ne, ApiSpec.parse_eq_blank_iff, Bool.not_eq_true]
  have hregular : ∀ a, ApiSpec.parse text ≠ .error (.accident a) := ApiSpec.parse_ne_accident
  constructor
  all_goals
    simp only [hpresent, ← ApiSpec.parse_eq_ok_iff, ← ApiSpec.parse_eq_blank_iff,
      ← ApiSpec.parse_eq_tooManyDigits_iff]
    unfold generationOfText
    -- each kind of outcome of the parser is one outcome of the generator
    cases hparse : ApiSpec.parse text with
    | ok a => simp
    | error e =>
      cases e with
      | accident a => exact absurd hparse (hregular a)
      | _ => simp

variable {κ : Type} (g : Generator) (p : Provider κ) (chunk : ModuleSpec) (s : Session κ)

theorem messages_eq {system template : String} (hsystem : g.prompts.system s.workspace = .ok system)
    (htemplate : g.prompts.load s.workspace Prompts.userFile packagedUserPrompt = .ok template) :
    g.messages s.workspace chunk =
      match chunk.canonicalText with
      | none => .error (.badValue .tooLongToWrite)
      | some text => .ok (system, Prompts.fill template text) := by
  rw [messages, hsystem]
  simp only [Prompts.user, htemplate]
  cases chunk.canonicalText <;> rfl

/-- Where the prompts can be read, a fault is a failure of its kind, and a text comes to what it
says.  A chunk with a number that is too long to be written cannot be put to the service. -/
theorem generate_outcome {system template : String}
    (hsystem : g.prompts.system s.workspace = .ok system)
    (htemplate : g.prompts.load s.workspace Prompts.userFile packagedUserPrompt = .ok template) :
    (chunk.toValue.hasLongNumber = true →
      (g.generate p chunk s).1 = .error (.badValue .tooLongToWrite)) ∧
    (chunk.toValue.hasLongNumber = false → ∃ text, chunk.canonicalText = some text ∧
      match (p.ask
        { model := g.client.model
          timeout := g.client.timeout
          system
          user := Prompts.fill template text } s.provider).1 with
      | .fault faults => (g.generate p chunk s).1 = .ok (.failed faults.kind faults.text)
      | .content text => ComesOf (text.getD "") (g.generate p chunk s).1) := by
  have hmessages := messages_eq g chunk s hsystem htemplate
  constructor
  · intro hlong
    rw [ModuleSpec.canonicalText, Json.canonical_eq_none_iff.mpr hlong] at hmessages
    rw [generate, hmessages]
  · intro hshort
    obtain ⟨text, htext⟩ : ∃ text, chunk.canonicalText = some text := Json.exists_canonical hshort
    refine ⟨text, htext, ?_⟩
    rw [htext] at hmessages
    rw [generate, hmessages]
    simp only [Client.call]
    cases p.ask _ s.provider with
    | mk reply k =>
      cases reply with
      | fault faults => rfl
      | content text => exact comesOf_generationOfText _

/-- A provider that gives every request one reply. -/
def constant (reply : Reply) : Provider Unit where
  ask _ k := (reply, k)

def packagedGenerator : Generator where
  client := { model := "m" }
  prompts := .packaged

def healthModule : ModuleSpec where
  projectName := "shop"
  moduleName := "health"

/-- A chunk that can be written comes to what the service says of it. -/
theorem generate_constant (text : String) {m : ModuleSpec} (hm : m.toValue.hasLongNumber = false) :
    (packagedGenerator.generate (constant (.content (some text))) m ⟨{}, ()⟩).1 =
      generationOfText text := by
  obtain ⟨written, hwritten⟩ : ∃ written, m.canonicalText = some written := Json.exists_canonical hm
  have hmessages := messages_eq packagedGenerator m (⟨{}, ()⟩ : Session Unit) rfl rfl
  rw [hwritten] at hmessages
  rw [generate, hmessages]
  rfl

def ones (n : Nat) : String := String.ofList (List.replicate n '1')

theorem hasLongNumber_ones {n : Nat} (h : Json.maxDigits < n) : ApiSpec.HasLongNumber (ones n) := by
  have hchars : (ones n).toList = List.replicate n '1' := String.toList_ofList
  have hwhole : Json.IsWhole (List.replicate n '1') := by
    refine ⟨fun c hc => ?_, ?_, fun hzero => ?_⟩
    · rw [List.eq_of_mem_replicate hc]
      rfl
    · intro hempty
      rw [List.replicate_eq_nil_iff] at hempty
      omega
    · rw [List.head?_replicate, if_neg (by omega)] at hzero
      exact absurd hzero (by decide)
  have hnone : Text.between? '{' '}' (List.replicate n '1') = none := by
    rw [Text.between?, Text.afterFirst?]
    simp
  have hextract : extractObject (ones n) = ones n := by
    rw [extractObject, hchars, hnone]
  refine ⟨?_, n, ?_⟩
  · refine not_isAllBlank_of_mem (c := '1') ?_ (by decide)
    rw [hchars, List.mem_replicate]
    exact ⟨by omega, rfl⟩
  · rw [hextract, ones, Json.parse_tooManyDigits hwhole (by rwa [List.length_replicate]),
      List.length_replicate]

/-- An answer that is a whole number of one digit too many ends the run. -/
theorem generate_longNumber_raises :
    ¬ ∃ generation,
      (packagedGenerator.generate (constant (.content (some (ones (Json.maxDigits + 1)))))
      healthModule ⟨{}, ()⟩).1 = .ok generation := by
  rintro ⟨generation, hok⟩
  have hlong := hasLongNumber_ones (Nat.lt_succ_self Json.maxDigits)
  obtain ⟨e, he⟩ := (comesOf_generationOfText _).raises.mpr hlong
  rw [generate_constant _ (by decide), he] at hok
  exact absurd hok (by simp)

end Generator

end ServiceMigration.Completion
