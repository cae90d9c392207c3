import ServiceMigration.Proofs.Chunk.Identifier
import ServiceMigration.Proofs.Chunk.Window
/-!
# References that a chunk resolves

The mapping resolves a type by its simple name, and the closure of a chunk holds what the scan for
identifiers finds.  The two agree on a type just when the scan finds its simple name, and on every
text of a simple name just when that is an identifier to the scan, which knows only the letters of
the Latin alphabet at the beginning of one.
-/

namespace ServiceMigration.Chunk

open Mapping

/-- The types that a module mentions: those of its endpoints, and those of the fields of its
data-transfer types. -/
def mentionedTypes (m : ModuleSpec) : List TypeRef :=
  m.endpoints.flatMap mentions ++ m.dtos.flatMap fun d => d.fields.map (·.type)

/-- If the module declares what the mapping resolves a type by, the chunk has one of that name. -/
def ResolvesIn (m c : ModuleSpec) (t : TypeRef) : Prop :=
  simpleName t.contentName ≠ "" → simpleName t.contentName ∈ knownNames m.dtos →
    simpleName t.contentName ∈ knownNames c.dtos

/-- A type dangles in no chunk that mentions it, whatever the module and the size of its chunks. -/
def Resolves (t : TypeRef) : Prop :=
  ∀ (m : ModuleSpec) (size : Int) (chunks : List ModuleSpec), m.chunksOf size = .ok chunks →
    ∀ c ∈ chunks, t ∈ mentionedTypes c → ResolvesIn m c t

variable {m c : ModuleSpec} {t : TypeRef} {size : Int} {chunks : List ModuleSpec}

theorem chunks_eq_of_chunksOf (h : m.chunksOf size = .ok chunks) :
    1 ≤ size ∧ chunks = m.chunks size.toNat := by
  rw [ModuleSpec.chunksOf] at h
  split at h
  · simp at h
  · next hsize =>
    have hchunks : m.chunks size.toNat = chunks := by simpa using h
    exact ⟨by omega, hchunks.symm⟩

/-- A name that the scan finds in a type is one that the closure asks for. -/
theorem mem_names_of_mem_mentionedTypes {n : String} (ht : t ∈ mentionedTypes c)
    (hn : n ∈ referencedNames t) : n ∈ seedNames c.endpoints ∨ ∃ d ∈ c.dtos, n ∈ fieldNames d := by
  rcases List.mem_append.mp ht with ht | ht
  · exact .inl (List.mem_flatMap.mpr ⟨t, ht, hn⟩)
  · obtain ⟨d, hd, ht⟩ := List.mem_flatMap.mp ht
    exact .inr ⟨d, hd, List.mem_flatMap.mpr ⟨t, ht, hn⟩⟩

theorem resolves_of_mem_referencedNames (h : simpleName t.contentName ∈ referencedNames t) :
    Resolves t := by
  intro m size chunks hchunks c hc ht _ hknown
  obtain ⟨hsize, rfl⟩ := chunks_eq_of_chunksOf hchunks
  rcases ModuleSpec.mem_chunks (by omega) hc with ⟨rfl, -⟩ | ⟨hwindow, -⟩
  · exact hknown
  · have hnames := mem_names_of_mem_mentionedTypes ht h
    rw [hwindow.dtos] at hnames ⊢
    exact mem_knownNames_requiredDtos hknown hnames

/-! ### A module in which a type may dangle -/

def returning (t : TypeRef) : Endpoint where
  id := Endpoint.identity "Courses" "find" "GET"
  controllerClass := "Courses"
  methodName := "find"
  httpMethod := "GET"
  path := "/courses"
  responseBody := some t

/-- A module of two such endpoints, with a data-transfer type that has the name of the type. -/
def returningTwice (t : TypeRef) : ModuleSpec where
  projectName := "school"
  moduleName := "courses"
  endpoints := [returning t, returning t]
  dtos := [{ name := t.contentName }]

theorem chunksOf_returningTwice (t : TypeRef) :
    (returningTwice t).chunksOf 1 =
      .ok [(returningTwice t).window [returning t], (returningTwice t).window [returning t]] := by
  simp [ModuleSpec.chunksOf, ModuleSpec.chunks, ModuleSpec.fits, returningTwice, windows_of_pos]

theorem mem_mentionedTypes_window_returning (m : ModuleSpec) (t : TypeRef) :
    t ∈ mentionedTypes (m.window [returning t]) := by
  simp [mentionedTypes, ModuleSpec.window, mentions, returning]

theorem seedNames_returning (t : TypeRef) : seedNames [returning t] = referencedNames t := by
  simp [seedNames, mentions, returning, Endpoint.allParams]

/-- In that module the type dangles unless the scan finds its name. -/
theorem not_resolvesIn_returningTwice (hname : simpleName t.contentName ≠ "")
    (h : simpleName t.contentName ∉ referencedNames t) :
    ¬ ResolvesIn (returningTwice t) ((returningTwice t).window [returning t]) t := by
  intro hresolves
  have hknown : simpleName t.contentName ∈ knownNames (returningTwice t).dtos := by
    simp [returningTwice, knownNames]
  have hnil : ((returningTwice t).window [returning t]).dtos = [] := by
    refine requiredDtos_eq_nil fun n hn hmem => h ?_
    rw [seedNames_returning] at hn
    have heq : n = simpleName t.contentName := by simpa [returningTwice, knownNames] using hmem
    rwa [← heq]
  have hmem := hresolves hname hknown
  rw [hnil] at hmem
  simp [knownNames] at hmem

theorem mem_referencedNames_of_resolves (h : Resolves t) (hname : simpleName t.contentName ≠ "") :
    simpleName t.contentName ∈ referencedNames t := by
  refine Classical.byContradiction fun hno => ?_
  exact not_resolvesIn_returningTwice hname hno
    (h (returningTwice t) 1 _ (chunksOf_returningTwice t) _ (List.mem_cons_self ..)
      (mem_mentionedTypes_window_returning _ t))

theorem resolves_iff_mem_referencedNames (t : TypeRef) :
    Resolves t ↔ simpleName t.contentName = "" ∨ simpleName t.contentName ∈ referencedNames t := by
  constructor
  · intro h
    refine (Classical.em (simpleName t.contentName = "")).imp id fun hname => ?_
    exact mem_referencedNames_of_resolves h hname
  · rintro (hname | hmem)
    · exact fun _ _ _ _ _ _ _ hne => absurd hname hne
    · exact resolves_of_mem_referencedNames hmem

/-- A type dangles nowhere just when the scan finds its simple name in it, or that is empty; and no
type of some simple name dangles anywhere just when that name is an identifier to the scan, or
empty. -/
theorem resolves_iff (t : TypeRef) (name : String) :
    (Resolves t ↔ simpleName t.contentName = "" ∨ simpleName t.contentName ∈ referencedNames t) ∧
    ((∀ t : TypeRef, simpleName t.contentName = simpleName name → Resolves t) ↔
      simpleName name = "" ∨ isIdentifier (simpleName name).toList = true) := by
  refine ⟨resolves_iff_mem_referencedNames t, ?_, ?_⟩
  · intro hall
    refine (Classical.em (simpleName name = "")).imp id fun hname => ?_
    refine (forall_mem_namesIn_iff name).mp fun text htext => ?_
    have hresolves : Resolves { name := text } := hall { name := text } htext
    have hmem := mem_referencedNames_of_resolves hresolves (by rwa [← htext] at hname)
    rwa [← htext]
  · rintro (hname | hid) t ht
    · exact (resolves_iff_mem_referencedNames t).mpr (.inl (ht.trans hname))
    · rw [← ht] at hid
      exact resolves_of_mem_referencedNames
        (mem_referencedNames_of_mem_namesIn (simpleName_mem_namesIn hid))

/-- The scan takes the first letter of this name for no part of it. -/
theorem umlaut_dangles :
    ¬ ∀ chunks, (returningTwice { name := "Übung" }).chunksOf 1 = .ok chunks →
      ∀ c ∈ chunks, ∀ t ∈ mentionedTypes c,
        ResolvesIn (returningTwice { name := "Übung" }) c t := by
  intro h
  exact not_resolvesIn_returningTwice (by decide) (by decide)
    (h _ (chunksOf_returningTwice _) _ (List.mem_cons_self ..) _
      (mem_mentionedTypes_window_returning _ _))

end ServiceMigration.Chunk
