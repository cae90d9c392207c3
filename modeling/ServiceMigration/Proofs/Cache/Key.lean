import ServiceMigration.Cache.Key
import ServiceMigration.Proofs.Json.Written
import ServiceMigration.Proofs.Service.Form
import ServiceMigration.Proofs.Value.Lookup
/-!
# What a cache key identifies

The key of a module is the digest of a text, and that text is the module's own up to the place where
the module was read (`sameContent_of_canonicalText`).  So, as far as digests differ, a key stands
for one content: lists in their order, and metadata as a mapping (`contentKey_eq_iff`).  A module
with a number of too many digits has no key (`contentKey_eq_none_iff`).
-/

namespace ServiceMigration

open Json Value

/-! ### Metadata as a mapping -/

def textEntry (e : String × String) : Scalar × Value := (.str e.1, .str e.2)

theorem textEntry_injective : Function.Injective textEntry := by
  intro e f h
  obtain ⟨hkey, hvalue⟩ := Prod.mk.inj h
  exact Prod.ext (Scalar.str.inj hkey) (Scalar.str.inj (Value.scalar.inj hvalue))

theorem sortedEntries_textEntry_perm (es : List (String × String)) :
    (sortedEntries (es.map textEntry)).Perm (es.map textEntry) := by
  have hsame : (es.map textEntry).map sortedEntry = es.map textEntry := List.map_map
  have hperm := sortedEntries_perm (es.map textEntry)
  rwa [hsame] at hperm

/-- Metadata that is put in order says which mapping it is, and no more. -/
theorem sorted_textEntry_eq_iff {es fs : List (String × String)} (hes : (es.map Prod.fst).Nodup)
    (hfs : (fs.map Prod.fst).Nodup) :
    sorted (.dict (es.map textEntry)) = sorted (.dict (fs.map textEntry)) ↔
      ∀ k, es.lookup k = fs.lookup k := by
  rw [sorted, sorted, Value.dict.injEq, ← perm_iff_lookup hes hfs]
  constructor
  · intro h
    refine (List.map_perm_map_iff textEntry_injective).mp ?_
    exact (sortedEntries_textEntry_perm es).symm.trans (h ▸ sortedEntries_textEntry_perm fs)
  · intro h
    refine sortedEntries_congr (h.map textEntry) ?_
    rw [List.map_map]
    exact hes

/-! ### The content of a module -/

namespace ModuleSpec

theorem isDocument {m : ModuleSpec} (hkeys : (m.metadata.map Prod.fst).Nodup) :
    IsDocument Scalar.IsJson m.toValue := by
  rw [toValue, isDocument_object]
  refine ⟨by simp, ?_⟩
  simp only [List.forall_mem_cons]
  refine ⟨.scalar trivial, .scalar trivial, isDocument_list_map fun e _ => e.isDocument,
    isDocument_list_map fun d _ => d.isDocument, isDocument_list_map fun s _ => s.isDocument,
    isDocument_list_map fun r _ => r.isDocument, ?_, nofun⟩
  rw [isDocument_object, List.map_map]
  refine ⟨hkeys, List.forall_mem_map.mpr fun e _ => .scalar trivial⟩

/-- The same module, wherever it was read: the order of metadata and its entry `root` aside. -/
structure SameContent (a b : ModuleSpec) : Prop where
  projectName : a.projectName = b.projectName
  moduleName : a.moduleName = b.moduleName
  endpoints : a.endpoints = b.endpoints
  dtos : a.dtos = b.dtos
  services : a.services = b.services
  repositories : a.repositories = b.repositories
  metadata : ∀ key, key ≠ "root" → a.metadata.lookup key = b.metadata.lookup key

theorem lookup_withoutLocation (m : ModuleSpec) (key : String) :
    m.withoutLocation.metadata.lookup key = if key =
      "root" then none else m.metadata.lookup key := by
  rw [withoutLocation, lookup_filter_fst fun k => !locationKeys.contains k]
  by_cases hkey : key = "root" <;> simp [locationKeys, hkey]

theorem nodup_withoutLocation {m : ModuleSpec} (hkeys : (m.metadata.map Prod.fst).Nodup) :
    (m.withoutLocation.metadata.map Prod.fst).Nodup :=
  hkeys.sublist (List.filter_sublist.map Prod.fst)

theorem sorted_toValue_eq_iff {a b : ModuleSpec} (ha : (a.metadata.map Prod.fst).Nodup)
    (hb : (b.metadata.map Prod.fst).Nodup) :
    sorted a.toValue = sorted b.toValue ↔
      a.projectName = b.projectName ∧ a.moduleName = b.moduleName ∧ a.endpoints = b.endpoints ∧
        a.dtos = b.dtos ∧ a.services = b.services ∧ a.repositories = b.repositories ∧
        ∀ key, a.metadata.lookup key = b.metadata.lookup key := by
  have hmetadata : ∀ m : ModuleSpec,
      Value.object (m.metadata.map fun e => (e.1, .str e.2)) = .dict (m.metadata.map textEntry) :=
    fun m => congrArg Value.dict List.map_map
  rw [← sorted_textEntry_eq_iff ha hb, ← hmetadata, ← hmetadata]
  refine (sorted_object_eq_iff (by rfl) (by simp)).trans ?_
  simp only [List.map_cons, List.map_nil, List.cons.injEq, and_true]
  constructor
  · rintro ⟨hproject, hmodule, hendpoints, hdtos, hservices, hrepositories, hmetadata⟩
    exact ⟨faithful_str _ _ hproject, faithful_str _ _ hmodule,
      Endpoint.faithful.list _ _ hendpoints,
      Dto.faithful.list _ _ hdtos, Service.faithful.list _ _ hservices,
      Repository.faithful.list _ _ hrepositories, hmetadata⟩
  · rintro ⟨hproject, hmodule, hendpoints, hdtos, hservices, hrepositories, hmetadata⟩
    rw [hproject, hmodule, hendpoints, hdtos, hservices, hrepositories]
    exact ⟨rfl, rfl, rfl, rfl, rfl, rfl, hmetadata⟩

/-- What is put in order without its place is the same exactly for the same content. -/
theorem sorted_withoutLocation_eq_iff {a b : ModuleSpec} (ha : (a.metadata.map Prod.fst).Nodup)
    (hb : (b.metadata.map Prod.fst).Nodup) :
    sorted a.withoutLocation.toValue = sorted b.withoutLocation.toValue ↔ SameContent a b := by
  rw [sorted_toValue_eq_iff (nodup_withoutLocation ha) (nodup_withoutLocation hb)]
  simp only [lookup_withoutLocation]
  constructor
  · rintro ⟨hproject, hmodule, hendpoints, hdtos, hservices, hrepositories, hmetadata⟩
    refine ⟨hproject, hmodule, hendpoints, hdtos, hservices, hrepositories, fun key hkey => ?_⟩
    simpa [hkey] using hmetadata key
  · intro h
    refine ⟨h.projectName, h.moduleName, h.endpoints, h.dtos, h.services, h.repositories,
      fun key => ?_⟩
    by_cases hkey : key = "root"
    · simp [hkey]
    · simpa [hkey] using h.metadata key hkey

/-- A canonical text is of one content only. -/
theorem sameContent_of_canonicalText {a b : ModuleSpec} {text : String}
    (ha : (a.metadata.map Prod.fst).Nodup) (hb : (b.metadata.map Prod.fst).Nodup)
    (htext : a.withoutLocation.canonicalText = some text)
    (htext' : b.withoutLocation.canonicalText = some text) : SameContent a b := by
  rw [← sorted_withoutLocation_eq_iff ha hb]
  exact sorted_eq_of_canonical (isDocument (nodup_withoutLocation ha))
    (isDocument (nodup_withoutLocation hb)) htext htext'

theorem canonicalText_eq_of_sameContent {a b : ModuleSpec} (ha : (a.metadata.map Prod.fst).Nodup)
    (hb : (b.metadata.map Prod.fst).Nodup) (h : SameContent a b) :
    a.withoutLocation.canonicalText = b.withoutLocation.canonicalText :=
  congrArg render ((sorted_withoutLocation_eq_iff ha hb).mpr h)

theorem contentKey_eq_some_iff {m : ModuleSpec} {key : String} :
    m.contentKey = some key ↔
      ∃ text, m.withoutLocation.canonicalText = some text ∧ Digest.sha256Hex text = key :=
  Option.map_eq_some_iff

/-- The numbers of a module are those of what it contains; what it is called and where it was read
are words. -/
theorem hasLongNumber_toValue (m : ModuleSpec) :
    m.toValue.hasLongNumber =
      (m.endpoints.any (·.toValue.hasLongNumber) || m.dtos.any (·.toValue.hasLongNumber) ||
        m.services.any (·.toValue.hasLongNumber) ||
          m.repositories.any (·.toValue.hasLongNumber)) := by
  have hmetadata :
      (Value.object (m.metadata.map fun e => (e.1, .str e.2))).hasLongNumber = false := by
    rw [hasLongNumber_object, List.any_map, List.any_eq_false]
    exact fun e _ => by simp
  simp [toValue, hasLongNumber_object, hasLongNumber_list, List.any_map, hmetadata,
    Function.comp_def, Bool.or_assoc]

/-- A module has no key exactly if one of its numbers has too many digits to be written. -/
theorem contentKey_eq_none_iff {m : ModuleSpec} :
    m.contentKey = none ↔ m.toValue.hasLongNumber = true := by
  rw [contentKey, Option.map_eq_none_iff, canonicalText, canonical_eq_none_iff,
    hasLongNumber_toValue, hasLongNumber_toValue]
  rfl

/-- Without such a number there is a key. -/
theorem contentKey_of_written {m : ModuleSpec} (h : m.toValue.hasLongNumber = false) :
    m.contentKey = some (m.contentKey.getD "") := by
  have hkey : m.contentKey ≠ none := fun hnone => by simp [contentKey_eq_none_iff.mp hnone] at h
  obtain ⟨key, hsome⟩ := Option.ne_none_iff_exists'.mp hkey
  rw [hsome, Option.getD_some]

/-- A key is the key of one content, as far as digests tell texts apart, and modules of one content
have one key, or none if a number is too long to be written.  Doubles are the same if they are
written alike. -/
theorem contentKey_eq_iff {a b : ModuleSpec} (ha : (a.metadata.map Prod.fst).Nodup)
    (hb : (b.metadata.map Prod.fst).Nodup)
    (hdigest : ∀ text text', a.withoutLocation.canonicalText = some text →
      b.withoutLocation.canonicalText = some text' →
      Digest.sha256Hex text = Digest.sha256Hex text' → text = text') :
    (∀ key, a.contentKey = some key → (b.contentKey = some key ↔ SameContent a b)) ∧
      (SameContent a b → a.contentKey = b.contentKey) ∧
      (a.contentKey = none ↔ a.toValue.hasLongNumber = true) ∧
      ∀ d d' : Double, numeral.ofDouble d = numeral.ofDouble d' ↔ d = d' := by
  have hsame : SameContent a b → a.contentKey = b.contentKey := fun h => by
    rw [contentKey, contentKey, canonicalText_eq_of_sameContent ha hb h]
  refine ⟨fun key hkey => ⟨fun hkey' => ?_, fun h => (hsame h).symm.trans hkey⟩, hsame,
    contentKey_eq_none_iff,
    fun d d' => ⟨numeral_ofDouble_injective d d', fun h => by rw [h]⟩⟩
  obtain ⟨text, htext, rfl⟩ := contentKey_eq_some_iff.mp hkey
  obtain ⟨text', htext', hdigests⟩ := contentKey_eq_some_iff.mp hkey'
  obtain rfl := hdigest text text' htext htext' hdigests.symm
  exact sameContent_of_canonicalText ha hb htext htext'

def ledgerModule (metadata : List (String × String)) : ModuleSpec where
  projectName := "bank"
  moduleName := "ledger"
  dtos := [{ name := "Entry", fields := [{ name := "amount", type := { name := "BigDecimal" } }] }]
  metadata := metadata

/-- Two checkouts of one module, with their metadata in different orders, have one key. -/
theorem contentKey_ledgerModule :
    ∃ key,
      (ledgerModule [("root", "/home/a"), ("branch", "main"),
        ("team", "core")]).contentKey = some key ∧
      (ledgerModule [("team", "core"), ("branch", "main"),
        ("root", "/build")]).contentKey = some key := by
  have hsame : SameContent (ledgerModule [("root", "/home/a"), ("branch", "main"),
      ("team", "core")])
        (ledgerModule [("team", "core"), ("branch", "main"), ("root", "/build")]) := by
    refine ⟨rfl, rfl, rfl, rfl, rfl, rfl, fun key hkey => ?_⟩
    have hroot : (key == "root") = false := by simpa using hkey
    simp only [ledgerModule, List.lookup_cons, List.lookup_nil, hroot]
    by_cases hteam : key = "team"
    · subst hteam
      rfl
    · have hne : (key == "team") = false := by simpa using hteam
      rw [hne]
  have htexts := canonicalText_eq_of_sameContent (by decide) (by decide) hsame
  obtain ⟨hkeys, -, hnone, -⟩ := contentKey_eq_iff (by decide) (by decide)
    fun text text' htext htext' _ => Option.some.inj ((htext.symm.trans htexts).trans htext')
  obtain ⟨key, hkey⟩ := Option.ne_none_iff_exists'.mp fun h => absurd (hnone.mp h) (by decide)
  exact ⟨key, hkey, (hkeys key hkey).mpr hsame⟩

end ModuleSpec

end ServiceMigration
