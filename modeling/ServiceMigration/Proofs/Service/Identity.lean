import Mathlib.Data.List.Forall2
import ServiceMigration.Proofs.Service.Accumulation
import ServiceMigration.Proofs.Service.Validated
/-!
# What endpoints are known by

An item for an endpoint states a controller, a method and a verb, and these are to be its identity,
whatever else it claims.  The identity is one text that is made up from the three, and only if none
of them is blank; an item with a blank part goes by the identity that it claims.  So endpoints are
known by their parts exactly in payloads where no part is blank and no two items of different parts
are given the same text (`Analysis.knownByParts_iff`).  Different parts give different texts as long
as no controller has a hash sign and no verb a colon (`Endpoint.Parts.eq_of_identity_eq`).
-/

namespace ServiceMigration

open Validation Value

namespace Endpoint

variable {es es' : List (Scalar × Value)} {item item' : Value} {e : Endpoint}

/-! ### Parts -/

structure Parts where
  controller : String
  method : String
  verb : String
  deriving DecidableEq, Repr

namespace Parts

def identity (p : Parts) : String := Endpoint.identity p.controller p.method p.verb

structure ArePresent (p : Parts) : Prop where
  controller : Text.isAllBlank p.controller = false
  method : Text.isAllBlank p.method = false
  verb : Text.isAllBlank p.verb = false

instance (p : Parts) : Decidable p.ArePresent :=
  decidable_of_iff (Text.isAllBlank p.controller = false ∧ Text.isAllBlank p.method = false ∧
      Text.isAllBlank p.verb = false)
    ⟨fun ⟨hc, hm, hv⟩ => ⟨hc, hm, hv⟩, fun h => ⟨h.controller, h.method, h.verb⟩⟩

end Parts

def parts (e : Endpoint) : Parts := ⟨e.controllerClass, e.methodName, e.httpMethod⟩

/-- The parts that an item states, with the verb in capitals. -/
def partsOf? (item : Value) : Option Parts :=
  match item with
  | .dict es =>
    match TypeRef.either "controllerClass" "controller_class" es,
      TypeRef.either "methodName" "method_name" es,
        TypeRef.either "httpMethod" "http_method" es with
    | some (.scalar (.str c)), some (.scalar (.str m)), some (.scalar (.str v)) =>
      some ⟨c, m, Text.upper v⟩
    | _, _, _ => none
  | _ => none

theorem entries_of_readFields (h : readFields es = .ok e) :
    entry? (.str "id") es = some (str e.id) ∧
    TypeRef.either "controllerClass" "controller_class" es = some (str e.controllerClass) ∧
    TypeRef.either "methodName" "method_name" es = some (str e.methodName) ∧
    TypeRef.either "httpMethod" "http_method" es = some (str e.httpMethod) := by
  have hread := isReadFrom_of_readFields h
  exact ⟨entry?_of_required hread.id, either_of_required hread.controllerClass,
    either_of_required hread.methodName,
    either_of_required hread.httpMethod⟩

theorem verbKey_ne {name : String} (h : name ≠ "httpMethod") (h' : name ≠ "http_method")
    (es : List (Scalar × Value)) : name ≠ verbKey es := by
  unfold verbKey
  split
  · exact h
  · exact h'

theorem entry?_withVerb {name : String} (h : name ≠ "httpMethod") (h' : name ≠ "http_method")
    (es : List (Scalar × Value)) : entry? (.str name) (withVerb es) = entry? (.str name) es := by
  unfold withVerb
  split
  · exact entry?_insertEntry_of_ne (verbKey_ne h h' es) _ es
  · rfl

theorem either_withVerb {first second : String} (hfirst : first ≠ "httpMethod")
    (hfirst' : first ≠ "http_method")
    (hsecond : second ≠ "httpMethod") (hsecond' : second ≠ "http_method")
    (es : List (Scalar × Value)) :
    TypeRef.either first second (withVerb es) = TypeRef.either first second es := by
  rw [TypeRef.either, TypeRef.either, entry?_withVerb hfirst hfirst',
    entry?_withVerb hsecond hsecond']

theorem exists_prepared_of_read (h : read item = .ok e) :
    ∃ es prepared, item = .dict es ∧ withPath (withIdentity (withVerb es)) = .ok prepared ∧
      readFields prepared = .ok e := by
  obtain ⟨es, hitem, hfields⟩ := exists_of_readModel h
  split at hfields
  · next prepared hprepared => exact ⟨es, prepared, hitem, hprepared, hfields⟩
  · exact absurd hfields nofun

/-- What is read has the parts that the item states. -/
theorem partsOf?_of_read (h : read item = .ok e) : partsOf? item = some e.parts := by
  obtain ⟨es, prepared, rfl, hprepared, hfields⟩ := exists_prepared_of_read h
  obtain ⟨-, hclass, hmethod, hverb⟩ := entries_of_readFields hfields
  rw [either_prepared hprepared (by decide) (by decide) (by decide) (by decide)]
    at hclass hmethod hverb
  rw [either_withVerb (by decide) (by decide) (by decide) (by decide)] at hclass hmethod
  obtain ⟨v, hv, hcapitals⟩ := exists_of_withVerb hverb
  simp only [partsOf?, hclass, hmethod, hv, str, parts, hcapitals]

theorem id_of_read (h : read item = .ok e) (hpresent : e.parts.ArePresent) :
    e.id = e.parts.identity :=
  (isConsistent_of_read h).id hpresent.controller hpresent.method hpresent.verb

theorem isAllBlank_of_isPresent {s t : String} (h : TypeRef.presentText? (some (str s)) = some t) :
    Text.isAllBlank s = false := by
  rw [Bool.eq_false_iff]
  intro hblank
  simp [TypeRef.presentText?, str, hblank] at h

/-- An item that claims no identity is only read if it has all parts. -/
theorem arePresent_of_read (hid : ∀ s, entry? (.str "id") es ≠ some (str s))
    (h : read (.dict es) = .ok e) :
    e.parts.ArePresent := by
  obtain ⟨es, prepared, hes, hprepared, hfields⟩ := exists_prepared_of_read h
  obtain rfl := Value.dict.inj hes
  obtain ⟨hidentity, hclass, hmethod, hverb⟩ := entries_of_readFields hfields
  rw [entry?_id_prepared hprepared] at hidentity
  rw [either_prepared hprepared (by decide) (by decide) (by decide) (by decide)]
    at hclass hmethod hverb
  rw [withIdentity, entry?_verbKey, hclass, hmethod, hverb] at hidentity
  split at hidentity
  · next c m v hc hm hv =>
    exact ⟨isAllBlank_of_isPresent hc, isAllBlank_of_isPresent hm, isAllBlank_of_isPresent hv⟩
  · rw [entry?_withVerb (by decide) (by decide)] at hidentity
    exact absurd hidentity (hid e.id)

/-! ### Identities as texts -/

/-- Two lists that are cut at their first `x`. -/
theorem append_cons_inj {α : Type} {x : α} {front front' back back' : List α} (hfront : x ∉ front)
    (hfront' : x ∉ front') (h : front ++ x :: back = front' ++ x :: back') : front = front' ∧
    back = back' := by
  induction front generalizing front' with
  | nil =>
    cases front' with
    | nil => exact ⟨rfl, (List.cons.inj h).2⟩
    | cons y rest =>
      obtain ⟨rfl, -⟩ := List.cons.inj h
      exact absurd List.mem_cons_self hfront'
  | cons y rest ih =>
    cases front' with
    | nil =>
      obtain ⟨rfl, -⟩ := List.cons.inj h
      exact absurd List.mem_cons_self hfront
    | cons z rest' =>
      obtain ⟨rfl, htail⟩ := List.cons.inj h
      obtain ⟨rfl, hback⟩ :=
        ih (mt (List.mem_cons_of_mem _) hfront) (mt (List.mem_cons_of_mem _) hfront') htail
      exact ⟨rfl, hback⟩

theorem toList_identity (controller method verb : String) :
    (identity controller method verb).toList =
    controller.toList ++ '#' :: (method.toList ++ ':' :: ':' :: (Text.upper verb).toList) := by
  simp [identity, String.toList_append]

/-- Where controllers have no hash sign and verbs no colon, the identity tells the parts. -/
theorem Parts.eq_of_identity_eq {p p' : Parts} (h : p.identity = p'.identity)
    (hcontroller : '#' ∉ p.controller.toList) (hcontroller' : '#' ∉ p'.controller.toList)
    (hcapitals : Text.upper p.verb = p.verb) (hcapitals' : Text.upper p'.verb = p'.verb)
    (hverb : ':' ∉ p.verb.toList) (hverb' : ':' ∉ p'.verb.toList) : p = p' := by
  have hlists := congrArg String.toList h
  rw [Parts.identity, Parts.identity, toList_identity, toList_identity, hcapitals,
    hcapitals'] at hlists
  obtain ⟨hc, hrest⟩ := append_cons_inj hcontroller hcontroller' hlists
  -- the last colon is the first one from behind
  have hback := congrArg List.reverse hrest
  simp only [List.reverse_append, List.reverse_cons, List.append_assoc, List.singleton_append]
    at hback
  obtain ⟨hv, hm⟩ := append_cons_inj (by simpa using hverb) (by simpa using hverb') hback
  obtain ⟨c, m, v⟩ := p
  obtain ⟨c', m', v'⟩ := p'
  have hmethod : m = m' := String.toList_inj.mp (List.reverse_inj.mp (List.cons.inj hm).2)
  have hverbs : v = v' := String.toList_inj.mp (List.reverse_inj.mp hv)
  rw [Parts.mk.injEq]
  exact ⟨String.toList_inj.mp hc, hmethod, hverbs⟩

/-! ### Items that differ in the identity that they claim -/

/-- Entries with the same values under some names. -/
def AgreeOn (names : String → Prop) (es es' : List (Scalar × Value)) : Prop :=
  ∀ name, names name → entry? (.str name) es = entry? (.str name) es'

section

variable {names : String → Prop}

theorem AgreeOn.either {first second : String} (h : AgreeOn names es es') (hfirst : names first)
    (hsecond : names second) : TypeRef.either first second es =
      TypeRef.either first second es' := by
  rw [TypeRef.either, TypeRef.either, h first hfirst, h second hsecond]

/-- Entries agree on a name that is put in, whether they did before or not. -/
theorem agreeOn_insertEntry {k : String} (h : AgreeOn (fun name => names name ∧ name ≠ k) es es')
    (v : Value) :
    AgreeOn names (insertEntry (.str k) v es) (insertEntry (.str k) v es') := by
  intro name hname
  by_cases hk : name = k
  · rw [hk, entry?_insertEntry_self, entry?_insertEntry_self]
  · rw [entry?_insertEntry_of_ne hk, entry?_insertEntry_of_ne hk]
    exact h name ⟨hname, hk⟩

theorem AgreeOn.mono {more : String → Prop} (h : AgreeOn more es es')
    (hmore : ∀ name, names name → more name) :
    AgreeOn names es es' :=
  fun name hname => h name (hmore name hname)

end

/-- Items that say the same, but for the identity that they claim or do not claim. -/
def AlikeButId (item item' : Value) : Prop :=
  ∃ es es', item = .dict es ∧ item' = .dict es' ∧ AgreeOn (· ≠ "id") es es'

theorem partsOf?_of_alikeButId (h : AlikeButId item item') : partsOf? item' = partsOf? item := by
  obtain ⟨es, es', rfl, rfl, hagree⟩ := h
  have heither : ∀ {first second : String}, first ≠ "id" → second ≠ "id" →
      TypeRef.either first second es' = TypeRef.either first second es :=
    fun hfirst hsecond => (hagree.either hfirst hsecond).symm
  rw [partsOf?, partsOf?, heither (by decide) (by decide), heither (by decide) (by decide),
    heither (by decide) (by decide)]

theorem agreeOn_withVerb (h : AgreeOn (· ≠ "id") es es') :
    AgreeOn (· ≠ "id") (withVerb es) (withVerb es') := by
  have hkey : verbKey es = verbKey es' := by
    rw [verbKey, verbKey, h "httpMethod" (by decide)]
  have hverb : entry? (.str (verbKey es)) es = entry? (.str (verbKey es')) es' := by
    rw [entry?_verbKey, entry?_verbKey, h.either (by decide) (by decide)]
  unfold withVerb
  rw [← hverb, ← hkey]
  split
  · exact agreeOn_insertEntry (h.mono fun _ hname => hname.1) _
  · exact h

/-- Once an identity has been derived, nothing is left of the one that was claimed. -/
theorem agreeOn_withIdentity (h : AgreeOn (· ≠ "id") es es') {c m v : String}
    (hclass : TypeRef.either "controllerClass" "controller_class" es = some (str c))
    (hmethod : TypeRef.either "methodName" "method_name" es = some (str m))
    (hverb : TypeRef.either "httpMethod" "http_method" es = some (str v))
    (hpresent : Parts.ArePresent ⟨c, m, v⟩) :
    AgreeOn (fun _ => True) (withIdentity es) (withIdentity es') := by
  have hclass' := (h.either (by decide) (by decide)).symm.trans hclass
  have hmethod' := (h.either (by decide) (by decide)).symm.trans hmethod
  have hverb' := (h.either (by decide) (by decide)).symm.trans hverb
  have hc := TypeRef.presentText?_str hpresent.controller
  have hm := TypeRef.presentText?_str hpresent.method
  have hv := TypeRef.presentText?_str hpresent.verb
  simp only [withIdentity, entry?_verbKey, hclass, hmethod, hverb, hclass', hmethod',
    hverb', hc, hm, hv]
  exact agreeOn_insertEntry (h.mono fun _ hname => hname.2) _

theorem readFields_congr (h : AgreeOn (fun _ => True) es es') : readFields es = readFields es' := by
  have hentry : ∀ name, entry? (.str name) es = entry? (.str name) es' := fun name => h name trivial
  simp only [readFields, Validation.required, defaulted, firstPresent, hentry]

theorem withPath_congr {prepared : List (Scalar × Value)} (h : AgreeOn (fun _ => True) es es')
    (hprepared : withPath es = .ok prepared) :
    ∃ prepared', withPath es' = .ok prepared' ∧ AgreeOn (fun _ => True) prepared prepared' := by
  unfold withPath at hprepared ⊢
  rw [← h "path" trivial, ← h.either trivial trivial, ← h.either trivial trivial]
  split at hprepared
  · next hpath =>
    obtain rfl := Except.ok.inj hprepared
    exact ⟨es', if_pos hpath, h⟩
  · next hpath =>
    rw [if_neg hpath]
    split at hprepared
    · obtain rfl := Except.ok.inj hprepared
      exact ⟨_, rfl, agreeOn_insertEntry (h.mono fun _ _ => trivial) _⟩
    · exact absurd hprepared nofun

/-- The identity that an item claims makes no difference if the item has all parts. -/
theorem read_of_alikeButId (h : AlikeButId item item') (hread : read item = .ok e)
    (hpresent : e.parts.ArePresent) :
    read item' = .ok e := by
  obtain ⟨es, es', rfl, rfl, hagree⟩ := h
  obtain ⟨es, prepared, hes, hprepared, hfields⟩ := exists_prepared_of_read hread
  obtain rfl := Value.dict.inj hes
  obtain ⟨-, hclass, hmethod, hverb⟩ := entries_of_readFields hfields
  rw [either_prepared hprepared (by decide) (by decide) (by decide) (by decide)]
    at hclass hmethod hverb
  have hidentity := agreeOn_withIdentity (agreeOn_withVerb hagree) hclass hmethod hverb hpresent
  obtain ⟨prepared', hprepared', hsame⟩ := withPath_congr hidentity hprepared
  have hread' : read (.dict es') = readFields prepared' := by
    simp only [read, readModel, hprepared']
  rw [hread', ← readFields_congr hsame, hfields]

end Endpoint

namespace Analysis

variable {items items' before : List Value} {es : List Endpoint} {payload : List (Scalar × Value)}
  {a : Analysis}

/-! ### Items that are dropped -/

/-- The item at a place is read, and dropped when it is added to what the items before it gave. -/
def Drops (items : List Value) (i : Nat) : Prop :=
  ∃ item a e, items[i]? = some item ∧ (addEndpoints empty (items.take i)).2 = .ok a ∧
    Endpoint.read item = .ok e ∧ (a.addEndpoint e).2 = false

/-- Items, and what is read from them. -/
def Reads (items : List Value) (es : List Endpoint) : Prop :=
  List.Forall₂ (fun item e => Endpoint.read item = .ok e) items es

theorem reads_iff {model : String} :
    Reads items es ↔ (items.mapM fun v => itemOf model (Endpoint.read v)) = .ok es := by
  induction items generalizing es with
  | nil =>
    rw [Reads, List.forall₂_nil_left_iff, List.mapM_nil]
    exact ⟨fun h => h ▸ rfl, fun h => (Except.ok.inj h).symm⟩
  | cons item rest ih =>
    rw [List.mapM_cons]
    constructor
    · intro h
      cases h with
      | cons hread hrest =>
        rw [hread, ih.mp hrest]
        rfl
    · intro h
      obtain ⟨e, he, h⟩ := bind_eq_ok h
      obtain ⟨rest', hrest, h⟩ := bind_eq_ok h
      obtain rfl := Except.ok.inj h
      exact .cons (itemOf_eq_ok he) (ih.mpr hrest)

theorem addEndpoints_of_reads (h : Reads items es) :
    (addEndpoints empty items).2 = .ok { empty with endpoints := firsts Endpoint.id es } := by
  rw [snd_addEndpoints, addItems_eq, reads_iff.mp h, ← insertAll_nil_eq]
  exact congrArg Except.ok (foldl_addEndpoint es)

theorem Reads.at (h : Reads items es) (i : Nat) :
    Option.Rel (fun item e => Endpoint.read item = .ok e) items[i]? es[i]? := by
  induction h generalizing i with
  | nil => exact .none
  | cons hread _ ih =>
    cases i with
    | zero => exact .some hread
    | succ i => exact ih i

theorem Reads.endpoint (h : Reads items es) {i : Nat} {item : Value}
    (hitem : items[i]? = some item) :
    ∃ e, es[i]? = some e ∧ Endpoint.read item = .ok e := by
  have hread := h.at i
  rw [hitem] at hread
  generalize es[i]? = found at hread ⊢
  cases hread with
  | some hread => exact ⟨_, rfl, hread⟩

theorem Reads.item (h : Reads items es) {i : Nat} {e : Endpoint} (he : es[i]? = some e) :
    ∃ item, items[i]? = some item ∧ Endpoint.read item = .ok e := by
  have hread := h.at i
  rw [he] at hread
  generalize items[i]? = found at hread ⊢
  cases hread with
  | some hread => exact ⟨_, rfl, hread⟩

theorem addEndpoint_snd_iff (a : Analysis) (e : Endpoint) :
    (a.addEndpoint e).2 = false ↔ e.id ∈ a.endpoints.map Endpoint.id := by
  have hnew : (a.addEndpoint e).2 = true ↔ e.id ∉ a.endpoints.map Endpoint.id := insertFirst_snd_iff
  rw [← Bool.not_eq_true, hnew, not_not]

/-- An item is dropped exactly if an earlier one goes by the same identity. -/
theorem drops_iff (h : Reads items es) {i : Nat} {e : Endpoint} (he : es[i]? = some e) :
    Drops items i ↔ ∃ j < i, ∃ e', es[j]? = some e' ∧ e'.id = e.id := by
  have hbefore : Reads (items.take i) (es.take i) := List.forall₂_take i h
  obtain ⟨item, hitem, hread⟩ := h.item he
  have hdrops : Drops items i ↔ e.id ∈ (es.take i).map Endpoint.id := by
    rw [← mem_map_firsts]
    constructor
    · rintro ⟨item', a, e', hitem', ha, hread', hdrop⟩
      obtain rfl := Option.some.inj (hitem.symm.trans hitem')
      obtain rfl := Checked.ok.inj (hread.symm.trans hread')
      obtain rfl := Except.ok.inj ((addEndpoints_of_reads hbefore).symm.trans ha)
      exact (addEndpoint_snd_iff _ e).mp hdrop
    · intro hmem
      exact ⟨item, _, e, hitem, addEndpoints_of_reads hbefore, hread,
        (addEndpoint_snd_iff _ e).mpr hmem⟩
  rw [hdrops, List.mem_map]
  constructor
  · rintro ⟨e', hmem, hid⟩
    obtain ⟨j, hj⟩ := List.mem_iff_getElem?.mp hmem
    rw [List.getElem?_take] at hj
    split at hj
    · next hlt => exact ⟨j, hlt, e', hj, hid⟩
    · exact absurd hj nofun
  · rintro ⟨j, hlt, e', hj, hid⟩
    refine ⟨e', List.mem_iff_getElem?.mpr ⟨j, ?_⟩, hid⟩
    rw [List.getElem?_take, if_pos hlt, hj]

theorem Reads.ofPayload (hitems : payloadItems payload "endpoints" = .ok items)
    (h : (Analysis.ofPayload (.dict payload)).2 = .ok a) :
    ∃ es, Reads items es ∧ a.endpoints = firsts Endpoint.id es := by
  have hentries : (ofEntries payload).2 = .ok a := h
  rw [snd_ofEntries] at hentries
  obtain ⟨es, hes, hentries⟩ := bind_eq_ok hentries
  obtain ⟨dtos, -, hentries⟩ := bind_eq_ok hentries
  obtain ⟨services, -, hentries⟩ := bind_eq_ok hentries
  obtain ⟨repositories, -, hentries⟩ := bind_eq_ok hentries
  obtain rfl := Except.ok.inj hentries
  rw [readItems, hitems, ok_bind] at hes
  exact ⟨es, reads_iff.mpr hes, insertAll_nil_eq es⟩

/-! ### Payloads that differ in the identities that their items claim -/

/-- A payload with the same items, but for the identities that its endpoint items claim. -/
structure AlikeButIds (payload payload' : List (Scalar × Value)) (items items' : List Value) :
    Prop where
  endpoints : payloadItems payload' "endpoints" = .ok items'
  alike : List.Forall₂ Endpoint.AlikeButId items items'
  others : ∀ key ∈ ["dtos", "services", "repositories"], payloadItems payload' key =
    payloadItems payload key

theorem Reads.of_alikeButIds (h : Reads items es)
    (halike : List.Forall₂ Endpoint.AlikeButId items items')
    (hpresent : ∀ e ∈ es, e.parts.ArePresent) : Reads items' es := by
  induction h generalizing items' with
  | nil =>
    cases halike
    exact .nil
  | cons hread _ ih =>
    cases halike with
    | cons hitem hrest =>
      obtain ⟨he, hes⟩ := List.forall_mem_cons.mp hpresent
      exact .cons (Endpoint.read_of_alikeButId hitem hread he) (ih hrest hes)

theorem ofPayload_of_alikeButIds {payload' : List (Scalar × Value)}
    (hitems : payloadItems payload "endpoints" = .ok items)
    (h : AlikeButIds payload payload' items items')
    (hreads : Reads items es) (hpresent : ∀ e ∈ es, e.parts.ArePresent) :
    (ofPayload (.dict payload')).2 = (ofPayload (.dict payload)).2 := by
  have hreads' := hreads.of_alikeButIds h.alike hpresent
  have hendpoints : readItems "EndpointSpec" Endpoint.read payload' "endpoints" =
      readItems "EndpointSpec" Endpoint.read payload "endpoints" := by
    rw [readItems, readItems, hitems, h.endpoints, ok_bind, ok_bind, reads_iff.mp hreads,
      reads_iff.mp hreads']
  have hothers : ∀ {α : Type} (model : String) (read : Value → Checked α),
      ∀ key ∈ ["dtos", "services", "repositories"],
        readItems model read payload' key = readItems model read payload key := by
    intro α model read key hkey
    rw [readItems, readItems, h.others key hkey]
  change (ofEntries payload').2 = (ofEntries payload).2
  rw [snd_ofEntries, snd_ofEntries, hendpoints, hothers "DtoSpec" Dto.read "dtos" (by simp),
    hothers "ServiceSpec" Service.read "services" (by simp),
    hothers "RepositorySpec" Repository.read "repositories" (by simp)]

/-- The item with a claim of an identity that cannot be one. -/
def disclaim : Value → Value
  | .dict es => .dict (insertEntry (.str "id") .null es)
  | v => v

theorem alikeButId_disclaim (entries : List (Scalar × Value)) :
    Endpoint.AlikeButId (.dict entries) (disclaim (.dict entries)) :=
  ⟨entries, _, rfl, rfl, fun _ hname => (entry?_insertEntry_of_ne hname _ entries).symm⟩

/-- The payload with other items for endpoints. -/
def withEndpoints (payload : List (Scalar × Value)) (items : List Value) : List (Scalar × Value) :=
  insertEntry (.str "endpoints") (.list items) payload

theorem alikeButIds_disclaim (hreads : Reads items es) :
    AlikeButIds payload (withEndpoints payload (items.map disclaim)) items
      (items.map disclaim) where
  endpoints := by
    rw [payloadItems, withEndpoints, entry?_insertEntry_self]
    cases items with
    | nil => rfl
    | cons item rest => rfl
  alike := by
    induction hreads with
    | nil => exact .nil
    | @cons item e _ _ hread _ ih =>
      obtain ⟨entries, -, rfl, -, -⟩ := Endpoint.exists_prepared_of_read hread
      exact .cons (alikeButId_disclaim entries) ih
  others := by
    intro key hkey
    have hne : key ≠ "endpoints" := by
      rintro rfl
      simp at hkey
    rw [payloadItems, payloadItems, withEndpoints, entry?_insertEntry_of_ne hne]

/-! ### Endpoints that are known by their parts -/

/-- In a payload that is read, endpoints are known by their parts: an item is dropped exactly if an
earlier one states the same parts, what is kept goes by the identity that its parts make up, and
what items claim makes no difference. -/
structure KnownByParts (payload : List (Scalar × Value)) (items : List Value) (a : Analysis) :
    Prop where
  dropped : ∀ i item, items[i]? = some item →
    (Drops items i ↔ ∃ j < i, ∃ earlier, items[j]? = some earlier ∧
      Endpoint.partsOf? earlier = Endpoint.partsOf? item)
  ids : ∀ e ∈ a.endpoints, e.id = Endpoint.identity e.controllerClass e.methodName e.httpMethod
  free : ∀ payload' items', AlikeButIds payload payload' items items' →
    (ofPayload (.dict payload')).2 = .ok a ∧ ∀ i, Drops items' i ↔ Drops items i

theorem Reads.filterMap_partsOf? (h : Reads items es) :
    items.filterMap Endpoint.partsOf? = es.map Endpoint.parts := by
  induction h with
  | nil => rfl
  | cons hread _ ih => rw [List.filterMap_cons_some (Endpoint.partsOf?_of_read hread),
      List.map_cons, ih]

theorem Reads.exists_earlier_iff (h : Reads items es) {i : Nat} {item : Value} {e : Endpoint}
    (hread : Endpoint.read item = .ok e) :
    (∃ j < i, ∃ earlier, items[j]? = some earlier ∧
      Endpoint.partsOf? earlier = Endpoint.partsOf? item) ↔
      ∃ j < i, ∃ e', es[j]? = some e' ∧ e'.parts = e.parts := by
  rw [Endpoint.partsOf?_of_read hread]
  constructor
  · rintro ⟨j, hlt, earlier, hearlier, hsame⟩
    obtain ⟨e', he', hread'⟩ := h.endpoint hearlier
    rw [Endpoint.partsOf?_of_read hread'] at hsame
    exact ⟨j, hlt, e', he', Option.some.inj hsame⟩
  · rintro ⟨j, hlt, e', he', hsame⟩
    obtain ⟨earlier, hearlier, hread'⟩ := h.item he'
    exact ⟨j, hlt, earlier, hearlier, by rw [Endpoint.partsOf?_of_read hread', hsame]⟩

/-- What is read goes by the identity that its parts make up, if none of them is blank. -/
theorem Reads.id_eq (h : Reads items es) (hpresent : ∀ e ∈ es, e.parts.ArePresent) {i : Nat}
    {e : Endpoint} (he : es[i]? = some e) : e.id = e.parts.identity := by
  obtain ⟨item, -, hread⟩ := h.item he
  exact Endpoint.id_of_read hread (hpresent e (List.mem_of_getElem? he))

theorem knownByParts_of_distinct (hitems : payloadItems payload "endpoints" = .ok items)
    (h : (ofPayload (.dict payload)).2 = .ok a) (hreads : Reads items es)
    (hendpoints : a.endpoints = firsts Endpoint.id es) (hpresent : ∀ e ∈ es, e.parts.ArePresent)
    (hdistinct : ∀ e ∈ es, ∀ e' ∈ es, e'.parts.identity = e.parts.identity → e'.parts = e.parts) :
    KnownByParts payload items a where
  dropped := by
    intro i item hitem
    obtain ⟨e, he, hread⟩ := hreads.endpoint hitem
    have hsame : ∀ {j : Nat} {e' : Endpoint}, es[j]? = some e' → (e'.id = e.id ↔
        e'.parts = e.parts) := by
      intro j e' he'
      rw [hreads.id_eq hpresent he, hreads.id_eq hpresent he']
      constructor
      · exact hdistinct e (List.mem_of_getElem? he) e' (List.mem_of_getElem? he')
      · exact congrArg Endpoint.Parts.identity
    rw [drops_iff hreads he, hreads.exists_earlier_iff hread]
    constructor
    · rintro ⟨j, hlt, e', he', hid⟩
      exact ⟨j, hlt, e', he', (hsame he').mp hid⟩
    · rintro ⟨j, hlt, e', he', hparts⟩
      exact ⟨j, hlt, e', he', (hsame he').mpr hparts⟩
  ids := by
    intro e he
    rw [hendpoints] at he
    obtain ⟨i, hi⟩ := List.mem_iff_getElem?.mp (mem_of_mem_firsts he)
    exact hreads.id_eq hpresent hi
  free := by
    intro payload' items' halike
    refine ⟨(ofPayload_of_alikeButIds hitems halike hreads hpresent).trans h, ?_⟩
    intro i
    have hreads' := hreads.of_alikeButIds halike.alike hpresent
    cases he : es[i]? with
    | some e => rw [drops_iff hreads he, drops_iff hreads' he]
    | none =>
      have hnone : ∀ {items}, Reads items es → ¬Drops items i := by
        rintro items hreads ⟨item, -, -, hitem, -⟩
        obtain ⟨e, hsome, -⟩ := hreads.endpoint hitem
        rw [he] at hsome
        exact absurd hsome nofun
      exact iff_of_false (hnone hreads') (hnone hreads)

/-- Endpoints with all parts are known by them where no controller has a hash sign and no verb a
colon, as it is with names of classes and with verbs. -/
theorem knownByParts_of_plain (hitems : payloadItems payload "endpoints" = .ok items)
    (h : (ofPayload (.dict payload)).2 = .ok a)
    (hpresent : ∀ p ∈ items.filterMap Endpoint.partsOf?, p.ArePresent)
    (hcontroller : ∀ p ∈ items.filterMap Endpoint.partsOf?, '#' ∉ p.controller.toList)
    (hverb : ∀ p ∈ items.filterMap Endpoint.partsOf?, ':' ∉ p.verb.toList) :
      KnownByParts payload items a := by
  obtain ⟨es, hreads, hendpoints⟩ := Reads.ofPayload hitems h
  rw [hreads.filterMap_partsOf?] at hpresent hcontroller hverb
  have hcapitals : ∀ e ∈ es, Text.upper e.parts.verb = e.parts.verb := by
    intro e he
    obtain ⟨i, hi⟩ := List.mem_iff_getElem?.mp he
    obtain ⟨item, -, hread⟩ := hreads.item hi
    exact (Endpoint.isConsistent_of_read hread).verb
  apply knownByParts_of_distinct hitems h hreads hendpoints
  · intro e he
    exact hpresent e.parts (List.mem_map_of_mem he)
  · intro e he e' he' hidentity
    have hmem := List.mem_map_of_mem (f := Endpoint.parts) he
    have hmem' := List.mem_map_of_mem (f := Endpoint.parts) he'
    exact Endpoint.Parts.eq_of_identity_eq hidentity (hcontroller _ hmem') (hcontroller _ hmem)
      (hcapitals e' he')
      (hcapitals e he) (hverb _ hmem') (hverb _ hmem)

/-- If it makes no difference what items claim, they are read when they claim nothing; so they have
all parts. -/
theorem KnownByParts.arePresent (h : KnownByParts payload items a) (hreads : Reads items es) :
    ∀ e ∈ es, e.parts.ArePresent := by
  intro e he
  obtain ⟨i, hi⟩ := List.mem_iff_getElem?.mp he
  obtain ⟨item, hitem, hread⟩ := hreads.item hi
  have halike := @alikeButIds_disclaim _ _ payload hreads
  obtain ⟨es', hreads', -⟩ := Reads.ofPayload halike.endpoints (h.free _ _ halike).1
  have hitem' : (items.map disclaim)[i]? = some (disclaim item) := by
    rw [List.getElem?_map, hitem, Option.map_some]
  obtain ⟨e', -, hread'⟩ := hreads'.endpoint hitem'
  obtain ⟨entries, -, rfl, -, -⟩ := Endpoint.exists_prepared_of_read hread
  have hsame : e'.parts = e.parts := by
    have hparts := Endpoint.partsOf?_of_alikeButId (alikeButId_disclaim entries)
    rw [Endpoint.partsOf?_of_read hread, Endpoint.partsOf?_of_read hread'] at hparts
    exact Option.some.inj hparts
  rw [← hsame]
  refine Endpoint.arePresent_of_read ?_ hread'
  intro s hs
  rw [entry?_insertEntry_self] at hs
  exact absurd hs nofun

/-- Were two items of different parts given one identity, the later one of the first such pair would
be dropped, without an earlier item of its parts. -/
theorem KnownByParts.distinct (h : KnownByParts payload items a) (hreads : Reads items es) :
    ∀ e ∈ es, ∀ e' ∈ es, e'.parts.identity = e.parts.identity → e'.parts = e.parts := by
  have hpresent := h.arePresent hreads
  have hearlier : ∀ i : Nat, ∀ j < i, ∀ e e' : Endpoint, es[i]? = some e → es[j]? = some e' →
      e'.parts.identity = e.parts.identity → e'.parts = e.parts := by
    intro i
    induction i using Nat.strong_induction_on with
    | _ i ih =>
      intro j hj e e' he he' hidentity
      obtain ⟨item, hitem, hread⟩ := hreads.item he
      have hid : e'.id = e.id := by
        rw [hreads.id_eq hpresent he, hreads.id_eq hpresent he', hidentity]
      have hdrops : Drops items i := (drops_iff hreads he).mpr ⟨j, hj, e', he', hid⟩
      obtain ⟨k, hk, e'', he'', hparts⟩ :=
        (hreads.exists_earlier_iff hread).mp ((h.dropped i item hitem).mp hdrops)
      have hsame : e''.parts.identity = e'.parts.identity := by rw [hparts, hidentity]
      rw [← hparts]
      rcases Nat.lt_trichotomy j k with hlt | rfl | hgt
      · exact ih k hk j hlt e'' e' he'' he' hsame.symm
      · rw [Option.some.inj (he'.symm.trans he'')]
      · exact (ih j hj k hgt e' e'' he' he'' hsame).symm
  intro e he e' he' hidentity
  obtain ⟨i, hi⟩ := List.mem_iff_getElem?.mp he
  obtain ⟨j, hj⟩ := List.mem_iff_getElem?.mp he'
  rcases Nat.lt_trichotomy j i with hlt | rfl | hgt
  · exact hearlier i j hlt e e' hi hj hidentity
  · rw [Option.some.inj (hi.symm.trans hj)]
  · exact (hearlier j i hgt e' e hj hi hidentity.symm).symm

/-- In a payload that is read, endpoints are known by their parts exactly if every item has all
parts and no two items of different parts are given the same identity. -/
theorem knownByParts_iff (hitems : payloadItems payload "endpoints" = .ok items)
    (h : (ofPayload (.dict payload)).2 = .ok a) :
    KnownByParts payload items a ↔
      (∀ p ∈ items.filterMap Endpoint.partsOf?, p.ArePresent) ∧
      ∀ p ∈ items.filterMap Endpoint.partsOf?, ∀ p' ∈ items.filterMap Endpoint.partsOf?,
        p'.identity = p.identity → p' = p := by
  obtain ⟨es, hreads, hendpoints⟩ := Reads.ofPayload hitems h
  rw [hreads.filterMap_partsOf?]
  simp only [List.forall_mem_map]
  constructor
  · intro hknown
    exact ⟨hknown.arePresent hreads, hknown.distinct hreads⟩
  · rintro ⟨hpresent, hdistinct⟩
    exact knownByParts_of_distinct hitems h hreads hendpoints hpresent hdistinct

/-- An item with all parts, as it may come from an analysis of sources. -/
def endpointItem (id controller method verb : String) : Value :=
  .object [("id", .str id), ("controllerClass", .str controller), ("methodName", .str method),
    ("httpMethod", .str verb), ("path", .str "/")]

/-- What is read of such an item, if it is known by an identity. -/
def endpointKnownAs (id controller method : String) : Endpoint where
  id := id
  controllerClass := controller
  methodName := method
  httpMethod := "GET"
  path := "/"

def endpointsPayload (items : List Value) : List (Scalar × Value) :=
  [(.str "endpoints", .list items)]

/-- Two items of the same parts, which claim different identities, and one that claims the identity
of the first. -/
def userItems : List Value := [
  endpointItem "a" "Users" "find" "GET",
  endpointItem "Users#find::GET" "Users" "find" "get",
  endpointItem "a" "Users" "list" "Get"]

theorem knownByParts_userItems :
    (ofPayload (.dict (endpointsPayload userItems))).2 = .ok { endpoints := [
      endpointKnownAs "Users#find::GET" "Users" "find",
        endpointKnownAs "Users#list::GET" "Users" "list"] } ∧
    KnownByParts (endpointsPayload userItems) userItems { endpoints := [
      endpointKnownAs "Users#find::GET" "Users" "find",
        endpointKnownAs "Users#list::GET" "Users" "list"] } := by
  have haccepted : (ofPayload (.dict (endpointsPayload userItems))).2 = .ok { endpoints := [
      endpointKnownAs "Users#find::GET" "Users" "find",
        endpointKnownAs "Users#list::GET" "Users" "list"] } := by
    decide +kernel
  refine ⟨haccepted, (knownByParts_iff rfl haccepted).mpr ⟨?_, ?_⟩⟩
  · decide +kernel
  · decide +kernel

/-- Two items of the same parts, of which one is blank. -/
def blankItems : List Value := [endpointItem "a" "" "ping" "GET", endpointItem "b" "" "ping" "GET"]

/-- Two items of different parts that are given the same identity. -/
def clashingItems : List Value := [
  endpointItem "a" "Shop#stock" "list" "GET",
  endpointItem "b" "Shop" "stock#list" "GET"]

/-- Endpoints are not always known by their parts: with a blank part they go by what they claim, and
hash signs in their parts may give two of them the same identity. -/
theorem not_knownByParts :
    ((ofPayload (.dict (endpointsPayload blankItems))).2 =
        .ok { endpoints := [endpointKnownAs "a" "" "ping", endpointKnownAs "b" "" "ping"] } ∧
      ¬KnownByParts (endpointsPayload blankItems) blankItems
        { endpoints := [endpointKnownAs "a" "" "ping", endpointKnownAs "b" "" "ping"] }) ∧
    (ofPayload (.dict (endpointsPayload clashingItems))).2 =
        .ok { endpoints := [endpointKnownAs "Shop#stock#list::GET" "Shop#stock" "list"] } ∧
      ¬KnownByParts (endpointsPayload clashingItems) clashingItems
        { endpoints := [endpointKnownAs "Shop#stock#list::GET" "Shop#stock" "list"] } := by
  refine ⟨⟨by decide +kernel, ?_⟩, by decide +kernel, ?_⟩
  · intro h
    have hid := h.ids (endpointKnownAs "a" "" "ping") (by simp)
    exact absurd hid (by decide +kernel)
  · intro h
    have hdrops : Drops clashingItems 1 :=
      ⟨_, { endpoints := [endpointKnownAs "Shop#stock#list::GET" "Shop#stock" "list"] },
        endpointKnownAs "Shop#stock#list::GET" "Shop" "stock#list", rfl, by decide +kernel, by
          decide +kernel,
        by decide +kernel⟩
    obtain ⟨j, hj, earlier, hearlier, hsame⟩ := (h.dropped 1 _ rfl).mp hdrops
    obtain rfl : j = 0 := Nat.lt_one_iff.mp hj
    obtain rfl := Option.some.inj hearlier
    exact absurd hsame (by decide +kernel)

end Analysis

end ServiceMigration
