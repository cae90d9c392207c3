import ServiceMigration.Proofs.Service.FirstItems
import ServiceMigration.Proofs.Service.RoundTrip
/-!
# Analyses are read back as they were written

An analysis that was read, built up item by item, or merged from others holds items that are
consistent, each under an identity of its own.  This is kept by everything that makes an analysis
(`Reachable.isRegular`), and it is what reading needs: every item is read back, and none is taken
for a duplicate of an earlier one.
-/

namespace ServiceMigration

open Validation Value

/-! ### Registers -/

/-- Different identities, and items that are as asked. -/
structure IsRegister (id : α → String) (p : α → Prop) (items : List α) : Prop where
  distinct : (items.map id).Nodup
  all : ∀ a ∈ items, p a

section

variable {α : Type} {id : α → String} {p : α → Prop} {items more : List α} {a : α}

theorem isRegister_nil : IsRegister id p [] := ⟨List.nodup_nil, nofun⟩

theorem IsRegister.insertFirst (h : IsRegister id p items) (ha : p a) :
    IsRegister id p (insertFirst id items a).1 where
  distinct := nodup_insertFirst h.distinct a
  all := by
    by_cases hmem : id a ∈ items.map id
    · rw [insertFirst_of_mem hmem]
      exact h.all
    · rw [insertFirst_of_not_mem hmem]
      intro b hb
      rcases List.mem_append.mp hb with hb | hb
      · exact h.all b hb
      · exact List.mem_singleton.mp hb ▸ ha

theorem IsRegister.insertAll (h : IsRegister id p items) (hmore : ∀ a ∈ more, p a) :
    IsRegister id p (insertAll id items more) := by
  induction more generalizing items with
  | nil => exact h
  | cons a rest ih =>
    obtain ⟨ha, hrest⟩ := List.forall_mem_cons.mp hmore
    exact ih (h.insertFirst ha) hrest

end

namespace Analysis

/-- Four registers of consistent items. -/
structure IsRegular (a : Analysis) : Prop where
  endpoints : IsRegister Endpoint.id Endpoint.IsConsistent a.endpoints
  dtos : IsRegister Dto.id Dto.IsConsistent a.dtos
  services : IsRegister Service.id Service.IsConsistent a.services
  repositories : IsRegister Repository.id (fun _ => True) a.repositories

/-- What can be made of validated models by reading payloads, by adding and by merging. -/
inductive Reachable : Analysis → Prop
  | empty : Reachable empty
  | ofPayload {payload : Value} {records : List Record} {a : Analysis}
      (h : ofPayload payload = (records, .ok a)) : Reachable a
  | addEndpoint {a : Analysis} (h : Reachable a) {e : Endpoint} (he : e.IsConsistent) :
      Reachable (a.addEndpoint e).1
  | addDto {a : Analysis} (h : Reachable a) {d : Dto} (hd : d.IsConsistent) :
      Reachable (a.addDto d).1
  | addService {a : Analysis} (h : Reachable a) {s : Service} (hs : s.IsConsistent) :
      Reachable (a.addService s).1
  | addRepository {a : Analysis} (h : Reachable a) (r : Repository) :
      Reachable (a.addRepository r).1
  | merge {a b : Analysis} (ha : Reachable a) (hb : Reachable b) : Reachable (a.merge b)

/-- The types that the items of an analysis mention. -/
def types (a : Analysis) : List TypeRef :=
  a.endpoints.flatMap Chunk.mentions ++ a.dtos.flatMap (fun d => d.fields.map (·.type)) ++
    a.services.flatMap (·.types)

/-! ### What is kept -/

variable {a b : Analysis}

theorem isRegular_empty : empty.IsRegular :=
  ⟨isRegister_nil, isRegister_nil, isRegister_nil, isRegister_nil⟩

theorem IsRegular.addEndpoint (h : a.IsRegular) {e : Endpoint} (he : e.IsConsistent) :
    (a.addEndpoint e).1.IsRegular :=
  { h with endpoints := h.endpoints.insertFirst he }

theorem IsRegular.addDto (h : a.IsRegular) {d : Dto} (hd : d.IsConsistent) :
    (a.addDto d).1.IsRegular :=
  { h with dtos := h.dtos.insertFirst hd }

theorem IsRegular.addService (h : a.IsRegular) {s : Service} (hs : s.IsConsistent) :
    (a.addService s).1.IsRegular :=
  { h with services := h.services.insertFirst hs }

theorem IsRegular.addRepository (h : a.IsRegular) (r : Repository) :
    (a.addRepository r).1.IsRegular :=
  { h with repositories := h.repositories.insertFirst trivial }

theorem IsRegular.merge (ha : a.IsRegular) (hb : b.IsRegular) : (a.merge b).IsRegular where
  endpoints := ha.endpoints.insertAll hb.endpoints.all
  dtos := ha.dtos.insertAll hb.dtos.all
  services := ha.services.insertAll hb.services.all
  repositories := ha.repositories.insertAll hb.repositories.all

theorem itemOf_eq_ok {α : Type} {model : String} {x : Checked α} {y : α}
    (h : itemOf model x = .ok y) :
    x = .ok y := by
  cases x with
  | ok z => rw [Except.ok.inj h]
  | _ => exact absurd h nofun

theorem IsRegular.addEndpoints (h : a.IsRegular) {items : List Value} {records : List Record}
    (hadd : addEndpoints a items = (records, .ok b)) : b.IsRegular := by
  induction items generalizing a records with
  | nil =>
    obtain rfl := Except.ok.inj (Prod.mk.inj hadd).2
    exact h
  | cons item rest ih =>
    rw [Analysis.addEndpoints] at hadd
    split at hadd
    · exact absurd (Prod.mk.inj hadd).2 nofun
    · next e he =>
      have hstep := h.addEndpoint (Endpoint.isConsistent_of_read (itemOf_eq_ok he))
      exact ih hstep (Prod.ext rfl (Prod.mk.inj hadd).2)

/-- Adding items keeps what adding one of them keeps. -/
theorem IsRegular.addItems {α : Type} {read : Value → Except Error α}
    {add : Analysis → α → Analysis × Bool}
    (hstep : ∀ v x, read v = .ok x → ∀ a : Analysis, a.IsRegular → (add a x).1.IsRegular)
    (h : a.IsRegular)
    {items : List Value} (hadd : addItems read add a items = .ok b) : b.IsRegular := by
  induction items generalizing a with
  | nil =>
    obtain rfl := Except.ok.inj hadd
    exact h
  | cons item rest ih =>
    rw [Analysis.addItems] at hadd
    split at hadd
    · exact absurd hadd nofun
    · next x hx => exact ih (hstep item x hx a h) hadd

theorem ok_bind {ε α β : Type} (x : α) (f : α → Except ε β) : (Except.ok x >>= f) = f x := rfl

theorem bind_eq_ok {ε α β : Type} {x : Except ε α} {f : α → Except ε β} {y : β}
    (h : (x >>= f) = .ok y) :
    ∃ z, x = .ok z ∧ f z = .ok y := by
  cases x with
  | ok z => exact ⟨z, rfl, h⟩
  | error e => exact absurd h nofun

theorem IsRegular.addRest (h : a.IsRegular) {payload : List (Scalar × Value)}
    (hadd : addRest a payload = .ok b) : b.IsRegular := by
  obtain ⟨dtos, -, hadd⟩ := bind_eq_ok hadd
  obtain ⟨a₁, hdtos, hadd⟩ := bind_eq_ok hadd
  obtain ⟨services, -, hadd⟩ := bind_eq_ok hadd
  obtain ⟨a₂, hservices, hadd⟩ := bind_eq_ok hadd
  obtain ⟨repositories, -, hrepositories⟩ := bind_eq_ok hadd
  have h₁ : a₁.IsRegular :=
    h.addItems (fun _ _ hd _ ha => ha.addDto (Dto.isConsistent_of_read (itemOf_eq_ok hd))) hdtos
  have h₂ : a₂.IsRegular :=
    h₁.addItems (fun _ _ hs _ ha => ha.addService (Service.isConsistent_of_read (itemOf_eq_ok hs)))
      hservices
  exact h₂.addItems (fun _ r _ _ ha => ha.addRepository r) hrepositories

theorem isRegular_of_ofPayload {payload : Value} {records : List Record}
    (h : Analysis.ofPayload payload = (records, .ok a)) : a.IsRegular := by
  unfold Analysis.ofPayload at h
  split at h
  · next entries =>
    unfold ofEntries at h
    split at h
    · exact absurd (Prod.mk.inj h).2 nofun
    · next items _ =>
      obtain ⟨b, hb, hrest⟩ := bind_eq_ok (Prod.mk.inj h).2
      exact (isRegular_empty.addEndpoints (Prod.ext rfl hb)).addRest hrest
  · exact absurd (Prod.mk.inj h).2 nofun

theorem Reachable.isRegular (h : a.Reachable) : a.IsRegular := by
  induction h with
  | empty => exact isRegular_empty
  | ofPayload h => exact isRegular_of_ofPayload h
  | addEndpoint _ he ih => exact ih.addEndpoint he
  | addDto _ hd ih => exact ih.addDto hd
  | addService _ hs ih => exact ih.addService hs
  | addRepository _ r ih => exact ih.addRepository r
  | merge _ _ iha ihb => exact iha.merge ihb

/-! ### Reading what was written -/

theorem addEndpoints_map {es : List Endpoint} (hread : ∀ e ∈ es, Endpoint.read e.toValue = .ok e)
    (h : ((a.endpoints ++ es).map Endpoint.id).Nodup) :
    Analysis.addEndpoints a (es.map Endpoint.toValue) =
      ([], .ok { a with endpoints := a.endpoints ++ es }) := by
  induction es generalizing a with
  | nil => simp [Analysis.addEndpoints]
  | cons e rest ih =>
    obtain ⟨he, hrest⟩ := List.forall_mem_cons.mp hread
    have hadd : a.addEndpoint e = ({ a with endpoints := a.endpoints ++ [e] }, true) := by
      rw [Analysis.addEndpoint, insertFirst_of_not_mem (not_mem_of_nodup h)]
    have hstep := ih (a := { a with endpoints := a.endpoints ++ [e] }) hrest (by simpa using h)
    rw [List.map_cons, Analysis.addEndpoints, he, itemOf]
    dsimp only
    rw [hadd]
    dsimp only
    rw [hstep, if_pos rfl, List.append_assoc, List.singleton_append]

theorem addItems_map {α : Type} {model : String} {read : Value → Checked α} {toValue : α → Value}
    (add : Analysis → α → Analysis × Bool) {xs : List α}
    (hread : ∀ x ∈ xs, read (toValue x) = .ok x) :
    Analysis.addItems (fun v => itemOf model (read v)) add a (xs.map toValue) =
      .ok (xs.foldl (fun a x => (add a x).1) a) := by
  induction xs generalizing a with
  | nil => rfl
  | cons x rest ih =>
    obtain ⟨hx, hrest⟩ := List.forall_mem_cons.mp hread
    rw [List.map_cons, Analysis.addItems, hx, itemOf, List.foldl_cons]
    exact ih hrest

theorem foldl_addDto (ds : List Dto) :
    ds.foldl (fun a d => (addDto a d).1) a = { a with dtos := insertAll Dto.id a.dtos ds } := by
  induction ds generalizing a with
  | nil => rfl
  | cons d rest ih => exact ih

theorem foldl_addService (ss : List Service) :
    ss.foldl (fun a s => (addService a s).1) a =
      { a with services := insertAll Service.id a.services ss } := by
  induction ss generalizing a with
  | nil => rfl
  | cons s rest ih => exact ih

theorem foldl_addRepository (rs : List Repository) :
    rs.foldl (fun a r => (addRepository a r).1) a =
      { a with repositories := insertAll Repository.id a.repositories rs } := by
  induction rs generalizing a with
  | nil => rfl
  | cons r rest ih => exact ih

theorem itemsOrNone_list (items : List Value) : Endpoint.itemsOrNone (.list items) = .ok items := by
  cases items <;> rfl

/-- The items of each kind stand under the key of the kind. -/
theorem payloadItems_toValue (a : Analysis) {entries : List (Scalar × Value)}
    (h : a.toValue = .dict entries) :
    payloadItems entries "endpoints" = .ok (a.endpoints.map Endpoint.toValue) ∧
      payloadItems entries "dtos" = .ok (a.dtos.map Dto.toValue) ∧
      payloadItems entries "services" = .ok (a.services.map Service.toValue) ∧
      payloadItems entries "repositories" = .ok (a.repositories.map Repository.toValue) := by
  rw [toValue, object] at h
  obtain rfl := (Value.dict.inj h).symm
  simp [payloadItems, entry?, itemsOrNone_list, Except.mapError]

/-- Every item of a regular analysis is read back. -/
theorem IsRegular.read_items (h : a.IsRegular) (helements : ∀ t ∈ a.types, t.HasElement) :
    (∀ e ∈ a.endpoints, Endpoint.read e.toValue = .ok e) ∧
    (∀ d ∈ a.dtos, Dto.read d.toValue = .ok d) ∧
      (∀ s ∈ a.services, Service.read s.toValue = .ok s) := by
  refine ⟨?_, ?_, ?_⟩
  · intro e he
    apply Endpoint.read_toValue (h.endpoints.all e he)
    intro t ht
    have hmem : t ∈ a.endpoints.flatMap Chunk.mentions := List.mem_flatMap.mpr ⟨e, he, ht⟩
    exact helements t (by simp [types, hmem])
  · intro d hd
    apply Dto.read_toValue (h.dtos.all d hd)
    intro t ht
    have hmem : t ∈ a.dtos.flatMap fun d => d.fields.map (·.type) :=
      List.mem_flatMap.mpr ⟨d, hd, ht⟩
    exact helements t (List.mem_append_left _ (List.mem_append_right _ hmem))
  · intro s hs
    apply Service.read_toValue (h.services.all s hs)
    intro t ht
    have hmem : t ∈ a.services.flatMap (·.types) := List.mem_flatMap.mpr ⟨s, hs, ht⟩
    exact helements t (List.mem_append_right _ hmem)

/-- What comes after the endpoints is put in as it was. -/
theorem addRest_toValue (h : a.IsRegular) (helements : ∀ t ∈ a.types, t.HasElement)
    {entries : List (Scalar × Value)} (hentries : a.toValue = .dict entries) :
    Analysis.addRest { endpoints := a.endpoints } entries = .ok a := by
  obtain ⟨-, hdtos, hservices, hrepositories⟩ := payloadItems_toValue a hentries
  obtain ⟨-, hreadDto, hreadService⟩ := h.read_items helements
  unfold Analysis.addRest
  rw [hdtos, ok_bind, addItems_map addDto hreadDto, ok_bind, foldl_addDto, hservices, ok_bind,
    addItems_map addService hreadService, ok_bind, foldl_addService, hrepositories, ok_bind,
    addItems_map addRepository fun r _ => r.read_toValue, foldl_addRepository,
    insertAll_nil h.dtos.distinct, insertAll_nil h.services.distinct,
      insertAll_nil h.repositories.distinct]

theorem ofPayload_toValue_of_isRegular (h : a.IsRegular) (helements : ∀ t ∈ a.types, t.HasElement) :
    Analysis.ofPayload a.toValue = ([], .ok a) := by
  obtain ⟨entries, hentries⟩ : ∃ entries, a.toValue = .dict entries := ⟨_, rfl⟩
  obtain ⟨hendpoints, -⟩ := payloadItems_toValue a hentries
  obtain ⟨hread, -⟩ := h.read_items helements
  have hadd :=
    addEndpoints_map (a := Analysis.empty) hread
      (by simpa [Analysis.empty] using h.endpoints.distinct)
  have hrest := addRest_toValue h helements hentries
  rw [hentries, Analysis.ofPayload, ofEntries, hendpoints]
  dsimp only
  rw [hadd]
  exact Prod.ext rfl hrest

/-- An analysis is read back as it was written, item by item and in order, and nothing is
dropped. -/
theorem Reachable.ofPayload_toValue (h : a.Reachable) (helements : ∀ t ∈ a.types, t.HasElement) :
    Analysis.ofPayload a.toValue = ([], .ok a) :=
  ofPayload_toValue_of_isRegular h.isRegular helements

/-- One endpoint with a verb in small letters and no path, and one type with a field that is said to
be optional and must not be null. -/
def orderPayload : Value :=
  .object [
    ("endpoints", .list [.object [
      ("controllerClass", .str "Orders"),
      ("methodName", .str "find"),
      ("httpMethod", .str "get"),
      ("methodPath", .str "/orders"),
      ("responseBody", .object [("name", .str "List<Order>"), ("collection", .bool true)])]]),
    ("dtos", .list [.object [
      ("name", .str "Order"),
      ("fields", .list [.object [
        ("name", .str "buyer"),
        ("type", .str "String"),
        ("validation", .object [("notNull", .bool true)]),
        ("optional", .bool true)]])]])]

/-- What is read from `orderPayload`. -/
def orders : Analysis where
  endpoints := [{
    id := "Orders#find::GET"
    controllerClass := "Orders"
    methodName := "find"
    methodPath := "/orders"
    httpMethod := "GET"
    path := "/orders"
    responseBody :=
      some { name := "List<Order>", collection := some { kind := "List", element := "Order" } } }]
  dtos := [{
    name := "Order"
    fields := [{
      name := "buyer", type := { name := "String" },
      constraints := { notNull := some true } }] }]

theorem ofPayload_toValue_orders : orders.Reachable ∧ (∀ t ∈ orders.types, t.HasElement) ∧
    Analysis.ofPayload orders.toValue = ([], .ok orders) := by
  have hread : Analysis.ofPayload orderPayload = ([], .ok orders) := by decide +kernel
  have hreachable : orders.Reachable := .ofPayload hread
  have helements : ∀ t ∈ orders.types, t.HasElement := by
    unfold TypeRef.HasElement
    decide
  exact ⟨hreachable, helements, hreachable.ofPayload_toValue helements⟩

end Analysis

end ServiceMigration
