import Mathlib.Logic.Function.Basic
import ServiceMigration.Proofs.Service.Analysis
/-!
# Analyses as unions

An analysis is made by putting items in and by merging other analyses in, in any order and also into
itself.  Whatever was done, it holds the first item of every identity among all that ever came in,
of each kind on its own (`Analysis.performAll_collects`).  So merging is a union in which the
earlier item wins, and to read two payloads and to merge them is to read one payload with the items
of both (`Analysis.ofEntries_of_isConcatenation`).
-/

namespace ServiceMigration

namespace Analysis

/-! ### Items of all kinds -/

inductive Kind where
  | endpoint
  | dto
  | service
  | repository
  deriving DecidableEq, Repr

/-- Something that is put into an analysis. -/
inductive Item where
  | endpoint (e : Endpoint)
  | dto (d : Dto)
  | service (s : Service)
  | repository (r : Repository)
  deriving DecidableEq, Repr

def Item.kind : Item → Kind
  | .endpoint _ => .endpoint
  | .dto _ => .dto
  | .service _ => .service
  | .repository _ => .repository

/-- The identity of an item among those of its kind. -/
def Item.id : Item → String
  | .endpoint e => e.id
  | .dto d => d.id
  | .service s => s.id
  | .repository r => r.id

/-- The collection of a kind. -/
def ofKind (a : Analysis) : Kind → List Item
  | .endpoint => a.endpoints.map .endpoint
  | .dto => a.dtos.map .dto
  | .service => a.services.map .service
  | .repository => a.repositories.map .repository

def add (a : Analysis) : Item → Analysis × Bool
  | .endpoint e => a.addEndpoint e
  | .dto d => a.addDto d
  | .service s => a.addService s
  | .repository r => a.addRepository r

variable {a b : Analysis} {x : Item} {k : Kind} {xs ys : List Item}

/-- What adding does to the collection of the item. -/
theorem add_spec (a : Analysis) (x : Item) :
    (a.add x).1.ofKind x.kind = (insertFirst Item.id (a.ofKind x.kind) x).1 ∧
      (a.add x).2 = (insertFirst Item.id (a.ofKind x.kind) x).2 := by
  rw [← Prod.ext_iff (x := ((a.add x).1.ofKind x.kind, (a.add x).2))]
  cases x with
  | endpoint e => exact (map_insertFirst Endpoint.id Item.id (fun _ => rfl) a.endpoints e).symm
  | dto d => exact (map_insertFirst Dto.id Item.id (fun _ => rfl) a.dtos d).symm
  | service s => exact (map_insertFirst Service.id Item.id (fun _ => rfl) a.services s).symm
  | repository r =>
    exact (map_insertFirst Repository.id Item.id (fun _ => rfl) a.repositories r).symm

/-- To add an item leaves the collections of the other kinds. -/
theorem ofKind_add_of_ne (h : k ≠ x.kind) : (a.add x).1.ofKind k = a.ofKind k := by
  cases x <;> cases k
  -- the kind of the item itself is excluded
  all_goals first
    | exact absurd rfl h
    | rfl

theorem ofKind_merge (a b : Analysis) (k : Kind) :
    (a.merge b).ofKind k = insertAll Item.id (a.ofKind k) (b.ofKind k) := by
  cases k with
  | endpoint =>
    exact (map_insertAll Endpoint.id Item.id (fun _ => rfl) a.endpoints b.endpoints).symm
  | dto => exact (map_insertAll Dto.id Item.id (fun _ => rfl) a.dtos b.dtos).symm
  | service => exact (map_insertAll Service.id Item.id (fun _ => rfl) a.services b.services).symm
  | repository =>
    exact (map_insertAll Repository.id Item.id (fun _ => rfl) a.repositories b.repositories).symm

/-! ### Histories -/

/-- An operation on several analyses that go by names. -/
inductive Operation (ι : Type) where
  | add (target : ι) (x : Item)
  | merge (target source : ι)

section

variable {ι : Type} [DecidableEq ι] {analyses : ι → Analysis} {history : ι → List Item}

def Operation.perform (analyses : ι → Analysis) : Operation ι → ι → Analysis
  | .add target x => Function.update analyses target ((analyses target).add x).1
  | .merge target source =>
    Function.update analyses target ((analyses target).merge (analyses source))

/-- What came into each analysis, with what an operation brings: into a merged one comes all that
ever came into the other. -/
def Operation.insert (history : ι → List Item) : Operation ι → ι → List Item
  | .add target x => Function.update history target (history target ++ [x])
  | .merge target source => Function.update history target (history target ++ history source)

/-- What operations make of analyses that are all empty at first. -/
def performAll (ops : List (Operation ι)) : ι → Analysis :=
  ops.foldl Operation.perform fun _ => empty

/-- All items that operations put into each analysis, directly or with another one, in order. -/
def inserted (ops : List (Operation ι)) : ι → List Item := ops.foldl Operation.insert fun _ => []

/-- Of each kind, the first item of every identity. -/
def Collects (a : Analysis) (items : List Item) : Prop :=
  ∀ k, a.ofKind k = firsts Item.id (items.filter (·.kind = k))

theorem collects_empty : empty.Collects [] := by
  intro k
  cases k <;> rfl

theorem Collects.add (h : a.Collects xs) (x : Item) : (a.add x).1.Collects (xs ++ [x]) := by
  intro k
  by_cases hk : k = x.kind
  · subst hk
    have hlast : [x].filter (·.kind = x.kind) = [x] := by simp
    rw [(add_spec a x).1, h x.kind, List.filter_append,
      hlast, ← insertAll_nil_eq, ← insertAll_nil_eq, insertAll_append]
    rfl
  · have hlast : [x].filter (·.kind = k) = [] := by simpa using Ne.symm hk
    rw [ofKind_add_of_ne hk, h k, List.filter_append, hlast, List.append_nil]

theorem Collects.merge (ha : a.Collects xs) (hb : b.Collects ys) :
    (a.merge b).Collects (xs ++ ys) := by
  intro k
  rw [ofKind_merge, ha k, hb k, insertAll_firsts, List.filter_append]

/-- An operation keeps that analyses hold the first of what came into them. -/
theorem collects_perform (h : ∀ r, (analyses r).Collects (history r)) (op : Operation ι) (r : ι) :
    (op.perform analyses r).Collects (op.insert history r) := by
  cases op with
  | add target x =>
    by_cases hr : r = target
    · subst hr
      rw [Operation.perform, Operation.insert, Function.update_self, Function.update_self]
      exact (h r).add x
    · rw [Operation.perform, Operation.insert, Function.update_of_ne hr, Function.update_of_ne hr]
      exact h r
  | merge target source =>
    by_cases hr : r = target
    · subst hr
      rw [Operation.perform, Operation.insert, Function.update_self, Function.update_self]
      exact (h r).merge (h source)
    · rw [Operation.perform, Operation.insert, Function.update_of_ne hr, Function.update_of_ne hr]
      exact h r

theorem performAll_collects (ops : List (Operation ι)) (r : ι) :
    (performAll ops r).Collects (inserted ops r) := by
  have hrun : ∀ (analyses : ι → Analysis) (history : ι → List Item),
    (∀ r, (analyses r).Collects (history r)) →
      (ops.foldl Operation.perform analyses r).Collects (ops.foldl Operation.insert history r) := by
    induction ops with
    | nil => exact fun _ _ h => h r
    | cons op rest ih => exact fun _ _ h => ih _ _ (collects_perform h op)
  exact hrun _ _ fun _ => collects_empty

/-- An item is new to an analysis exactly if nothing of its kind and identity has come into it. -/
theorem Collects.add_snd_iff (h : a.Collects xs) (x : Item) :
    (a.add x).2 = true ↔ ∀ y ∈ xs, y.kind = x.kind → y.id ≠ x.id := by
  rw [(add_spec a x).2, insertFirst_snd_iff, h x.kind, mem_map_firsts]
  simp only [List.mem_map, List.mem_filter, decide_eq_true_eq, not_exists, not_and, and_imp, Ne]

end

/-! ### Laws of merging -/

theorem merge_assoc (a b c : Analysis) : (a.merge b).merge c = a.merge (b.merge c) := by
  simp only [merge, insertAll_insertAll]

theorem merge_twice (a b : Analysis) : (a.merge b).merge b = a.merge b := by
  have htwice : ∀ {α : Type} (id : α → String) (xs ys : List α),
      insertAll id (insertAll id xs ys) ys = insertAll id xs ys := fun id xs ys =>
    insertAll_of_subset fun _ hkey => mem_map_insertAll.mpr (.inr hkey)
  simp only [merge, htwice]

/-- Two analyses that were put together on their own are merged into what their items make
together. -/
theorem merge_empty_merge (xs ys : Analysis) :
    (empty.merge xs).merge (empty.merge ys) = empty.merge
      { endpoints := xs.endpoints ++ ys.endpoints
        dtos := xs.dtos ++ ys.dtos
        services := xs.services ++ ys.services
        repositories := xs.repositories ++ ys.repositories } := by
  simp only [merge, empty, insertAll_nil_eq, insertAll_firsts]

/-! ### Payloads -/

/-- The items under a key of a payload, all of them read. -/
def readItems {α : Type} (model : String) (read : Value → Validation.Checked α)
    (payload : List (Scalar × Value)) (key : String) : Except Error (List α) :=
  payloadItems payload key >>= fun items => items.mapM fun v => itemOf model (read v)

theorem addItems_eq {α : Type} (read : Value → Except Error α)
    (add : Analysis → α → Analysis × Bool) (a : Analysis) (items : List Value) :
    addItems read add a items = (items.mapM read).map fun xs =>
      xs.foldl (fun a x => (add a x).1) a := by
  induction items generalizing a with
  | nil => rfl
  | cons item rest ih =>
    rw [addItems, List.mapM_cons]
    cases read item with
    | error e => rfl
    | ok x =>
      dsimp only
      rw [ih]
      cases rest.mapM read <;> rfl

theorem snd_addEndpoints (a : Analysis) (items : List Value) :
    (addEndpoints a items).2 =
      addItems (fun v => itemOf "EndpointSpec" (Endpoint.read v)) addEndpoint a items := by
  induction items generalizing a with
  | nil => rfl
  | cons item rest ih =>
    rw [addEndpoints, addItems]
    cases itemOf "EndpointSpec" (Endpoint.read item) with
    | error e => rfl
    | ok e => exact ih _

theorem foldl_addEndpoint (es : List Endpoint) :
    es.foldl (fun a e => (addEndpoint a e).1) a =
      { a with endpoints := insertAll Endpoint.id a.endpoints es } := by
  induction es generalizing a with
  | nil => rfl
  | cons e rest ih => exact ih

section

variable {model key : String} {payload : List (Scalar × Value)}

/-- Items that are read and added one after the other may as well be read all and then added. -/
theorem bind_addItems {α : Type} {read : Value → Validation.Checked α}
    {add : Analysis → α → Analysis × Bool} (a : Analysis) :
    (payloadItems payload key >>= fun items =>
      addItems (fun v => itemOf model (read v)) add a items) =
      (readItems model read payload key >>= fun xs =>
        pure (xs.foldl (fun a x => (add a x).1) a)) := by
  rw [readItems]
  cases payloadItems payload key with
  | error e => rfl
  | ok items =>
    rw [ok_bind, ok_bind, addItems_eq]
    cases items.mapM fun v => itemOf model (read v) <;> rfl

theorem addRest_eq (a : Analysis) (payload : List (Scalar × Value)) : addRest a payload = (do
    let dtos ← readItems "DtoSpec" Dto.read payload "dtos"
    let services ← readItems "ServiceSpec" Service.read payload "services"
    let repositories ← readItems "RepositorySpec" Repository.read payload "repositories"
    return a.merge { dtos, services, repositories }) := by
  rw [addRest, ← bind_assoc, bind_addItems, bind_assoc]
  congr 1
  funext dtos
  rw [pure_bind, ← bind_assoc, bind_addItems, bind_assoc]
  congr 1
  funext services
  rw [pure_bind, bind_addItems]
  congr 1
  funext repositories
  rw [foldl_addDto, foldl_addService, foldl_addRepository]
  rfl

/-- To read a payload is to read its items, kind by kind, and then to put them together. -/
theorem snd_ofEntries (payload : List (Scalar × Value)) :
    (ofEntries payload).2 = (do
      let endpoints ← readItems "EndpointSpec" Endpoint.read payload "endpoints"
      let dtos ← readItems "DtoSpec" Dto.read payload "dtos"
      let services ← readItems "ServiceSpec" Service.read payload "services"
      let repositories ← readItems "RepositorySpec" Repository.read payload "repositories"
      return empty.merge { endpoints, dtos, services, repositories }) := by
  have hsplit : (ofEntries payload).2 = (payloadItems payload "endpoints" >>= fun items =>
      addItems (fun v => itemOf "EndpointSpec" (Endpoint.read v)) addEndpoint empty items) >>=
        fun a => addRest a payload := by
    rw [ofEntries]
    cases payloadItems payload "endpoints" with
    | error e => rfl
    | ok items => rw [ok_bind, ← snd_addEndpoints]; rfl
  rw [hsplit, bind_addItems, bind_assoc]
  congr 1
  funext endpoints
  rw [pure_bind, foldl_addEndpoint, addRest_eq]
  rfl

/-- The lists of a payload are those of two others, one behind the other. -/
def IsConcatenation (p q r : List (Scalar × Value)) : Prop :=
  ∀ key ∈ ["endpoints", "dtos", "services", "repositories"],
    payloadItems r key = (· ++ ·) <$> payloadItems p key <*> payloadItems q key

theorem readItems_of_append {α : Type} {read : Value → Validation.Checked α}
    {p q r : List (Scalar × Value)} {xs ys : List α}
    (hr : payloadItems r key = (· ++ ·) <$> payloadItems p key <*> payloadItems q key)
    (hp : readItems model read p key = .ok xs) (hq : readItems model read q key = .ok ys) :
    readItems model read r key = .ok (xs ++ ys) := by
  obtain ⟨us, hus, hxs⟩ := bind_eq_ok hp
  obtain ⟨vs, hvs, hys⟩ := bind_eq_ok hq
  rw [readItems, hr, hus, hvs]
  have happend : ((· ++ ·) <$> (Except.ok us : Except Error (List Value)) <*> .ok vs) =
      .ok (us ++ vs) := rfl
  rw [happend, ok_bind, List.mapM_append, hxs, hys]
  rfl

theorem ofEntries_of_isConcatenation {p q r : List (Scalar × Value)} (hr : IsConcatenation p q r)
    (hp : (ofEntries p).2 = .ok a) (hq : (ofEntries q).2 = .ok b) :
      (ofEntries r).2 = .ok (a.merge b) := by
  rw [snd_ofEntries] at hp hq
  obtain ⟨es, hes, hp⟩ := bind_eq_ok hp
  obtain ⟨ds, hds, hp⟩ := bind_eq_ok hp
  obtain ⟨ss, hss, hp⟩ := bind_eq_ok hp
  obtain ⟨rs, hrs, hp⟩ := bind_eq_ok hp
  obtain ⟨es', hes', hq⟩ := bind_eq_ok hq
  obtain ⟨ds', hds', hq⟩ := bind_eq_ok hq
  obtain ⟨ss', hss', hq⟩ := bind_eq_ok hq
  obtain ⟨rs', hrs', hq⟩ := bind_eq_ok hq
  obtain rfl := Except.ok.inj hp
  obtain rfl := Except.ok.inj hq
  rw [snd_ofEntries, readItems_of_append (hr _ (by simp)) hes hes', ok_bind,
    readItems_of_append (hr _ (by simp)) hds hds', ok_bind,
      readItems_of_append (hr _ (by simp)) hss hss', ok_bind,
    readItems_of_append (hr _ (by simp)) hrs hrs', ok_bind, merge_empty_merge]
  rfl

end

/-- Whatever was put into analyses and merged into them, each holds of each kind the first item of
every identity among all that came in, and an item is new to it exactly if its identity is.  To add
an item leaves the other kinds and the other analyses.  So it makes no difference in which order
analyses are merged with their neighbours, nor how often, and the payload with the items of two
payloads is read as what these are read as, merged. -/
theorem first_of_each_identity {ι : Type} [DecidableEq ι] (ops : List (Operation ι)) :
    (∀ r, (performAll ops r).Collects (inserted ops r)) ∧
    (∀ r x, ((performAll ops r).add x).2 = true ↔
      ∀ y ∈ inserted ops r, y.kind = x.kind → y.id ≠ x.id) ∧
    (∀ (analyses : ι → Analysis) target x r k, r ≠ target ∨ k ≠ x.kind →
      ((Operation.add target x).perform analyses r).ofKind k = (analyses r).ofKind k) ∧
    (∀ a b c : Analysis, (a.merge b).merge c = a.merge (b.merge c)) ∧
    (∀ a b : Analysis, (a.merge b).merge b = a.merge b) ∧
    ∀ p q r a b, IsConcatenation p q r → (ofPayload (.dict p)).2 = .ok a →
      (ofPayload (.dict q)).2 = .ok b →
      (ofPayload (.dict r)).2 = .ok (a.merge b) := by
  refine ⟨performAll_collects ops, fun r x => (performAll_collects ops r).add_snd_iff x, ?_,
    merge_assoc, merge_twice,
    fun p q r a b hr hp hq => ofEntries_of_isConcatenation hr hp hq⟩
  intro analyses target x r k hother
  by_cases hr : r = target
  · subst hr
    rw [Operation.perform, Function.update_self]
    exact ofKind_add_of_ne (hother.resolve_left fun hne => hne rfl)
  · rw [Operation.perform, Function.update_of_ne hr]

/-- A payload with types of these names. -/
def typesPayload (names : List String) : List (Scalar × Value) :=
  [(.str "dtos", .list (names.map fun name => .object [("name", .str name)]))]

/-- Two analyses that share a type; one is merged into the other, which is then merged into
itself. -/
def orderOperations : List (Operation String) := [
  .add "sales" (.dto { name := "Order" }),
  .add "stock" (.dto { name := "Order" }),
  .add "stock" (.dto { name := "Item" }),
  .merge "sales" "stock",
  .merge "sales" "sales"]

theorem first_of_each_identity_orders :
    (performAll orderOperations "sales").Collects (inserted orderOperations "sales") ∧
    IsConcatenation (typesPayload ["Order"]) (typesPayload ["Order", "Item"])
      (typesPayload ["Order", "Order", "Item"]) ∧
    (ofPayload (.dict (typesPayload ["Order"]))).2 = .ok { dtos := [{ name := "Order" }] } ∧
    (ofPayload (.dict (typesPayload ["Order", "Item"]))).2 =
      .ok { dtos := [{ name := "Order" }, { name := "Item" }] } ∧
    (ofPayload (.dict (typesPayload ["Order", "Order", "Item"]))).2 =
      .ok (merge { dtos := [{ name := "Order" }] }
        { dtos := [{ name := "Order" }, { name := "Item" }] }) := by
  obtain ⟨hcollects, -, -, -, -, hpayloads⟩ := first_of_each_identity orderOperations
  have hr : IsConcatenation (typesPayload ["Order"]) (typesPayload ["Order", "Item"])
      (typesPayload ["Order", "Order", "Item"]) := by
    intro key hkey
    simp only [List.mem_cons, List.not_mem_nil, or_false] at hkey
    rcases hkey with rfl | rfl | rfl | rfl <;> rfl
  have hp : (ofPayload (.dict (typesPayload ["Order"]))).2 =
      .ok { dtos := [{ name := "Order" }] } := by
    decide +kernel
  have hq : (ofPayload (.dict (typesPayload ["Order", "Item"]))).2 =
      .ok { dtos := [{ name := "Order" }, { name := "Item" }] } := by decide +kernel
  exact ⟨hcollects "sales", hr, hp, hq, hpayloads _ _ _ _ _ hr hp hq⟩

end Analysis

end ServiceMigration
