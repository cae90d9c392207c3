import ServiceMigration.Chunk.Closure
/-!
# Chunks of a module

A module whose endpoints are too many for one request is cut into windows of endpoints, each with
the data-transfer types that it needs.  A module within the limit is its own single chunk.
-/

namespace ServiceMigration

namespace Chunk

/-- Consecutive windows of `size` items; the last may be shorter. -/
def windows (size : Nat) (items : List α) : List (List α) :=
  if _h : size = 0 ∨ items = [] then []
  else items.take size :: windows size (items.drop size)
termination_by items.length
decreasing_by
  have : 0 < items.length := by
    cases items with
    | nil => simp at _h
    | cons => simp
  simp only [List.length_drop]
  omega

theorem windows_of_pos {size : Nat} {items : List α} (hs : 0 < size) (hi : items ≠ []) :
    windows size items = items.take size :: windows size (items.drop size) := by
  rw [windows]
  simp [hi, Nat.pos_iff_ne_zero.1 hs]

@[simp] theorem windows_nil (size : Nat) : windows size ([] : List α) = [] := by
  rw [windows]
  simp

/-- More items than fit into one window give several. -/
theorem two_le_length_windows {size : Nat} {items : List α} (hs : 0 < size)
    (h : size < items.length) : 2 ≤ (windows size items).length := by
  have hne : items ≠ [] := by
    rintro rfl
    simp at h
  have hdrop : items.drop size ≠ [] := by
    intro he
    have := List.drop_eq_nil_iff.1 he
    omega
  rw [windows_of_pos hs hne, windows_of_pos hs hdrop]
  simp

/-- A size that no window can have. -/
structure SizeError where
  size : Int
  deriving DecidableEq, Repr

def SizeError.text (e : SizeError) : String :=
  "max_chunk_size must be >= 1, got " ++ toString e.size

end Chunk

namespace ModuleSpec

def window (m : ModuleSpec) (endpoints : List Endpoint) : ModuleSpec :=
  { m with
    endpoints
    dtos := Chunk.requiredDtos endpoints m.dtos
    services := []
    repositories := [] }

/-- The module needs no cutting. -/
def fits (m : ModuleSpec) (size : Nat) : Bool := m.endpoints.length ≤ size

/-- The chunks of a module with at most `size` endpoints each. -/
def chunks (m : ModuleSpec) (size : Nat) : List ModuleSpec :=
  if m.fits size then [m] else (Chunk.windows size m.endpoints).map m.window

def chunksOf (m : ModuleSpec) (size : Int) : Except Chunk.SizeError (List ModuleSpec) :=
  if size < 1 then .error ⟨size⟩ else .ok (m.chunks size.toNat)

theorem chunksOf_of_one_le {m : ModuleSpec} {size : Int} (h : 1 ≤ size) :
    m.chunksOf size = .ok (m.chunks size.toNat) := by
  rw [chunksOf, if_neg (by omega)]

theorem chunksOf_of_lt_one {m : ModuleSpec} {size : Int} (h : ¬ 1 ≤ size) :
    m.chunksOf size = .error ⟨size⟩ := by
  rw [chunksOf, if_pos (by omega)]

end ModuleSpec

end ServiceMigration
