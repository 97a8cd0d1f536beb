import Mathlib.Data.List.Nodup

set_option autoImplicit false

/-!
# A table of rows under a unique key

`INSERT ... ON CONFLICT (key) DO UPDATE`: the row that has the key is overwritten in its
place, and a row with a new key is added.
-/
namespace AegisGateway.KeyedRows

variable {ρ κ : Type} [DecidableEq κ] {key : ρ → κ}

def overwrite (key : ρ → κ) (row old : ρ) : ρ := if key old = key row then row else old

def upsert (key : ρ → κ) (table : List ρ) (row : ρ) : List ρ :=
  if key row ∈ table.map key then table.map (overwrite key row) else table ++ [row]

/-- The rows in turn. -/
def upsertAll (key : ρ → κ) (table rows : List ρ) : List ρ := rows.foldl (upsert key) table

theorem key_overwrite (row old : ρ) : key (overwrite key row old) = key old := by
  unfold overwrite
  split
  case isTrue same => exact same.symm
  case isFalse => rfl

theorem mem_upsert {table : List ρ} {row z : ρ} :
    z ∈ upsert key table row ↔ z = row ∨ z ∈ table ∧ key z ≠ key row := by
  unfold upsert
  split
  case isTrue taken =>
    rw [List.mem_map]
    constructor
    · rintro ⟨old, mem, rfl⟩
      unfold overwrite
      split
      case isTrue => exact .inl rfl
      case isFalse apart => exact .inr ⟨mem, apart⟩
    · rintro (rfl | ⟨mem, apart⟩)
      · obtain ⟨old, mem, same⟩ := List.mem_map.mp taken
        exact ⟨old, mem, if_pos same⟩
      · exact ⟨z, mem, if_neg apart⟩
  case isFalse free =>
    rw [List.mem_append, List.mem_singleton]
    constructor
    · rintro (mem | rfl)
      · refine .inr ⟨mem, fun same => free ?_⟩
        rw [← same]
        exact List.mem_map_of_mem mem
      · exact .inl rfl
    · rintro (rfl | ⟨mem, _⟩)
      · exact .inr rfl
      · exact .inl mem

theorem upsert_nodup {table : List ρ} {row : ρ} (unique : (table.map key).Nodup) :
    ((upsert key table row).map key).Nodup := by
  unfold upsert
  split
  case isTrue =>
    have keys : (table.map (overwrite key row)).map key = table.map key := by
      rw [List.map_map]
      exact List.map_congr_left fun old _ => key_overwrite row old
    rw [keys]
    exact unique
  case isFalse free =>
    rw [List.map_append, List.map_singleton]
    exact unique.append (List.nodup_singleton _) (List.disjoint_singleton.mpr free)

theorem upsertAll_nodup {table rows : List ρ} (unique : (table.map key).Nodup) :
    ((upsertAll key table rows).map key).Nodup := by
  induction rows generalizing table with
  | nil => exact unique
  | cons row rows ih => exact ih (upsert_nodup unique)

/-- Rows under keys of their own are all in the table afterwards, with the rows under
other keys. -/
theorem mem_upsertAll {table rows : List ρ} (distinct : (rows.map key).Nodup) {z : ρ} :
    z ∈ upsertAll key table rows ↔ z ∈ rows ∨ z ∈ table ∧ key z ∉ rows.map key := by
  induction rows generalizing table with
  | nil => simp [upsertAll]
  | cons row rows ih =>
    rw [List.map_cons, List.nodup_cons] at distinct
    have step : upsertAll key table (row :: rows) = upsertAll key (upsert key table row) rows := rfl
    rw [step, ih distinct.2, mem_upsert, List.mem_cons, List.map_cons, List.mem_cons, not_or]
    constructor
    · rintro (mem | ⟨rfl | ⟨mem, apart⟩, free⟩)
      · exact .inl (.inr mem)
      · exact .inl (.inl rfl)
      · exact .inr ⟨mem, apart, free⟩
    · rintro ((rfl | mem) | ⟨mem, apart, free⟩)
      · exact .inr ⟨.inl rfl, distinct.1⟩
      · exact .inl mem
      · exact .inr ⟨.inr ⟨mem, apart⟩, free⟩

end AegisGateway.KeyedRows
