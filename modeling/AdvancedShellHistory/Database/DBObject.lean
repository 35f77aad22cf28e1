import AdvancedShellHistory.Database.Sql
import Mathlib.Data.String.Basic
import Mathlib.Data.List.Sort

/-!
# `DBObject`: a row's values and the `INSERT` that stores them

A `DBObject` (`database.hpp`) is the name of its table and a `std::map<string, string>` from
column names to SQL text; `DBObject::get_sql` writes the two loops over that map into one
`INSERT`.  The map is modelled as its entries in ascending order of key, with the order as a
field of `ValueMap`, so both loops walk the same keys in the same order by construction.

`getSql_spec` says when the engine reads `get_sql`'s text as the intended statement: when the
table and the keys are names the tokenizer reads as one word and every value is the text of
one literal (`IsLit`).  `ValueMap.All` carries such facts through the assignments of a
constructor (`ValueMap.all_set`).

The static registry of `DBObject::register_table` is at the end.
-/

namespace Ash

/-! ### `std::map<string, string>` -/

/-- The entries after `values[k] = v`, on entries in ascending order of key. -/
def setEntry (k v : String) : List (String × String) → List (String × String)
  | [] => [(k, v)]
  | e :: es =>
    if k < e.1 then (k, v) :: e :: es
    else if k = e.1 then (k, v) :: es
    else e :: setEntry k v es

theorem mem_setEntry {k v : String} {e : String × String} :
    ∀ {es : List (String × String)}, e ∈ setEntry k v es → e = (k, v) ∨ e ∈ es
  | [], h => by simpa [setEntry] using h
  | e' :: es, h => by
    unfold setEntry at h
    split_ifs at h with h₁ h₂
    · simpa using h
    · exact (List.mem_cons.mp h).imp_right (List.mem_cons_of_mem _)
    · simp only [List.mem_cons] at h ⊢
      rcases h with h | h
      · exact .inr (.inl h)
      · rcases mem_setEntry h with h | h <;> simp [h]

theorem sorted_setEntry (k v : String) :
    ∀ {es : List (String × String)}, (es.map Prod.fst).Sorted (· < ·) →
      ((setEntry k v es).map Prod.fst).Sorted (· < ·)
  | [], _ => by simp [setEntry]
  | e :: es, h => by
    rw [List.map_cons, List.sorted_cons] at h
    unfold setEntry
    split_ifs with h₁ h₂
    · simp only [List.map_cons, List.sorted_cons, List.mem_cons, forall_eq_or_imp]
      exact ⟨⟨h₁, fun b hb => lt_trans h₁ (h.1 b hb)⟩, h.1, h.2⟩
    · subst h₂
      exact List.sorted_cons.mpr h
    · have hlt : e.1 < k := lt_of_le_of_ne (not_lt.mp h₁) (Ne.symm h₂)
      simp only [List.map_cons, List.sorted_cons]
      refine ⟨fun b hb => ?_, sorted_setEntry k v h.2⟩
      obtain ⟨e', he', rfl⟩ := List.mem_map.mp hb
      rcases mem_setEntry he' with rfl | he'
      · exact hlt
      · exact h.1 _ (List.mem_map_of_mem _ he')

/-- `std::map<string, string>`: its entries in ascending order of key, so each key once. -/
structure ValueMap where
  entries : List (String × String)
  sorted : (entries.map Prod.fst).Sorted (· < ·)

namespace ValueMap

/-- The empty map. -/
def empty : ValueMap := ⟨[], List.sorted_nil⟩

/-- `values[k] = v`. -/
def set (m : ValueMap) (k v : String) : ValueMap :=
  ⟨setEntry k v m.entries, sorted_setEntry k v m.sorted⟩

/-- The keys, in the order the map iterates them. -/
def keys (m : ValueMap) : List String := m.entries.map Prod.fst

/-- The values, in the same order. -/
def vals (m : ValueMap) : List String := m.entries.map Prod.snd

/-- Every entry satisfies `P`. -/
def All (P : String → String → Prop) (m : ValueMap) : Prop := ∀ e ∈ m.entries, P e.1 e.2

theorem all_empty (P : String → String → Prop) : empty.All P := by simp [All, empty]

theorem all_set {P : String → String → Prop} {m : ValueMap} {k v : String} (hm : m.All P)
    (h : P k v) : (m.set k v).All P := fun e he => by
  rcases mem_setEntry he with rfl | he
  · exact h
  · exact hm e he

theorem keys_set_ne_nil (m : ValueMap) (k v : String) : (m.set k v).keys ≠ [] := by
  obtain ⟨es, _⟩ := m
  cases es with
  | nil => simp [set, keys, setEntry]
  | cons e es =>
    simp only [set, keys, setEntry]
    split_ifs <;> simp

end ValueMap

/-! ### `get_sql` -/

/-- A `DBObject`: `get_name()` and `values`. -/
structure DBObject where
  name : String
  values : ValueMap

namespace DBObject

/-- `DBObject::get_sql()`: the keys, then the values, each loop writing `", "` between two
items. -/
def getSql (o : DBObject) : String :=
  "INSERT INTO " ++ o.name ++ " (" ++ Sql.commaList o.values.keys ++ ") VALUES (" ++
    Sql.commaList o.values.vals ++ "); "

end DBObject

/-- `v` is the text of one well-formed literal. -/
def IsLit (v : String) : Prop := ∃ l : Sql.Literal, l.WF ∧ l.render = v

theorem exists_lits : ∀ {vs : List String}, (∀ v ∈ vs, IsLit v) →
    ∃ lits : List Sql.Literal, (∀ l ∈ lits, l.WF) ∧ vs = lits.map Sql.Literal.render
  | [], _ => ⟨[], by simp, rfl⟩
  | v :: vs, h => by
    obtain ⟨l, hl, rfl⟩ := h v (by simp)
    obtain ⟨lits, hlits, rfl⟩ := @exists_lits vs fun w hw => h w (by simp [hw])
    exact ⟨l :: lits, List.forall_mem_cons.mpr ⟨hl, hlits⟩, rfl⟩

/-- What `get_sql` is for: the keys are in ascending order, every stored value is read as
one literal, and the text is read as one single-row `INSERT` into the object's table whose
columns are the keys and whose values are those literals, in the same order. -/
def RendersInsert (o : DBObject) : Prop :=
  o.values.keys.Sorted (· < ·) ∧
  ∃ lits : List Sql.Literal, o.values.vals.map Sql.parseLiteral = lits.map some ∧
    Sql.parseInsert o.getSql = some ⟨o.name, o.values.keys, lits⟩

/-- **`get_sql` writes one `INSERT`** when the table and every key are one word and every
value is the text of a literal. -/
theorem getSql_spec {o : DBObject} (hname : Sql.isIdent o.name) (hne : o.values.keys ≠ [])
    (h : o.values.All fun k v => Sql.isIdent k ∧ IsLit v) : RendersInsert o := by
  obtain ⟨lits, hlits, hv⟩ := @exists_lits o.values.vals fun v hv => by
    obtain ⟨e, he, rfl⟩ := List.mem_map.mp hv
    exact (h e he).2
  have hkeys : ∀ k ∈ o.values.keys, Sql.isIdent k := fun k hk => by
    obtain ⟨e, he, rfl⟩ := List.mem_map.mp hk
    exact (h e he).1
  have hlen : o.values.keys.length = lits.length := by
    rw [← List.length_map lits Sql.Literal.render, ← hv]
    simp [ValueMap.keys, ValueMap.vals]
  refine ⟨o.values.sorted, lits, ?_, ?_⟩
  · rw [hv, List.map_map]
    exact List.map_congr_left fun l hl => Sql.parseLiteral_render (hlits l hl)
  · have hw : Sql.Insert.WF ⟨o.name, o.values.keys, lits⟩ := ⟨hname, hkeys, hne, hlits, hlen⟩
    rw [← Sql.parseInsert_render hw]
    simp only [DBObject.getSql, Sql.Insert.render, hv]

/-! ### The table registry -/

/-- `DBObject::table_names` and `DBObject::create_tables`, in the order of registration. -/
structure Registry where
  tableNames : List String
  createTables : List String

namespace Registry

/-- No table registered. -/
def empty : Registry := ⟨[], []⟩

/-- `DBObject::register_table(name, sql)`: appends to both lists. -/
def registerTable (r : Registry) (name sql : String) : Registry :=
  ⟨r.tableNames ++ [name], r.createTables ++ [sql]⟩

end Registry

end Ash
