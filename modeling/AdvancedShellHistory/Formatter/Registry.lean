import AdvancedShellHistory.Formatter.Auto
import AdvancedShellHistory.Formatter.Delimited
import AdvancedShellHistory.Database.DBObject

/-!
# `Formatter`: the registry of output formats

Each formatter class registers one instance, by name, when its `init()` first runs:
`Formatter::Formatter(n, d)` ends the process with `LOG(FATAL)` when the name is taken, and
otherwise records the instance in `Formatter::instances`, the map that `Formatter::lookup` reads
and `Formatter::get_desc` lists.

* **What the constructors leave**: run in any order, they register every formatter when the
  names are distinct, and end the process otherwise (`foldlM_register`).
* **Lookup and listing agree with the constructors**: on distinct names, `lookup` finds each
  formatter by its name and nothing else, and `get_desc` lists each name with its description
  once, in ascending order of name (`getDesc_registered`).
-/

namespace Ash

/-- The class of a formatter: whose `insert` it runs. -/
inductive Formatter.Impl
  | csv
  | null
  | spaced
  | grouped
  deriving DecidableEq, Repr

/-- A constructed `Formatter`: its `name`, its `description` and its class. -/
structure Formatter where
  name : String
  description : String
  impl : Formatter.Impl
  deriving DecidableEq, Repr

namespace Formatter

/-- `formatter -> insert(rs, out)` after `formatter -> show_headings(doShowHeadings)`: every
class writes nothing for a null result. -/
def insert (f : Formatter) (rs : Option ResultSet) (doShowHeadings : Bool) : String :=
  match rs, f.impl with
  | none, _ => ""
  | some rs, .csv => CsvFormatter.insert rs doShowHeadings
  | some rs, .null => NullFormatter.insert rs doShowHeadings
  | some rs, .spaced => SpacedFormatter.insert rs doShowHeadings
  | some rs, .grouped => GroupedFormatter.insert rs doShowHeadings

/-- `Formatter::lookup(name)` on the formatters `fs`, in the order they were constructed;
`none` for `NULL`. -/
def lookup (fs : List Formatter) (name : String) : Option Formatter :=
  fs.find? (·.name = name)

/-- `Formatter::Formatter(n, d)` on the formatters `fs`: `none` where `LOG(FATAL)` ends the
process. -/
def register (fs : List Formatter) (f : Formatter) : Option (List Formatter) :=
  if (lookup fs f.name).isSome then none else some (fs ++ [f])

/-- `Formatter::get_desc()`: `rval[name] = description` for each formatter. -/
def getDesc (fs : List Formatter) : ValueMap :=
  fs.foldl (fun m f => m.set f.name f.description) ValueMap.empty

end Formatter

/-- The instance `CsvFormatter::init()` constructs. -/
def CsvFormatter.init : Formatter :=
  ⟨"csv", "Columns are comma separated with strings quoted.", .csv⟩

/-- The instance `NullFormatter::init()` constructs. -/
def NullFormatter.init : Formatter :=
  ⟨"null", "Columns are null separated with strings quoted.", .null⟩

/-- The instance `SpacedFormatter::init()` constructs. -/
def SpacedFormatter.init : Formatter :=
  ⟨"aligned", "Columns are aligned and separated with spaces.", .spaced⟩

/-- The instance `GroupedFormatter::init()` constructs. -/
def GroupedFormatter.init : Formatter :=
  ⟨"auto", "Automatically group redundant values.", .grouped⟩

/-- The instances of the four `init()`s, in the order `main` of `ash_query.cpp` calls them. -/
def formatters : List Formatter :=
  [CsvFormatter.init, NullFormatter.init, SpacedFormatter.init, GroupedFormatter.init]

/-- `CsvFormatter::init(); NullFormatter::init(); SpacedFormatter::init();
GroupedFormatter::init();` on the formatters `fs` already registered. -/
def initFormatters (fs : List Formatter) : Option (List Formatter) :=
  formatters.foldlM Formatter.register fs

namespace Formatter

/-! ### Lookup -/

theorem isSome_lookup (fs : List Formatter) (name : String) :
    (lookup fs name).isSome ↔ name ∈ fs.map Formatter.name := by
  simp only [lookup, List.find?_isSome, decide_eq_true_eq, List.mem_map]

theorem lookup_eq_some_iff {fs : List Formatter} (hn : (fs.map Formatter.name).Nodup)
    {name : String} {f : Formatter} : lookup fs name = some f ↔ f ∈ fs ∧ f.name = name := by
  induction fs with
  | nil => simp [lookup]
  | cons g gs ih =>
    rw [List.map_cons, List.nodup_cons] at hn
    by_cases hg : g.name = name
    · have hf : f ∈ gs → f.name ≠ name := fun hf he => hn.1 (hg ▸ he ▸ List.mem_map_of_mem _ hf)
      simp only [lookup, List.find?_cons, hg, decide_True, Option.some.injEq, List.mem_cons]
      constructor
      · rintro rfl
        exact ⟨.inl rfl, hg⟩
      · rintro ⟨rfl | hm, he⟩
        · rfl
        · exact absurd he (hf hm)
    · have hf : f = g → f.name ≠ name := fun he => he ▸ hg
      simp only [lookup, List.find?_cons, hg, decide_False, List.mem_cons] at ih ⊢
      rw [ih hn.2]
      exact ⟨fun h => ⟨.inr h.1, h.2⟩, fun ⟨hm, he⟩ => ⟨hm.resolve_left fun h => hf h he, he⟩⟩

/-! ### The constructors -/

/-- Registering `fs` after `init`, whose names are distinct, gives `init ++ fs` when all the
names are distinct, and otherwise ends the process. -/
theorem foldlM_register_append (fs : List Formatter) :
    ∀ init : List Formatter, (init.map Formatter.name).Nodup →
      fs.foldlM register init =
        if ((init ++ fs).map Formatter.name).Nodup then some (init ++ fs) else none := by
  induction fs with
  | nil => intro init hi; simp [hi]
  | cons f fs ih =>
    intro init hi
    by_cases hf : f.name ∈ init.map Formatter.name
    · have hdup : ¬((init ++ f :: fs).map Formatter.name).Nodup := by
        rw [List.map_append, List.nodup_append]
        exact fun h => h.2.2 hf (List.mem_cons_self _ _)
      rw [if_neg hdup]
      simp [register, (isSome_lookup init f.name).mpr hf]
    · have hi' : ((init ++ [f]).map Formatter.name).Nodup := by
        rw [List.map_append, List.map_singleton, List.nodup_append]
        exact ⟨hi, List.nodup_singleton _, fun a ha hb => hf (List.eq_of_mem_singleton hb ▸ ha)⟩
      simp only [List.foldlM_cons, register, (isSome_lookup init f.name).not.mpr hf,
        Bool.false_eq_true, if_false, Option.bind_eq_bind, Option.some_bind]
      rw [ih _ hi', List.append_assoc, List.singleton_append]

/-- **What the constructors leave**: the formatters `fs`, constructed in this order, are all
registered when their names are distinct; otherwise a constructor ends the process with
`LOG(FATAL)`. -/
theorem foldlM_register (fs : List Formatter) :
    fs.foldlM register [] = if (fs.map Formatter.name).Nodup then some fs else none :=
  foldlM_register_append fs [] List.nodup_nil

/-! ### `get_desc` -/

theorem perm_setEntry {k v : String} :
    ∀ {es : List (String × String)}, k ∉ es.map Prod.fst →
      (setEntry k v es).Perm ((k, v) :: es)
  | [], _ => by simp [setEntry]
  | e :: es, h => by
    rw [List.map_cons, List.mem_cons, not_or] at h
    unfold setEntry
    rw [if_neg h.1]
    split_ifs
    · exact .refl _
    · exact ((perm_setEntry h.2).cons e).trans (.swap _ _ _)

theorem perm_foldl_set (fs : List Formatter) :
    ∀ m : ValueMap, (fs.map Formatter.name).Nodup → (∀ f ∈ fs, f.name ∉ m.keys) →
      (fs.foldl (fun m f => m.set f.name f.description) m).entries.Perm
        (fs.map (fun f => (f.name, f.description)) ++ m.entries) := by
  induction fs with
  | nil => intro m _ _; exact .refl _
  | cons f fs ih =>
    intro m hn hm
    rw [List.map_cons, List.nodup_cons] at hn
    have hm' : ∀ g ∈ fs, g.name ∉ (m.set f.name f.description).keys := by
      intro g hg hk
      obtain ⟨e, he, hek⟩ := List.mem_map.mp hk
      rcases mem_setEntry he with rfl | he
      · have he : f.name = g.name := hek
        exact hn.1 (he ▸ List.mem_map_of_mem _ hg)
      · exact hm g (List.mem_cons_of_mem _ hg) (hek ▸ List.mem_map_of_mem _ he)
    refine (ih _ hn.2 hm').trans ?_
    rw [List.map_cons, List.cons_append]
    exact ((perm_setEntry (hm f (List.mem_cons_self _ _))).append_left _).trans List.perm_middle

/-- **Lookup and listing agree with the constructors**: on formatters with distinct names,
`lookup` finds exactly the formatter of each name, and `get_desc` lists each name with its
description once, in ascending order of name. -/
theorem getDesc_registered {fs : List Formatter} (hn : (fs.map Formatter.name).Nodup) :
    (∀ name f, lookup fs name = some f ↔ f ∈ fs ∧ f.name = name) ∧
      (getDesc fs).entries.Perm (fs.map fun f => (f.name, f.description)) ∧
      ((getDesc fs).entries.map Prod.fst).Sorted (· < ·) :=
  ⟨fun _ _ => lookup_eq_some_iff hn,
    by simpa only [ValueMap.empty, List.append_nil] using
      perm_foldl_set fs ValueMap.empty hn fun _ _ h => List.not_mem_nil _ h,
    (getDesc fs).sorted⟩

end Formatter

/-- The four `init()`s register the four formatters, in this order. -/
theorem initFormatters_nil : initFormatters [] = some formatters := by
  rw [initFormatters, Formatter.foldlM_register_append _ [] List.nodup_nil]
  decide

/-- The four formatters have distinct names: `lookup` finds each by its name, and `-F` lists
each once. -/
theorem getDesc_registered_formatters :
    (formatters.map Formatter.name).Nodup ∧
      (∀ name f, Formatter.lookup formatters name = some f ↔ f ∈ formatters ∧ f.name = name) ∧
      (Formatter.getDesc formatters).entries.Perm
        (formatters.map fun f => (f.name, f.description)) ∧
      ((Formatter.getDesc formatters).entries.map Prod.fst).Sorted (· < ·) :=
  have hn : (formatters.map Formatter.name).Nodup := by decide
  ⟨hn, Formatter.getDesc_registered hn⟩

end Ash
