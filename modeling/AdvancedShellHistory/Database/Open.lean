import AdvancedShellHistory.Database.Insert
import AdvancedShellHistory.Entities

/-!
# Opening the history database: `Database::Database` and `init_db`

The constructor counts, through `exec`, the rows of `sqlite_master` whose `tbl_name` is one
of the quoted registered names, and runs `init_db` unless that count equals the number of
registered names.  `init_db` hands the whole creation script to `sqlite3_exec`, which runs its
statements in order and stops at the first one the engine refuses; the constructor then only
prints the error.

SQLite knows a table by its name up to the case of ASCII letters (`CREATE TABLE IF NOT
EXISTS Sessions` finds `sessions`), while `tbl_name in (...)` compares byte for byte.

* **What the decision tests**: for a registry whose names `quote` writes unchanged, `init_db`
  runs iff a registered table is missing, a name is registered twice, or a registered table is
  stored under another case (`new_initDb_iff`).  The last two make `init_db` run on every
  open although no table is missing (`new_initDb_of_stored`).
* **What an accepted script creates**: when each registered DDL creates the table registered
  with it, a script the engine accepts keeps every table and creates every registered one,
  and commits (`sqliteExec_script`).
* A refused statement is not retried: after a refusal of the first `CREATE` the constructor
  returns with the tables missing and the transaction of the script still open
  (`new_busyCreate`).
-/

namespace Ash

/-! ### `atoi` of decimal text -/

theorem digitChar_toNat : ∀ k < 10, (Nat.digitChar k).toNat - '0'.toNat = k := by decide

theorem foldl_toDigitsCore : ∀ (f n : Nat) (ds : List Char), n < 10 ^ f →
    (Nat.toDigitsCore 10 f n ds).foldl (fun n c => 10 * n + (c.toNat - '0'.toNat)) 0 =
      ds.foldl (fun n c => 10 * n + (c.toNat - '0'.toNat)) n
  | 0, n, ds, hn => by
    obtain rfl : n = 0 := by simpa using hn
    rfl
  | f + 1, n, ds, hn => by
    rw [Nat.toDigitsCore.eq_2]
    split
    · rename_i h0
      have hlt : n < 10 := by omega
      rw [List.foldl_cons, Nat.mul_zero, Nat.zero_add,
        digitChar_toNat _ (Nat.mod_lt _ (by decide)), Nat.mod_eq_of_lt hlt]
    · rw [foldl_toDigitsCore f _ _ (by rw [Nat.pow_succ] at hn; omega), List.foldl_cons,
        digitChar_toNat _ (Nat.mod_lt _ (by decide)), Nat.div_add_mod]

/-- Decimal digits whose value fits an `int` read back as that value. -/
theorem atoi_of_digits {cs : List Char} (hne : cs ≠ []) (hd : ∀ c ∈ cs, c.isDigit)
    (hv : digitsValue cs < 2147483648) : atoi ⟨cs⟩ = digitsValue cs := by
  obtain ⟨c, rest, rfl⟩ := List.exists_cons_of_ne_nil hne
  have hc := hd c (List.mem_cons_self _ _)
  have hs : isspace c = false := Sql.isspace_eq_false (.inr hc)
  have hstrtol : strtol ⟨c :: rest⟩ = digitsValue (c :: rest) := by
    unfold strtol
    rw [show (⟨c :: rest⟩ : String).toList = c :: rest from rfl,
      List.dropWhile_cons_of_neg (by simp [hs])]
    dsimp only
    split
    next h => cases h; exact absurd hc (by decide)
    next h => cases h; exact absurd hc (by decide)
    next => omega
  rw [atoi, hstrtol, Int.bmod_def]
  split <;> omega

/-- `atoi` reads back the decimal text of a count that fits an `int`. -/
theorem atoi_toString {n : Nat} (hn : n < 2147483648) : atoi (toString n) = n := by
  have hd := toDigitsCore_isDigit (n + 1) n [] (by simp)
  have hv : digitsValue (Nat.toDigitsCore 10 (n + 1) n []) = n := by
    rw [digitsValue, List.takeWhile_eq_self_iff.mpr hd,
      foldl_toDigitsCore _ _ _ (by have := Nat.lt_pow_self (by decide : 1 < 10) (n + 1); omega)]
    rfl
  rw [show toString n = ⟨Nat.toDigitsCore 10 (n + 1) n []⟩ from rfl,
    atoi_of_digits (toDigitsCore_ne_nil n n []) hd (by omega), hv]

/-! ### The schema and the creation script -/

/-- The name SQLite knows a table by: `sqlite3StrICmp` folds the ASCII letters `A`..`Z` to
lower case and compares every other byte as it is. -/
def tableKey (t : String) : List Char := t.toList.map Char.toLower

/-- The tables `sqlite_master` lists, by the names they were created with; no two of them are
equal up to case, since SQLite takes such names for one table. -/
structure Schema where
  tables : List String
  nodup : (tables.map tableKey).Nodup

namespace Schema

/-- The schema has the table `n`: a table whose name equals `n` up to case. -/
def has (st : Schema) (n : String) : Prop := tableKey n ∈ st.tables.map tableKey

instance (st : Schema) (n : String) : Decidable (st.has n) :=
  inferInstanceAs (Decidable (_ ∈ _))

/-- `CREATE TABLE IF NOT EXISTS t`: the table is added, under the name `t`, unless the schema
has a table of that name. -/
def create (st : Schema) (t : String) : Schema :=
  if h : st.has t then st
  else ⟨st.tables ++ [t], by
    rw [List.map_append, List.map_singleton]
    exact st.nodup.append (List.nodup_singleton _) (List.disjoint_singleton.mpr h)⟩

theorem nodup_tables (st : Schema) : st.tables.Nodup := st.nodup.of_map tableKey

theorem has_of_mem {st : Schema} {n : String} (h : n ∈ st.tables) : st.has n :=
  List.mem_map_of_mem _ h

theorem has_create (st : Schema) (t : String) : (st.create t).has t := by
  unfold create
  split
  · assumption
  · exact has_of_mem (List.mem_append_right _ (List.mem_singleton_self t))

theorem tables_subset_create (st : Schema) (t : String) : st.tables ⊆ (st.create t).tables := by
  unfold create
  split
  · exact List.Subset.refl _
  · exact List.subset_append_left _ _

end Schema

/-- A connection: the schema it sees and whether a transaction is open on it. -/
structure Conn where
  schema : Schema
  inTxn : Bool

/-- A statement of the creation script; `ddl sql` is a registered `CREATE` statement. -/
inductive ScriptStmt
  | pragma
  | begin
  | ddl (sql : String)
  | commit

/-- The table a `CREATE TABLE IF NOT EXISTS` statement creates: its name runs from the end of
that prefix to the first blank or `(`. -/
def ddlTable (sql : String) : Option String :=
  let pre := "CREATE TABLE IF NOT EXISTS ".toList
  if pre.isPrefixOf sql.toList then
    some ⟨(sql.toList.drop pre.length).takeWhile fun c => !isspace c && c != '('⟩
  else none

/-- What an accepted statement does; a DDL of any other form is taken to leave the tables as
they are. -/
def Conn.apply (c : Conn) : ScriptStmt → Conn
  | .pragma => c
  | .begin => { c with inTxn := true }
  | .ddl sql =>
    match ddlTable sql with
    | some t => { c with schema := c.schema.create t }
    | none => c
  | .commit => { c with inTxn := false }

/-- The statements of `DBObject::get_create_tables()`: `PRAGMA foreign_keys=OFF;`,
`BEGIN TRANSACTION;`, each registered DDL in the order of registration, `COMMIT;`. -/
def Registry.script (r : Registry) : List ScriptStmt :=
  .pragma :: .begin :: r.createTables.map .ddl ++ [.commit]

/-- `sqlite3_exec` of a script: the statements in order, each applied when the engine accepts
it (`accepts i` for the `i`-th), up to the first it refuses; whether all were accepted, and
the connection after. -/
def sqliteExec (accepts : Nat → Bool) : List ScriptStmt → Nat → Conn → Bool × Conn
  | [], _, c => (true, c)
  | s :: ss, i, c => if accepts i then sqliteExec accepts ss (i + 1) (c.apply s) else (false, c)

/-! ### What the creation script creates -/

theorem sqliteExec_of_accepts {accepts : Nat → Bool} (hacc : ∀ i, accepts i = true) :
    ∀ (ss : List ScriptStmt) (i : Nat) (c : Conn),
      sqliteExec accepts ss i c = (true, ss.foldl Conn.apply c)
  | [], _, _ => rfl
  | s :: ss, i, c => by rw [sqliteExec, if_pos (hacc i), sqliteExec_of_accepts hacc ss]; rfl

/-- The registered DDLs, applied in order, keep every table and add each table they name. -/
theorem foldl_ddl (sqls : List String) :
    ∀ c : Conn, c.schema.tables ⊆ ((sqls.map .ddl).foldl Conn.apply c).schema.tables ∧
      ∀ n, some n ∈ sqls.map ddlTable → ((sqls.map .ddl).foldl Conn.apply c).schema.has n := by
  induction sqls with
  | nil => exact fun c => ⟨List.Subset.refl _, fun _ h => absurd h (List.not_mem_nil _)⟩
  | cons sql sqls ih =>
    intro c
    obtain ⟨hsub, hhas⟩ := ih (c.apply (.ddl sql))
    have hstep : c.schema.tables ⊆ (c.apply (.ddl sql)).schema.tables ∧
        ∀ n, ddlTable sql = some n → (c.apply (.ddl sql)).schema.has n := by
      cases ht : ddlTable sql with
      | none =>
        simp only [Conn.apply, ht]
        exact ⟨List.Subset.refl _, nofun⟩
      | some t =>
        simp only [Conn.apply, ht, Option.some.injEq]
        exact ⟨Schema.tables_subset_create _ _, fun n hn => hn ▸ Schema.has_create _ _⟩
    refine ⟨hstep.1.trans hsub, fun n hn => ?_⟩
    rw [List.map_cons, List.mem_cons] at hn
    rcases hn with hn | hn
    · obtain ⟨k, hk, hkn⟩ := List.mem_map.mp (hstep.2 n hn.symm)
      exact List.mem_map.mpr ⟨k, hsub hk, hkn⟩
    · exact hhas n hn

/-- **A creation script the engine accepts creates every registered table**: when each
registered DDL is a `CREATE TABLE IF NOT EXISTS` of the table registered with it and the
engine accepts every statement, `init_db` succeeds and leaves every table that was there and
every registered table in the schema, with no transaction open. -/
theorem sqliteExec_script {r : Registry} (hddl : r.createTables.map ddlTable = r.tableNames.map some)
    {accepts : Nat → Bool} (hacc : ∀ i, accepts i = true) (c : Conn) :
    (sqliteExec accepts r.script 0 c).1 = true ∧
      c.schema.tables ⊆ (sqliteExec accepts r.script 0 c).2.schema.tables ∧
      (∀ n ∈ r.tableNames, (sqliteExec accepts r.script 0 c).2.schema.has n) ∧
      (sqliteExec accepts r.script 0 c).2.inTxn = false := by
  obtain ⟨hsub, hhas⟩ := foldl_ddl r.createTables (c.apply .pragma |>.apply .begin)
  rw [sqliteExec_of_accepts hacc, Registry.script, List.foldl_append, List.foldl_cons,
    List.foldl_cons]
  refine ⟨rfl, hsub, fun n hn => hhas n ?_, rfl⟩
  rw [hddl]
  exact List.mem_map_of_mem _ hn

/-! ### The count of registered tables -/

/-- The query of `Database::Database`: each registered name quoted, `", "` between two. -/
def countQuery (names : List String) : String :=
  "select count(*) as table_count " ++ "from sqlite_master " ++
    "where type = 'table' and tbl_name in (" ++ Sql.commaList (names.map DBObject.quote) ++ ");"

/-- The table name the engine reads from the quoted name `n` in the `IN` list: the text of the
literal, nothing for `null`. -/
def listedName (n : String) : Option String :=
  match Sql.parseLiteral (DBObject.quote n) with
  | some (.str s) => some s
  | _ => none

/-- `count(*)`: the tables of the schema that the list names.  `tbl_name in (...)` compares
with the collation of the column, `BINARY`, so byte for byte, where the names of tables are
equal up to case. -/
def tableCount (st : Schema) (names : List String) : Nat :=
  (st.tables.filter fun t => names.any fun n => listedName n = some t).length

theorem tableCount_le_length (st : Schema) (names : List String) :
    tableCount st names ≤ st.tables.length :=
  List.length_filter_le _ _

/-- The engine answering the count query truthfully: a statement with one row holding the
count, then `SQLITE_DONE`. -/
def countEngine (st : Schema) (names : List String) : Engine :=
  fun _ => .stmt ⟨["table_count"], [[some (toString (tableCount st names))]], .done⟩

/-- An `int` converted to `size_t`. -/
def sizeT (v : Int) : Nat := if v < 0 then (18446744073709551616 + v).toNat else v.toNat

/-- `defined_tables`: `atoi` of the first cell when the result has one row. -/
def definedTables : Option ResultSet → Nat
  | some rs => if rs.rows = 1 then sizeT (atoi ((rs.data.getD 0 []).getD 0 "")) else 0
  | none => 0

/-! ### `Database::Database` -/

/-- What the system and the engine answer while the database is opened: whether the file is
there, whether `fopen` can create it, whether `sqlite3_open` succeeds, the engine's answers to
the count query, and which statements of the creation script it accepts. -/
structure Bootstrap where
  fileExists : Bool
  createOk : Bool
  openOk : Bool
  count : Engine
  accepts : Nat → Bool

/-- A call to the engine: a run of `Database::exec`, with its events, or `sqlite3_exec` of the
creation script. -/
inductive EngineCall
  | exec (events : List Event)
  | script (stmts : List ScriptStmt)

/-- How the constructor ended, whether it ran `init_db`, the connection after it, and its
calls to the engine. -/
structure OpenRun where
  out : Outcome Unit
  initDb : Bool
  conn : Conn
  calls : List EngineCall

/-- `Database::Database(filename)` on a file whose schema is `st`, with the tables `r`
registers; `init_db` only prints the error of `sqlite3_exec`. -/
def Database.new (config : Config) (r : Registry) (b : Bootstrap) (st : Schema) : OpenRun :=
  let c : Conn := ⟨st, false⟩
  if !b.fileExists && !b.createOk then ⟨.fatal, false, c, []⟩
  else if !b.openOk then ⟨.fatal, false, c, []⟩
  else
    let count := Database.exec config (countQuery r.tableNames) b.count 0 false
    match count.out with
    | .fatal => ⟨.fatal, false, c, [.exec count.trace]⟩
    | .ret rs =>
      if definedTables rs = r.tableNames.length then ⟨.ret (), false, c, [.exec count.trace]⟩
      else ⟨.ret (), true, (sqliteExec b.accepts r.script 0 c).2,
        [.exec count.trace, .script r.script]⟩

/-! ### The decision -/

theorem Database.exec_oneRow {config : Config} {query : String} {eng : Engine}
    {names : List String} {row : Row} (h0 : eng 0 = .stmt ⟨names, [row], .done⟩) :
    (Database.exec config query eng 0 false).out =
      .ret (some (ResultSet.make (Database.columnNames names.length names)
        [Database.rowCells names.length row])) := by
  unfold Database.exec
  rw [show Database.prepareStmt config query eng 0 = _ from Database.prepareLoop_of_stmt h0]
  dsimp only
  rw [Run.after_out, Database.execLoop_of_finalize _ (by simp [Database.stepsToLast, StepCode.exit])]
  simp [Database.finalize, Database.fetchedRows, Database.stepsToLast]

theorem definedTables_countEngine {config : Config} (st : Schema) (names : List String)
    (hsize : tableCount st names < 2147483648) :
    (Database.exec config (countQuery names) (countEngine st names) 0 false).out =
      .ret (some (ResultSet.make ["table_count"] [[toString (tableCount st names)]])) ∧
    definedTables (some (ResultSet.make ["table_count"] [[toString (tableCount st names)]])) =
      tableCount st names := by
  have h := @Database.exec_oneRow config (countQuery names) (countEngine st names)
    ["table_count"] [some (toString (tableCount st names))] rfl
  refine ⟨h, ?_⟩
  simp only [definedTables, ResultSet.make, List.length_singleton, if_true, List.getD_cons_zero,
    atoi_toString hsize, sizeT]
  rw [if_neg (by omega)]
  rfl

/-- **What the constructor does** when the file opens and the engine answers the count
query truthfully: it returns, and it runs `init_db` iff the count of registered tables in the
schema differs from the number of registered names; it sends the engine the count query and,
when it runs `init_db`, the creation script. -/
theorem new_spec (config : Config) (r : Registry) (b : Bootstrap) (st : Schema)
    (hfile : b.fileExists ∨ b.createOk) (hopen : b.openOk)
    (hcount : b.count = countEngine st r.tableNames)
    (hsize : tableCount st r.tableNames < 2147483648) :
    (Database.new config r b st).out = .ret () ∧
    (Database.new config r b st).initDb = decide (tableCount st r.tableNames ≠ r.tableNames.length) ∧
    (Database.new config r b st).conn =
      (if tableCount st r.tableNames = r.tableNames.length then ⟨st, false⟩
      else (sqliteExec b.accepts r.script 0 ⟨st, false⟩).2) ∧
    (Database.new config r b st).calls =
      .exec (Database.exec config (countQuery r.tableNames) b.count 0 false).trace ::
        if tableCount st r.tableNames = r.tableNames.length then [] else [.script r.script] := by
  obtain ⟨hx, hd⟩ := @definedTables_countEngine config st r.tableNames hsize
  have hf : (!b.fileExists && !b.createOk) = false := by cases hfile <;> simp_all
  unfold Database.new
  dsimp only
  rw [hcount, hx]
  simp only [hf, hopen, Bool.not_true, Bool.false_eq_true, if_false, hd]
  split <;> simp_all

theorem listedName_of_keeps {n : String} (hne : n.toList ≠ []) (hk : ∀ c ∈ n.toList, keeps c) :
    listedName n = some n := by
  rw [listedName, quote_eq_render hne,
    Sql.parseLiteral_render (show (Sql.Literal.str ⟨n.toList.filter keeps⟩).WF from trivial),
    List.filter_eq_self.mpr hk]
  rfl

/-- With names that `quote` writes unchanged, the count is that of the registered names
among the tables, byte for byte. -/
theorem tableCount_of_keeps (st : Schema) {names : List String}
    (h : ∀ n ∈ names, n.toList ≠ [] ∧ ∀ c ∈ n.toList, keeps c) :
    tableCount st names = (st.tables.filter (· ∈ names)).length := by
  unfold tableCount
  congr 1
  have hl : ∀ n ∈ names, listedName n = some n := fun n hn =>
    listedName_of_keeps (h n hn).1 (h n hn).2
  refine List.filter_congr fun t _ => Bool.eq_iff_iff.mpr ?_
  rw [List.any_eq_true, decide_eq_true_iff]
  constructor
  · rintro ⟨n, hn, hnt⟩
    rw [decide_eq_true_iff, hl n hn, Option.some.injEq] at hnt
    exact hnt ▸ hn
  · exact fun ht => ⟨t, ht, decide_eq_true_iff.mpr (hl t ht)⟩

theorem filter_mem_subperm {A : List String} (ha : A.Nodup) (B : List String) :
    (A.filter (· ∈ B)).Subperm B :=
  List.subperm_of_subset (ha.filter _) fun x hx => by simpa using (List.mem_filter.mp hx).2

/-- The members of `B` among the distinct `A` are as many as `B` has exactly when `B` repeats
no name and each of its names is in `A`. -/
theorem length_filter_mem_eq_iff {A B : List String} (ha : A.Nodup) :
    (A.filter (· ∈ B)).length = B.length ↔ B.Nodup ∧ ∀ b ∈ B, b ∈ A := by
  constructor
  · intro h
    have hp := (filter_mem_subperm ha B).perm_of_length_le h.ge
    exact ⟨hp.nodup_iff.mp (ha.filter _),
      fun b hb => (List.mem_filter.mp (hp.mem_iff.mpr hb)).1⟩
  · rintro ⟨hb, h⟩
    have hsup : B.Subperm (A.filter (· ∈ B)) := List.subperm_of_subset hb fun x hx =>
      List.mem_filter.mpr ⟨h x hx, by simpa using hx⟩
    exact le_antisymm (filter_mem_subperm ha B).length_le hsup.length_le

/-- A registry fails to be stored name for name exactly when a registered table is missing,
a name is registered twice, or a registered table is stored under another case. -/
theorem not_stored_iff (st : Schema) (names : List String) :
    ¬(names.Nodup ∧ ∀ n ∈ names, n ∈ st.tables) ↔
      (∃ n ∈ names, ¬st.has n) ∨ ¬names.Nodup ∨ ∃ n ∈ names, st.has n ∧ n ∉ st.tables := by
  constructor
  · intro h
    by_cases hd : names.Nodup
    · obtain ⟨n, hn, hnt⟩ : ∃ n ∈ names, n ∉ st.tables := by simpa using not_and.mp h hd
      by_cases hh : st.has n
      · exact .inr (.inr ⟨n, hn, hh, hnt⟩)
      · exact .inl ⟨n, hn, hh⟩
    · exact .inr (.inl hd)
  · rintro (⟨n, hn, hh⟩ | hd | ⟨n, hn, -, hnt⟩) ⟨hd', hall⟩
    · exact hh (Schema.has_of_mem (hall n hn))
    · exact hd hd'
    · exact hnt (hall n hn)

/-- **What the bootstrap decision tests**: for a registry of fewer than `2^31` names that
`quote` writes unchanged, whenever the file opens and the engine answers the count
truthfully, the constructor returns, and it runs `init_db` iff a registered table is missing
from the schema, a name is registered twice, or a registered table is stored under a name that
differs from the registered one in case. -/
theorem new_initDb_iff (config : Config) (r : Registry) (b : Bootstrap) (st : Schema)
    (hfile : b.fileExists ∨ b.createOk) (hopen : b.openOk)
    (hcount : b.count = countEngine st r.tableNames)
    (hnames : ∀ n ∈ r.tableNames, n.toList ≠ [] ∧ ∀ c ∈ n.toList, keeps c)
    (hsize : r.tableNames.length < 2147483648) :
    (Database.new config r b st).out = .ret () ∧
    ((Database.new config r b st).initDb = true ↔
      (∃ n ∈ r.tableNames, ¬st.has n) ∨ ¬r.tableNames.Nodup ∨
        ∃ n ∈ r.tableNames, st.has n ∧ n ∉ st.tables) := by
  have hcnt := tableCount_of_keeps st hnames
  have hle : tableCount st r.tableNames ≤ r.tableNames.length :=
    hcnt ▸ (filter_mem_subperm st.nodup_tables _).length_le
  obtain ⟨hout, hinit, -⟩ := new_spec config r b st hfile hopen hcount (by omega)
  refine ⟨hout, ?_⟩
  rw [hinit, hcnt, decide_eq_true_iff, Ne, length_filter_mem_eq_iff st.nodup_tables,
    not_stored_iff]

/-- The registry `_ash_log` builds: `Session::register_table()`, then
`Command::register_table()`. -/
def ashRegistry : Registry := Command.registerTable (Session.registerTable Registry.empty)

/-- A file whose schema has the `sessions` table only. -/
def sessionsSchema : Schema := ⟨["sessions"], by decide⟩

/-- The file has the `sessions` table, the count is truthful and the engine accepts the
script. -/
def sessionsOpen : Bootstrap :=
  ⟨true, true, true, countEngine sessionsSchema ashRegistry.tableNames, fun _ => true⟩

/-- No table. -/
def Schema.empty : Schema := ⟨[], List.nodup_nil⟩

/-- `_ash_log`'s DDLs create the tables registered with them, so a script the engine accepts
on a fresh file creates both. -/
theorem sqliteExec_script_ashRegistry :
    ashRegistry.createTables.map ddlTable = ashRegistry.tableNames.map some ∧
    (∀ i, sessionsOpen.accepts i = true) ∧
    ((sqliteExec sessionsOpen.accepts ashRegistry.script 0 ⟨Schema.empty, false⟩).1 = true ∧
      Schema.empty.tables ⊆
        (sqliteExec sessionsOpen.accepts ashRegistry.script 0 ⟨Schema.empty, false⟩).2.schema.tables ∧
      (∀ n ∈ ashRegistry.tableNames,
        (sqliteExec sessionsOpen.accepts ashRegistry.script 0 ⟨Schema.empty, false⟩).2.schema.has n) ∧
      (sqliteExec sessionsOpen.accepts ashRegistry.script 0 ⟨Schema.empty, false⟩).2.inTxn = false) :=
  have hddl : ashRegistry.createTables.map ddlTable = ashRegistry.tableNames.map some := by
    decide
  ⟨hddl, fun _ => rfl, sqliteExec_script hddl (fun _ => rfl) _⟩

/-- `sessions` registered twice. -/
def dupRegistry : Registry := Session.registerTable (Session.registerTable Registry.empty)

/-- A file whose schema has `_ash_log`'s two tables, `sessions` created as `Sessions`. -/
def capitalSchema : Schema := ⟨["Sessions", "commands"], by decide⟩

/-- The file opens and the count is truthful. -/
def truthfulOpen (st : Schema) (r : Registry) : Bootstrap :=
  ⟨true, true, true, countEngine st r.tableNames, fun _ => true⟩

/-- `init_db` runs although no registered table is missing: with `sessions` registered twice
and the `sessions` table in the file, and with `_ash_log`'s registry on a file whose
`sessions` table was created as `Sessions`. -/
theorem new_initDb_of_stored :
    ((truthfulOpen sessionsSchema dupRegistry).fileExists ∨
        (truthfulOpen sessionsSchema dupRegistry).createOk) ∧
      (truthfulOpen sessionsSchema dupRegistry).openOk ∧
      (∀ n ∈ dupRegistry.tableNames, n.toList ≠ [] ∧ ∀ c ∈ n.toList, keeps c) ∧
      dupRegistry.tableNames.length < 2147483648 ∧
      (∀ n ∈ dupRegistry.tableNames, sessionsSchema.has n) ∧
      (Database.new Config.unset dupRegistry (truthfulOpen sessionsSchema dupRegistry)
        sessionsSchema).initDb = true ∧
    ((truthfulOpen capitalSchema ashRegistry).fileExists ∨
        (truthfulOpen capitalSchema ashRegistry).createOk) ∧
      (truthfulOpen capitalSchema ashRegistry).openOk ∧
      (∀ n ∈ ashRegistry.tableNames, n.toList ≠ [] ∧ ∀ c ∈ n.toList, keeps c) ∧
      ashRegistry.tableNames.length < 2147483648 ∧
      (∀ n ∈ ashRegistry.tableNames, capitalSchema.has n) ∧
      (Database.new Config.unset ashRegistry (truthfulOpen capitalSchema ashRegistry)
        capitalSchema).initDb = true :=
  have hdup : ∀ n ∈ dupRegistry.tableNames, n.toList ≠ [] ∧ ∀ c ∈ n.toList, keeps c := by
    decide
  have hash : ∀ n ∈ ashRegistry.tableNames, n.toList ≠ [] ∧ ∀ c ∈ n.toList, keeps c := by
    decide
  ⟨.inl rfl, rfl, hdup, by decide, by decide,
    ((new_initDb_iff Config.unset dupRegistry _ sessionsSchema (.inl rfl) rfl rfl hdup
      (by decide)).2.mpr (.inr (.inl (by decide)))),
    .inl rfl, rfl, hash, by decide, by decide,
    ((new_initDb_iff Config.unset ashRegistry _ capitalSchema (.inl rfl) rfl rfl hash
      (by decide)).2.mpr (.inr (.inr ⟨"sessions", by decide, by decide, by decide⟩)))⟩

/-- A fresh file, a truthful count, and an engine that accepts `PRAGMA` and `BEGIN` and then
refuses the first `CREATE` (`SQLITE_BUSY` while another process creates the tables). -/
def busyCreate : Bootstrap :=
  ⟨false, true, true, countEngine Schema.empty ashRegistry.tableNames, fun i => decide (i < 2)⟩

/-- The constructor returns with no table created and the script's transaction still open. -/
theorem new_busyCreate (config : Config) :
    (Database.new config ashRegistry busyCreate Schema.empty).out = .ret () ∧
    (Database.new config ashRegistry busyCreate Schema.empty).conn.schema.tables = [] ∧
    (Database.new config ashRegistry busyCreate Schema.empty).conn.inTxn = true := by
  obtain ⟨hout, -, hconn, -⟩ := new_spec config ashRegistry busyCreate Schema.empty (Or.inr rfl) rfl
    rfl (Nat.lt_of_le_of_lt (tableCount_le_length _ _) (by decide))
  rw [hconn]
  exact ⟨hout, rfl, rfl⟩

end Ash
