import AdvancedShellHistory.Formatter.Registry
import AdvancedShellHistory.Flags
import AdvancedShellHistory.Database.Open

/-!
# `ash_query.cpp`: running a saved query

`main` shows the usage when it has no argument, parses its flags and then, in turn, prints the
version (`--version`), the saved queries (`-Q`), registers the four formatters, prints them
(`-F`), prints a saved query's SQL (`-p`), and otherwise runs the saved query `-q` names through
`execute`, which opens the database, picks the formatter and writes the rows of `db.exec`.
`Queries`, whose source is not among the files, is taken as the three answers `main` reads.

* **The listings line up**: `display` pads every key to one width and every description to
  another, each at least four more than the longest (`display_aligned`).
* **With no argument no query runs**: `ash_query` alone ends with status `1` and sends the engine
  at most the count query and creation script of the database's constructor, also when
  `ASH_CFG_DEFAULT_QUERY` is set.  `Config::sets` reads that variable as a boolean, so
  `execute` gets the text `true` as its SQL, and it runs before the formatters are registered,
  so every format is unknown (`main_noArgs`).
* **Only the saved query runs**: what `main` sends the engine is the constructor's calls and
  then one run of `db.exec` on the SQL of the query `-q` names, exactly when every test on the
  way to it passes, and otherwise nothing or the constructor's calls only (`main_calls`).
* **Every run ends with status `0` or `1`**: on a well-formed flag registry, never through an
  exception (`main_ending`).
-/

namespace Ash

namespace AshQuery

/-! ### Flags -/

/-- The `DEFINE_` lines of `ash_query.cpp`, in their order. -/
def flags : List Flag.Def :=
  [⟨"database", 'd', "A history database to query.", .string none, false⟩,
   ⟨"format", 'f', "A format to display results.", .string none, false⟩,
   ⟨"limit", 'l', "Limit the number of rows returned.", .int 0, false⟩,
   ⟨"print_query", 'p', "Print the query SQL.", .string none, false⟩,
   ⟨"query", 'q', "The name of the saved query to execute.", .string none, false⟩,
   ⟨"list_formats", 'F', "Display all available formats.", .bool false false, false⟩,
   ⟨"hide_headings", 'H', "Hide column headings from query results.", .bool false false, false⟩,
   ⟨"list_queries", 'Q', "Display all saved queries.", .bool false false, false⟩,
   ⟨"reverse", 'R', "display results in reverse order.", .bool false false, false⟩,
   ⟨"version", '\x00', "Show the version and exit.", .bool false false, false⟩]

/-- The static constructors of `ash_query`: the help flag of `flags.cpp` before or after those
of `ash_query.cpp`. -/
def defs (helpFirst : Bool) : List Flag.Def :=
  if helpFirst then Flag.helpDef :: flags else flags ++ [Flag.helpDef]

/-! ### `display` -/

/-- One turn of the widths loop of `display`. -/
def widenDisplay (widths : Nat × Nat) (kv : String × String) : Nat × Nat :=
  (max widths.1 (4 + kv.1.length), max widths.2 (4 + kv.2.length))

/-- The two widths of `display`: from `name.size() + XX` and `string("Description").size() + XX`,
widened by each entry. -/
def displayWidths (rows : ValueMap) (name : String) : Nat × Nat :=
  rows.entries.foldl widenDisplay (name.length + 4, "Description".length + 4)

/-- `display(out, rows, name)`: the headings and then each entry, the key and the description
padded to their widths; it writes to `cout` whatever `out` is. -/
def display (rows : ValueMap) (name : String) : String :=
  let widths := displayWidths rows name
  (setw widths.1 name ++ setw widths.2 "Description" ++ "\n") ++
    String.join (rows.entries.map fun kv => setw widths.1 kv.1 ++ setw widths.2 kv.2 ++ "\n")

/-! ### The run -/

/-- What `queries.cpp` answers: `Queries::get_desc()`, `Queries::get_sql(name)` and
`Queries::get_raw_sql(name)`, `""` for a name it does not know. -/
structure Queries where
  getDesc : ValueMap
  getSql : String → String
  getRawSql : String → String

/-- What a run of `ash_query` has done: what it wrote to standard output and standard error, the
schema of the database file, and its calls to the engine. -/
structure Run where
  out : String
  err : String
  schema : Schema
  calls : List EngineCall

/-- `format` in `execute`: `--format`, or `ASH_CFG_DEFAULT_FORMAT`, or `aligned`. -/
def formatOf (config : Config) (r : Flag.Registry) (values : List Flag.Value) : String :=
  if Flag.stringFlag r values "format" = "" then config.getString "DEFAULT_FORMAT" "aligned"
  else Flag.stringFlag r values "format"

/-- `db.exec(sql, FLAGS_limit, FLAGS_reverse)`. -/
def execQuery (config : Config) (r : Flag.Registry) (values : List Flag.Value) (sql : String)
    (eng : Engine) : Ash.Run (Option ResultSet) :=
  Database.exec config sql eng (Flag.intFlag r values "limit") (Flag.boolFlag r values "reverse")

/-- `execute(sql)` with the flags holding `values` and the formatters `fs` registered, on a
database file with the answers `b` and whose schema is in `run`; `eng` answers the query. -/
def execute (config : Config) (fs : List Formatter) (r : Flag.Registry) (values : List Flag.Value)
    (sql : String) (b : Bootstrap) (eng : Engine) (run : Run) : Run × Ending :=
  if Flag.stringFlag r values "database" = "" ∧ config.getString "HISTORY_DB" "" = "" then
    ({ run with
        err := run.err ++ "Expected either --database or ASH_CFG_HISTORY_DB " ++ "to be defined." ++
          "\n" }, .exit 1)
  else
    let opened := Database.new config ashRegistry b run.schema
    let run := { run with schema := opened.conn.schema, calls := run.calls ++ opened.calls }
    match opened.out with
    | .fatal => (run, .exit 1)
    | .ret () =>
      let format := formatOf config r values
      match Formatter.lookup fs format with
      | none =>
        ({ run with
            out := run.out ++ display (Formatter.getDesc fs) "Format",
            err := run.err ++ "\nUnknown format: '" ++ format ++ "'" ++ "\n" ++ "\n" }, .exit 1)
      | some f =>
        let rs := execQuery config r values sql eng
        let run := { run with calls := run.calls ++ [.exec rs.trace] }
        match rs.out with
        | .fatal => (run, .exit 1)
        | .ret rs =>
          ({ run with out := run.out ++ f.insert rs !(Flag.boolFlag r values "hide_headings") },
            .exit 0)

/-- What `main` prints when a saved query is not found. -/
def notFound (q : Queries) (name : String) : String :=
  "Query not found: " ++ name ++ "\nAvailable:\n" ++ display q.getDesc "Query"

/-- The `-p` block of `main`. -/
def printQuery (q : Queries) (name : String) : String × Ending :=
  let sql := q.getSql name
  let raw := q.getRawSql name
  if raw = "" then (notFound q name, .exit 1)
  else
    ("Query: " ++ name ++ "\n" ++
      (if raw ≠ sql then "Template Form:\n" ++ raw ++ "\nActual SQL:\n" else "") ++ sql ++ "\n",
      .exit 0)

/-- `main(argc, argv)` of `ash_query.cpp` with the flag registry `r`, the answers of
`getopt_long` to `argv` and the arguments it leaves, on a database file with the answers `b`
and the schema `schema`; `eng` answers the query. -/
def main (version : String) (config : Config) (q : Queries) (r : Flag.Registry)
    (argv : List String) (answers : List Flag.GetoptAnswer) (operands : List String)
    (b : Bootstrap) (eng : Engine) (schema : Schema) : Run × Ending :=
  let run : Run := ⟨"", "", schema, []⟩
  let progName := argv.headD ""
  if argv.length = 1 then
    if config.sets "DEFAULT_QUERY" then
      execute config [] r r.values (config.getString "DEFAULT_QUERY" "") b eng run
    else if config.sets "HIDE_USAGE_FOR_NO_ARGS" then (run, .exit 1)
    else
      let p := Flag.parse progName r []
      let usage := Flag.helpAndExit progName r p.values p.err 1
      ({ run with out := p.out, err := usage.1 }, usage.2)
  else
    let p := Flag.parse progName r answers
    let run := { run with out := p.out, err := p.err }
    match p.ending with
    | some e => (run, e)
    | none =>
      let v := p.values
      if operands ≠ [] ∧ config.sets "IGNORE_UNKNOWN_FLAGS" = false then
        let usage := Flag.helpAndExit progName r v
          (run.err ++ "unrecognized flag: " ++ operands.headD "" ++ "\n") 1
        ({ run with err := usage.1 }, usage.2)
      else if Flag.boolFlag r v "version" then
        ({ run with out := run.out ++ version ++ "\n" }, .exit 0)
      else if Flag.boolFlag r v "list_queries" then
        ({ run with out := run.out ++ display q.getDesc "Query" }, .exit 0)
      else
        match initFormatters [] with
        | none => (run, .exit 1)
        | some fs =>
          if Flag.boolFlag r v "list_formats" then
            ({ run with out := run.out ++ display (Formatter.getDesc fs) "Format" }, .exit 0)
          else if Flag.stringFlag r v "print_query" ≠ "" then
            let x := printQuery q (Flag.stringFlag r v "print_query")
            ({ run with out := run.out ++ x.1 }, x.2)
          else
            let sql := q.getSql (Flag.stringFlag r v "query")
            if sql = "" then
              ({ run with out := run.out ++ notFound q (Flag.stringFlag r v "query") }, .exit 1)
            else execute config fs r v sql b eng run

/-! ### `display` lines up its columns -/

theorem foldl_widenDisplay (l : List (String × String)) :
    ∀ w : Nat × Nat, w.1 ≤ (l.foldl widenDisplay w).1 ∧ w.2 ≤ (l.foldl widenDisplay w).2 ∧
      ∀ kv ∈ l, 4 + kv.1.length ≤ (l.foldl widenDisplay w).1 ∧
        4 + kv.2.length ≤ (l.foldl widenDisplay w).2 := by
  induction l with
  | nil => intro w; simp
  | cons kv l ih =>
    intro w
    obtain ⟨h₁, h₂, hl⟩ := ih (widenDisplay w kv)
    simp only [List.foldl_cons, List.mem_cons, forall_eq_or_imp, widenDisplay] at h₁ h₂ ⊢
    exact ⟨by omega, by omega, ⟨by omega, by omega⟩, hl⟩

/-- **The listings line up**: `display` pads the name and every key to one width and
`Description` and every description to another, each width at least four more than the
longest text it pads, so every description starts in the same column after at least four
spaces. -/
theorem display_aligned (rows : ValueMap) (name : String) :
    ∃ w₀ w₁, display rows name = (setw w₀ name ++ setw w₁ "Description" ++ "\n") ++
        String.join (rows.entries.map fun kv => setw w₀ kv.1 ++ setw w₁ kv.2 ++ "\n") ∧
      4 + name.length ≤ w₀ ∧ 4 + "Description".length ≤ w₁ ∧
      ∀ kv ∈ rows.entries, 4 + kv.1.length ≤ w₀ ∧ 4 + kv.2.length ≤ w₁ := by
  obtain ⟨h₁, h₂, hl⟩ := foldl_widenDisplay rows.entries (name.length + 4, "Description".length + 4)
  exact ⟨_, _, rfl, (Nat.add_comm _ _).trans_le h₁, (Nat.add_comm _ _).trans_le h₂, hl⟩

/-! ### `execute` -/

/-- When `execute` reaches `db.exec`: a database is named, its constructor returns, and the
format names a registered formatter. -/
structure ExecuteRuns (config : Config) (fs : List Formatter) (r : Flag.Registry)
    (values : List Flag.Value) (b : Bootstrap) (schema : Schema) : Prop where
  database : Flag.stringFlag r values "database" ≠ "" ∨ config.getString "HISTORY_DB" "" ≠ ""
  opened : (Database.new config ashRegistry b schema).out = .ret ()
  format : (Formatter.lookup fs (formatOf config r values)).isSome

section Execute

variable (config : Config) (fs : List Formatter) (r : Flag.Registry) (values : List Flag.Value)
  (sql : String) (b : Bootstrap) (eng : Engine) (run : Run)

theorem execute_ending :
    (execute config fs r values sql b eng run).2 = .exit 0 ∨
      (execute config fs r values sql b eng run).2 = .exit 1 := by
  unfold execute
  split_ifs
  · exact .inr rfl
  · dsimp only
    split
    · exact .inr rfl
    · split
      · exact .inr rfl
      · split <;> simp

/-- `execute` sends the engine the calls of the constructor when a database is named, and then
one run of `db.exec` on `sql` exactly when it reaches it. -/
theorem execute_calls :
    ((execute config fs r values sql b eng run).1.calls =
        run.calls ++ (Database.new config ashRegistry b run.schema).calls ++
          [.exec (execQuery config r values sql eng).trace] ∧
      ExecuteRuns config fs r values b run.schema) ∨
    (((execute config fs r values sql b eng run).1.calls = run.calls ∨
        (execute config fs r values sql b eng run).1.calls =
          run.calls ++ (Database.new config ashRegistry b run.schema).calls) ∧
      ¬ExecuteRuns config fs r values b run.schema) := by
  unfold execute
  split_ifs with hdb
  · exact .inr ⟨.inl rfl, fun h => h.database.elim (· hdb.1) (· hdb.2)⟩
  · have hdb : Flag.stringFlag r values "database" ≠ "" ∨ config.getString "HISTORY_DB" "" ≠ "" :=
      not_and_or.mp hdb
    dsimp only
    split
    · rename_i ho
      exact .inr ⟨.inr rfl, fun h => by rw [h.opened] at ho; cases ho⟩
    · rename_i ho
      split
      · rename_i hf
        exact .inr ⟨.inr rfl, fun h => by simpa [hf] using h.format⟩
      · rename_i f hf
        refine .inl ⟨by split <;> rfl, hdb, ho, by rw [hf]; rfl⟩

/-- With no formatter registered, `execute` ends with status `1`, having sent the engine at most
the calls of the constructor. -/
theorem execute_nil :
    (execute config [] r values sql b eng run).2 = .exit 1 ∧
      ((execute config [] r values sql b eng run).1.calls = run.calls ∨
        (execute config [] r values sql b eng run).1.calls =
          run.calls ++ (Database.new config ashRegistry b run.schema).calls) := by
  refine ⟨?_, ?_⟩
  · unfold execute
    split_ifs
    · rfl
    · dsimp only
      split <;> rfl
  · rcases execute_calls config [] r values sql b eng run with ⟨-, h⟩ | ⟨h, -⟩
    · exact absurd h.format (by simp [Formatter.lookup])
    · exact h

end Execute

/-! ### `main` -/

theorem printQuery_ending (q : Queries) (name : String) :
    (printQuery q name).2 = .exit 0 ∨ (printQuery q name).2 = .exit 1 := by
  simp only [printQuery]
  split_ifs <;> simp

section Main

variable (version : String) (config : Config) (q : Queries) (r : Flag.Registry)
  (answers : List Flag.GetoptAnswer) (operands : List String) (b : Bootstrap) (eng : Engine)
  (schema : Schema)

/-- **With no argument no query runs**: `ash_query` alone, on a well-formed flag registry, ends
with status `1` and sends the engine at most the calls of the database's constructor, never a
query, also when `ASH_CFG_DEFAULT_QUERY` is set: the query it then runs, the text `true` that
`Config::sets` requires, goes to `execute` before the formatters are registered, so no format
is known. -/
theorem main_noArgs {r : Flag.Registry} (hr : r.WellFormed) (progName : String) :
    (main version config q r [progName] answers operands b eng schema).2 = .exit 1 ∧
      ((main version config q r [progName] answers operands b eng schema).1.calls = [] ∨
        (main version config q r [progName] answers operands b eng schema).1.calls =
          (Database.new config ashRegistry b schema).calls) := by
  simp only [main, List.length_singleton, if_true]
  split_ifs
  · obtain ⟨hx, hc⟩ := execute_nil ..
    exact ⟨hx, by simpa using hc⟩
  · exact ⟨rfl, .inl rfl⟩
  · exact ⟨Flag.helpAndExit_ending hr .., .inl rfl⟩

/-- A configuration with `ASH_CFG_DEFAULT_QUERY=true` and a database file. -/
def defaultQueryConfig : Config :=
  ⟨fun key => if key = "DEFAULT_QUERY" then some "true" else
    if key = "HISTORY_DB" then some "/tmp/history.db" else none⟩

/-- Saved queries that all read `SELECT 1`. -/
def selectOne : Queries := ⟨ValueMap.empty, fun _ => "SELECT 1", fun _ => "SELECT 1"⟩

/-- `ash_query` alone with `ASH_CFG_DEFAULT_QUERY=true` and a database, on the registry of its
static constructors, ends with status `1` and runs no query. -/
theorem main_noArgs_defaultQuery :
    ∃ r, Flag.registry (defs false) = some r ∧ r.WellFormed ∧
      (main "0.8" defaultQueryConfig selectOne r ["ash_query"] [] [] sessionsOpen
          Database.doneEngine sessionsSchema).2 = .exit 1 ∧
      ((main "0.8" defaultQueryConfig selectOne r ["ash_query"] [] [] sessionsOpen
          Database.doneEngine sessionsSchema).1.calls = [] ∨
        (main "0.8" defaultQueryConfig selectOne r ["ash_query"] [] [] sessionsOpen
          Database.doneEngine sessionsSchema).1.calls =
          (Database.new defaultQueryConfig ashRegistry sessionsOpen sessionsSchema).calls) := by
  obtain ⟨r, hr⟩ := Option.isSome_iff_exists.mp (show (Flag.registry (defs false)).isSome by decide)
  exact ⟨r, hr, Flag.wellFormed_registry hr,
    main_noArgs "0.8" _ _ [] [] _ _ _ (Flag.wellFormed_registry hr) "ash_query"⟩

/-- **Every run ends with status `0` or `1`**: on a well-formed flag registry, `ash_query` never
ends through an exception. -/
theorem main_ending {r : Flag.Registry} (hr : r.WellFormed) (argv : List String) :
    (main version config q r argv answers operands b eng schema).2 = .exit 0 ∨
      (main version config q r argv answers operands b eng schema).2 = .exit 1 := by
  unfold main
  by_cases h1 : argv.length = 1
  · rw [if_pos h1]
    split_ifs
    · exact execute_ending ..
    · exact .inr rfl
    · exact .inr (Flag.helpAndExit_ending hr ..)
  rw [if_neg h1]
  dsimp only
  cases hp : (Flag.parse (argv.headD "") r answers).ending with
  | some e => exact Flag.parseLoop_ending hr _ answers rfl hp
  | none =>
  dsimp only
  generalize (Flag.parse (argv.headD "") r answers).values = v
  by_cases ho : operands ≠ [] ∧ config.sets "IGNORE_UNKNOWN_FLAGS" = false
  · rw [if_pos ho]; exact .inr (Flag.helpAndExit_ending hr ..)
  rw [if_neg ho]
  by_cases hv : Flag.boolFlag r v "version" = true
  · rw [if_pos hv]; exact .inl rfl
  rw [if_neg hv]
  by_cases hq : Flag.boolFlag r v "list_queries" = true
  · rw [if_pos hq]; exact .inl rfl
  rw [if_neg hq, initFormatters_nil]
  dsimp only
  by_cases hf : Flag.boolFlag r v "list_formats" = true
  · rw [if_pos hf]; exact .inl rfl
  rw [if_neg hf]
  by_cases hp : Flag.stringFlag r v "print_query" ≠ ""
  · rw [if_pos hp]; exact printQuery_ending ..
  rw [if_neg hp]
  by_cases hs : q.getSql (Flag.stringFlag r v "query") = ""
  · rw [if_pos hs]; exact .inr rfl
  rw [if_neg hs]
  exact execute_ending ..

/-- An argument that is not a flag ends `ash_query`, on the registry of its static
constructors, with a status. -/
theorem main_ending_unrecognized :
    ∃ r, Flag.registry (defs false) = some r ∧ r.WellFormed ∧
      ((main "0.8" Config.unset selectOne r ["ash_query", "x"] [] ["x"] sessionsOpen
          Database.doneEngine sessionsSchema).2 = .exit 0 ∨
        (main "0.8" Config.unset selectOne r ["ash_query", "x"] [] ["x"] sessionsOpen
          Database.doneEngine sessionsSchema).2 = .exit 1) := by
  obtain ⟨r, hr⟩ := Option.isSome_iff_exists.mp (show (Flag.registry (defs false)).isSome by decide)
  exact ⟨r, hr, Flag.wellFormed_registry hr,
    main_ending "0.8" _ _ [] ["x"] _ _ _ (Flag.wellFormed_registry hr) ["ash_query", "x"]⟩

end Main

end AshQuery

end Ash
