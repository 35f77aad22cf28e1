import AdvancedShellHistory.AshLog
import AdvancedShellHistory.Flags
import AdvancedShellHistory.Logger

/-!
# `main` of `_ash_log.cpp`

The shell runs `_ash_log` after every command.  `main` returns `FLAGS_exit` at once when
`ASH_DISABLED` is set; otherwise it logs its `argv` at `DEBUG`, shows the usage when it has no
argument, parses its flags, and then, in turn, prints the version (`-V`), an alert (`-a`),
requires `ASH_CFG_HISTORY_DB`, emits the session id (`-S`), inserts the command when a command
flag is given, ends the session (`-E`) and returns `FLAGS_exit`.  Each of the last three opens
the database anew.

* **An undated logger stops every run**: when `localtime` fails or `strftime` writes nothing for
  `ASH_CFG_LOG_DATE_FMT`, which it does for an empty format, every run that is not disabled
  ends with status `1` at its first `LOG(DEBUG)`, before it parses a flag or opens the database
  (`main_of_undated`).
* **A disabled run does nothing**: with `ASH_DISABLED` set, `main` ends with status `0`, its
  flags not yet parsed, whatever `-x` says and whatever the order of the static constructors
  (`main_disabled`).
* **A run adds at most one session and one command**: however a run ends, with any contention
  and any retry budget, the rows of the database grow by at most one `Session` followed by at
  most one `Command` (`main_rows`).
* **No exception ends a run**: on a well-formed flag registry, `main` ends with a status, never
  through `std::terminate` (`main_ne_abort`).

The `-S` block of `main` is `sessionIdBlock` on a new connection.

`-E`'s `UPDATE` sets two columns of a `sessions` row; the rows here are the rows inserted, so
it leaves them as they are.
-/

namespace Ash

/-- `Session::get_close_session_sql()`. -/
def Session.getCloseSessionSql (h : Host) : String :=
  "UPDATE sessions \n" ++ "SET \n" ++ "  end_time = " ++ unix.time h ++ ", \n" ++
    "  duration = " ++ unix.time h ++ " - start_time \n" ++
    "WHERE id == " ++ unix.env h "ASH_SESSION_ID" ++ "; "

namespace AshLog

/-! ### Flags -/

/-- The `DEFINE_` lines of `_ash_log.cpp`, in their order. -/
def flags : List Flag.Def :=
  [⟨"alert", 'a', "A message to display to the user.", .string none, false⟩,
   ⟨"command", 'c', "The command to log.", .string none, false⟩,
   ⟨"command_exit", 'e', "The exit code of the command to log.", .int 0, false⟩,
   ⟨"command_pipe_status", 'p', "The pipe states of the command to log.", .string none, false⟩,
   ⟨"command_start", 's', "The timestamp when the command started.", .int 0, false⟩,
   ⟨"command_finish", 'f', "The timestamp when the command stopped.", .int 0, false⟩,
   ⟨"command_number", 'n', "The builtin shell history command number.", .int 0, false⟩,
   ⟨"exit", 'x', "The exit code to use when exiting.", .int 0, false⟩,
   ⟨"version", 'V', "Prints the version and exits.", .bool false false, false⟩,
   ⟨"get_session_id", 'S', "Emits the session ID (or creates one).", .bool false false, false⟩,
   ⟨"end_session", 'E', "Ends the current session.", .bool false false, false⟩]

/-- The static constructors of `_ash_log`: those of `flags.cpp`, its help flag, before or after
those of `_ash_log.cpp`, as the static initialisation of the two files goes. -/
def defs (helpFirst : Bool) : List Flag.Def :=
  if helpFirst then Flag.helpDef :: flags else flags ++ [Flag.helpDef]

/-- `command_flag_used`. -/
def commandFlagUsed (r : Flag.Registry) (values : List Flag.Value) : Bool :=
  Flag.stringFlag r values "command" ≠ "" || Flag.intFlag r values "command_exit" ≠ 0 ||
    Flag.stringFlag r values "command_pipe_status" ≠ "" ||
    Flag.intFlag r values "command_start" ≠ 0 || Flag.intFlag r values "command_finish" ≠ 0 ||
    Flag.intFlag r values "command_number" ≠ 0

/-- `Command com(FLAGS_command, FLAGS_command_exit, FLAGS_command_start, FLAGS_command_finish,
FLAGS_command_number, FLAGS_command_pipe_status)`; `none` where it reads an unset variable. -/
def commandOf (h : Host) (r : Flag.Registry) (values : List Flag.Value) : Option DBObject :=
  Command.new h (Flag.stringFlag r values "command") (Flag.intFlag r values "command_exit")
    (Flag.intFlag r values "command_start") (Flag.intFlag r values "command_finish")
    (Flag.intFlag r values "command_number") (Flag.stringFlag r values "command_pipe_status")

/-! ### The run -/

/-- The message of the first `LOG(DEBUG)`. -/
def argvText (argv : List String) : String :=
  "argv = '[0]='" ++ argv.headD "" ++ "'" ++ String.join ((List.range (argv.length - 1)).map
    fun i => ",[" ++ toString (i + 1) ++ "]='" ++ argv.getD (i + 1) "" ++ "'")

/-- What `usage(out)` writes before `Flag::show_help`. -/
def usageText : String :=
  "\n\nThis program is not intended to be executed manually.\n\n" ++
    "NOTE: See the man page for more details.\n"

/-- The exit status of `return v`: its low eight bits. -/
def exitStatus (v : Int) : Nat := (v % 256).toNat

/-- What the system and the engine answer to the three databases `main` may open: the
constructor's answers, then the engine's answers to the statements run on it. -/
structure Backend where
  sessionOpen : Bootstrap
  sessionCount : Engine
  sessionInsert : Engine
  commandOpen : Bootstrap
  commandInsert : Engine
  closeOpen : Bootstrap
  close : Engine

/-- What a run of `_ash_log` has done: what it wrote to standard output, standard error and log
files, the number of `perror` lines, and the schema and rows of the database file. -/
structure Run where
  out : String
  err : String
  logs : List (String × String)
  perrors : Nat
  schema : Schema
  store : Store

/-- The next block of `main`, unless the process has ended. -/
def andThen (x : Run × Option Ending) (block : Run → Run × Option Ending) :
    Run × Option Ending :=
  match x.2 with
  | some _ => x
  | none => block x.1

/-- `Database db = Database(db_file)`: the schema after `init_db` and a new connection, on
which no row has been inserted; `none` when the constructor ends the process. -/
def openDb (h : Host) (b : Bootstrap) (run : Run) : Option Run :=
  let opened := Database.new h.config ashRegistry b run.schema
  match opened.out with
  | .fatal => none
  | .ret () =>
    some { run with schema := opened.conn.schema, store := { run.store with lastInsertRowid := 0 } }

/-- The `-S` block, `sessionIdBlock` on the file's schema and rows through a new connection, on
which no row has been inserted: it ends the process with status `1` where the block does. -/
def emitSessionId (h : Host) (be : Backend) (run : Run) : Run × Option Ending :=
  let x := sessionIdBlock h be.sessionOpen run.schema be.sessionCount be.sessionInsert
    { run.store with lastInsertRowid := 0 }
  let run := { run with
    out := run.out ++ x.written.out, err := run.err ++ x.written.err, schema := x.conn.schema,
    store := x.store }
  match x.out with
  | .fatal => (run, some (.exit 1))
  | .ret () => (run, none)

/-- The command block: `Command com(...)` and `db.insert(&com)` on a new database; the
constructor crashes where `unix::env_int` reads an unset variable. -/
def insertCommand (h : Host) (be : Backend) (o : Option DBObject) (run : Run) :
    Run × Option Ending :=
  match openDb h be.commandOpen run with
  | none => (run, some (.exit 1))
  | some run =>
    match o with
    | none => (run, some .crash)
    | some o =>
      let r := Database.insert h.config be.commandInsert run.store (some o)
      ({ run with store := r.store }, match r.out with
        | .fatal => some (.exit 1)
        | .ret _ => none)

/-- The `-E` block: `db.exec(session.get_close_session_sql())` on a new database, or a
`LOG(ERROR)` when `ASH_SESSION_ID` is unset. -/
def endSession (h : Host) (clock : Logger.Clock) (be : Backend) (run : Run) :
    Run × Option Ending :=
  match h.env "ASH_SESSION_ID" with
  | none =>
    let l := Logger.log h clock .error "Can't end the current session: ASH_SESSION_ID undefined."
    ({ run with logs := run.logs ++ l.writes, perrors := run.perrors + l.perrors },
      if l.exits then some (.exit 1) else none)
  | some _ =>
    match openDb h be.closeOpen run with
    | none => (run, some (.exit 1))
    | some run =>
      match (Database.exec h.config (Session.getCloseSessionSql h) be.close 0 false).out with
      | .fatal => (run, some (.exit 1))
      | .ret _ => (run, none)

/-- The database blocks of `main`: `-S`, the command, `-E`, each run when its flag is given. -/
def updateDb (h : Host) (clock : Logger.Clock) (be : Backend) (r : Flag.Registry)
    (values : List Flag.Value) (run : Run) : Run × Option Ending :=
  let x := if Flag.boolFlag r values "get_session_id" then emitSessionId h be run else (run, none)
  let x := andThen x fun run =>
    if commandFlagUsed r values then insertCommand h be (commandOf h r values) run else (run, none)
  andThen x fun run => if Flag.boolFlag r values "end_session" then endSession h clock be run
    else (run, none)

/-- `main(argc, argv)` of `_ash_log.cpp` with the flag registry `r`, the answers of
`getopt_long` to `argv`, the answers of the system and the engine `be`, on a database file
whose schema is `schema` and whose rows are `st`: the run and how the process ended. -/
def main (version : String) (h : Host) (clock : Logger.Clock) (r : Flag.Registry)
    (argv : List String) (answers : List Flag.GetoptAnswer) (be : Backend) (schema : Schema)
    (st : Store) : Run × Ending :=
  let run : Run := ⟨"", "", [], 0, schema, st⟩
  if (h.env "ASH_DISABLED").isSome then (run, .exit (exitStatus (Flag.intFlag r r.values "exit")))
  else
    let dbg := Logger.log h clock .debug (argvText argv)
    let run := { run with logs := dbg.writes, perrors := dbg.perrors }
    let progName := argv.headD ""
    if dbg.exits then (run, .exit 1)
    else if argv.length = 1 ∧ h.config.sets "HIDE_USAGE_FOR_NO_ARGS" = false then
      let p := Flag.parse progName r []
      let usage := Flag.helpAndExit progName r p.values (p.err ++ usageText) 1
      ({ run with out := p.out, err := usage.1 }, usage.2)
    else
      let p := Flag.parse progName r answers
      let run := { run with out := p.out, err := p.err }
      match p.ending with
      | some e => (run, e)
      | none =>
        let v := p.values
        if Flag.boolFlag r v "version" then ({ run with out := run.out ++ version ++ "\n" }, .exit 0)
        else
          let alert := Flag.stringFlag r v "alert"
          let run := if alert = "" then run else { run with err := run.err ++ alert ++ "\n" }
          if h.config.getString "HISTORY_DB" "" = "" then
            let usage := Flag.helpAndExit progName r v
              (run.err ++ "\nExpected ASH_CFG_HISTORY_DB to be defined." ++ usageText) 1
            ({ run with err := usage.1 }, usage.2)
          else
            let x := updateDb h clock be r v run
            (x.1, x.2.getD (.exit (exitStatus (Flag.intFlag r v "exit"))))

/-! ### An undated logger -/

/-- `_ash_log`'s flags register, in either order, with `FLAGS_exit` at `0`. -/
theorem intFlag_exit_registry (helpFirst : Bool) :
    (Flag.registry (defs helpFirst)).map (fun r => Flag.intFlag r r.values "exit") = some 0 := by
  cases helpFirst <;> decide

/-- **A disabled run does nothing**: with `ASH_DISABLED` set, whatever the order of the static
constructors, `main` writes nothing, leaves the database as it was and ends with status `0`:
`FLAGS_exit` still holds its default, `-x` not having been parsed. -/
theorem main_disabled (version : String) {h : Host} (hd : (h.env "ASH_DISABLED").isSome)
    (clock : Logger.Clock) (helpFirst : Bool) (argv : List String)
    (answers : List Flag.GetoptAnswer) (be : Backend) (schema : Schema) (st : Store) :
    (Flag.registry (defs helpFirst)).map (fun r => main version h clock r argv answers be schema st) =
      some (⟨"", "", [], 0, schema, st⟩, .exit 0) := by
  have hx := intFlag_exit_registry helpFirst
  obtain ⟨r, hr⟩ := Option.isSome_iff_exists.mp (Option.isSome_map'.symm.trans
    (congrArg Option.isSome hx))
  rw [hr] at hx ⊢
  simp only [Option.map_some', Option.some.injEq] at hx ⊢
  simp only [main, hd, if_true, hx]
  rfl

/-- A host with `ASH_DISABLED` set. -/
def disabledHost : Host :=
  ⟨fun name => if name = "ASH_DISABLED" then some "1" else none, 0, "UTC", 0, 0, 0, 0,
    none, none, "", none, false, "", "", none, ""⟩

/-- `_ash_log -x 7` with `ASH_DISABLED` set ends with status `0`. -/
example :
    (Flag.registry (defs false)).map (fun r => main "0.8" disabledHost ⟨true, fun _ => "x"⟩ r
        ["_ash_log", "-x", "7"] [.short 'x' (some "7")] ⟨sessionsOpen, Database.doneEngine,
          Database.doneEngine, sessionsOpen, Database.doneEngine, sessionsOpen,
          Database.doneEngine⟩ sessionsSchema Store.empty) =
      some (⟨"", "", [], 0, sessionsSchema, Store.empty⟩, .exit 0) :=
  main_disabled "0.8" (h := disabledHost) rfl _ false _ _ _ _ _

/-! ### The rows a run adds -/

/-- The rows of `run'` are those of `run` followed by at most one more, which satisfies `P`. -/
def AddsAtMostOne (P : DBObject → Prop) (run run' : Run) : Prop :=
  ∃ added : List DBObject, added.length ≤ 1 ∧ (∀ o ∈ added, P o) ∧
    run'.store.rows.map Prod.snd = run.store.rows.map Prod.snd ++ added

theorem AddsAtMostOne.of_rows_eq {P : DBObject → Prop} {run run' : Run}
    (h : run'.store.rows = run.store.rows) : AddsAtMostOne P run run' :=
  ⟨[], Nat.zero_le _, nofun, by rw [h, List.append_nil]⟩

theorem openDb_rows {h : Host} {b : Bootstrap} {run run' : Run} (ho : openDb h b run = some run') :
    run'.store.rows = run.store.rows := by
  unfold openDb at ho
  dsimp only at ho
  split at ho
  · cases ho
  · cases ho
    rfl

/-- An insert of `o` on rows that are those of `run` adds at most its row. -/
theorem AddsAtMostOne.of_insert {P : DBObject → Prop} {run run' : Run} {config : Config}
    {eng : Engine} {st : Store} {o : DBObject}
    (hs : run'.store = (Database.insert config eng st (some o)).store)
    (hst : st.rows = run.store.rows) (hP : P o) :
    AddsAtMostOne P run run' := by
  obtain ⟨k, hk, hrows, -⟩ := Database.insert_applies_once config eng st o
  refine ⟨List.replicate k o, by simpa using hk, fun x hx => List.eq_of_mem_replicate hx ▸ hP, ?_⟩
  rw [hs, hrows, hst]

theorem emitSessionId_store (h : Host) (be : Backend) (run : Run) :
    (emitSessionId h be run).1.store = (sessionIdBlock h be.sessionOpen run.schema be.sessionCount
      be.sessionInsert { run.store with lastInsertRowid := 0 }).store := by
  unfold emitSessionId
  dsimp only
  split <;> rfl

theorem emitSessionId_rows (h : Host) (be : Backend) (run : Run) :
    AddsAtMostOne (· = Session.new h) run (emitSessionId h be run).1 := by
  rcases sessionIdBlock_store h be.sessionOpen run.schema be.sessionCount be.sessionInsert
    { run.store with lastInsertRowid := 0 } with hs | hs
  · exact .of_rows_eq (by rw [emitSessionId_store, hs])
  · exact .of_insert ((emitSessionId_store h be run).trans hs) rfl rfl

theorem insertCommand_rows (h : Host) (be : Backend) (o : Option DBObject) (run : Run) :
    AddsAtMostOne (some · = o) run (insertCommand h be o run).1 := by
  unfold insertCommand
  split
  · exact .of_rows_eq rfl
  · rename_i run' ho
    split
    · exact .of_rows_eq (openDb_rows ho)
    · exact .of_insert rfl (openDb_rows ho) rfl

theorem endSession_rows (h : Host) (clock : Logger.Clock) (be : Backend) (run : Run) :
    (endSession h clock be run).1.store.rows = run.store.rows := by
  unfold endSession
  split
  · rfl
  · split
    · rfl
    · rename_i run' ho
      split <;> exact openDb_rows ho

/-- The database blocks add at most a session, then at most a command. -/
theorem updateDb_rows (h : Host) (clock : Logger.Clock) (be : Backend) (r : Flag.Registry)
    (values : List Flag.Value) (run : Run) :
    ∃ s c : List DBObject, s.length ≤ 1 ∧ (∀ o ∈ s, o = Session.new h) ∧ c.length ≤ 1 ∧
      (∀ o ∈ c, some o = commandOf h r values) ∧
      (updateDb h clock be r values run).1.store.rows.map Prod.snd =
        run.store.rows.map Prod.snd ++ s ++ c := by
  simp only [updateDb]
  -- the `-S` block
  obtain ⟨s, hs, hsP, h₁⟩ : AddsAtMostOne (· = Session.new h) run
      (if Flag.boolFlag r values "get_session_id" then emitSessionId h be run else (run, none)).1 := by
    split_ifs
    · exact emitSessionId_rows h be run
    · exact .of_rows_eq rfl
  generalize (if Flag.boolFlag r values "get_session_id" then emitSessionId h be run else (run, none))
    = x at h₁ ⊢
  -- the command block
  obtain ⟨c, hc, hcP, h₂⟩ : AddsAtMostOne (some · = commandOf h r values) x.1 (andThen x fun run =>
      if commandFlagUsed r values then insertCommand h be (commandOf h r values) run
      else (run, none)).1 := by
    unfold andThen
    split
    · exact .of_rows_eq rfl
    · split_ifs
      · exact insertCommand_rows h be _ x.1
      · exact .of_rows_eq rfl
  generalize (andThen x fun run => if commandFlagUsed r values then
    insertCommand h be (commandOf h r values) run else (run, none)) = y at h₂ ⊢
  -- the `-E` block
  have h₃ : (andThen y fun run => if Flag.boolFlag r values "end_session" then
      endSession h clock be run else (run, none)).1.store.rows = y.1.store.rows := by
    unfold andThen
    split
    · rfl
    · split_ifs
      · exact endSession_rows h clock be y.1
      · rfl
  exact ⟨s, c, hs, hsP, hc, hcP, by rw [h₃, h₂, h₁]⟩

/-- **A run adds at most one session and one command**: however a run of `_ash_log` ends, and
whatever the contention and the retry budget, the rows of the database file grow by at most
one `Session` followed by at most one `Command`, the one its flags describe. -/
theorem main_rows (version : String) (h : Host) (clock : Logger.Clock) (r : Flag.Registry)
    (argv : List String) (answers : List Flag.GetoptAnswer) (be : Backend) (schema : Schema)
    (st : Store) :
    ∃ s c : List DBObject, s.length ≤ 1 ∧ (∀ o ∈ s, o = Session.new h) ∧ c.length ≤ 1 ∧
      (∀ o ∈ c, some o = commandOf h r (Flag.parse (argv.headD "") r answers).values) ∧
      (main version h clock r argv answers be schema st).1.store.rows.map Prod.snd =
        st.rows.map Prod.snd ++ s ++ c := by
  have hnone : ∀ run : Run, run.store = st → ∃ s c : List DBObject, s.length ≤ 1 ∧
      (∀ o ∈ s, o = Session.new h) ∧ c.length ≤ 1 ∧
      (∀ o ∈ c, some o = commandOf h r (Flag.parse (argv.headD "") r answers).values) ∧
      run.store.rows.map Prod.snd = st.rows.map Prod.snd ++ s ++ c := fun run hr =>
    ⟨[], [], Nat.zero_le _, nofun, Nat.zero_le _, nofun, by simp [hr]⟩
  unfold main
  by_cases hd : (h.env "ASH_DISABLED").isSome
  · rw [if_pos hd]; exact hnone _ rfl
  rw [if_neg hd]
  dsimp only
  by_cases hx : (Logger.log h clock .debug (argvText argv)).exits = true
  · rw [if_pos hx]; exact hnone _ rfl
  rw [if_neg hx]
  by_cases hu : argv.length = 1 ∧ h.config.sets "HIDE_USAGE_FOR_NO_ARGS" = false
  · rw [if_pos hu]; exact hnone _ rfl
  rw [if_neg hu]
  generalize Flag.parse (argv.headD "") r answers = p at hnone ⊢
  cases p.ending with
  | some e => exact hnone _ rfl
  | none =>
  dsimp only
  by_cases hv : Flag.boolFlag r p.values "version" = true
  · rw [if_pos hv]; exact hnone _ rfl
  rw [if_neg hv]
  split_ifs <;> first | exact hnone _ rfl | exact updateDb_rows h clock be r _ _

/-! ### No exception ends a run -/

theorem andThen_ne_abort {x : Run × Option Ending} (hx : x.2 ≠ some .abort)
    {block : Run → Run × Option Ending} (hb : ∀ run, (block run).2 ≠ some .abort) :
    (andThen x block).2 ≠ some .abort := by
  unfold andThen
  split
  · exact hx
  · exact hb _

theorem emitSessionId_ne_abort (h : Host) (be : Backend) (run : Run) :
    (emitSessionId h be run).2 ≠ some .abort := by
  unfold emitSessionId
  dsimp only
  split <;> nofun

theorem updateDb_ne_abort (h : Host) (clock : Logger.Clock) (be : Backend) (r : Flag.Registry)
    (values : List Flag.Value) (run : Run) :
    (updateDb h clock be r values run).2 ≠ some .abort := by
  unfold updateDb
  refine andThen_ne_abort (andThen_ne_abort ?_ fun run => ?_) fun run => ?_
  · split_ifs
    · exact emitSessionId_ne_abort h be run
    · simp
  all_goals
    simp only [insertCommand, endSession]
    repeat' split
    all_goals simp

theorem parse_ne_abort {r : Flag.Registry} (hr : r.WellFormed) {progName : String}
    {answers : List Flag.GetoptAnswer} {e : Ending}
    (he : (Flag.parse progName r answers).ending = some e) : e ≠ .abort := by
  rcases Flag.parseLoop_ending hr progName answers rfl he with rfl | rfl <;> nofun

theorem getD_ne_abort {o : Option Ending} (ho : o ≠ some .abort) (n : Nat) :
    o.getD (.exit n) ≠ .abort := by
  cases o <;> simp_all

/-- **No exception ends a run**: on a well-formed flag registry, `_ash_log` never ends through
`std::terminate`; neither `Flag::parse` nor the help it prints throws. -/
theorem main_ne_abort (version : String) (h : Host) (clock : Logger.Clock) {r : Flag.Registry}
    (hr : r.WellFormed) (argv : List String) (answers : List Flag.GetoptAnswer) (be : Backend)
    (schema : Schema) (st : Store) :
    (main version h clock r argv answers be schema st).2 ≠ .abort := by
  unfold main
  by_cases hd : (h.env "ASH_DISABLED").isSome
  · rw [if_pos hd]; nofun
  rw [if_neg hd]
  dsimp only
  by_cases hx : (Logger.log h clock .debug (argvText argv)).exits = true
  · rw [if_pos hx]; nofun
  rw [if_neg hx]
  by_cases hu : argv.length = 1 ∧ h.config.sets "HIDE_USAGE_FOR_NO_ARGS" = false
  · rw [if_pos hu, Flag.helpAndExit_ending hr]; nofun
  rw [if_neg hu]
  cases he : (Flag.parse (argv.headD "") r answers).ending with
  | some e => exact parse_ne_abort hr he
  | none =>
  dsimp only
  by_cases hv : Flag.boolFlag r (Flag.parse (argv.headD "") r answers).values "version" = true
  · rw [if_pos hv]; nofun
  rw [if_neg hv]
  split_ifs
  all_goals first
    | (rw [Flag.helpAndExit_ending hr]; nofun)
    | exact getD_ne_abort (updateDb_ne_abort h clock be r _ _) _

/-- `_ash_log -x 7` on the registry of its static constructors never aborts. -/
theorem main_ne_abort_flags :
    ∃ r, Flag.registry (defs false) = some r ∧ r.WellFormed ∧
      (main "0.8" Logger.emptyDateFormatHost ⟨true, fun _ => "x"⟩ r ["_ash_log", "-x", "7"]
        [.short 'x' (some "7")] ⟨sessionsOpen, Database.doneEngine, Database.doneEngine,
          sessionsOpen, Database.doneEngine, sessionsOpen, Database.doneEngine⟩
        sessionsSchema Store.empty).2 ≠ .abort := by
  obtain ⟨r, hr⟩ := Option.isSome_iff_exists.mp (show (Flag.registry (defs false)).isSome by decide)
  exact ⟨r, hr, Flag.wellFormed_registry hr,
    main_ne_abort "0.8" _ _ (Flag.wellFormed_registry hr) _ _ _ _ _⟩

end AshLog

end Ash
