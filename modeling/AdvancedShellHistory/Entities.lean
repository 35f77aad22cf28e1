import AdvancedShellHistory.Unix

/-!
# `Session` and `Command`: the rows `_ash_log` inserts

The two entities of `session.cpp` and `command.cpp`: their tables' DDL, which
`register_table` adds to the registry, and their constructors, which fill the value map from
`unix.cpp` and from the flags `_ash_log` was given.

`getSql_renders_insert` says that, for every host and every flag value, each entity's
`get_sql` is read by the engine as exactly the single-row `INSERT` of its own values: every
value is one literal, so none can end early, carry SQL of its own, or move into another
column.
-/

namespace Ash

/-! ### `Session` -/

namespace Session

/-- The DDL that `Session::register_table` registers. -/
def createTable : String :=
  "CREATE TABLE IF NOT EXISTS sessions ( \n" ++
  "  id integer primary key autoincrement, \n" ++
  "  hostname varchar(128), \n" ++
  "  host_ip varchar(40), \n" ++
  "  ppid int(5) not null, \n" ++
  "  pid int(5) not null, \n" ++
  "  time_zone str(3) not null, \n" ++
  "  start_time integer not null, \n" ++
  "  end_time integer, \n" ++
  "  duration integer, \n" ++
  "  tty varchar(20) not null, \n" ++
  "  uid int(16) not null, \n" ++
  "  euid int(16) not null, \n" ++
  "  logname varchar(48), \n" ++
  "  shell varchar(50) not null, \n" ++
  "  sudo_user varchar(48), \n" ++
  "  sudo_uid int(16), \n" ++
  "  ssh_client varchar(60), \n" ++
  "  ssh_connection varchar(100) \n" ++
  ");"

/-- `Session::register_table()`. -/
def registerTable (r : Registry) : Registry := r.registerTable "sessions" createTable

/-- `Session::Session()`, with `get_name()`. -/
def new (h : Host) : DBObject :=
  ⟨"sessions", ValueMap.empty
    |>.set "time_zone" (unix.timeZone h)
    |>.set "start_time" (unix.time h)
    |>.set "ppid" (unix.ppid h)
    |>.set "pid" (unix.pid h)
    |>.set "tty" (unix.tty h)
    |>.set "uid" (unix.uid h)
    |>.set "euid" (unix.euid h)
    |>.set "logname" (unix.loginName h)
    |>.set "hostname" (unix.hostName h)
    |>.set "host_ip" (unix.hostIp h)
    |>.set "shell" (unix.shell h)
    |>.set "sudo_user" (unix.env h "SUDO_USER")
    |>.set "sudo_uid" (unix.env h "SUDO_UID")
    |>.set "ssh_client" (unix.env h "SSH_CLIENT")
    |>.set "ssh_connection" (unix.env h "SSH_CONNECTION")⟩

end Session

/-! ### `Command` -/

namespace Command

/-- The DDL that `Command::register_table` registers. -/
def createTable : String :=
  "CREATE TABLE IF NOT EXISTS commands (\n" ++
  "  id integer primary key autoincrement,\n" ++
  "  session_id integer not null,\n" ++
  "  shell_level integer not null,\n" ++
  "  command_no integer,\n" ++
  "  tty varchar(20) not null,\n" ++
  "  euid int(16) not null,\n" ++
  "  cwd varchar(256) not null,\n" ++
  "  rval int(5) not null,\n" ++
  "  start_time integer not null,\n" ++
  "  end_time integer not null,\n" ++
  "  duration integer not null,\n" ++
  "  pipe_cnt int(3),\n" ++
  "  pipe_vals varchar(80),\n" ++
  "  command varchar(1000) not null,\n" ++
  "UNIQUE(session_id, command_no)\n" ++
  ");"

/-- `Command::register_table()`. -/
def registerTable (r : Registry) : Registry := r.registerTable "commands" createTable

/-- `Command::Command(command, rval, start_ts, end_ts, number, pipes)`, with `get_name()`;
`none` where `unix::env_int` reads an unset variable.  `end_ts - start_ts` is taken without
the overflow of `int`. -/
def new (h : Host) (command : String) (rval startTs endTs number : Int) (pipes : String) :
    Option DBObject := do
  let sessionId ← unix.envInt h "ASH_SESSION_ID"
  let shellLevel ← unix.envInt h "SHLVL"
  pure ⟨"commands", ValueMap.empty
    |>.set "session_id" sessionId
    |>.set "shell_level" shellLevel
    |>.set "command_no" (Util.toString number)
    |>.set "tty" (unix.tty h)
    |>.set "euid" (unix.euid h)
    |>.set "cwd" (if rval = 0 ∧ strFind command "cd" = some 0 then unix.env h "OLDPWD"
        else unix.cwd h)
    |>.set "rval" (Util.toString rval)
    |>.set "start_time" (Util.toString startTs)
    |>.set "end_time" (Util.toString endTs)
    |>.set "duration" (Util.toString (endTs - startTs))
    |>.set "pipe_cnt" (Util.toString (pipes.toList.count '_' + 1))
    |>.set "pipe_vals" (DBObject.quote pipes)
    |>.set "command" (DBObject.quote command)⟩

end Command

/-! ### What `get_sql` writes for them -/

theorem isLit_envInt {h : Host} {name v : String} (hv : unix.envInt h name = some v) : IsLit v := by
  obtain ⟨x, -, rfl⟩ := Option.map_eq_some'.mp hv
  exact isLit_toString _

/-- Every `Session` a host gives is written as the `INSERT` of its values. -/
theorem rendersInsert_session_new (h : Host) : RendersInsert (Session.new h) := by
  refine getSql_spec (by decide : Sql.isIdent "sessions") (ValueMap.keys_set_ne_nil _ _ _) ?_
  iterate 15 refine ValueMap.all_set ?_ ⟨by decide, ?_⟩
  all_goals first
    | exact ValueMap.all_empty _
    | exact isLit_quote _
    | exact isLit_quoteCStr _
    | exact isLit_toString _
    | exact isLit_tty h
    | exact isLit_hostIp h
    | exact isLit_shell h

/-- Every `Command` the constructor builds is written as the `INSERT` of its values. -/
theorem rendersInsert_command_new {h : Host} {command pipes : String}
    {rval startTs endTs number : Int} {e : DBObject}
    (he : Command.new h command rval startTs endTs number pipes = some e) : RendersInsert e := by
  simp only [Command.new, Option.bind_eq_bind, Option.bind_eq_some, Option.pure_def,
    Option.some.injEq] at he
  obtain ⟨sid, hsid, lvl, hlvl, rfl⟩ := he
  refine getSql_spec (by decide : Sql.isIdent "commands") (ValueMap.keys_set_ne_nil _ _ _) ?_
  iterate 13 refine ValueMap.all_set ?_ ⟨by decide, ?_⟩
  all_goals first
    | exact ValueMap.all_empty _
    | exact isLit_quote _
    | exact isLit_quoteCStr _
    | exact isLit_toString _
    | exact isLit_tty h
    | exact isLit_envInt hsid
    | exact isLit_envInt hlvl
    | split_ifs <;> exact isLit_quoteCStr _

/-- **The entities' `INSERT`s**: for every host, every environment and every flag value, the
text `get_sql` writes for the `Session` is read as exactly the single-row `INSERT` of its
values, and so is the text for the `Command` whenever the variables `unix::env_int` reads are
set. -/
theorem getSql_renders_insert (h : Host) (command : String) (rval startTs endTs number : Int)
    (pipes : String) :
    RendersInsert (Session.new h) ∧
    ((h.env "ASH_SESSION_ID").isSome → (h.env "SHLVL").isSome →
      ∃ e, Command.new h command rval startTs endTs number pipes = some e ∧ RendersInsert e) := by
  refine ⟨rendersInsert_session_new h, fun hs hl => ?_⟩
  obtain ⟨sid, hsid⟩ := Option.isSome_iff_exists.mp hs
  obtain ⟨lvl, hlvl⟩ := Option.isSome_iff_exists.mp hl
  obtain ⟨e, he⟩ := Option.isSome_iff_exists.mp
    (by simp [Command.new, unix.envInt, hsid, hlvl] :
      (Command.new h command rval startTs endTs number pipes).isSome)
  exact ⟨e, he, rendersInsert_command_new he⟩

end Ash
