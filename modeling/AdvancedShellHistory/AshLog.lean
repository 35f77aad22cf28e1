import AdvancedShellHistory.Database.Open

/-!
# `_ash_log -S`: the session id

With `-S`, `main` of `_ash_log.cpp` opens the history database and prints the session id the
shell is to use: the one in `ASH_SESSION_ID` when the query
`select count(*) ... where id = <id> and duration is null` finds it open, and otherwise the row
id of a new `Session` it inserts.  `sessionIdBlock` is the block with everything it leaves,
also when it ends the process; `getSessionId` is what it returns with.

The block keeps the rows or applies the insert of one `Session` (`sessionIdBlock_store`).

The test is `!rs || rs -> rows != 1`: the number of rows of the result, not the count in it.
A `count(*)` without `GROUP BY` has one row whatever it counts, so whenever the query runs the
id is printed, for every content of the `sessions` table (`getSessionId_reuses`); a session
that is missing or has ended is taken up again (`getSessionId_reuses_missing`).
-/

namespace Ash

/-- The query `-S` asks about the session id `id`, spliced in as it is. -/
def sessionCountQuery (id : String) : String :=
  "select count(*) as session_cnt from sessions where id = " ++ id ++ " and duration is null;"

/-- The rows the count query counts for the id `n`: rows of `sessions` with row id `n` whose
`duration` is null, that is, not set or set to `null`. -/
def openSessions (st : Store) (n : Nat) : List (Nat × DBObject) :=
  st.rows.filter fun e =>
    e.2.name = "sessions" ∧ e.1 = n ∧ (e.2.values.entries.lookup "duration").all (· = "null")

/-- An engine that answers the count query with the count `n`: one row, then `SQLITE_DONE`, as
`count(*)` without `GROUP BY` does whatever it counts. -/
def sessionCountEngine (n : Nat) : Engine :=
  fun _ => .stmt ⟨["session_cnt"], [[some (toString n)]], .done⟩

/-- What `main` writes to standard output and to standard error. -/
structure Output where
  out : String
  err : String
  deriving DecidableEq, Repr

/-- The test of `-S` on the result of the count query: the id is kept unless
`!rs || rs -> rows != 1`. -/
def reusesId : Option ResultSet → Bool
  | some rs => rs.rows = 1
  | none => false

/-- What the `-S` block has done: whether it returned, what it wrote to standard output and to
standard error, the connection the constructor left and the rows after it. -/
structure SessionIdRun where
  out : Outcome Unit
  written : Output
  conn : Conn
  store : Store

/-- `Session session; cout << db.insert(&session) << endl;` on the connection `conn`, after
`err` was written to standard error: the row id is printed when the insert returns. -/
def newSession (h : Host) (conn : Conn) (insEng : Engine) (st : Store) (err : String) :
    SessionIdRun :=
  let r := Database.insert h.config insEng st (some (Session.new h))
  match r.out with
  | .fatal => ⟨.fatal, ⟨"", err⟩, conn, r.store⟩
  | .ret rowid => ⟨.ret (), ⟨Util.toString rowid ++ "\n", err⟩, conn, r.store⟩

/-- The `-S` block of `_ash_log`'s `main` on a file whose schema is `schema` and whose rows are
`st`: `Database(db_file)` with the tables `main` registers, the count query when
`ASH_SESSION_ID` is set, then the id or the insert of a new `Session`.  `b` answers the
constructor, `countEng` the count query and `insEng` the insert. -/
def sessionIdBlock (h : Host) (b : Bootstrap) (schema : Schema) (countEng insEng : Engine)
    (st : Store) : SessionIdRun :=
  let opened := Database.new h.config ashRegistry b schema
  match opened.out with
  | .fatal => ⟨.fatal, ⟨"", ""⟩, opened.conn, st⟩
  | .ret () =>
    match h.env "ASH_SESSION_ID" with
    | none => newSession h opened.conn insEng st ""
    | some id =>
      match (Database.exec h.config (sessionCountQuery id) countEng 0 false).out with
      | .fatal => ⟨.fatal, ⟨"", ""⟩, opened.conn, st⟩
      | .ret rs =>
        if reusesId rs then ⟨.ret (), ⟨id ++ "\n", ""⟩, opened.conn, st⟩
        else newSession h opened.conn insEng st
          ("ERROR: session_id(" ++ id ++ ") not found, creating new session.\n" ++
            sessionCountQuery id ++ "\n")

/-- What the `-S` block returns with: what it wrote, the connection the constructor left and
the rows after it; `.fatal` where it ends the process. -/
def getSessionId (h : Host) (b : Bootstrap) (schema : Schema) (countEng insEng : Engine)
    (st : Store) : Outcome (Output × Conn × Store) :=
  let x := sessionIdBlock h b schema countEng insEng st
  x.out.map fun _ => (x.written, x.conn, x.store)

theorem newSession_store (h : Host) (conn : Conn) (insEng : Engine) (st : Store) (err : String) :
    (newSession h conn insEng st err).store =
      (Database.insert h.config insEng st (some (Session.new h))).store := by
  unfold newSession
  dsimp only
  split <;> rfl

/-- **What the `-S` block leaves in the rows**: the rows it was given, or those the insert of a
new `Session` leaves. -/
theorem sessionIdBlock_store (h : Host) (b : Bootstrap) (schema : Schema) (countEng insEng : Engine)
    (st : Store) :
    (sessionIdBlock h b schema countEng insEng st).store = st ∨
      (sessionIdBlock h b schema countEng insEng st).store =
        (Database.insert h.config insEng st (some (Session.new h))).store := by
  unfold sessionIdBlock
  dsimp only
  cases (Database.new h.config ashRegistry b schema).out with
  | fatal => exact .inl rfl
  | ret u =>
    cases u
    dsimp only
    cases h.env "ASH_SESSION_ID" with
    | none => exact .inr (newSession_store ..)
    | some id =>
      dsimp only
      cases (Database.exec h.config (sessionCountQuery id) countEng 0 false).out with
      | fatal => exact .inl rfl
      | ret rs =>
        dsimp only
        by_cases hre : reusesId rs
        · rw [if_pos hre]; exact .inl rfl
        · rw [if_neg hre]; exact .inr (newSession_store ..)

/-- **`-S` keeps every id the count query runs on**: once the database is open, whatever count
the engine answers, so whatever the `sessions` table holds, `ASH_SESSION_ID` is printed and
nothing is inserted. -/
theorem getSessionId_reuses (h : Host) (b : Bootstrap) (schema : Schema) (insEng : Engine)
    (st : Store) (n : Nat) {id : String}
    (hopen : (Database.new h.config ashRegistry b schema).out = .ret ())
    (hid : h.env "ASH_SESSION_ID" = some id) :
    getSessionId h b schema (sessionCountEngine n) insEng st =
      .ret (⟨id ++ "\n", ""⟩, (Database.new h.config ashRegistry b schema).conn, st) := by
  have hx := @Database.exec_oneRow h.config (sessionCountQuery id) (sessionCountEngine n)
    ["session_cnt"] [some (toString n)] rfl
  unfold getSessionId sessionIdBlock
  simp only [hopen, hid, hx]
  rfl

/-- A host whose `ASH_SESSION_ID` is `7` and whose other answers are empty. -/
def sessionSevenHost : Host :=
  ⟨fun name => if name = "ASH_SESSION_ID" then some "7" else none, 0, "UTC", 0, 0, 0, 0, none,
    none, "", none, false, "", "", none, ""⟩

/-- With no row at all, the id `7` is printed as the open session's. -/
theorem getSessionId_reuses_missing :
    openSessions Store.empty 7 = [] ∧
    (Database.new sessionSevenHost.config ashRegistry sessionsOpen sessionsSchema).out = .ret () ∧
    sessionSevenHost.env "ASH_SESSION_ID" = some "7" ∧
    getSessionId sessionSevenHost sessionsOpen sessionsSchema
        (sessionCountEngine (openSessions Store.empty 7).length) Database.doneEngine
        Store.empty =
      .ret (⟨"7\n", ""⟩,
        (Database.new sessionSevenHost.config ashRegistry sessionsOpen sessionsSchema).conn,
        Store.empty) :=
  have hopen := (new_spec sessionSevenHost.config ashRegistry sessionsOpen sessionsSchema
    (Or.inl rfl) rfl rfl (Nat.lt_of_le_of_lt (tableCount_le_length _ _) (by decide))).1
  ⟨rfl, hopen, rfl, getSessionId_reuses sessionSevenHost sessionsOpen sessionsSchema
    Database.doneEngine Store.empty _ hopen rfl⟩

end Ash
