import AdvancedShellHistory.Database.Results
import AdvancedShellHistory.Database.DBObject

/-!
# `Database::insert` and the rows it writes

`Database::insert` runs the object's `get_sql` through `exec` and returns
`sqlite3_last_insert_rowid`.  The store is what the engine has applied: an `INSERT` statement
is applied when, and only when, a step of it answers `SQLITE_DONE`; every other answer leaves
the store as it was.  So the store after a run is the store before it with one row for each
`SQLITE_DONE` in the run's calls (`Store.rows_stepAll`).

In every run of `exec`, at most one step answers a code that goes to `finalize`, and with no
limit a run that returns has exactly one (`exec_countP_final`).  Hence an insert applies its
row at most once in every run, and exactly once in every run that returns with no
`SQLITE_CONSTRAINT` (`insert_applies_once`), whatever contention comes before.

What `insert` returns is the connection's last inserted row id after the run
(`insert_rowid`): the new row's id when the row was applied, and otherwise the id the
connection held before the call, which names the row of an earlier insert
(`insert_constraint_returns_earlier_rowid`).
-/

namespace Ash

/-- A step answer that sends `exec` to `finalize`: `SQLITE_DONE` or `SQLITE_CONSTRAINT`. -/
def Event.isFinal : Event → Bool
  | .stepCode c => c.exit = .finalize
  | _ => false

/-! ### The store -/

/-- The rows of the history tables, with their row ids; `sqlite_sequence`, the largest row id
each `AUTOINCREMENT` table has used; and the connection's last inserted row id. -/
structure Store where
  rows : List (Nat × DBObject)
  seq : String → Nat
  lastInsertRowid : Nat

namespace Store

/-- The engine applies the insert of `o`: the row gets the next row id of its table. -/
def insertRow (st : Store) (o : DBObject) : Store :=
  let rowid := st.seq o.name + 1
  ⟨st.rows ++ [(rowid, o)], Function.update st.seq o.name rowid, rowid⟩

/-- What a call of a run of `o`'s `INSERT` does to the store: `SQLITE_DONE` applies it,
nothing else changes the store. -/
def step (o : DBObject) (st : Store) : Event → Store
  | .stepCode .done => st.insertRow o
  | _ => st

theorem step_of_ne {o : DBObject} {st : Store} {e : Event} (he : e ≠ .stepCode .done) :
    step o st e = st := by
  unfold step
  split
  · exact absurd rfl he
  · rfl

/-- The store after the calls `tr`. -/
def stepAll (o : DBObject) (st : Store) (tr : List Event) : Store := tr.foldl (step o) st

theorem rows_stepAll (o : DBObject) (tr : List Event) : ∀ st : Store,
    (stepAll o st tr).rows.map Prod.snd =
      st.rows.map Prod.snd ++ List.replicate (tr.count (.stepCode .done)) o := by
  induction tr with
  | nil => simp [stepAll]
  | cons e tr ih =>
    intro st
    rw [stepAll, List.foldl_cons, ← stepAll, ih]
    by_cases he : e = .stepCode .done
    · subst he
      simp only [step, insertRow, List.map_append, List.map_cons, List.map_nil,
        List.count_cons_self, List.append_assoc, List.singleton_append]
      rw [← List.replicate_succ, List.replicate_succ']
    · simp [step_of_ne he, List.count_cons, he]

theorem stepAll_of_count_zero (o : DBObject) {tr : List Event}
    (h : tr.count (.stepCode .done) = 0) : ∀ st : Store, stepAll o st tr = st := by
  induction tr with
  | nil => exact fun _ => rfl
  | cons e tr ih =>
    intro st
    have he : e ≠ .stepCode .done := fun he => by simp [he] at h
    rw [List.count_cons, if_neg (by simpa using he)] at h
    rw [stepAll, List.foldl_cons, ← stepAll, ih h, step_of_ne he]

theorem stepAll_of_count_one (o : DBObject) {tr : List Event}
    (h : tr.count (.stepCode .done) = 1) : ∀ st : Store, stepAll o st tr = st.insertRow o := by
  induction tr with
  | nil => simp at h
  | cons e tr ih =>
    intro st
    rw [stepAll, List.foldl_cons, ← stepAll]
    by_cases he : e = .stepCode .done
    · subst he
      rw [List.count_cons_self] at h
      exact stepAll_of_count_zero o (by omega) _
    · rw [List.count_cons, if_neg (by simpa using he)] at h
      rw [ih h, step_of_ne he]

/-- The store of a new connection to a file with no history rows. -/
def empty : Store := ⟨[], fun _ => 0, 0⟩

end Store

/-! ### Final answers in a run of `exec` -/

namespace Database

variable {config : Config} {query : String} {eng : Engine} {limit : Int} {reverse : Bool}
  {columns : Nat}

theorem stepLoop_countP_final {s : Stmt} {answers : List Row} {fetched : Nat}
    {headers : List String} {results : List (List String)} :
    (stepLoop limit columns s answers fetched headers results).trace.countP Event.isFinal =
      if stepsToLast limit fetched answers ∧ s.last.exit = .finalize then 1 else 0 := by
  simp only [stepLoop_trace, List.countP_append, List.countP_map]
  have h0 : (fetchedRows limit fetched answers).countP (Event.isFinal ∘ Event.row) = 0 :=
    List.countP_eq_zero.mpr fun _ _ => by simp [Event.isFinal]
  rw [h0, Nat.zero_add]
  by_cases hs : stepsToLast limit fetched answers <;>
    by_cases hf : s.last.exit = .finalize <;> simp [hs, hf, Event.isFinal]

theorem stepLoop_countP_final_of_ne {s : Stmt} {headers : List String}
    {results : List (List String)}
    (hx : (stepLoop limit columns s s.rows 0 headers results).exit ≠ .finalize) :
    (stepLoop limit columns s s.rows 0 headers results).trace.countP Event.isFinal = 0 := by
  rw [stepLoop_countP_final, if_neg]
  rintro ⟨hs, hf⟩
  simp [hs, hf] at hx

theorem prepareStmt_countP_final {i : Nat} {o : Outcome (Stmt × Nat)} {tr : List Event}
    (hp : prepareStmt config query eng i = ⟨o, tr⟩) : tr.countP Event.isFinal = 0 := by
  have := @prepareLoop_trace_calls query eng i (config.maxRetries + 1)
  rw [← prepareStmt, hp] at this
  refine List.countP_eq_zero.mpr fun e he => ?_
  rcases this e he with ⟨a, rfl⟩ | rfl <;> exact Bool.false_ne_true

theorem execLoop_countP_final (tries : Nat) (s : Stmt) (i : Nat) (headers : List String)
    (results : List (List String)) :
    (execLoop config query eng limit reverse columns tries s i headers results).trace.countP
      Event.isFinal ≤ 1 ∧
    ∀ r, (execLoop config query eng limit reverse columns tries s i headers results).out =
      .ret r → limit ≤ 0 →
        (execLoop config query eng limit reverse columns tries s i headers results).trace.countP
          Event.isFinal = 1 := by
  induction tries, s, i, headers, results using
    execLoop_induction config query eng limit columns with
  | finalize tries s i headers results hx =>
    rw [execLoop_of_finalize tries hx, stepLoop_countP_final]
    refine ⟨by split <;> omega, fun _ _ hl => ?_⟩
    have hs : stepsToLast limit 0 s.rows := .inl hl
    rw [stepLoop_exit, if_pos hs] at hx
    rw [if_pos ⟨hs, hx⟩]
  | fatal tries s i headers results hx =>
    rw [execLoop_of_fatal tries hx, stepLoop_countP_final_of_ne (by rw [hx]; decide)]
    simp
  | exhausted s i headers results hx =>
    rw [execLoop_zero_of_retry hx, stepLoop_countP_final_of_ne (by rw [hx]; decide)]
    simp
  | prepareFatal s i headers results hx t tr hp =>
    rw [execLoop_succ_of_retry_fatal t hx hp, List.countP_append,
      stepLoop_countP_final_of_ne (by rw [hx]; decide)]
    simp [prepareStmt_countP_final hp, Event.isFinal]
  | retry s i headers results hx t s' i' tr hp ih =>
    rw [execLoop_succ_of_retry_ret t hx hp]
    have h0 : ((stepLoop limit columns s s.rows 0 headers results).trace ++
        .sleep :: tr).countP Event.isFinal = 0 := by
      rw [List.countP_append, stepLoop_countP_final_of_ne (by rw [hx]; decide)]
      simp [prepareStmt_countP_final hp, Event.isFinal]
    simp only [Run.after_trace, Run.after_out, List.countP_append, h0, Nat.zero_add]
    exact ih

/-- **One final answer per run**: a run of `exec` has at most one step answered
`SQLITE_DONE` or `SQLITE_CONSTRAINT`, and exactly one when it returns with no limit. -/
theorem exec_countP_final :
    (exec config query eng limit reverse).trace.countP Event.isFinal ≤ 1 ∧
    ∀ r, (exec config query eng limit reverse).out = .ret r → limit ≤ 0 →
      (exec config query eng limit reverse).trace.countP Event.isFinal = 1 := by
  unfold exec
  split
  · rename_i tr hp
    simp [prepareStmt_countP_final hp]
  · rename_i s i tr hp
    simp only [Run.after_trace, Run.after_out, List.countP_append, prepareStmt_countP_final hp,
      Nat.zero_add]
    exact execLoop_countP_final _ _ _ _ _

theorem countP_final (tr : List Event) :
    tr.countP Event.isFinal = tr.count (.stepCode .done) + tr.count (.stepCode .constraint) := by
  induction tr with
  | nil => rfl
  | cons e tr ih =>
    simp only [List.countP_cons, List.count_cons, ih]
    cases e with
    | stepCode c => cases c <;> simp [Event.isFinal, StepCode.exit] <;> omega
    | _ => simp [Event.isFinal]

/-! ### `Database::insert` -/

/-- What `Database::insert` returns, the calls it made, and the store after them. -/
structure InsertRun where
  out : Outcome Int
  trace : List Event
  store : Store

/-- `Database::insert(object)`: `0` for a null object; otherwise `exec(object -> get_sql())`
and then `sqlite3_last_insert_rowid`. -/
def insert (config : Config) (eng : Engine) (st : Store) : Option DBObject → InsertRun
  | none => ⟨.ret 0, [], st⟩
  | some o =>
    let r := exec config o.getSql eng 0 false
    let st' := Store.stepAll o st r.trace
    ⟨r.out.map fun _ => (st'.lastInsertRowid : Int), r.trace, st'⟩

/-- An insert that does not fail is a run of `exec` that returns. -/
theorem exec_ret_of_insert {config : Config} {eng : Engine} {st : Store} {o : DBObject}
    (h : (insert config eng st (some o)).out ≠ .fatal) :
    ∃ r, (exec config o.getSql eng 0 false).out = .ret r := by
  simp only [insert] at h
  cases hx : (exec config o.getSql eng 0 false).out with
  | ret r => exact ⟨r, rfl⟩
  | fatal => simp [hx, Outcome.map] at h

/-- **An insert applies its row at most once, and once when it returns**: in every run, with
any contention before the final answer and whatever the retry budget, the store gains `k ≤ 1`
copies of the object's row, and `k = 1` when the run returns and the engine never answered
`SQLITE_CONSTRAINT`. -/
theorem insert_applies_once (config : Config) (eng : Engine) (st : Store) (o : DBObject) :
    ∃ k ≤ 1, (insert config eng st (some o)).store.rows.map Prod.snd =
        st.rows.map Prod.snd ++ List.replicate k o ∧
      ((insert config eng st (some o)).out ≠ .fatal →
        .stepCode .constraint ∉ (insert config eng st (some o)).trace → k = 1) := by
  obtain ⟨hle, hret⟩ := @exec_countP_final config o.getSql eng 0 false
  rw [countP_final] at hle hret
  refine ⟨_, by omega, Store.rows_stepAll o _ st, fun hout hc => ?_⟩
  obtain ⟨r, hr⟩ := exec_ret_of_insert hout
  have hc' : .stepCode .constraint ∉ (exec config o.getSql eng 0 false).trace := hc
  have h1 := hret r hr le_rfl
  rw [List.count_eq_zero.mpr hc'] at h1
  exact h1

/-- **What `Database::insert` returns** when its run returns: either the engine answered
`SQLITE_DONE`, the row was applied under the next row id of its table, and that id is
returned; or it answered `SQLITE_CONSTRAINT`, nothing was applied, and the connection's last
inserted row id from before the call is returned. -/
theorem insert_rowid (config : Config) (eng : Engine) (st : Store) (o : DBObject) {v : Int}
    (h : (insert config eng st (some o)).out = .ret v) :
    .stepCode .constraint ∉ (insert config eng st (some o)).trace ∧
        (insert config eng st (some o)).store = st.insertRow o ∧ v = st.seq o.name + 1 ∨
      .stepCode .constraint ∈ (insert config eng st (some o)).trace ∧
        (insert config eng st (some o)).store = st ∧ v = st.lastInsertRowid := by
  obtain ⟨r, hr⟩ := exec_ret_of_insert (by rw [h]; nofun)
  simp only [insert] at h ⊢
  have h1 := (@exec_countP_final config o.getSql eng 0 false).2 r hr le_rfl
  rw [countP_final] at h1
  rw [hr] at h
  simp only [Outcome.map, Outcome.ret.injEq] at h
  subst h
  by_cases hc : .stepCode .constraint ∈ (exec config o.getSql eng 0 false).trace
  · have := List.count_pos_iff.mpr hc
    rw [Store.stepAll_of_count_zero o (by omega)]
    exact .inr ⟨hc, rfl, rfl⟩
  · rw [List.count_eq_zero.mpr hc] at h1
    rw [Store.stepAll_of_count_one o h1]
    exact .inl ⟨hc, rfl, rfl⟩

theorem exec_of_final {config : Config} {query : String} {eng : Engine} {s : Stmt}
    (h0 : eng 0 = .stmt s) (hs : s.rows = []) (hl : s.last.exit = .finalize) :
    exec config query eng 0 false = ⟨.ret none, [.prepare query (.stmt s), .stepCode s.last]⟩ := by
  have hx : (stepLoop 0 s.names.length s s.rows 0 [] []).exit = .finalize := by
    simp [hs, hl, stepsToLast]
  rw [exec, prepareStmt, prepareLoop_of_stmt h0]
  dsimp only
  rw [execLoop_of_finalize _ hx]
  simp [hs, finalize, fetchedRows, stepsToLast]
  rfl

/-- An engine whose statement answers `SQLITE_DONE` at its first step. -/
def doneEngine : Engine := fun _ => .stmt ⟨[], [], .done⟩

/-- An engine whose statement answers `SQLITE_CONSTRAINT` at its first step: a `Command` whose
`session_id` and `command_no` are already in the table, say. -/
def constraintEngine : Engine := fun _ => .stmt ⟨[], [], .constraint⟩

/-- A failed insert returns the row id of an earlier one: on a new connection, a first insert
applies its row under row id `1` and returns `1`; a second one that meets `SQLITE_CONSTRAINT`
applies nothing and returns `1` as well. -/
theorem insert_constraint_returns_earlier_rowid (config : Config) (o₁ o₂ : DBObject) :
    let first := insert config doneEngine Store.empty (some o₁)
    let second := insert config constraintEngine first.store (some o₂)
    first.out = .ret 1 ∧ first.store.rows = [(1, o₁)] ∧
      second.out = .ret 1 ∧ second.store.rows = [(1, o₁)] := by
  simp only [insert, exec_of_final (rfl : doneEngine 0 = _) rfl rfl,
    exec_of_final (rfl : constraintEngine 0 = _) rfl rfl]
  exact ⟨rfl, rfl, rfl, rfl⟩

end Database

end Ash
