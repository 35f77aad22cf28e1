import AdvancedShellHistory.Database.Basic

/-!
# `ash_sleep`

`ashSleep` computes the delay `ms = fail_ms + rand() % random_ms` from the configuration and
sleeps it with `clock_nanosleep`, at most `sleep_attempts = 2 * retries` times.  After an
interrupted call the loop copies `remaining` into `to_sleep` only when it is a positive
number of nanoseconds below `to_sleep.tv_nsec`, and nothing ever sets `to_sleep` to zero, so
the `while` condition never ends the loop: every call of `ash_sleep` with a positive delay
makes exactly `sleep_attempts` calls of `clock_nanosleep` and leaves through the sleep
break (`sleepLoop_break`, `ashSleep_calls`).  With no interruption at all it therefore sleeps
`2 * retries` times the delay (`ashSleep_oversleeps`).
-/

namespace Ash

/-- `retries` of `ash_sleep`: `DB_MAX_RETRIES` unless it is negative, otherwise `5`. -/
def Config.sleepRetries (config : Config) : Nat :=
  let v := config.getInt "DB_MAX_RETRIES" (-1)
  if v < 0 then 5 else v.toNat

/-- The delay in milliseconds `ash_sleep` computes, where `rnd` is what `rand()` returns
after `srand(time(0) ^ getpid())`. -/
def Config.delay (config : Config) (rnd : Nat) : Nat :=
  let failMs := config.getInt "DB_FAIL_TIMEOUT" (-1)
  let failMs := if failMs < 0 then 0 else failMs
  let randomMs := config.getInt "DB_FAIL_RANDOM_TIMEOUT" (-1)
  let randomMs := if randomMs < 0 then 0 else randomMs
  failMs.toNat + if 0 < randomMs then rnd % randomMs.toNat else 0

/-- A `struct timespec`. -/
structure Timespec where
  sec : Nat
  nsec : Nat
  deriving DecidableEq, Repr

/-- The length of a `Timespec` in nanoseconds. -/
def Timespec.toNanos (t : Timespec) : Nat :=
  t.sec * 1000000000 + t.nsec

/-- What one `clock_nanosleep(CLOCK_MONOTONIC, 0, &to_sleep, &remaining)` does: sleep the
whole request and return `0`, leaving `remaining` as it was; be interrupted, return `EINTR`
and write the time left into `remaining`; or fail with `rval` without sleeping. -/
inductive ClockAnswer
  | complete
  | interrupted (remaining : Timespec)
  | failed (rval : Int)
  deriving DecidableEq, Repr

/-- The nanoseconds one call sleeps for the request `toSleep`. -/
def ClockAnswer.slept (toSleep : Timespec) : ClockAnswer → Nat
  | .complete => toSleep.toNanos
  | .interrupted rem => toSleep.toNanos - rem.toNanos
  | .failed _ => 0

/-- The content of `remaining` after the call. -/
def ClockAnswer.remaining (remaining : Timespec) : ClockAnswer → Timespec
  | .interrupted rem => rem
  | _ => remaining

/-- Whether the call returned `-1`, whose `case` of the `switch` is `continue`. -/
def ClockAnswer.isMinusOne : ClockAnswer → Bool
  | .failed rval => rval = -1
  | _ => false

/-- The test after the `switch`: `remaining` becomes the next request only when it is a
positive number of nanoseconds below `to_sleep.tv_nsec`. -/
def resumes (toSleep remaining : Timespec) : Prop :=
  remaining.sec = 0 ∧ 0 < remaining.nsec ∧ remaining.nsec ≤ 999999999 ∧
    remaining.nsec < toSleep.nsec

instance (toSleep remaining : Timespec) : Decidable (resumes toSleep remaining) :=
  inferInstanceAs (Decidable (_ ∧ _))

/-- What a run of the `while` loop of `ash_sleep` did: its `clock_nanosleep` calls, the
nanoseconds they slept, and whether it left through the sleep break. -/
structure SleepRun where
  calls : Nat
  slept : Nat
  broke : Bool
  deriving DecidableEq, Repr

/-- The `while` loop of `ash_sleep` with `sleepAttempts` left; its next call reads answer
`i` of `clock`. -/
def sleepLoop (clock : Nat → ClockAnswer) :
    (sleepAttempts i : Nat) → (toSleep remaining : Timespec) → SleepRun
  | sleepAttempts, i, toSleep, remaining =>
    if toSleep.sec = 0 ∧ toSleep.nsec = 0 then ⟨0, 0, false⟩
    else
      match sleepAttempts with
      | 0 => ⟨0, 0, true⟩
      | n + 1 =>
        let answer := clock i
        let remaining' := answer.remaining remaining
        let toSleep' :=
          if !answer.isMinusOne ∧ resumes toSleep remaining' then remaining' else toSleep
        let r := sleepLoop clock n (i + 1) toSleep' remaining'
        ⟨r.calls + 1, answer.slept toSleep + r.slept, r.broke⟩

section SleepLoop

variable {clock : Nat → ClockAnswer} {i : Nat} {toSleep remaining : Timespec}

theorem sleepLoop_succ (h : ¬(toSleep.sec = 0 ∧ toSleep.nsec = 0)) (n : Nat) :
    sleepLoop clock (n + 1) i toSleep remaining =
      let r := sleepLoop clock n (i + 1)
        (if !(clock i).isMinusOne ∧ resumes toSleep ((clock i).remaining remaining) then
          (clock i).remaining remaining else toSleep)
        ((clock i).remaining remaining)
      ⟨r.calls + 1, (clock i).slept toSleep + r.slept, r.broke⟩ := by
  rw [sleepLoop, if_neg h]

/-- **The loop never ends through its condition**: from a positive request, the next request
is again positive (a copied `remaining` has `0 < tv_nsec`), so the loop makes all its
`sleepAttempts` calls and leaves through the sleep break. -/
theorem sleepLoop_break (n : Nat) (h : ¬(toSleep.sec = 0 ∧ toSleep.nsec = 0)) :
    (sleepLoop clock n i toSleep remaining).calls = n ∧
      (sleepLoop clock n i toSleep remaining).broke = true := by
  induction n generalizing i toSleep remaining with
  | zero => simp [sleepLoop, h]
  | succ n ih =>
    rw [sleepLoop_succ h]
    have hnext : ¬((if !(clock i).isMinusOne ∧ resumes toSleep ((clock i).remaining remaining)
        then (clock i).remaining remaining else toSleep).sec = 0 ∧
        (if !(clock i).isMinusOne ∧ resumes toSleep ((clock i).remaining remaining)
        then (clock i).remaining remaining else toSleep).nsec = 0) := by
      split_ifs with hr
      · exact fun h0 => absurd h0.2 hr.2.2.1.ne'
      · exact h
    obtain ⟨h1, h2⟩ := ih hnext
    exact ⟨congrArg (· + 1) h1, h2⟩

/-- With every call completing, a request that `remaining` never replaces is slept in full
at every one of the `n` calls. -/
theorem sleepLoop_complete (hc : ∀ j, clock j = .complete) (n : Nat)
    (h : ¬(toSleep.sec = 0 ∧ toSleep.nsec = 0)) (hr : ¬resumes toSleep remaining) :
    (sleepLoop clock n i toSleep remaining).slept = n * toSleep.toNanos := by
  induction n generalizing i with
  | zero => simp [sleepLoop, h]
  | succ n ih =>
    simp only [sleepLoop_succ h, hc, ClockAnswer.remaining, ClockAnswer.slept, hr, and_false,
      if_false, ih, Nat.succ_mul, Nat.add_comm]

end SleepLoop

/-- `ash_sleep()`: `rnd` is what `rand()` returns, `remaining` the indeterminate initial
content of its `struct timespec remaining`, and `clock` the answers to its calls of
`clock_nanosleep`. -/
def ashSleep (config : Config) (rnd : Nat) (remaining : Timespec)
    (clock : Nat → ClockAnswer) : SleepRun :=
  let ms := config.delay rnd
  if ms = 0 then ⟨0, 0, false⟩
  else
    sleepLoop clock (config.sleepRetries * 2) 0 ⟨ms / 1000, ms % 1000 * 1000000⟩ remaining

/-- **Every call of `ash_sleep` with a positive delay makes exactly `2 * retries` calls of
`clock_nanosleep`** and ends in the sleep break, whatever the clock answers. -/
theorem ashSleep_calls (config : Config) (rnd : Nat) (remaining : Timespec)
    (clock : Nat → ClockAnswer) (h : config.delay rnd ≠ 0) :
    (ashSleep config rnd remaining clock).calls = config.sleepRetries * 2 ∧
      (ashSleep config rnd remaining clock).broke = true := by
  rw [ashSleep, if_neg h]
  exact sleepLoop_break _ (by dsimp only; omega)

/-- No call of `ash_sleep` makes more than `2 * retries` calls of `clock_nanosleep`. -/
theorem ashSleep_calls_le (config : Config) (rnd : Nat) (remaining : Timespec)
    (clock : Nat → ClockAnswer) :
    (ashSleep config rnd remaining clock).calls ≤ config.sleepRetries * 2 := by
  by_cases h : config.delay rnd = 0
  · simp [ashSleep, h]
  · exact (ashSleep_calls config rnd remaining clock h).1.le

/-- **With no interruption, `ash_sleep` sleeps `2 * retries` times its delay** when the
initial content of `remaining` is not a resumable request (for instance all zero). -/
theorem ashSleep_complete (config : Config) (rnd : Nat) (remaining : Timespec)
    (h : config.delay rnd ≠ 0) (hr : remaining.nsec = 0) :
    (ashSleep config rnd remaining fun _ => .complete).slept =
      config.sleepRetries * 2 * (config.delay rnd * 1000000) := by
  rw [ashSleep, if_neg h, sleepLoop_complete (fun _ => rfl) _ (by dsimp only; omega)
    (by simp [resumes, hr])]
  have hms : config.delay rnd / 1000 * 1000000000 + config.delay rnd % 1000 * 1000000 =
      config.delay rnd * 1000000 := by omega
  simp only [Timespec.toNanos, hms]

/-- `ASH_CFG_DB_FAIL_TIMEOUT=1`, every other variable unset. -/
def Config.failTimeoutOne : Config :=
  ⟨fun key => if key = "DB_FAIL_TIMEOUT" then some "1" else none⟩

/-- With a one-millisecond delay, `DB_MAX_RETRIES` unset (so `R = 5`), `remaining` starting
at zero and no interruption, `ash_sleep` makes ten calls and sleeps ten milliseconds. -/
theorem ashSleep_failTimeoutOne_sleeps_ten_ms :
    (ashSleep Config.failTimeoutOne 0 ⟨0, 0⟩ fun _ => .complete).calls = 10 ∧
      (ashSleep Config.failTimeoutOne 0 ⟨0, 0⟩ fun _ => .complete).slept = 10000000 := by
  have hd : Config.failTimeoutOne.delay 0 = 1 := by
    simp [Config.delay, Config.getInt, Config.failTimeoutOne, show atoi "1" = 1 by decide]
  have hr : Config.failTimeoutOne.sleepRetries = 5 := by
    simp [Config.sleepRetries, Config.getInt, Config.failTimeoutOne]
  refine ⟨?_, ?_⟩
  · rw [(ashSleep_calls _ _ _ _ (by rw [hd]; decide)).1, hr]
  · rw [ashSleep_complete _ _ _ (by rw [hd]; decide) rfl, hd, hr]

end Ash
