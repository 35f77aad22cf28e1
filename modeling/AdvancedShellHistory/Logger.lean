import AdvancedShellHistory.Unix

/-!
# `logger.cpp`: `LOG(level) << message`

`LOG(level)` constructs a `Logger`: it opens the file `get_target(level)` names for appending and
starts the line with the date `strftime` writes for `ASH_CFG_LOG_DATE_FMT`, the session id and the
level.  The message follows, and the destructor ends the line and, for `FATAL`, exits with status
`1`.  When `localtime` fails or `strftime` writes nothing, a `Logger` of any other level runs
`LOG(FATAL)` itself, and a `FATAL` one writes its line without a date instead, so the recursion
stops after one level (`Logger.new_fatal`).

* `parse` and `to_str` are inverse on the five level names (`parse_toStr`, `toStr_parse`).
* A level below `ASH_CFG_LOG_LEVEL` goes to `/dev/null`.  A `LOG_LEVEL` that is none of the five
  names parses as `UNKNOWN`, above every level, and sends every line to `/dev/null`, the `FATAL`
  ones included (`getTarget_unknown`).
* When `strftime` writes nothing, which it does for an empty format and for a date of `200`
  bytes or more, a `LOG` of a level other than `FATAL` writes only the error about the format and
  exits with status `1`, whatever the level and `LOG_LEVEL` (`log_of_strftime_zero`).
-/

namespace Ash

/-- `enum Severity`. -/
inductive Severity
  | debug
  | info
  | warning
  | error
  | fatal
  | unknown
  deriving DecidableEq, Repr

/-- The value of the enumerator, which `level < visible` compares. -/
def Severity.toNat : Severity → Nat
  | .debug => 0
  | .info => 1
  | .warning => 2
  | .error => 3
  | .fatal => 4
  | .unknown => 5

namespace Logger

/-- `parse(input)`. -/
def parse (input : String) : Severity :=
  if input = "DEBUG" then .debug
  else if input = "INFO" then .info
  else if input = "WARNING" then .warning
  else if input = "ERROR" then .error
  else if input = "FATAL" then .fatal
  else .unknown

/-- `to_str(level)`. -/
def toStr : Severity → String
  | .debug => "DEBUG"
  | .info => "INFO"
  | .warning => "WARNING"
  | .error => "ERROR"
  | .fatal => "FATAL"
  | .unknown => "UNKNOWN"

/-- `get_target(level)`: `/dev/null` for a level below `LOG_LEVEL`, otherwise `LOG_FILE`. -/
def getTarget (config : Config) (level : Severity) : String :=
  let visible := parse (config.getString "LOG_LEVEL" "DEBUG")
  if level.toNat < visible.toNat then "/dev/null"
  else config.getString "LOG_FILE" "/dev/null"

/-- What `localtime` and `strftime` answer at the time of a run. -/
structure Clock where
  /-- Whether `localtime` gives a time. -/
  localtimeOk : Bool
  /-- The text a format gives for that time, before it is put in `time_now`. -/
  expand : String → String

/-- `strftime(time_now, sizeof(time_now), format, tmp)`: the size of the text, `0` when it is
empty or does not fit in the `200` bytes of `time_now` with its terminating null. -/
def strftime (clock : Clock) (format : String) : Nat :=
  if (clock.expand format).length < 200 then (clock.expand format).length else 0

/-- The format the constructor reads. -/
def dateFormat (config : Config) : String :=
  config.getString "LOG_DATE_FMT" "%Y-%m-%d %H:%M:%S %Z: "

/-- `getenv("ASH_SESSION_ID")`, or `?` when it is unset. -/
def sessionId (h : Host) : String := (h.env "ASH_SESSION_ID").getD "?"

/-- How the constructor ends: with the start of its line, or by running `LOG(FATAL) << message`. -/
inductive Start
  | line (text : String)
  | fatal (message : String)

/-- `Logger::Logger(lvl)`. -/
def new (h : Host) (clock : Clock) (level : Severity) : Start :=
  let plain := "SESSION " ++ sessionId h ++ ": " ++ toStr level ++ ": "
  if !clock.localtimeOk then
    if level ≠ .fatal then .fatal "Failed to get localtime on this machine." else .line plain
  else
    let format := dateFormat h.config
    if strftime clock format = 0 then
      if level ≠ .fatal then .fatal ("ASH_CFG_LOG_DATE_FMT is invalid: '" ++ format ++ "'")
      else .line plain
    else .line (clock.expand format ++ plain)

/-- What a log statement did: the text appended to each file, the number of `perror` lines on
standard error, and whether the process exited with status `1`. -/
structure LogRun where
  writes : List (String × String)
  perrors : Nat
  exits : Bool
  deriving DecidableEq, Repr

/-- `LOG(level) << message;`: the constructor, the message, then the destructor's `endl` and,
for `FATAL`, `exit(1)`.  A constructor that runs `LOG(FATAL)` ends inside it, in that logger's
destructor; a `FATAL` logger never runs another one (`new_fatal`), so the last branch is never
taken. -/
def log (h : Host) (clock : Clock) (level : Severity) (message : String) : LogRun :=
  let perrors := if clock.localtimeOk then 0 else 1
  match new h clock level with
  | .line text => ⟨[(getTarget h.config level, text ++ message ++ "\n")], perrors, level = .fatal⟩
  | .fatal inner =>
    match new h clock .fatal with
    | .line text => ⟨[(getTarget h.config .fatal, text ++ inner ++ "\n")], 2 * perrors, true⟩
    | .fatal _ => ⟨[], 2 * perrors, true⟩

/-! ### Levels -/

theorem parse_toStr (level : Severity) : parse (toStr level) = level := by
  cases level <;> decide

theorem toStr_parse {input : String} (h : parse input ≠ .unknown) : toStr (parse input) = input := by
  unfold parse at h ⊢
  by_cases h₁ : input = "DEBUG"; · rw [if_pos h₁]; exact h₁.symm
  rw [if_neg h₁] at h ⊢
  by_cases h₂ : input = "INFO"; · rw [if_pos h₂]; exact h₂.symm
  rw [if_neg h₂] at h ⊢
  by_cases h₃ : input = "WARNING"; · rw [if_pos h₃]; exact h₃.symm
  rw [if_neg h₃] at h ⊢
  by_cases h₄ : input = "ERROR"; · rw [if_pos h₄]; exact h₄.symm
  rw [if_neg h₄] at h ⊢
  by_cases h₅ : input = "FATAL"; · rw [if_pos h₅]; exact h₅.symm
  rw [if_neg h₅] at h
  exact absurd rfl h

/-- A `LOG_LEVEL` that is none of the five names sends every level to `/dev/null`. -/
theorem getTarget_unknown {config : Config}
    (h : parse (config.getString "LOG_LEVEL" "DEBUG") = .unknown) {level : Severity}
    (hl : level ≠ .unknown) : getTarget config level = "/dev/null" := by
  simp only [getTarget, h]
  rw [if_pos]
  cases level <;> simp_all [Severity.toNat]

/-- A `LOG_LEVEL` of `VERBOSE`, which is none of the five names. -/
def verboseConfig : Config := ⟨fun key => if key = "LOG_LEVEL" then some "VERBOSE" else none⟩

/-- With `LOG_LEVEL=VERBOSE`, even `FATAL` lines go to `/dev/null`. -/
example : getTarget verboseConfig .fatal = "/dev/null" :=
  getTarget_unknown (by decide) nofun

/-! ### The constructor and the statement -/

theorem strftime_eq_zero_iff (clock : Clock) (format : String) :
    strftime clock format = 0 ↔
      (clock.expand format).length = 0 ∨ 200 ≤ (clock.expand format).length := by
  unfold strftime
  split_ifs <;> omega

/-- A `FATAL` logger always starts its line: with the date when it can be formatted. -/
theorem new_fatal (h : Host) (clock : Clock) :
    new h clock .fatal = .line
      ((if clock.localtimeOk ∧ strftime clock (dateFormat h.config) ≠ 0 then
          clock.expand (dateFormat h.config) else "") ++
        "SESSION " ++ sessionId h ++ ": FATAL: ") := by
  unfold new
  cases clock.localtimeOk <;> by_cases hz : strftime clock (dateFormat h.config) = 0 <;>
    simp [hz, toStr, String.append_assoc]

/-- When the date is formatted, the line is the date, the session, the level and the message,
and the process exits exactly for `FATAL`. -/
theorem log_of_formats (h : Host) {clock : Clock} (hok : clock.localtimeOk = true)
    (hz : strftime clock (dateFormat h.config) ≠ 0) (level : Severity) (message : String) :
    log h clock level message =
      ⟨[(getTarget h.config level, clock.expand (dateFormat h.config) ++ "SESSION " ++
          sessionId h ++ ": " ++ toStr level ++ ": " ++ message ++ "\n")], 0, level = .fatal⟩ := by
  simp [log, new, hok, hz, String.append_assoc]

/-- **A date that cannot be formatted ends the process**: when `strftime` writes nothing, a
`LOG` of a level other than `FATAL` appends only the error about the format, to the `FATAL`
target, and exits with status `1`; its own message is never written. -/
theorem log_of_strftime_zero (h : Host) {clock : Clock} (hok : clock.localtimeOk = true)
    (hz : strftime clock (dateFormat h.config) = 0) {level : Severity} (hl : level ≠ .fatal)
    (message : String) :
    log h clock level message =
      ⟨[(getTarget h.config .fatal, "SESSION " ++ sessionId h ++ ": FATAL: " ++
          "ASH_CFG_LOG_DATE_FMT is invalid: '" ++ dateFormat h.config ++ "'" ++ "\n")], 0, true⟩ := by
  have hn : new h clock level = .fatal ("ASH_CFG_LOG_DATE_FMT is invalid: '" ++
      dateFormat h.config ++ "'") := by
    simp [new, hok, hz, hl]
  rw [log, hn]
  simp only [new_fatal, hok, hz, ne_eq, not_true_eq_false, and_false, if_false, if_true,
    String.empty_append, Nat.mul_zero, String.append_assoc]

/-- A host whose date format is empty, and whose other answers are empty. -/
def emptyDateFormatHost : Host :=
  ⟨fun name => if name = "ASH_CFG_LOG_DATE_FMT" then some "" else none, 0, "UTC", 0, 0, 0, 0,
    none, none, "", none, false, "", "", none, ""⟩

/-- With `ASH_CFG_LOG_DATE_FMT` empty, `strftime` writes nothing, and `LOG(DEBUG)` exits. -/
example :
    log emptyDateFormatHost ⟨true, fun _ => ""⟩ .debug "argv" =
      ⟨[(getTarget emptyDateFormatHost.config .fatal, "SESSION " ++
          sessionId emptyDateFormatHost ++ ": FATAL: " ++ "ASH_CFG_LOG_DATE_FMT is invalid: '" ++
          dateFormat emptyDateFormatHost.config ++ "'" ++ "\n")], 0, true⟩ :=
  @log_of_strftime_zero emptyDateFormatHost ⟨true, fun _ => ""⟩ rfl rfl .debug (by decide) "argv"

end Logger

end Ash
