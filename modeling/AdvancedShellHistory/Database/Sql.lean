import AdvancedShellHistory.Database.Basic

/-!
# SQL text as SQLite reads it

What `DBObject::get_sql` promises is about what the engine makes of its text, so this module
models the part of SQLite's tokenizer and grammar that such text meets: keywords and
identifiers, unsigned integers, string literals (in which two quotes stand for one), the
punctuation `( ) , ; -` and white space; and the statement `INSERT INTO t (c, ...) VALUES
(v, ...);` with one row, nothing after it, and as many values as columns (`insertStmt`).

The tokenizer is a state machine: `step` reads one character, `run` a text.  A literal is
written by `Literal.render` and read back by `parseLiteral` (`parseLiteral_render`).  The
last section says how each piece of a statement is read up to the delimiter after it
(`Closes`); `DBObject.getSql_spec` assembles the pieces.
-/

namespace Ash

namespace Sql

/-! ### The tokenizer -/

/-- A token: a keyword or an identifier, an unsigned integer, a string literal's text, or
punctuation. -/
inductive Token
  | word (w : String)
  | num (digits : String)
  | str (text : String)
  | punct (c : Char)
  deriving DecidableEq, Repr

/-- The characters that start a keyword or an identifier. -/
def isIdStart (c : Char) : Bool := c.isAlpha || c = '_'

/-- The characters that continue one. -/
def isIdChar (c : Char) : Bool := c.isAlphanum || c = '_'

/-- The punctuation the grammar below uses. -/
def isPunct (c : Char) : Bool := c = '(' || c = ')' || c = ',' || c = ';' || c = '-'

/-- Where the tokenizer is: between tokens, or inside a token with what it has read of it;
`strQuote` has just read a quote inside a string, which ends it unless a second one follows. -/
inductive LexState
  | start
  | word (acc : List Char)
  | num (acc : List Char)
  | str (acc : List Char)
  | strQuote (acc : List Char)
  deriving DecidableEq, Repr

/-- What the tokenizer does with a character between tokens. -/
def startStep (c : Char) : Option (List Token × LexState) :=
  if isspace c then some ([], .start)
  else if isIdStart c then some ([], .word [c])
  else if c.isDigit then some ([], .num [c])
  else if c = '\'' then some ([], .str [])
  else if isPunct c then some ([.punct c], .start)
  else none

/-- The token a state holds when the next character is one that cannot continue it. -/
def LexState.token : LexState → Option Token
  | .word acc => some (.word ⟨acc⟩)
  | .num acc => some (.num ⟨acc⟩)
  | .strQuote acc => some (.str ⟨acc⟩)
  | _ => none

/-- One character: the tokens it completes and the state after it; `none` is an error. -/
def step : LexState → Char → Option (List Token × LexState)
  | .start, c => startStep c
  | .word acc, c =>
    if isIdChar c then some ([], .word (acc ++ [c]))
    else (startStep c).map fun p => (.word ⟨acc⟩ :: p.1, p.2)
  | .num acc, c =>
    if c.isDigit then some ([], .num (acc ++ [c]))
    else if isIdChar c then none
    else (startStep c).map fun p => (.num ⟨acc⟩ :: p.1, p.2)
  | .str acc, c => if c = '\'' then some ([], .strQuote acc) else some ([], .str (acc ++ [c]))
  | .strQuote acc, c =>
    if c = '\'' then some ([], .str (acc ++ ['\'']))
    else (startStep c).map fun p => (.str ⟨acc⟩ :: p.1, p.2)

/-- The end of the text: the token being read is complete, except an unterminated string. -/
def finish : LexState → Option (List Token)
  | .start => some []
  | .str _ => none
  | st => st.token.map ([·])

/-- The tokenizer over a text, from a state: the tokens completed and the state at the end. -/
def run : LexState → List Char → Option (List Token × LexState)
  | st, [] => some ([], st)
  | st, c :: cs => (step st c).bind fun p => (run p.2 cs).map fun q => (p.1 ++ q.1, q.2)

/-- The tokens of a text. -/
def tokenize (s : String) : Option (List Token) :=
  (run .start s.toList).bind fun p => (finish p.2).map (p.1 ++ ·)

/-! ### Literals and the `INSERT` statement -/

/-- A literal value: `NULL`, an integer with its sign, or a string. -/
inductive Literal
  | null
  | int (neg : Bool) (digits : String)
  | str (text : String)
  deriving DecidableEq, Repr

/-- Keywords are read without regard to case. -/
def isKeyword (w k : String) : Bool := w.toList.map Char.toUpper == k.toList

/-- A literal value written as exactly the tokens `ts`. -/
def literal : List Token → Option Literal
  | [.word w] => if isKeyword w "NULL" then some .null else none
  | [.num d] => some (.int false d)
  | [.punct '-', .num d] => some (.int true d)
  | [.str s] => some (.str s)
  | _ => none

/-- A column name written as exactly the tokens `ts`. -/
def column : List Token → Option String
  | [.word w] => some w
  | _ => none

/-- A single-row `INSERT`. -/
structure Insert where
  table : String
  columns : List String
  values : List Literal
  deriving DecidableEq, Repr

/-- `INSERT INTO t (c, ...) VALUES (v, ...);` and nothing after it, with as many values as
columns; each list is what stands before the first closing parenthesis, split at commas. -/
def insertStmt : List Token → Option Insert
  | .word i :: .word n :: .word t :: .punct '(' :: rest =>
    if isKeyword i "INSERT" && isKeyword n "INTO" then
      match rest.span (· != .punct ')') with
      | (cols, .punct ')' :: .word v :: .punct '(' :: rest) =>
        match rest.span (· != .punct ')') with
        | (vals, [.punct ')', .punct ';']) =>
          if isKeyword v "VALUES" then
            match (cols.splitOn (.punct ',')).mapM column,
                (vals.splitOn (.punct ',')).mapM literal with
            | some cs, some ls => if cs.length = ls.length then some ⟨t, cs, ls⟩ else none
            | _, _ => none
          else none
        | _ => none
      | _ => none
    else none
  | _ => none

/-- The statement a text is, if it is one single-row `INSERT`. -/
def parseInsert (s : String) : Option Insert := (tokenize s).bind insertStmt

/-- The literal a text is, if it is exactly one. -/
def parseLiteral (s : String) : Option Literal := (tokenize s).bind literal

/-! ### Writing literals -/

/-- The body of a string literal: every quote doubled. -/
def escapeBody (s : List Char) : List Char :=
  s.flatMap fun c => if c = '\'' then ['\'', '\''] else [c]

/-- The text of a literal. -/
def Literal.render : Literal → String
  | .null => "null"
  | .int neg d => (if neg then "-" else "") ++ d
  | .str s => ⟨'\'' :: escapeBody s.toList ++ ['\'']⟩

/-- The tokens of that text. -/
def Literal.tokens : Literal → List Token
  | .null => [.word "null"]
  | .int false d => [.num d]
  | .int true d => [.punct '-', .num d]
  | .str s => [.str s]

/-- An integer literal has digits, and only digits, after its sign. -/
def Literal.WF : Literal → Prop
  | .int _ d => d.toList ≠ [] ∧ ∀ c ∈ d.toList, c.isDigit
  | _ => True

/-- A name that the tokenizer reads as one word. -/
def isIdent (w : String) : Bool :=
  match w.toList with
  | c :: cs => isIdStart c && cs.all isIdChar
  | [] => false

/-- The text of a statement, as `get_sql` writes one: each list's items separated by `", "`. -/
def commaList : List String → String
  | [] => ""
  | [x] => x
  | x :: xs => x ++ ", " ++ commaList xs

/-- The text of a single-row `INSERT`. -/
def Insert.render (i : Insert) : String :=
  "INSERT INTO " ++ i.table ++ " (" ++ commaList i.columns ++ ") VALUES (" ++
    commaList (i.values.map Literal.render) ++ "); "

/-- A statement that can be written: names the tokenizer reads as one word, at least one
column, well-formed values, as many as columns. -/
structure Insert.WF (i : Insert) : Prop where
  table : isIdent i.table
  columns : ∀ c ∈ i.columns, isIdent c
  columns_ne : i.columns ≠ []
  values : ∀ l ∈ i.values, l.WF
  length : i.columns.length = i.values.length

/-! ### Character classes -/

section Chars

variable {c : Char}

theorem isDigit_iff : c.isDigit ↔ 48 ≤ c.toNat ∧ c.toNat ≤ 57 := by
  simp [Char.isDigit, UInt32.le_def, BitVec.le_def, Char.toNat, UInt32.toNat]

theorem isAlpha_iff : c.isAlpha ↔ (65 ≤ c.toNat ∧ c.toNat ≤ 90) ∨ (97 ≤ c.toNat ∧ c.toNat ≤ 122) := by
  simp [Char.isAlpha, Char.isUpper, Char.isLower, UInt32.le_def, BitVec.le_def, Char.toNat,
    UInt32.toNat]

theorem isspace_eq_false (h : isIdStart c ∨ c.isDigit) : isspace c = false := by
  rw [Bool.eq_false_iff]
  intro hs
  simp only [isspace, decide_eq_true_eq] at hs
  rcases hs with rfl | rfl | rfl | rfl | rfl | rfl <;> revert h <;> decide

theorem isIdStart_eq_false (h : c.isDigit) : isIdStart c = false := by
  rw [isDigit_iff] at h
  simp only [isIdStart, Bool.or_eq_false_iff, decide_eq_false_iff_not]
  refine ⟨by rw [Bool.eq_false_iff, ne_eq, isAlpha_iff]; omega, fun hc => ?_⟩
  subst hc
  simp at h

theorem startStep_of_idStart (h : isIdStart c) : startStep c = some ([], .word [c]) := by
  simp [startStep, isspace_eq_false (.inl h), h]

theorem startStep_of_digit (h : c.isDigit) : startStep c = some ([], .num [c]) := by
  simp [startStep, isspace_eq_false (.inr h), isIdStart_eq_false h, h]

end Chars

/-- The characters that end the token before them in the text of `Insert.render`. -/
def isDelim (c : Char) : Bool := c = ' ' || c = ',' || c = '(' || c = ')' || c = ';'

/-- What a delimiter is read as: nothing for the blank, itself otherwise. -/
def delimTokens (d : Char) : List Token := if d = ' ' then [] else [.punct d]

section Delim

variable (d : Char) (hd : isDelim d)
include hd

theorem startStep_delim : startStep d = some (delimTokens d, .start) := by
  simp only [isDelim, Bool.or_eq_true, decide_eq_true_eq] at hd
  rcases hd with (((rfl | rfl) | rfl) | rfl) | rfl <;> decide

theorem delim_classes : isIdChar d = false ∧ d.isDigit = false ∧ d ≠ '\'' := by
  simp only [isDelim, Bool.or_eq_true, decide_eq_true_eq] at hd
  rcases hd with (((rfl | rfl) | rfl) | rfl) | rfl <;> decide

/-- A delimiter ends the token a state holds and is then read from between tokens. -/
theorem step_delim {st : LexState} {t : Token} (ht : st.token = some t) :
    step st d = (startStep d).map fun p => (t :: p.1, p.2) := by
  obtain ⟨hi, hdig, hq⟩ := delim_classes d hd
  cases st <;> simp_all [LexState.token, step]

theorem run_delim (rest : List Char) :
    run .start (d :: rest) = (run .start rest).map fun p => (delimTokens d ++ p.1, p.2) := by
  simp only [run, step, startStep_delim d hd, Option.some_bind]

theorem run_token {st : LexState} {t : Token} (ht : st.token = some t) (rest : List Char) :
    run st (d :: rest) = (run .start (d :: rest)).map fun p => (t :: p.1, p.2) := by
  rw [run_delim d hd, run, step_delim d hd ht, startStep_delim d hd]
  simp [Function.comp_def]

end Delim

/-! ### Reading a statement piece by piece -/

/-- The run over two texts is the run over the first, then over the second from where the
first ended. -/
theorem run_append (st : LexState) (xs ys : List Char) :
    run st (xs ++ ys) =
      (run st xs).bind fun p => (run p.2 ys).map fun q => (p.1 ++ q.1, q.2) := by
  induction xs generalizing st with
  | nil => simp [run]
  | cons c xs ih =>
    rw [List.cons_append, run, run]
    rcases step st c with _ | ⟨ts, st'⟩
    · rfl
    · simp only [Option.some_bind, ih]
      rcases run st' xs with _ | ⟨ts', st''⟩ <;> simp [Function.comp_def]

/-- `cs` is read from between tokens as `ts`, the last of which the next character may end. -/
def Reads (cs : List Char) (ts : List Token) : Prop :=
  ∃ ts₀ st t, run .start cs = some (ts₀, st) ∧ st.token = some t ∧ ts = ts₀ ++ [t]

/-- `cs` is read as `ts` whatever follows it from a delimiter on. -/
def Closes (cs : List Char) (ts : List Token) : Prop :=
  ∀ d rest, isDelim d →
    run .start (cs ++ d :: rest) = (run .start (d :: rest)).map fun p => (ts ++ p.1, p.2)

theorem Reads.closes {cs : List Char} {ts : List Token} (h : Reads cs ts) : Closes cs ts := by
  obtain ⟨ts₀, st, t, hr, ht, rfl⟩ := h
  intro d rest hd
  rw [run_append, hr, Option.some_bind, run_token d hd ht]
  simp [Function.comp_def]

theorem Reads.tokenize {s : String} {ts : List Token} (h : Reads s.toList ts) :
    tokenize s = some ts := by
  obtain ⟨ts₀, st, t, hr, ht, rfl⟩ := h
  have hf : finish st = some [t] := by cases st <;> simp_all [finish, LexState.token]
  rw [Sql.tokenize, hr, Option.some_bind, hf]
  rfl

theorem run_word (acc cs : List Char) (h : ∀ c ∈ cs, isIdChar c) :
    run (.word acc) cs = some ([], .word (acc ++ cs)) := by
  induction cs generalizing acc with
  | nil => simp [run]
  | cons c cs ih =>
    simp only [List.mem_cons, forall_eq_or_imp] at h
    simp [run, step, h.1, ih _ h.2]

theorem run_num (acc cs : List Char) (h : ∀ c ∈ cs, c.isDigit) :
    run (.num acc) cs = some ([], .num (acc ++ cs)) := by
  induction cs generalizing acc with
  | nil => simp [run]
  | cons c cs ih =>
    simp only [List.mem_cons, forall_eq_or_imp] at h
    simp [run, step, h.1, ih _ h.2]

theorem run_escapeBody (acc s : List Char) :
    run (.str acc) (escapeBody s ++ ['\'']) = some ([], .strQuote (acc ++ s)) := by
  induction s generalizing acc with
  | nil => simp [escapeBody, run, step]
  | cons c s ih =>
    rw [escapeBody, List.flatMap_cons, ← escapeBody, List.append_assoc]
    by_cases hc : c = '\''
    · subst hc
      simp [run, step, ih]
    · simp [hc, run, step, ih]

theorem reads_ident {w : String} (hw : isIdent w) : Reads w.toList [.word w] := by
  obtain ⟨cs⟩ := w
  cases cs with
  | nil => simp [isIdent] at hw
  | cons c cs =>
    simp only [isIdent, String.toList, Bool.and_eq_true, List.all_eq_true] at hw
    refine ⟨[], .word (c :: cs), _, ?_, rfl, rfl⟩
    simp [run, step, startStep_of_idStart hw.1, run_word _ _ hw.2]

theorem reads_digits {ds : List Char} (hne : ds ≠ []) (h : ∀ c ∈ ds, c.isDigit) :
    Reads ds [.num ⟨ds⟩] := by
  cases ds with
  | nil => exact absurd rfl hne
  | cons c cs =>
    simp only [List.mem_cons, forall_eq_or_imp] at h
    refine ⟨[], .num (c :: cs), _, ?_, rfl, rfl⟩
    simp [run, step, startStep_of_digit h.1, run_num _ _ h.2]

theorem reads_render {l : Literal} (hl : l.WF) : Reads l.render.toList l.tokens := by
  cases l with
  | null => exact reads_ident (by decide)
  | int neg d =>
    obtain ⟨hne, hd⟩ := hl
    have hr := reads_digits hne hd
    rw [show (⟨d.toList⟩ : String) = d from rfl] at hr
    cases neg with
    | false => simpa [Literal.render, Literal.tokens] using hr
    | true =>
      obtain ⟨ts₀, st, t, hr, ht, he⟩ := hr
      refine ⟨.punct '-' :: ts₀, st, t, ?_, ht, by simp [Literal.tokens, he]⟩
      have hr' : run .start d.data = some (ts₀, st) := hr
      simp [Literal.render, run, step, startStep, isspace, isIdStart, isPunct, hr']
  | str s =>
    refine ⟨[], .strQuote s.toList, _, ?_, rfl, rfl⟩
    simp [Literal.render, run, step, startStep, isspace, isIdStart, run_escapeBody]

theorem literal_tokens (l : Literal) : literal l.tokens = some l := by
  cases l with
  | int neg d => cases neg <;> rfl
  | _ => rfl

/-- **Literals round-trip**: the text of a well-formed literal is read back as that literal. -/
theorem parseLiteral_render {l : Literal} (hl : l.WF) : parseLiteral l.render = some l := by
  rw [parseLiteral, (reads_render hl).tokenize, Option.some_bind, literal_tokens]

/-! ### Reading a whole statement -/

theorem run_append_start {xs : List Char} {ts : List Token} (h : run .start xs = some (ts, .start))
    (ys : List Char) : run .start (xs ++ ys) = (run .start ys).map fun p => (ts ++ p.1, p.2) := by
  rw [run_append, h, Option.some_bind]

/-- **A list written by `commaList`** is read as its items' tokens with a comma between
each two. -/
theorem closes_commaList {α : Type} (f : α → String) (g : α → List Token) :
    ∀ xs : List α, xs ≠ [] → (∀ x ∈ xs, Closes (f x).toList (g x)) →
      Closes (commaList (xs.map f)).toList ([.punct ','].intercalate (xs.map g))
  | [], hne, _ => absurd rfl hne
  | [x], _, h => by simpa [commaList, List.intercalate] using h x (by simp)
  | x :: y :: ys, _, h => by
    intro d rest hd
    have hx := h x (by simp)
    have ih := closes_commaList f g (y :: ys) (by simp) fun z hz => h z (by simp [hz])
    have e : (commaList (f x :: f y :: ys.map f)).toList ++ d :: rest =
        (f x).toList ++ ',' :: ' ' :: ((commaList (f y :: ys.map f)).toList ++ d :: rest) := by
      simp only [commaList, String.toList, String.data_append, List.append_assoc]
      rfl
    simp only [List.map_cons] at ih ⊢
    rw [e, hx ',' _ rfl, run_delim ',' rfl, run_delim ' ' rfl, ih d rest hd]
    simp [Function.comp_def, delimTokens, List.intercalate]

theorem span_close {l₁ l₂ : List Token} (h : ∀ y ∈ l₁, y ≠ .punct ')') :
    (l₁ ++ .punct ')' :: l₂).span (· != .punct ')') = (l₁, .punct ')' :: l₂) := by
  rw [List.span_eq_take_drop, List.takeWhile_append_of_pos (by simpa using h),
    List.dropWhile_append_of_pos (by simpa using h), List.takeWhile_cons_of_neg (by simp),
    List.dropWhile_cons_of_neg (by simp), List.append_nil]

theorem mapM_column (cs : List String) :
    (cs.map fun c => [Token.word c]).mapM column = some cs := by
  induction cs with
  | nil => rfl
  | cons c cs ih => simp only [List.map_cons, List.mapM_cons, ih]; rfl

theorem mapM_literal (ls : List Literal) : (ls.map Literal.tokens).mapM literal = some ls := by
  induction ls with
  | nil => rfl
  | cons l ls ih => simp only [List.map_cons, List.mapM_cons, ih, literal_tokens]; rfl

/-- A literal's tokens hold neither of the commas and parentheses that delimit it. -/
theorem tokens_ne_punct (l : Literal) : ∀ x ∈ l.tokens, x ≠ .punct ',' ∧ x ≠ .punct ')' := by
  cases l with
  | int neg d => cases neg <;> simp [Literal.tokens]
  | _ => simp [Literal.tokens]

/-- **Statements round-trip**: the text `get_sql` writes for a well-formed single-row
`INSERT` is read back as that statement. -/
theorem parseInsert_render {i : Insert} (h : i.WF) : parseInsert i.render = some i := by
  obtain ⟨t, cols, ls⟩ := i
  obtain ⟨ht, hcols, hne, hls, hlen⟩ := h
  have hls_ne : ls ≠ [] := fun h' => hne (List.length_eq_zero.mp (by simp_all))
  set K := [Token.punct ','].intercalate (cols.map fun c => [Token.word c])
  set V := [Token.punct ','].intercalate (ls.map Literal.tokens)
  have hK : Closes (commaList cols).toList K := by
    simpa using closes_commaList id (fun c => [Token.word c]) cols hne
      fun c hc => (reads_ident (hcols c hc)).closes
  have hV : Closes (commaList (ls.map Literal.render)).toList V :=
    closes_commaList Literal.render Literal.tokens ls hls_ne
      fun l hl => (reads_render (hls l hl)).closes
  have e : (Insert.render ⟨t, cols, ls⟩).toList = "INSERT INTO ".toList ++
      (t.toList ++ ' ' :: '(' :: ((commaList cols).toList ++ ')' :: ' ' :: ("VALUES".toList ++
        ' ' :: '(' :: ((commaList (ls.map Literal.render)).toList ++ [')', ';', ' '])))) := by
    simp only [Insert.render, String.toList, String.data_append, List.append_assoc]
    rfl
  have htok : tokenize (Insert.render ⟨t, cols, ls⟩) = some (.word "INSERT" :: .word "INTO" ::
      .word t :: .punct '(' :: (K ++ .punct ')' :: .word "VALUES" :: .punct '(' ::
        (V ++ [.punct ')', .punct ';']))) := by
    rw [tokenize, e, run_append_start
      (by decide : run .start "INSERT INTO ".toList = some ([.word "INSERT", .word "INTO"], .start)),
      (reads_ident ht).closes ' ' _ rfl, run_delim ' ' rfl, run_delim '(' rfl, hK ')' _ rfl,
      run_delim ')' rfl, run_delim ' ' rfl,
      (reads_ident (by decide : isIdent "VALUES")).closes ' ' _ rfl, run_delim ' ' rfl,
      run_delim '(' rfl, hV ')' _ rfl, run_delim ')' rfl, run_delim ';' rfl, run_delim ' ' rfl]
    simp [run, finish, delimTokens, Function.comp_def]
  have hKp : ∀ x ∈ K, x ≠ .punct ')' :=
    forall_mem_intercalate (by simp) _ fun l hl x hx => by
      obtain ⟨c, -, rfl⟩ := List.mem_map.mp hl
      simp_all
  have hVp : ∀ x ∈ V, x ≠ .punct ')' :=
    forall_mem_intercalate (by simp) _ fun l hl x hx => by
      obtain ⟨l, -, rfl⟩ := List.mem_map.mp hl
      exact (tokens_ne_punct l x hx).2
  have hKs : K.splitOn (.punct ',') = cols.map fun c => [Token.word c] :=
    List.splitOn_intercalate _ _ (by simp) (by simpa using hne)
  have hVs : V.splitOn (.punct ',') = ls.map Literal.tokens :=
    List.splitOn_intercalate _ _ (fun l hl hx => by
      obtain ⟨l, -, rfl⟩ := List.mem_map.mp hl
      exact (tokens_ne_punct l _ hx).1 rfl) (by simpa using hls_ne)
  simp only [parseInsert, htok, Option.some_bind, insertStmt, span_close hKp, span_close hVp, hKs,
    hVs, mapM_column, mapM_literal, hlen]
  rfl

end Sql

end Ash
