import Hyperslab.Proofs.Filter.WellFormed

/-! Going through the rows of a sequence by calls in any order. The rows that have been handed out,
with the one that is kept, are those that pass among the rows taken from the source, and the faults
that have been reported are those of the rows that fail. No call takes more rows than it needs, and
behind the end no call takes any. -/
namespace Hyperslab

/-- The computation ends well, or with a fault of evaluation. -/
def FailsInEvaluation {α : Type} (x : Except Fault α) : Prop :=
  ∀ fault, x = .error fault → fault.kind = .evaluation

theorem FailsInEvaluation.of_ok {α : Type} (a : α) :
    FailsInEvaluation (.ok a : Except Fault α) := nofun

theorem FailsInEvaluation.bind {α β : Type} {x : Except Fault α} {f : α → Except Fault β}
    (h : FailsInEvaluation x) (hNext : ∀ a, FailsInEvaluation (f a)) :
    FailsInEvaluation (x >>= f) := by
  cases x with
  | error fault => exact fun _ hFault => h _ (Except.error.inj hFault ▸ rfl)
  | ok a => exact hNext a

/-- Faults of rows are faults of evaluation. -/
theorem FailsOnRows.inEvaluation {α : Type} {x : Except Fault α} (h : FailsOnRows x) :
    FailsInEvaluation x := by
  intro fault hFault
  have hRow := h fault hFault
  cases fault with
  | missingField | notScalar | typeMismatch | badPattern => rfl
  | _ => cases hRow

namespace Filter

variable {schema : Schema} {row : Row}

theorem readField_inEvaluation (v : VarId) (name : String) :
    FailsInEvaluation (readField schema row v name) := by
  intro fault hFault
  simp only [readField] at hFault
  split at hFault
  · cases hFault
    rfl
  · split at hFault
    · cases hFault
    · cases hFault
      rfl
    · cases hFault
      rfl

theorem truth_inEvaluation (value : Value) : FailsInEvaluation (truth value) := by
  intro fault hFault
  cases value with
  | bool b => cases hFault
  | _ =>
      cases hFault
      rfl

/-- A filter of any shape can only fail in evaluation. -/
theorem evaluate_inEvaluation (filter : Filter) :
    FailsInEvaluation (filter.evaluate schema row) := by
  induction filter using evaluate.induct with
  | case1 value =>
      rw [evaluate]
      exact .of_ok value
  | case2 v name =>
      rw [evaluate]
      exact readField_inEvaluation v name
  | case3 op lhs rhs regex ihl ihr =>
      rw [evaluate]
      refine ihl.bind fun left => ihr.bind fun right => ?_
      exact (failsOnRows_compareBy op left right regex).inEvaluation.bind fun _ => .of_ok _
  | case4 a b iha ihb =>
      rw [evaluate]
      refine iha.bind fun left => (truth_inEvaluation left).bind fun _ => ?_
      exact ihb.bind fun right => (truth_inEvaluation right).bind fun _ => .of_ok _
  | case5 a ih =>
      rw [evaluate]
      exact ih.bind fun value => (truth_inEvaluation value).bind fun _ => .of_ok _
  | case6 connective operands hConj hNeg =>
      intro fault hFault
      rw [evaluate] at hFault
      · cases hFault
        rfl
      · exact hConj
      · exact hNeg

theorem accepts_inEvaluation (filter : Filter) : FailsInEvaluation (filter.accepts schema row) :=
  (evaluate_inEvaluation filter).bind truth_inEvaluation

end Filter

theorem View.matchRow_inEvaluation {view : View} (hFinished : view.isFinished = true) (v : VarId)
    (row : Row) : FailsInEvaluation (view.matchRow v row) := by
  rw [matchRow_of_finished hFinished]
  cases view.filter? v with
  | none => exact .of_ok true
  | some filter => exact filter.accepts_inEvaluation

namespace RowCursor

variable {α : Type}

/-- What a cursor can be asked for. -/
inductive Call where
  | hasNext
  | nextMatched
  | next
  deriving DecidableEq, Repr

/-- What a call has answered. -/
inductive Answer (α : Type) where
  | hasNext (found : Except Fault Bool)
  | nextMatched (row : Except Fault α)
  | next (row : Option (Except Fault α))

namespace Answer

/-- The row that is handed out. -/
def row? : Answer α → Option α
  | nextMatched (.ok row) | next (some (.ok row)) => some row
  | _ => none

def fault? : Answer α → Option Fault
  | hasNext (.error fault) | nextMatched (.error fault) | next (some (.error fault)) => some fault
  | _ => none

/-- There are no more rows, or a search for the next one has failed where no other may follow. -/
def isLast : Answer α → Bool
  | hasNext (.ok false) | next none | next (some (.error _)) => true
  | _ => false

end Answer

/-- The answer to a call, and the cursor behind it. -/
def call (c : RowCursor α) : Call → Answer α × RowCursor α
  | .hasNext => (.hasNext c.hasNext.1, c.hasNext.2)
  | .nextMatched => (.nextMatched c.nextMatched.1, c.nextMatched.2)
  | .next => (.next c.next.1, c.next.2)

/-- The answers to calls one after the other, and the cursor behind them. -/
def run (c : RowCursor α) : List Call → List (Answer α) × RowCursor α
  | [] => ([], c)
  | call :: calls =>
    ((c.call call).1 :: ((c.call call).2.run calls).1, ((c.call call).2.run calls).2)

/-- The rows that are handed out. -/
def handedOut (answers : List (Answer α)) : List α := answers.filterMap Answer.row?

/-- The faults of evaluation that are reported. -/
def evaluationFaults (answers : List (Answer α)) : List Fault :=
  (answers.filterMap Answer.fault?).filter fun fault => fault.kind = .evaluation

/-- The rows that pass a test. -/
def passing (test : α → Except Fault Bool) (rows : List α) : List α :=
  rows.filter fun row => (test row).toOption = some true

/-- The faults of the rows that a test fails on. -/
def failures (test : α → Except Fault Bool) (rows : List α) : List Fault :=
  rows.filterMap fun row =>
    match test row with
    | .ok _ => none
    | .error fault => some fault

variable {test : α → Except Fault Bool} {skipped : List α}

theorem passing_of_skipped (h : ∀ row ∈ skipped, test row = .ok false) :
    passing test skipped = [] := by
  rw [passing, List.filter_eq_nil_iff]
  intro row hRow
  simp [h row hRow, Except.toOption]

theorem failures_of_skipped (h : ∀ row ∈ skipped, test row = .ok false) :
    failures test skipped = [] := by
  rw [failures, List.filterMap_eq_nil_iff]
  intro row hRow
  rw [h row hRow]

theorem passing_append (rows more : List α) :
    passing test (rows ++ more) = passing test rows ++ passing test more :=
  List.filter_append ..

theorem failures_append (rows more : List α) :
    failures test (rows ++ more) = failures test rows ++ failures test more :=
  List.filterMap_append

/-- How a search for a row that passes can end. -/
inductive Scanned (test : α → Except Fault Bool) :
    List α → Except Fault (Option α) × List α → Prop where
  | found {skipped rest : List α} {row : α} (skips : ∀ other ∈ skipped, test other = .ok false)
      (passes : test row = .ok true) :
      Scanned test (skipped ++ row :: rest) (.ok (some row), rest)
  | failed {skipped rest : List α} {row : α} {fault : Fault}
      (skips : ∀ other ∈ skipped, test other = .ok false) (fails : test row = .error fault) :
      Scanned test (skipped ++ row :: rest) (.error fault, rest)
  | through {rows : List α} (skips : ∀ other ∈ rows, test other = .ok false) :
      Scanned test rows (.ok none, [])

/-- A row that does not pass is skipped. -/
theorem Scanned.skip {row : α} {rows : List α} {result : Except Fault (Option α) × List α}
    (hSkip : test row = .ok false) (h : Scanned test rows result) :
    Scanned test (row :: rows) result := by
  cases h with
  | found skips passes => exact .found (List.forall_mem_cons.mpr ⟨hSkip, skips⟩) passes
  | failed skips fails => exact .failed (List.forall_mem_cons.mpr ⟨hSkip, skips⟩) fails
  | through skips => exact .through (List.forall_mem_cons.mpr ⟨hSkip, skips⟩)

theorem scan_scanned (test : α → Except Fault Bool) (rows : List α) :
    Scanned test rows (scan test rows) := by
  induction rows with
  | nil => exact .through nofun
  | cons row rows ih =>
      rw [scan]
      split
      · next hPasses => exact .found (List.forall_mem_nil _) hPasses
      · next hSkip => exact ih.skip hSkip
      · next fault hFails => exact .failed (List.forall_mem_nil _) hFails

/-- What looking for a row can come to. -/
inductive Looked (c : RowCursor α) : Except Fault Bool × RowCursor α → Prop where
  | kept (row : α) (pending : c.pending = some row) : Looked c (.ok true, c)
  | spent (pending : c.pending = none) (exhausted : c.exhausted = true) : Looked c (.ok false, c)
  | found {skipped rest : List α} {row : α} (pending : c.pending = none)
      (source : c.source = skipped ++ row :: rest)
      (skips : ∀ other ∈ skipped, c.test other = .ok false) (passes : c.test row = .ok true) :
      Looked c (.ok true, { c with source := rest, pending := some row })
  | failed {skipped rest : List α} {row : α} {fault : Fault} (pending : c.pending = none)
      (source : c.source = skipped ++ row :: rest)
      (skips : ∀ other ∈ skipped, c.test other = .ok false) (fails : c.test row = .error fault) :
      Looked c (.error fault, { c with source := rest })
  | through (pending : c.pending = none) (skips : ∀ other ∈ c.source, c.test other = .ok false) :
      Looked c (.ok false, { c with source := [], exhausted := true })

theorem hasNext_looked (c : RowCursor α) : c.Looked c.hasNext := by
  obtain ⟨test, source, pending, exhausted⟩ := c
  cases pending with
  | some row => exact .kept row rfl
  | none =>
      cases exhausted with
      | true => exact .spent rfl rfl
      | false =>
          have hScanned := scan_scanned test source
          simp only [hasNext, Option.isSome_none, Bool.false_eq_true, if_false]
          generalize scan test source = result at hScanned ⊢
          cases hScanned with
          | found skips passes => exact .found rfl rfl skips passes
          | failed skips fails => exact .failed rfl rfl skips fails
          | through skips => exact .through rfl skips

/-- Answers that account for the rows taken from the source: those that pass are handed out or kept,
the faults of those that fail are reported. -/
structure Accounts (c : RowCursor α) (taken : List α) (answers : List (Answer α))
    (c' : RowCursor α) : Prop where
  test : c'.test = c.test
  source : c.source = taken ++ c'.source
  rows : c.pending.toList ++ passing c.test taken = handedOut answers ++ c'.pending.toList
  faults : evaluationFaults answers = failures c.test taken

theorem Accounts.nil (c : RowCursor α) : Accounts c [] [] c where
  test := rfl
  source := rfl
  rows := List.append_nil _
  faults := rfl

theorem Accounts.append {c c' c'' : RowCursor α} {taken more : List α}
    {answers further : List (Answer α)} (h : Accounts c taken answers c')
    (hMore : Accounts c' more further c'') :
    Accounts c (taken ++ more) (answers ++ further) c'' where
  test := hMore.test.trans h.test
  source := by rw [h.source, hMore.source, List.append_assoc]
  rows := by
    have hRows := hMore.rows
    rw [h.test] at hRows
    rw [passing_append, ← List.append_assoc, h.rows, List.append_assoc, hRows, handedOut, handedOut,
      handedOut, List.filterMap_append, List.append_assoc]
  faults := by
    have hFaults := hMore.faults
    rw [h.test] at hFaults
    rw [failures_append, ← h.faults, ← hFaults, evaluationFaults, List.filterMap_append,
      List.filter_append]
    rfl

variable {c : RowCursor α} {result : Except Fault Bool × RowCursor α}

/-- A row is kept just where one has been found. -/
theorem Looked.pending_isSome (h : c.Looked result) :
    result.2.pending.isSome = true ↔ result.1 = .ok true := by
  cases h with
  | kept row hPending => simp [hPending]
  | spent hPending => simp [hPending]
  | found => simp
  | failed hPending => simp [hPending]
  | through hPending => simp [hPending]

theorem Looked.exhausted (h : c.Looked result) (hFound : result.1 = .ok false) :
    result.2.exhausted = true := by
  cases h with
  | kept | found | failed => cases hFound
  | spent hPending hExhausted => exact hExhausted
  | through => rfl

/-- Looking for a row accounts for the rows that it takes, and passes over all of them but the
last. -/
theorem Looked.accounts (h : c.Looked result) (hTest : ∀ row, FailsInEvaluation (c.test row)) :
    ∃ taken, Accounts c taken [.hasNext result.1] result.2 ∧
      ∀ row ∈ taken.dropLast, c.test row = .ok false := by
  cases h with
  | kept | spent => exact ⟨[], ⟨rfl, rfl, List.append_nil _, rfl⟩, nofun⟩
  | @found skipped rest row hPending hSource hSkips hPasses =>
      refine ⟨skipped ++ [row], ⟨rfl, ?_, ?_, ?_⟩, ?_⟩
      · simpa using hSource
      · rw [hPending, passing_append, passing_of_skipped hSkips]
        simp [passing, hPasses, Except.toOption, handedOut, Answer.row?]
      · rw [failures_append, failures_of_skipped hSkips]
        simp [failures, hPasses, evaluationFaults, Answer.fault?]
      · simpa using hSkips
  | @failed skipped rest row fault hPending hSource hSkips hFails =>
      refine ⟨skipped ++ [row], ⟨rfl, ?_, ?_, ?_⟩, ?_⟩
      · simpa using hSource
      · rw [hPending, passing_append, passing_of_skipped hSkips]
        simp [passing, hFails, Except.toOption, handedOut, Answer.row?]
      · rw [failures_append, failures_of_skipped hSkips]
        simp [failures, hFails, evaluationFaults, Answer.fault?, hTest row fault hFails]
      · simpa using hSkips
  | through hPending hSkips =>
      refine ⟨c.source, ⟨rfl, ?_, ?_, ?_⟩, ?_⟩
      · simp
      · rw [passing_of_skipped hSkips, List.append_nil]
        rfl
      · rw [failures_of_skipped hSkips]
        rfl
      · exact fun row hRow => hSkips row (List.mem_of_mem_dropLast hRow)

/-- Handing out the next row is looking for it: it is taken if there is one, and a fault ends the
cursor. -/
theorem next_cases (c : RowCursor α) :
    (∃ row c', c.hasNext = (.ok true, c') ∧ c'.pending = some row ∧
      c.next = (some (.ok row), { c' with pending := none })) ∨
    (∃ c', c.hasNext = (.ok false, c') ∧ c.next = (none, c')) ∨
      ∃ fault c', c.hasNext = (.error fault, c') ∧
        c.next = (some (.error fault), { c' with exhausted := true }) := by
  have hPending := c.hasNext_looked.pending_isSome
  unfold next
  generalize c.hasNext = result at hPending ⊢
  obtain ⟨found, c'⟩ := result
  match found with
  | .ok true =>
      obtain ⟨row, hRow⟩ := Option.isSome_iff_exists.mp (hPending.mpr rfl)
      exact .inl ⟨row, c', rfl, hRow, by rw [← Option.map_some, ← hRow]⟩
  | .ok false => exact .inr (.inl ⟨c', rfl, rfl⟩)
  | .error fault => exact .inr (.inr ⟨fault, c', rfl, rfl⟩)

theorem next_accounts (hTest : ∀ row, FailsInEvaluation (c.test row)) :
    ∃ taken, Accounts c taken [.next c.next.1] c.next.2 ∧
      ∀ row ∈ taken.dropLast, c.test row = .ok false := by
  obtain ⟨taken, hAccounts, hSkips⟩ := c.hasNext_looked.accounts hTest
  refine ⟨taken, ?_, hSkips⟩
  obtain ⟨row, c', hFound, hRow, hNext⟩ | ⟨c', hFound, hNext⟩ | ⟨fault, c', hFound, hNext⟩ :=
    c.next_cases
  all_goals
    rw [hFound] at hAccounts
    rw [hNext]
  · refine ⟨hAccounts.test, hAccounts.source, ?_, hAccounts.faults⟩
    rw [hAccounts.rows, hRow]
    rfl
  · exact ⟨hAccounts.test, hAccounts.source, hAccounts.rows, hAccounts.faults⟩
  · exact ⟨hAccounts.test, hAccounts.source, hAccounts.rows, hAccounts.faults⟩

theorem nextMatched_accounts (c : RowCursor α) :
    Accounts c [] [.nextMatched c.nextMatched.1] c.nextMatched.2 := by
  unfold nextMatched
  split
  · next row hPending => exact ⟨rfl, rfl, by simp [hPending, passing, handedOut, Answer.row?], rfl⟩
  · exact ⟨rfl, rfl, List.append_nil _, rfl⟩

/-- Every call accounts for the rows that it takes, and passes over all of them but the last. -/
theorem call_accounts (hTest : ∀ row, FailsInEvaluation (c.test row)) (call : Call) :
    ∃ taken, Accounts c taken [(c.call call).1] (c.call call).2 ∧
      ∀ row ∈ taken.dropLast, c.test row = .ok false := by
  cases call with
  | hasNext => exact c.hasNext_looked.accounts hTest
  | nextMatched => exact ⟨[], c.nextMatched_accounts, nofun⟩
  | next => exact next_accounts hTest

/-- So do calls one after the other. -/
theorem run_accounts (hTest : ∀ row, FailsInEvaluation (c.test row)) (calls : List Call) :
    ∃ pulled, Accounts c pulled (c.run calls).1 (c.run calls).2 := by
  induction calls generalizing c with
  | nil => exact ⟨[], .nil c⟩
  | cons call calls ih =>
      obtain ⟨taken, hCall, -⟩ := call_accounts hTest call
      obtain ⟨pulled, hCalls⟩ := ih (hCall.test ▸ hTest)
      exact ⟨taken ++ pulled, hCall.append hCalls⟩

/-- A call takes nothing while a row is kept. -/
theorem call_source_of_pending (hPending : c.pending.isSome = true) (call : Call) :
    (c.call call).2.source = c.source := by
  obtain ⟨row, hRow⟩ := Option.isSome_iff_exists.mp hPending
  cases call with
  | hasNext | nextMatched | next => simp [RowCursor.call, hasNext, nextMatched, next, hRow]

/-- No call takes rows from the source, whatever it holds, and no more rows are handed out. -/
structure Spent (c : RowCursor α) : Prop where
  source : ∀ source calls, (({ c with source } : RowCursor α).run calls).2.source = source
  next : ∀ calls row, .next row ∈ (c.run calls).1 → row = none

/-- The source is used up and no row is kept. -/
def IsOver (c : RowCursor α) : Prop := c.pending = none ∧ c.exhausted = true

/-- Behind the end the cursor stays as it is. -/
theorem IsOver.call (h : c.IsOver) (call : Call) : (c.call call).2 = c := by
  cases call with
  | hasNext | nextMatched | next =>
      simp [RowCursor.call, RowCursor.hasNext, RowCursor.nextMatched, RowCursor.next, h.1, h.2]

theorem IsOver.run (h : c.IsOver) (calls : List Call) : (c.run calls).2 = c := by
  induction calls with
  | nil => rfl
  | cons call calls ih => rw [RowCursor.run, h.call, ih]

theorem IsOver.spent (h : c.IsOver) : c.Spent where
  source := by
    intro source calls
    have hOver : IsOver { c with source } := h
    rw [hOver.run]
  next := by
    intro calls row hAnswer
    induction calls with
    | nil => cases hAnswer
    | cons call calls ih =>
        rw [RowCursor.run, h.call] at hAnswer
        rcases List.mem_cons.mp hAnswer with hHead | hTail
        · cases call with
          | hasNext | nextMatched => cases hHead
          | next =>
              cases hHead
              simp [RowCursor.next, RowCursor.hasNext, h.1, h.2]
        · exact ih hTail

/-- The last answer leaves nothing behind. -/
theorem call_isOver (c : RowCursor α) (call : Call) (hLast : (c.call call).1.isLast = true) :
    (c.call call).2.IsOver := by
  have hLooked := c.hasNext_looked
  have hPending := hLooked.pending_isSome
  have hExhausted := hLooked.exhausted
  cases call with
  | nextMatched => cases hLast
  | hasNext =>
      simp only [RowCursor.call] at hLast ⊢
      have hFound : c.hasNext.1 = .ok false := by
        match hAnswer : c.hasNext.1 with
        | .ok false => rfl
        | .ok true | .error _ =>
            rw [hAnswer] at hLast
            cases hLast
      refine ⟨?_, hExhausted hFound⟩
      simpa [hFound] using hPending
  | next =>
      simp only [RowCursor.call] at hLast ⊢
      obtain ⟨row, c', -, -, hNext⟩ | ⟨c', hFound, hNext⟩ | ⟨fault, c', hFound, hNext⟩ :=
        c.next_cases
      · rw [hNext] at hLast
        cases hLast
      · rw [hNext]
        rw [hFound] at hPending hExhausted
        exact ⟨by simpa using hPending, hExhausted rfl⟩
      · rw [hNext]
        rw [hFound] at hPending
        exact ⟨by simpa using hPending, rfl⟩

end RowCursor

namespace View

open RowCursor

variable {view : View} {v : VarId}

/-- Going through the rows of a sequence loses none and repeats none. Whatever was called before,
the rows handed out and the one that is kept are those that pass among the rows pulled, in their
order, and the faults reported are those of the rows that fail. A further call pulls nothing if a
row is kept, and otherwise only passes over rows until one passes or fails; behind a last answer
the source is not touched again. -/
theorem filterRows_lossless (hFinished : view.isFinished = true)
    (hSequence : (view.schema.var v).isSequence = true) {α : Type} (read : α → Row)
    (rows : List α) :
    ∃ start, view.filterRows v read rows = .ok start ∧
      ∀ calls answers c, start.run calls = (answers, c) →
        (∃ pulled, rows = pulled ++ c.source ∧
          handedOut answers ++ c.pending.toList =
            passing (fun row => view.matchRow v (read row)) pulled ∧
          evaluationFaults answers = failures (fun row => view.matchRow v (read row)) pulled) ∧
        ∀ further answer c', c.call further = (answer, c') →
          (c.pending.isSome = true →
            ∀ source, (({ c with source } : RowCursor α).call further).2.source = source) ∧
          (∃ taken, c.source = taken ++ c'.source ∧
            ∀ row ∈ taken.dropLast, view.matchRow v (read row) = .ok false) ∧
          (answer.isLast = true → c'.Spent) := by
  refine ⟨.start (fun row => view.matchRow v (read row)) rows, ?_, ?_⟩
  · rw [filterRows, whenFinished, if_pos hFinished, if_pos hSequence]
  intro calls answers c hRun
  have hTest : ∀ row, FailsInEvaluation (view.matchRow v (read row)) :=
    fun row => matchRow_inEvaluation hFinished v (read row)
  obtain ⟨pulled, hAccounts⟩ :=
    run_accounts (c := start (fun row => view.matchRow v (read row)) rows) hTest calls
  rw [hRun] at hAccounts
  refine ⟨⟨pulled, hAccounts.source, hAccounts.rows.symm, hAccounts.faults⟩, ?_⟩
  intro further answer c' hCall
  have hKept : c.test = fun row => view.matchRow v (read row) := hAccounts.test
  obtain ⟨taken, hTaken, hSkips⟩ :=
    call_accounts (c := c) (fun row => by rw [hKept]; exact hTest row) further
  rw [hCall] at hTaken
  rw [hKept] at hSkips
  refine ⟨?_, ⟨taken, hTaken.source, hSkips⟩, ?_⟩
  · intro hPending source
    exact call_source_of_pending (c := { c with source }) hPending further
  · intro hLast
    have hOver := c.call_isOver further (by rw [hCall]; exact hLast)
    rw [hCall] at hOver
    exact hOver.spent

/-- A row that may hold a number in the field `m`. -/
def numberRow (number : Option Int64) : Row :=
  .ofList (number.toList.map fun n => ("m", .scalar (.int n)))

/-- A row is passed over, one is handed out, one fails and one is never pulled. -/
theorem filterRows_lossless_grid : ∃ view start,
    Request.compileText {} .grid "/q|m<2" = .ok view ∧
      view.filterRows ⟨1⟩ numberRow [some 5, some 1, none, some 0] = .ok start ∧
      handedOut (start.run [.nextMatched, .hasNext, .hasNext, .next, .next]).1 = [some 1] ∧
      evaluationFaults (start.run [.nextMatched, .hasNext, .hasNext, .next, .next]).1 =
        failures (fun row => view.matchRow ⟨1⟩ (numberRow row)) [some 5, some 1, none] ∧
      (start.run [.nextMatched, .hasNext, .hasNext, .next, .next]).2.source = [some 0] ∧
      (start.run [.nextMatched, .hasNext, .hasNext, .next, .next]).2.Spent := by
  have hRun : ∃ view ∈ (Request.compileText {} .grid "/q|m<2").toOption,
      view.isFinished = true ∧ (view.schema.var ⟨1⟩).isSequence = true ∧
        ∃ start ∈ (view.filterRows ⟨1⟩ numberRow [some 5, some 1, none, some 0]).toOption,
          handedOut (start.run [.nextMatched, .hasNext, .hasNext, .next, .next]).1 = [some 1] ∧
          (start.run [.nextMatched, .hasNext, .hasNext, .next, .next]).2.source = [some 0] ∧
          ((start.run [.nextMatched, .hasNext, .hasNext, .next]).2.call .next).1.isLast = true := by
    decide +kernel
  obtain ⟨view, hView, hFinished, hSequence, start, hStart, hRows, hSource, hLast⟩ := hRun
  have hStart := eq_ok_of_mem_toOption hStart
  obtain ⟨start', hStart', hCalls⟩ :=
    filterRows_lossless hFinished hSequence numberRow [some 5, some 1, none, some 0]
  cases hStart.symm.trans hStart'
  obtain ⟨⟨pulled, hPulled, -, hFaults⟩, -⟩ :=
    hCalls [.nextMatched, .hasNext, .hasNext, .next, .next] _ _ rfl
  have hPulled : [some 5, some 1, none] ++ [some 0] = pulled ++ [some 0] := hSource ▸ hPulled
  have hPulled : [some 5, some 1, none] = pulled := List.append_cancel_right hPulled
  subst hPulled
  exact ⟨view, start, eq_ok_of_mem_toOption hView, hStart, hRows, hFaults, hSource,
    ((hCalls [.nextMatched, .hasNext, .hasNext, .next] _ _ rfl).2 .next _ _ rfl).2.2 hLast⟩

end View

end Hyperslab
