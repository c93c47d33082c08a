import Hyperslab.Proofs.Filter.RowCursor

/-! What a fault leaves of a cursor, and what comes of going on behind it. The call that hands out
rows ends with its first fault; the call that looks for a row does not, and stands before the rows
behind the one that has failed. -/
namespace Hyperslab

namespace RowCursor

variable {α : Type} {c c' : RowCursor α} {test : α → Except Fault Bool} {rows : List α}

/-- How a call is answered behind the end. -/
def Call.atEnd : Call → Answer α
  | .hasNext => .hasNext (.ok false)
  | .nextMatched => .nextMatched (.error .noRowFound)
  | .next => .next none

/-- Looking for a row and handing it out, `n` times. -/
def alternating : Nat → List Call
  | 0 => []
  | n + 1 => .hasNext :: .nextMatched :: alternating n

/-- The rows before the first one that fails. -/
def untilFault (test : α → Except Fault Bool) (rows : List α) : List α :=
  rows.takeWhile fun row => (test row).isOk

theorem IsOver.answer (h : c.IsOver) (call : Call) : (c.call call).1 = call.atEnd := by
  cases call with
  | hasNext | nextMatched | next =>
      simp [RowCursor.call, RowCursor.hasNext, RowCursor.nextMatched, RowCursor.next, h.1, h.2,
        Call.atEnd]

theorem IsOver.answers (h : c.IsOver) (calls : List Call) :
    (c.run calls).1 = calls.map Call.atEnd := by
  induction calls with
  | nil => rfl
  | cons call calls ih => rw [RowCursor.run, h.answer, h.call, ih, List.map_cons]

@[simp] theorem handedOut_atEnd (calls : List Call) :
    handedOut (α := α) (calls.map Call.atEnd) = [] := by
  rw [handedOut, List.filterMap_map, List.filterMap_eq_nil_iff]
  intro call _
  cases call <;> rfl

@[simp] theorem evaluationFaults_atEnd (calls : List Call) :
    evaluationFaults (α := α) (calls.map Call.atEnd) = [] := by
  rw [evaluationFaults, List.filter_eq_nil_iff]
  intro fault hFault
  obtain ⟨answer, hAnswer, hOwn⟩ := List.mem_filterMap.mp hFault
  obtain ⟨call, -, rfl⟩ := List.mem_map.mp hAnswer
  cases call with
  | hasNext | next => cases hOwn
  | nextMatched =>
      cases hOwn
      decide

/-- Behind a fault of the call that hands out rows, every call is answered as at the end. -/
theorem next_fault {fault : Fault} (h : c.next = (some (.error fault), c')) (calls : List Call) :
    (c'.run calls).1 = calls.map Call.atEnd := by
  have hOver := c.call_isOver .next (by rw [call, h]; rfl)
  rw [call, h] at hOver
  exact hOver.answers calls

/-- A search that fails has not come to the end, and stands behind the row that it fails on. -/
theorem hasNext_fault {fault : Fault} (h : c.hasNext = (.error fault, c')) :
    c' = start c.test c'.source ∧ ∃ skipped row, c.source = skipped ++ row :: c'.source ∧
      (∀ other ∈ skipped, c.test other = .ok false) ∧ c.test row = .error fault := by
  have hLooked := c.hasNext_looked
  have hRunning : c.exhausted = false := by
    by_contra hExhausted
    rw [Bool.not_eq_false] at hExhausted
    simp only [hasNext, hExhausted, if_true] at h
    split at h <;> cases h
  rw [h] at hLooked
  cases hLooked with
  | failed hPending hSource hSkips hFails =>
      exact ⟨by rw [start, ← hPending, ← hRunning], _, _, hSource, hSkips, hFails⟩

variable {skipped rest : List α} {row : α} {fault : Fault}

theorem passing_cons_pass (h : test row = .ok true) :
    passing test (row :: rows) = row :: passing test rows :=
  List.filter_cons_of_pos (by simp [h, Except.toOption])

theorem passing_cons_skip (h : test row ≠ .ok true) :
    passing test (row :: rows) = passing test rows := by
  refine List.filter_cons_of_neg ?_
  cases hResult : test row with
  | error fault => simp [Except.toOption]
  | ok passes => simpa [Except.toOption, hResult] using h

theorem failures_cons_ok {passes : Bool} (h : test row = .ok passes) :
    failures test (row :: rows) = failures test rows :=
  List.filterMap_cons_none (by rw [h])

theorem failures_cons_error (h : test row = .error fault) :
    failures test (row :: rows) = fault :: failures test rows :=
  List.filterMap_cons_some (by rw [h])

theorem untilFault_cons_ok {passes : Bool} (h : test row = .ok passes) :
    untilFault test (row :: rows) = row :: untilFault test rows :=
  List.takeWhile_cons_of_pos (by rw [h]; rfl)

theorem untilFault_cons_error (h : test row = .error fault) :
    untilFault test (row :: rows) = [] :=
  List.takeWhile_cons_of_neg (by rw [h]; nofun)

theorem untilFault_append (hSkips : ∀ other ∈ skipped, test other = .ok false) :
    untilFault test (skipped ++ rows) = skipped ++ untilFault test rows := by
  refine List.takeWhile_append_of_pos fun other hOther => ?_
  rw [hSkips other hOther]
  rfl

theorem untilFault_of_skipped (hSkips : ∀ other ∈ rows, test other = .ok false) :
    untilFault test rows = rows := by
  refine List.takeWhile_eq_self_iff.mpr fun other hOther => ?_
  rw [hSkips other hOther]
  rfl

/-- Rows that are skipped do not count. -/
theorem passing_behind (hSkips : ∀ other ∈ skipped, test other = .ok false) :
    passing test (skipped ++ rows) = passing test rows := by
  rw [passing_append, passing_of_skipped hSkips, List.nil_append]

theorem failures_behind (hSkips : ∀ other ∈ skipped, test other = .ok false) :
    failures test (skipped ++ rows) = failures test rows := by
  rw [failures_append, failures_of_skipped hSkips, List.nil_append]

theorem skipped_iff : (∀ other ∈ rows, test other = .ok false) ↔
    passing test rows = [] ∧ failures test rows = [] := by
  constructor
  · exact fun hSkips => ⟨passing_of_skipped hSkips, failures_of_skipped hSkips⟩
  · rintro ⟨hPassing, hFailures⟩ other hOther
    have hNotPassing := List.filter_eq_nil_iff.mp hPassing other hOther
    have hNotFailing := List.filterMap_eq_nil_iff.mp hFailures other hOther
    match hResult : test other with
    | .ok false => rfl
    | .ok true => simp [hResult, Except.toOption] at hNotPassing
    | .error fault => simp [hResult] at hNotFailing

/-- To stop at the first fault loses nothing just where the rows behind a fault are all skipped. -/
theorem stopping_complete :
    passing test (untilFault test rows) = passing test rows ∧
        (failures test rows).head?.toList = failures test rows ↔
      rows.Pairwise fun row later =>
        ∀ fault, test row = .error fault → test later = .ok false := by
  induction rows with
  | nil => simp [untilFault, passing, failures]
  | cons row rows ih =>
      rw [List.pairwise_cons]
      cases hResult : test row with
      | ok passes =>
          rw [untilFault_cons_ok hResult, failures_cons_ok hResult]
          cases passes with
          | true => simpa [passing_cons_pass hResult] using ih
          | false =>
              have hSkip : test row ≠ .ok true := by simp [hResult]
              simpa [passing_cons_skip hSkip] using ih
      | error fault =>
          -- Nothing is handed out, so nothing behind this row may pass or fail.
          rw [untilFault_cons_error hResult, failures_cons_error hResult,
            passing_cons_skip (by simp [hResult])]
          constructor
          · rintro ⟨hPassing, hFailures⟩
            have hSkips := skipped_iff.mpr ⟨hPassing.symm, (List.cons.inj hFailures).2.symm⟩
            exact ⟨fun later hLater _ _ => hSkips later hLater,
              List.pairwise_of_forall_mem_list fun _ _ later hLater _ _ => hSkips later hLater⟩
          · rintro ⟨hSkips, -⟩
            obtain ⟨hPassing, hFailures⟩ :=
              skipped_iff.mp fun later hLater => hSkips later hLater fault rfl
            rw [hPassing, hFailures]
            exact ⟨rfl, rfl⟩

/-- Where the first search for a row can lead. -/
theorem start_cases (test : α → Except Fault Bool) (rows : List α) :
    (∃ skipped row rest, rows = skipped ++ row :: rest ∧
      (∀ other ∈ skipped, test other = .ok false) ∧ test row = .ok true ∧
        (start test rows).hasNext = (.ok true, ⟨test, rest, some row, false⟩)) ∨
    (∃ skipped row rest fault, rows = skipped ++ row :: rest ∧
      (∀ other ∈ skipped, test other = .ok false) ∧ test row = .error fault ∧
        (start test rows).hasNext = (.error fault, start test rest)) ∨
    (∀ other ∈ rows, test other = .ok false) ∧
      ∃ c : RowCursor α, c.IsOver ∧ (start test rows).hasNext = (.ok false, c) := by
  have hScanned := scan_scanned test rows
  simp only [hasNext, start, Option.isSome_none, Bool.false_eq_true, if_false]
  generalize scan test rows = result at hScanned
  cases hScanned with
  | found hSkips hPasses => exact .inl ⟨_, _, _, rfl, hSkips, hPasses, rfl⟩
  | failed hSkips hFails => exact .inr (.inl ⟨_, _, _, _, rfl, hSkips, hFails, rfl⟩)
  | through hSkips => exact .inr (.inr ⟨hSkips, _, ⟨rfl, rfl⟩, rfl⟩)

/-- A fault of evaluation is among those that are reported. -/
theorem evaluationFaults_cons {answer : Answer α} {answers : List (Answer α)}
    (hAnswer : answer.fault? = some fault) (hKind : fault.kind = .evaluation) :
    evaluationFaults (answer :: answers) = fault :: evaluationFaults answers := by
  rw [evaluationFaults, List.filterMap_cons_some hAnswer, List.filter_cons_of_pos (by simpa)]
  rfl

theorem length_behind {n : Nat} (h : (skipped ++ row :: rest).length < n + 1) :
    rest.length < n := by
  simp only [List.length_append, List.length_cons] at h
  omega

/-- Handing out row after row gives those that pass before the first fault, and that fault. -/
theorem run_next (hTest : ∀ row, FailsInEvaluation (test row)) {n : Nat} (hn : rows.length < n) :
    handedOut ((start test rows).run (List.replicate n .next)).1 =
        passing test (untilFault test rows) ∧
      evaluationFaults ((start test rows).run (List.replicate n .next)).1 =
        (failures test rows).head?.toList := by
  induction n generalizing rows with
  | zero => exact absurd hn (Nat.not_lt_zero _)
  | succ n ih =>
      simp only [List.replicate_succ, run, call, next]
      obtain ⟨skipped, row, rest, rfl, hSkips, hPasses, hFound⟩ |
        ⟨skipped, row, rest, fault, rfl, hSkips, hFails, hFault⟩ | ⟨hSkips, c, hOver, hThrough⟩ :=
        start_cases test rows
      · obtain ⟨hRows, hFaults⟩ := ih (length_behind hn)
        rw [hFound, untilFault_append hSkips, untilFault_cons_ok hPasses, passing_behind hSkips,
          passing_cons_pass hPasses, failures_behind hSkips, failures_cons_ok hPasses]
        exact ⟨congrArg (row :: ·) hRows, hFaults⟩
      · have hOver : IsOver { start test rest with exhausted := true } := ⟨rfl, rfl⟩
        rw [hFault, untilFault_append hSkips, untilFault_cons_error hFails, passing_behind hSkips,
          failures_behind hSkips, failures_cons_error hFails]
        simp only [hOver.answers]
        rw [evaluationFaults_cons rfl (hTest row fault hFails), evaluationFaults_atEnd]
        exact ⟨handedOut_atEnd _, rfl⟩
      · rw [hThrough, untilFault_of_skipped hSkips, passing_of_skipped hSkips,
          failures_of_skipped hSkips]
        simp only [hOver.answers]
        exact ⟨handedOut_atEnd _, evaluationFaults_atEnd _⟩

/-- Looking for row after row gives all those that pass, and all faults. -/
theorem run_alternating (hTest : ∀ row, FailsInEvaluation (test row)) {n : Nat}
    (hn : rows.length < n) :
    handedOut ((start test rows).run (alternating n)).1 = passing test rows ∧
      evaluationFaults ((start test rows).run (alternating n)).1 = failures test rows := by
  induction n generalizing rows with
  | zero => exact absurd hn (Nat.not_lt_zero _)
  | succ n ih =>
      simp only [alternating, run, call]
      obtain ⟨skipped, row, rest, rfl, hSkips, hPasses, hFound⟩ |
        ⟨skipped, row, rest, fault, rfl, hSkips, hFails, hFault⟩ | ⟨hSkips, c, hOver, hThrough⟩ :=
        start_cases test rows
      · obtain ⟨hRows, hFaults⟩ := ih (length_behind hn)
        rw [hFound, passing_behind hSkips, passing_cons_pass hPasses, failures_behind hSkips,
          failures_cons_ok hPasses]
        exact ⟨congrArg (row :: ·) hRows, hFaults⟩
      · obtain ⟨hRows, hFaults⟩ := ih (length_behind hn)
        rw [hFault, passing_behind hSkips, passing_cons_skip (by simp [hFails]),
          failures_behind hSkips, failures_cons_error hFails,
          evaluationFaults_cons rfl (hTest row fault hFails)]
        exact ⟨hRows, congrArg (fault :: ·) hFaults⟩
      · have hAnswers := hOver.answers (.nextMatched :: alternating n)
        simp only [run, call] at hAnswers
        rw [hThrough, passing_of_skipped hSkips, failures_of_skipped hSkips]
        simp only [hAnswers]
        exact ⟨handedOut_atEnd _, evaluationFaults_atEnd _⟩

theorem mem_passing : row ∈ passing test rows ↔ row ∈ rows ∧ test row = .ok true := by
  rw [passing, List.mem_filter, decide_eq_true_iff]
  cases test row <;> simp [Except.toOption]

/-- Some calls on a new cursor hand out a row just where one passes. -/
theorem start_handsOut (hTest : ∀ row, FailsInEvaluation (test row)) :
    (∃ calls, handedOut ((start test rows).run calls).1 ≠ []) ↔
      ∃ row ∈ rows, test row = .ok true := by
  constructor
  · rintro ⟨calls, hSome⟩
    obtain ⟨pulled, hAccounts⟩ := run_accounts (c := start test rows) hTest calls
    have hRows : passing test pulled = handedOut ((start test rows).run calls).1 ++
        ((start test rows).run calls).2.pending.toList :=
      hAccounts.rows
    obtain ⟨row, hRow⟩ := List.exists_mem_of_ne_nil _ hSome
    have hPassing : row ∈ passing test pulled := hRows ▸ List.mem_append_left _ hRow
    obtain ⟨hPulled, hPasses⟩ := mem_passing.mp hPassing
    refine ⟨row, ?_, hPasses⟩
    have hSource : rows = pulled ++ _ := hAccounts.source
    rw [hSource]
    exact List.mem_append_left _ hPulled
  · rintro ⟨row, hRow, hPasses⟩
    have hPassing : row ∈ passing test rows := mem_passing.mpr ⟨hRow, hPasses⟩
    refine ⟨alternating (rows.length + 1), ?_⟩
    rw [(run_alternating hTest (Nat.lt_succ_self _)).1]
    exact List.ne_nil_of_mem hPassing

end RowCursor

namespace View

open RowCursor

variable {view : View} {v : VarId}

/-- A fault ends the rows of a sequence if it comes of a call for the next row. If it comes of a
call that looks for one, the cursor is as good as new for the rows behind the one that has failed,
and hands out those that pass. So asking for row after row stops at the first fault, and looking for
row after row gives all rows and all faults; they agree just where the rows behind a fault are all
skipped. -/
theorem filterRows_drained (hFinished : view.isFinished = true)
    (hSequence : (view.schema.var v).isSequence = true) {α : Type} (read : α → Row)
    (rows : List α) :
    ∃ start, view.filterRows v read rows = .ok start ∧
      (∀ row, start.test row = view.matchRow v (read row)) ∧
      (∀ calls c, (start.run calls).2 = c →
        (∀ fault c', c.next = (some (.error fault), c') →
          ∀ further, (c'.run further).1 = further.map Call.atEnd) ∧
        ∀ fault c', c.hasNext = (.error fault, c') →
          c' = .start start.test c'.source ∧
          (∃ before row, rows = before ++ row :: c'.source ∧ start.test row = .error fault) ∧
          ((∃ further, handedOut (c'.run further).1 ≠ []) ↔
            ∃ row ∈ c'.source, start.test row = .ok true)) ∧
      ∀ n, rows.length < n →
        (handedOut (start.run (List.replicate n .next)).1 =
            passing start.test (untilFault start.test rows) ∧
          evaluationFaults (start.run (List.replicate n .next)).1 =
            (failures start.test rows).head?.toList) ∧
        (handedOut (start.run (alternating n)).1 = passing start.test rows ∧
          evaluationFaults (start.run (alternating n)).1 = failures start.test rows) ∧
        (handedOut (start.run (List.replicate n .next)).1 =
              handedOut (start.run (alternating n)).1 ∧
            evaluationFaults (start.run (List.replicate n .next)).1 =
              evaluationFaults (start.run (alternating n)).1 ↔
          rows.Pairwise fun row later =>
            ∀ fault, start.test row = .error fault → start.test later = .ok false) := by
  have hTest : ∀ row, FailsInEvaluation (view.matchRow v (read row)) :=
    fun row => matchRow_inEvaluation hFinished v (read row)
  refine ⟨.start (fun row => view.matchRow v (read row)) rows, ?_, fun _ => rfl,
    fun calls c hRun => ⟨fun fault c' hNext => next_fault hNext, fun fault c' hHasNext => ?_⟩,
    fun n hn => ?_⟩
  · rw [filterRows, whenFinished, if_pos hFinished, if_pos hSequence]
  · obtain ⟨pulled, hAccounts⟩ :=
      run_accounts (c := start (fun row => view.matchRow v (read row)) rows) hTest calls
    rw [hRun] at hAccounts
    have hKept : c.test = fun row => view.matchRow v (read row) := hAccounts.test
    have hPulled : rows = pulled ++ c.source := hAccounts.source
    obtain ⟨hFresh, skipped, row, hSource, -, hFails⟩ := hasNext_fault hHasNext
    rw [hKept] at hFresh hFails
    refine ⟨hFresh, ⟨pulled ++ skipped, row, ?_, hFails⟩, ?_⟩
    · rw [hPulled, hSource, List.append_assoc]
    · rw [hFresh]
      exact start_handsOut hTest
  · have hNext := run_next hTest hn
    have hAlternating := run_alternating hTest hn
    refine ⟨hNext, hAlternating, ?_⟩
    rw [hNext.1, hNext.2, hAlternating.1, hAlternating.2]
    exact stopping_complete

/-- The row in the middle fails. Both ways report it, and one of them hands out the row behind. -/
theorem filterRows_drained_grid : ∃ view start,
    Request.compileText {} .grid "/q|m<2" = .ok view ∧
      view.isFinished = true ∧ (view.schema.var ⟨1⟩).isSequence = true ∧
      view.filterRows ⟨1⟩ numberRow [some 0, none, some 1] = .ok start ∧
      handedOut (start.run (List.replicate 4 .next)).1 = [some 0] ∧
      handedOut (start.run (alternating 4)).1 = [some 0, some 1] ∧
      evaluationFaults (start.run (List.replicate 4 .next)).1 =
        evaluationFaults (start.run (alternating 4)).1 := by
  have hRun : ∃ view ∈ (Request.compileText {} .grid "/q|m<2").toOption,
      view.isFinished = true ∧ (view.schema.var ⟨1⟩).isSequence = true ∧
        ∃ start ∈ (view.filterRows ⟨1⟩ numberRow [some 0, none, some 1]).toOption,
          passing start.test (untilFault start.test [some 0, none, some 1]) = [some 0] ∧
          passing start.test [some 0, none, some 1] = [some 0, some 1] ∧
          (failures start.test [some 0, none, some 1]).length = 1 := by
    decide +kernel
  obtain ⟨view, hView, hFinished, hSequence, start, hStart, hUntil, hAll, hFaults⟩ := hRun
  have hStart := eq_ok_of_mem_toOption hStart
  obtain ⟨start', hStart', -, -, hDrains⟩ :=
    filterRows_drained hFinished hSequence numberRow [some 0, none, some 1]
  cases hStart.symm.trans hStart'
  obtain ⟨⟨hNext, hNextFaults⟩, ⟨hAlternating, hAlternatingFaults⟩, -⟩ := hDrains 4 (by decide)
  obtain ⟨fault, hFault⟩ := List.length_eq_one_iff.mp hFaults
  refine ⟨view, start, eq_ok_of_mem_toOption hView, hFinished, hSequence, hStart,
    hNext.trans hUntil, hAlternating.trans hAll, ?_⟩
  rw [hNextFaults, hAlternatingFaults, hFault]
  rfl

/-- The row without the number fails, and the row behind it is handed out. -/
theorem hasNext_goes_on : ∃ view start,
    Request.compileText {} .grid "/q|m<2" = .ok view ∧
      view.isFinished = true ∧ (view.schema.var ⟨1⟩).isSequence = true ∧
      view.filterRows ⟨1⟩ numberRow [none, some 1] = .ok start ∧
      (evaluationFaults [(start.call .hasNext).1]).length = 1 ∧
      handedOut ((start.call .hasNext).2.run [.hasNext, .next]).1 = [some 1] ∧
      handedOut (start.run (List.replicate 3 .next)).1 ≠
        handedOut (start.run (alternating 3)).1 := by
  have hRun : ∃ view ∈ (Request.compileText {} .grid "/q|m<2").toOption,
      view.isFinished = true ∧ (view.schema.var ⟨1⟩).isSequence = true ∧
        ∃ start ∈ (view.filterRows ⟨1⟩ numberRow [none, some 1]).toOption,
          (evaluationFaults [(start.call .hasNext).1]).length = 1 ∧
          handedOut ((start.call .hasNext).2.run [.hasNext, .next]).1 = [some 1] ∧
          handedOut (start.run (List.replicate 3 .next)).1 ≠
            handedOut (start.run (alternating 3)).1 := by
    decide +kernel
  obtain ⟨view, hView, hFinished, hSequence, start, hStart, hRest⟩ := hRun
  exact ⟨view, start, eq_ok_of_mem_toOption hView, hFinished, hSequence,
    eq_ok_of_mem_toOption hStart, hRest⟩

end View

end Hyperslab
