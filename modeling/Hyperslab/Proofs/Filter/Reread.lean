import Hyperslab.Proofs.Filter.Text
import Hyperslab.Proofs.Schema

/-! The text of a filter is read as a filter of the same meaning: grouping conjunctions from the
left neither changes a result nor which fault comes first. -/
namespace Hyperslab

open Grammar

namespace Filter

variable (schema : Schema) (row : Row) (a b c : Filter)

theorem evaluate_conj : (conj a b).evaluate schema row = (do
    let left ← a.accepts schema row
    let right ← b.accepts schema row
    return .bool (left && right)) := by
  simp only [conj, evaluate, accepts, bind_assoc]

theorem accepts_conj : (conj a b).accepts schema row = (do
    let left ← a.accepts schema row
    let right ← b.accepts schema row
    return left && right) := by
  rw [accepts, evaluate_conj]
  cases a.accepts schema row with
  | error fault => rfl
  | ok left =>
      cases b.accepts schema row with
      | error fault => rfl
      | ok right => rfl

/-- Grouping conjunctions in another way keeps results and faults. -/
theorem evaluate_conj_assoc :
    (conj (conj a b) c).evaluate schema row = (conj a (conj b c)).evaluate schema row := by
  simp only [evaluate_conj, accepts_conj]
  cases a.accepts schema row with
  | error fault => rfl
  | ok left =>
      cases b.accepts schema row with
      | error fault => rfl
      | ok middle =>
          cases c.accepts schema row with
          | error fault => rfl
          | ok right => simp [bind, Except.bind, pure, Except.pure, Bool.and_assoc]

theorem evaluate_neg : (neg a).evaluate schema row = (do
    let value ← a.accepts schema row
    return .bool (!value)) := by
  simp only [neg, evaluate, accepts, bind_assoc]

end Filter

namespace Expr

open Hyperslab.Parser

/-- A text that writes a filter and nothing else is read as it. -/
theorem parse_filterText {literal : Value → List Char → Prop} {e : Expr} {input : List Char}
    (h : FilterText literal e input []) (hLegible : Legible True literal e.constants) :
    parse (.ofList input) = .ok e := by
  have hRead : Reads True (token filterParser) input e [] := by
    unfold Reads
    rw [token_eq, (h.solid hLegible).dropWhile]
    exact (reads_filter h hLegible ends_nil).bind (reads_skipBlanks.bind (reads_pure e))
  simp only [parse, run, String.toList_ofList, hRead.eq]

/-- How many levels of a limit the expression takes. -/
def depth : Expr → Nat
  | constant _ | field _ => 1
  | compare _ a b | conj a b => max a.depth b.depth + 1
  | neg a => a.depth + 1

variable {schema : Schema} {limits : Limits} {sequence : VarId}

/-- Unless it is too deep, the expression is bound to a filter that agrees with `filter` in every
row. -/
def Means (schema : Schema) (limits : Limits) (sequence : VarId) (e : Expr) (filter : Filter) :
    Prop :=
  ∃ bound, (∀ depth level, e.depth + level ≤ depth + 1 →
      e.compile schema { limits with filterDepth := depth } sequence level = .ok bound) ∧
    ∀ row, bound.evaluate schema row = filter.evaluate schema row

theorem accepts_congr {f g : Filter} {row : Row}
    (h : f.evaluate schema row = g.evaluate schema row) :
    f.accepts schema row = g.accepts schema row := by
  rw [Filter.accepts, h, Filter.accepts]

theorem Means.conj {a b : Expr} {f g : Filter} (ha : a.Means schema limits sequence f)
    (hb : b.Means schema limits sequence g) :
    (Expr.conj a b).Means schema limits sequence (.conj f g) := by
  obtain ⟨left, hLeft, hLeftRow⟩ := ha
  obtain ⟨right, hRight, hRightRow⟩ := hb
  refine ⟨.conj left right, ?_, ?_⟩
  · intro depth level hDepth
    simp only [Expr.depth] at hDepth
    have hLevel : level ≤ depth := by omega
    exact compile_conj.mpr
      ⟨hLevel, left, right, hLeft depth _ (by omega), hRight depth _ (by omega), rfl⟩
  · intro row
    rw [Filter.evaluate_conj, Filter.evaluate_conj, accepts_congr (hLeftRow row),
      accepts_congr (hRightRow row)]

theorem Means.neg {a : Expr} {f : Filter} (ha : a.Means schema limits sequence f) :
    (Expr.neg a).Means schema limits sequence (.neg f) := by
  obtain ⟨inner, hInner, hRow⟩ := ha
  refine ⟨.neg inner, ?_, ?_⟩
  · intro depth level hDepth
    simp only [Expr.depth] at hDepth
    have hLevel : level ≤ depth := by omega
    exact compile_neg.mpr ⟨hLevel, inner, hInner depth _ (by omega), rfl⟩
  · intro row
    rw [Filter.evaluate_neg, Filter.evaluate_neg, accepts_congr (hRow row)]

theorem Means.assoc {e : Expr} {f g h : Filter}
    (he : e.Means schema limits sequence (.conj (.conj f g) h)) :
    e.Means schema limits sequence (.conj f (.conj g h)) := by
  obtain ⟨bound, hBound, hRow⟩ := he
  exact ⟨bound, hBound, fun row => (hRow row).trans (Filter.evaluate_conj_assoc schema row f g h)⟩

theorem means_regrouping : Filter.Regrouping (Means schema limits sequence) :=
  ⟨fun _ => Means.conj, Means.neg, Means.assoc⟩

end Expr

namespace Filter

variable {schema : Schema} {limits : Limits} {sequence : VarId}

/-- Constants are written in their literal form, and read back. -/
def readable (v : Value) (word : List Char) : Prop := word = v.chars ∧ v.ReadsBack

theorem IsOperand.text {f : Filter} (h : f.IsOperand schema sequence) :
    ∃ e : Expr, e.depth = 1 ∧ (∀ limits level, level ≤ limits.filterDepth →
        e.compile schema limits sequence level = .ok f) ∧
      ∀ rest, OperandText readable e (f.chars ++ rest) rest := by
  cases h with
  | constant v hFinite =>
      refine ⟨.constant v, rfl, ?_, ?_⟩
      · intro limits level hLevel
        rw [Expr.compile, if_neg (by omega)]
      · intro rest
        rw [chars]
        exact .constant ⟨rfl, hFinite.readsBack⟩ (Lexeme.tight _ rest)
  | field v name hName hBound =>
      refine ⟨.field name, rfl, ?_, ?_⟩
      · intro limits level hLevel
        rw [Expr.compile, if_neg (by omega)]
        exact hBound
      · intro rest
        rw [chars]
        exact .field hName (Lexeme.tight _ rest)

/-- The text of a comparison is a comparison of operands that are bound to its own. -/
theorem compare_operands {op : Operator} {lhs rhs : Filter} {regex : Option Pattern.Regex}
    (h : (compare op lhs rhs regex).Bound schema limits sequence) :
    ∃ a b : Expr, a.depth = 1 ∧ b.depth = 1 ∧
      (∀ limits level, level ≤ limits.filterDepth →
        a.compile schema limits sequence level = .ok lhs ∧
          b.compile schema limits sequence level = .ok rhs) ∧
      oriented limits op lhs rhs = .ok (compare op lhs rhs regex) ∧
        ∀ rest, ConjunctText readable (.compare op a b)
          ((compare op lhs rhs regex).chars ++ rest) rest := by
  cases h with
  | compare hl hr hOriented =>
      obtain ⟨a, hDepth, hCompile, hText⟩ := hl.text
      obtain ⟨b, hDepth', hCompile', hText'⟩ := hr.text
      refine ⟨a, b, hDepth, hDepth', fun limits level hLevel =>
        ⟨hCompile limits level hLevel, hCompile' limits level hLevel⟩, hOriented, ?_⟩
      intro rest
      rw [chars, List.append_assoc, List.append_assoc]
      exact .compare (hText _) (Lexeme.tight _ _) (hText' rest)

theorem compare_text {f : Filter} (h : f.Bound schema limits sequence)
    (hComparison : f.isComparison = true) :
    ∃ e : Expr, e.Means schema limits sequence f ∧
      ∀ rest, ConjunctText readable e (f.chars ++ rest) rest := by
  cases f with
  | compare op lhs rhs regex =>
      obtain ⟨a, b, hDepth, hDepth', hCompile, hOriented, hText⟩ := compare_operands h
      refine ⟨.compare op a b, ⟨_, ?_, fun _ => rfl⟩, hText⟩
      intro depth level hLevel
      simp only [Expr.depth, hDepth, hDepth'] at hLevel
      have hOperands : level + 1 ≤ depth := by omega
      obtain ⟨hLeft, hRight⟩ := hCompile { limits with filterDepth := depth } (level + 1) hOperands
      exact Expr.compile_compare.mpr
        ⟨Nat.le_of_succ_le hOperands, lhs, rhs, hLeft, hRight, hOriented⟩
  | constant | field | joined => cases hComparison

theorem readable_legible {strict : Prop} (vs : List Value) : Legible strict readable vs := by
  rintro v _ word ⟨rfl, hBack⟩
  exact Value.literalText_chars hBack

/-- The text of a filter of a sequence is read as an expression of the same meaning. -/
theorem Bound.parse_text {f : Filter} (h : f.Bound schema limits sequence) :
    ∃ e, Expr.parse f.text = .ok e ∧ e.Means schema limits sequence f := by
  obtain ⟨e, hMeans, hText⟩ := (h.rereads Expr.means_regrouping compare_text).alone
  refine ⟨e, Expr.parse_filterText ?_ (readable_legible _), hMeans⟩
  simpa using hText []

/-- What the text of a filter of a sequence is read as agrees with the filter. -/
theorem Bound.agrees {Agrees : Expr → Filter → Prop} (hAgrees : Regrouping Agrees)
    (hCompare : ∀ {f : Filter}, f.Bound schema limits sequence → f.isComparison = true →
      ∃ e, Agrees e f ∧ ∀ rest, ConjunctText readable e (f.chars ++ rest) rest)
    {f : Filter} (h : f.Bound schema limits sequence) {e : Expr}
    (hText : ∀ rest, FilterText readable e (f.chars ++ rest) rest) : Agrees e f := by
  obtain ⟨e', hAgrees', hText'⟩ := (h.rereads hAgrees hCompare).alone
  have hParse := Expr.parse_filterText (hText []) (readable_legible _)
  have hParse' := Expr.parse_filterText (hText' []) (readable_legible _)
  obtain rfl : e = e' := Except.ok.inj (hParse.symm.trans hParse')
  exact hAgrees'

end Filter

/-- Each filter of an accepted request has a text that is read and bound again, and then gives the
same result in each row, be it a truth value or a fault. -/
theorem Request.filter_reread {limits : Limits} {schema : Schema} {text : String} {view : View}
    {segment : Segment} {filter : Filter} (h : compileText limits schema text = .ok view)
    (hSegment : segment ∈ view.segments) (hFilter : segment.filter = some filter) :
    ∃ e, Expr.parse filter.text = .ok e ∧ ∃ again,
      (∀ depth, e.depth ≤ depth →
        e.compile schema { limits with filterDepth := depth } segment.var 1 = .ok again) ∧
      ∀ row, again.evaluate schema row = filter.evaluate schema row := by
  obtain ⟨request, _, hWritable, hFinite, hCompile⟩ := compileText_ok h
  have hBound := (compile_filtersBound hWritable hFinite hCompile).2 segment hSegment filter hFilter
  obtain ⟨e, hParse, again, hAgain, hRow⟩ := hBound.parse_text
  exact ⟨e, hParse, again, fun depth hDepth => hAgain depth 1 (by omega), hRow⟩

/-- The two filters of the sequence are joined, and written without their parentheses. -/
def Request.filterSample : String :=
  "q|1<n;/q\x7bm,n\x7d | (m < 2.50, !( n==3,\"a,b\"!=true))"

theorem Request.filter_reread_sample : ∃ view segment filter,
    compileText {} .sample filterSample = .ok view ∧ segment ∈ view.segments ∧
      segment.filter = some filter ∧ filter.text = "n>1,m<2.5,!(n==3,\"a,b\"!=true)" ∧
        ∃ e, Expr.parse filter.text = .ok e ∧ ∃ again,
          (∀ depth, e.depth ≤ depth → e.compile .sample { filterDepth := depth } segment.var 1 =
            .ok again) ∧
          ∀ row, again.evaluate .sample row = filter.evaluate .sample row := by
  have hRun : ∃ view ∈ (compileText {} .sample filterSample).toOption,
      ∃ segment ∈ view.segments, ∃ filter ∈ segment.filter,
        filter.text = "n>1,m<2.5,!(n==3,\"a,b\"!=true)" := by
    decide +kernel
  obtain ⟨view, hView, segment, hSegment, filter, hFilter, hText⟩ := hRun
  have hCompile := eq_ok_of_mem_toOption hView
  exact ⟨view, segment, filter, hCompile, hSegment, hFilter, hText,
    filter_reread hCompile hSegment hFilter⟩

end Hyperslab
