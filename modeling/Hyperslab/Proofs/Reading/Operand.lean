import Hyperslab.Proofs.Reading.Literal

/-! Operands are read as they are written: names as fields, whatever they look like, and strings as
strings. The rest of a text can be cut off behind the bytes that have been read, since the bytes of
names and strings end with a character. -/
namespace Hyperslab

namespace Parser

/-- The text behind its first `bytes` bytes, if these end with a character. -/
def cutAt? (text : String) (bytes : Nat) : Option String :=
  (text.pos? ⟨bytes⟩).map fun place => (text.sliceFrom place).copy

/-- Behind the bytes of a word stands what stands behind the word. -/
theorem cutAt?_word {text : String} {word rest : List Char} (h : text.toList = word ++ rest) :
    cutAt? text (String.utf8Len word) = some (.ofList rest) := by
  have hText : text = .ofList word ++ .ofList rest := by
    rw [← String.ofList_append, ← h, String.ofList_toList]
  have hEnd : String.Pos.Raw.mk (String.utf8Len word) = (String.ofList word).rawEndPos := by
    rw [← String.utf8ByteSize_ofList]
    rfl
  have hPlace : String.Pos.Raw.IsValid text ⟨String.utf8Len word⟩ :=
    String.Pos.Raw.isValid_iff_exists_append.mpr ⟨_, _, hText, hEnd⟩
  have hSome : text.pos? ⟨String.utf8Len word⟩ = some (text.pos _ hPlace) := by
    have hSlice := String.Pos.Raw.isValidForSlice_toSlice_iff.mpr hPlace
    rw [String.pos?, String.Slice.pos?,
      dif_pos (String.Pos.Raw.isValidForSlice_eq_true_iff.mpr hSlice)]
    rfl
  have hSplits : (text.pos _ hPlace).Splits (.ofList word) (.ofList rest) := ⟨hText, hEnd⟩
  rw [cutAt?, hSome, Option.map_some, String.Pos.Splits.eq_right (String.Pos.splits _) hSplits]

theorem push_append_ofList (s : String) (c : Char) (cs : List Char) :
    s.push c ++ String.ofList cs = s ++ String.ofList (c :: cs) := by
  rw [String.push_eq_append, String.append_assoc, String.ofList_cons]

theorem count_plain (bytes : Nat) (c : Char) (word : List Char) :
    bytes + c.utf8Size + String.utf8Len word = bytes + String.utf8Len (c :: word) := by
  rw [String.utf8Len_cons]
  omega

/-- A backslash is one byte. -/
theorem count_escaped (bytes : Nat) (c : Char) (word : List Char) :
    bytes + (1 + c.utf8Size) + String.utf8Len word =
      bytes + String.utf8Len ('\\' :: c :: word) := by
  have hSlash : '\\'.utf8Size = 1 := rfl
  rw [String.utf8Len_cons, String.utf8Len_cons, hSlash]
  omega

end Parser

namespace Name

open Hyperslab.Parser

/-- What has been taken of a text for a name: the name so far, how many bytes of the text it is, and
whether a backslash stands in them. -/
structure Taken where
  name : String
  bytes : Nat
  escaped : Bool

/-- Go on for as long as the name does. -/
def Taken.extend : Taken → List Char → Taken
  | taken, '\\' :: c :: text =>
    extend ⟨taken.name.push c, taken.bytes + (1 + c.utf8Size), true⟩ text
  | taken, c :: text =>
    if isPlain c then extend ⟨taken.name.push c, taken.bytes + c.utf8Size, taken.escaped⟩ text
    else taken
  | taken, [] => taken

/-- `spelled` in one pass, with the rest of the text cut off behind the bytes of the name. -/
def spelledChecked (text : String) : Option (Except Stop ((String × Bool) × List Char)) :=
  let taken := Taken.extend ⟨"", 0, false⟩ text.toList
  if taken.bytes = 0 then some (.error ⟨false, text.toList, []⟩)
  else do
    let rest ← cutAt? text taken.bytes
    return .ok ((taken.name, taken.escaped), rest.toList)

theorem Taken.extend_plain {c : Char} (h : isPlain c = true) (taken : Taken) (text : List Char) :
    taken.extend (c :: text) =
      extend ⟨taken.name.push c, taken.bytes + c.utf8Size, taken.escaped⟩ text := by
  rw [extend]
  · simp [h]
  · intro d text' hSlash _
    exact ne_slash_of_isPlain h hSlash

/-- The pass takes the name, and counts the bytes of the word that spells it. -/
theorem Taken.extend_eq (text : List Char) : ∃ word, text = word ++ (split text).2.2 ∧
    (word = [] ↔ (split text).1 = []) ∧ ∀ taken : Taken, taken.extend text =
      ⟨taken.name ++ .ofList (split text).1, taken.bytes + String.utf8Len word,
        taken.escaped || (split text).2.1⟩ := by
  induction text using split.induct with
  | case1 c text name escaped rest hSplit ih =>
      obtain ⟨word, hText, -, hTaken⟩ := ih
      rw [hSplit] at hText hTaken
      refine ⟨'\\' :: c :: word, ?_, ?_, fun taken => ?_⟩
      · simp [split, hSplit, ← hText]
      · simp [split]
      · rw [extend, hTaken, push_append_ofList, count_escaped]
        simp [split, hSplit]
  | case2 c text _ hPlain name escaped rest hSplit ih =>
      obtain ⟨word, hText, -, hTaken⟩ := ih
      refine ⟨c :: word, ?_, ?_, fun taken => ?_⟩
      · rw [split_plain hPlain, List.cons_append, ← hText]
      · simp [split_plain hPlain]
      · rw [extend_plain hPlain, hTaken, split_plain hPlain, push_append_ofList, count_plain]
  | case3 c text hSlash hPlain =>
      exact ⟨[], by simp [split, hPlain], by simp [split, hPlain],
        fun taken => by simp [extend, split, hPlain]⟩
  | case4 => exact ⟨[], rfl, Iff.rfl, fun taken => by simp [extend, split]⟩

/-- The bytes of a name end with a character, and behind them stands the rest of the text. -/
theorem spelledChecked_eq (text : String) : spelledChecked text = some (spelled text.toList) := by
  obtain ⟨word, hText, hNone, hTaken⟩ := Taken.extend_eq text.toList
  have hCut := cutAt?_word hText
  cases hSplit : split text.toList with
  | mk name more =>
      obtain ⟨escaped, rest⟩ := more
      rw [hSplit] at hNone hTaken hCut
      cases name with
      | nil =>
          have hWord : word = [] := hNone.mpr rfl
          simp [spelledChecked, spelled, hSplit, hTaken, hWord]
      | cons c name =>
          have hWord : word ≠ [] := by
            rw [ne_eq, hNone]
            exact List.cons_ne_nil c name
          simp [spelledChecked, spelled, hSplit, hTaken, hWord, hCut]

end Name

namespace Value

open Hyperslab.Parser

/-- Go on up to the quote that ends a string. `s` is the string so far, and `bytes` is how many
bytes it took. The quote at the end counts as well. -/
def unquoteFrom (s : String) (bytes : Nat) : List Char → Option (String × Nat)
  | '"' :: _ => some (s, bytes + 1)
  | '\\' :: c :: text =>
    let meant := if c = 'n' then '\n' else if c = 't' then '\t' else c
    unquoteFrom (s.push meant) (bytes + (1 + c.utf8Size)) text
  | '\\' :: [] => none
  | c :: text => unquoteFrom (s.push c) (bytes + c.utf8Size) text
  | [] => none

/-- `stringParser` in one pass, with the rest of the text cut off behind the bytes of the string. -/
def stringChecked (text : String) : Option (Except Stop (String × List Char)) :=
  match Parser.char '"' text.toList with
  | .error stop => some (.error stop)
  | .ok (_, inner) =>
    match unquoteFrom "" 0 inner with
    | none => some (.error ⟨true, text.toList, [.closingQuote]⟩)
    | some (s, bytes) => do
      let rest ← cutAt? (.ofList inner) bytes
      return .ok (s, rest.toList)

theorem unquoteFrom_plain {c : Char} (hQuote : c ≠ '"') (hSlash : c ≠ '\\') (s : String)
    (bytes : Nat) (text : List Char) : unquoteFrom s bytes (c :: text) =
      unquoteFrom (s.push c) (bytes + c.utf8Size) text := by
  rw [unquoteFrom]
  · exact hQuote
  · intro d rest hEq _
    exact hSlash hEq
  · intro hEq _
    exact hSlash hEq

/-- The pass over `text` finds what `unquote` finds, and counts the bytes of `word`, which stands in
front of the rest. -/
structure Counts (word text : List Char) : Prop where
  split : ∀ s rest, unquote text = some (s, rest) → text = word ++ rest
  found : ∀ s bytes, unquoteFrom s bytes text =
    (unquote text).map fun (more, _) => (s ++ .ofList more, bytes + String.utf8Len word)

/-- Where `mark` stands for the character `c`, it adds its bytes to the count. -/
theorem Counts.step {word text mark : List Char} {c : Char} {size : Nat} (h : Counts word text)
    (hUnquote : unquote (mark ++ text) = (unquote text).map fun (s, rest) => (c :: s, rest))
    (hFrom : ∀ s bytes, unquoteFrom s bytes (mark ++ text) =
      unquoteFrom (s.push c) (bytes + size) text)
    (hSize : ∀ bytes, bytes + size + String.utf8Len word = bytes + String.utf8Len (mark ++ word)) :
    Counts (mark ++ word) (mark ++ text) := by
  constructor
  · intro s rest hSome
    rw [hUnquote, Option.map_eq_some_iff] at hSome
    obtain ⟨⟨s', rest'⟩, hInner, hEq⟩ := hSome
    cases hEq
    rw [h.split s' rest hInner, List.append_assoc]
  · intro s bytes
    rw [hFrom, h.found, hUnquote, Option.map_map]
    simp only [Function.comp_def, push_append_ofList, hSize]

/-- The pass finds the string, and counts the bytes of the word that spells it. -/
theorem exists_counts (text : List Char) : ∃ word, Counts word text := by
  induction text using unquote.induct with
  | case1 rest =>
      have hQuote : '"'.utf8Size = 1 := rfl
      exact ⟨['"'], by simp [unquote], fun s bytes => by simp [unquote, unquoteFrom, hQuote]⟩
  | case2 c text ih =>
      obtain ⟨word, hWord⟩ := ih
      have hStep : Counts (['\\', c] ++ word) (['\\', c] ++ text) :=
        hWord.step rfl (fun _ _ => rfl) fun bytes => count_escaped bytes c word
      exact ⟨_, hStep⟩
  | case4 c text hQuote hEscape hLast ih =>
      obtain ⟨word, hWord⟩ := ih
      have hSlash : c ≠ '\\' := ne_slash_of_unescaped hEscape hLast
      have hStep : Counts ([c] ++ word) ([c] ++ text) :=
        hWord.step (unquote_plain hQuote hSlash text)
          (fun s bytes => unquoteFrom_plain hQuote hSlash s bytes text)
          fun bytes => count_plain bytes c word
      exact ⟨_, hStep⟩
  | case3 | case5 => exact ⟨[], by simp [unquote], fun s bytes => rfl⟩

/-- The bytes of a string end with a character, and behind them stands the rest of the text. -/
theorem stringChecked_eq (text : String) :
    stringChecked text = some (stringParser text.toList) := by
  cases hChar : Parser.char '"' text.toList with
  | error stop =>
      have hStop : stringParser text.toList = .error stop :=
        (bind_ok rfl).trans (bind_error hChar)
      rw [stringChecked, hChar, hStop]
  | ok done =>
      obtain ⟨c, inner⟩ := done
      have hParser : stringParser text.toList = _ :=
        (bind_ok rfl).trans ((bind_ok hChar).trans (bind_ok rfl))
      obtain ⟨word, hWord⟩ := exists_counts inner
      rw [stringChecked, hChar, hParser]
      cases hInner : unquote inner with
      | none =>
          simp only [hWord.found, hInner, Option.map_none]
          rfl
      | some found =>
          obtain ⟨s, rest⟩ := found
          have hText : (String.ofList inner).toList = word ++ rest := by
            rw [String.toList_ofList, hWord.split s rest hInner]
          simp only [hWord.found, hInner, Option.map_some, Nat.zero_add, cutAt?_word hText,
            String.empty_append]
          show some (Except.ok (String.ofList s, (String.ofList rest).toList)) = _
          rw [String.toList_ofList]
          rfl

end Value

namespace Expr

open Hyperslab.Parser

/-- Where a name ends, a written name is read as the name, and as the field of that name where an
operand is looked for, whatever the name looks like. A written string is read as the string,
whatever stands behind it. In any text, cutting off the bytes of a name or of a string leaves the
same rest, and never a part of a character. -/
theorem operand_reread :
    (∀ name rest : String, name ≠ "" →
      (∀ c ∈ rest.toList.head?, Name.isPlain c = false ∧ c ≠ '\\') →
        Name.spelled (Name.written name ++ rest).toList =
            .ok ((name, Name.looksLiteral name.toList || name.toList.any (!Name.isPlain ·)),
              rest.toList) ∧
          operandParser (Name.written name ++ rest).toList = .ok (.field name, rest.toList)) ∧
    (∀ s rest : String,
      Value.stringParser ((Value.str s).literal ++ rest).toList = .ok (s, rest.toList) ∧
        operandParser ((Value.str s).literal ++ rest).toList =
          .ok (.constant (.str s), rest.toList)) ∧
    ∀ text : String, Name.spelledChecked text = some (Name.spelled text.toList) ∧
      Value.stringChecked text = some (Value.stringParser text.toList) := by
  refine ⟨fun name rest hName hRest => ?_, fun s rest => ?_, fun text => ?_⟩
  · have hText : (Name.written name ++ rest).toList = Name.escape name.toList ++ rest.toList := by
      rw [String.toList_append, Name.written, String.toList_ofList]
    rw [hText]
    exact ⟨(Name.reads_spelled hName hRest).eq, (reads_field hName hRest).eq⟩
  · have hText : ((Value.str s).literal ++ rest).toList = Value.quoted s.toList ++ rest.toList := by
      rw [String.toList_append, Value.literal, String.toList_ofList, Value.chars]
    rw [hText]
    have hString : Reads True Value.stringParser (Value.quoted s.toList ++ rest.toList) s _ :=
      Value.reads_string s
    have hOperand : Reads True operandParser _ (.constant (.str s)) _ :=
      Reads.either (hString.bind (reads_pure _))
    exact ⟨hString.eq, hOperand.eq⟩
  · exact ⟨Name.spelledChecked_eq text, Value.stringChecked_eq text⟩

/-- A name that begins like a number, with a blank and a quote in it. -/
theorem operand_reread_numeric : "-1e3 \"" ≠ "" ∧
    (∀ c ∈ "<3".toList.head?, Name.isPlain c = false ∧ c ≠ '\\') ∧
      Name.written "-1e3 \"" = "\\-1e3\\ \\\"" ∧
        Name.spelled "\\-1e3\\ \\\"<3".toList = .ok (("-1e3 \"", true), "<3".toList) ∧
          operandParser "\\-1e3\\ \\\"<3".toList = .ok (.field "-1e3 \"", "<3".toList) := by
  have hEnd : ∀ c ∈ "<3".toList.head?, Name.isPlain c = false ∧ c ≠ '\\' := by
    have hHead : "<3".toList.head? = some '<' := by decide
    rw [hHead]
    rintro c ⟨⟩
    decide
  have hWritten : Name.written "-1e3 \"" = "\\-1e3\\ \\\"" := by decide
  obtain ⟨hSpelled, hOperand⟩ := operand_reread.1 "-1e3 \"" "<3" (by decide) hEnd
  rw [hWritten] at hSpelled hOperand
  exact ⟨by decide, hEnd, hWritten, hSpelled, hOperand⟩

end Expr

end Hyperslab
