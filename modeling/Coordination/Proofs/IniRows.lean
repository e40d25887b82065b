/-
Coordination.Proofs.IniRows — documents that are written row by row.

A row is a section, a comment, a key with a plain value, or nothing. Reading
goes from the start of one row to the start of the next one, and of each row
it keeps the item that was written there (`items_rows`). The number of items
is bounded by the length of the text; every row takes at least its line end
off it, so the bound is never reached.

The value of the last row may be anything. It is read like every other
value, and whatever follows it comes after the items of the rows
(`parse?_rows`).

  §1 Rows       — `Row`, what is read from it.
  §2 Steps      — `step_header`, `step_comment`, `step_key`.
  §3 Documents  — `items_rows`, `parse?_rows`.
-/
import Coordination.Proofs.IniValues

namespace Coordination.Config.Ini

open Text (isBlank trim trimStart trimEnd)

/-! ## §1 Rows -/

/-- Characters of which names of sections and keys are made. -/
def isWord (c : Char) : Bool := ('a' ≤ c && c ≤ 'z') || c = '_'

/-- A name that is read as it is written. -/
def Word (name : List Char) : Prop := name ≠ [] ∧ ∀ c ∈ name, isWord c = true

theorem word_iff {name : List Char} : Word name ↔ name ≠ [] ∧ name.all isWord = true := by
  rw [List.all_eq_true, Word]

instance (name : List Char) : Decidable (Word name) := decidable_of_iff _ word_iff.symm

/-- A line as it is written. -/
inductive Row where
  | header (name : String)
  | comment (text : String)
  | entry (key value : String)
  | blank

namespace Row

def text : Row → String
  | header name => "[" ++ name ++ "]"
  | comment text => "; " ++ text
  | entry key value => key ++ " = " ++ value
  | blank => ""

theorem toList_header (name : String) :
    (header name).text.toList = '[' :: (name.toList ++ [']']) := by
  simp [text]

theorem toList_comment (text : String) :
    (comment text).text.toList = ';' :: ' ' :: text.toList := by
  simp [Row.text]

theorem toList_entry (key value : String) :
    (entry key value).text.toList = key.toList ++ ' ' :: '=' :: ' ' :: value.toList := by
  simp [text]

/-- What is read from a row. -/
def item? : Row → Option Item
  | header name => some (.header name)
  | entry key value => some (.entry key value)
  | comment _ | blank => none

/-- Whether the item is what was written. -/
def Readable : Row → Prop
  | header name => Word name.toList
  | comment text => '\n' ∉ text.toList
  | entry key value => Word key.toList ∧ Plain value.toList
  | blank => True

instance (row : Row) : Decidable row.Readable :=
  match row with
  | header name => inferInstanceAs (Decidable (Word name.toList))
  | comment text => inferInstanceAs (Decidable ('\n' ∉ text.toList))
  | entry key value => inferInstanceAs (Decidable (Word key.toList ∧ Plain value.toList))
  | blank => inferInstanceAs (Decidable True)

end Row

/-- The rows as a text. -/
def document (rows : List Row) : List Char := rows.flatMap fun row => row.text.toList ++ ['\n']

theorem document_cons (row : Row) (rows : List Row) (tail : List Char) :
    document (row :: rows) ++ tail = row.text.toList ++ '\n' :: (document rows ++ tail) := by
  simp [document]

/-! ## §2 Steps -/

variable {rest : List Char}

theorem isBlank_of_isIndent {c : Char} (h : isIndent c = true) : isBlank c = true := by
  rcases Bool.or_eq_true_iff.1 h with same | same <;>
  · rw [of_decide_eq_true same]
    decide

theorem toNat_of_isWord {c : Char} (h : isWord c = true) :
    (97 ≤ c.toNat ∧ c.toNat ≤ 122) ∨ c = '_' := by
  simp only [isWord, Bool.or_eq_true, Bool.and_eq_true, decide_eq_true_eq, Char.le_def] at h
  rcases h with range | line
  · exact .inl range
  · exact .inr line

theorem not_isBlank_of_isWord {c : Char} (h : isWord c = true) : ¬isBlank c = true := by
  rcases toNat_of_isWord h with range | rfl
  · simp only [isBlank, Bool.or_eq_true, Bool.and_eq_true, decide_eq_true_eq, beq_iff_eq]
    omega
  · decide

/-- Characters with a meaning of their own. -/
def marks : List Char := lineEnds ++ (keyEnds ++ [']', '[', ';', '#', '\\', ' ', '\t'])

theorem not_mem_marks_of_isWord {c : Char} (h : isWord c = true) : c ∉ marks := by
  intro there
  have apart := List.all_eq_true.1 (by decide : marks.all (!isWord ·) = true) c there
  simp [h] at apart

theorem mem_marks_of_mem_lineEnds {c : Char} (h : c ∈ lineEnds) : c ∈ marks :=
  List.mem_append_left _ h

theorem mem_marks_of_mem_keyEnds {c : Char} (h : c ∈ keyEnds) : c ∈ marks :=
  List.mem_append_right lineEnds (List.mem_append_left _ h)

/-- Whether the next line is not indented. -/
def Flush (rest : List Char) : Prop := ∀ c ∈ rest.head?, ¬isIndent c = true

/-- From the end of a line reading goes on at the next one. -/
theorem skip_newline (lineStart : Bool) (h : Flush rest) :
    skip lineStart ('\n' :: rest) = skip true rest := by
  have flush : ¬(rest.head?.any isIndent) = true := by
    cases hc : rest.head? with
    | none => decide
    | some c => exact h c hc
  rw [skip, if_pos (by decide), if_neg flush]
  rfl

theorem skip_solid {c : Char} (h : ¬isBlank c = true) :
    skip true (c :: rest) = ⟨c :: rest, true⟩ := by
  have apart : ¬lineEnds.contains c = true := fun there =>
    h (isBlank_of_mem_lineEnds (List.contains_iff_mem.1 there))
  rw [skip, if_neg apart, if_neg h]

theorem Word.trim {name : List Char} (h : Word name) : Text.trim name = name :=
  trim_of_solid fun c hc => not_isBlank_of_isWord (h.2 c hc)

/-- The blank before the equals sign does not belong to a key. -/
theorem Word.trim_append_blank {name : List Char} (h : Word name) :
    Text.trim (name ++ [' ']) = name := by
  obtain ⟨c, more, rfl⟩ := List.exists_cons_of_ne_nil h.1
  have front : trimStart (c :: more ++ [' ']) = c :: more ++ [' '] :=
    List.dropWhile_cons_of_neg (not_isBlank_of_isWord (h.2 c List.mem_cons_self))
  have solid := trimEnd_of_solid fun d hd => not_isBlank_of_isWord (h.2 d hd)
  rw [Text.trim, front, trimEnd, List.reverse_append, List.reverse_singleton,
    List.singleton_append, List.dropWhile_cons_of_pos (by decide)]
  exact solid

theorem step_header {name : List Char} (h : Word name) (next : Flush rest) :
    step ⟨'[' :: (name ++ ']' :: '\n' :: rest), true⟩ =
      .item (.header (String.ofList name)) (skip true rest) := by
  have plain : ∀ c ∈ name, c ∉ [']'] ∧ c ≠ '\\' := fun c hc =>
    ⟨fun there => not_mem_marks_of_isWord (h.2 c hc) (List.mem_singleton.1 there ▸ by decide),
      fun there => not_mem_marks_of_isWord (h.2 c hc) (there ▸ by decide)⟩
  have scanned := scan_plain plain (List.mem_singleton_self ']') ('\n' :: rest)
  rw [step]
  simp only [if_neg (show ¬('[' = ';' ∨ '[' = '#') by decide), if_true, scanned, h.trim,
    skip_newline false next]

theorem step_comment {text : List Char} (h : '\n' ∉ text) :
    step ⟨';' :: (text ++ '\n' :: rest), true⟩ = .nothing (skip true rest) := by
  have line : (text ++ '\n' :: rest).dropWhile (· ≠ '\n') = '\n' :: rest := by
    induction text with
    | nil => rfl
    | cons c text ih =>
      obtain ⟨first, others⟩ := not_or.1 (mt List.mem_cons.2 h)
      rw [List.cons_append, List.dropWhile_cons_of_pos (by simpa using Ne.symm first), ih others]
  rw [step]
  simp only [true_or, if_true, line, List.drop_one, List.tail_cons]

/-- A key ends at the equals sign. -/
theorem keyed_word {key : List Char} (h : Word key) (tail : List Char) :
    keyed (key ++ ' ' :: '=' :: tail) = .ok (entry (key ++ [' ']) tail) := by
  have plain : ∀ c ∈ key ++ [' '], c ∉ keyEnds ∧ c ≠ '\\' := by
    intro c hc
    rcases List.mem_append.1 hc with inside | last
    · have apart := not_mem_marks_of_isWord (h.2 c inside)
      exact ⟨mt mem_marks_of_mem_keyEnds apart, fun slash => apart (slash ▸ by decide)⟩
    · rw [List.mem_singleton.1 last]
      decide
  have pasted : key ++ ' ' :: '=' :: tail = key ++ [' '] ++ '=' :: tail := by simp
  rw [keyed, pasted, scan_plain plain (by decide : '=' ∈ keyEnds) tail]

/-- Up to its value, a key is read as it is written. -/
theorem step_key {key : List Char} (h : Word key) (tail : List Char) :
    step ⟨key ++ ' ' :: '=' :: tail, true⟩ = entry (key ++ [' ']) tail := by
  have read := keyed_word h tail
  obtain ⟨c, more, rfl⟩ := List.exists_cons_of_ne_nil h.1
  have word := h.2 c List.mem_cons_self
  have apart := not_mem_marks_of_isWord word
  have comment : ¬(c = ';' ∨ c = '#') := by
    rintro (rfl | rfl) <;> exact apart (by decide)
  have bracket : c ≠ '[' := fun same => apart (same ▸ by decide)
  have line : ¬lineEnds.contains c = true := fun there =>
    apart (mem_marks_of_mem_lineEnds (List.contains_iff_mem.1 there))
  have indent : ¬isIndent c = true := mt isBlank_of_isIndent (not_isBlank_of_isWord word)
  rw [List.cons_append] at read ⊢
  rw [step]
  simp only [if_neg comment, if_neg bracket, if_neg line, if_neg indent, read]

theorem entry_of_value {key : List Char} (h : Word key) {tail text after : List Char}
    (read : value tail = .ok (text, after)) :
    entry (key ++ [' ']) tail =
      .item (.entry (String.ofList key) (String.ofList text)) (skip false after) := by
  obtain ⟨c, more, rfl⟩ := List.exists_cons_of_ne_nil h.1
  rw [entry, h.trim_append_blank, read]

theorem entry_of_error {key : List Char} (h : Word key) {tail : List Char} {position : Position}
    (read : value tail = .error position) : entry (key ++ [' ']) tail = .malformed := by
  obtain ⟨c, more, rfl⟩ := List.exists_cons_of_ne_nil h.1
  rw [entry, h.trim_append_blank, read]

/-! ## §3 Documents -/

theorem Word.flush {name : List Char} (h : Word name) (rest : List Char) :
    Flush (name ++ rest) := by
  obtain ⟨c, more, rfl⟩ := List.exists_cons_of_ne_nil h.1
  rintro _ ⟨⟩
  exact mt isBlank_of_isIndent (not_isBlank_of_isWord (h.2 c List.mem_cons_self))

/-- No row is indented. -/
theorem flush_row {row : Row} (h : row.Readable) (rest : List Char) :
    Flush (row.text.toList ++ '\n' :: rest) := by
  cases row with
  | header name =>
    rw [Row.toList_header]
    rintro _ ⟨⟩
    decide
  | comment text =>
    rw [Row.toList_comment]
    rintro _ ⟨⟩
    decide
  | entry key value =>
    rw [Row.toList_entry, List.append_assoc]
    exact h.1.flush _
  | blank =>
    rintro _ ⟨⟩
    decide

theorem flush_document {rows : List Row} (h : ∀ row ∈ rows, row.Readable) {tail : List Char}
    (next : Flush tail) : Flush (document rows ++ tail) := by
  cases rows with
  | nil => exact next
  | cons row rows =>
    rw [document_cons]
    exact flush_row (h row List.mem_cons_self) _

/-- Reading a row takes at most one item off the bound, and gives what was written there. -/
theorem items_row {row : Row} (h : row.Readable) (next : Flush rest) (limit : Nat) :
    ∃ more, limit ≤ more ∧
      items (limit + 1) (skip true (row.text.toList ++ '\n' :: rest)) =
        (items more (skip true rest)).map (row.item?.toList ++ ·) := by
  cases row with
  | header name =>
    refine ⟨limit, Nat.le_refl _, ?_⟩
    rw [Row.toList_header, List.cons_append, List.append_assoc, List.singleton_append,
      skip_solid (by decide), items, step_header h next, String.ofList_toList]
    rfl
  | comment text =>
    refine ⟨limit, Nat.le_refl _, ?_⟩
    have line : '\n' ∉ ' ' :: text.toList := fun there =>
      h ((List.mem_cons.1 there).resolve_left (by decide))
    rw [Row.toList_comment, List.cons_append, skip_solid (by decide), items, step_comment line]
    exact Option.map_id'.symm
  | entry key value =>
    refine ⟨limit, Nat.le_refl _, ?_⟩
    have start : skip true (key.toList ++ ' ' :: '=' :: ' ' :: (value.toList ++ '\n' :: rest)) =
        ⟨key.toList ++ ' ' :: '=' :: ' ' :: (value.toList ++ '\n' :: rest), true⟩ := by
      obtain ⟨c, more, hc⟩ := List.exists_cons_of_ne_nil h.1.1
      rw [hc]
      exact skip_solid (not_isBlank_of_isWord (h.1.2 c (hc ▸ List.mem_cons_self)))
    rw [Row.toList_entry, List.append_assoc, List.cons_append, List.cons_append, List.cons_append,
      start, items, step_key h.1, entry_of_value h.1 (value_written h.2 rest),
      String.ofList_toList, String.ofList_toList, skip_newline false next]
    rfl
  | blank =>
    refine ⟨limit + 1, Nat.le_succ _, ?_⟩
    rw [Row.text, String.toList_empty, List.nil_append, skip_newline true next]
    exact Option.map_id'.symm

/-- Reading rows gives what was written there, one after the other. -/
theorem items_rows {rows : List Row} (h : ∀ row ∈ rows, row.Readable) {tail : List Char}
    (next : Flush tail) (limit : Nat) :
    ∃ more, limit ≤ more ∧
      items (limit + rows.length) (skip true (document rows ++ tail)) =
        (items more (skip true tail)).map (rows.filterMap Row.item? ++ ·) := by
  induction rows generalizing limit with
  | nil => exact ⟨limit, Nat.le_refl _, Option.map_id'.symm⟩
  | cons row rows ih =>
    rw [List.forall_mem_cons] at h
    obtain ⟨between, enough, first⟩ :=
      items_row h.1 (flush_document h.2 next) (limit + rows.length)
    obtain ⟨more, le, others⟩ := ih h.2 (between - rows.length)
    refine ⟨more, by omega, ?_⟩
    rw [Nat.sub_add_cancel (by omega)] at others
    rw [document_cons, List.length_cons, ← Nat.add_assoc, first, others, Option.map_map]
    cases hi : row.item? with
    | none => simp [hi, Function.comp_def]
    | some item => simp [hi, Function.comp_def]

theorem length_le_document (rows : List Row) : rows.length ≤ (document rows).length := by
  induction rows with
  | nil => exact Nat.zero_le _
  | cons row rows ih =>
    have := congrArg List.length (document_cons row rows [])
    simp only [List.append_nil, List.length_append, List.length_cons] at this ⊢
    omega

/-- The items of rows and of one more line, whatever is written as the value there. What comes after
that value does not touch the items before it. -/
theorem parse?_rows {name : String} {rows : List Row}
    (h : ∀ row ∈ Row.header name :: rows, row.Readable) {key : List Char} (hk : Word key)
    (written : List Char) :
    ∃ limit, parse? (document (.header name :: rows) ++
        (key ++ ' ' :: '=' :: ' ' :: (written ++ ['\n']))) =
      match value (' ' :: (written ++ ['\n'])) with
      | .error _ => none
      | .ok (text, after) => (items limit (skip false after)).map fun others =>
        ⟨(group ((Row.header name :: rows).filterMap Row.item? ++
          .entry (String.ofList key) (String.ofList text) :: others)).2⟩ := by
  generalize hl : key ++ ' ' :: '=' :: ' ' :: (written ++ ['\n']) = line
  generalize ht : document (.header name :: rows) ++ line = text
  have start : skip true text = ⟨text, true⟩ := by
    rw [← ht, document_cons, Row.toList_header]
    exact skip_solid (by decide)
  have room : (Row.header name :: rows).length ≤ text.length := by
    have := length_le_document (Row.header name :: rows)
    rw [← ht, List.length_append]
    omega
  have flush : Flush line := hl ▸ hk.flush _
  have position : skip true line = ⟨line, true⟩ := by
    obtain ⟨c, more, rfl⟩ := List.exists_cons_of_ne_nil hk.1
    rw [← hl]
    exact skip_solid (not_isBlank_of_isWord (hk.2 c List.mem_cons_self))
  obtain ⟨more, le, read⟩ := items_rows h flush (text.length + 1 - (Row.header name :: rows).length)
  obtain ⟨limit, rfl⟩ : ∃ limit, more = limit + 1 := ⟨more - 1, by omega⟩
  rw [Nat.sub_add_cancel (by omega), ht, start, position] at read
  have last : step ⟨line, true⟩ = entry (key ++ [' ']) (' ' :: (written ++ ['\n'])) := by
    rw [← hl, step_key hk]
  refine ⟨limit, ?_⟩
  rw [parse?, read, items, last]
  cases hv : value (' ' :: (written ++ ['\n'])) with
  | error position =>
    rw [entry_of_error hk hv]
    rfl
  | ok found =>
    rw [entry_of_value hk hv]
    simp only [Option.map_map]
    rfl

end Coordination.Config.Ini
