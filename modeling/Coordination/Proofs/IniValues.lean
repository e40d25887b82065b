/-
Coordination.Proofs.IniValues — which values can be written as they are.

A value is written between an equals sign with a blank and the end of the
line, as it is. When it is read, blanks at its ends go, quotes around a part
go, a backslash takes what follows it with it, and the first line end is the
end of the value. A value without any of these is `Plain`, and it comes back
as it was (`value_written`).

Any other value comes back with less in it, if it comes back at all. What
goes missing is counted: blanks, quotes, backslashes and line ends all weigh
something, and no character that is put in the place of others weighs more
than they do. So the value that is read either is the one that was written,
or weighs less (`value_kept`).

  §1 Trimming  — `Kept`, blanks at the ends.
  §2 Scanning  — `scan_plain`, what a scan can lose.
  §3 Values    — `Plain`, `value_written`, `value_kept`.
-/
import Coordination.Config.Ini
import Coordination.Proofs.Paths
import Coordination.Proofs.Texts

namespace Coordination.Config.Ini

open Text (isBlank trim trimStart trimEnd)
open Text.Path (weight weight_nil weight_cons weight_append)

/-! ## §1 Trimming -/

/-- A text is another one, or weighs less. -/
def Kept (text whole : List Char) : Prop := text = whole ∨ weight text < weight whole

theorem Kept.le {text whole : List Char} (h : Kept text whole) : weight text ≤ weight whole := by
  rcases h with rfl | less
  · exact Nat.le_refl _
  · exact Nat.le_of_lt less

theorem Kept.trans {a b c : List Char} (first : Kept a b) (second : Kept b c) : Kept a c := by
  rcases first with rfl | less
  · exact second
  · exact .inr (Nat.lt_of_lt_of_le less second.le)

theorem weight_singleton_le (c : Char) : weight [c] ≤ 1 := List.countP_le_length

theorem weight_singleton {c : Char} (slash : c ≠ '/') (dot : c ≠ '.') : weight [c] = 1 := by
  simp [weight, slash, dot]

theorem weight_singleton_of_blank {c : Char} (h : isBlank c = true) : weight [c] = 1 := by
  refine weight_singleton ?_ ?_ <;>
  · rintro rfl
    revert h
    decide

theorem weight_reverse (cs : List Char) : weight cs.reverse = weight cs := List.countP_reverse

/-- Blanks that are dropped from the front are missed. -/
theorem kept_dropWhile {p : Char → Bool} (h : ∀ c, p c = true → isBlank c = true)
    (cs : List Char) : Kept (cs.dropWhile p) cs := by
  induction cs with
  | nil => exact .inl rfl
  | cons c cs ih =>
    by_cases hc : p c = true
    · rw [List.dropWhile_cons_of_pos hc]
      refine .inr ?_
      rw [weight_cons, weight_singleton_of_blank (h c hc)]
      have := ih.le
      omega
    · rw [List.dropWhile_cons_of_neg hc]
      exact .inl rfl

theorem kept_trimEnd (cs : List Char) : Kept (trimEnd cs) cs := by
  rcases kept_dropWhile (p := isBlank) (fun _ => id) cs.reverse with same | less
  · refine .inl ?_
    rw [trimEnd, same, List.reverse_reverse]
  · refine .inr ?_
    rw [trimEnd, weight_reverse]
    rwa [weight_reverse] at less

theorem kept_trim (cs : List Char) : Kept (trim cs) cs :=
  (kept_trimEnd _).trans (kept_dropWhile (fun _ => id) cs)

theorem trimEnd_of_solid {cs : List Char} (h : ∀ c ∈ cs, ¬isBlank c = true) :
    trimEnd cs = cs :=
  Text.trimEnd_eq_self fun c last => Bool.eq_false_iff.2 (h c (List.mem_of_getLast? last))

/-- Text without blanks has none at its ends. -/
theorem trim_of_solid {cs : List Char} (h : ∀ c ∈ cs, ¬isBlank c = true) : trim cs = cs :=
  Text.trim_eq_self (fun c first => Bool.eq_false_iff.2 (h c (List.mem_of_head? first)))
    fun c last => Bool.eq_false_iff.2 (h c (List.mem_of_getLast? last))

theorem trimEnd_cons {c : Char} (h : ¬isBlank c = true) (cs : List Char) :
    trimEnd (c :: cs) = c :: trimEnd cs := by
  have stays : [c].dropWhile isBlank = [c] := List.dropWhile_cons_of_neg h
  rw [trimEnd, trimEnd, List.reverse_cons, List.dropWhile_append, stays]
  split
  · next none =>
    rw [List.isEmpty_iff.1 none]
    rfl
  · rw [List.reverse_append, List.reverse_singleton, List.singleton_append]

/-! ## §2 Scanning -/

variable {stops : List Char}

/-- Text without stops and backslashes is scanned as it is. -/
theorem scan_plain {text : List Char} (h : ∀ c ∈ text, c ∉ stops ∧ c ≠ '\\') {stop : Char}
    (hs : stop ∈ stops) (rest : List Char) :
    scan stops .plain (text ++ stop :: rest) = .ok (text, stop :: rest) := by
  induction text with
  | nil => rw [List.nil_append, scan, if_pos hs]
  | cons c text ih =>
    rw [List.forall_mem_cons] at h
    rw [List.cons_append, scan, if_neg h.1.1, if_neg h.1.2, ih h.2]
    rfl

theorem push_eq_ok {c : Char} {result : Scan} {text rest : List Char}
    (h : push c result = .ok (text, rest)) :
    ∃ more, text = c :: more ∧ result = .ok (more, rest) := by
  cases result with
  | ok found =>
    cases h
    exact ⟨_, rfl, rfl⟩
  | error position => cases h

/-- The weight of a text that is to be scanned. Line ends do not count if they are stops: none is
in what is scanned then, except after a backslash, and there it goes. -/
def load (stops cs : List Char) : Nat :=
  cs.countP fun c => c ≠ '/' ∧ c ≠ '.' ∧ (c = '\n' → '\n' ∉ stops)

@[simp] theorem load_nil : load stops [] = 0 := rfl

theorem load_cons (c : Char) (cs : List Char) :
    load stops (c :: cs) = load stops [c] + load stops cs := by
  rw [load, load, load, List.countP_cons, List.countP_singleton, Nat.add_comm]

theorem load_le_weight (cs : List Char) : load stops cs ≤ weight cs := by
  refine List.countP_mono_left fun c _ h => ?_
  simp only [decide_eq_true_eq] at h ⊢
  exact ⟨h.1, h.2.1⟩

theorem load_append (xs ys : List Char) : load stops (xs ++ ys) = load stops xs + load stops ys :=
  List.countP_append

theorem weight_le_load {cs : List Char} (h : '\n' ∈ cs → '\n' ∉ stops) :
    weight cs ≤ load stops cs := by
  refine List.countP_mono_left fun c there heavy => ?_
  simp only [decide_eq_true_eq] at heavy ⊢
  exact ⟨heavy.1, heavy.2, fun newline => h (newline ▸ there)⟩

/-- A character that stands for an escaped one weighs no more than it. -/
theorem weight_escaped_le {c : Char} (h : c ≠ '\n') : weight [escaped c] ≤ load stops [c] := by
  by_cases same : escaped c = c
  · rw [same]
    exact weight_le_load fun newline => absurd (List.mem_singleton.1 newline).symm h
  · have heavy : c ≠ '/' ∧ c ≠ '.' := by
      constructor <;>
      · rintro rfl
        exact same (by decide)
    have one : load stops [c] = 1 := by simp [load, heavy, h]
    rw [one]
    exact weight_singleton_le _

/-- What is missing from a scanned text. Of text without escapes nothing is. -/
def Mode.Loses (stops : List Char) : Mode → List Char → List Char → List Char → Prop
  | .plain, cs, text, rest =>
    (cs = text ++ rest ∧ ∀ c ∈ text, c ∉ stops ∧ (c = '\\' → rest = [])) ∨
      weight text + load stops rest < load stops cs
  | .escape, cs, text, rest =>
    (cs = [] ∧ text = ['\\'] ∧ rest = []) ∨ weight text + load stops rest ≤ load stops cs
  | .code _, cs, text, rest => weight text + load stops rest ≤ load stops cs + 1

theorem Mode.Loses.le {cs text rest : List Char} (h : Mode.plain.Loses stops cs text rest) :
    weight text + load stops rest ≤ load stops cs := by
  rcases h with ⟨rfl, apart⟩ | less
  · rw [load_append]
    exact Nat.add_le_add_right (weight_le_load fun newline => (apart _ newline).1) _
  · exact Nat.le_of_lt less

/-- A scan ends at a stop, unless it ends with the text. -/
theorem head_mem_stops {mode : Mode} {cs text rest : List Char}
    (h : scan stops mode cs = .ok (text, rest)) : ∀ c ∈ rest.head?, c ∈ stops := by
  fun_induction scan stops mode cs generalizing text with
  | case2 c cs stop =>
    cases h
    rintro _ ⟨⟩
    exact stop
  | case4 _ _ _ _ ih | case8 _ _ _ _ ih | case13 _ _ _ _ _ _ _ _ ih =>
    obtain ⟨_, -, found⟩ := push_eq_ok h
    exact ih found
  | case3 _ _ ih | case6 _ ih | case7 _ _ ih | case11 _ _ _ ih | case15 _ _ _ _ _ _ ih =>
    exact ih h
  | case1 | case5 =>
    cases h
    exact nofun
  | case9 | case10 | case12 | case14 => cases h

theorem scan_loses {mode : Mode} {cs text rest : List Char}
    (h : scan stops mode cs = .ok (text, rest)) : mode.Loses stops cs text rest := by
  fun_induction scan stops mode cs generalizing text with
  | case1 =>
    cases h
    exact .inl ⟨rfl, nofun⟩
  | case2 =>
    cases h
    exact .inl ⟨rfl, nofun⟩
  | case3 cs go ih =>
    rcases ih h with ⟨rfl, rfl, rfl⟩ | le
    · exact .inl ⟨rfl, by simpa using go⟩
    · refine .inr ?_
      rw [load_cons]
      have one : load stops ['\\'] = 1 := by simp [load]
      omega
  | case4 c cs go apart ih =>
    obtain ⟨more, rfl, found⟩ := push_eq_ok h
    rcases ih found with ⟨rfl, intact⟩ | less
    · exact .inl ⟨rfl, List.forall_mem_cons.2 ⟨⟨go, fun slash => absurd slash apart⟩, intact⟩⟩
    · refine .inr ?_
      have le : weight [c] ≤ load stops [c] := weight_le_load fun newline => by
        rwa [List.mem_singleton.1 newline]
      rw [weight_cons, load_cons]
      omega
  | case5 =>
    cases h
    exact .inl ⟨rfl, rfl, rfl⟩
  | case6 cs ih =>
    have le : weight text + load stops rest ≤ load stops cs + 1 := ih h
    have one : load stops ['x'] = 1 := by simp [load]
    refine .inr ?_
    rw [load_cons]
    omega
  | case7 cs _ ih =>
    refine .inr (Nat.le_trans (ih h).le ?_)
    rw [load_cons]
    omega
  | case8 c cs _ newline ih =>
    obtain ⟨more, rfl, found⟩ := push_eq_ok h
    refine .inr ?_
    have le := (ih found).le
    have small := @weight_escaped_le stops c newline
    rw [weight_cons, load_cons]
    omega
  | case9 => cases h
  | case10 => cases h
  | case11 read cs _ ih =>
    have le : weight text + load stops rest ≤ load stops cs + 1 := ih h
    show weight text + load stops rest ≤ load stops ('\\' :: '\n' :: cs) + 1
    rw [load_cons, load_cons '\n']
    omega
  | case12 => cases h
  | case13 read c cs _ _ _ decoded _ ih =>
    obtain ⟨more, rfl, found⟩ := push_eq_ok h
    have le := (ih found).le
    have small := weight_singleton_le decoded
    show weight (decoded :: more) + load stops rest ≤ load stops (c :: cs) + 1
    rw [weight_cons, load_cons]
    omega
  | case14 => cases h
  | case15 read c cs _ _ _ ih =>
    have le : weight text + load stops rest ≤ load stops cs + 1 := ih h
    show weight text + load stops rest ≤ load stops (c :: cs) + 1
    rw [load_cons]
    omega

/-! ## §3 Values -/

/-- What can be written as a value and is read as it is. -/
structure Plain (value : List Char) : Prop where
  oneLine : ∀ c ∈ value, c ∉ lineEnds
  unescaped : '\\' ∉ value
  unquoted : ∀ c ∈ value.head?, ¬(c = '"' ∨ c = '\x27')
  trimmed : trim value = value

/-- Characters that stand for themselves wherever they are in a value. -/
def isSolid (c : Char) : Bool := !isBlank c && !(['\\', '"', '\x27'].contains c)

/-- The conditions on single characters can be evaluated. -/
theorem plain_iff {value : List Char} :
    Plain value ↔ value.all (!lineEnds.contains ·) = true ∧ '\\' ∉ value ∧
      value.head?.all (fun c => ¬(c = '"' ∨ c = '\x27')) = true ∧ trim value = value := by
  simp only [List.all_eq_true, Option.all_eq_true, Bool.not_eq_true', decide_eq_true_eq,
    List.contains_eq_mem, decide_eq_false_iff_not]
  exact ⟨fun h => ⟨h.oneLine, h.unescaped, h.unquoted, h.trimmed⟩, fun ⟨a, b, c, d⟩ => ⟨a, b, c, d⟩⟩

instance (value : List Char) : Decidable (Plain value) := decidable_of_iff _ plain_iff.symm

theorem isBlank_of_mem_lineEnds {c : Char} (h : c ∈ lineEnds) : isBlank c = true :=
  List.all_eq_true.1 (by decide : lineEnds.all isBlank = true) c h

theorem plain_of_solid {value : List Char} (h : ∀ c ∈ value, isSolid c = true) : Plain value := by
  have solid : ∀ c ∈ value, ¬isBlank c = true ∧ c ∉ ['\\', '"', '\x27'] := fun c hc => by
    simpa [isSolid] using h c hc
  refine ⟨fun c hc ends => (solid c hc).1 (isBlank_of_mem_lineEnds ends),
    fun slash => (solid _ slash).2 (by decide), fun c hc quote => ?_,
    trim_of_solid fun c hc => (solid c hc).1⟩
  refine (solid c (List.mem_of_mem_head? hc)).2 ?_
  rcases quote with rfl | rfl <;> decide

theorem valueParts_quoted {b c : Char} {bound rest text after : List Char} {first : Bool}
    (quote : c = '"' ∨ c = '\x27')
    (h : valueParts (b :: bound) first (c :: rest) = .ok (text, after)) :
    ∃ part tail more, scan [c] .plain rest = .ok (part, c :: tail) ∧
      valueParts bound false tail = .ok (more, after) ∧ text = part ++ more := by
  rw [valueParts, if_pos quote] at h
  split at h
  · next part end_ tail scanned =>
    obtain rfl := List.mem_singleton.1 (head_mem_stops scanned end_ rfl)
    split at h
    · next more remaining others =>
      cases h
      exact ⟨part, tail, more, scanned, others, rfl⟩
    · cases h
  · cases h
  · cases h

theorem valueParts_bare {b c : Char} {bound rest text after : List Char} {first : Bool}
    (bare : ¬(c = '"' ∨ c = '\x27'))
    (h : valueParts (b :: bound) first (c :: rest) = .ok (text, after)) :
    ∃ part, scan lineEnds .plain (c :: rest) = .ok (part, after) ∧
      text = if first then trim part else trimEnd part := by
  rw [valueParts, if_neg bare] at h
  split at h
  · next part remaining scanned =>
    cases h
    exact ⟨part, scanned, rfl⟩
  · cases h

theorem weight_quote {c : Char} (quote : c = '"' ∨ c = '\x27') : weight [c] = 1 := by
  rcases quote with rfl | rfl <;> rfl

/-- No part of a value weighs more than what it is read from, and the quotes of a quoted part
count. -/
theorem weight_valueParts {bound cs text after : List Char} {first : Bool}
    (h : valueParts bound first cs = .ok (text, after)) :
    weight text ≤ weight cs ∧
      ∀ c ∈ cs.head?, (c = '"' ∨ c = '\x27') → bound ≠ [] → weight text + 2 ≤ weight cs := by
  induction bound generalizing cs text first with
  | nil =>
    cases h
    exact ⟨Nat.zero_le _, fun _ _ _ full => absurd rfl full⟩
  | cons b bound ih =>
    cases cs with
    | nil =>
      cases h
      exact ⟨Nat.zero_le _, nofun⟩
    | cons c rest =>
      by_cases quote : c = '"' ∨ c = '\x27'
      · obtain ⟨part, tail, more, scanned, others, rfl⟩ := valueParts_quoted quote h
        have counts : '\n' ∉ [c] := by rcases quote with rfl | rfl <;> decide
        have lost : weight part + load [c] (c :: tail) ≤ load [c] rest := (scan_loses scanned).le
        have whole := @load_le_weight [c] rest
        have closing : weight (c :: tail) ≤ load [c] (c :: tail) := weight_le_load fun _ => counts
        have further := (ih others).1
        have one := weight_quote quote
        rw [weight_cons] at closing
        rw [weight_append, weight_cons c rest]
        exact ⟨by omega, fun _ _ _ _ => by omega⟩
      · obtain ⟨part, scanned, rfl⟩ := valueParts_bare quote h
        refine ⟨?_, fun d hd quoted => absurd (Option.some.inj hd ▸ quoted) quote⟩
        have lost := (scan_loses scanned).le
        have whole := @load_le_weight lineEnds (c :: rest)
        have trimmed : weight (if first then trim part else trimEnd part) ≤ weight part := by
          split
          · exact (kept_trim part).le
          · exact (kept_trimEnd part).le
        omega

theorem skipInLine_line (value rest : List Char) :
    skipInLine (' ' :: (value ++ '\n' :: rest)) =
      value.dropWhile (fun c => isBlank c && !(lineEnds.contains c)) ++ '\n' :: rest := by
  have stays : ('\n' :: rest).dropWhile (fun c => isBlank c && !(lineEnds.contains c)) =
      '\n' :: rest := List.dropWhile_cons_of_neg (by decide)
  rw [skipInLine, List.dropWhile_cons_of_pos (by decide), List.dropWhile_append, stays]
  split
  · next none => rw [List.isEmpty_iff.1 none, List.nil_append]
  · rfl

theorem not_isBlank_head {value : List Char} (h : trim value = value) :
    ∀ c ∈ value.head?, ¬isBlank c = true := by
  intro c hc blank
  obtain ⟨rest, rfl⟩ := List.head?_eq_some_iff.1 hc
  have less : weight (trim (c :: rest)) ≤ weight rest := by
    rw [trim, trimStart, List.dropWhile_cons_of_pos blank]
    exact Nat.le_trans (kept_trimEnd _).le (kept_dropWhile (fun _ => id) rest).le
  rw [h, weight_cons, weight_singleton_of_blank blank] at less
  omega

/-- A plain value is read from a line of its own as it is written there. -/
theorem value_written {text : List Char} (h : Plain text) (rest : List Char) :
    value (' ' :: (text ++ '\n' :: rest)) = .ok (text, '\n' :: rest) := by
  have full : text.dropWhile (fun c => isBlank c && !(lineEnds.contains c)) = text := by
    cases text with
    | nil => rfl
    | cons c text =>
      have solid := not_isBlank_head h.trimmed c rfl
      exact List.dropWhile_cons_of_neg (by simp [solid])
  obtain ⟨c, tail, hc, bare⟩ : ∃ c tail, text ++ '\n' :: rest = c :: tail ∧
      ¬(c = '"' ∨ c = '\x27') := by
    cases text with
    | nil => exact ⟨'\n', rest, rfl, by decide⟩
    | cons c text => exact ⟨c, _, rfl, h.unquoted c rfl⟩
  have scanned : scan lineEnds .plain (c :: tail) = .ok (text, '\n' :: rest) := by
    rw [← hc]
    exact scan_plain (fun d hd => ⟨h.oneLine d hd, fun slash => h.unescaped (slash ▸ hd)⟩)
      (by decide) rest
  rw [value, skipInLine_line, full, hc, valueParts, if_neg bare, scanned]
  simp only [if_true, h.trimmed]

/-- A last line is scanned as it is, or something of it is missing. -/
theorem scan_line {line part after : List Char}
    (h : scan lineEnds .plain (line ++ ['\n']) = .ok (part, after)) :
    (part = line ∧ ∀ c ∈ line, c ∉ lineEnds ∧ c ≠ '\\') ∨ weight part < weight line := by
  rcases scan_loses h with ⟨same, intact⟩ | less
  · cases after with
    | nil =>
      rw [List.append_nil] at same
      exact absurd (by decide) (intact '\n' (by rw [← same]; simp)).1
    | cons stop tail =>
      rcases List.eq_nil_or_concat tail with rfl | ⟨init, last, rfl⟩
      · obtain ⟨rfl, -⟩ := List.append_inj' same rfl
        exact .inl ⟨rfl, fun c hc => ⟨(intact c hc).1, fun slash => nomatch (intact c hc).2 slash⟩⟩
      · have heavy : weight [stop] = 1 := by
          have ends := head_mem_stops h stop rfl
          rcases List.mem_cons.1 ends with rfl | second
          · rfl
          · obtain rfl := List.mem_singleton.1 second
            rfl
        have split : part ++ stop :: init.concat last = part ++ stop :: init ++ [last] := by simp
        have longer : line = part ++ stop :: init := (List.append_inj' (same.trans split) rfl).1
        right
        rw [longer, weight_append, weight_cons]
        omega
  · right
    have last : load lineEnds (line ++ ['\n']) = load lineEnds line := by
      rw [load_append]
      rfl
    have bound := @load_le_weight lineEnds line
    omega

/-- A value that is read from the last line is the one that was written there, and that one can be
written as it is, or it weighs less. -/
theorem value_kept {written text after : List Char}
    (h : value (' ' :: (written ++ ['\n'])) = .ok (text, after)) :
    (text = written ∧ Plain written) ∨ weight text < weight written := by
  rw [value, skipInLine_line] at h
  have kept := kept_dropWhile (p := fun c => isBlank c && !(lineEnds.contains c))
    (fun c hc => (Bool.and_eq_true_iff.1 hc).1) written
  generalize written.dropWhile (fun c => isBlank c && !(lineEnds.contains c)) = line at h kept
  obtain ⟨c, rest, hc⟩ := List.exists_cons_of_ne_nil
    (List.append_ne_nil_of_right_ne_nil line (List.cons_ne_nil '\n' []))
  by_cases quote : c = '"' ∨ c = '\x27'
  · right
    have newline : weight ['\n'] = 1 := rfl
    have lost := (weight_valueParts h).2 c (by rw [hc]; rfl) quote (by rw [hc]; nofun)
    rw [weight_append, newline] at lost
    have := kept.le
    omega
  · rw [hc] at h
    obtain ⟨part, scanned, rfl⟩ := valueParts_bare quote h
    rw [← hc] at scanned
    rw [if_pos rfl]
    rcases scan_line scanned with ⟨rfl, intact⟩ | less
    · rcases kept with rfl | less
      · rcases kept_trim part with trimmed | less
        · refine .inl ⟨trimmed, fun d hd => (intact d hd).1, fun slash => (intact _ slash).2 rfl,
            fun d hd => ?_, trimmed⟩
          obtain ⟨tail, rfl⟩ := List.head?_eq_some_iff.1 hd
          exact (List.cons.inj hc).1 ▸ quote
        · exact .inr less
      · exact .inr (Nat.lt_of_le_of_lt (kept_trim part).le less)
    · exact .inr (Nat.lt_of_le_of_lt (kept_trim part).le (Nat.lt_of_lt_of_le less kept.le))

end Coordination.Config.Ini
