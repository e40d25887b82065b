/-
Coordination.Proofs.Addresses — which hosts and ports are read from texts.

An address that was read can be written again with its host in brackets,
and is read from that as it was: the host has no bracket left at the ends
that are trimmed, and no slash. What a host does not always have is a name.
That it is not empty is checked before the brackets go, so a text that has
nothing but opening and then closing brackets for a host is read as an
address with an empty host. No other text is (`read_address`).

  §1 Splitting  — the last colon, and the scheme.
  §2 Brackets   — what `unbracket` leaves, and what it gives back.
  §3 Addresses  — `Address.WellFormed`, `Address.render`, `read_address`.
-/
import Coordination.Connection.Verify
import Coordination.Proofs.Texts
import Mathlib.Data.List.DropRight

namespace Coordination.Connection.Address

/-! ## §1 Splitting -/

/-- What follows the last colon has none in it. -/
theorem splitLast?_append (host : List Char) {port : List Char} (h : ':' ∉ port) :
    splitLast? (host ++ ':' :: port) = some (host, port) := by
  have other : ∀ c ∈ port.reverse, decide (c ≠ ':') = true := by
    intro c hc
    refine decide_eq_true fun same => h ?_
    rwa [← same, ← List.mem_reverse]
  have turned : (host ++ ':' :: port).reverse = port.reverse ++ ':' :: host.reverse := by simp
  rw [splitLast?, turned, List.takeWhile_append_of_pos other, List.dropWhile_append_of_pos other]
  simp

theorem withoutScheme_scheme (cs : List Char) : withoutScheme ("tcp://".toList ++ cs) = cs := by
  rw [withoutScheme, List.take_left, if_pos rfl, List.drop_left]

/-! ## §2 Brackets -/

theorem mem_of_mem_unbracket {c : Char} {cs : List Char} (h : c ∈ unbracket cs) : c ∈ cs :=
  (List.dropWhile_sublist _).subset ((List.rdropWhile_prefix _ _).subset h)

theorem head?_unbracket (cs : List Char) : (unbracket cs).head? ≠ some '[' := by
  obtain ⟨dropped, whole⟩ := List.rdropWhile_prefix (· = ']') (cs.dropWhile (· = '['))
  intro first
  have rest : (cs.dropWhile (· = '[')).head? = some '[' := by
    rw [← whole, List.head?_append]
    exact congrArg (Option.or · _) first
  have := List.head?_dropWhile_not (· = '[') cs
  rw [rest] at this
  simp at this

theorem getLast?_unbracket (cs : List Char) : (unbracket cs).getLast? ≠ some ']' := by
  intro last
  have filled : unbracket cs ≠ [] := by
    intro none
    rw [none] at last
    cases last
  have other := List.rdropWhile_last_not (· = ']') (cs.dropWhile (· = '[')) filled
  rw [List.getLast?_eq_some_getLast filled] at last
  exact other (decide_eq_true (Option.some.inj last))

/-- Brackets around a host that has none at its ends are removed, and no more. -/
theorem unbracket_enclosed {cs : List Char} (first : cs.head? ≠ some '[')
    (last : cs.getLast? ≠ some ']') : unbracket ('[' :: cs ++ [']']) = cs := by
  have opened : ('[' :: cs ++ [']']).dropWhile (· = '[') = cs ++ [']'] := by
    rw [List.cons_append, List.dropWhile_cons_of_pos (by decide)]
    cases cs with
    | nil => rfl
    | cons c cs =>
      refine List.dropWhile_cons_of_neg fun same => first ?_
      rw [List.head?_cons, of_decide_eq_true same]
  have closed : cs.rdropWhile (· = ']') = cs := by
    refine List.rdropWhile_eq_self_iff.2 fun filled same => last ?_
    rw [List.getLast?_eq_some_getLast filled, of_decide_eq_true same]
  exact (congrArg (List.rdropWhile (· = ']')) opened).trans
    ((List.rdropWhile_concat_pos _ _ _ (by decide)).trans closed)

/-- Nothing is left of opening brackets before closing ones, and of nothing else. -/
theorem unbracket_eq_nil_iff {cs : List Char} :
    unbracket cs = [] ↔
      ∃ opening closing, cs = List.replicate opening '[' ++ List.replicate closing ']' := by
  have none : unbracket cs = [] ↔ ∀ c ∈ cs.dropWhile (· = '['), decide (c = ']') = true :=
    List.rdropWhile_eq_nil_iff
  rw [none]
  constructor
  · intro closing
    have first : ∀ c ∈ cs.takeWhile (· = '['), c = '[' := fun c hc =>
      by simpa using List.mem_takeWhile_imp hc
    have rest : ∀ c ∈ cs.dropWhile (· = '['), c = ']' := fun c hc =>
      of_decide_eq_true (closing c hc)
    refine ⟨(cs.takeWhile (· = '[')).length, (cs.dropWhile (· = '[')).length, ?_⟩
    rw [← List.eq_replicate_of_mem first, ← List.eq_replicate_of_mem rest,
      List.takeWhile_append_dropWhile]
  · rintro ⟨opening, closing, rfl⟩ c hc
    have opened : (List.replicate opening '[' ++ List.replicate closing ']').dropWhile (· = '[') =
        List.replicate closing ']' := by
      rw [List.dropWhile_append_of_pos fun c hc => decide_eq_true (List.eq_of_mem_replicate hc)]
      cases closing <;> rfl
    rw [opened] at hc
    exact decide_eq_true (List.eq_of_mem_replicate hc)

/-! ## §3 Addresses -/

/-- An address that can be written so that it is read as it was. -/
structure WellFormed (address : Address) : Prop where
  slash : '/' ∉ address.host.toList
  opening : address.host.toList.head? ≠ some '['
  closing : address.host.toList.getLast? ≠ some ']'
  port_pos : 1 ≤ address.port
  port_le : address.port ≤ 65535

/-- The address with its scheme, and with brackets around the host. -/
def render (address : Address) : String :=
  "tcp://[" ++ address.host ++ "]:" ++ toString address.port

/-- What stands in a text for the host, before brackets are removed from it. -/
def hostText? (s : String) : Option (List Char) :=
  (splitLast? (withoutScheme (Text.trim s.toList))).map (·.1)

theorem ofString?_eq_some {s : String} {address : Address} :
    ofString? s = some address ↔
      ∃ host port, splitLast? (withoutScheme (Text.trim s.toList)) = some (host, port) ∧
        host ≠ [] ∧ '/' ∉ host ∧ Text.numeral? (Nat.pow 2 16) port = some address.port ∧
        address.port ≠ 0 ∧ address.host = String.ofList (unbracket host) := by
  constructor
  · intro read
    unfold ofString? ofChars? at read
    split at read
    · cases read
    · next host port cut =>
      split at read
      · cases read
      · next fine =>
        rw [not_or, List.isEmpty_iff] at fine
        split at read
        · cases read
        · next zero number =>
          cases read
          exact ⟨host, port, cut, fine.1, fine.2, number, fun none => zero none, rfl⟩
        · cases read
  · rintro ⟨host, port, cut, filled, slash, number, positive, named⟩
    have fine : ¬(host.isEmpty = true ∨ '/' ∈ host) := by
      rw [not_or, List.isEmpty_iff]
      exact ⟨filled, slash⟩
    unfold ofString? ofChars?
    rw [cut]
    simp only [if_neg fine, number]
    rw [← named]

theorem wellFormed_of_ofString? {s : String} {address : Address}
    (h : ofString? s = some address) : address.WellFormed := by
  obtain ⟨host, port, -, -, slash, number, positive, named⟩ := ofString?_eq_some.1 h
  have letters : address.host.toList = unbracket host := by rw [named, String.toList_ofList]
  exact {
    slash := fun inside => slash (mem_of_mem_unbracket (letters ▸ inside))
    opening := letters ▸ head?_unbracket host
    closing := letters ▸ getLast?_unbracket host
    port_pos := Nat.pos_of_ne_zero positive
    port_le := Nat.le_of_lt_succ (Text.lt_of_numeral? number) }

/-- A well-formed address is read from what is written for it. -/
theorem ofString?_render {address : Address} (formed : address.WellFormed) :
    ofString? address.render = some address := by
  have letters : address.render.toList = "tcp://".toList ++
      (('[' :: address.host.toList ++ [']']) ++ ':' :: (toString address.port).toList) := by
    simp [render]
  have digits := fun c => Text.isDigit_of_mem_toString (n := address.port) (c := c)
  have written : (toString address.port).toList ≠ [] :=
    Nat.toList_repr ▸ Nat.toDigits_ne_nil
  have blankless : Text.trim address.render.toList = address.render.toList := by
    refine Text.trim_eq_self ?_ ?_
    · rw [letters]
      rintro c ⟨⟩
      decide
    · intro c last
      rw [letters, List.append_cons, ← List.append_assoc, List.getLast?_append_of_ne_nil _ written]
        at last
      exact Text.isBlank_of_isDigit (digits c (List.mem_of_getLast? last))
  have colonless : ':' ∉ (toString address.port).toList := fun colon =>
    absurd (digits ':' colon) (by decide)
  refine ofString?_eq_some.2 ⟨'[' :: address.host.toList ++ [']'], (toString address.port).toList,
    ?_, List.cons_ne_nil _ _, ?_, ?_, Nat.ne_of_gt formed.port_pos, ?_⟩
  · rw [blankless, letters, withoutScheme_scheme, splitLast?_append _ colonless]
  · simp [formed.slash]
  · exact Text.numeral?_toString (Nat.lt_succ_of_le formed.port_le)
  · rw [unbracket_enclosed formed.opening formed.closing, String.ofList_toList]

/-- What is read is a well-formed address, and it is read again from what is written for it. It has
an empty host if the text has opening brackets before closing ones for a host, and nothing else. -/
theorem read_address {s : String} {address : Address} (read : ofString? s = some address) :
    address.WellFormed ∧
    ofString? address.render = some address ∧
    (address.host = "" ↔ ∃ opening closing, hostText? s =
      some (List.replicate opening '[' ++ List.replicate closing ']')) := by
  have formed := wellFormed_of_ofString? read
  refine ⟨formed, ofString?_render formed, ?_⟩
  obtain ⟨host, port, cut, -, -, -, -, named⟩ := ofString?_eq_some.1 read
  rw [hostText?, cut, named, String.ofList_eq_empty_iff, unbracket_eq_nil_iff]
  simp only [Option.map_some, Option.some.injEq]

/-- A host in brackets keeps what stands between them, colons included. -/
theorem read_address_scheduler :
    ofString? "tcp://[::1]:8786" = some ⟨"::1", 8786⟩ ∧
      ofString? (render ⟨"::1", 8786⟩) = some ⟨"::1", 8786⟩ :=
  have read : ofString? "tcp://[::1]:8786" = some ⟨"::1", 8786⟩ := by decide
  ⟨read, (read_address read).2.1⟩

/-- A bracket is taken for a host, and then removed. -/
theorem read_address_without_host :
    ofString? "[:80" = some ⟨"", 80⟩ ∧
      ¬ ∀ (s : String) (address : Address), ofString? s = some address → address.host ≠ "" :=
  ⟨by decide, fun named => named "[:80" ⟨"", 80⟩ (by decide) rfl⟩

end Coordination.Connection.Address
