/-
Coordination.Proofs.Reload — settings that are saved and loaded again.

Settings that were loaded are loaded again with the same numbers and the same
formats, whatever they are, if what was saved can be loaded at all. The log
file does not always come back. Its path is written as it is, with the home
directory abbreviated, but read with quotes, escapes and trimming; any text
in a document can put a backslash, a quote, a line end or a blank into a path.
The path that comes back names the same file exactly if what is written for
it is plain (`reload_iff_plain`), and what comes back otherwise, if anything
does, weighs less than the path or is below the home directory where the path
is not. Where there is no home directory, nothing is abbreviated, and the
default log file is in the current directory.

  §1 Paths   — what is written for a path, and what is read for it.
  §2 Reload  — `reload_iff_plain`.
-/
import Coordination.Proofs.SettingsText

namespace Coordination.Config

open Text (isBlank trim trimStart trimEnd)
open Text.Path (components body join isAbsolute weight weight_cons)
open Ini (Plain value)

/-! ## §1 Paths -/

variable {around : Surroundings}

theorem expandHome_tilde (home : String) (rest : List Char) :
    expandHome (some home) (String.ofList ('~' :: '/' :: rest)) =
      joinPath home (String.ofList rest) := by
  simp only [expandHome, String.toList_ofList]

theorem expandHome_of_apart {home : Option String} {path : String}
    (h : home.isSome → ∀ rest, path.toList ≠ '~' :: '/' :: rest) : expandHome home path = path := by
  unfold expandHome
  split
  · next rest heq => exact absurd heq (h rfl rest)
  · rfl

theorem components_ne_nil {home : String} (h : home ≠ "") : components home.toList ≠ [] := by
  rw [Ne, Text.Path.components_eq_nil_iff, String.toList_eq_nil_iff]
  exact h

/-- A path names something below a directory. -/
def Below (home path : String) : Prop :=
  ∃ more, components path.toList = components home.toList ++ more

theorem below_joinPath {home path : String} (h : home ≠ "")
    (relative : isAbsolute path.toList = false) : Below home (joinPath home path) := by
  refine ⟨body path.toList, ?_⟩
  rw [joinPath, String.toList_ofList]
  exact Text.Path.components_join (mt String.toList_eq_nil_iff.1 h) relative

theorem Below.ne_empty {home path : String} (h : home ≠ "") (below : Below home path) :
    path ≠ "" := by
  rintro rfl
  obtain ⟨more, same⟩ := below
  exact components_ne_nil h (List.append_eq_nil_iff.1 same.symm).1

theorem Below.trans {a b c : String} (first : Below a b) (second : Below b c) : Below a c := by
  obtain ⟨xs, hx⟩ := first
  obtain ⟨ys, hy⟩ := second
  exact ⟨xs ++ ys, by rw [hy, hx, List.append_assoc]⟩

/-- The log file is below the home directory, or the current one if there is no other. -/
theorem below_logPath (home : around.home ≠ some "") :
    Below (around.home.getD ".") around.logPath := by
  have full : around.home.getD "." ≠ "" := by
    cases h : around.home with
    | none => decide
    | some dir => exact fun empty => home (by rw [h, ← empty]; rfl)
  have directory : Below (around.home.getD ".") around.directory := below_joinPath full (by decide)
  exact directory.trans (below_joinPath (directory.ne_empty full) (by decide))

/-- What a loaded log file is: a path that is not empty and, where there is a home directory, does
not start with a tilde, unless it is below the home directory. -/
structure Located (home : Option String) (path : String) : Prop where
  full : path ≠ ""
  tilde : ∀ dir rest, home = some dir → path.toList = '~' :: '/' :: rest → Below dir path

theorem Below.located {home : String} {path : String} (h : home ≠ "") (below : Below home path) :
    Located (some home) path :=
  ⟨below.ne_empty h, fun _ _ same _ => Option.some.inj same ▸ below⟩

theorem located_logPath (home : around.home ≠ some "") : Located around.home around.logPath := by
  have below := below_logPath home
  cases h : around.home with
  | none =>
    rw [h] at below
    exact ⟨below.ne_empty (by decide), nofun⟩
  | some dir =>
    rw [h] at below home
    exact below.located fun empty => home (congrArg some empty)

theorem pathOr_blank (default : String) (home : Option String) {text : List Char}
    (h : trim text = []) : pathOr default home (String.ofList text) = default := by
  have empty : (String.ofList []).isEmpty = true := by decide
  rw [pathOr, String.toList_ofList, h, if_pos empty]

theorem pathOr_full (default : String) (home : Option String) {text : List Char}
    (h : trim text ≠ []) :
    pathOr default home (String.ofList text) = expandHome home (String.ofList (trim text)) := by
  have full : ¬(String.ofList (trim text)).isEmpty = true := by
    simpa [String.isEmpty_iff] using h
  rw [pathOr, String.toList_ofList, if_neg full]

/-- What a text is read as: a default, something joined to the home directory, or the text. -/
theorem pathOr_cases (default : String) (home : Option String) (text : List Char) :
    (trim text = [] ∧ pathOr default home (String.ofList text) = default) ∨
      (∃ dir rest, home = some dir ∧ trim text = '~' :: '/' :: rest ∧
        pathOr default home (String.ofList text) = joinPath dir (String.ofList rest)) ∨
      (trim text ≠ [] ∧ (home.isSome → ∀ rest, trim text ≠ '~' :: '/' :: rest) ∧
        pathOr default home (String.ofList text) = String.ofList (trim text)) := by
  by_cases empty : trim text = []
  · exact .inl ⟨empty, pathOr_blank default home empty⟩
  · right
    rw [pathOr_full default home empty]
    by_cases tilde : ∃ dir rest, home = some dir ∧ trim text = '~' :: '/' :: rest
    · obtain ⟨dir, rest, hd, hr⟩ := tilde
      exact .inl ⟨dir, rest, hd, hr, by rw [hd, hr, expandHome_tilde]⟩
    · have apart : home.isSome → ∀ rest, trim text ≠ '~' :: '/' :: rest := by
        intro there rest hr
        obtain ⟨dir, hd⟩ := Option.isSome_iff_exists.1 there
        exact tilde ⟨dir, rest, hd, hr⟩
      refine .inr ⟨empty, apart, expandHome_of_apart fun there rest => ?_⟩
      rw [String.toList_ofList]
      exact apart there rest

theorem joinPath_absolute {home path : String} (h : isAbsolute path.toList = true) :
    joinPath home path = path := by
  rw [joinPath, join, if_pos h, String.ofList_toList]

theorem located_pathOr (home : around.home ≠ some "") (text : String) :
    Located around.home (pathOr around.logPath around.home text) := by
  rw [← String.ofList_toList (s := text)]
  rcases pathOr_cases around.logPath around.home text.toList with
    ⟨-, same⟩ | ⟨dir, rest, hd, -, same⟩ | ⟨full, apart, same⟩
  · rw [same]
    exact located_logPath home
  · rw [same]
    rw [hd] at home ⊢
    have full : dir ≠ "" := fun empty => home (congrArg some empty)
    cases absolute : isAbsolute (String.ofList rest).toList with
    | false => exact (below_joinPath full absolute).located full
    | true =>
      rw [joinPath_absolute absolute]
      obtain ⟨tail, ht⟩ := Text.Path.isAbsolute_iff.1 absolute
      refine ⟨?_, fun _ other _ => by rw [ht]; exact nofun⟩
      rintro none
      rw [none] at ht
      cases ht
  · rw [same]
    refine ⟨fun none => full (String.ofList_eq_empty_iff.1 none), fun dir rest hd hr => ?_⟩
    rw [String.toList_ofList] at hr
    exact absurd hr (apart (by rw [hd]; rfl) rest)

/-- What is written for a path: what is below the home directory without it, or the path. -/
theorem abbreviateHome_cases {home : Option String} (h : home ≠ some "") (path : String) :
    (∃ dir rest, home = some dir ∧ (abbreviateHome home path).toList = '~' :: '/' :: rest ∧
        isAbsolute rest = false ∧ components path.toList = components dir.toList ++ body rest) ∨
      (abbreviateHome home path = path ∧ ∀ dir, home = some dir → ¬Below dir path) := by
  unfold abbreviateHome
  split
  · next rest found =>
    obtain ⟨dir, rfl, found⟩ := Option.bind_eq_some_iff.1 found
    have full : dir.toList ≠ [] := fun empty => h (by rw [String.toList_eq_nil_iff.1 empty])
    exact .inl ⟨dir, rest, rfl, by simp, Text.Path.components_of_below? full found⟩
  · next none =>
    refine .inr ⟨rfl, ?_⟩
    rintro dir rfl ⟨more, same⟩
    have found := Text.Path.below?_isSome same
    rw [Option.bind_some] at none
    rw [none] at found
    cases found

/-- A plain text is read as the path that it was written for. -/
theorem components_pathOr_of_plain (home : around.home ≠ some "") {path : String}
    (located : Located around.home path)
    (plain : Plain (abbreviateHome around.home path).toList) :
    components (pathOr around.logPath around.home (abbreviateHome around.home path)).toList =
      components path.toList := by
  have trimmed := plain.trimmed
  rw [← String.ofList_toList (s := abbreviateHome around.home path)]
  rcases abbreviateHome_cases home path with
    ⟨dir, rest, hd, written, relative, below⟩ | ⟨written, apart⟩
  · have full : dir.toList ≠ [] :=
      fun empty => home (by rw [hd, String.toList_eq_nil_iff.1 empty])
    rw [written] at trimmed ⊢
    rw [pathOr_full _ _ (by rw [trimmed]; nofun), trimmed, hd, expandHome_tilde, joinPath,
      String.toList_ofList, String.toList_ofList, below]
    exact Text.Path.components_join full relative
  · rw [written] at trimmed ⊢
    have full : trim path.toList ≠ [] := by
      rw [trimmed]
      exact mt String.toList_eq_nil_iff.1 located.full
    rw [pathOr_full _ _ full, trimmed, String.ofList_toList, expandHome_of_apart]
    intro there rest tilde
    obtain ⟨dir, hd⟩ := Option.isSome_iff_exists.1 there
    exact apart dir hd (located.tilde dir rest hd tilde)

theorem weight_tilde (rest : List Char) : weight ('~' :: '/' :: rest) = weight rest + 1 := by
  have tilde : weight ['~'] = 1 := rfl
  have slash : weight ['/'] = 0 := rfl
  rw [weight_cons, weight_cons '/']
  omega

theorem weight_joinPath_le (home : String) (rest : List Char) :
    weight (joinPath home (String.ofList rest)).toList ≤ weight home.toList + weight rest := by
  rw [joinPath, String.toList_ofList, String.toList_ofList]
  exact Text.Path.weight_join_le _ _

theorem trim_tilde (rest : List Char) : trim ('~' :: '/' :: rest) = '~' :: '/' :: trimEnd rest := by
  have start : trimStart ('~' :: '/' :: rest) = '~' :: '/' :: rest :=
    List.dropWhile_cons_of_neg (by decide)
  rw [trim, start, Ini.trimEnd_cons (by decide), Ini.trimEnd_cons (by decide)]

/-- What is below the home directory is written with a tilde, and then the tilde is read again. -/
theorem value_tilde {rest text after : List Char}
    (h : value (' ' :: '~' :: '/' :: rest) = .ok (text, after)) :
    ∃ more, trim text = '~' :: '/' :: more := by
  have start : Ini.skipInLine (' ' :: '~' :: '/' :: rest) = '~' :: '/' :: rest := by
    rw [Ini.skipInLine, List.dropWhile_cons_of_pos (by decide),
      List.dropWhile_cons_of_neg (by decide)]
  rw [value, start] at h
  obtain ⟨part, scanned, rfl⟩ := Ini.valueParts_bare (by decide) h
  rw [Ini.scan, if_neg (by decide), if_neg (by decide), Ini.scan, if_neg (by decide),
    if_neg (by decide)] at scanned
  obtain ⟨_, rfl, others⟩ := Ini.push_eq_ok scanned
  obtain ⟨more, rfl, -⟩ := Ini.push_eq_ok others
  exact ⟨_, by rw [if_pos rfl, trim_tilde, trim_tilde]⟩

/-- Without a home directory, what names the default log file is plain however it is written. -/
theorem plain_of_components_logPath (home : around.home = none) {path : String}
    (same : components around.logPath.toList = components path.toList) : Plain path.toList := by
  have default : around.logPath = "./.framehub/framehub.log" := by
    rw [Surroundings.logPath, Surroundings.directory, home]
    decide
  rw [default] at same
  exact Ini.plain_of_solid (Text.Path.all_of_components (by decide) (by decide) same
    (List.all_eq_true.1 (by decide)))

/-- What follows a tilde has no name for a path of greater weight, unless that is below the home
directory. -/
theorem below_of_components_joinPath {dir path : String} {rest : List Char} (full : dir ≠ "")
    (same : components (joinPath dir (String.ofList rest)).toList = components path.toList)
    (less : weight rest < weight path.toList) : Below dir path := by
  cases absolute : isAbsolute (String.ofList rest).toList with
  | false =>
    obtain ⟨more, below⟩ := below_joinPath full absolute
    exact ⟨more, same.symm.trans below⟩
  | true =>
    have equal := Text.Path.weight_eq_of_components same
    rw [joinPath_absolute absolute, String.toList_ofList] at equal
    omega

/-- A path that is read from less than what was written for another path is a different one. -/
theorem plain_of_components_pathOr (home : around.home ≠ some "") {path : String}
    {text after : List Char}
    (read : value (' ' :: ((abbreviateHome around.home path).toList ++ ['\n'])) = .ok (text, after))
    (same : components (pathOr around.logPath around.home (String.ofList text)).toList =
      components path.toList) :
    Plain (abbreviateHome around.home path).toList := by
  rcases Ini.value_kept read with ⟨-, plain⟩ | less
  · exact plain
  have trimmed := (Ini.kept_trim text).le
  have equal := Text.Path.weight_eq_of_components same
  rcases abbreviateHome_cases home path with
    ⟨dir, rest, hd, written, relative, below⟩ | ⟨written, apart⟩
  · -- both paths are the home directory with something after it, and what is after it differs
    exfalso
    rw [written] at read less
    obtain ⟨more, hm⟩ := value_tilde read
    have shorter := weight_joinPath_le dir more
    have whole := Text.Path.weight_of_below below
    rw [hm, weight_tilde] at trimmed
    rw [weight_tilde] at less
    rw [pathOr_full _ _ (by rw [hm]; nofun), hm, hd, expandHome_tilde] at equal
    omega
  · -- the path is not below the home directory, where the default is and what follows a tilde
    rw [written] at less ⊢
    rcases pathOr_cases around.logPath around.home text with
      ⟨-, default⟩ | ⟨dir, rest, hd, tilde, joined⟩ | ⟨-, -, alone⟩
    · rw [default] at same
      cases hd : around.home with
      | none => exact plain_of_components_logPath hd same
      | some dir =>
        obtain ⟨more, below⟩ := below_logPath home
        rw [hd, Option.getD_some] at below
        exact absurd ⟨more, same.symm.trans below⟩ (apart dir hd)
    · rw [tilde, weight_tilde] at trimmed
      rw [joined] at same
      have full : dir ≠ "" := fun empty => home (by rw [hd, empty])
      exact absurd (below_of_components_joinPath full same (by omega)) (apart dir hd)
    · exfalso
      rw [alone, String.toList_ofList] at equal
      omega

/-! ## §2 Reload -/

theorem items_end (limit : Nat) : Ini.items limit (Ini.skip false ['\n']) = some [] := by
  cases limit <;> rfl

namespace Settings

variable {c : Settings} {wording : Wording}

theorem located_of_ofText (home : around.home ≠ some "")
    (cores : 0 < around.cores ∧ around.cores < Nat.pow 2 64) {text : String}
    (loaded : ofText around text wording = .ok c) : c.InRange ∧ Located around.home c.logFile := by
  unfold ofText at loaded
  split at loaded
  · obtain ⟨range, default | ⟨value, read⟩⟩ := eq_of_ofDocument cores loaded
    · rw [default]
      exact ⟨range, located_logPath home⟩
    · rw [read]
      exact ⟨range, located_pathOr home value⟩
  · cases loaded

/-- What is loaded from saved settings differs from them in the log file only. -/
theorem exists_of_reload (range : c.InRange) {d : Settings}
    (h : ofText around (c.render around) wording = .ok d) : ∃ text after,
    value (' ' :: ((abbreviateHome around.home c.logFile).toList ++ ['\n'])) = .ok (text, after) ∧
      d = { c with logFile := pathOr around.logPath around.home (String.ofList text) } := by
  obtain ⟨limit, reloaded⟩ := ofText_render around range wording
  dsimp only at reloaded
  rw [reloaded] at h
  split at h
  · cases h
  · next text after read =>
    split at h
    · cases h
    · cases h
      exact ⟨text, after, read, rfl⟩

theorem reload_of_plain (range : c.InRange)
    (plain : Plain (abbreviateHome around.home c.logFile).toList) :
    ofText around (c.render around) wording = .ok { c with
      logFile := pathOr around.logPath around.home (abbreviateHome around.home c.logFile) } := by
  obtain ⟨limit, reloaded⟩ := ofText_render around range wording
  simp only [Ini.value_written plain, items_end, String.ofList_toList] at reloaded
  exact reloaded

theorem same_iff (path : String) : c.same { c with logFile := path } = true ↔
    components c.logFile.toList = components path.toList := by
  simp [same, Text.Path.same]

/-- Settings that were loaded, saved and loaded again have the same numbers and formats. They are
the same settings exactly if what is written for the log file is plain; then they can be loaded.
The home directory, if there is one, has a name, and there is at least one core. -/
theorem reload_iff_plain (home : around.home ≠ some "")
    (cores : 0 < around.cores ∧ around.cores < Nat.pow 2 64) {text : String}
    (loaded : ofText around text wording = .ok c) :
    (∀ d, ofText around (c.render around) wording = .ok d → d = { c with logFile := d.logFile }) ∧
      ((∃ d, ofText around (c.render around) wording = .ok d ∧ c.same d = true) ↔
        Plain (abbreviateHome around.home c.logFile).toList) := by
  obtain ⟨range, located⟩ := located_of_ofText home cores loaded
  refine ⟨fun d hd => ?_, ?_, fun plain => ?_⟩
  · obtain ⟨text, _, -, changed⟩ := exists_of_reload range hd
    generalize pathOr around.logPath around.home (String.ofList text) = path at changed
    rw [changed]
  · rintro ⟨d, hd, same⟩
    obtain ⟨text, after, read, rfl⟩ := exists_of_reload range hd
    exact plain_of_components_pathOr home read ((same_iff _).1 same).symm
  · refine ⟨_, reload_of_plain range plain, (same_iff _).2 ?_⟩
    exact (components_pathOr_of_plain home located plain).symm

/-- No formats at all, and a path in which there are a quote and a blank, but not at its ends. -/
theorem reload_iff_plain_home :
    let around : Surroundings := ⟨"/home/user", 4⟩
    let text := "[server]\nresult_formats = ,\n[logging]\nfile = \"~/logs//it's\" here.log\n"
    let c := { default around with formats := [], logFile := "/home/user/logs//it's here.log" }
    ofText around text = .ok c ∧ abbreviateHome around.home c.logFile = "~/logs//it's here.log" ∧
      ∃ d, ofText around (c.render around) = .ok d ∧ c.same d = true := by
  intro around text c
  have loaded : ofText around text = .ok c := toOption_eq_some.1 (by decide +kernel)
  have written : abbreviateHome around.home c.logFile = "~/logs//it's here.log" := by decide +kernel
  have plain : Plain (abbreviateHome around.home c.logFile).toList := by
    rw [written]
    decide +kernel
  exact ⟨loaded, written, (reload_iff_plain (by decide) (by decide) loaded).2.2 plain⟩

/-- A path with a backslash is written with the backslash alone, which is then read as the start of
an escape. -/
theorem reload_drops_backslash :
    let around : Surroundings := ⟨"/home/user", 4⟩
    let c := { default around with logFile := "C:\\temp" }
    let d := { default around with logFile := "C:\temp" }
    ofText around "[logging]\nfile = C:\\\\temp\n" = .ok c ∧
      ofText around (c.render around) = .ok d ∧ c.same d = false := by
  intro around c d
  have loaded : ofText around "[logging]\nfile = C:\\\\temp\n" = .ok c :=
    toOption_eq_some.1 (by decide +kernel)
  have written : (abbreviateHome around.home c.logFile).toList =
      ['C', ':', '\\', 't', 'e', 'm', 'p'] := by decide +kernel
  have read : value (' ' :: (['C', ':', '\\', 't', 'e', 'm', 'p'] ++ ['\n'])) =
      .ok (['C', ':', '\t', 'e', 'm', 'p'], ['\n']) := rfl
  obtain ⟨limit, reloaded⟩ :=
    ofText_render around (located_of_ofText (by decide) (by decide) loaded).1 {}
  simp only [written, read, items_end] at reloaded
  exact ⟨loaded, reloaded, by decide +kernel⟩

end Settings

end Coordination.Config
