/-
Coordination.Proofs.Preparation — which datasets can be registered.

A dataset passes the checks if its geometry is sound and, where it is kept
in a file, the file is large enough. The bytes that are needed are a
product of any number of dimensions, which is multiplied up factor by
factor in 64 bits. Because no dimension is zero at that point, a part of
the product is never more than the whole, so the multiplication stops
early exactly if the whole does not fit, whatever the order of the
dimensions.

`Params.Misshapen` and `Params.Fault` list the reasons against a dataset in
the order of the checks: each of them presupposes that the checks before it
went through. So there is one reason at most.

  §1 Products     — the product of words is the exact one, or there is none.
  §2 Conditions   — `Params.WellShaped`, `Params.Held`, `Params.Fault`.
  §3 Checks       — what each check does under these conditions.
  §4 Preparation  — `preparation_exact`.
-/
import Coordination.Dataset.Prepare
import Mathlib.Algebra.BigOperators.Group.List.Lemmas
import Mathlib.Algebra.Order.BigOperators.GroupWithZero.List
import Mathlib.Algebra.Order.Ring.Nat

namespace Coordination.Dataset

/-! ## §1 Products -/

/-- Multiplies up dimensions as long as the exact product has at most 64 bits. -/
def multiply? (acc : Nat) : List Nat → Option Nat
  | [] => some acc
  | dimension :: rest =>
    if acc * dimension < Nat.pow 2 64 then multiply? (acc * dimension) rest else none

/-- Multiplied up in words, dimensions give what they give as numbers: no product wraps. -/
theorem toNat_wordProduct? (acc : UInt64) (words : List UInt64) :
    (wordProduct? acc words).map UInt64.toNat =
      multiply? acc.toNat (words.map UInt64.toNat) := by
  induction words generalizing acc with
  | nil => rfl
  | cons word rest ih =>
    by_cases fits : acc.toNat * word.toNat < Nat.pow 2 64
    · have exact : (acc * word).toNat = acc.toNat * word.toNat := by
        rw [UInt64.toNat_mul]
        exact Nat.mod_eq_of_lt fits
      rw [wordProduct?, if_pos fits, List.map_cons, multiply?, if_pos fits, ih, exact]
    · rw [wordProduct?, if_neg fits, List.map_cons, multiply?, if_neg fits]
      rfl

/-- Without a zero among the dimensions it is only the whole product that matters. -/
theorem multiply?_of_pos {acc : Nat} {dimensions : List Nat} (small : acc < Nat.pow 2 64)
    (positive : ∀ n ∈ dimensions, 0 < n) :
    multiply? acc dimensions =
      if acc * dimensions.prod < Nat.pow 2 64 then some (acc * dimensions.prod) else none := by
  induction dimensions generalizing acc with
  | nil => rw [List.prod_nil, Nat.mul_one, if_pos small, multiply?]
  | cons n rest ih =>
    obtain ⟨-, others⟩ := List.forall_mem_cons.1 positive
    have more : acc * n ≤ acc * n * rest.prod :=
      Nat.le_mul_of_pos_right _ (List.prod_pos others)
    rw [List.prod_cons, ← Nat.mul_assoc, multiply?]
    by_cases fits : acc * n < Nat.pow 2 64
    · rw [if_pos fits, ih fits others]
    · rw [if_neg fits, if_neg fun whole => fits (Nat.lt_of_le_of_lt more whole)]

theorem mapM_word?_of_small {dimensions : List Nat}
    (small : ∀ n ∈ dimensions, n < Nat.pow 2 64) :
    dimensions.mapM word? = some (dimensions.map .ofNat) := by
  induction dimensions with
  | nil => rfl
  | cons n rest ih =>
    obtain ⟨first, others⟩ := List.forall_mem_cons.1 small
    rw [List.mapM_cons, word?, if_pos first, ih others]
    rfl

theorem mapM_word?_of_large {dimensions : List Nat} {n : Nat} (there : n ∈ dimensions)
    (large : Nat.pow 2 64 ≤ n) : dimensions.mapM word? = none := by
  induction dimensions with
  | nil => cases there
  | cons m rest ih =>
    rw [List.mapM_cons]
    rcases List.mem_cons.1 there with rfl | there
    · rw [word?, if_neg (Nat.not_lt_of_le large)]
      rfl
    · rw [ih there]
      cases word? m <;> rfl

/-- The product in words is the exact one, if that is a word. A dimension that is none makes the
product too large as well. -/
theorem wordProduct?_of_pos {acc : UInt64} {dimensions : List Nat} (some_acc : 0 < acc.toNat)
    (positive : ∀ n ∈ dimensions, 0 < n) :
    ((dimensions.mapM word?).bind (wordProduct? acc)).map UInt64.toNat =
      if acc.toNat * dimensions.prod < Nat.pow 2 64 then some (acc.toNat * dimensions.prod)
      else none := by
  by_cases small : ∀ n ∈ dimensions, n < Nat.pow 2 64
  · have same : (dimensions.map UInt64.ofNat).map UInt64.toNat = dimensions := by
      rw [List.map_map]
      refine (List.map_congr_left fun n hn => ?_).trans (List.map_id _)
      exact Nat.mod_eq_of_lt (small n hn)
    rw [mapM_word?_of_small small, Option.bind_some, toNat_wordProduct?, same,
      multiply?_of_pos acc.toNat_lt positive]
  · obtain ⟨n, there, large⟩ : ∃ n ∈ dimensions, Nat.pow 2 64 ≤ n := by simpa using small
    have whole : n ≤ acc.toNat * dimensions.prod :=
      Nat.le_of_dvd (Nat.mul_pos some_acc (List.prod_pos positive))
        (Nat.dvd_mul_left_of_dvd (List.dvd_prod there) _)
    rw [mapM_word?_of_large there large, if_neg (by omega)]
    rfl

/-! ## §2 Conditions -/

namespace Params

/-- The bytes that a dataset takes. -/
def bytes (params : Params) : Nat :=
  params.dtype.size * params.scanSize.prod * params.detectorSize.prod

/-- There is a scan grid and a detector with two axes, and no axis is empty. -/
structure WellShaped (params : Params) : Prop where
  scan : params.scanSize ≠ []
  detector : params.detectorSize.length = 2
  scan_pos : 0 ∉ params.scanSize
  detector_pos : 0 ∉ params.detectorSize

/-- The file behind the dataset, if it has one, is a regular file that is large enough, and what is
large enough can be counted in 64 bits. -/
def Held (params : Params) (file : FileStatus) : Prop :=
  ∀ path, params.path? = some path →
    params.bytes < Nat.pow 2 64 ∧ ∃ size, file = .regular size ∧ params.bytes ≤ size

instance (params : Params) : Decidable params.WellShaped :=
  decidable_of_iff
    ((params.scanSize ≠ [] ∧ params.detectorSize.length = 2) ∧
      0 ∉ params.scanSize ∧ 0 ∉ params.detectorSize)
    ⟨fun ⟨⟨scan, detector⟩, scan_pos, detector_pos⟩ => ⟨scan, detector, scan_pos, detector_pos⟩,
      fun ⟨scan, detector, scan_pos, detector_pos⟩ =>
        ⟨⟨scan, detector⟩, scan_pos, detector_pos⟩⟩

instance (file : FileStatus) (bytes : Nat) :
    Decidable (∃ size, file = .regular size ∧ bytes ≤ size) :=
  match file with
  | .regular size =>
    decidable_of_iff (bytes ≤ size)
      ⟨fun enough => ⟨size, rfl, enough⟩, fun ⟨_, same, enough⟩ =>
        FileStatus.regular.inj same ▸ enough⟩
  | .unavailable _ | .irregular => .isFalse nofun

instance (params : Params) (file : FileStatus) : Decidable (params.Held file) :=
  inferInstanceAs (Decidable (∀ path, params.path? = some path →
    params.bytes < Nat.pow 2 64 ∧ ∃ size, file = .regular size ∧ params.bytes ≤ size))

/-- What is wrong with the geometry. -/
inductive Misshapen (params : Params) : Problem → Prop where
  | noScan (none : params.scanSize = []) :
    Misshapen params (.invalid "scan_size must have at least one dimension")
  | detector (scan : params.scanSize ≠ []) (other : params.detectorSize.length ≠ 2) :
    Misshapen params (.invalid
      ("detector_size must have 2 dimensions, got " ++ toString params.detectorSize.length))
  | zeroScan (scan : params.scanSize ≠ []) (detector : params.detectorSize.length = 2)
    (zero : 0 ∈ params.scanSize) :
    Misshapen params (.invalid "scan_size entries must be positive")
  | zeroDetector (scan : params.scanSize ≠ []) (detector : params.detectorSize.length = 2)
    (scan_pos : 0 ∉ params.scanSize) (zero : 0 ∈ params.detectorSize) :
    Misshapen params (.invalid "detector_size entries must be positive")

/-- Why a dataset cannot be registered, by what its file turns out to be. -/
inductive Fault (params : Params) : FileStatus → Problem → Prop where
  | geometry {file : FileStatus} {problem : Problem} (misshapen : params.Misshapen problem) :
    Fault params file problem
  | overflow {file : FileStatus} {path : String} (shaped : params.WellShaped)
    (stored : params.path? = some path) (large : Nat.pow 2 64 ≤ params.bytes) :
    Fault params file (.invalid "dataset size overflows")
  | unavailable {path reason : String} (shaped : params.WellShaped)
    (stored : params.path? = some path) (counted : params.bytes < Nat.pow 2 64) :
    Fault params (.unavailable reason) (.unreachable path reason)
  | irregular {path : String} (shaped : params.WellShaped)
    (stored : params.path? = some path) (counted : params.bytes < Nat.pow 2 64) :
    Fault params .irregular (.unreachable path "not a regular file")
  | tooSmall {path : String} {size : Nat} (shaped : params.WellShaped)
    (stored : params.path? = some path) (counted : params.bytes < Nat.pow 2 64)
    (less : size < params.bytes) :
    Fault params (.regular size) (.tooSmall path params.bytes size)

variable {params : Params} {file : FileStatus} {problem : Problem}

theorem wellShaped_or_misshapen (params : Params) :
    params.WellShaped ∨ ∃ problem, params.Misshapen problem := by
  by_cases scan : params.scanSize = []
  · exact .inr ⟨_, .noScan scan⟩
  by_cases detector : params.detectorSize.length = 2
  · by_cases zero : 0 ∈ params.scanSize
    · exact .inr ⟨_, .zeroScan scan detector zero⟩
    by_cases none : 0 ∈ params.detectorSize
    · exact .inr ⟨_, .zeroDetector scan detector zero none⟩
    · exact .inl ⟨scan, detector, zero, none⟩
  · exact .inr ⟨_, .detector scan detector⟩

/-- Whatever the file is, the dataset is held by it or there is a reason against it. -/
theorem held_or_fault (shaped : params.WellShaped) (file : FileStatus) :
    params.Held file ∨ ∃ problem, params.Fault file problem := by
  cases stored : params.path? with
  | none => exact .inl fun path h => nomatch stored.symm.trans h
  | some path =>
    by_cases counted : params.bytes < Nat.pow 2 64
    · cases file with
      | unavailable reason => exact .inr ⟨_, .unavailable shaped stored counted⟩
      | irregular => exact .inr ⟨_, .irregular shaped stored counted⟩
      | regular size =>
        by_cases enough : params.bytes ≤ size
        · exact .inl fun _ _ => ⟨counted, size, rfl, enough⟩
        · exact .inr ⟨_, .tooSmall shaped stored counted (Nat.lt_of_not_le enough)⟩
    · exact .inr ⟨_, .overflow shaped stored (Nat.le_of_not_lt counted)⟩

/-! ## §3 Checks -/

theorem geometry?_of_wellShaped (shaped : params.WellShaped) :
    params.geometry? = .ok (params.scanSize ++ params.detectorSize) := by
  unfold geometry?
  rw [if_neg (mt List.isEmpty_iff.1 shaped.scan), if_neg (not_not_intro shaped.detector),
    if_neg shaped.scan_pos, if_neg shaped.detector_pos]

theorem geometry?_of_misshapen (misshapen : params.Misshapen problem) :
    params.geometry? = .error problem := by
  unfold geometry?
  cases misshapen with
  | noScan none => rw [if_pos (List.isEmpty_iff.2 none)]
  | detector scan other => rw [if_neg (mt List.isEmpty_iff.1 scan), if_pos other]
  | zeroScan scan detector zero =>
    rw [if_neg (mt List.isEmpty_iff.1 scan), if_neg (not_not_intro detector), if_pos zero]
  | zeroDetector scan detector scan_pos zero =>
    rw [if_neg (mt List.isEmpty_iff.1 scan), if_neg (not_not_intro detector), if_neg scan_pos,
      if_pos zero]

theorem toNat_size (dtype : ElementType) : (UInt64.ofNat dtype.size).toNat = dtype.size := by
  cases dtype <;> rfl

theorem byteSize?_of_wellShaped (shaped : params.WellShaped) :
    params.byteSize? (params.scanSize ++ params.detectorSize) =
      if params.bytes < Nat.pow 2 64 then .ok params.bytes
      else .error (.invalid "dataset size overflows") := by
  have size := toNat_size params.dtype
  have size_pos : 0 < (UInt64.ofNat params.dtype.size).toNat := by
    rw [size]
    cases params.dtype <;> decide
  have positive : ∀ n ∈ params.scanSize ++ params.detectorSize, 0 < n := by
    intro n hn
    refine Nat.pos_of_ne_zero ?_
    rintro rfl
    exact (List.mem_append.1 hn).elim shaped.scan_pos shaped.detector_pos
  have exact :
      params.dtype.size * (params.scanSize ++ params.detectorSize).prod = params.bytes := by
    rw [List.prod_append, ← Nat.mul_assoc, bytes]
  have product := wordProduct?_of_pos size_pos positive
  rw [size, exact] at product
  rw [byteSize?]
  by_cases counted : params.bytes < Nat.pow 2 64
  · rw [if_pos counted] at product ⊢
    obtain ⟨word, found, same⟩ := Option.map_eq_some_iff.1 product
    rw [found, ← same]
  · rw [if_neg counted] at product ⊢
    rw [Option.map_eq_none_iff.1 product]

end Params

/-! ## §4 Preparation -/

variable {params : Params} {file : FileStatus} {problem : Problem}

/-- A well-shaped dataset in a file depends on its size and on the file. -/
theorem prepare_of_path {path : String} (id : DatasetId) (shaped : params.WellShaped)
    (stored : params.path? = some path) :
    prepare id params file = do
      let expected ← params.byteSize? (params.scanSize ++ params.detectorSize)
      checkFile path expected file
      return ⟨id, params, params.scanSize ++ params.detectorSize⟩ := by
  simp only [prepare, Params.geometry?_of_wellShaped shaped, stored]
  rfl

theorem prepare_of_held (id : DatasetId) (shaped : params.WellShaped) (held : params.Held file) :
    prepare id params file = .ok ⟨id, params, params.scanSize ++ params.detectorSize⟩ := by
  cases stored : params.path? with
  | none =>
    simp only [prepare, Params.geometry?_of_wellShaped shaped, stored]
    rfl
  | some path =>
    obtain ⟨counted, size, rfl, enough⟩ := held path stored
    rw [prepare_of_path id shaped stored, Params.byteSize?_of_wellShaped shaped, if_pos counted]
    have check : checkFile path params.bytes (.regular size) = .ok () :=
      if_neg (Nat.not_lt_of_le enough)
    exact congrArg (· >>= fun _ => pure _) check

theorem prepare_of_fault (id : DatasetId) (fault : params.Fault file problem) :
    prepare id params file = .error problem := by
  cases fault with
  | geometry misshapen =>
    simp only [prepare, Params.geometry?_of_misshapen misshapen]
    rfl
  | overflow shaped stored large =>
    rw [prepare_of_path id shaped stored, Params.byteSize?_of_wellShaped shaped,
      if_neg (Nat.not_lt_of_le large)]
    rfl
  | unavailable shaped stored counted | irregular shaped stored counted =>
    rw [prepare_of_path id shaped stored, Params.byteSize?_of_wellShaped shaped, if_pos counted]
    rfl
  | @tooSmall path size shaped stored counted less =>
    rw [prepare_of_path id shaped stored, Params.byteSize?_of_wellShaped shaped, if_pos counted]
    have check : checkFile path params.bytes (.regular size) =
        .error (.tooSmall path params.bytes size) := if_pos less
    exact congrArg (· >>= fun _ => pure _) check

/-- A dataset is prepared, or there is a reason against it. -/
theorem ready_or_fault (params : Params) (file : FileStatus) :
    (params.WellShaped ∧ params.Held file) ∨ ∃ problem, params.Fault file problem := by
  rcases params.wellShaped_or_misshapen with shaped | ⟨problem, misshapen⟩
  · exact (params.held_or_fault shaped file).imp_left fun held => ⟨shaped, held⟩
  · exact .inr ⟨problem, .geometry misshapen⟩

/-- There is no reason against a dataset that can be prepared. -/
theorem Params.Fault.unfit (fault : params.Fault file problem) :
    ¬(params.WellShaped ∧ params.Held file) := by
  intro ready
  have prepared : prepare (.ofNat 1) params file = .ok _ := prepare_of_held _ ready.1 ready.2
  rw [prepare_of_fault _ fault] at prepared
  exact nomatch prepared

/-- A dataset is prepared iff it is well-shaped and its file holds it, and then its record repeats
the parameters and adds the shape; if not, the first reason against it is told. The size that the
file is compared with is the exact product: multiplied up in 64-bit words it comes to the same, for
any dimensions. -/
theorem preparation_exact (id : DatasetId) (params : Params) (file : FileStatus) :
    (∀ dataset, prepare id params file = .ok dataset ↔
      (params.WellShaped ∧ params.Held file) ∧
        dataset = ⟨id, params, params.scanSize ++ params.detectorSize⟩) ∧
    (∀ problem, prepare id params file = .error problem ↔ params.Fault file problem) ∧
    ∀ words : List UInt64,
      (wordProduct? (.ofNat params.dtype.size) words).map UInt64.toNat =
        multiply? params.dtype.size (words.map UInt64.toNat) := by
  refine ⟨fun dataset => ?_, fun problem => ?_, fun words => ?_⟩
  · rcases ready_or_fault params file with ready | ⟨found, fault⟩
    · rw [prepare_of_held id ready.1 ready.2, Except.ok.injEq, eq_comm]
      exact (and_iff_right ready).symm
    · rw [prepare_of_fault id fault]
      exact iff_of_false nofun fun claimed => fault.unfit claimed.1
  · rcases ready_or_fault params file with ready | ⟨found, fault⟩
    · rw [prepare_of_held id ready.1 ready.2]
      exact iff_of_false nofun fun claimed => claimed.unfit ready
    · constructor
      · intro h
        rw [prepare_of_fault id fault] at h
        exact Except.error.inj h ▸ fault
      · exact prepare_of_fault id
  · rw [toNat_wordProduct?, Params.toNat_size]

end Coordination.Dataset
