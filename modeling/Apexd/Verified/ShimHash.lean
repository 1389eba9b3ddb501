import Apexd.Model.ShimHash

/-! # Hashing comes to an end

`CalculateSha512` reads a file that it could open to the end.  Of a file that cannot be opened it
reads nothing for ever, since the failbit never becomes an eofbit.
-/

namespace Apexd

open Process Storage

namespace Shim

variable {sha512 : List UInt8 → List UInt8} {path : String} {bytes : List UInt8} {ending : Ending}

/-- What holds before each pass of the loop over a file that was opened. -/
structure Hashing.Reading (bytes : List UInt8) (ending : Ending) (state : Hashing) : Prop where
  split : state.ctx ++ state.apex.rest = bytes
  sameEnding : state.apex.ending = ending
  notBad : state.apex.badbit = false
  /-- the flags were set together, and by the end of the file or what looks like it -/
  flags : state.apex.failbit = state.apex.eofbit
  ended : state.apex.eofbit = true → state.apex.rest = [] ∧ ending ≠ .error true

/-- What `CalculateSha512` returns of an opened file. -/
def hashResult (sha512 : List UInt8 → List UInt8) (path : String) (bytes : List UInt8)
    (ending : Ending) : Except String String :=
  if ending = .error true then .error ("Failed to read " ++ path)
  else .ok (bytesToHex (sha512 bytes))

def Hashing.variant (state : Hashing) : Nat :=
  if state.apex.eofbit then 0 else state.apex.rest.length + 1

theorem Hashing.Reading.pass {state : Hashing} (reading : state.Reading bytes ending) :
    Loop.PassKeeps
      (fun next => Hashing.Reading bytes ending next ∧ next.variant < state.variant)
      (fun result => result = hashResult sha512 path bytes ending)
      (state.pass sha512 path) := by
  unfold Hashing.pass
  cases eof : state.apex.eofbit with
  | true =>
    -- the loop ends, all bytes were hashed
    obtain ⟨nothing, notError⟩ := reading.ended eof
    have whole := reading.split
    rw [nothing, List.append_nil] at whole
    simp only [Loop.PassKeeps, Bool.not_true, Bool.false_eq_true, if_false, hashResult,
      if_neg notError, whole]
  | false =>
    have good := InputStream.good_of_flags eof (reading.flags.trans eof) reading.notBad
    by_cases enough : kBufSize ≤ state.apex.rest.length
    · have positive : 0 < kBufSize := by decide
      simp only [InputStream.read_of_le good enough, reading.notBad, Loop.PassKeeps,
        Bool.not_false, if_true, Bool.false_eq_true, if_false]
      refine ⟨⟨?_, reading.sameEnding, rfl, reading.flags, ?_⟩, ?_⟩
      · rw [List.append_assoc, List.take_append_drop]
        exact reading.split
      · intro ended
        rw [eof] at ended
        cases ended
      · simp only [Hashing.variant, eof, Bool.false_eq_true, if_false, List.length_drop]
        omega
    · simp only [InputStream.read_of_lt good (Nat.not_le.mp enough), reading.sameEnding,
        Bool.not_false, if_true]
      by_cases failed : ending = .error true
      · simp only [failed, if_true, Loop.PassKeeps, hashResult]
      · simp only [failed, if_false, reading.notBad, Bool.false_eq_true, Loop.PassKeeps]
        refine ⟨⟨?_, rfl, rfl, rfl, fun _ => ⟨rfl, failed⟩⟩, ?_⟩
        · rw [List.append_nil]
          exact reading.split
        · simp only [Hashing.variant, eof, Bool.false_eq_true, if_true, if_false]
          omega

theorem calculateSha512_opened :
    CalculateSha512 sha512 path (.opened bytes ending) (hashResult sha512 path bytes ending) := by
  have start : Hashing.Reading bytes ending
      { apex := InputStream.create (.opened bytes ending), ctx := [] } :=
    ⟨List.nil_append bytes, rfl, rfl, rfl, nofun⟩
  obtain ⟨result, returns, rfl⟩ := Loop.exists_returns Hashing.variant
    (fun _ reading => reading.pass) start
  exact returns

/-- The loop over a stream that could not be opened goes on for ever. -/
theorem not_calculateSha512_cannotOpen :
    ¬ ∃ result, CalculateSha512 sha512 path .cannotOpen result := by
  let inv (state : Hashing) : Prop :=
    state.apex.eofbit = false ∧ state.apex.failbit = true ∧ state.apex.badbit = false
  have first : inv { apex := InputStream.create .cannotOpen, ctx := [] } := ⟨rfl, rfl, rfl⟩
  refine Loop.not_returns ?_ first
  rintro state ⟨eof, fail, bad⟩
  have failed : state.apex.good = false := by simp [InputStream.good, fail]
  unfold Hashing.pass
  simp only [eof, InputStream.read_of_not_good failed, bad, Bool.not_false, if_true,
    Bool.false_eq_true, if_false]
  exact ⟨rfl, rfl, rfl⟩

theorem calculateSha512_unique {file : FileState} {first second : Except String String}
    (returns : CalculateSha512 sha512 path file first)
    (returns' : CalculateSha512 sha512 path file second) : first = second := by
  unfold CalculateSha512 at returns returns'
  simp only at returns returns'
  by_cases bad : (InputStream.create file).badbit = true
  · rw [if_pos bad] at returns returns'
    rw [returns, returns']
  · rw [if_neg bad] at returns returns'
    exact returns.unique returns'

/-- The digest of the whole file when it can be read to its end, and an error otherwise. -/
def HashesOrFails (sha512 : List UInt8 → List UInt8) (path : String) (file : FileState) : Prop :=
  ∃ result, CalculateSha512 sha512 path file result ∧
    match file with
    | .opened bytes .endOfFile => result = .ok (bytesToHex (sha512 bytes))
    | _ => ∃ e, result = .error e

theorem hashesOrFails_iff {file : FileState} :
    HashesOrFails sha512 path file ↔ ∃ bytes ending, file = .opened bytes ending ∧
      ending ≠ .error false := by
  cases file with
  | cannotOpen =>
    constructor
    · rintro ⟨result, returns, _⟩
      exact absurd ⟨result, returns⟩ not_calculateSha512_cannotOpen
    · rintro ⟨_, _, same, _⟩
      cases same
  | opened bytes ending =>
    constructor
    · rintro ⟨result, returns, expected⟩
      refine ⟨bytes, ending, rfl, ?_⟩
      rintro rfl
      -- an error that looks like the end gives the digest of a part
      obtain ⟨e, failed⟩ := expected
      rw [calculateSha512_unique returns calculateSha512_opened] at failed
      cases failed
    · rintro ⟨_, _, same, reported⟩
      cases same
      refine ⟨_, calculateSha512_opened, ?_⟩
      cases ending with
      | endOfFile => rfl
      | error flag =>
        cases flag with
        | true => exact ⟨_, rfl⟩
        | false => exact absurd rfl reported

/-! ## The update -/

def CanOpen (file : FileState) : Prop :=
  file ≠ .cannotOpen

theorem exists_calculateSha512_iff {file : FileState} :
    (∃ result, CalculateSha512 sha512 path file result) ↔ CanOpen file := by
  cases file with
  | cannotOpen => simp [CanOpen, not_calculateSha512_cannotOpen]
  | opened bytes ending =>
    simp only [CanOpen, ne_eq, reduceCtorEq, not_false_eq_true, iff_true]
    exact ⟨_, calculateSha512_opened⟩

theorem calculateSha512_ok (notError : ending ≠ .error true) {result : Except String String}
    (returns : CalculateSha512 sha512 path (.opened bytes ending) result) :
    result = .ok (bytesToHex (sha512 bytes)) := by
  rw [calculateSha512_unique returns calculateSha512_opened, hashResult, if_neg notError]

/-- The streams that a validation comes to hash can be opened. -/
def OpensWhatItHashes (files : ShimFiles) (systemApexPath newApexPath : String) : Prop :=
  let systemShim := files.stream (pathText ⟨kApexPackageSystemDir, kSystemShimApexName⟩)
  -- without the list of hashes nothing is hashed
  (∃ e, files.readFileToString (systemApexPath ++ "/" ++ kHashFilePath) = .error e) ∨
    -- an error of the pre-installed shim ends the validation before the new one is opened
    (∃ bytes, systemShim = .opened bytes (.error true)) ∨
    (CanOpen systemShim ∧ CanOpen (files.stream newApexPath))

theorem exists_validateUpdate_iff {files : ShimFiles} {systemApexPath newApexPath : String} :
    (∃ result, ValidateUpdate sha512 files systemApexPath newApexPath result) ↔
      OpensWhatItHashes files systemApexPath newApexPath := by
  unfold ValidateUpdate GetAllowedHashes OpensWhatItHashes
  simp only
  cases files.readFileToString (systemApexPath ++ "/" ++ kHashFilePath) with
  | error e =>
    simp only [Except.error.injEq, exists_eq', true_or, iff_true]
    exact ⟨_, _, rfl, rfl⟩
  | ok hash =>
    simp only [reduceCtorEq, exists_const, false_or]
    generalize files.stream (pathText ⟨kApexPackageSystemDir, kSystemShimApexName⟩) = systemShim
    constructor
    · rintro ⟨_, allowed, ⟨shimHash, hashed, listed⟩, checked⟩
      have opened : CanOpen systemShim := exists_calculateSha512_iff.mp ⟨_, hashed⟩
      cases shimHash with
      | error e =>
        cases systemShim with
        | cannotOpen => exact absurd rfl opened
        | opened bytes ending =>
          by_cases reported : ending = .error true
          · exact .inl ⟨bytes, by rw [reported]⟩
          · cases calculateSha512_ok reported hashed
      | ok digest =>
        subst listed
        obtain ⟨actual, again, -⟩ := checked
        exact .inr ⟨opened, exists_calculateSha512_iff.mp ⟨actual, again⟩⟩
    · rintro (⟨bytes, rfl⟩ | ⟨systemOpened, newOpened⟩)
      · exact ⟨_, _, ⟨_, calculateSha512_opened, rfl⟩, rfl⟩
      · obtain ⟨shimHash, hashed⟩ := exists_calculateSha512_iff.mpr systemOpened
        obtain ⟨actual, again⟩ := exists_calculateSha512_iff.mpr newOpened
        cases shimHash with
        | error e => exact ⟨_, _, ⟨_, hashed, rfl⟩, rfl⟩
        | ok digest =>
          cases actual with
          | error e => exact ⟨_, _, ⟨_, hashed, rfl⟩, _, again, rfl⟩
          | ok other =>
            by_cases listed : other ∈ Text.split '\n' hash ++ [digest]
            · exact ⟨_, _, ⟨_, hashed, rfl⟩, _, again, (if_pos listed).mpr rfl⟩
            · exact ⟨_, _, ⟨_, hashed, rfl⟩, _, again, (if_neg listed).mpr rfl⟩

/-- Hashing does what it should of the files that can be opened and that report their errors, and
a validation comes to an end if it can open what it hashes. -/
theorem hashing_ends_iff (sha512 : List UInt8 → List UInt8) :
    (∀ path file, HashesOrFails sha512 path file ↔
      ∃ bytes ending, file = .opened bytes ending ∧ ending ≠ .error false) ∧
    ∀ files systemApexPath newApexPath,
      (∃ result, ValidateUpdate sha512 files systemApexPath newApexPath result) ↔
        OpensWhatItHashes files systemApexPath newApexPath :=
  ⟨fun _ _ => hashesOrFails_iff, fun _ _ _ => exists_validateUpdate_iff⟩

theorem not_hashesOrFails_absent : ¬ HashesOrFails id "/data/apex/active/shim.apex" .cannotOpen :=
  fun ⟨result, returns, _⟩ => not_calculateSha512_cannotOpen ⟨result, returns⟩

end Shim

end Apexd
