import Apexd.Text.Split

/-! # Reading numbers and paths from a text

What the C++ library reads from a text: a number with its sign and base, a text without the white
space around it, and the last component of a path.
-/

namespace Text

/-! ## White space -/

/-- `isspace` -/
def isSpace (c : Char) : Bool :=
  c ∈ [' ', '\t', '\n', '\x0b', '\x0c', '\x0d']

/-- `text` without the white space at its end. -/
def trimRight (text : String) : String :=
  .ofList (text.toList.reverse.dropWhile isSpace).reverse

/-- `text` without the white space at both ends. -/
def trim (text : String) : String :=
  trimRight (.ofList (text.toList.dropWhile isSpace))

/-- Neither end of a text is white space. -/
def Trimmed (text : String) : Prop :=
  (∀ c ∈ text.toList.head?, isSpace c = false) ∧ ∀ c ∈ text.toList.getLast?, isSpace c = false

instance (text : String) : Decidable (Trimmed text) :=
  decidable_of_iff ((text.toList.head?.all fun c => !isSpace c) = true ∧
    (text.toList.getLast?.all fun c => !isSpace c) = true) (by simp [Trimmed, Option.all_eq_true])

theorem dropWhile_eq_self {α : Type} {p : α → Bool} {xs : List α}
    (stops : ∀ x ∈ xs.head?, p x = false) : xs.dropWhile p = xs := by
  cases xs with
  | nil => rfl
  | cons x rest => simp [stops x rfl]

theorem trimRight_append {text spaces : String} (ends : ∀ c ∈ text.toList.getLast?, isSpace c = false)
    (white : ∀ c ∈ spaces.toList, isSpace c = true) : trimRight (text ++ spaces) = text := by
  have dropped : (spaces.toList.reverse ++ text.toList.reverse).dropWhile isSpace =
      text.toList.reverse := by
    rw [List.dropWhile_append_of_pos fun c member => white c (List.mem_reverse.mp member)]
    exact dropWhile_eq_self fun c isHead => ends c (by rwa [List.head?_reverse] at isHead)
  rw [trimRight, String.toList_append, List.reverse_append, dropped, List.reverse_reverse,
    String.ofList_toList]

/-- A line of which only the end is white space. -/
theorem trim_append {text spaces : String} (trimmed : Trimmed text)
    (white : ∀ c ∈ spaces.toList, isSpace c = true) (some' : text ≠ "") :
    trim (text ++ spaces) = text := by
  have front : ((text ++ spaces).toList.dropWhile isSpace) = (text ++ spaces).toList := by
    refine dropWhile_eq_self fun c isHead => trimmed.1 c ?_
    rw [String.toList_append, List.head?_append] at isHead
    cases found : text.toList.head? with
    | none => exact absurd (String.toList_eq_nil_iff.mp (List.head?_eq_none_iff.mp found)) some'
    | some first => rwa [found] at isHead
  rw [trim, front, String.ofList_toList, trimRight_append trimmed.2 white]

theorem consumeSuffix_append (text suffix : String) : consumeSuffix (text ++ suffix) suffix = text := by
  rw [consumeSuffix, if_pos (endsWith_append text suffix), String.toList_append, List.length_append,
    Nat.add_sub_cancel, List.take_left, String.ofList_toList]

/-! ## Numbers -/

/-- The value of a digit in a base up to 16. -/
def digitValue (base : Nat) (c : Char) : Option Nat :=
  let value := if c.isDigit then some (c.toNat - '0'.toNat)
    else if 'a' ≤ c ∧ c ≤ 'f' then some (c.toNat - 'a'.toNat + 10)
    else if 'A' ≤ c ∧ c ≤ 'F' then some (c.toNat - 'A'.toNat + 10)
    else none
  value.filter (· < base)

/-- The number that is written with the given digits, of which there is one at least. -/
def parseDigits (base : Nat) (digits : List Char) : Option Nat :=
  if digits = [] then none
  else digits.foldlM (fun value c => (digitValue base c).map (base * value + ·)) 0

/-- A number that may have a sign, or start with 0x. -/
def readNumber : List Char → Option Int
  | '0' :: 'x' :: digits | '0' :: 'X' :: digits => (parseDigits 16 digits).map Int.ofNat
  | '-' :: digits => (parseDigits 10 digits).map Int.negOfNat
  | '+' :: digits | digits => (parseDigits 10 digits).map Int.ofNat

/-- `ParseInt`: the number between `least` and `greatest` that a text is, after white space. -/
def parseInt (least greatest : Int) (text : String) : Option Int :=
  (readNumber (text.toList.dropWhile isSpace)).filter fun value => least ≤ value ∧ value ≤ greatest

/-- `ParseUint`: the number up to `greatest` that a text without a minus sign is, after white space. -/
def parseUint (greatest : Nat) (text : String) : Option Nat :=
  match text.toList.dropWhile isSpace with
  | '-' :: _ => none
  | digits => ((readNumber digits).map Int.toNat).filter (· ≤ greatest)

theorem digitValue_of_isDigit {c : Char} (digit : c.isDigit = true) :
    digitValue 10 c = some (c.toNat - '0'.toNat) := by
  have bounds : '0'.toNat ≤ c.toNat ∧ c.toNat ≤ '9'.toNat := by
    simpa [Char.isDigit, Char.le_def, UInt32.le_iff_toNat_le] using digit
  have small : c.toNat - '0'.toNat < 10 := by
    have nine : '9'.toNat = 57 := rfl
    have zero : '0'.toNat = 48 := rfl
    omega
  rw [digitValue, if_pos digit]
  simp only [Option.filter, small, decide_true, if_true]

theorem parseDigits_repr (n : Nat) : parseDigits 10 n.repr.toList = some n := by
  have reads (digits : List Char) (all : ∀ c ∈ digits, c.isDigit = true) (value : Nat) :
      digits.foldlM (fun value c => (digitValue 10 c).map (10 * value + ·)) value =
        some (Nat.ofDigitChars 10 digits value) := by
    induction digits generalizing value with
    | nil => rfl
    | cons c rest ih =>
      rw [List.foldlM_cons, digitValue_of_isDigit (all c List.mem_cons_self)]
      exact ih (fun d member => all d (List.mem_cons_of_mem _ member)) _
  rw [parseDigits, if_neg (repr_ne_nil n), reads _ (fun c member => isDigit_of_mem_repr member) 0,
    Nat.toList_repr, Nat.ofDigitChars_ten_toDigits]

theorem isSpace_of_isDigit {c : Char} (digit : c.isDigit = true) : isSpace c = false := by
  refine decide_eq_false fun member => ?_
  simp only [List.mem_cons, List.not_mem_nil, or_false] at member
  rcases member with rfl | rfl | rfl | rfl | rfl | rfl <;> exact absurd digit (by decide)

/-- What follows the digits of a number decides whether it can be read. -/
theorem readNumber_repr_append (n : Nat) {rest : List Char} (notX : ∀ c ∈ rest.head?, c ≠ 'x' ∧ c ≠ 'X') :
    readNumber (n.repr.toList ++ rest) = (parseDigits 10 (n.repr.toList ++ rest)).map Int.ofNat := by
  have digits {c : Char} (member : c ∈ n.repr.toList) : c.isDigit = true := isDigit_of_mem_repr member
  have some' := repr_ne_nil n
  generalize n.repr.toList = text at digits some'
  obtain ⟨first, more, rfl⟩ := List.exists_cons_of_ne_nil some'
  have ofDigit {c : Char} (second : ∃ tail, more ++ rest = c :: tail) (isX : c = 'x' ∨ c = 'X') : False := by
    obtain ⟨tail, same⟩ := second
    cases more with
    | nil =>
      rw [List.nil_append] at same
      have := notX c (by rw [same]; rfl)
      tauto
    | cons head more =>
      obtain ⟨rfl, -⟩ := List.cons.inj same
      have isDigit := digits (c := head) (by simp)
      rcases isX with rfl | rfl <;> exact absurd isDigit (by decide)
  rw [List.cons_append]
  unfold readNumber
  split
  · rename_i same
    exact (ofDigit ⟨_, (List.cons.inj same).2⟩ (.inl rfl)).elim
  · rename_i same
    exact (ofDigit ⟨_, (List.cons.inj same).2⟩ (.inr rfl)).elim
  · rename_i same
    obtain ⟨rfl, -⟩ := List.cons.inj same
    exact absurd (digits (c := '-') (by simp)) (by decide)
  · rename_i same
    obtain ⟨rfl, -⟩ := List.cons.inj same
    exact absurd (digits (c := '+') (by simp)) (by decide)
  · rfl

theorem readNumber_repr (n : Nat) : readNumber n.repr.toList = some (n : Int) := by
  have none : ∀ c ∈ ([] : List Char).head?, c ≠ 'x' ∧ c ≠ 'X' := by simp
  have read := readNumber_repr_append n none
  rw [List.append_nil, parseDigits_repr] at read
  exact read

/-- A number that was written is read back. -/
theorem parseInt_toString {least greatest i : Int} (lower : least ≤ i) (upper : i ≤ greatest) :
    parseInt least greatest (toString i) = some i := by
  have noSpace : ∀ c ∈ (toString i).toList.head?, isSpace c = false := by
    intro c isHead
    rcases eq_minus_or_isDigit_of_mem (List.mem_of_mem_head? isHead) with rfl | digit
    · rfl
    · exact isSpace_of_isDigit digit
  have number : readNumber (toString i).toList = some i := by
    rw [Int.toString_eq_repr, Int.repr_eq_if]
    split
    · rename_i nonneg
      rw [readNumber_repr, Int.toNat_of_nonneg nonneg]
    · rename_i negative
      rw [String.toList_append]
      change readNumber ('-' :: (-i).toNat.repr.toList) = some i
      rw [readNumber, parseDigits_repr, Option.map_some]
      exact congrArg some (by rw [Int.negOfNat_eq, Int.ofNat_eq_natCast]; omega)
  rw [parseInt, dropWhile_eq_self noSpace, number]
  simp [lower, upper]

/-- Reading a number that may have a minus sign and is followed by something. -/
theorem parseUint_append {greatest : Nat} {text : String} {i : Int} {rest : List Char}
    (written : text.toList = (toString i).toList ++ rest) (notX : ∀ c ∈ rest.head?, c ≠ 'x' ∧ c ≠ 'X') :
    parseUint greatest text = if 0 ≤ i then
      (parseDigits 10 (i.toNat.repr.toList ++ rest)).filter (· ≤ greatest) else none := by
  have noSpace : ∀ c ∈ text.toList.head?, isSpace c = false := by
    intro c isHead
    obtain ⟨digits, last, same, -⟩ := getLast_isDigit i
    have inside : c ∈ (toString i).toList := by
      rw [written, same] at isHead
      rw [same]
      cases digits with
      | nil => simpa using isHead.symm
      | cons first more =>
        have isFirst : first = c := by simpa using isHead
        simp [isFirst]
    rcases eq_minus_or_isDigit_of_mem inside with rfl | digit
    · rfl
    · exact isSpace_of_isDigit digit
  rw [parseUint, dropWhile_eq_self noSpace, written, Int.toString_eq_repr, Int.repr_eq_if]
  split_ifs with nonneg
  · have read := readNumber_repr_append i.toNat notX
    have notMinus : ∀ more, i.toNat.repr.toList ++ rest ≠ '-' :: more := by
      intro more same
      obtain ⟨first, digits, isDigits⟩ := List.exists_cons_of_ne_nil (repr_ne_nil i.toNat)
      have digit : first.isDigit = true := isDigit_of_mem_repr (isDigits ▸ List.mem_cons_self)
      rw [isDigits] at same
      obtain ⟨rfl, -⟩ := List.cons.inj same
      exact absurd digit (by decide)
    split
    · rename_i same
      exact absurd same (notMinus _)
    · rw [read, Option.map_map]
      congr 1
      exact Option.map_id'
  · rw [String.toList_append]
    rfl

theorem parseUint_toString {greatest : Nat} {i : Int} :
    parseUint greatest (toString i) = if 0 ≤ i ∧ i ≤ greatest then some i.toNat else none := by
  have written : (toString i).toList = (toString i).toList ++ [] := (List.append_nil _).symm
  rw [parseUint_append written (by simp), List.append_nil, parseDigits_repr]
  by_cases nonneg : 0 ≤ i
  · rw [if_pos nonneg, Option.filter_some]
    have same : (i.toNat ≤ greatest) ↔ (0 ≤ i ∧ i ≤ greatest) := by omega
    simp only [decide_eq_true_eq, same]
  · rw [if_neg nonneg, if_neg fun both => nonneg both.1]

/-- A number is not read if a character follows it that is no digit. -/
theorem parseUint_eq_none {greatest : Nat} {text : String} {i : Int} {c : Char} {rest : List Char}
    (written : text.toList = (toString i).toList ++ c :: rest) (notX : c ≠ 'x' ∧ c ≠ 'X')
    (notDigit : digitValue 10 c = none) : parseUint greatest text = none := by
  rw [parseUint_append written (by simpa using notX)]
  split_ifs with nonneg
  · have read := parseDigits_repr i.toNat
    rw [parseDigits, if_neg (repr_ne_nil _)] at read
    rw [parseDigits, if_neg (by simp), List.foldlM_append, read]
    simp [notDigit]
  · rfl

/-! ## Paths -/

/-- `path::filename` -/
def filename (path : String) : String :=
  .ofList (path.toList.reverse.takeWhile (· ≠ '/')).reverse

/-- `path::parent_path` -/
def parentPath (path : String) : String :=
  let front := path.toList.reverse.dropWhile (· ≠ '/')
  let parent := front.dropWhile (· = '/')
  if parent = [] ∧ front ≠ [] then "/" else .ofList parent.reverse

section Path

variable {dir name : String} (noSlash : '/' ∉ name.toList)
include noSlash

theorem takeWhile_append_slash (dir : List Char) :
    (name.toList.reverse ++ '/' :: dir).takeWhile (· ≠ '/') = name.toList.reverse ∧
      (name.toList.reverse ++ '/' :: dir).dropWhile (· ≠ '/') = '/' :: dir := by
  have all : ∀ c ∈ name.toList.reverse, decide (c ≠ '/') = true := fun c member =>
    decide_eq_true fun same => noSlash (same ▸ List.mem_reverse.mp member)
  rw [List.takeWhile_append_of_pos all, List.dropWhile_append_of_pos all]
  simp

theorem filename_append : filename (dir ++ "/" ++ name) = name := by
  have reversed : (dir ++ "/" ++ name).toList.reverse =
      name.toList.reverse ++ '/' :: dir.toList.reverse := by simp
  rw [filename, reversed, (takeWhile_append_slash noSlash _).1, List.reverse_reverse,
    String.ofList_toList]

theorem parentPath_append (named : dir ≠ "") (ends : ∀ c ∈ dir.toList.getLast?, c ≠ '/') :
    parentPath (dir ++ "/" ++ name) = dir := by
  have reversed : (dir ++ "/" ++ name).toList.reverse =
      name.toList.reverse ++ '/' :: dir.toList.reverse := by simp
  have parent : ('/' :: dir.toList.reverse).dropWhile (· = '/') = dir.toList.reverse := by
    rw [List.dropWhile_cons_of_pos (by simp)]
    exact dropWhile_eq_self fun c isHead => decide_eq_false (ends c (by rwa [List.head?_reverse] at isHead))
  have some' : dir.toList.reverse ≠ [] := by simpa using named
  simp only [parentPath, reversed, (takeWhile_append_slash noSlash _).2, parent, some', false_and,
    if_false, List.reverse_reverse, String.ofList_toList]

end Path

end Text
