import Apexd.Model.ClassPath

/-! # Class paths are parsed exactly

A package has jars on a class path exactly if one of the jars printed lies in its directory.
-/

namespace Apexd

theorem captureApexPackageName_eq_some {jarPath package : String} :
    captureApexPackageName jarPath = some package ↔
      package ≠ "" ∧ '/' ∉ package.toList ∧
        Text.startsWith jarPath ("/apex/" ++ package ++ "/") = true := by
  rw [Text.startsWith_iff]
  constructor
  · intro captured
    unfold captureApexPackageName at captured
    split at captured
    · cases captured
    next rest consumed =>
      simp only at captured
      split at captured
      · next found =>
        cases captured
        obtain ⟨front, back, split, fresh⟩ := List.eq_append_cons_of_mem found.2
        have name : rest.toList.takeWhile (· ≠ '/') = front := by
          rw [split, List.takeWhile_append_of_pos fun c member => by
            simpa using fun same : c = '/' => fresh (same ▸ member)]
          simp
        simp only [name] at found ⊢
        refine ⟨fun empty => found.1 ?_, by rwa [String.toList_ofList], .ofList back, ?_⟩
        · simpa using congrArg String.toList empty
        · have text : rest = .ofList front ++ "/" ++ .ofList back := by
            apply String.toList_inj.mp
            simp [split]
          rw [Text.consumePrefix_eq_some.mp consumed, text]
          simp only [String.append_assoc]
      · cases captured
  · rintro ⟨nonempty, fresh, back, rfl⟩
    have consumed : Text.consumePrefix ("/apex/" ++ package ++ "/" ++ back) "/apex/" =
        some (package ++ "/" ++ back) :=
      Text.consumePrefix_eq_some.mpr (by simp only [String.append_assoc])
    have name : (package ++ "/" ++ back).toList.takeWhile (· ≠ '/') = package.toList := by
      rw [String.toList_append, String.toList_append, List.append_assoc,
        List.takeWhile_append_of_pos fun c member => by
          simpa using fun same : c = '/' => fresh (same ▸ member)]
      simp
    have some : package.toList ≠ [] := fun empty => nonempty (String.toList_inj.mp empty)
    rw [captureApexPackageName, consumed]
    simp only [name]
    rw [if_pos ⟨some, by simp⟩, String.ofList_toList]

namespace ClassPath

/-! ## The loops -/

theorem mem_addJar {classPath : ClassPath} {jarPath package : String} :
    package ∈ (classPath.addJar jarPath).packagesWithClasspathJars ↔
      captureApexPackageName jarPath = some package ∨
        package ∈ classPath.packagesWithClasspathJars := by
  unfold addJar
  cases captureApexPackageName jarPath with
  | none => simp
  | some captured =>
    simp only [addPackageWithClasspathJars, Finset.mem_insert, Option.some.injEq, eq_comm]

/-- What every step of a fold adds to a property holds of the result if some element adds it. -/
theorem foldl_iff {α β : Type} {f : β → α → β} {P : β → Prop} {Q : α → Prop}
    (step : ∀ b a, P (f b a) ↔ Q a ∨ P b) (elements : List α) :
    ∀ b, P (elements.foldl f b) ↔ (∃ a ∈ elements, Q a) ∨ P b := by
  induction elements with
  | nil => simp
  | cons a rest ih =>
    intro b
    rw [List.foldl_cons, ih, step, ← or_assoc, or_comm (b := Q a)]
    simp only [List.mem_cons, exists_eq_or_imp]

theorem mem_addLine {classPath : ClassPath} {line package : String} :
    package ∈ (classPath.addLine line).packagesWithClasspathJars ↔
      (∃ jar ∈ jarsOfLine line, captureApexPackageName jar = some package) ∨
        package ∈ classPath.packagesWithClasspathJars :=
  foldl_iff (P := fun classPath => package ∈ classPath.packagesWithClasspathJars)
    (Q := fun jar => captureApexPackageName jar = some package)
    (fun _ _ => mem_addJar) (jarsOfLine line) classPath

theorem mem_addLines {classPath : ClassPath} {lines : List String} {package : String} :
    package ∈ (lines.foldl addLine classPath).packagesWithClasspathJars ↔
      (∃ line ∈ lines, ∃ jar ∈ jarsOfLine line, captureApexPackageName jar = some package) ∨
        package ∈ classPath.packagesWithClasspathJars :=
  foldl_iff (P := fun classPath => package ∈ classPath.packagesWithClasspathJars)
    (Q := fun line => ∃ jar ∈ jarsOfLine line, captureApexPackageName jar = some package)
    (fun _ _ => mem_addLine) lines classPath

end ClassPath

/-! ## The format -/

/-- What `derive_classpath` prints on one line. -/
structure ClassPathEntry where
  var : String
  jars : List String
  /-- whether a space follows a variable without jars -/
  trailingSpace : Bool

namespace ClassPathEntry

def elements (entry : ClassPathEntry) : List String :=
  "export" :: entry.var ::
    if entry.jars = [] ∧ entry.trailingSpace = false then [] else [Text.join ':' entry.jars]

def print (entry : ClassPathEntry) : String :=
  Text.join ' ' entry.elements

/-- Variables and jars are without spaces, colons and newlines. -/
def IsPrintable (entry : ClassPathEntry) : Prop :=
  ∀ word ∈ entry.var :: entry.jars, ∀ c ∈ [' ', ':', '\n'], c ∉ word.toList

instance (entry : ClassPathEntry) : Decidable entry.IsPrintable :=
  decidable_of_iff ((entry.var :: entry.jars).all (fun word =>
    [' ', ':', '\n'].all fun c => !word.toList.contains c) = true) (by simp [IsPrintable])

/-- The lines, each of which is ended by a newline. -/
def printAll (entries : List ClassPathEntry) : String :=
  Text.join '\n' (entries.map print ++ [""])

variable {entry : ClassPathEntry}

theorem IsPrintable.elements_fresh (printable : entry.IsPrintable) {c : Char}
    (special : c = ' ' ∨ c = '\n') : ∀ element ∈ entry.elements, c ∉ element.toList := by
  have listed : c ∈ [' ', ':', '\n'] := by
    rcases special with rfl | rfl
    · decide
    · decide
  have jars : c ∉ (Text.join ':' entry.jars).toList := by
    intro inside
    rcases Text.mem_join inside with colon | ⟨jar, member, found⟩
    · rcases special with rfl | rfl
      · exact absurd colon (by decide)
      · exact absurd colon (by decide)
    · exact printable jar (List.mem_cons_of_mem _ member) c listed found
  have keyword : c ∉ "export".toList := by
    rcases special with rfl | rfl
    · decide
    · decide
  intro element member
  simp only [elements, List.mem_cons] at member
  rcases member with rfl | rfl | rest
  · exact keyword
  · exact printable _ List.mem_cons_self c listed
  · split at rest
    · cases rest
    · cases List.mem_singleton.mp rest
      exact jars

theorem IsPrintable.newline_notMem (printable : entry.IsPrintable) :
    '\n' ∉ entry.print.toList := by
  intro inside
  rcases Text.mem_join inside with space | ⟨element, member, found⟩
  · exact absurd space (by decide)
  · exact printable.elements_fresh (.inr rfl) element member found

/-- A line is parsed into the jars that it was printed from, but for an empty path where there
are none. -/
theorem IsPrintable.capture_jarsOfLine (printable : entry.IsPrintable) {package : String} :
    (∃ jar ∈ ClassPath.jarsOfLine entry.print, captureApexPackageName jar = some package) ↔
      ∃ jar ∈ entry.jars, captureApexPackageName jar = some package := by
  have split : Text.split ' ' entry.print = entry.elements :=
    Text.split_join (by simp [elements]) (printable.elements_fresh (.inl rfl))
  unfold ClassPath.jarsOfLine
  rw [split]
  by_cases none : entry.jars = []
  · -- with or without the space: no jar, or the empty one, which is no path
    have empty : captureApexPackageName "" ≠ some package := by
      have : captureApexPackageName "" = .none := by decide +kernel
      rw [this]
      exact nofun
    cases spaced : entry.trailingSpace with
    | false => simp [elements, none, spaced]
    | true =>
      have one : Text.split ':' (Text.join ':' []) = [""] := by decide +kernel
      simp [elements, none, spaced, one, empty]
  · have jars : Text.split ':' (Text.join ':' entry.jars) = entry.jars :=
      Text.split_join none fun jar member =>
        printable jar (List.mem_cons_of_mem _ member) ':' (by decide)
    simp only [elements, none, false_and, if_false, jars]

end ClassPathEntry

open ClassPathEntry in
/-- The packages with jars are those whose directory holds one of the jars printed. -/
theorem parseFromFile_printAll {entries : List ClassPathEntry}
    (printable : ∀ entry ∈ entries, entry.IsPrintable) :
    ∃ classPath, ClassPath.parseFromFile (some (printAll entries)) = .ok classPath ∧
      ∀ package : String, package ≠ "" → '/' ∉ package.toList →
        (classPath.hasClassPathJars package = true ↔
          ∃ entry ∈ entries, ∃ jar ∈ entry.jars,
            Text.startsWith jar ("/apex/" ++ package ++ "/") = true) := by
  refine ⟨_, rfl, fun package nonempty fresh => ?_⟩
  have lines : Text.split '\n' (printAll entries) = entries.map print ++ [""] := by
    refine Text.split_join (by simp) fun line member => ?_
    rcases List.mem_append.mp member with printed | last
    · obtain ⟨entry, inside, rfl⟩ := List.mem_map.mp printed
      exact (printable entry inside).newline_notMem
    · cases List.mem_singleton.mp last
      exact List.not_mem_nil
  have nothing : ClassPath.jarsOfLine "" = [] := by decide +kernel
  have capture {jar : String} : captureApexPackageName jar = some package ↔
      Text.startsWith jar ("/apex/" ++ package ++ "/") = true := by
    rw [captureApexPackageName_eq_some]
    simp [nonempty, fresh]
  rw [ClassPath.hasClassPathJars, decide_eq_true_iff, lines, ClassPath.mem_addLines]
  constructor
  · rintro (⟨line, member, jar, found, captured⟩ | old)
    · rcases List.mem_append.mp member with printed | last
      · obtain ⟨entry, inside, rfl⟩ := List.mem_map.mp printed
        obtain ⟨jar, listed, same⟩ :=
          (printable entry inside).capture_jarsOfLine.mp ⟨jar, found, captured⟩
        exact ⟨entry, inside, jar, listed, capture.mp same⟩
      · cases List.mem_singleton.mp last
        rw [nothing] at found
        cases found
    · cases old
  · rintro ⟨entry, inside, jar, listed, starts⟩
    obtain ⟨jar, found, captured⟩ :=
      (printable entry inside).capture_jarsOfLine.mpr ⟨jar, listed, capture.mpr starts⟩
    exact .inl ⟨entry.print, List.mem_append_left _ (List.mem_map_of_mem inside), jar, found,
      captured⟩

/-- Two jars in the directories of two packages, one of whose names starts with the other. -/
theorem parseFromFile_printAll_media : ∃ classPath,
    ClassPath.parseFromFile (some (ClassPathEntry.printAll
      [⟨"BOOTCLASSPATH", ["/apex/media/a", "/apex/mediaprovider"], false⟩])) = .ok classPath ∧
    classPath.hasClassPathJars "media" = true := by
  have printable : ∀ entry ∈ [(⟨"BOOTCLASSPATH", ["/apex/media/a", "/apex/mediaprovider"], false⟩ :
      ClassPathEntry)], entry.IsPrintable := List.forall_mem_singleton.mpr (by decide +kernel)
  obtain ⟨classPath, parsed, classified⟩ := parseFromFile_printAll printable
  refine ⟨classPath, parsed, (classified "media" (by simp) (by decide +kernel)).mpr ?_⟩
  exact ⟨_, List.mem_singleton_self _, "/apex/media/a", List.mem_cons_self, by decide +kernel⟩

end Apexd
