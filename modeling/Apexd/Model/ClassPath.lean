import Apexd.Text.Split
import Mathlib.Data.Finset.Insert

/-! # Class paths

`ParseFromFile` of `apex_classpath.cpp` finds out which packages have jars on a class path, from
what `derive_classpath` printed.
-/

namespace Apexd

/-- The class `ClassPath`. -/
structure ClassPath where
  packagesWithClasspathJars : Finset String

/-- `regex_search` with `^/apex/([^/]+)/`, and what the group matches. -/
def captureApexPackageName (jarPath : String) : Option String :=
  match Text.consumePrefix jarPath "/apex/" with
  | none => none
  | some rest =>
    let name := rest.toList.takeWhile (· ≠ '/')
    if name ≠ [] ∧ '/' ∈ rest.toList then some (.ofList name) else none

namespace ClassPath

def empty : ClassPath where
  packagesWithClasspathJars := ∅

def addPackageWithClasspathJars (classPath : ClassPath) (package : String) : ClassPath where
  packagesWithClasspathJars := insert package classPath.packagesWithClasspathJars

def hasClassPathJars (classPath : ClassPath) (package : String) : Bool :=
  decide (package ∈ classPath.packagesWithClasspathJars)

def addJar (classPath : ClassPath) (jarPath : String) : ClassPath :=
  match captureApexPackageName jarPath with
  | some package => classPath.addPackageWithClasspathJars package
  | none => classPath

/-- The third of the elements separated by spaces are the jars, separated by colons. -/
def jarsOfLine (line : String) : List String :=
  match Text.split ' ' line with
  | _ :: _ :: jarsList :: _ => Text.split ':' jarsList
  | _ => []

def addLine (classPath : ClassPath) (line : String) : ClassPath :=
  (jarsOfLine line).foldl addJar classPath

/-- `ParseFromFile`, of a file that cannot be read or that has the given contents. -/
def parseFromFile : Option String → Except String ClassPath
  | none => .error "Failed to read classpath info from file"
  | some contents => .ok ((Text.split '\n' contents).foldl addLine empty)

end ClassPath

end Apexd
