import BpfDepot.Text.Blank
import BpfDepot.Text.Cut

/-! # Artifact references

A reference names an artifact in a registry: the registry, the repository in it,
and a tag, a digest or both. `Reference.parse` reads what a person types and
fills in what is left out: the default registry, its folder for repositories
without a folder of their own, and the default tag. `Reference.full` writes a
reference with nothing left out, which is the key under which packages are
stored. -/

namespace BpfDepot

/-- The name of an artifact in a registry. -/
structure Reference where
  /-- The host of the registry, with its port if it has one. -/
  registry : String
  /-- The path of the repository in the registry. -/
  repository : String
  /-- The tag. -/
  tag : Option String
  /-- The digest, the name of its algorithm included. -/
  digest : Option String
  deriving DecidableEq, Repr

namespace Reference

/-- The registry of a reference that names none. -/
def defaultRegistry : String := "docker.io"

/-- The tag of a reference that has neither tag nor digest. -/
def defaultTag : String := "latest"

/-- The folder in the default registry of a repository that names no folder. -/
def defaultFolder : String := "library"

/-- Why a text is no reference. Each fault but the first names the text. -/
inductive Fault where
  /-- There is nothing but blanks. -/
  | empty
  /-- What follows the last at sign has no colon after an algorithm. -/
  | digestWithoutAlgorithm (text : String)
  /-- Nothing follows the colon before a tag. -/
  | emptyTag (text : String)
  /-- Nothing is left for the repository. -/
  | emptyRepository (text : String)
  deriving DecidableEq, Repr

/-- The wording of a fault. -/
def Fault.message : Fault → String
  | .empty => "Empty reference"
  | .digestWithoutAlgorithm text => "Invalid digest in '" ++ text ++ "': expected algorithm:hex"
  | .emptyTag text => "Empty tag in '" ++ text ++ "'"
  | .emptyRepository text => "Empty repository in '" ++ text ++ "'"

/-- Whether the part of a name before its first slash is the host of a registry:
it has a point or a colon, or is the local host. -/
def isRegistry (part : List Char) : Bool :=
  part.contains '.' || part.contains ':' || part == "localhost".toList

/-- Splits off the tag: it follows the last colon, unless a slash follows that
colon. -/
def splitTag (text : List Char) : List Char × Option (List Char) :=
  match Text.cutLast? ':' text with
  | some (name, tag) => if tag.contains '/' then (text, none) else (name, some tag)
  | none => (text, none)

/-- Splits off the digest, which follows the last at sign. -/
def splitDigest (text : List Char) : List Char × Option (List Char) :=
  match Text.cutLast? '@' text with
  | some (name, digest) => (name, some digest)
  | none => (text, none)

/-- The registry and the repository that a name stands for, if it names a
repository at all. -/
def splitRegistry (name : List Char) : Option (List Char × List Char) :=
  let whole :=
    if name = [] then none
    else if name.contains '/' then some (defaultRegistry.toList, name)
    else some (defaultRegistry.toList, defaultFolder.toList ++ '/' :: name)
  match Text.cutFirst? '/' name with
  | some (first, rest) =>
    if isRegistry first then if rest = [] then none else some (first, rest) else whole
  | none => whole

/-- Reads a text without blanks at its ends. -/
def parseTrimmed (text : List Char) : Except Fault Reference :=
  if text = [] then .error .empty
  else
    let (nameTag, digest) := splitDigest text
    if digest.any fun d => !d.contains ':' then
      .error (.digestWithoutAlgorithm (String.ofList text))
    else
      let (name, tag) := splitTag nameTag
      if tag = some [] then .error (.emptyTag (String.ofList text))
      else
        match splitRegistry name with
        | none => .error (.emptyRepository (String.ofList text))
        | some (registry, repository) =>
          .ok {
            registry := String.ofList registry
            repository := String.ofList repository
            tag := match tag, digest with
              | some tag, _ => some (String.ofList tag)
              | none, none => some defaultTag
              | none, some _ => none
            digest := digest.map String.ofList }

/-- Reads a reference, blanks at its ends aside. -/
def parse (text : String) : Except Fault Reference :=
  parseTrimmed (Text.trim text.toList)

/-- The reference with nothing left out. -/
def full (r : Reference) : String :=
  r.registry ++ "/" ++ r.repository
    ++ (match r.tag with | some tag => ":" ++ tag | none => "")
    ++ (match r.digest with | some digest => "@" ++ digest | none => "")

/-- The key under which the artifact that a text refers to is stored. -/
def canonical (text : String) : Except Fault String :=
  (parse text).map full

instance : ToString Reference := ⟨full⟩

end Reference

end BpfDepot
