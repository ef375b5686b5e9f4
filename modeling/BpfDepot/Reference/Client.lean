import BpfDepot.Reference
import BpfDepot.Text.Word

/-! # References on the wire

A registry client has a grammar of its own for references, stricter than the one
that `Reference.parse` accepts. A text is a name, an optional tag after a colon
and an optional digest after an at sign. The name is a path of components in
lower case, and its first part may be a host instead. `Client.resolve` reads a
text by that grammar and splits the name into the registry and the repository
that the client talks to. -/

namespace BpfDepot.Client

/-- Why a client refuses a reference. -/
inductive Fault where
  /-- The text is not of the form of a reference. -/
  | format
  /-- The repository has more than 255 bytes. -/
  | repositoryTooLong
  /-- The digest is of no algorithm that the client knows. -/
  | unknownAlgorithm
  /-- The digest has not the length of a digest of its algorithm. -/
  | digestLength
  deriving DecidableEq, Repr

/-- The wording of a fault. -/
def Fault.message : Fault → String
  | .format => "invalid reference format"
  | .repositoryTooLong => "repository name must not be more than 255 characters"
  | .unknownAlgorithm => "unsupported digest algorithm"
  | .digestLength => "invalid checksum digest length"

/-! ## The grammar -/

/-- Whether a character is a letter of the ASCII range. -/
def isLetter (c : Char) : Bool := c.isAlpha

/-- Whether a character is a letter or a digit of the ASCII range. -/
def isLetterOrDigit (c : Char) : Bool := c.isAlphanum

/-- Whether a character is a small letter or a digit of the ASCII range. -/
def isSmallOrDigit (c : Char) : Bool := c.isLower || c.isDigit

/-- What a path component read so far ends with. -/
inductive Ending where
  /-- Nothing has been read. -/
  | nothing
  /-- A small letter or a digit. -/
  | letter
  /-- One point. -/
  | point
  /-- One underscore. -/
  | underscore
  /-- Two underscores. -/
  | underscores
  /-- Hyphens, any number of them. -/
  | hyphens
  deriving DecidableEq, Repr

/-- What a component ends with after one more character, if it can go on so. -/
def Ending.next? (ending : Ending) (c : Char) : Option Ending :=
  if isSmallOrDigit c then some .letter
  else match ending, c with
    | .letter, '.' => some .point
    | .letter, '_' => some .underscore
    | .underscore, '_' => some .underscores
    | .letter, '-' => some .hyphens
    | .hyphens, '-' => some .hyphens
    | _, _ => none

/-- Whether a text completes a path component that ends in the given way. -/
def isComponentAfter (ending : Ending) : List Char → Bool
  | [] => ending == .letter
  | c :: rest =>
    match ending.next? c with
    | some ending => isComponentAfter ending rest
    | none => false

/-- Whether a text is a path component: runs of small letters and digits with a
point, one or two underscores or hyphens between them. -/
def isComponent (text : List Char) : Bool := isComponentAfter .nothing text

/-- Whether a text is one label of a host: letters, digits and hyphens, no hyphen
at either end. -/
def isLabel (text : List Char) : Bool :=
  text.all (fun c => isLetterOrDigit c || c == '-')
    && text.head?.any isLetterOrDigit && text.getLast?.any isLetterOrDigit

/-- Whether a text is a host: labels with points between them, then an optional
port after a colon. -/
def isHost (text : List Char) : Bool :=
  let labels (host : List Char) := (Text.pieces '.' host).all isLabel
  match Text.cutFirst? ':' text with
  | some (host, port) => labels host && !port.isEmpty && port.all Char.isDigit
  | none => labels text

/-- Whether a text is a name: path components with slashes between them, where
the first of several may be a host. -/
def isName (text : List Char) : Bool :=
  match Text.pieces '/' text with
  | [] => false
  | first :: others =>
    others.all isComponent && (isComponent first || (!others.isEmpty && isHost first))

/-- Whether a text is a tag: a word character, then at most 127 word characters,
points and hyphens. -/
def isTag : List Char → Bool
  | [] => false
  | c :: rest =>
    Text.isWord c && rest.length ≤ 127
      && rest.all fun c => Text.isWord c || c == '.' || c == '-'

/-- Whether a text completes the name of a digest algorithm: words that begin with
a letter, with a hyphen, underscore, plus sign or point between them. `fresh`
says that the next character begins a word. -/
def isAlgorithmAfter (fresh : Bool) : List Char → Bool
  | [] => !fresh
  | c :: rest =>
    if fresh then isLetter c && isAlgorithmAfter false rest
    else if isLetterOrDigit c then isAlgorithmAfter false rest
    else ['-', '_', '+', '.'].contains c && isAlgorithmAfter true rest

/-- Whether a character is a digit to the base 16. -/
def isHexDigit (c : Char) : Bool :=
  c.isDigit || ('a' ≤ c && c ≤ 'f') || ('A' ≤ c && c ≤ 'F')

/-- Whether a text is a digest: an algorithm, a colon, and at least 32 digits to
the base 16. -/
def isDigest (text : List Char) : Bool :=
  match Text.cutFirst? ':' text with
  | some (algorithm, digits) =>
    isAlgorithmAfter true algorithm && 32 ≤ digits.length && digits.all isHexDigit
  | none => false

/-! ## Resolution -/

/-- A second name of the default registry. -/
def legacyRegistry : String := "index.docker.io"

/-- The registry and repository that a name stands for. The second name of the
default registry gives way to the first, and there a repository without a folder
is looked for in the default folder. -/
def splitName (name : List Char) : String × String :=
  let (registry, repository) :=
    match Text.cutFirst? '/' name with
    | some (first, rest) =>
      if Reference.isRegistry first then (String.ofList first, rest)
      else (Reference.defaultRegistry, name)
    | none => (Reference.defaultRegistry, name)
  let registry := if registry = legacyRegistry then Reference.defaultRegistry else registry
  if registry = Reference.defaultRegistry && !repository.contains '/' then
    (registry, String.ofList (Reference.defaultFolder.toList ++ '/' :: repository))
  else (registry, String.ofList repository)

/-- Whether the client knows the algorithm of a digest and the digest has the
length that belongs to it. The algorithm is read off the first six characters. -/
def checkDigest (digest : List Char) : Except Fault Unit :=
  let digits := (digest.drop 7).length
  let sized (length : Nat) : Except Fault Unit :=
    if digits = length then .ok () else .error .digestLength
  match String.ofList (digest.take 6) with
  | "sha256" => sized 64
  | "sha384" => sized 96
  | "sha512" => sized 128
  | _ => .error .unknownAlgorithm

/-- The reference that a client makes of a text. -/
def resolve (text : String) : Except Fault Reference :=
  let (nameTag, digest) := Reference.splitDigest text.toList
  let (name, tag) := Reference.splitTag nameTag
  if !(isName name && tag.all isTag && digest.all isDigest) then .error .format
  else
    let (registry, repository) := splitName name
    if 255 < repository.utf8ByteSize then .error .repositoryTooLong
    else do
      match digest with
      | some digest => checkDigest digest
      | none => pure ()
      return {
        registry, repository
        tag := match tag, digest with
          | some tag, _ => some (String.ofList tag)
          | none, none => some Reference.defaultTag
          | none, some _ => none
        digest := digest.map String.ofList }

end BpfDepot.Client
