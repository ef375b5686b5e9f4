import BpfDepot.Text.Quoted

/-! # What can go wrong

Every operation on packages fails with an `Error`: a class of failure, with the
detail that its message shows. Faults of the file system and of the network have
types of their own, because other layers raise and pass them on. -/

namespace BpfDepot

/-- A failure that the file system reports. -/
inductive FileFault where
  /-- A name on the way is not there. -/
  | notFound
  /-- Something other than a directory stands where a directory is needed. -/
  | notDirectory
  /-- A directory stands where a file is needed. -/
  | isDirectory
  /-- Something stands where a directory is to be made. -/
  | alreadyExists
  /-- A directory that is to give way still has entries. -/
  | notEmpty
  /-- A file that is read as text is not encoded text. -/
  | notText
  /-- Any other failure, in its own words. -/
  | other (text : String)
  deriving DecidableEq, Repr

/-- The wording of a failure of the file system. -/
def FileFault.message : FileFault → String
  | .notFound => "No such file or directory (os error 2)"
  | .notDirectory => "Not a directory (os error 20)"
  | .isDirectory => "Is a directory (os error 21)"
  | .alreadyExists => "File exists (os error 17)"
  | .notEmpty => "Directory not empty (os error 39)"
  | .notText => "stream did not contain valid UTF-8"
  | .other text => text

/-- A failure to talk to a registry. -/
inductive RequestFault where
  /-- A request could not be sent to its address. -/
  | notSent (address : String)
  /-- The client gave up for a reason of its own. -/
  | generic (reason : Option String)
  /-- Any other failure, in its own words. -/
  | other (text : String)
  deriving DecidableEq, Repr

/-- The wording of a failure to talk to a registry. -/
def RequestFault.message : RequestFault → String
  | .notSent address => "error sending request for url (" ++ address ++ ")"
  | .generic reason => "Generic error: " ++ Text.quotedOption reason
  | .other text => text

/-- Why an operation on packages failed. -/
inductive Error where
  /-- A value could not be written to or read from a document. -/
  | serialization (detail : String)
  /-- The configuration inside a package is not a configuration document. -/
  | configDecode (detail : String)
  /-- A manifest does not fit its blobs. -/
  | manifest (detail : String)
  /-- A fetched artifact lacks one of the files of a package. -/
  | missingEntry (name reference : String)
  /-- A blob has another digest than its descriptor says. -/
  | digestMismatch (expected actual : String)
  /-- A text is no reference, or none that a client accepts. -/
  | invalidReference (detail : String)
  /-- No artifact is stored under a reference. -/
  | notFound (reference : String)
  /-- A registry could not be talked to. -/
  | registry (host : String) (cause : RequestFault)
  /-- An exchange with a registry took too long. -/
  | timeout (detail : String)
  /-- The local package store failed. -/
  | store (detail : String)
  /-- The settings could not be established. -/
  | config (detail : String)
  /-- The file system failed where no operation gives it a message. -/
  | io (cause : FileFault)
  deriving DecidableEq, Repr

/-- The message of an error. -/
def Error.message : Error → String
  | .serialization detail => "Serialization error: " ++ detail
  | .configDecode detail => "Config decode error: " ++ detail
  | .manifest detail => "Manifest error: " ++ detail
  | .missingEntry name reference => "could not find " ++ name ++ " in manifest for " ++ reference
  | .digestMismatch expected actual => "Digest mismatch: expected " ++ expected ++ ", got " ++ actual
  | .invalidReference detail => "Invalid reference: " ++ detail
  | .notFound reference => "Artifact not found: " ++ reference
  | .registry host cause => "Registry error: " ++ host ++ " - " ++ cause.message
  | .timeout detail => "Timeout: " ++ detail
  | .store detail => "Store error: " ++ detail
  | .config detail => "Configuration error: " ++ detail
  | .io cause => "I/O error: " ++ cause.message

instance : ToString Error := ⟨Error.message⟩

end BpfDepot
