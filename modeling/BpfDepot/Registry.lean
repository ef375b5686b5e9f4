import BpfDepot.Artifact
import BpfDepot.Log
import BpfDepot.Reference.Client
import BpfDepot.Settings

/-! # Registries

A registry is reached through the network under the reference that the client
makes of an artifact's reference. Whatever can be refused without the network is
refused before the first request. What becomes of requests is given as a
`Network`, and can be anything. -/

namespace BpfDepot

/-- Who asks. -/
structure Credentials where
  /-- The name of the user. -/
  username : Option String
  /-- The password of the user. -/
  password : Option String
  deriving DecidableEq, Repr

namespace Credentials

/-- The variable that holds the name of the user. -/
def usernameVariable : String := "EBPF_OCI_USERNAME"

/-- The variable that holds the password of the user. -/
def passwordVariable : String := "EBPF_OCI_PASSWORD"

/-- Nobody in particular. -/
def anonymous : Credentials := ⟨none, none⟩

/-- The credentials that the environment gives, which count only if both are
there. -/
def ofVariables (lookup : String → Option String) : Credentials :=
  match lookup usernameVariable, lookup passwordVariable with
  | some username, some password => ⟨some username, some password⟩
  | _, _ => anonymous

/-- The name and the password that go with a request, if both are there. -/
def pair? (c : Credentials) : Option (String × String) :=
  match c.username, c.password with
  | some username, some password => some (username, password)
  | _, _ => none

/-- Credentials as they are shown in a log line. -/
def describe (c : Credentials) : String :=
  "RegistryAuth \x7b username: " ++ Text.quotedOption c.username ++ ", password: "
    ++ Text.quotedOption c.password ++ " \x7d"

end Credentials

/-- How a registry is talked to. -/
inductive Scheme where
  | http
  | https
  deriving DecidableEq, Repr

/-- The name of a scheme. -/
def Scheme.name : Scheme → String
  | .http => "http"
  | .https => "https"

/-- What becomes of a request that asks for something. -/
inductive Response (α : Type) where
  /-- It is answered. -/
  | answer (a : α)
  /-- The client gives it up. -/
  | refusal (cause : RequestFault)
  /-- Nobody takes the connection. -/
  | unsent
  /-- It is taken, and not answered as long as the exchange may last. -/
  | silence

/-- What becomes of the requests of a client, which depends on the scheme, the reference
that the client makes, and who asks. -/
structure Network where
  /-- Asks for the manifest under a reference. -/
  manifest : Scheme → Option (String × String) → Reference → Response Manifest
  /-- Asks for the blob of a descriptor. -/
  blob : Scheme → Reference → Descriptor → Response ByteArray
  /-- Offers the blobs of an artifact and then its manifest, and asks where the manifest
  has been put. -/
  offer : Scheme → Option (String × String) → Reference → Artifact → Response String

namespace Network

/-- Nobody takes a connection. -/
def unreachable : Network where
  manifest _ _ _ := .unsent
  blob _ _ _ := .unsent
  offer _ _ _ _ := .unsent

/-- Connections are taken and never answered. -/
def silent : Network where
  manifest _ _ _ := .silence
  blob _ _ _ := .silence
  offer _ _ _ _ := .silence

end Network

/-- A client of all registries. -/
structure Registry where
  /-- Which registries are trusted, and how long to wait. -/
  settings : Settings := {}
  /-- Who asks. -/
  credentials : Credentials := .anonymous
  /-- What becomes of requests. -/
  network : Network := .unreachable

namespace Registry

/-- The scheme for a host, which is unencrypted only if the settings name the host,
character for character. -/
def scheme (r : Registry) (host : String) : Scheme :=
  if r.settings.isInsecure host then .http else .https

/-- Whether a byte stands for itself in the path of an address. -/
def isPathByte (b : UInt8) : Bool :=
  0x20 < b && b < 0x7F && !"\"#<>?`\x7b\x7d".toUTF8.toList.contains b

/-- A text as a part of the path of an address: a byte that cannot stand for itself
is written with a percent sign and two digits. -/
def pathText (text : String) : String :=
  String.ofList (text.toUTF8.toList.flatMap fun b =>
    if isPathByte b then [Char.ofNat b.toNat] else '%' :: (Text.byteDigits b).map Char.toUpper)

/-- What a client asks for. -/
inductive Request where
  /-- Asks for the manifest under a tag or a digest. -/
  | manifest (name : String)
  /-- Asks for the blob with a digest. -/
  | blob (digest : String)
  /-- Asks for a place to send a blob to. -/
  | upload
  deriving DecidableEq, Repr

/-- The address of a request. -/
def address (r : Registry) (client : Reference) (request : Request) : String :=
  (r.scheme client.registry).name ++ "://" ++ client.registry ++ "/v2/" ++ client.repository ++ "/"
    ++ match request with
      | .manifest name => "manifests/" ++ pathText name
      | .blob digest => "blobs/" ++ pathText digest
      | .upload => "blobs/uploads/"

/-- The reference that the client makes of a reference. -/
def clientReference (reference : Reference) : Except Error Reference :=
  match Client.resolve reference.full with
  | .ok client => .ok client
  | .error fault =>
    .error (.invalidReference ("'" ++ reference.full ++ "': " ++ fault.message))

/-- Reads a reference. -/
def parse (text : String) : Except Error Reference :=
  match Reference.parse text with
  | .ok reference => .ok reference
  | .error fault => .error (.invalidReference fault.message)

/-- What a response comes to in an exchange for the artifact under `text`. Silence ends
the exchange at the limit, and without a limit when the connection breaks. -/
def settle {α : Type} (r : Registry) (verb text : String) (reference client : Reference)
    (request : Request) : Response α → Except Error α
  | .answer a => .ok a
  | .refusal cause => .error (.registry reference.registry cause)
  | .unsent => .error (.registry reference.registry (.notSent (r.address client request)))
  | .silence =>
    match r.settings.timeout? with
    | some seconds =>
      .error (.timeout (verb ++ " " ++ text ++ " did not finish within " ++ toString seconds ++ "s"))
    | none => .error (.registry reference.registry (.notSent (r.address client request)))

/-- Gets the manifest under a reference and its blobs one by one. What is logged of the
answers is left out. -/
def pullArtifact (r : Registry) (text : String) (reference : Reference) :
    Except Error Artifact := do
  let client ← clientReference reference
  let scheme := r.scheme client.registry
  let manifest ← r.settle "pull" text reference client
    (.manifest ((client.digest <|> client.tag).getD Reference.defaultTag))
    (r.network.manifest scheme r.credentials.pair? client)
  let blob (descriptor : Descriptor) : Except Error ByteArray :=
    r.settle "pull" text reference client (.blob descriptor.digest)
      (r.network.blob scheme client descriptor)
  let config ← blob manifest.config
  let layers ← manifest.layers.mapM blob
  return { manifest, config, layers }

/-- Asks for an artifact, which has to pass its check. -/
def fetch (r : Registry) (text : String) : Except Error Artifact := do
  let reference ← parse text
  let artifact ← r.pullArtifact text reference
  artifact.verify
  return artifact

/-- Sends an artifact. Its layers are logged before the first request. -/
def pushArtifact {m : Type → Type} [Monad m] [Log m] (r : Registry) (text : String)
    (reference : Reference) (artifact : Artifact) : ExceptT Error m String := do
  let client ← clientReference reference
  for (descriptor, bytes) in artifact.manifest.layers.zip artifact.layers do
    Log.emit (m := m) {
      level := .debug
      message := "Pushing layer"
      fields := [("digest", .text descriptor.digest), ("size", .number bytes.size)] }
  let url ← r.settle "push" text reference client .upload
    (r.network.offer (r.scheme client.registry) r.credentials.pair? client artifact)
  Log.emit (m := m) {
    level := .debug
    message := "Manifest pushed"
    fields := [("manifest_url", .text url)] }
  return artifact.digest

/-- Offers an artifact, which has to pass its check. -/
def store {m : Type → Type} [Monad m] [Log m] (r : Registry) (text : String)
    (artifact : Artifact) : m (Except Error String) := ExceptT.run do
  let reference ← parse text
  artifact.verify
  r.pushArtifact text reference artifact

end Registry

end BpfDepot
