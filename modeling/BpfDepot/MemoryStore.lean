import BpfDepot.Artifact

/-! # Artifacts in memory

A memory store holds blobs by their digests, descriptors by the titles of their
blobs, and manifests by their references. A blob comes in alone, under a name or
with a descriptor that fits it, or with a whole artifact; a manifest comes in when
all its blobs are there. -/

namespace BpfDepot

/-- Blobs and manifests that are held in memory. -/
structure MemoryStore where
  /-- The bytes of the blobs, by digest. -/
  blobs : Dictionary ByteArray := {}
  /-- The descriptors of the blobs that have a title, by title. -/
  names : Dictionary Descriptor := {}
  /-- The manifests, by reference. -/
  manifests : Dictionary Manifest := {}

namespace MemoryStore

/-- The store that holds nothing. -/
def empty : MemoryStore := {}

instance : Inhabited MemoryStore := ⟨empty⟩

/-- Takes in the content of a file; the store, and the descriptor of the content. -/
def add (s : MemoryStore) (name mediaType : String) (bytes : ByteArray) :
    MemoryStore × Descriptor :=
  let descriptor := Descriptor.ofBlob name mediaType bytes none
  ({ s with
      names := s.names.insert name descriptor
      blobs := s.blobs.insert descriptor.digest bytes }, descriptor)

/-- Takes in a blob and the title of its descriptor, if it has one. -/
def insertBlob (s : MemoryStore) (descriptor : Descriptor) (bytes : ByteArray) : MemoryStore :=
  { s with
    names := match descriptor.title? with
      | some name => s.names.insert name descriptor
      | none => s.names
    blobs := s.blobs.insert descriptor.digest bytes }

/-- Takes in a blob that fits its descriptor. -/
def set (s : MemoryStore) (descriptor : Descriptor) (bytes : ByteArray) :
    Except Error MemoryStore := do
  descriptor.verify bytes
  return s.insertBlob descriptor bytes

/-- Takes in a manifest whose blobs are all there; the store, and the digest of the
manifest. -/
def storeManifest (s : MemoryStore) (reference : String) (manifest : Manifest) :
    Except Error (MemoryStore × String) :=
  match manifest.blobs.find? fun blob => !s.blobs.contains blob.digest with
  | some blob => .error (.manifest ("Manifest for " ++ reference
      ++ " references missing blob " ++ blob.digest))
  | none => .ok ({ s with manifests := s.manifests.insert reference manifest }, manifest.digest)

/-- The descriptor and the bytes of the blob that came in last under a title. -/
def getByName? (s : MemoryStore) (name : String) : Option (Descriptor × ByteArray) := do
  let descriptor ← s.names.get? name
  let bytes ← s.blobs.get? descriptor.digest
  return (descriptor, bytes)

/-- The manifest under a reference. -/
def manifest? (s : MemoryStore) (reference : String) : Option Manifest :=
  s.manifests.get? reference

/-- All references, in order. -/
def references (s : MemoryStore) : List String :=
  s.manifests.keys.mergeSort fun a b => decide (a ≤ b)

/-- The bytes of a blob. -/
def blob (s : MemoryStore) (descriptor : Descriptor) : Except Error ByteArray :=
  match s.blobs.get? descriptor.digest with
  | some bytes => .ok bytes
  | none => .error (.manifest ("Blob " ++ descriptor.digest ++ " missing from store"))

/-- The artifact under a reference. -/
def fetch (s : MemoryStore) (reference : String) : Except Error Artifact := do
  match s.manifest? reference with
  | none => throw (.notFound reference)
  | some manifest =>
    let config ← s.blob manifest.config
    let layers ← manifest.layers.mapM s.blob
    return { manifest, config, layers }

/-- Takes in an artifact whose blobs fit; the store, and the digest of the
artifact. -/
def store (s : MemoryStore) (reference : String) (artifact : Artifact) :
    Except Error (MemoryStore × String) := do
  artifact.verify
  let s := artifact.blobs.foldl (fun s blob => s.insertBlob blob.1 blob.2) s
  return ({ s with manifests := s.manifests.insert reference artifact.manifest }, artifact.digest)

end MemoryStore

end BpfDepot
