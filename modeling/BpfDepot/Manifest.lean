import BpfDepot.Descriptor

/-! # Manifests

A manifest lists the blobs of an artifact: one configuration and its layers. The
digest of an artifact is the digest of the document that its manifest is written
as, so that document has a fixed form: nothing between its parts, the fields in a
fixed order, and nothing for a field that is absent. -/

namespace BpfDepot

/-- The list of the blobs of an artifact. -/
structure Manifest where
  /-- The version of the form, a number of eight bits. -/
  schemaVersion : Nat
  /-- The type of the manifest itself. -/
  mediaType : Option String := none
  /-- The configuration. -/
  config : Descriptor
  /-- The layers, in order. -/
  layers : List Descriptor
  /-- The type of the artifact. -/
  artifactType : Option String := none
  /-- Annotations of the artifact. -/
  annotations : Option (Dictionary String) := none
  deriving DecidableEq

namespace Manifest

/-- The type of the manifests that are made here. -/
def imageMediaType : String := "application/vnd.oci.image.manifest.v1+json"

/-- The fields of a manifest in a document. -/
def codec : Json.Codec Manifest :=
  (Json.Codec.record "OciImageManifest"
    (.required "schemaVersion" .byte
    (.optional "mediaType" .text
    (.required "config" Descriptor.codec
    (.required "layers" (.list Descriptor.codec)
    (.optional "artifactType" .text
    (.optional "annotations" (.dictionary .text) .nil))))))).via
    (fun m => (m.schemaVersion, m.mediaType, m.config, m.layers, m.artifactType, m.annotations, ()))
    (fun (schemaVersion, mediaType, config, layers, artifactType, annotations, _) =>
      { schemaVersion, mediaType, config, layers, artifactType, annotations })

/-- The document that a manifest is written as. -/
def document (m : Manifest) : String := codec.encode m

/-- The bytes of the document. -/
def encode (m : Manifest) : ByteArray := m.document.toUTF8

/-- The descriptor of the document. -/
def descriptor (m : Manifest) : Descriptor where
  mediaType := imageMediaType
  digest := Digest.ofBytes m.encode
  size := m.encode.size

/-- The digest of the document. -/
def digest (m : Manifest) : String := m.descriptor.digest

/-- The manifest of a configuration and one or more layers. -/
def ofBlobs (config : Descriptor) (annotations : Option (Dictionary String))
    (layers : List Descriptor) : Except Error Manifest :=
  if layers = [] then .error (.manifest "Manifest needs at least one layer")
  else .ok {
    schemaVersion := 2
    mediaType := some imageMediaType
    config, layers, annotations }

/-- The descriptors of all blobs, the configuration first. -/
def blobs (m : Manifest) : List Descriptor := m.config :: m.layers

end Manifest

end BpfDepot
