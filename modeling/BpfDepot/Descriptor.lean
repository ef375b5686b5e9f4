import BpfDepot.Digest
import BpfDepot.Error
import BpfDepot.Json.Codec

/-! # Descriptors

A descriptor names a blob: the type of its content, its digest and its size, with
annotations. The annotation that matters here is the title, the name of the file
that the blob is the content of. -/

namespace BpfDepot

/-- What is known of a blob without its bytes. -/
structure Descriptor where
  /-- The type of the content. -/
  mediaType : String
  /-- The digest of the bytes. -/
  digest : String
  /-- The number of bytes, as it is stated. -/
  size : Int
  /-- Other places where the bytes can be found. -/
  urls : Option (List String) := none
  /-- Annotations of the blob. -/
  annotations : Option (Dictionary String) := none
  deriving DecidableEq

namespace Descriptor

/-- The annotation that holds the name of a file. -/
def titleKey : String := "org.opencontainers.image.title"

/-- The descriptor of the content of a file. The title is the name of the file,
whatever the annotations say. -/
def ofBlob (name mediaType : String) (bytes : ByteArray)
    (annotations : Option (Dictionary String)) : Descriptor where
  mediaType := mediaType
  digest := Digest.ofBytes bytes
  size := bytes.size
  annotations := some ((annotations.getD {}).insert titleKey name)

/-- The name of the file whose content a descriptor names. -/
def title? (d : Descriptor) : Option String :=
  d.annotations.bind fun annotations => annotations.get? titleKey

/-- Checks that bytes are those that a descriptor names, their digest before their
size. -/
def verify (d : Descriptor) (bytes : ByteArray) : Except Error Unit :=
  let actual := Digest.ofBytes bytes
  if actual ≠ d.digest then .error (.digestMismatch d.digest actual)
  else if d.size ≠ bytes.size then
    .error (.manifest ("Blob " ++ d.digest ++ " is " ++ toString bytes.size
      ++ " bytes, descriptor says " ++ toString d.size))
  else .ok ()

/-- The fields of a descriptor in a document. -/
def codec : Json.Codec Descriptor :=
  (Json.Codec.record "OciDescriptor"
    (.required "mediaType" .text
    (.required "digest" .text
    (.required "size" .integer
    (.optional "urls" (.list .text)
    (.optional "annotations" (.dictionary .text) .nil)))))).via
    (fun d => (d.mediaType, d.digest, d.size, d.urls, d.annotations, ()))
    (fun (mediaType, digest, size, urls, annotations, _) =>
      { mediaType, digest, size, urls, annotations })

end Descriptor

end BpfDepot
