import BpfDepot.Json.Codec

/-! # Packages

A package is a compiled program with a configuration, which so far is one line of
information about it. Inside an artifact the program is a layer and the
configuration is a JSON document, and each has a file name and a media type. -/

namespace BpfDepot

/-- What a package says about its program. -/
structure Configuration where
  /-- What the program does. -/
  info : String
  deriving DecidableEq, Repr

namespace Configuration

/-- The name of the file that holds a configuration. -/
def fileName : String := "config.json"

/-- The media type of a configuration. -/
def mediaType : String := "application/ebpf.oci.image.config.v1+json"

/-- The fields of a configuration in a document. -/
def codec : Json.Codec Configuration :=
  (Json.Codec.record "EbpfConfig" (.required "info" .text .nil)).via
    (fun c => (c.info, ())) (fun (info, _) => { info })

/-- The document of a configuration inside an artifact. -/
def document (c : Configuration) : String := codec.encode c

/-- The document of a configuration for a reader. -/
def lines (c : Configuration) : String := codec.encodeLines c

/-- Reads a configuration from the bytes of a document. -/
def decode (bytes : ByteArray) : Except String Configuration := codec.decode bytes.toList

end Configuration

/-- A compiled program with its configuration. -/
structure Package where
  /-- The bytes of the program. -/
  program : ByteArray
  /-- What is said about it. -/
  config : Configuration

instance : DecidableEq Package
  | ⟨program, config⟩, ⟨program', config'⟩ =>
    decidable_of_iff (program.data = program'.data ∧ config = config')
      (by rw [Package.mk.injEq, ByteArray.ext_iff])

namespace Package

/-- The name of the file that holds a program. -/
def programName : String := "program.o"

/-- The media type of a program. -/
def programMediaType : String := "binary/ebpf.solo.io.v1"

/-- The bytes of the configuration inside an artifact. -/
def configBytes (p : Package) : ByteArray := p.config.document.toUTF8

end Package

end BpfDepot
