import BpfDepot.Manifest

/-! # Artifacts

An artifact is a manifest together with the blobs that it lists. -/

namespace BpfDepot

/-- A manifest and its blobs. -/
structure Artifact where
  /-- The list of the blobs. -/
  manifest : Manifest
  /-- The bytes of the configuration. -/
  config : ByteArray
  /-- The bytes of the layers, in the order of the manifest. -/
  layers : List ByteArray

instance : DecidableEq Artifact
  | ⟨manifest, config, layers⟩, ⟨manifest', config', layers'⟩ =>
    decidable_of_iff (manifest = manifest' ∧ config.data = config'.data ∧
        layers.map ByteArray.data = layers'.map ByteArray.data)
      (by rw [Artifact.mk.injEq, ByteArray.ext_iff, List.map_inj_right fun _ _ => ByteArray.ext])

namespace Artifact

/-- The blobs with their descriptors, the configuration first. -/
def blobs (a : Artifact) : List (Descriptor × ByteArray) :=
  (a.manifest.config, a.config) :: a.manifest.layers.zip a.layers

/-- Checks that there are as many layers as the manifest lists, and then every blob
in turn. -/
def verify (a : Artifact) : Except Error Unit :=
  if a.layers.length ≠ a.manifest.layers.length then
    .error (.manifest ("Manifest lists " ++ toString a.manifest.layers.length
      ++ " layers but " ++ toString a.layers.length ++ " were supplied"))
  else a.blobs.forM fun blob => blob.1.verify blob.2

/-- The digest that names the artifact. -/
def digest (a : Artifact) : String := a.manifest.digest

/-- The number of bytes of all blobs. -/
def size (a : Artifact) : Nat :=
  a.layers.foldl (fun size layer => size + layer.size) a.config.size

end Artifact

end BpfDepot
