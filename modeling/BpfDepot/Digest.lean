import BpfDepot.Digest.Sha256
import BpfDepot.Text.Hex

/-! # Digests

A blob is named by its digest: the name of the hash, a colon, and the hash of its
bytes in digits to the base 16. Digests that come from outside are any text, so a
digest is a string. -/

namespace BpfDepot.Digest

/-- What a digest begins with. -/
def algorithm : String := "sha256:"

/-- The digest of a sequence of bytes. -/
def ofBytes (bytes : ByteArray) : String := algorithm ++ Text.hex (Sha256.hash bytes)

/-- The digits of a digest, which is the whole text if it names another algorithm
or none. -/
def digits (digest : String) : String :=
  if algorithm.toList.isPrefixOf digest.toList then
    String.ofList (digest.toList.drop algorithm.length)
  else digest

/-- The digest with no more than its first twelve digits. -/
def short (digest : String) : String :=
  if algorithm.toList.isPrefixOf digest.toList then
    algorithm ++ String.ofList ((digits digest).toList.take 12)
  else String.ofList (digest.toList.take 12)

end BpfDepot.Digest
