import SfcBundler.Digest.Sha256
import SfcBundler.Text.Quoted
import SfcBundler.Text.Utf8

/-!
# Identity of a component

A component is told from others, and from its earlier versions, by a fingerprint of its source.

## Main definitions

* `Identity`, `Identity.ofSource`: the first eight bytes of the digest of the source
* `Identity.hashId`, `Identity.scopeId`: its forms in generated code
-/

namespace SfcBundler

/-- A fingerprint of 64 bits. -/
structure Identity where
  value : UInt64
deriving Repr, DecidableEq

namespace Identity

/-- The fingerprint of a source text. -/
def ofSource (source : String) : Identity :=
  let leading := (Sha256.digest (Utf8.encode source.toList)).take 8
  ⟨UInt64.ofNat (leading.foldl (fun value byte => value * 256 + byte.toNat) 0)⟩

/-- The fingerprint in hexadecimal, without leading zeros. -/
def hashId (identity : Identity) : String := String.ofList (Text.hex identity.value.toNat)

/-- The attribute that scoped styles select by. -/
def scopeId (identity : Identity) : String := "data-v-" ++ identity.hashId

end Identity

end SfcBundler
