import Findings.Digest.Md5
import Findings.Text.Utf8

/-!
Contract: fingerprints, by which two runs recognise the same content.

Owns: `fingerprint`, the digest of a text in UTF-8 as hexadecimal digits.  Text with a surrogate has
no fingerprint.
-/

set_option autoImplicit false

namespace Findings.Sarif

/-- The fingerprint of a text. -/
def fingerprint (text : Text) : Except Text.EncodeFault Text := do
  let bytes ← Text.encodeUtf8 text
  return (Md5.digest bytes).flatMap fun byte => Text.hexadecimal 2 byte.toNat

end Findings.Sarif
