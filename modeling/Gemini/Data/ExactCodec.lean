/-!
# Exact codecs

A writer of values and a reader of what it writes are exact when the reader gives
back every value within the writer's limits and accepts nothing that the writer
would not have written.
-/

namespace Gemini.Data

/-- `decode` inverts `encode` on the values `within` the limits, and whatever it
accepts is the encoding of what it reads. -/
structure ExactCodec {value image : Type} (encode : value → image) (decode : image → Option value)
    (within : value → Prop) : Prop where
  decode_encode : ∀ v, within v → decode (encode v) = some v
  encode_of_decode : ∀ p v, decode p = some v → encode v = p

end Gemini.Data
