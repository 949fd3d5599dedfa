import GameTransport.Zlib.Deflate
import GameTransport.Zlib.Inflate

/-!
# The standard format

The library's own pair of a compressor and a decompressor of zlib streams.
-/

namespace GameTransport.Zlib

/-- Streams of RFC 1950. -/
def Library.standard : Library where
  deflate := Zlib.deflate
  inflate := Zlib.inflate

end GameTransport.Zlib
