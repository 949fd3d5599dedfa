import GameTransport.Zlib.Basic

/-!
# Compressors with a state

A compression library hands out objects.  One compresses and one decompresses, and each stands where
its last stream left it until it is reset.  An engine is such a library; the layers above take any.

A pair of functions makes an engine (`Engine.ofLibrary`): an object that has been used stays at the
end of its stream, where it has nothing more to give.
-/

namespace GameTransport.Zlib

/-- A library whose compressors and decompressors have a state. -/
structure Engine where
  Deflater : Type
  Inflater : Type
  /-- A new compressor. -/
  deflater : (level : Nat) → Deflater
  /-- A new decompressor. -/
  inflater : Inflater
  /-- Compresses data to the end of its stream, or says in the library's words why it cannot. -/
  deflate : Bytes → EStateM String Deflater Bytes
  /-- Inflates into a buffer of `capacity` octets. -/
  inflate : (capacity : Nat) → Bytes → StateM Inflater Inflated
  resetDeflater : Deflater → Deflater
  resetInflater : Inflater → Inflater

namespace Engine

/-- The functions that new objects compute. -/
def library (engine : Engine) : Library where
  deflate level payload :=
    match engine.deflate payload (engine.deflater level) with
    | .ok stream _ => stream
    | .error _ _ => []
  inflate capacity body := (engine.inflate capacity body engine.inflater).1

/-- Objects that compute the functions of a library, once each until they are reset. -/
def ofLibrary (z : Library) : Engine where
  Deflater := Nat × Bool
  Inflater := Bool
  deflater level := (level, false)
  inflater := false
  deflate payload := fun (level, used) =>
    .ok (if used then [] else z.deflate level payload) (level, true)
  inflate capacity body := fun used =>
    (if used then .finished [] body.length else z.inflate capacity body, true)
  resetDeflater := fun (level, _) => (level, false)
  resetInflater := fun _ => false

theorem library_ofLibrary (z : Library) : (ofLibrary z).library = z := rfl

end Engine

end GameTransport.Zlib
