/-!
# Buffers

What is handed to a C caller lives in a buffer of bytes. The buffer of a text ends with a zero byte,
and a reader of texts stops at the first one.
-/

namespace PolicyPack

/-- The bytes before the first zero byte. -/
def beforeZero (bytes : ByteArray) : ByteArray := ⟨bytes.data.takeWhile (· != 0)⟩

/-- Bytes handed to a caller. -/
structure Buffer where
  bytes : ByteArray

namespace Buffer

/-- The buffer of bytes as they are. -/
def ofBytes (bytes : ByteArray) : Buffer := ⟨bytes⟩

/-- The buffer of a text, with a zero byte after it. -/
def ofText (s : String) : Buffer := ⟨s.toUTF8.push 0⟩

/-- How many bytes there are. -/
def size (b : Buffer) : Nat := b.bytes.size

/-- Whether there are no bytes. -/
def isEmpty (b : Buffer) : Bool := b.bytes.isEmpty

/-- The bytes that a reader of texts sees. -/
def textBytes (b : Buffer) : ByteArray := beforeZero b.bytes

end Buffer

end PolicyPack
