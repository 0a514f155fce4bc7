import PolicyPack.Path
import PolicyPack.Text.Utf8

/-!
# Paths of bytes

A file system knows a path by its bytes, which need not be text. A path of bytes is held as a path
whose characters have the numbers of the bytes. Slashes and points are then what they are in text,
and so are components. Where a component is needed as text, its bytes are read leniently.
-/

namespace PolicyPack

namespace Text

/-- The character that holds a byte. -/
def hold (b : UInt8) : Char := Char.ofNat b.toNat

/-- Bytes, held as characters. -/
def ofBytes (bytes : ByteArray) : String := String.ofList (bytes.data.toList.map hold)

/-- The bytes that are held as characters. -/
def heldBytes (s : String) : ByteArray :=
  ⟨(s.toList.map fun c => UInt8.ofNat c.toNat).toArray⟩

/-- The encoding of a text, held as characters. -/
def encode (s : String) : String := ofBytes s.toUTF8

end Text

namespace Path

/-- The path of bytes that a path stands for. -/
def encoded (p : Path) : Path := ⟨Text.encode p.text⟩

/-- The text of a component of a path of bytes, with the replacement character for what is none. -/
def Component.reading (c : Component) : String := Text.ofUtf8Lenient (Text.heldBytes c.text)

end Path

end PolicyPack
