set_option autoImplicit false

namespace MiniApp.Checksum

/-- The generator polynomial, lowest power first. -/
def polynomial : UInt32 := 0xedb88320

def shiftBit (r : UInt32) : UInt32 :=
  if r &&& 1 = 1 then (r >>> 1) ^^^ polynomial else r >>> 1

def shiftByte (r : UInt32) (byte : UInt8) : UInt32 :=
  Nat.repeat shiftBit 8 (r ^^^ byte.toUInt32)

def ofBytes (bytes : List UInt8) : UInt32 :=
  ~~~ (bytes.foldl shiftByte 0xffffffff)

def ofText (s : String) : UInt32 := ofBytes s.toUTF8.toList

end MiniApp.Checksum
