/-
# Faults of decoding

A fault names the decoder, the first and the last byte that cannot be decoded,
the value of the first, and the reason.  Text in two-byte units without a byte
order mark has a fault of its own, for no byte is to blame; so has a text that a
decoder refuses as a whole.
-/
import MigrationConfig.Text.Digit

namespace MigrationConfig.Codec

/-- Why bytes cannot be decoded. -/
inductive Reason where
  | startByte
  | continuationByte
  | endOfData
  | truncated
  | unpairedUnit
  | unpairedLead
  | notAscii
  /-- what a decoder says that is not part of this library -/
  | other (wording : String)
  deriving DecidableEq

/-- What is wrong with a run of bytes. -/
inductive Fault where
  | bytes (decoder : String) (first last : Nat) (value : UInt8) (reason : Reason)
  | noByteOrderMark
  /-- the text is refused as a whole -/
  | whole (message : String)

def Reason.message : Reason → String
  | .startByte => "invalid start byte"
  | .continuationByte => "invalid continuation byte"
  | .endOfData => "unexpected end of data"
  | .truncated => "truncated data"
  | .unpairedUnit => "illegal encoding"
  | .unpairedLead => "illegal UTF-16 surrogate"
  | .notAscii => "ordinal not in range(128)"
  | .other wording => wording

def Fault.message : Fault → String
  | .bytes decoder first last value reason =>
      let place := Text.integerText (Int.ofNat first)
      "'" ++ decoder ++ "' codec can't decode " ++
        (if first == last then
          "byte 0x" ++ String.ofList (Text.hexText 2 value.toNat) ++ " in position " ++ place
        else "bytes in position " ++ place ++ "-" ++ Text.integerText (Int.ofNat last)) ++
        ": " ++ reason.message
  | .noByteOrderMark => "UTF-16 stream does not start with BOM"
  | .whole message => message

/-- What the next bytes are: a character, with the number of bytes behind the
first that belong to it, or a fault over so many bytes. -/
inductive Head where
  | char (c : Char) (more : Nat)
  | bad (length : Nat) (reason : Reason)

/-- Decodes bytes from position `at` on; the next `skip` bytes belong to the
character that was decoded last. -/
def decodeFrom (decoder : String) (head : UInt8 → List UInt8 → Head) :
    Nat → Nat → List UInt8 → Except Fault (List Char)
  | _, _, [] => .ok []
  | place, skip + 1, _ :: rest => decodeFrom decoder head (place + 1) skip rest
  | place, 0, b :: rest =>
      match head b rest with
      | .bad length reason => .error (.bytes decoder place (place + length - 1) b reason)
      | .char c more =>
          match decodeFrom decoder head (place + 1) more rest with
          | .ok cs => .ok (c :: cs)
          | .error f => .error f

end MigrationConfig.Codec
