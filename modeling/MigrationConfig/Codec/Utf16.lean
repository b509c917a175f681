/-
# UTF-16

Two bytes make a unit, in either order; a unit is a character, or two of them
are the halves of one.
-/
import MigrationConfig.Codec.Fault

namespace MigrationConfig.Codec.Utf16

/-- The order of the two bytes of a unit. -/
inductive Order where
  | little
  | big
  deriving DecidableEq

/-- The decoder that reads units in an order. -/
def Order.decoder : Order → String
  | .little => "utf-16-le"
  | .big => "utf-16-be"

/-- The unit of two bytes. -/
def Order.unit (o : Order) (a b : UInt8) : Nat :=
  match o with
  | .little => b.toNat * 0x100 + a.toNat
  | .big => a.toNat * 0x100 + b.toNat

/-- The character that starts with the byte `a`. -/
def head (o : Order) (a : UInt8) (rest : List UInt8) : Head :=
  match rest with
  | [] => .bad 1 .truncated
  | b :: rest =>
      let u := o.unit a b
      if u < 0xD800 || 0xDFFF < u then .char (Char.ofNat u) 1
      else if 0xDC00 ≤ u then .bad 2 .unpairedUnit
      else
        match rest with
        | c :: d :: _ =>
            let v := o.unit c d
            if 0xDC00 ≤ v && v ≤ 0xDFFF then
              .char (Char.ofNat (0x10000 + (u - 0xD800) * 0x400 + (v - 0xDC00))) 3
            else .bad 2 .unpairedLead
        | _ => .bad (2 + rest.length) .endOfData

/-- Decodes a text in a given order; a byte order mark is kept. -/
def decode (o : Order) (bytes : List UInt8) : Except Fault (List Char) :=
  decodeFrom o.decoder (head o) 0 0 bytes

/-- Decodes a text in the order that its byte order mark tells.  Without one
the text is refused, unless it is too short to hold a unit. -/
def decodeMarked (bytes : List UInt8) : Except Fault (List Char) :=
  match bytes with
  | 0xFF :: 0xFE :: rest => decodeFrom Order.little.decoder (head .little) 2 0 rest
  | 0xFE :: 0xFF :: rest => decodeFrom Order.big.decoder (head .big) 2 0 rest
  | [] => .ok []
  | _ =>
      match decode .little bytes with
      | .error f => .error f
      | .ok _ => .error .noByteOrderMark

end MigrationConfig.Codec.Utf16
