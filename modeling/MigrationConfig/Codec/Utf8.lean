/-
# UTF-8

The encoder writes a character in one to four bytes.  The decoder accepts just
these forms: no overlong one, no surrogate and nothing beyond the last
character.  A byte that cannot continue the character begun is a fault of the
bytes before it; when the bytes simply end, all that are left are at fault.
-/
import MigrationConfig.Codec.Fault

namespace MigrationConfig.Codec.Utf8

def encodeChar (c : Char) : List UInt8 :=
  let n := c.toNat
  if n < 0x80 then [UInt8.ofNat n]
  else if n < 0x800 then [UInt8.ofNat (0xC0 + n / 0x40), UInt8.ofNat (0x80 + n % 0x40)]
  else if n < 0x10000 then
    [UInt8.ofNat (0xE0 + n / 0x1000), UInt8.ofNat (0x80 + n / 0x40 % 0x40),
      UInt8.ofNat (0x80 + n % 0x40)]
  else
    [UInt8.ofNat (0xF0 + n / 0x40000), UInt8.ofNat (0x80 + n / 0x1000 % 0x40),
      UInt8.ofNat (0x80 + n / 0x40 % 0x40), UInt8.ofNat (0x80 + n % 0x40)]

def encode (s : List Char) : List UInt8 := s.flatMap encodeChar

/-- A byte that continues a character. -/
def isContinuation (b : UInt8) : Bool := 0x80 ≤ b.toNat && b.toNat < 0xC0

/-- The six bits of a continuation byte. -/
def payload (b : UInt8) : Nat := b.toNat % 0x40

/-- A second byte that can follow the first one of three or four: with the
smallest and the largest first bytes only part of the continuation bytes can. -/
def isSecond (first second : UInt8) : Bool :=
  let b := second.toNat
  isContinuation second &&
    (if first == 0xE0 then 0xA0 ≤ b
      else if first == 0xED then b < 0xA0
      else if first == 0xF0 then 0x90 ≤ b
      else if first == 0xF4 then b < 0x90
      else true)

/-- The character that starts with the byte `b`. -/
def head (b : UInt8) (rest : List UInt8) : Head :=
  let n := b.toNat
  if n < 0x80 then .char (Char.ofNat n) 0
  else if n < 0xC2 then .bad 1 .startByte
  else if n < 0xE0 then
    match rest with
    | [] => .bad 1 .endOfData
    | c :: _ =>
        if isContinuation c then .char (Char.ofNat (n % 0x20 * 0x40 + payload c)) 1
        else .bad 1 .continuationByte
  else if n < 0xF0 then
    match rest with
    | [] => .bad 1 .endOfData
    | [c] => if isSecond b c then .bad 2 .endOfData else .bad 1 .continuationByte
    | c :: d :: _ =>
        if !isSecond b c then .bad 1 .continuationByte
        else if !isContinuation d then .bad 2 .continuationByte
        else .char (Char.ofNat ((n % 0x10 * 0x40 + payload c) * 0x40 + payload d)) 2
  else if n < 0xF5 then
    match rest with
    | [] => .bad 1 .endOfData
    | [c] => if isSecond b c then .bad 2 .endOfData else .bad 1 .continuationByte
    | [c, d] =>
        if !isSecond b c then .bad 1 .continuationByte
        else if !isContinuation d then .bad 2 .continuationByte
        else .bad 3 .endOfData
    | c :: d :: e :: _ =>
        if !isSecond b c then .bad 1 .continuationByte
        else if !isContinuation d then .bad 2 .continuationByte
        else if !isContinuation e then .bad 3 .continuationByte
        else
          .char (Char.ofNat (((n % 0x8 * 0x40 + payload c) * 0x40 + payload d) * 0x40 +
            payload e)) 3
  else .bad 1 .startByte

/-- Decodes a text; a byte order mark is kept. -/
def decode (bytes : List UInt8) : Except Fault (List Char) :=
  decodeFrom "utf-8" head 0 0 bytes

/-- Decodes a text that may start with a byte order mark; positions count from
behind the mark.  A text that is only the beginning of a mark is empty. -/
def decodeMarked (bytes : List UInt8) : Except Fault (List Char) :=
  match bytes with
  | [0xEF] => .ok []
  | [0xEF, 0xBB] => .ok []
  | 0xEF :: 0xBB :: 0xBF :: rest => decode rest
  | _ => decode bytes

end MigrationConfig.Codec.Utf8
