/-
# Decoding by name

The encodings that settings files are read in.  A name that is not registered is
refused, and so is an encoding that yields no text.  Seven encodings are decoded here.
The decoders of the others, with their tables, belong to the system (`Decoders`): such a
decoder yields characters, or says which bytes it cannot decode, or refuses the text as
a whole.

A text is a list of characters, so what a decoder may yield besides, a lone surrogate,
is left out.
-/
import MigrationConfig.Codec.Name
import MigrationConfig.Codec.Utf16
import MigrationConfig.Codec.Utf8

namespace MigrationConfig.Codec

/-- Why bytes were not decoded: the name of the encoding, or the bytes. -/
inductive DecodingError where
  | unknown (name : String)
  | notText (name : String)
  | fault (f : Fault)

/-- A byte of ASCII text. -/
def asciiHead (b : UInt8) (_rest : List UInt8) : Head :=
  if b.toNat < 0x80 then .char (Char.ofNat b.toNat) 0 else .bad 1 .notAscii

def decodeAscii (bytes : List UInt8) : Except Fault (List Char) :=
  decodeFrom "ascii" asciiHead 0 0 bytes

/-- Decodes the encoding in which every byte is the character of its number. -/
def decodeLatin1 (bytes : List UInt8) : Except Fault (List Char) :=
  .ok (bytes.map fun b => Char.ofNat b.toNat)

/-- The decoder of an encoding, by its normalized name. -/
def decoder? (name : String) : Option (List UInt8 → Except Fault (List Char)) :=
  match name with
  | "utf-8" => some Utf8.decode
  | "utf-8-sig" => some Utf8.decodeMarked
  | "ascii" => some decodeAscii
  | "iso8859-1" => some decodeLatin1
  | "utf-16" => some Utf16.decodeMarked
  | "utf-16-le" => some (Utf16.decode .little)
  | "utf-16-be" => some (Utf16.decode .big)
  | _ => none

/-- The decoders of a system by the normalized names of their encodings, beyond those
that stand above; a system may be without some. -/
abbrev Decoders := String → Option (List UInt8 → Except Fault (List Char))

/-- A system without further decoders. -/
def Decoders.absent : Decoders := fun _ => none

/-- Decodes bytes in the encoding of a name. -/
def decode (others : Decoders) (name : String) (bytes : List UInt8) :
    Except DecodingError (List Char) :=
  match lookup? name with
  | none => .error (.unknown name)
  | some e =>
      if !e.isText then .error (.notText name)
      else
        match (decoder? e.name).or (others e.name) with
        | none => .error (.unknown name)
        | some d =>
            match d bytes with
            | .ok cs => .ok cs
            | .error f => .error (.fault f)

def DecodingError.message : DecodingError → String
  | .unknown name => "unknown encoding: " ++ name
  | .notText name =>
      "'" ++ name ++ "' is not a text encoding; use codecs.open() to handle arbitrary codecs"
  | .fault f => f.message

end MigrationConfig.Codec
