import BuildBlocks.Text.Quoted

/-!
# Encodings

Files hold bytes; a codec says which texts they stand for. It may fail to read bytes and to write
characters, and says where. An encoding is a name together with the codec that the name stands for,
if it stands for one.

Any codec will do: what is proved about pages and jobs holds whatever the codec of the settings is.
Four are built here by name: UTF-8, UTF-8 with a signature in front, Latin-1 and ASCII. Reading fails
at the first byte that does not fit, writing at the first character that has no bytes.

UTF-8 is read by a machine that moves one byte at a time: a first byte says how many continuation
bytes follow and in which range the next one lies, so that overlong forms and surrogates are refused
at their second byte.
-/

namespace BuildBlocks

/-- The content of a file. -/
abbrev Bytes := List UInt8

/-! ## Codecs -/

/-- Why bytes or characters do not fit a codec. -/
inductive CodecReason where
  | startByte
  | continuationByte
  | endOfData
  | outOfRange (limit : Nat)
  | surrogate
  /-- A reason of a codec that is not built here. -/
  | other (wording : String)
  deriving DecidableEq, Repr

/-- The wording of a reason. -/
def CodecReason.message : CodecReason → String
  | .startByte => "invalid start byte"
  | .continuationByte => "invalid continuation byte"
  | .endOfData => "unexpected end of data"
  | .outOfRange limit => s!"ordinal not in range({limit})"
  | .surrogate => "surrogates not allowed"
  | .other wording => wording

/-- Bytes that stand for no text: `count` of them from `position` on, the first being `byte`. The codec
is called `codec`. -/
structure DecodeError where
  codec : String
  byte : UInt8
  position : Nat
  count : Nat
  reason : CodecReason
  deriving DecidableEq, Repr

/-- Characters that a codec cannot write: `count` of them from `position` on, the first being `char`.
The codec is called `codec`. -/
structure EncodeError where
  codec : String
  char : Char
  position : Nat
  count : Nat
  reason : CodecReason
  deriving DecidableEq, Repr

/-- The wording of a failure to read. -/
def DecodeError.message (e : DecodeError) : String :=
  if e.count = 1 then
    s!"'{e.codec}' codec can't decode byte 0x{Text.hexPadded 2 e.byte.toNat} in position " ++
      s!"{e.position}: {e.reason.message}"
  else
    s!"'{e.codec}' codec can't decode bytes in position {e.position}-" ++
      s!"{e.position + e.count - 1}: {e.reason.message}"

/-- The wording of a failure to write. -/
def EncodeError.message (e : EncodeError) : String :=
  if e.count = 1 then
    s!"'{e.codec}' codec can't encode character '{Text.escapeByCode e.char}' in position " ++
      s!"{e.position}: {e.reason.message}"
  else
    s!"'{e.codec}' codec can't encode characters in position {e.position}-" ++
      s!"{e.position + e.count - 1}: {e.reason.message}"

/-- A way to write texts as bytes: the text that bytes stand for, and the bytes of a text. -/
structure Codec where
  decode : Bytes → Except DecodeError Text
  encode : Text → Except EncodeError Bytes

/-! ## UTF-8 -/

namespace Utf8

/-- A character of which some bytes are still to come: it began with `first` at `position`, `got`
of its bytes are read, `owed` are not, the next must lie between `lo` and `hi`, and the bits read so
far make `code`. -/
structure Pending where
  first : UInt8
  position : Nat
  got : Nat
  owed : Nat
  lo : Nat
  hi : Nat
  code : Nat

/-- The state after the first byte of a character of several bytes. -/
def Pending.start? (position : Nat) (b : UInt8) : Option Pending :=
  let n := b.toNat
  if 0xc2 ≤ n && n < 0xe0 then some ⟨b, position, 1, 1, 0x80, 0xbf, n - 0xc0⟩
  else if n == 0xe0 then some ⟨b, position, 1, 2, 0xa0, 0xbf, 0⟩
  else if n == 0xed then some ⟨b, position, 1, 2, 0x80, 0x9f, 0xd⟩
  else if 0xe1 ≤ n && n < 0xf0 then some ⟨b, position, 1, 2, 0x80, 0xbf, n - 0xe0⟩
  else if n == 0xf0 then some ⟨b, position, 1, 3, 0x90, 0xbf, 0⟩
  else if n == 0xf4 then some ⟨b, position, 1, 3, 0x80, 0x8f, 4⟩
  else if 0xf1 ≤ n && n < 0xf4 then some ⟨b, position, 1, 3, 0x80, 0xbf, n - 0xf0⟩
  else none

/-- A failure at the bytes read so far of a pending character. -/
def Pending.error (p : Pending) (reason : CodecReason) : DecodeError :=
  ⟨"utf-8", p.first, p.position, p.got, reason⟩

/-- The text of UTF-8 bytes that start at `position`, some of whose first character may have been
read already. -/
def decodeFrom (position : Nat) : Option Pending → Bytes → Except DecodeError Text
  | none, [] => .ok []
  | some p, [] => .error (p.error .endOfData)
  | none, b :: bs =>
    if b.toNat < 0x80 then
      (decodeFrom (position + 1) none bs).map (Char.ofNat b.toNat :: ·)
    else match Pending.start? position b with
      | some p => decodeFrom (position + 1) (some p) bs
      | none => .error ⟨"utf-8", b, position, 1, .startByte⟩
  | some p, b :: bs =>
    if p.lo ≤ b.toNat && b.toNat ≤ p.hi then
      let code := p.code * 64 + (b.toNat - 0x80)
      if p.owed = 1 then (decodeFrom (position + 1) none bs).map (Char.ofNat code :: ·)
      else decodeFrom (position + 1)
        (some { p with got := p.got + 1, owed := p.owed - 1, lo := 0x80, hi := 0xbf, code := code })
        bs
    else .error (p.error .continuationByte)

/-- The UTF-8 bytes of one character. -/
def encodeChar (c : Char) : Bytes :=
  let n := c.toNat
  if n < 0x80 then [n.toUInt8]
  else if n < 0x800 then [(0xc0 + n / 64).toUInt8, (0x80 + n % 64).toUInt8]
  else if n < 0x10000 then
    [(0xe0 + n / 4096).toUInt8, (0x80 + n / 64 % 64).toUInt8, (0x80 + n % 64).toUInt8]
  else
    [(0xf0 + n / 262144).toUInt8, (0x80 + n / 4096 % 64).toUInt8, (0x80 + n / 64 % 64).toUInt8,
      (0x80 + n % 64).toUInt8]

/-- The text of UTF-8 bytes. -/
def decode (bs : Bytes) : Except DecodeError Text := decodeFrom 0 none bs

/-- The UTF-8 bytes of a text. -/
def encode (s : Text) : Bytes := s.flatMap encodeChar

/-- The bytes that announce UTF-8 at the start of a file. -/
def signature : Bytes := [0xef, 0xbb, 0xbf]

end Utf8

/-! ## Codecs by name -/

namespace Codec

/-- The text of bytes that each stand for the character of the same number, below `limit`. -/
def decodeSingle (name : String) (limit : Nat) (position : Nat) : Bytes → Except DecodeError Text
  | [] => .ok []
  | b :: bs =>
    if b.toNat < limit then
      (decodeSingle name limit (position + 1) bs).map (Char.ofNat b.toNat :: ·)
    else .error ⟨name, b, position, 1, .outOfRange limit⟩

/-- The bytes of characters that each have `bytes`, unless they are `refused`. The failure names the
whole run of characters that are refused. -/
def encodeEach (name : String) (refused : Char → Bool) (reason : CodecReason) (bytes : Char → Bytes)
    (position : Nat) : Text → Except EncodeError Bytes
  | [] => .ok []
  | c :: cs =>
    if refused c then .error ⟨name, c, position, 1 + (cs.takeWhile refused).length, reason⟩
    else (encodeEach name refused reason bytes (position + 1) cs).map (bytes c ++ ·)

/-- UTF-8. -/
def utf8 : Codec where
  decode := Utf8.decode
  encode := encodeEach "utf-8" Text.isSurrogate .surrogate Utf8.encodeChar 0

/-- UTF-8 with a signature in front. A file that breaks off inside the signature is empty. -/
def utf8Signed : Codec where
  decode bs :=
    if bs.length < 3 && Utf8.signature.take bs.length == bs then .ok []
    else if bs.take 3 == Utf8.signature then Utf8.decode (bs.drop 3)
    else Utf8.decode bs
  encode s := (utf8.encode s).map (Utf8.signature ++ ·)

/-- A byte for each character below `limit`. -/
def single (name : String) (limit : Nat) : Codec where
  decode := decodeSingle name limit 0
  encode := encodeEach name (limit ≤ ·.toNat) (.outOfRange limit) (fun c => [c.toNat.toUInt8]) 0

/-- Latin-1. -/
def latin1 : Codec := single "latin-1" 256

/-- ASCII. -/
def ascii : Codec := single "ascii" 128

/-- The codec called `name`, in any letter case and with `_` and `-` alike. -/
def ofName? (name : Text) : Option Codec :=
  let plain := (name.map Char.toLower).map fun c => if c = '_' then '-' else c
  if plain ∈ ["utf-8".toList, "utf8".toList, "u8".toList, "utf".toList, "cp65001".toList] then
    some utf8
  else if plain ∈ ["utf-8-sig".toList] then some utf8Signed
  else if plain ∈ ["latin-1".toList, "latin1".toList, "latin".toList, "iso-8859-1".toList,
      "iso8859-1".toList, "8859".toList, "cp819".toList, "l1".toList] then some latin1
  else if plain ∈ ["ascii".toList, "us-ascii".toList, "646".toList] then some ascii
  else none

end Codec

/-! ## Encodings -/

/-- The name of an encoding, and the codec that it stands for. -/
structure Encoding where
  name : Text
  codec? : Option Codec

namespace Encoding

/-- The encoding of a name, as far as codecs are built here. -/
def ofName (name : Text) : Encoding := ⟨name, Codec.ofName? name⟩

/-- A name written for an encoding. -/
instance : Coe Text Encoding := ⟨ofName⟩

/-- An encoding shown by its name. -/
instance : CoeOut Encoding Text := ⟨name⟩

end Encoding
end BuildBlocks
