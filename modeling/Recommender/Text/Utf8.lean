import Recommender.Number.Power
import Recommender.Text.Digit

/-!
UTF-8. Decoding reports the first sequence of bytes that encodes no code point; encoding reports
the first run of surrogates, which have no encoding.
-/
namespace Recommender

/-- Why a sequence of bytes encodes no code point. -/
inductive Utf8Fault where
  | startByte
  | continuationByte
  | unexpectedEnd
deriving DecidableEq

/-- The place of a fault: the first byte, where it stands, and how many bytes are at fault. -/
structure DecodeFault where
  reason : Utf8Fault
  byte : UInt8
  position : Nat
  length : Nat
deriving DecidableEq

/-- The place of the first run of surrogates in a text that should be encoded. -/
structure EncodeFault where
  surrogate : CodePoint
  position : Nat
  length : Nat
deriving DecidableEq

namespace Utf8

/-- Whether a byte continues a sequence. -/
def isContinuation (b : UInt8) : Bool :=
  0x80 ≤ b.toNat && b.toNat ≤ 0xBF

/-- The six bits that a continuation byte carries. -/
def payload (b : UInt8) : Nat :=
  b.toNat % 0x40

/-- Whether `second` may follow the lead byte of a sequence of three or four bytes; overlong forms,
surrogates and numbers beyond the last code point are excluded. -/
def mayFollow (lead second : UInt8) : Bool :=
  isContinuation second
    && (lead.toNat != 0xE0 || 0xA0 ≤ second.toNat)
    && (lead.toNat != 0xED || second.toNat < 0xA0)
    && (lead.toNat != 0xF0 || 0x90 ≤ second.toNat)
    && (lead.toNat != 0xF4 || second.toNat < 0x90)

/-- Decodes the bytes that stand at a position. -/
def decodeFrom (position : Nat) : List UInt8 → Except DecodeFault Text
  | [] => .ok []
  | a :: rest =>
    if a.toNat < 0x80 then
      (Fin.ofNat _ a.toNat :: ·) <$> decodeFrom (position + 1) rest
    else if 0xC2 ≤ a.toNat && a.toNat < 0xE0 then
      match rest with
      | [] => .error ⟨.unexpectedEnd, a, position, 1⟩
      | b :: rest =>
        if isContinuation b then
          (Fin.ofNat _ (a.toNat % 0x20 * 0x40 + payload b) :: ·) <$> decodeFrom (position + 2) rest
        else .error ⟨.continuationByte, a, position, 1⟩
    else if 0xE0 ≤ a.toNat && a.toNat < 0xF0 then
      match rest with
      | [] => .error ⟨.unexpectedEnd, a, position, 1⟩
      | b :: rest =>
        if mayFollow a b then
          match rest with
          | [] => .error ⟨.unexpectedEnd, a, position, 2⟩
          | c :: rest =>
            if isContinuation c then
              (Fin.ofNat _ (a.toNat % 0x10 * 0x1000 + payload b * 0x40 + payload c) :: ·)
                <$> decodeFrom (position + 3) rest
            else .error ⟨.continuationByte, a, position, 2⟩
        else .error ⟨.continuationByte, a, position, 1⟩
    else if 0xF0 ≤ a.toNat && a.toNat < 0xF5 then
      match rest with
      | [] => .error ⟨.unexpectedEnd, a, position, 1⟩
      | b :: rest =>
        if mayFollow a b then
          match rest with
          | [] => .error ⟨.unexpectedEnd, a, position, 2⟩
          | c :: rest =>
            if isContinuation c then
              match rest with
              | [] => .error ⟨.unexpectedEnd, a, position, 3⟩
              | d :: rest =>
                if isContinuation d then
                  (Fin.ofNat _ (a.toNat % 0x08 * 0x40000 + payload b * 0x1000 + payload c * 0x40
                    + payload d) :: ·) <$> decodeFrom (position + 4) rest
                else .error ⟨.continuationByte, a, position, 3⟩
            else .error ⟨.continuationByte, a, position, 2⟩
        else .error ⟨.continuationByte, a, position, 1⟩
    else .error ⟨.startByte, a, position, 1⟩

/-- The text that bytes encode. -/
def decode (bytes : List UInt8) : Except DecodeFault Text :=
  decodeFrom 0 bytes

/-- The text that bytes encode, with the replacement character in place of each fault. -/
def decodeLossy (bytes : List UInt8) : Text :=
  match _h : decode bytes with
  | .ok t => t
  | .error fault =>
    (decode (bytes.take fault.position)).toOption.getD []
      ++ CodePoint.replacement :: decodeLossy (bytes.drop (fault.position + max fault.length 1))
termination_by bytes.length
decreasing_by
  have nonempty : bytes ≠ [] := by
    rintro rfl
    simp [decode, decodeFrom] at _h
  have positive := List.length_pos_iff.2 nonempty
  simp only [List.length_drop]
  omega

/-- The bytes of a code point that is no surrogate. -/
def encodeOne (c : CodePoint) : List UInt8 :=
  let bits (shift size : Nat) : Nat := c.val / 2 ^ shift % 2 ^ size
  if c.val < 0x80 then [UInt8.ofNat c.val]
  else if c.val < 0x800 then
    [UInt8.ofNat (0xC0 + bits 6 5), UInt8.ofNat (0x80 + bits 0 6)]
  else if c.val < 0x10000 then
    [UInt8.ofNat (0xE0 + bits 12 4), UInt8.ofNat (0x80 + bits 6 6), UInt8.ofNat (0x80 + bits 0 6)]
  else
    [UInt8.ofNat (0xF0 + bits 18 3), UInt8.ofNat (0x80 + bits 12 6), UInt8.ofNat (0x80 + bits 6 6),
      UInt8.ofNat (0x80 + bits 0 6)]

/-- The first run of surrogates of a text that stands at a position. -/
def firstSurrogates (position : Nat) : Text → Option EncodeFault
  | [] => none
  | c :: rest =>
    if c.isSurrogate then
      some ⟨c, position, 1 + (rest.takeWhile CodePoint.isSurrogate).length⟩
    else firstSurrogates (position + 1) rest

/-- The bytes of a text. -/
def encode (t : Text) : Except EncodeFault (List UInt8) :=
  match firstSurrogates 0 t with
  | some fault => .error fault
  | none => .ok (t.flatMap encodeOne)

end Utf8

/-- The wording of a decoding fault. -/
def Utf8Fault.message : Utf8Fault → Text
  | .startByte => "invalid start byte"
  | .continuationByte => "invalid continuation byte"
  | .unexpectedEnd => "unexpected end of data"

/-- The positions that a fault covers: one, or the first and the last. -/
def positionsText (position length : Nat) : Text :=
  if length = 1 then Text.ofNat position
  else Text.ofNat position ++ "-" ++ Text.ofNat (position + length - 1)

/-- The wording of a decoding fault with its place. -/
def DecodeFault.message (fault : DecodeFault) : Text :=
  (if fault.length = 1 then
      ("'utf-8' codec can't decode byte 0x" : Text) ++ Text.ofHex 2 fault.byte.toNat
    else "'utf-8' codec can't decode bytes")
    ++ " in position " ++ positionsText fault.position fault.length ++ ": "
    ++ fault.reason.message

/-- The wording of an encoding fault with its place. -/
def EncodeFault.message (fault : EncodeFault) : Text :=
  (if fault.length = 1 then
      ("'utf-8' codec can't encode character '\\u" : Text)
        ++ Text.ofHex 4 fault.surrogate.val ++ "'"
    else "'utf-8' codec can't encode characters")
    ++ " in position " ++ positionsText fault.position fault.length
    ++ ": surrogates not allowed"

end Recommender
