/-!
# Tolerant decoding of bytes

`decodeUtf8` reads any sequence of bytes as text. Where the bytes are not UTF-8, each longest start of
a character that is not completed becomes one replacement character.
-/

namespace ScriptCensus

/-- Stands for bytes that are no text. -/
def replacementChar : Char := '\ufffd'

/-- The bytes that may follow the first byte of a character. -/
def secondByteOk (first second : UInt8) : Bool :=
  if first = 0xE0 then 0xA0 ≤ second && second ≤ 0xBF
  else if first = 0xED then 0x80 ≤ second && second ≤ 0x9F
  else if first = 0xF0 then 0x90 ≤ second && second ≤ 0xBF
  else if first = 0xF4 then 0x80 ≤ second && second ≤ 0x8F
  else 0x80 ≤ second && second ≤ 0xBF

/-- Whether a byte may stand third or fourth in a character. -/
def isContinuation (b : UInt8) : Bool :=
  0x80 ≤ b && b ≤ 0xBF

/-- Adds the payload of a continuation byte. -/
def shiftIn (value : Nat) (b : UInt8) : Nat :=
  value * 64 + (b.toNat - 0x80)

/-- Decodes bytes, one replacement character for each piece that is no character. -/
def decodeUtf8 : List UInt8 → List Char
  | [] => []
  | b :: rest =>
    if b < 0x80 then Char.ofNat b.toNat :: decodeUtf8 rest
    else if 0xC2 ≤ b && b ≤ 0xDF then
      match rest with
      | [] => [replacementChar]
      | c :: rest' =>
        if secondByteOk b c then Char.ofNat (shiftIn (b.toNat - 0xC0) c) :: decodeUtf8 rest'
        else replacementChar :: decodeUtf8 (c :: rest')
    else if 0xE0 ≤ b && b ≤ 0xEF then
      match rest with
      | [] => [replacementChar]
      | c :: rest' =>
        if secondByteOk b c then
          match rest' with
          | [] => [replacementChar]
          | d :: rest'' =>
            if isContinuation d then
              Char.ofNat (shiftIn (shiftIn (b.toNat - 0xE0) c) d) :: decodeUtf8 rest''
            else replacementChar :: decodeUtf8 (d :: rest'')
        else replacementChar :: decodeUtf8 (c :: rest')
    else if 0xF0 ≤ b && b ≤ 0xF4 then
      match rest with
      | [] => [replacementChar]
      | c :: rest' =>
        if secondByteOk b c then
          match rest' with
          | [] => [replacementChar]
          | d :: rest'' =>
            if isContinuation d then
              match rest'' with
              | [] => [replacementChar]
              | e :: rest''' =>
                if isContinuation e then
                  Char.ofNat (shiftIn (shiftIn (shiftIn (b.toNat - 0xF0) c) d) e) ::
                    decodeUtf8 rest'''
                else replacementChar :: decodeUtf8 (e :: rest''')
            else replacementChar :: decodeUtf8 (d :: rest'')
        else replacementChar :: decodeUtf8 (c :: rest')
    else replacementChar :: decodeUtf8 rest

/-- Reads any bytes as text. -/
def textOfBytes (bytes : ByteArray) : String :=
  String.ofList (decodeUtf8 bytes.data.toList)

end ScriptCensus
