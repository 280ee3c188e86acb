import CommandChain.Text.Symbol

/-!
# UTF-8

Bytes fall into segments: well-formed UTF-8 sequences, and maximal ill-formed subparts between them.
Decoding differs only in what becomes of an ill-formed subpart. `Text.ofBytes` keeps its bytes as
stray symbols, so that encoding gives the input back; `Text.ofBytesReplacing` puts one replacement
character in its place.
-/

namespace CommandChain

namespace Utf8

/-- The range of a byte that continues a sequence without further restriction. -/
def continuation : UInt8 × UInt8 :=
  (0x80, 0xBF)

/-- The ranges of the bytes that follow a lead byte in a well-formed sequence. The tighter ranges
after four of the lead bytes exclude overlong forms, surrogates and code points beyond the last. -/
def followers (lead : UInt8) : Option (List (UInt8 × UInt8)) :=
  if lead < 0x80 then some []
  else if lead < 0xC2 then none
  else if lead < 0xE0 then some [continuation]
  else if lead = 0xE0 then some [(0xA0, 0xBF), continuation]
  else if lead = 0xED then some [(0x80, 0x9F), continuation]
  else if lead < 0xF0 then some [continuation, continuation]
  else if lead = 0xF0 then some [(0x90, 0xBF), continuation, continuation]
  else if lead < 0xF4 then some [continuation, continuation, continuation]
  else if lead = 0xF4 then some [(0x80, 0x8F), continuation, continuation]
  else none

/-- The bytes in front that lie in the given ranges, one byte for each range, up to the first that
does not. -/
def takeWithin : List (UInt8 × UInt8) → List UInt8 → List UInt8
  | range :: ranges, byte :: rest =>
      if range.1 ≤ byte ∧ byte ≤ range.2 then byte :: takeWithin ranges rest else []
  | _, _ => []

/-- The bits that a lead byte gives to the code point. -/
def leadBits (lead : UInt8) : Nat :=
  if lead < 0x80 then lead.toNat
  else if lead < 0xE0 then lead.toNat % 32
  else if lead < 0xF0 then lead.toNat % 16
  else lead.toNat % 8

/-- The code point of a sequence: each following byte gives six bits. -/
def codePoint (lead : UInt8) (following : List UInt8) : Nat :=
  following.foldl (fun code byte => code * 64 + byte.toNat % 64) (leadBits lead)

/-- A stretch of bytes that is decoded as one. -/
inductive Segment where
  | wellFormed (character : Char)
  | illFormed (bytes : List UInt8)
  deriving DecidableEq

/-- The bytes of a segment. -/
def Segment.bytes : Segment → List UInt8
  | .wellFormed character => String.utf8EncodeChar character
  | .illFormed bytes => bytes

/-- The segment that starts at a byte, and the bytes after it. A lead byte takes as many of the
bytes that it asks for as there are; if one is missing, those taken are a maximal ill-formed
subpart. -/
def firstSegment (lead : UInt8) (rest : List UInt8) : Segment × List UInt8 :=
  match followers lead with
  | none => (.illFormed [lead], rest)
  | some ranges =>
      let following := takeWithin ranges rest
      if following.length = ranges.length then
        (.wellFormed (Char.ofNat (codePoint lead following)), rest.drop following.length)
      else
        (.illFormed (lead :: following), rest.drop following.length)

theorem length_firstSegment_le (lead : UInt8) (rest : List UInt8) :
    (firstSegment lead rest).2.length ≤ rest.length := by
  unfold firstSegment
  cases followers lead with
  | none => exact Nat.le_refl _
  | some ranges =>
      dsimp only
      split <;> simp

/-- The segments of a byte sequence, in order. -/
def segments : List UInt8 → List Segment
  | [] => []
  | lead :: rest => (firstSegment lead rest).1 :: segments (firstSegment lead rest).2
termination_by bytes => bytes.length
decreasing_by exact Nat.lt_succ_of_le (length_firstSegment_le lead rest)

end Utf8

/-- The bytes of a symbol: the UTF-8 encoding of a character, or the stray byte itself. -/
def Symbol.bytes : Symbol → List UInt8
  | .char character => String.utf8EncodeChar character
  | .stray byte _ => [byte]

namespace Text

/-- The bytes of a text. -/
def bytes (text : Text) : List UInt8 :=
  text.flatMap Symbol.bytes

theorem bytes_append (first second : Text) :
    bytes (first ++ second) = bytes first ++ bytes second :=
  List.flatMap_append

/-- Decodes bytes and keeps every byte of an ill-formed subpart as a symbol of its own. -/
def ofBytes (input : List UInt8) : Text :=
  (Utf8.segments input).flatMap fun
    | .wellFormed character => [.char character]
    | .illFormed bytes => bytes.map Symbol.ofByte

/-- The text in which every byte of a text is a symbol of its own. -/
def bytewise (text : Text) : Text :=
  text.bytes.map Symbol.ofByte

/-- The text with its bytes put together to characters again. -/
def regrouped (text : Text) : Text :=
  ofBytes text.bytes

/-- The character that stands for damage in decoded output. -/
def replacement : Symbol :=
  .char '\uFFFD'

/-- Decodes bytes and puts one replacement character for each maximal ill-formed subpart. -/
def ofBytesReplacing (input : List UInt8) : Text :=
  (Utf8.segments input).map fun
    | .wellFormed character => .char character
    | .illFormed _ => replacement

theorem ofBytesReplacing_nil : ofBytesReplacing [] = [] := by
  simp [ofBytesReplacing, Utf8.segments]

end Text

end CommandChain
