/-!
# UTF-8

A file is a list of bytes. Its text is read in one of two ways: strictly, where the first malformed
sequence is reported with its place, or leniently, where malformed bytes are dropped and decoding
resumes at the next byte.

Main definitions:

* `Utf8.Head`, `Utf8.head`: what the first byte of an input begins.
* `Utf8.decode`: the strict reading.
* `Utf8.decodeLenient`: the lenient reading.
* `Utf8.encode`: the bytes of a text.
-/

namespace SourceWatch.Text.Utf8

/-- What the first byte of an input, together with the bytes behind it, amounts to. -/
inductive Head where
  /-- A character, encoded by the first byte and `extra` more. -/
  | scalar (c : Char) (extra : Nat)
  /-- The first byte begins no sequence. -/
  | invalidStart
  /-- The first byte and `extra` more begin a sequence that the next byte does not continue. -/
  | invalidContinuation (extra : Nat)
  /-- The input ends inside a sequence. -/
  | truncated
  deriving DecidableEq

/-- Whether a byte continues a sequence. -/
def isContinuation (b : UInt8) : Bool :=
  0x80 ≤ b && b < 0xC0

/-- The six bits that a continuation byte carries. -/
def payload (b : UInt8) : Nat :=
  b.toNat % 64

/-- The head of an input whose first byte announces two bytes. -/
def headTwo (b : UInt8) : List UInt8 → Head
  | [] => .truncated
  | c :: _ =>
    if isContinuation c then .scalar (Char.ofNat (b.toNat % 32 * 64 + payload c)) 1
    else .invalidContinuation 0

/-- Whether `c` may follow `b` in a sequence of three bytes: no overlong form, no surrogate. -/
def isSecondOfThree (b c : UInt8) : Bool :=
  isContinuation c && !(if c < 0xA0 then b == 0xE0 else b == 0xED)

/-- The head of an input whose first byte announces three bytes. -/
def headThree (b : UInt8) : List UInt8 → Head
  | [] => .truncated
  | c :: rest =>
    if !isSecondOfThree b c then .invalidContinuation 0
    else match rest with
      | [] => .truncated
      | d :: _ =>
        if isContinuation d then
          .scalar (Char.ofNat (b.toNat % 16 * 4096 + payload c * 64 + payload d)) 2
        else .invalidContinuation 1

/-- Whether `c` may follow `b` in a sequence of four bytes: no overlong form, nothing above the last
code point. -/
def isSecondOfFour (b c : UInt8) : Bool :=
  isContinuation c && !(if c < 0x90 then b == 0xF0 else b == 0xF4)

/-- The head of an input whose first byte announces four bytes. -/
def headFour (b : UInt8) : List UInt8 → Head
  | [] => .truncated
  | c :: rest =>
    if !isSecondOfFour b c then .invalidContinuation 0
    else match rest with
      | [] => .truncated
      | d :: rest =>
        if !isContinuation d then .invalidContinuation 1
        else match rest with
          | [] => .truncated
          | e :: _ =>
            if isContinuation e then
              .scalar (Char.ofNat
                (b.toNat % 8 * 262144 + payload c * 4096 + payload d * 64 + payload e)) 3
            else .invalidContinuation 2

/-- The head of the input `b :: rest`. -/
def head (b : UInt8) (rest : List UInt8) : Head :=
  if b < 0x80 then .scalar (Char.ofNat b.toNat) 0
  else if b < 0xC2 then .invalidStart
  else if b < 0xE0 then headTwo b rest
  else if b < 0xF0 then headThree b rest
  else if b < 0xF5 then headFour b rest
  else .invalidStart

/-! ### The two readings -/

/-- Appends the lenient reading of an input to the reversed text `done`. -/
def decodeLenientOnto : List UInt8 → (done : List Char) → List Char
  | [], done => done.reverse
  | b :: rest, done =>
    match head b rest with
    | .scalar c extra => decodeLenientOnto (rest.drop extra) (c :: done)
    | _ => decodeLenientOnto rest done
termination_by bytes => bytes.length
decreasing_by all_goals simp; try omega

/-- The text of an input whose malformed bytes are dropped. -/
def decodeLenient (bytes : List UInt8) : List Char :=
  decodeLenientOnto bytes []

/-- Why an input is no UTF-8. -/
inductive Malformation where
  | invalidStart
  | invalidContinuation
  | truncated
  deriving DecidableEq

/-- A malformed sequence: its place and its bytes. -/
structure Malformed where
  position : Nat
  bytes : List UInt8
  reason : Malformation
  deriving DecidableEq

/-- Appends the strict reading of an input to the reversed text `done`; `position` counts the bytes
before it. -/
def decodeOnto (position : Nat) : List UInt8 → (done : List Char) → Except Malformed (List Char)
  | [], done => .ok done.reverse
  | b :: rest, done =>
    match head b rest with
    | .scalar c extra => decodeOnto (position + 1 + extra) (rest.drop extra) (c :: done)
    | .invalidStart => .error ⟨position, [b], .invalidStart⟩
    | .invalidContinuation extra => .error ⟨position, b :: rest.take extra, .invalidContinuation⟩
    | .truncated => .error ⟨position, b :: rest, .truncated⟩
termination_by bytes => bytes.length
decreasing_by simp; try omega

/-- The text of a well-formed input, or its first malformed sequence. -/
def decode (bytes : List UInt8) : Except Malformed (List Char) :=
  decodeOnto 0 bytes []

/-- The bytes of a text. -/
def encode (cs : List Char) : List UInt8 :=
  cs.flatMap String.utf8EncodeChar

/-- The bytes of a string. -/
def encodeString (s : String) : List UInt8 :=
  encode s.toList

/-! ### Wording of a malformed sequence -/

/-- The two hexadecimal digits of a byte. -/
def hexByte (b : UInt8) : String :=
  String.ofList [Nat.digitChar (b.toNat / 16), Nat.digitChar (b.toNat % 16)]

/-- The wording of a cause. -/
def Malformation.message : Malformation → String
  | .invalidStart => "invalid start byte"
  | .invalidContinuation => "invalid continuation byte"
  | .truncated => "unexpected end of data"

/-- The message that reports a malformed sequence: a single byte is shown, several are counted. -/
def Malformed.message (m : Malformed) : String :=
  let place := match m.bytes with
    | [b] => s!"byte 0x{hexByte b} in position {m.position}"
    | bytes => s!"bytes in position {m.position}-{m.position + bytes.length - 1}"
  "'utf-8' codec can't decode " ++ place ++ ": " ++ m.reason.message

end SourceWatch.Text.Utf8
