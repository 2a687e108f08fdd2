import AddonBindings.Text.Quoted

/-!
Contract: texts as UTF-8 bytes.

Owns:
- encoding of a text;
- decoding of bytes, which stops at the first byte sequence that is no
  character and says where it starts, how long it is and what is wrong with it.

Does not own: line ends, which are folded in `AddonBindings.Text.Lines`.
-/

namespace AddonBindings.Text

def encodeUtf8 (text : String) : List UInt8 :=
  text.toList.flatMap String.utf8EncodeChar

/-- What is wrong with a byte sequence. -/
inductive Utf8Reason where
  /-- No character starts with this byte. -/
  | invalidStart
  /-- The byte after the sequence cannot continue it. -/
  | invalidContinuation
  /-- The bytes end inside a character. -/
  | unexpectedEnd
deriving DecidableEq, Repr

/-- The first byte sequence that is no character: its first byte, the position of
that byte and the number of bytes up to where decoding stops. -/
structure Utf8Fault where
  start : Nat
  length : Nat
  first : UInt8
  reason : Utf8Reason
deriving DecidableEq, Repr

def Utf8Reason.message : Utf8Reason → String
  | invalidStart => "invalid start byte"
  | invalidContinuation => "invalid continuation byte"
  | unexpectedEnd => "unexpected end of data"

/-- The wording of a fault: the byte or the range of bytes, and the reason. -/
def Utf8Fault.message (fault : Utf8Fault) : String :=
  let place :=
    if fault.length = 1 then
      "byte 0x" ++ String.ofList (hexadecimal 2 fault.first.toNat) ++ " in position " ++
        toString fault.start
    else
      "bytes in position " ++ toString fault.start ++ "-" ++
        toString (fault.start + fault.length - 1)
  "'utf-8' codec can't decode " ++ place ++ ": " ++ fault.reason.message

/-- A byte of the form `10xxxxxx`. -/
def isContinuation (byte : UInt8) : Bool :=
  0x80 ≤ byte && byte < 0xC0

/-- The byte may follow `lead`: it continues a character, and the two together
neither start an overlong form nor a surrogate nor a code point past the last. -/
def mayFollow (lead byte : UInt8) : Bool :=
  isContinuation byte &&
    (if lead == 0xE0 then 0xA0 ≤ byte
    else if lead == 0xED then byte < 0xA0
    else if lead == 0xF0 then 0x90 ≤ byte
    else if lead == 0xF4 then byte < 0x90
    else true)

/-- The character whose code point has the high bits `high` and then six bits
from each of the continuation bytes. -/
def assemble (high : UInt8) (continuations : List UInt8) : Char :=
  Char.ofNat (continuations.foldl (fun code byte => code * 64 + (byte &&& 0x3F).toNat) high.toNat)

def decodeUtf8From (position : Nat) : List UInt8 → Except Utf8Fault (List Char)
  | [] => .ok []
  | lead :: rest =>
      let broken (length : Nat) : Except Utf8Fault (List Char) :=
        .error ⟨position, length, lead, .invalidContinuation⟩
      let ended : Except Utf8Fault (List Char) :=
        .error ⟨position, (lead :: rest).length, lead, .unexpectedEnd⟩
      if lead < 0x80 then
        (decodeUtf8From (position + 1) rest).map (Char.ofNat lead.toNat :: ·)
      else if lead < 0xC2 || 0xF5 ≤ lead then
        .error ⟨position, 1, lead, .invalidStart⟩
      else
        match rest with
        | [] => ended
        | second :: rest =>
            if !mayFollow lead second then broken 1
            else if lead < 0xE0 then
              (decodeUtf8From (position + 2) rest).map
                (assemble (lead &&& 0x1F) [second] :: ·)
            else
              match rest with
              | [] => ended
              | third :: rest =>
                  if !isContinuation third then broken 2
                  else if lead < 0xF0 then
                    (decodeUtf8From (position + 3) rest).map
                      (assemble (lead &&& 0x0F) [second, third] :: ·)
                  else
                    match rest with
                    | [] => ended
                    | fourth :: rest =>
                        if !isContinuation fourth then broken 3
                        else
                          (decodeUtf8From (position + 4) rest).map
                            (assemble (lead &&& 0x07) [second, third, fourth] :: ·)

def decodeUtf8 (bytes : List UInt8) : Except Utf8Fault String :=
  (decodeUtf8From 0 bytes).map String.ofList

end AddonBindings.Text
