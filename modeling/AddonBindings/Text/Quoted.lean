import AddonBindings.Text.Printable

/-!
Contract: texts and bytes between quotation marks.

Owns:
- the choice of the quotation mark;
- the escapes of what cannot be shown.

Does not own: the written form of other values, which is in
`AddonBindings.Datum.Written`.
-/

namespace AddonBindings.Text

/-- Single quotation marks, unless the text holds one and no double one. -/
def quotationMark (cs : List Char) : Char :=
  if cs.contains '\'' && !cs.contains '"' then '"' else '\''

/-- The lower-case hexadecimal digits of `code`, at least `places` of them. -/
def hexadecimal (places code : Nat) : List Char :=
  let digits := Nat.toDigits 16 code
  List.replicate (places - digits.length) '0' ++ digits

/-- One character between quotation marks `mark`. -/
def quotedChar (mark c : Char) : List Char :=
  if c = mark || c = '\\' then ['\\', c]
  else if c = '\n' then ['\\', 'n']
  else if c = '\r' then ['\\', 'r']
  else if c = '\t' then ['\\', 't']
  else if isPrintable c then [c]
  else if c.toNat < 0x100 then '\\' :: 'x' :: hexadecimal 2 c.toNat
  else if c.toNat < 0x10000 then '\\' :: 'u' :: hexadecimal 4 c.toNat
  else '\\' :: 'U' :: hexadecimal 8 c.toNat

def quoted (text : String) : String :=
  let mark := quotationMark text.toList
  String.ofList (mark :: (text.toList.flatMap (quotedChar mark) ++ [mark]))

/-- Bytes between quotation marks, after a `b`; only printable ASCII stands for
itself. -/
def quotedBytes (bytes : List UInt8) : String :=
  let cs := bytes.map fun byte => Char.ofNat byte.toNat
  let mark := quotationMark cs
  let shown (c : Char) : List Char :=
    if c.toNat < 0x80 then quotedChar mark c else '\\' :: 'x' :: hexadecimal 2 c.toNat
  String.ofList ('b' :: mark :: (cs.flatMap shown ++ [mark]))

end AddonBindings.Text
