/-!
# UTF-8

Bytes are decoded from left to right. What is not valid is cut into maximal parts: the longest
beginning of a well-formed sequence, or else a single byte. Reading with replacement gives one
replacement character for each such part, strict reading refuses them.
-/
namespace BoundaryLint.Text.Utf8

/-- The bytes of a file. -/
abbrev Bytes := List UInt8

def isContinuation (b : UInt8) : Bool :=
  0x80 ≤ b && b ≤ 0xbf

/-- Whether `b` may follow the lead byte `lead` of a sequence of three or four bytes. -/
def isSecond (lead b : UInt8) : Bool :=
  if lead == 0xe0 then 0xa0 ≤ b && b ≤ 0xbf
  else if lead == 0xed then 0x80 ≤ b && b ≤ 0x9f
  else if lead == 0xf0 then 0x90 ≤ b && b ≤ 0xbf
  else if lead == 0xf4 then 0x80 ≤ b && b ≤ 0x8f
  else isContinuation b

def isLead2 (b : UInt8) : Bool := 0xc2 ≤ b && b ≤ 0xdf

def isLead3 (b : UInt8) : Bool := 0xe0 ≤ b && b ≤ 0xef

def isLead4 (b : UInt8) : Bool := 0xf0 ≤ b && b ≤ 0xf4

/-- The low six bits of a continuation byte. -/
def low (b : UInt8) : Nat := b.toNat % 64

/-- The characters of the bytes; `none` stands for a part that is not valid. -/
def decode : Bytes → List (Option Char)
  | [] => []
  | a :: rest =>
    if a < 0x80 then some (Char.ofNat a.toNat) :: decode rest
    else if isLead2 a then
      match rest with
      | b :: rest' =>
        if isContinuation b then some (Char.ofNat (a.toNat % 32 * 64 + low b)) :: decode rest'
        else none :: decode (b :: rest')
      | [] => [none]
    else if isLead3 a then
      match rest with
      | b :: rest' =>
        if isSecond a b then
          match rest' with
          | c :: rest'' =>
            if isContinuation c then
              some (Char.ofNat ((a.toNat % 16 * 64 + low b) * 64 + low c)) :: decode rest''
            else none :: decode (c :: rest'')
          | [] => [none]
        else none :: decode (b :: rest')
      | [] => [none]
    else if isLead4 a then
      match rest with
      | b :: rest' =>
        if isSecond a b then
          match rest' with
          | c :: rest'' =>
            if isContinuation c then
              match rest'' with
              | d :: rest''' =>
                if isContinuation d then
                  some (Char.ofNat (((a.toNat % 8 * 64 + low b) * 64 + low c) * 64 + low d)) ::
                    decode rest'''
                else none :: decode (d :: rest''')
              | [] => [none]
            else none :: decode (c :: rest'')
          | [] => [none]
        else none :: decode (b :: rest')
      | [] => [none]
    else none :: decode rest

/-- The replacement character. -/
def replacement : Char := Char.ofNat 0xfffd

/-- The text of the bytes, with one replacement character for each part that is not valid. -/
def text (bs : Bytes) : List Char :=
  (decode bs).map (·.getD replacement)

/-- The text of the bytes if all of them are valid. -/
def text? (bs : Bytes) : Option (List Char) :=
  (decode bs).mapM id

/-- The bytes of a text. -/
def encode (s : String) : Bytes :=
  s.toUTF8.data.toList

end BoundaryLint.Text.Utf8
