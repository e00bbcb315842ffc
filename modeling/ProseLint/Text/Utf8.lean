/-
Bytes and the characters they spell in UTF-8. `decode` answers one symbol for each character and
`none` for each stretch of bytes that starts a character but does not finish it, or starts none.
-/
namespace ProseLint.Text

/-- The character of a code point, or the replacement character where there is none. -/
def charOr (n : Nat) : Char :=
  if h : n.isValidChar then Char.ofNatAux n h else '\ufffd'

def isContinuation (b : UInt8) : Bool := 0x80 ≤ b && b ≤ 0xBF

def sixBits (b : UInt8) : Nat := b.toNat % 64

/-- Whether `b` may follow the first byte `a` of a character of two bytes or more. -/
def follows (a b : UInt8) : Bool :=
  if a = 0xE0 then 0xA0 ≤ b && b ≤ 0xBF
  else if a = 0xED then 0x80 ≤ b && b ≤ 0x9F
  else if a = 0xF0 then 0x90 ≤ b && b ≤ 0xBF
  else if a = 0xF4 then 0x80 ≤ b && b ≤ 0x8F
  else isContinuation b

/-- The characters that bytes spell, with `none` for what spells none. -/
def decode : List UInt8 → List (Option Char)
  | [] => []
  | a :: rest =>
    if a < 0x80 then some (charOr a.toNat) :: decode rest
    else match rest with
      | [] => [none]
      | b :: rest' =>
        if 0xC2 ≤ a && a ≤ 0xDF && isContinuation b then
          some (charOr (a.toNat % 32 * 64 + sixBits b)) :: decode rest'
        else if 0xE0 ≤ a && a ≤ 0xEF && follows a b then
          match rest' with
          | [] => [none]
          | c :: rest'' =>
            if isContinuation c then
              some (charOr ((a.toNat % 16 * 64 + sixBits b) * 64 + sixBits c)) :: decode rest''
            else none :: decode (c :: rest'')
        else if 0xF0 ≤ a && a ≤ 0xF4 && follows a b then
          match rest' with
          | [] => [none]
          | c :: rest'' =>
            if isContinuation c then
              match rest'' with
              | [] => [none]
              | d :: rest''' =>
                if isContinuation d then
                  some (charOr (((a.toNat % 8 * 64 + sixBits b) * 64 + sixBits c) * 64 + sixBits d))
                    :: decode rest'''
                else none :: decode (d :: rest''')
            else none :: decode (c :: rest'')
        else none :: decode (b :: rest')

def textOf? (bytes : List UInt8) : Option String :=
  (decode bytes).mapM id |>.map String.ofList

def textOrReplaced (bytes : List UInt8) : String :=
  String.ofList ((decode bytes).map (·.getD '\ufffd'))

def encode (text : String) : List UInt8 := text.toList.flatMap String.utf8EncodeChar

end ProseLint.Text
