import SimpleSentence.Text.Basic

/-!
UTF-8 as the standard defines it: shortest forms only, no surrogates, nothing
above U+10FFFF. A failed reading reports how many bytes were read as whole
characters before the first byte that cannot be part of one.
-/

namespace SimpleSentence.Utf8

def encodeChar (char : Char) : Bytes :=
  let code := char.toNat
  if code < 0x80 then [.ofNat code]
  else if code < 0x800 then [.ofNat (0xC0 + code / 64), .ofNat (0x80 + code % 64)]
  else if code < 0x10000 then
    [.ofNat (0xE0 + code / 4096), .ofNat (0x80 + code / 64 % 64), .ofNat (0x80 + code % 64)]
  else
    [.ofNat (0xF0 + code / 262144), .ofNat (0x80 + code / 4096 % 64),
      .ofNat (0x80 + code / 64 % 64), .ofNat (0x80 + code % 64)]

def encode : Text → Bytes
  | [] => []
  | char :: rest => encodeChar char ++ encode rest

def isTail (byte : UInt8) : Bool := 0x80 ≤ byte.toNat && byte.toNat ≤ 0xBF

def codeOfTwo (lead second : UInt8) : Nat :=
  (lead.toNat - 0xC0) * 64 + (second.toNat - 0x80)

def codeOfThree (lead second third : UInt8) : Nat :=
  (lead.toNat - 0xE0) * 4096 + (second.toNat - 0x80) * 64 + (third.toNat - 0x80)

def codeOfFour (lead second third fourth : UInt8) : Nat :=
  (lead.toNat - 0xF0) * 262144 + (second.toNat - 0x80) * 4096 +
    (third.toNat - 0x80) * 64 + (fourth.toNat - 0x80)

def isTwo (lead second : UInt8) : Bool :=
  0xC2 ≤ lead.toNat && lead.toNat ≤ 0xDF && isTail second

def isThree (lead second third : UInt8) : Bool :=
  0xE0 ≤ lead.toNat && lead.toNat ≤ 0xEF && isTail second && isTail third &&
    let code := codeOfThree lead second third
    0x800 ≤ code && (code < 0xD800 || 0xDFFF < code)

def isFour (lead second third fourth : UInt8) : Bool :=
  0xF0 ≤ lead.toNat && lead.toNat ≤ 0xF4 && isTail second && isTail third && isTail fourth &&
    let code := codeOfFour lead second third fourth
    0x10000 ≤ code && code ≤ 0x10FFFF

/-- Puts a character of `size` bytes before a reading of the rest. -/
def extend (code size : Nat) : Except Nat Text → Except Nat Text
  | .ok text => .ok (Char.ofNat code :: text)
  | .error valid => .error (size + valid)

def decode : Bytes → Except Nat Text
  | [] => .ok []
  | lead :: afterLead =>
      if lead.toNat < 0x80 then extend lead.toNat 1 (decode afterLead)
      else match afterLead with
        | [] => .error 0
        | second :: afterSecond =>
            if isTwo lead second then extend (codeOfTwo lead second) 2 (decode afterSecond)
            else match afterSecond with
              | [] => .error 0
              | third :: afterThird =>
                  if isThree lead second third then
                    extend (codeOfThree lead second third) 3 (decode afterThird)
                  else match afterThird with
                    | [] => .error 0
                    | fourth :: afterFourth =>
                        if isFour lead second third fourth then
                          extend (codeOfFour lead second third fourth) 4 (decode afterFourth)
                        else .error 0

theorem encode_append (first second : Text) :
    encode (first ++ second) = encode first ++ encode second := by
  induction first with
  | nil => rfl
  | cons char rest ih => simp [encode, ih]

end SimpleSentence.Utf8
