import SeriesCatalog.Text.Point

/-! From bytes to text. A document travels as UTF-8, UTF-16 or UTF-32 of either byte order. A byte order
mark at the start says which; without one the zero bytes among the first four do, since a JSON document
starts with an ASCII character. Surrogates are let through in every layout. In UTF-16 two that belong together
are one character; in the others each stays a code point of its own. -/

namespace SeriesCatalog.Text

/-- The ways a text is laid out in bytes. -/
inductive Encoding where
  | utf8
  | utf16 (bigEndian : Bool)
  | utf32 (bigEndian : Bool)
  deriving DecidableEq

/-- A byte that continues a UTF-8 character, without its two leading bits. -/
def tailBits? (b : UInt8) : Option Nat :=
  if 0x80 ≤ b ∧ b ≤ 0xBF then some (b.toNat - 0x80) else none

/-- The numbers of the code points of UTF-8 bytes: no overlong form, nothing past the last code point, no loose
byte. -/
def units8? : List UInt8 → Option (List Nat)
  | [] => some []
  | a :: rest =>
    if a < 0x80 then (units8? rest).map (a.toNat :: ·)
    else
      match rest with
      | [] => none
      | b :: rest =>
        if a < 0xC2 then none
        else if a < 0xE0 then
          match tailBits? b with
          | some y => (units8? rest).map (((a.toNat - 0xC0) * 64 + y) :: ·)
          | none => none
        else
          match rest with
          | [] => none
          | c :: rest =>
            if a < 0xF0 then
              match tailBits? b, tailBits? c with
              | some y, some z =>
                if a = 0xE0 ∧ b < 0xA0 then none
                else (units8? rest).map (((a.toNat - 0xE0) * 4096 + y * 64 + z) :: ·)
              | _, _ => none
            else
              match rest with
              | [] => none
              | d :: rest =>
                match tailBits? b, tailBits? c, tailBits? d with
                | some x, some y, some z =>
                  if 0xF4 < a ∨ (a = 0xF0 ∧ b < 0x90) ∨ (a = 0xF4 ∧ 0x8F < b) then none
                  else
                    (units8? rest).map
                      (((a.toNat - 0xF0) * 262144 + x * 4096 + y * 64 + z) :: ·)
                | _, _, _ => none

def units16? (bigEndian : Bool) : List UInt8 → Option (List Nat)
  | [] => some []
  | [_] => none
  | a :: b :: rest =>
    let unit := if bigEndian then a.toNat * 256 + b.toNat else b.toNat * 256 + a.toNat
    (units16? bigEndian rest).map (unit :: ·)

def units32? (bigEndian : Bool) : List UInt8 → Option (List Nat)
  | [] => some []
  | a :: b :: c :: d :: rest =>
    let n :=
      if bigEndian then ((a.toNat * 256 + b.toNat) * 256 + c.toNat) * 256 + d.toNat
      else ((d.toNat * 256 + c.toNat) * 256 + b.toNat) * 256 + a.toNat
    if n < 0x110000 then (units32? bigEndian rest).map (n :: ·) else none
  | _ => none

/-- The encoding of a document, and its bytes without the mark. -/
def detect : List UInt8 → Encoding × List UInt8
  | 0x00 :: 0x00 :: 0xFE :: 0xFF :: rest => (.utf32 true, rest)
  | 0xFF :: 0xFE :: 0x00 :: 0x00 :: rest => (.utf32 false, rest)
  | 0xFE :: 0xFF :: rest => (.utf16 true, rest)
  | 0xFF :: 0xFE :: rest => (.utf16 false, rest)
  | 0xEF :: 0xBB :: 0xBF :: rest => (.utf8, rest)
  | bytes@(a :: b :: c :: d :: _) =>
    if a = 0 then (if b = 0 then .utf32 true else .utf16 true, bytes)
    else if b = 0 then (if c = 0 ∧ d = 0 then .utf32 false else .utf16 false, bytes)
    else (.utf8, bytes)
  | [a, b] => (if a = 0 then .utf16 true else if b = 0 then .utf16 false else .utf8, [a, b])
  | bytes => (.utf8, bytes)

def ofBytes? (bytes : List UInt8) : Option (List Point) :=
  match detect bytes with
  | (.utf8, body) => (units8? body).map (·.map Point.ofNat)
  | (.utf16 bigEndian, body) => (units16? bigEndian body).map fun units => joinUnits (units.map (⟨.ofNat ·, true⟩))
  | (.utf32 bigEndian, body) => (units32? bigEndian body).map (·.map Point.ofNat)

end SeriesCatalog.Text
